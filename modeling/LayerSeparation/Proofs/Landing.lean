import LayerSeparation.Proofs.Axes
import LayerSeparation.Proofs.Path

/-! Where a script leaves the tilt. Nothing blocks the tilt and every homing finds the stop, so its
position can be followed along the script; the tower may do anything, and a request to stop may come on
the entry of any phase. A move beyond the stops is refused. -/
namespace LayerSeparation

def BetweenStops (p : Int32) : Prop := 0 ≤ p.toInt ∧ p.toInt ≤ topStopSteps

instance (p : Int32) : Decidable (BetweenStops p) := inferInstanceAs (Decidable (_ ∧ _))

theorem betweenStops_zero : BetweenStops 0 := by decide

theorem betweenStops_iff {p : Int32} : BetweenStops p ↔ 0 ≤ p.toInt ∧ p.toInt ≤ 6016 := Iff.rfl

theorem betweenStops_ofInt {n : Int} (low : 0 ≤ n) (high : n ≤ 6016) :
    (Int32.ofInt n).toInt = n ∧ BetweenStops (Int32.ofInt n) := by
  have word : (Int32.ofInt n).toInt = n := Int32.toInt_ofInt_of_le (by omega) (by omega)
  refine ⟨word, betweenStops_iff.mpr ?_⟩
  rw [word]
  exact ⟨low, high⟩

namespace Command

/-- Where the tilt stands after a command if it stood at `p` and can get there. -/
def bringsTilt (p : Int32) : Command → Int32
  | .moveRelative .tilt steps => Width.sumInt32 p steps
  | .moveAbsolute .tilt position => position
  | .home .tilt => 0
  | _ => p

/-- Answers of a tilt at `p` whose homings find the stop. The tower may answer anything. -/
def Expects (p : Int32) : (c : Command) → c.Answer → Prop
  | .readPosition .tilt, x => x = p
  | .home .tilt, found => found = true
  | _, _ => True

theorem bringsTilt_of_tower {c : Command} (h : c.axis = some .tower) (p : Int32) :
    c.bringsTilt p = p := by
  cases c with
  | setTiltCurve curve => cases h
  | setTowerCurve curve => rfl
  | wait ms => cases h
  | _ =>
    cases h
    rfl

theorem expects_of_tower {c : Command} (h : c.axis = some .tower) (p : Int32) (a : c.Answer) :
    c.Expects p a := by
  cases c with
  | setTiltCurve curve => cases h
  | setTowerCurve curve => trivial
  | wait ms => cases h
  | _ =>
    cases h
    trivial

end Command

abbrev Landing := Except SeparationError Unit → Int32 → Prop

namespace Script

/-- Whatever is answered, the script comes to an end that is listed, if the tilt stood at `p`. A request to
stop brings the tilt to `safe`. -/
def Lands (safe : Int32 → Int32) (ends : Landing) : Script → Int32 → Prop
  | .done, p => ends (.ok ()) p
  | .fail e, p => ends (.error e) p
  | .recovered rest, p => rest.Lands safe ends p
  | .ask phase c next, p =>
    ends (.error (.cancelled phase)) (safe p) ∧
    (c.axis = some .tower → ∀ e, ends (.error (.axisCommandFailure .tower phase e)) p) ∧
    if BetweenStops (c.bringsTilt p) then
      ∀ a, c.Expects p a → (next a).Lands safe ends (c.bringsTilt p)
    else ends (.error (.axisCommandFailure .tilt phase .outOfBounds)) p

variable {safe : Int32 → Int32} {ends mid : Landing} {t rest : Script} {p : Int32}

theorem Lands.andThen (h : t.Lands safe mid p) (onward : ∀ q, mid (.ok ()) q → rest.Lands safe ends q)
    (failed : ∀ e q, mid (.error e) q → ends (.error e) q) : (t.andThen rest).Lands safe ends p := by
  induction t generalizing p with
  | done => exact onward _ h
  | fail e => exact failed _ _ h
  | recovered t ih => exact ih h
  | ask phase c next ih =>
    obtain ⟨cancelled, refused, later⟩ := h
    refine ⟨failed _ _ cancelled, fun tower e => failed _ _ (refused tower e), ?_⟩
    split at later
    · next inside =>
      rw [if_pos inside]
      exact fun a expected => ih a (later a expected)
    · next outside =>
      rw [if_neg outside]
      exact failed _ _ later

/- A command that is not for the tower and does not lead beyond the stops. -/
theorem lands_onward {phase : Phase} {c : Command} {next : c.Answer → Script} {q : Int32}
    (own : c.axis ≠ some .tower) (cancelled : ends (.error (.cancelled phase)) (safe p))
    (brings : c.bringsTilt p = q) (there : BetweenStops q)
    (onward : ∀ a, c.Expects p a → (next a).Lands safe ends q) :
    (ask phase c next).Lands safe ends p := by
  refine ⟨cancelled, fun tower => absurd tower own, ?_⟩
  rw [brings, if_pos there]
  exact onward

/- A command that leads beyond the stops. -/
theorem lands_refused {phase : Phase} {c : Command} {next : c.Answer → Script}
    (own : c.axis ≠ some .tower) (cancelled : ends (.error (.cancelled phase)) (safe p))
    (beyond : ¬ BetweenStops (c.bringsTilt p))
    (refused : ends (.error (.axisCommandFailure .tilt phase .outOfBounds)) p) :
    (ask phase c next).Lands safe ends p := by
  refine ⟨cancelled, fun tower => absurd tower own, ?_⟩
  rw [if_neg beyond]
  exact refused

end Script

/-- A tilt at `p` that nothing blocks between the stops, whose homings all find the stop. -/
structure SimAxis.Roams (a : SimAxis TiltCurve) (p : Int32) : Prop where
  unlimited : a.Unlimited
  bounds : a.bounds = some (0, 6016)
  homings : ∀ found ∈ a.homings, found = true
  faultless : ∀ number error, a.fault = some (number, error) → number < a.calls
  position : a.position = p

inductive SimAxis.Responds {α : Type} (p q : Int32) (answers : α → Prop) :
    Except AxisError α × SimAxis TiltCurve → Prop where
  | done {x : α} {a : SimAxis TiltCurve} (expected : answers x) (inside : BetweenStops q)
      (roams : a.Roams q) : Responds p q answers (.ok x, a)
  | refused {a : SimAxis TiltCurve} (outside : ¬ BetweenStops q) (roams : a.Roams p) :
      Responds p q answers (.error .outOfBounds, a)

namespace SimAxis.Roams
variable {a : SimAxis TiltCurve} {p : Int32}

theorem counted (h : a.Roams p) (c : Option (AxisCall TiltCurve)) : (a.counted c).Roams p :=
  ⟨h.unlimited.counted c, h.bounds, h.homings,
    fun number error due => Nat.lt_succ_of_lt (h.faultless number error due), h.position⟩

theorem call {α : Type} {q : Int32} {answers : α → Prop} (h : a.Roams p)
    (c : Option (AxisCall TiltCurve))
    {effect : SimAxis TiltCurve → Except AxisError α × SimAxis TiltCurve}
    (acts : ∀ a : SimAxis TiltCurve, a.Roams p → Responds p q answers (effect a)) :
    Responds p q answers (a.call c effect) := by
  rw [call_spared fun error due => Nat.lt_irrefl _ (h.faultless _ _ due)]
  exact acts _ (h.counted c)

theorem moveTo (h : a.Roams p) {target : Int32} (answers : Unit → Prop) (any : answers ()) :
    Responds p target answers (a.moveTo target) := by
  have bottom : (0 : Int32).toInt = 0 := rfl
  have top : (6016 : Int32).toInt = topStopSteps := rfl
  have inside : a.inBounds target = true ↔ BetweenStops target := by
    rw [inBounds, h.bounds, Bool.and_eq_true, decide_eq_true_iff, decide_eq_true_iff,
      Int32.le_iff_toInt_le, Int32.le_iff_toInt_le, bottom, top, BetweenStops]
  unfold SimAxis.moveTo
  by_cases within : BetweenStops target
  · rw [if_pos (inside.mpr within), h.unlimited.reach]
    refine .done any within ⟨⟨h.unlimited.obstruction, h.unlimited.ceiling⟩, h.bounds, h.homings,
      h.faultless, rfl⟩
  · rw [if_neg (mt inside.mp within)]
    exact .refused within h

theorem home (h : a.Roams p) {answers : Bool → Prop} (any : answers true) :
    Responds p 0 answers a.home := by
  refine h.call _ fun a h => ?_
  have found : a.homings.head?.getD true = true := by
    cases hs : a.homings with
    | nil => rfl
    | cons found rest =>
      apply h.homings
      rw [hs]
      exact List.mem_cons_self
  dsimp only
  rw [if_pos found]
  exact .done any betweenStops_zero ⟨⟨rfl, rfl⟩, h.bounds,
    fun found later => h.homings found (List.mem_of_mem_tail later), h.faultless, rfl⟩

end SimAxis.Roams

namespace Bench
variable {b : Bench} {p : Int32}

theorem responds (h : b.tilt.Roams p) (inside : BetweenStops p) (c : Command)
    (own : c.axis ≠ some .tower) : SimAxis.Responds p (c.bringsTilt p) (c.Expects p)
      ((machine.perform c b).1, (machine.perform c b).2.tilt) := by
  cases c with
  | setTiltCurve curve =>
    have responds : SimAxis.Responds p p (fun _ => True) (b.tilt.setCurve curve) :=
      h.call _ fun a h => .done trivial inside
        ⟨⟨h.unlimited.obstruction, h.unlimited.ceiling⟩, h.bounds, h.homings, h.faultless, h.position⟩
    exact responds
  | setTowerCurve curve => exact absurd rfl own
  | moveRelative axis steps =>
    cases axis with
    | tower => exact absurd rfl own
    | tilt =>
      refine h.call _ fun a h => ?_
      rw [h.position]
      exact h.moveTo _ trivial
  | moveAbsolute axis position =>
    cases axis with
    | tower => exact absurd rfl own
    | tilt => exact h.call _ fun a h => h.moveTo _ trivial
  | readPosition axis =>
    cases axis with
    | tower => exact absurd rfl own
    | tilt =>
      have responds : SimAxis.Responds p p (fun x => x = p) b.tilt.readPosition :=
        h.call _ fun a h => .done h.position inside h
      exact responds
  | queryStall axis =>
    cases axis with
    | tower => exact absurd rfl own
    | tilt =>
      have responds : SimAxis.Responds p p (fun _ => True) b.tilt.queryStall :=
        h.call _ fun a h => .done trivial inside
          ⟨⟨h.unlimited.obstruction, h.unlimited.ceiling⟩, h.bounds, h.homings, h.faultless, h.position⟩
      exact responds
  | home axis =>
    cases axis with
    | tower => exact absurd rfl own
    | tilt => exact h.home rfl
  | wait ms =>
    rw [(felt_perform (.wait ms)).spares_tilt nofun b]
    exact .done trivial inside h

theorem execute_lands {safe : Int32 → Int32} {ends : Landing} {makeSafe : Bench → Bench} {t : Script}
    {e : Execution Bench}
    (safely : ∀ w q, BetweenStops q → w.tilt.Roams q →
      BetweenStops (safe q) ∧ (makeSafe w).tilt.Roams (safe q))
    (inside : BetweenStops p) (start : e.world.tilt.Roams p) (h : t.Lands safe ends p) :
    ∃ q, BetweenStops q ∧ ends (t.execute machine makeSafe e).1 q ∧
      (t.execute machine makeSafe e).2.world.tilt.Roams q := by
  induction t generalizing e p with
  | done => exact ⟨p, inside, h, start⟩
  | fail error => exact ⟨p, inside, h, start⟩
  | recovered rest ih => exact ih (e := { e with recoveries := e.recoveries + 1 }) inside start h
  | ask phase c next ih =>
    obtain ⟨cancelled, failed, onward⟩ := h
    rw [Script.execute, Execution.enter_eq]
    cases hp : machine.poll e.phase phase e.world with
    | mk asked polled =>
      have felt : polled.tilt = e.world.tilt := by
        unfold Machine.poll at hp
        split at hp
        · injection hp with _ same
          rw [← same]
        · injection hp with _ same
          rw [← same]
      rw [← felt] at start
      cases asked with
      | true =>
        obtain ⟨there, brought⟩ := safely polled p inside start
        exact ⟨safe p, there, cancelled, brought⟩
      | false =>
        by_cases tower : c.axis = some .tower
        · have still : c.bringsTilt p = p := Command.bringsTilt_of_tower tower p
          have spared := (felt_perform c).spares_tilt (by rw [tower]; decide) polled
          rw [still, if_pos inside] at onward
          rw [← spared] at start
          cases hc : machine.perform c polled with
          | mk answer performed =>
            rw [hc] at start
            cases answer with
            | error error =>
              simp only [hc, tower, Option.getD_some]
              exact ⟨p, inside, failed tower error, start⟩
            | ok a =>
              simp only [hc]
              exact ih a (e := ⟨phase, e.recoveries, performed⟩) inside start
                (onward a (Command.expects_of_tower tower p a))
        · have responds := responds start inside c tower
          cases hc : machine.perform c polled with
          | mk answer performed =>
            rw [hc] at responds
            simp only [hc]
            cases responds with
            | @done a _ expected there roams =>
              rw [if_pos there] at onward
              exact ih a (e := ⟨phase, e.recoveries, performed⟩) there roams (onward a expected)
            | refused outside roams =>
              have addressed : c.axis.getD .tilt = .tilt := by
                cases hx : c.axis with
                | none => rfl
                | some axis =>
                  cases axis with
                  | tilt => rfl
                  | tower => exact absurd hx tower
              rw [if_neg outside] at onward
              rw [addressed]
              exact ⟨p, inside, onward, roams⟩

end Bench

def Setup.safePosition (s : Setup) (p : Int32) : Int32 := if s.tilt.isSome then 0 else p

theorem Bench.makeSafe_roams (s : Setup) {w : Bench} {q : Int32} (inside : BetweenStops q)
    (h : w.tilt.Roams q) :
    BetweenStops (s.safePosition q) ∧ (s.makeSafe machine w).tilt.Roams (s.safePosition q) := by
  unfold Setup.makeSafe Setup.safePosition
  cases s.tilt with
  | none => exact ⟨inside, h⟩
  | some moves =>
    have responds := Bench.responds h inside (.home .tilt) nofun
    have found : (machine.attemptHoming w).1 = true ∧ (machine.attemptHoming w).2.tilt.Roams 0 := by
      have same : machine.perform (.home .tilt) w = machine.tilt.home w := rfl
      rw [same] at responds
      rw [Machine.attemptHoming]
      cases hh : machine.tilt.home w with
      | mk answer performed =>
        rw [hh] at responds
        cases responds with
        | done expected there roams => exact ⟨expected, roams⟩
        | refused outside roams => exact absurd betweenStops_zero outside
    refine ⟨betweenStops_zero, ?_⟩
    dsimp only
    rw [Machine.homeWithin_eq, found.1]
    exact found.2

end LayerSeparation
