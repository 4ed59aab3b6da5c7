import LayerSeparation.Proofs.InPlace
import LayerSeparation.Proofs.Refinement

/-! A fault of one call of an axis. A layer on a bench with the fault goes as it does without it up to that
call, which is its last, and nothing but the count and the record of calls shows that the call was made. A
fault of a call that is not made shows nowhere. -/
namespace LayerSeparation

def Occurrence.addresses (axis : Axis) : Occurrence → Bool
  | .sent c _ => c.axis = some axis
  | .polled _ => false

def Machine.after {σ : Type} (m : Machine σ) : σ → List Occurrence → σ
  | w, [] => w
  | w, .sent c _ :: log => m.after (m.perform c w).2 log
  | w, .polled _ :: log => m.after (m.abortRequested w).2 log

section
variable {σ : Type} {m : Machine σ} {t u : Script} {start phase last : Phase} {world final : σ}
  {turns : List Turn}

theorem Machine.after_append (w : σ) (log log' : List Occurrence) :
    m.after w (log ++ log') = m.after (m.after w log) log' := by
  induction log generalizing w with
  | nil => rfl
  | cons o log ih => cases o <;> exact ih _

theorem Machine.after_entry {polled : σ} (unasked : m.poll last phase final = (false, polled)) :
    m.after final (entry last phase) = polled := by
  unfold Machine.poll at unasked
  by_cases same : phase = last
  · rw [if_pos same] at unasked
    rw [entry, if_pos same]
    exact congrArg Prod.snd unasked
  · rw [if_neg same] at unasked
    rw [entry, if_neg same]
    exact congrArg Prod.snd unasked

theorem Machine.Performs.after_watched (h : m.Performs phase world turns last final) :
    m.after world (watched phase (turns.map Turn.call)) = final := by
  induction h with
  | refl phase world => rfl
  | turn unasked answered rest ih =>
    rw [List.map_cons, Turn.call, watched, after_append, after_entry unasked]
    simp only [Turn.occurrence, after, answered]
    exact ih

theorem Machine.Performs.watched_append (h : m.Performs phase world turns last final)
    (more : List (Phase × Occurrence)) :
    watched phase (turns.map Turn.call ++ more) =
      watched phase (turns.map Turn.call) ++ watched last more := by
  induction h with
  | refl phase world => rfl
  | turn unasked answered rest ih =>
    simp only [List.map_cons, List.cons_append, Turn.call, watched, List.append_assoc] at ih ⊢
    rw [ih]

theorem countP_entry (axis : Axis) (entered phase : Phase) :
    (entry entered phase).countP (Occurrence.addresses axis) = 0 := by
  unfold entry
  split <;> rfl

/- The record of turns and of nothing else counts as the turns do. -/
theorem countP_watched (axis : Axis) (entered : Phase) (turns : List Turn) :
    (watched entered (turns.map Turn.call)).countP (Occurrence.addresses axis) =
      turns.countP fun x => x.occurrence.addresses axis := by
  induction turns generalizing entered with
  | nil => rfl
  | cons x turns ih =>
    rw [List.map_cons, Turn.call, watched, List.countP_append, countP_entry, List.countP_cons,
      List.countP_cons, ih, Nat.zero_add]

theorem countP_called (axis : Axis) (start : Phase) (turns : List Turn) (last phase : Phase)
    (c : Command) (answer : Except AxisError c.Answer) :
    (watched start (turns.map Turn.call) ++ watched last [(phase, .sent c answer)]).countP
        (Occurrence.addresses axis) =
      (turns.countP fun x => x.occurrence.addresses axis) + if c.axis = some axis then 1 else 0 := by
  have one : (Occurrence.sent c answer).addresses axis = decide (c.axis = some axis) := rfl
  rw [List.countP_append, countP_watched, watched, List.countP_append, countP_entry, Nat.zero_add,
    watched, List.countP_singleton, one]
  simp only [decide_eq_true_eq]

/- The place of the k-th of those that are counted. -/
theorem exists_split_of_lt_countP {α : Type} {p : α → Bool} {k : Nat} {xs : List α}
    (h : k < xs.countP p) :
    ∃ before x after, xs = before ++ x :: after ∧ p x = true ∧ before.countP p = k := by
  induction xs generalizing k with
  | nil => cases h
  | cons x xs ih =>
    cases hx : p x with
    | true =>
      cases k with
      | zero => exact ⟨[], x, xs, rfl, hx, rfl⟩
      | succ k =>
        rw [List.countP_cons, hx, if_pos rfl] at h
        obtain ⟨before, y, after, rfl, hy, count⟩ := ih (Nat.lt_of_succ_lt_succ h)
        exact ⟨x :: before, y, after, rfl, hy, by rw [List.countP_cons, hx, count, if_pos rfl]⟩
    | false =>
      rw [List.countP_cons, hx, if_neg Bool.false_ne_true, Nat.add_zero] at h
      obtain ⟨before, y, after, rfl, hy, count⟩ := ih h
      refine ⟨x :: before, y, after, rfl, hy, ?_⟩
      rw [List.countP_cons, hx, count, if_neg Bool.false_ne_true, Nat.add_zero]

/-- Where a command is sent: after the turns of a path, which left the record `before` and, when the
abort signal was read, the state `polled`. -/
inductive Machine.Sends (m : Machine σ) (t : Script) (start : Phase) (world : σ) :
    List Occurrence → Phase → Command → σ → Prop where
  | intro {turns : List Turn} {last phase : Phase} {final polled : σ} {c : Command}
      {next : c.Answer → Script} (path : t.Leads turns (.ask phase c next))
      (performs : m.Performs start world turns last final)
      (unasked : m.poll last phase final = (false, polled)) :
      m.Sends t start world (watched start (turns.map Turn.call) ++ entry last phase) phase c polled

theorem Machine.sends_of_turns {axis : Axis} {k : Nat} (path : t.Leads turns u)
    (h : m.Performs start world turns last final)
    (due : k < turns.countP fun x => x.occurrence.addresses axis) :
    ∃ before phase c answer after polled,
      watched start (turns.map Turn.call) = before ++ .sent c answer :: after ∧
      c.axis = some axis ∧ before.countP (Occurrence.addresses axis) = k ∧
      m.Sends t start world before phase c polled := by
  obtain ⟨before, x, after, rfl, addressed, count⟩ := exists_split_of_lt_countP due
  obtain ⟨v, first, rest⟩ := path.split
  obtain ⟨next, here⟩ := rest.head
  have there := first.trans here
  rw [List.append_nil] at there
  obtain ⟨mid, between, performs, later⟩ := performs_append_iff.mp h
  cases later with
  | turn unasked answered _ =>
    refine ⟨_, x.phase, x.command, .ok x.answer, watched x.phase (after.map Turn.call), _, ?_,
      of_decide_eq_true addressed, ?_, .intro there performs unasked⟩
    · rw [List.map_append, performs.watched_append, List.map_cons, Turn.call, watched,
        List.append_assoc]
      rfl
    · rw [List.countP_append, countP_watched, countP_entry, count, Nat.add_zero]

theorem Machine.Sends.after {before : List Occurrence} {c : Command} {polled : σ}
    (h : m.Sends t start world before phase c polled) : m.after world before = polled := by
  cases h with
  | intro path performs unasked => rw [after_append, performs.after_watched, after_entry unasked]

/-- The plan that is fed the answers so far issues the command. -/
theorem Machine.Sends.planned {s : Setup} {before : List Occurrence} {c : Command} {polled : σ}
    (h : m.Sends (.separation s) start world before phase c polled) :
    (s.planned before).getLast? = some (.issued phase c) := by
  cases h with
  | intro path performs unasked =>
    rw [planned_along path, Script.shown, List.getLast?_concat]
    rw [List.filterMap_append, filterMap_watched rfl, filterMap_entry rfl, feedback_called,
      List.append_nil]

end

namespace SimAxis
variable {C : Type}

def bare (a : SimAxis C) : SimAxis C := { a with fault := none, calls := 0, trace := [] }

/-- A call in the presence of a fault. It is counted, and unless the fault is due the call goes as it does
without the fault. -/
structure Faultable {α : Type} (call : SimAxis C → Except AxisError α × SimAxis C) : Prop where
  counts : ∀ a : SimAxis C, a.fault = none → (call a).2.fault = none ∧ (call a).2.calls = a.calls + 1
  spared : ∀ (a : SimAxis C) number error, a.fault = none → number ≠ a.calls →
    call (a.failCall number error) = ((call a).1, (call a).2.failCall number error)
  failed : ∀ (a : SimAxis C) error,
    ∃ a', call (a.failCall a.calls error) = (.error error, a') ∧ a'.bare = a.bare

/- It is enough that the effect of the call does not know about faults. -/
theorem faultable_call {α : Type} (c : Option (AxisCall C))
    {effect : SimAxis C → Except AxisError α × SimAxis C}
    (keeps : ∀ a, (effect a).2.fault = a.fault ∧ (effect a).2.calls = a.calls)
    (blind : ∀ a number error,
      effect (a.failCall number error) = ((effect a).1, (effect a).2.failCall number error)) :
    Faultable fun a => a.call c effect := by
  have free : ∀ a : SimAxis C, a.fault = none → a.call c effect = effect (a.counted c) := by
    intro a none
    refine call_spared fun error some => ?_
    rw [none] at some
    cases some
  constructor
  · intro a none
    obtain ⟨fault, calls⟩ := keeps (a.counted c)
    simp only [free a none]
    exact ⟨fault.trans none, calls⟩
  · intro a number error none other
    have due : ∀ e, (a.failCall number error).fault ≠ some ((a.failCall number error).calls, e) := by
      intro e same
      exact other (Prod.mk.inj (Option.some.inj same)).1
    simp only [free a none, call_spared due]
    exact blind (a.counted c) number error
  · intro a error
    exact ⟨_, call_failed rfl, rfl⟩

theorem faultable_moveTo (c : Option (AxisCall C)) (target : SimAxis C → Int32)
    (blind : ∀ a number error, target (a.failCall number error) = target a) :
    Faultable fun a => a.call c fun a => a.moveTo (target a) := by
  apply faultable_call
  · intro a
    unfold moveTo
    split <;> exact ⟨rfl, rfl⟩
  · intro a number error
    have bounds : (a.failCall number error).inBounds (target a) = a.inBounds (target a) := rfl
    have reach : (a.failCall number error).reach (target a) = a.reach (target a) := rfl
    rw [blind, moveTo, moveTo, bounds, reach]
    split <;> rfl

theorem faultable_setCurve (curve : C) : Faultable (setCurve curve) :=
  faultable_call _ (fun _ => ⟨rfl, rfl⟩) fun _ _ _ => rfl

theorem faultable_moveRelative (steps : Int32) : Faultable (moveRelative (C := C) steps) :=
  faultable_moveTo _ (fun a => Width.sumInt32 a.position steps) fun _ _ _ => rfl

theorem faultable_moveAbsolute (position : Int32) : Faultable (moveAbsolute (C := C) position) :=
  faultable_moveTo _ (fun _ => position) fun _ _ _ => rfl

theorem faultable_readPosition : Faultable (readPosition (C := C)) :=
  faultable_call _ (fun _ => ⟨rfl, rfl⟩) fun _ _ _ => rfl

theorem faultable_queryStall : Faultable (queryStall (C := C)) :=
  faultable_call _ (fun _ => ⟨rfl, rfl⟩) fun _ _ _ => rfl

theorem faultable_home : Faultable (home (C := C)) := by
  apply faultable_call
  · intro a
    dsimp only
    split <;> exact ⟨rfl, rfl⟩
  · intro a number error
    have homings : (a.failCall number error).homings = a.homings := rfl
    simp only [homings]
    split <;> rfl

end SimAxis

namespace Bench
variable {b b' : Bench} {axis : Axis} {number : Nat} {error : AxisError}

def callsOf (b : Bench) : Axis → Nat
  | .tilt => b.tilt.calls
  | .tower => b.tower.calls

def faultOf (b : Bench) : Axis → Option (Nat × AxisError)
  | .tilt => b.tilt.fault
  | .tower => b.tower.fault

/-- The bench with a fault of one call of an axis. Calls are numbered from the first call ever made. -/
def failCall (b : Bench) (axis : Axis) (number : Nat) (error : AxisError) : Bench :=
  match axis with
  | .tilt => { b with tilt := b.tilt.failCall number error }
  | .tower => { b with tower := b.tower.failCall number error }

def bare (b : Bench) : Bench := { b with tilt := b.tilt.bare, tower := b.tower.bare }

theorem now_failCall (b : Bench) (axis : Axis) (number : Nat) (error : AxisError) :
    machine.now (b.failCall axis number error) =
      ((machine.now b).1, (machine.now b).2.failCall axis number error) := by
  have read : ∀ b, machine.now b = b.now := fun _ => rfl
  have times : (b.failCall axis number error).shownTimes = b.shownTimes := by cases axis <;> rfl
  have clock : (b.failCall axis number error).clock = b.clock := by cases axis <;> rfl
  rw [read, read, now, now, times, clock]
  split
  · rfl
  · rfl
  · cases axis <;> rfl

theorem now_failCall_snd (b : Bench) (axis : Axis) (number : Nat) (error : AxisError) :
    (machine.now (b.failCall axis number error)).2 = (machine.now b).2.failCall axis number error := by
  rw [now_failCall]

theorem now_calls (b : Bench) (axis : Axis) :
    (machine.now b).2.callsOf axis = b.callsOf axis ∧
      (machine.now b).2.faultOf axis = b.faultOf axis := by
  obtain ⟨tilt, tower⟩ := now_axes b
  cases axis
  · exact ⟨congrArg SimAxis.calls tilt, congrArg SimAxis.fault tilt⟩
  · exact ⟨congrArg SimAxis.calls tower, congrArg SimAxis.fault tower⟩

theorem poll_failCall (phase entered : Phase) (b : Bench) (axis : Axis) (number : Nat)
    (error : AxisError) : machine.poll phase entered (b.failCall axis number error) =
      ((machine.poll phase entered b).1,
        (machine.poll phase entered b).2.failCall axis number error) := by
  unfold Machine.poll
  split
  · rfl
  · cases axis <;> rfl

theorem poll_calls (phase entered : Phase) (b : Bench) (axis : Axis) :
    (machine.poll phase entered b).2.callsOf axis = b.callsOf axis ∧
      (machine.poll phase entered b).2.faultOf axis = b.faultOf axis := by
  unfold Machine.poll
  split
  · exact ⟨rfl, rfl⟩
  · cases axis <;> exact ⟨rfl, rfl⟩

inductive Served : (c : Command) → (Bench → Except AxisError c.Answer × Bench) → Prop where
  | tilt {c : Command} {call : SimAxis TiltCurve → Except AxisError c.Answer × SimAxis TiltCurve}
      (addressed : c.axis = some .tilt) (faultable : SimAxis.Faultable call) : Served c (onTilt call)
  | tower {c : Command} {call : SimAxis TowerCurve → Except AxisError c.Answer × SimAxis TowerCurve}
      (addressed : c.axis = some .tower) (faultable : SimAxis.Faultable call) : Served c (onTower call)
  | clock {c : Command} (answer : Except AxisError c.Answer) (call : SimClock → SimClock)
      (unaddressed : c.axis = none) : Served c fun b => (answer, { b with clock := call b.clock })

theorem served_perform (c : Command) : Served c (machine.perform c) := by
  cases c with
  | setTiltCurve curve => exact .tilt (c := .setTiltCurve curve) rfl (SimAxis.faultable_setCurve curve)
  | setTowerCurve curve =>
    exact .tower (c := .setTowerCurve curve) rfl (SimAxis.faultable_setCurve curve)
  | moveRelative axis steps =>
    cases axis with
    | tilt => exact .tilt (c := .moveRelative .tilt steps) rfl (SimAxis.faultable_moveRelative steps)
    | tower => exact .tower (c := .moveRelative .tower steps) rfl (SimAxis.faultable_moveRelative steps)
  | moveAbsolute axis position =>
    cases axis with
    | tilt =>
      exact .tilt (c := .moveAbsolute .tilt position) rfl (SimAxis.faultable_moveAbsolute position)
    | tower =>
      exact .tower (c := .moveAbsolute .tower position) rfl (SimAxis.faultable_moveAbsolute position)
  | readPosition axis =>
    cases axis with
    | tilt => exact .tilt (c := .readPosition .tilt) rfl SimAxis.faultable_readPosition
    | tower => exact .tower (c := .readPosition .tower) rfl SimAxis.faultable_readPosition
  | queryStall axis =>
    cases axis with
    | tilt => exact .tilt (c := .queryStall .tilt) rfl SimAxis.faultable_queryStall
    | tower => exact .tower (c := .queryStall .tower) rfl SimAxis.faultable_queryStall
  | home axis =>
    cases axis with
    | tilt => exact .tilt (c := .home .tilt) rfl SimAxis.faultable_home
    | tower => exact .tower (c := .home .tower) rfl SimAxis.faultable_home
  | wait ms => exact .clock (c := .wait ms) (.ok ()) (fun clock => clock.delayMs ms) rfl

section
variable {c : Command} {f : Bench → Except AxisError c.Answer × Bench}

theorem Served.counts (h : Served c f) (clean : b.faultOf axis = none) :
    (f b).2.faultOf axis = none ∧
      (f b).2.callsOf axis = b.callsOf axis + if c.axis = some axis then 1 else 0 := by
  cases h with
  | tilt addressed faultable =>
    rw [addressed]
    cases axis with
    | tilt => exact faultable.counts b.tilt clean
    | tower => exact ⟨clean, rfl⟩
  | tower addressed faultable =>
    rw [addressed]
    cases axis with
    | tilt => exact ⟨clean, rfl⟩
    | tower => exact faultable.counts b.tower clean
  | clock answer call unaddressed =>
    rw [unaddressed]
    cases axis <;> exact ⟨clean, rfl⟩

theorem Served.signal (h : Served c f) (b : Bench) : (f b).2.abort = b.abort := by
  cases h <;> rfl

theorem Served.spared (h : Served c f) (clean : b.faultOf axis = none)
    (other : c.axis = some axis → number ≠ b.callsOf axis) :
    f (b.failCall axis number error) = ((f b).1, (f b).2.failCall axis number error) := by
  cases h with
  | tilt addressed faultable =>
    cases axis with
    | tilt =>
      have same := faultable.spared b.tilt number error clean (other addressed)
      simp only [onTilt, failCall, same]
    | tower => rfl
  | tower addressed faultable =>
    cases axis with
    | tilt => rfl
    | tower =>
      have same := faultable.spared b.tower number error clean (other addressed)
      simp only [onTower, failCall, same]
  | clock answer call unaddressed => cases axis <;> rfl

theorem Served.failed (h : Served c f) (due : c.axis = some axis) (error : AxisError) :
    ∃ b', f (b.failCall axis (b.callsOf axis) error) = (.error error, b') ∧ b'.bare = b.bare := by
  cases h with
  | tilt addressed faultable =>
    rw [addressed] at due
    cases due
    obtain ⟨tilt, refused, same⟩ := faultable.failed b.tilt error
    refine ⟨{ b with tilt }, ?_, ?_⟩
    · simp only [onTilt, failCall, callsOf, refused]
    · simp only [bare, same]
  | tower addressed faultable =>
    rw [addressed] at due
    cases due
    obtain ⟨tower, refused, same⟩ := faultable.failed b.tower error
    refine ⟨{ b with tower }, ?_, ?_⟩
    · simp only [onTower, failCall, callsOf, refused]
    · simp only [bare, same]
  | clock answer call unaddressed =>
    rw [unaddressed] at due
    cases due

end

/-- Turns that are performed before the fault is due are performed in its presence, and counted. -/
theorem performs_failCall {phase last : Phase} {turns : List Turn} (number : Nat) (error : AxisError)
    (h : machine.Performs phase b turns last b') (clean : b.faultOf axis = none)
    (few : b.callsOf axis + turns.countP (fun x => x.occurrence.addresses axis) ≤ number) :
    machine.Performs phase (b.failCall axis number error) turns last
        (b'.failCall axis number error) ∧
      b'.faultOf axis = none ∧
      b'.callsOf axis = b.callsOf axis + turns.countP fun x => x.occurrence.addresses axis := by
  induction h with
  | refl phase b => exact ⟨.refl _ _, clean, rfl⟩
  | @turn phase last b polled performed b' x turns unasked answered rest ih =>
    have entered := poll_calls phase x.phase b axis
    rw [unasked] at entered
    have counts := (served_perform x.command).counts (entered.2.trans clean)
    rw [answered, entered.1] at counts
    have one : x.occurrence.addresses axis = decide (x.command.axis = some axis) := rfl
    rw [List.countP_cons, one] at few ⊢
    simp only [decide_eq_true_eq] at few ⊢
    have other : x.command.axis = some axis → number ≠ polled.callsOf axis := by
      intro addressed
      rw [if_pos addressed] at few
      rw [entered.1]
      omega
    obtain ⟨performs, fault, calls⟩ := ih counts.1 (by rw [counts.2]; omega)
    have entering := poll_failCall phase x.phase b axis number error
    have performing : machine.perform x.command (polled.failCall axis number error) = _ :=
      (served_perform x.command).spared (entered.2.trans clean) other
    rw [unasked] at entering
    rw [answered] at performing
    refine ⟨.turn entering performing performs, fault, ?_⟩
    rw [calls, counts.2]
    omega

/- No call changes what the abort signal will answer. -/
theorem abort_of_performs {phase last : Phase} {turns : List Turn}
    (h : machine.Performs phase b turns last b') : b'.abort = b.abort :=
  h.preserves (I := fun w : Bench => w.abort = b.abort) (fun _ kept => kept)
    (fun x _ w kept => ((served_perform x.command).signal w).trans kept) rfl

theorem now_abort (b : Bench) : (machine.now b).2.abort = b.abort := by
  have same : machine.now b = b.now := rfl
  rw [same, now]
  split <;> rfl

theorem unasked_of_performs {phase last entered : Phase} {turns : List Turn} {polled : Bench}
    (quiet : ∀ n, b.abort n = false) (h : machine.Performs phase (machine.now b).2 turns last b') :
    machine.poll last entered b' ≠ (true, polled) := by
  intro asked
  unfold Machine.poll at asked
  split at asked
  · cases asked
  · have read : (b'.abort b'.polls) = true := congrArg Prod.fst asked
    rw [abort_of_performs h, now_abort, quiet] at read
    cases read

end Bench

namespace Separator
variable {sep : Separator} {area : Float32} {nextLayerNm : Int32} {s : Setup} {b : Bench} {axis : Axis}
  {k : Nat} {error : AxisError}

theorem record_of_quiet
    (accepted : Setup.resolve sep.table (sep.exposure.select area) sep.geometry nextLayerNm = .ok s)
    (quiet : ∀ n, b.abort n = false) :
    ∃ turns u last final, (Script.separation s).Leads turns u ∧
      Bench.machine.Performs sep.phase (Bench.machine.now b).2 turns last final ∧
      (sep.occurrences Bench.machine area nextLayerNm b = watched sep.phase (turns.map Turn.call) ∨
        ∃ phase c next polled refusal, u = .ask phase c next ∧
          Bench.machine.poll last phase final = (false, polled) ∧
          sep.occurrences Bench.machine area nextLayerNm b =
            watched sep.phase (turns.map Turn.call) ++
              watched last [(phase, .sent c (.error refusal))]) := by
  obtain ⟨turns, u, last, final, path, performs, outcome⟩ := ran_outcome sep s Bench.machine b
  refine ⟨turns, u, last, final, path, performs, ?_⟩
  generalize (sep.ran s Bench.machine b).1 = result at outcome
  generalize (sep.ran s Bench.machine b).2.world = stop at outcome
  cases outcome with
  | done => exact .inl (occurrences_of_performs accepted path performs)
  | failed e => exact .inl (layer_of_failed accepted path performs).2
  | cancelled asked => exact absurd asked (Bench.unasked_of_performs quiet performs)
  | @refused phase c next polled _ refusal unasked no =>
    exact .inr ⟨phase, c, next, polled, refusal, rfl, unasked,
      (layer_of_refused accepted path performs unasked no).2⟩

theorem exists_sends
    (accepted : Setup.resolve sep.table (sep.exposure.select area) sep.geometry nextLayerNm = .ok s)
    (quiet : ∀ n, b.abort n = false)
    (due : k < (sep.occurrences Bench.machine area nextLayerNm b).countP (Occurrence.addresses axis)) :
    ∃ before phase c answer after polled,
      sep.occurrences Bench.machine area nextLayerNm b = before ++ .sent c answer :: after ∧
      c.axis = some axis ∧ before.countP (Occurrence.addresses axis) = k ∧
      Bench.machine.Sends (.separation s) sep.phase (Bench.machine.now b).2 before phase c polled := by
  obtain ⟨turns, u, last, final, path, performs, record⟩ := record_of_quiet accepted quiet
  by_cases early : k < turns.countP fun x => x.occurrence.addresses axis
  · obtain ⟨tail, record⟩ : ∃ tail, sep.occurrences Bench.machine area nextLayerNm b =
        watched sep.phase (turns.map Turn.call) ++ tail := by
      rcases record with record | ⟨phase, c, next, polled, refusal, _, _, record⟩
      · exact ⟨[], record.trans (List.append_nil _).symm⟩
      · exact ⟨_, record⟩
    obtain ⟨before, phase, c, answer, after, polled, split, rest⟩ :=
      Machine.sends_of_turns path performs early
    rw [split, List.append_assoc] at record
    exact ⟨before, phase, c, answer, after ++ tail, polled, record, rest⟩
  · rcases record with record | ⟨phase, c, next, polled, refusal, rfl, unasked, record⟩
    · rw [record, countP_watched] at due
      exact absurd due early
    · rw [record, countP_called] at due
      by_cases addressed : c.axis = some axis
      · rw [if_pos addressed] at due
        refine ⟨_, phase, c, _, [], polled, record.trans (List.append_assoc ..).symm, addressed, ?_,
          .intro path performs unasked⟩
        rw [List.countP_append, countP_watched, countP_entry]
        omega
      · rw [if_neg addressed] at due
        exact absurd due early

theorem layer_of_due {before : List Occurrence} {phase : Phase} {c : Command} {polled : Bench}
    (accepted : Setup.resolve sep.table (sep.exposure.select area) sep.geometry nextLayerNm = .ok s)
    (clean : b.faultOf axis = none) (addressed : c.axis = some axis)
    (count : before.countP (Occurrence.addresses axis) = k)
    (sends : Bench.machine.Sends (.separation s) sep.phase (Bench.machine.now b).2 before phase c polled)
    (error : AxisError) :
    let faulty := b.failCall axis (b.callsOf axis + k) error
    (sep.separateLayer Bench.machine area nextLayerNm faulty).1 =
        .error (.axisCommandFailure axis phase error) ∧
      sep.occurrences Bench.machine area nextLayerNm faulty = before ++ [.sent c (.error error)] ∧
      (sep.separateLayer Bench.machine area nextLayerNm faulty).2.2.bare = polled.bare := by
  cases sends with
  | @intro turns last _ final _ _ next path performs unasked =>
    rw [List.countP_append, countP_watched, countP_entry, Nat.add_zero] at count
    obtain ⟨startCalls, startFault⟩ := Bench.now_calls b axis
    obtain ⟨performs', fault, calls⟩ := Bench.performs_failCall (b.callsOf axis + k) error performs
      (startFault.trans clean) (by omega)
    have entered := Bench.poll_calls last phase final axis
    have entering := Bench.poll_failCall last phase final axis (b.callsOf axis + k) error
    rw [unasked] at entered entering
    have due : polled.callsOf axis = b.callsOf axis + k := by
      rw [entered.1, calls, startCalls, count]
    obtain ⟨stop, refused, same⟩ := (Bench.served_perform c).failed addressed error
    rw [due] at refused
    rw [← Bench.now_failCall_snd] at performs'
    obtain ⟨run, record⟩ := layer_of_refused accepted path performs' entering refused
    rw [addressed, Option.getD_some] at run
    refine ⟨by rw [run], ?_, by rw [run]; exact same⟩
    rw [record, List.append_assoc]
    rfl

theorem layer_of_spared
    (accepted : Setup.resolve sep.table (sep.exposure.select area) sep.geometry nextLayerNm = .ok s)
    (quiet : ∀ n, b.abort n = false) (clean : b.faultOf axis = none)
    (few : (sep.occurrences Bench.machine area nextLayerNm b).countP (Occurrence.addresses axis) ≤ k)
    (error : AxisError) :
    let faulty := b.failCall axis (b.callsOf axis + k) error
    let run := sep.separateLayer Bench.machine area nextLayerNm b
    sep.separateLayer Bench.machine area nextLayerNm faulty =
        (run.1, run.2.1, run.2.2.failCall axis (b.callsOf axis + k) error) ∧
      sep.occurrences Bench.machine area nextLayerNm faulty =
        sep.occurrences Bench.machine area nextLayerNm b := by
  intro faulty run
  obtain ⟨turns, u, last, final, path, performs, outcome⟩ := ran_outcome sep s Bench.machine b
  obtain ⟨startCalls, startFault⟩ := Bench.now_calls b axis
  -- the turns of the layer are performed in the presence of the fault if it is not due among them
  have spared : (turns.countP fun x => x.occurrence.addresses axis) ≤ k → _ := fun below =>
    Bench.performs_failCall (b.callsOf axis + k) error performs (startFault.trans clean) (by omega)
  rw [← Bench.now_failCall_snd] at spared
  generalize (sep.ran s Bench.machine b).1 = result at outcome
  generalize (sep.ran s Bench.machine b).2.world = stop at outcome
  cases outcome with
  | done =>
    have record := occurrences_of_performs accepted path performs
    rw [record, countP_watched] at few
    obtain ⟨performs', _⟩ := spared few
    have same : run = _ := separateLayer_of_performs accepted path performs
    refine ⟨?_, (occurrences_of_performs accepted path performs').trans record.symm⟩
    rw [same, separateLayer_of_performs accepted path performs']
    simp only [Bench.now_failCall]
  | failed e =>
    obtain ⟨same, record⟩ := layer_of_failed accepted path performs
    rw [record, countP_watched] at few
    obtain ⟨performs', _⟩ := spared few
    obtain ⟨same', record'⟩ := layer_of_failed accepted path performs'
    refine ⟨?_, record'.trans record.symm⟩
    rw [same', show run = _ from same]
  | cancelled asked => exact absurd asked (Bench.unasked_of_performs quiet performs)
  | @refused phase c next polled _ refusal unasked no =>
    obtain ⟨same, record⟩ := layer_of_refused accepted path performs unasked no
    rw [record, countP_called] at few
    obtain ⟨performs', fault, calls⟩ := spared (by omega)
    have entered := Bench.poll_calls last phase final axis
    have entering := Bench.poll_failCall last phase final axis (b.callsOf axis + k) error
    rw [unasked] at entered entering
    have other : c.axis = some axis → b.callsOf axis + k ≠ polled.callsOf axis := by
      intro addressed
      rw [if_pos addressed] at few
      rw [entered.1, calls, startCalls]
      omega
    have no' : Bench.machine.perform c (polled.failCall axis (b.callsOf axis + k) error) = _ :=
      (Bench.served_perform c).spared (entered.2.trans fault) other
    rw [no] at no'
    obtain ⟨same', record'⟩ := layer_of_refused accepted path performs' entering no'
    refine ⟨?_, record'.trans record.symm⟩
    rw [same', show run = _ from same]

/-- A fault of a call cuts a layer short at that call. The result tells the axis, the phase in which the
plan issues the command and the error; the calls before are those of the layer without the fault, and so is
what they did to the bench. A fault of a call that the layer does not make shows nowhere. -/
theorem fault_law
    (accepted : Setup.resolve sep.table (sep.exposure.select area) sep.geometry nextLayerNm = .ok s)
    (quiet : ∀ n, b.abort n = false) (clean : ∀ axis, b.faultOf axis = none) (axis : Axis) (k : Nat)
    (error : AxisError) :
    let run := sep.separateLayer Bench.machine area nextLayerNm b
    let log := sep.occurrences Bench.machine area nextLayerNm b
    let number := b.callsOf axis + k
    let run' := sep.separateLayer Bench.machine area nextLayerNm (b.failCall axis number error)
    let log' := sep.occurrences Bench.machine area nextLayerNm (b.failCall axis number error)
    (k < log.countP (Occurrence.addresses axis) → ∃ before phase c answer after,
      log = before ++ .sent c answer :: after ∧ c.axis = some axis ∧
      before.countP (Occurrence.addresses axis) = k ∧
      (s.planned before).getLast? = some (.issued phase c) ∧
      run'.1 = .error (.axisCommandFailure axis phase error) ∧
      log' = before ++ [.sent c (.error error)] ∧
      run'.2.2.bare = (Bench.machine.after (Bench.machine.now b).2 before).bare) ∧
    (log.countP (Occurrence.addresses axis) ≤ k →
      run' = (run.1, run.2.1, run.2.2.failCall axis number error) ∧ log' = log) := by
  refine ⟨fun due => ?_, fun few => layer_of_spared accepted quiet (clean axis) few error⟩
  obtain ⟨before, phase, c, answer, after, polled, split, addressed, count, sends⟩ :=
    exists_sends accepted quiet due
  obtain ⟨result, record, state⟩ := layer_of_due accepted (clean axis) addressed count sends error
  rw [← sends.after] at state
  exact ⟨before, phase, c, answer, after, split, addressed, count, sends.planned, result, record, state⟩

/- The second homing that frees the tilt fails; the tower is not called a fourth time. -/
theorem fault_law_sample :
    (∀ axis, stuckBench.faultOf axis = none) ∧
    (∃ before phase c answer after,
      sample.occurrences Bench.machine 1 50000 stuckBench = before ++ .sent c answer :: after ∧
      before.countP (Occurrence.addresses .tilt) = 8 ∧
      (sample.separateLayer Bench.machine 1 50000 (stuckBench.failCall .tilt 8 .driverFault)).1 =
        .error (.axisCommandFailure .tilt phase .driverFault) ∧
      sample.occurrences Bench.machine 1 50000 (stuckBench.failCall .tilt 8 .driverFault) =
        before ++ [.sent c (.error .driverFault)]) ∧
    sample.occurrences Bench.machine 1 50000 (stuckBench.failCall .tower 3 .notHomed) =
      sample.occurrences Bench.machine 1 50000 stuckBench := by
  have clean : ∀ axis, stuckBench.faultOf axis = none := by
    intro axis
    cases axis <;> rfl
  have record : sample.occurrences Bench.machine 1 50000 stuckBench =
      (sample.ran .sample Bench.machine.recorded (stuckBench, [])).2.world.2 :=
    occurrences_of_ran _ _ (accepted_sample 1)
  have tilted : 8 < (sample.occurrences Bench.machine 1 50000 stuckBench).countP
      (Occurrence.addresses .tilt) := by
    rw [record]
    decide +kernel
  have towered : (sample.occurrences Bench.machine 1 50000 stuckBench).countP
      (Occurrence.addresses .tower) ≤ 3 := by
    rw [record]
    decide +kernel
  obtain ⟨before, phase, c, answer, after, split, _, count, _, result, log, _⟩ :=
    (fault_law (accepted_sample 1) (fun _ => rfl) clean .tilt 8 .driverFault).1 tilted
  exact ⟨clean, ⟨before, phase, c, answer, after, split, count, result, log⟩,
    ((fault_law (accepted_sample 1) (fun _ => rfl) clean .tower 3 .notHomed).2 towered).2⟩

end Separator
end LayerSeparation
