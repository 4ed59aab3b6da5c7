import LayerSeparation.Proofs.Tally
import LayerSeparation.Separation.Separator

/-! Successful executions as paths. An execution that succeeds performs the turns of a path through the
whole script, and a machine that performs such turns succeeds. The machine is arbitrary. Every stall
that is counted as resolved is a homing of the tilt that found its stop. -/
namespace LayerSeparation
variable {σ : Type}

def Machine.poll (m : Machine σ) (phase entered : Phase) (world : σ) : Bool × σ :=
  if entered = phase then (false, world) else m.abortRequested world

theorem Execution.enter_eq (e : Execution σ) (m : Machine σ) (phase : Phase) :
    e.enter m phase = ((m.poll e.phase phase e.world).1,
      ⟨phase, e.recoveries, (m.poll e.phase phase e.world).2⟩) := by
  unfold enter Machine.poll
  split
  · next h =>
    subst h
    rfl
  · rfl

inductive Machine.Performs (m : Machine σ) : Phase → σ → List Turn → Phase → σ → Prop where
  | refl (phase : Phase) (world : σ) : m.Performs phase world [] phase world
  | turn {phase last : Phase} {world polled performed final : σ} {x : Turn} {turns : List Turn}
      (unasked : m.poll phase x.phase world = (false, polled))
      (answered : m.perform x.command polled = (.ok x.answer, performed))
      (rest : m.Performs x.phase performed turns last final) :
      m.Performs phase world (x :: turns) last final

namespace Machine
variable {m : Machine σ} {phase mid last : Phase} {world between final : σ}

theorem Performs.append {first second : List Turn}
    (h : m.Performs phase world first mid between) (h' : m.Performs mid between second last final) :
    m.Performs phase world (first ++ second) last final := by
  induction h with
  | refl => exact h'
  | turn unasked answered _ ih => exact .turn unasked answered (ih h')

theorem performs_append_iff {first second : List Turn} :
    m.Performs phase world (first ++ second) last final ↔
      ∃ mid between, m.Performs phase world first mid between ∧
        m.Performs mid between second last final := by
  constructor
  · intro h
    induction first generalizing phase world with
    | nil => exact ⟨phase, world, .refl _ _, h⟩
    | cons x first ih =>
      cases h with
      | turn unasked answered rest =>
        obtain ⟨mid, between, h, h'⟩ := ih rest
        exact ⟨mid, between, .turn unasked answered h, h'⟩
  · rintro ⟨mid, between, h, h'⟩
    exact h.append h'

/-- What neither the abort signal nor any of the commands sent can break holds at the end. -/
theorem Performs.preserves {I : σ → Prop} {turns : List Turn}
    (h : m.Performs phase world turns last final)
    (polls : ∀ w, I w → I (m.abortRequested w).2)
    (steps : ∀ x ∈ turns, ∀ w, I w → I (m.perform x.command w).2) (start : I world) : I final := by
  induction h with
  | refl => exact start
  | @turn phase last world polled performed final x turns unasked answered rest ih =>
    have entered : I polled := by
      unfold poll at unasked
      split at unasked
      · injection unasked with _ same
        rw [← same]
        exact start
      · have kept := polls world start
        rw [unasked] at kept
        exact kept
    have sent := steps x List.mem_cons_self polled entered
    rw [answered] at sent
    exact ih (fun y hy => steps y (List.mem_cons_of_mem x hy)) sent

end Machine

namespace Script

/-- A recovery is counted right after every homing that found the stop, and nowhere else. `owed` tells
whether one is due. -/
def Tallied : Script → Bool → Prop
  | .done, owed => owed = false
  | .fail _, _ => True
  | .recovered rest, owed => owed = true ∧ rest.Tallied false
  | .ask phase c next, owed => owed = false ∧ ∀ a, (next a).Tallied (Turn.frees ⟨phase, c, a⟩)

theorem Frees.tallied {t : Script} {n : Nat} {owed : Bool} (h : t.Frees n owed) : t.Tallied owed := by
  induction t generalizing n owed with
  | done => exact h
  | fail e => trivial
  | recovered t ih =>
    obtain ⟨due, k, _, later⟩ := h
    exact ⟨due, ih later⟩
  | ask phase c next ih => exact ⟨h.1, fun a => ih a (h.2 a)⟩

theorem tallied_separation (s : Setup) : (separation s).Tallied false := (frees_separation s).tallied

theorem countP_frees_eq_zero {turns : List Turn} (h : ∀ x ∈ turns, x.command ≠ .home .tilt) :
    turns.countP Turn.frees = 0 := by
  apply List.countP_eq_zero.mpr
  intro x hx
  obtain ⟨phase, c, a⟩ := x
  have other := h _ hx
  cases c with
  | home axis =>
    cases axis with
    | tilt => exact absurd rfl other
    | tower => nofun
  | _ => nofun

/- A tilt is freed at most once on the way down and once on the way up. -/
theorem countP_frees_separation {s : Setup} {turns : List Turn} (h : (separation s).Ends turns) :
    turns.countP Turn.frees ≤ 2 := by
  obtain ⟨k, due, ended, few⟩ := Leads.frees h (frees_separation s)
  have none : due = false := ended
  rw [none] at few
  simp only [Bool.toNat_false] at few
  omega

theorem performs_of_execute {m : Machine σ} {makeSafe : σ → σ} {t : Script} {e e' : Execution σ}
    {owed : Bool} (tallied : t.Tallied owed) (h : t.execute m makeSafe e = (.ok (), e')) :
    ∃ turns last, t.Ends turns ∧ m.Performs e.phase e.world turns last e'.world ∧
      e'.recoveries = e.recoveries + UInt8.ofNat (owed.toNat + turns.countP Turn.frees) := by
  induction t generalizing e owed with
  | done =>
    have none : owed = false := tallied
    rw [execute] at h
    injection h with _ he
    subst he none
    exact ⟨[], e.phase, .refl _, .refl _ _, by simp⟩
  | fail error =>
    rw [execute] at h
    injection h with error_ok
    cases error_ok
  | recovered rest ih =>
    obtain ⟨due, tallied⟩ := tallied
    rw [execute] at h
    obtain ⟨turns, last, ends, performs, counted⟩ := ih tallied h
    refine ⟨turns, last, .recovered ends, performs, ?_⟩
    rw [counted, due, UInt8.add_assoc]
    simp [UInt8.ofNat_add]
  | ask phase c next ih =>
    obtain ⟨none, tallied⟩ := tallied
    rw [execute, Execution.enter_eq] at h
    cases hp : m.poll e.phase phase e.world with
    | mk asked polled =>
      cases asked with
      | true =>
        simp only [hp] at h
        injection h with error_ok
        cases error_ok
      | false =>
        simp only [hp] at h
        cases hc : m.perform c polled with
        | mk answer performed =>
          cases answer with
          | error error =>
            simp only [hc] at h
            injection h with error_ok
            cases error_ok
          | ok a =>
            simp only [hc] at h
            obtain ⟨turns, last, ends, performs, counted⟩ := ih a (tallied a) h
            refine ⟨⟨phase, c, a⟩ :: turns, last, .ask a ends, .turn hp hc performs, ?_⟩
            rw [counted, none, List.countP_cons]
            cases hf : Turn.frees ⟨phase, c, a⟩ <;> simp [Nat.add_comm]

theorem execute_of_performs {m : Machine σ} (makeSafe : σ → σ) {t : Script} {e : Execution σ}
    {turns : List Turn} {last : Phase} {final : σ} {owed : Bool} (tallied : t.Tallied owed)
    (ends : t.Ends turns) (h : m.Performs e.phase e.world turns last final) :
    t.execute m makeSafe e = (.ok (), ⟨.done,
      e.recoveries + UInt8.ofNat (owed.toNat + turns.countP Turn.frees), final⟩) := by
  induction t generalizing e turns owed with
  | done =>
    have none : owed = false := tallied
    have closed := ends_done_iff.mp ends
    subst closed none
    cases h
    simp [execute]
  | fail error => exact absurd ends not_ends_fail
  | recovered rest ih =>
    obtain ⟨due, tallied⟩ := tallied
    have counted := ih (e := { e with recoveries := e.recoveries + 1 }) tallied
      (ends_recovered_iff.mp ends) h
    rw [execute, counted, due, UInt8.add_assoc]
    simp [UInt8.ofNat_add]
  | ask phase c next ih =>
    obtain ⟨none, tallied⟩ := tallied
    obtain ⟨a, rest, rfl, more⟩ := ends_ask_iff.mp ends
    cases h with
    | turn unasked answered performs =>
      rw [execute, Execution.enter_eq]
      simp only [unasked, answered]
      rw [ih a (tallied a) more performs, none, List.countP_cons]
      cases hf : Turn.frees ⟨phase, c, a⟩ <;> simp [Nat.add_comm]

end Script

namespace Separator
variable {sep : Separator} {m : Machine σ} {area : Float32} {nextLayerNm : Int32} {world : σ}

def reportOf (sep : Separator) (area : Float32) (s : Setup) (turns : List Turn)
    (start stop : UInt64) : SeparationReport where
  elapsedMs := UInt64.ofNat (stop.toNat - start.toNat)
  fill := sep.exposure.fillFor area
  stallRecoveries := UInt8.ofNat (turns.countP Turn.frees)
  movesTimeMs := ((sep.exposure.select area).tilt.map (·.movesTimeMs)).getD 0
  hopped := s.hops

theorem performs_of_separateLayer {report : SeparationReport} {sep' : Separator} {world' : σ}
    (h : sep.separateLayer m area nextLayerNm world = (.ok report, sep', world')) :
    ∃ s turns last final,
      Setup.resolve sep.table (sep.exposure.select area) sep.geometry nextLayerNm = .ok s ∧
      (Script.separation s).Ends turns ∧
      m.Performs sep.phase (m.now world).2 turns last final ∧
      report = sep.reportOf area s turns (m.now world).1 (m.now final).1 ∧
      world' = (m.now final).2 := by
  unfold separateLayer at h
  cases hs : Setup.resolve sep.table (sep.exposure.select area) sep.geometry nextLayerNm with
  | error e =>
    rw [ExposureProfile.select] at hs
    simp only [hs] at h
    injection h with error_ok
    cases error_ok
  | ok s =>
    rw [ExposureProfile.select] at hs
    simp only [hs] at h
    cases hr : (Script.separation s).execute m (s.makeSafe m) ⟨sep.phase, 0, (m.now world).2⟩ with
    | mk result ran =>
      simp only [hr] at h
      cases result with
      | error e =>
        injection h with error_ok
        cases error_ok
      | ok u =>
        obtain ⟨turns, last, ends, performs, counted⟩ :=
          Script.performs_of_execute (Script.tallied_separation s) hr
        injection h with hreport hrest
        injection hrest with _ hworld
        refine ⟨s, turns, last, ran.world, rfl, ends, performs, ?_, hworld.symm⟩
        rw [← Except.ok.inj hreport, reportOf, counted]
        simp [ExposureProfile.select]

theorem separateLayer_of_performs {s : Setup} {turns : List Turn} {last : Phase} {final : σ}
    (accepted : Setup.resolve sep.table (sep.exposure.select area) sep.geometry nextLayerNm = .ok s)
    (ends : (Script.separation s).Ends turns)
    (h : m.Performs sep.phase (m.now world).2 turns last final) :
    sep.separateLayer m area nextLayerNm world =
      (.ok (sep.reportOf area s turns (m.now world).1 (m.now final).1), { sep with phase := .idle },
        (m.now final).2) := by
  have ran := Script.execute_of_performs (s.makeSafe m) (e := ⟨sep.phase, 0, (m.now world).2⟩)
    (Script.tallied_separation s) ends h
  rw [ExposureProfile.select] at accepted
  unfold separateLayer
  simp only [accepted, ran]
  simp [reportOf, ExposureProfile.select]

end Separator
end LayerSeparation
