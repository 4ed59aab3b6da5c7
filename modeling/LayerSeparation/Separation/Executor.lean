import LayerSeparation.Separation.Separator
import LayerSeparation.Separation.Sequencer

/-! The sequencer driven on a machine. Each command is carried out, and what comes back is fed in for the
next one. Every command leaves less of its phase, or fewer attempts to free the tilt, so the loop ends on
every machine, whatever is answered and whatever the counters hold. -/
namespace LayerSeparation

namespace Sequencer

/-- Steps left of a stretch. One that is not measured yet has more of them than any other. -/
def stretch (q : Sequencer) : Nat :=
  match q.split with
  | none => 512
  | some split => split.pending.length

/-- Commands left in the phase, at most, until the tilt is homed again. -/
def rest (q : Sequencer) : Nat :=
  match q.phase with
  | .tiltDownCycles | .tiltUpCycles => q.stretch + if q.sub = 0 then 1 else 0
  | .unstuck | .tiltUpUnstuck => if q.restoring then 0 else if q.sub % 2 = 0 then 2 else 1
  | _ => 3 - q.sub.toNat

def Nearer (r q : Sequencer) : Prop :=
  q.phase < r.phase ∨ r.phase = q.phase ∧
    (r.homing.remaining.toNat < q.homing.remaining.toNat ∨
      r.homing.remaining.toNat ≤ q.homing.remaining.toNat ∧ r.rest < q.rest)

section
variable {q r : Sequencer} {c : Command} {step : UInt16} {following : Phase}

theorem Nearer.trans {p : Sequencer} (h : p.Nearer r) (h' : r.Nearer q) : p.Nearer q := by
  rcases h with later | ⟨same, less⟩
  · rcases h' with later' | ⟨same', -⟩
    · exact .inl (Nat.lt_trans later' later)
    · exact .inl (same' ▸ later)
  · rcases h' with later' | ⟨same', less'⟩
    · exact .inl (same ▸ later')
    · exact .inr ⟨same.trans same', by omega⟩

theorem early_of_issue {d : Command} (h : q.issue d = r.issue c) (early : step = 0 ∨ step = 1) :
    r = q ∧ step.toNat ≤ 1 := by
  cases h
  refine ⟨rfl, ?_⟩
  rcases early with rfl | rfl <;> decide

theorem early_of_pause {ms : UInt32} (h : q.pause step ms following = r.issue c) :
    r = q ∧ step.toNat ≤ 1 := by
  unfold pause at h
  split at h
  · next start => exact early_of_issue h (.inl start.1)
  · cases h

theorem early_of_curve {pick : TiltMoves → TiltCurve} (h : q.curve step pick following = r.issue c) :
    r = q ∧ step.toNat ≤ 1 := by
  unfold curve at h
  split at h
  · next start =>
    obtain ⟨moves, -, h⟩ := eq_of_withMoves h
    exact early_of_issue h (.inl start)
  · cases h

theorem early_of_check {target : Int32} {profile : MovingProfile} {freeing : Phase}
    (h : q.check step target profile freeing = r.issue c) : r = q ∧ step.toNat ≤ 1 := by
  unfold check at h
  split at h
  · next start => exact early_of_issue h (.inl start)
  split at h
  · next second => exact early_of_issue h (.inr second)
  split at h <;> cases h

theorem stretch_of_cycles {target : Int32} {profile : MovingProfile}
    (h : q.cycles step target profile following = r.issue c) :
    r.phase = q.phase ∧ r.sub = q.sub ∧ r.homing = q.homing ∧
      (step = 0 ∧ r.stretch = q.stretch ∨ step ≠ 0 ∧ r.stretch < q.stretch) := by
  unfold cycles at h
  split at h
  · next start =>
    cases h
    exact ⟨rfl, rfl, rfl, .inl ⟨start, rfl⟩⟩
  next started =>
  dsimp only at h
  split at h
  · cases h
  next split due =>
  have few : split.pending.length ≤ q.stretch := by
    unfold stretch
    split at due
    · next split' measured =>
      cases due
      simp only [measured, Nat.le_refl]
    · next unmeasured =>
      obtain ⟨distance, -, rfl⟩ := Option.map_eq_some_iff.mp due
      have long := length_pending_lt distance profile.cycles profile.delayMs
      have cycles := profile.cycles.toNat_lt
      simp only [unmeasured]
      omega
  have taken {s : SplitStep} {left : CycleSplit} (next : split.next = some (s, left)) :
      left.pending.length < q.stretch := by
    unfold CycleSplit.next at next
    split at next
    · cases next
    · next pending =>
      cases next
      rw [pending, List.length_cons] at few
      exact few
  split at h
  · cases h
  · next next =>
    cases h
    exact ⟨rfl, rfl, rfl, .inr ⟨started, taken next⟩⟩
  · next next =>
    cases h
    exact ⟨rfl, rfl, rfl, .inr ⟨started, taken next⟩⟩

theorem restoring_of_free {restore : Option Int32} (h : q.free step restore = r.issue c) :
    q.restoring = false ∧ (r = q ∧ step % 2 = 0 ∨ r.phase = q.phase ∧ r.restoring = true ∧
      r.homing.remaining.toNat ≤ q.homing.remaining.toNat) := by
  unfold free attempt at h
  split at h
  · cases h
  next resting =>
  have resting : q.restoring = false := by simpa using resting
  split at h
  · next even =>
    split at h
    · cases h
    · cases h
      exact ⟨resting, .inl ⟨rfl, even⟩⟩
  split at h
  · next homing recorded =>
    have spent : homing = q.homing.spend := by rw [← q.homing.snd_record q.homed, recorded]
    split at h
    · cases h
      refine ⟨resting, .inr ⟨rfl, rfl, ?_⟩⟩
      rw [spent]
      exact q.homing.remaining_spend_le
    · cases h
  · cases h
  · cases h

theorem nearer_of_early (early : r = q.count ∧ q.sub.toNat ≤ 1)
    (plain : ∀ p : Sequencer, p.phase = q.phase → p.rest = 3 - p.sub.toNat) : r.Nearer q := by
  obtain ⟨rfl, early⟩ := early
  have counted := q.toNat_sub_count
  refine .inr ⟨rfl, .inr ⟨Nat.le_refl _, ?_⟩⟩
  rw [plain q.count rfl, plain q rfl]
  omega

theorem nearer_of_cycles {target : Int32} {profile : MovingProfile}
    (h : q.count.cycles q.sub target profile following = r.issue c)
    (stretched : ∀ p : Sequencer, p.phase = q.phase → p.rest = p.stretch + if p.sub = 0 then 1 else 0) :
    r.Nearer q := by
  obtain ⟨phase, sub, homing, steps⟩ := stretch_of_cycles h
  have measured : q.count.stretch = q.stretch := rfl
  refine .inr ⟨phase, .inr ⟨by rw [homing]; exact Nat.le_refl _, ?_⟩⟩
  rw [stretched r phase, stretched q rfl, sub, if_neg q.sub_count_ne_zero]
  rcases steps with ⟨start, same⟩ | ⟨started, fewer⟩
  · rw [if_pos start]
    omega
  · omega

theorem nearer_of_free {restore : Option Int32} (h : q.count.free q.sub restore = r.issue c)
    (freeing : ∀ p : Sequencer, p.phase = q.phase →
      p.rest = if p.restoring then 0 else if p.sub % 2 = 0 then 2 else 1) : r.Nearer q := by
  obtain ⟨resting, ⟨rfl, even⟩ | ⟨phase, restored, attempts⟩⟩ := restoring_of_free h
  · have resting : q.restoring = false := resting
    have odd : ¬ q.count.sub % 2 = 0 := by
      rw [even_sub_iff] at even ⊢
      rw [q.toNat_sub_count]
      have word := q.sub.toNat_lt
      omega
    refine .inr ⟨rfl, .inr ⟨Nat.le_refl _, ?_⟩⟩
    rw [freeing q.count rfl, freeing q rfl, count_restoring, resting, if_neg odd, if_pos even]
    decide
  · have resting : q.restoring = false := resting
    refine .inr ⟨phase, .inr ⟨attempts, ?_⟩⟩
    rw [freeing r phase, freeing q rfl, restored, resting, if_pos rfl, if_neg Bool.false_ne_true]
    split <;> decide

theorem nearer_of_issue (h : q.advance = r.issue c) : r.Nearer q := by
  unfold advance at h
  cases here : q.phase <;> simp only [count_phase, here] at h
  case idle => cases h
  case settleAfterExposure | settleBeforeExposure =>
    exact nearer_of_early (early_of_pause h) fun p same => by rw [rest, same, here]
  case tiltDownInitial =>
    obtain ⟨moves, -, h⟩ := eq_of_withMoves h
    refine nearer_of_early ?_ fun p same => by rw [rest, same, here]
    split at h
    · next start => exact early_of_issue h (.inl start)
    split at h
    · next second => exact early_of_issue h (.inr second.1)
    · cases h
  case tiltDownOffsetWait | tiltUpOffsetWait =>
    obtain ⟨moves, -, h⟩ := eq_of_withMoves h
    exact nearer_of_early (early_of_pause h) fun p same => by rw [rest, same, here]
  case tiltDownFinish | tiltUpFinish =>
    exact nearer_of_early (early_of_curve h) fun p same => by rw [rest, same, here]
  case tiltDownCycles | tiltUpCycles =>
    obtain ⟨moves, -, h⟩ := eq_of_withMoves h
    exact nearer_of_cycles h fun p same => by rw [rest, same, here]
  case stallCheck | tiltUpStallCheck =>
    obtain ⟨moves, -, h⟩ := eq_of_withMoves h
    exact nearer_of_early (early_of_check h) fun p same => by rw [rest, same, here]
  case unstuck | tiltUpUnstuck =>
    exact nearer_of_free h fun p same => by rw [rest, same, here]
  case tower =>
    refine nearer_of_early ?_ fun p same => by rw [rest, same, here]
    split at h
    · next start => exact early_of_issue h (.inl start)
    split at h
    · next second => split at h <;> exact early_of_issue h (.inr second)
    split at h <;> cases h
  case tiltUpInitial =>
    obtain ⟨moves, -, h⟩ := eq_of_withMoves h
    refine nearer_of_early ?_ fun p same => by rw [rest, same, here]
    split at h
    · next start => exact early_of_issue h (.inl start)
    split at h
    · next second =>
      split at h
      · exact early_of_issue h (.inr second)
      · cases h
    · cases h
  case towerLower =>
    refine nearer_of_early ?_ fun p same => by rw [rest, same, here]
    split at h
    · next start => exact early_of_issue h (.inl start)
    · cases h
  case done => cases h

theorem nearer_of_proceed (h : q.proceed = (.command c, r)) : r.Nearer q := by
  fun_induction proceed q with
  | case1 q d q' issued =>
    have nearer := nearer_of_issue issued
    cases h
    exact nearer
  | case2 => cases h
  | case3 q q' advanced unfinished ih =>
    have first : q'.Nearer q := (later_of_advance advanced unfinished).imp_right (.imp_right .inl)
    exact (ih h).trans first
  | case4 => cases h

/-- Whatever a sequencer is told, a command brings it nearer to the end. -/
theorem nearer_of_next {f : Feedback} (h : q.next f = (.command c, r)) : r.Nearer q := by
  unfold next at h
  split at h
  · cases h
  split at h
  · next taken =>
    have nearer := nearer_of_proceed h
    unfold accept at taken
    split at taken <;> cases taken <;> exact nearer
  · cases h

def left (q : Sequencer) : Nat × Nat × Nat :=
  (Catalogue.index Phase.done - Catalogue.index q.phase, q.homing.remaining.toNat, q.rest)

theorem Nearer.left_lt (h : r.Nearer q) :
    Prod.Lex (· < ·) (Prod.Lex (· < ·) (· < ·)) r.left q.left := by
  have last : Catalogue.index r.phase ≤ Catalogue.index Phase.done := by cases r.phase <;> decide
  unfold left
  rcases h with later | ⟨same, fewer | ⟨attempts, less⟩⟩
  · have order : Catalogue.index q.phase < Catalogue.index r.phase := later
    exact .left _ _ (by omega)
  · rw [same]
    exact .right _ (.left _ _ fewer)
  · rw [same]
    rcases Nat.lt_or_eq_of_le attempts with fewer | equal
    · exact .right _ (.left _ _ fewer)
    · rw [equal]
      exact .right _ (.right _ less)

end

end Sequencer

/-- A sequencer on a machine, with the phase that the abort signal was last read for. -/
structure Executor (σ : Type) where
  plan : Sequencer
  phase : Phase
  world : σ

namespace Machine
variable {σ : Type}

/-- Carries out a command. An error that no axis has made is put down to the tilt. -/
def dispatch (m : Machine σ) (phase : Phase) (c : Command) (world : σ) :
    Except SeparationError Feedback × σ :=
  match m.perform c world with
  | (.ok answer, world) => (.ok (c.feedback answer), world)
  | (.error error, world) => (.error (.axisCommandFailure (c.axis.getD .tilt) phase error), world)

/-- Goes on until the sequencer is done, it fails, a command is refused or the abort signal is found set. -/
def run (m : Machine σ) (plan : Sequencer) (feedback : Feedback) (last : Phase) (world : σ) :
    Except SeparationError Unit × Executor σ :=
  match _stepped : plan.next feedback with
  | (.command c, plan) =>
    let (abort, world) := if plan.phase = last then (false, world) else m.abortRequested world
    if abort then
      (.error (.cancelled plan.phase), ⟨plan, plan.phase, plan.setup.makeSafe m world⟩)
    else
      match m.dispatch plan.phase c world with
      | (.ok feedback, world) => m.run plan feedback plan.phase world
      | (.error e, world) => (.error e, ⟨plan, plan.phase, world⟩)
  | (.done, plan) => (.ok (), ⟨plan, .done, world⟩)
  | (.failed e, plan) => (.error e, ⟨plan, last, world⟩)
termination_by plan.left
decreasing_by exact (Sequencer.nearer_of_next _stepped).left_lt

variable {m : Machine σ} {q r : Sequencer} {f : Feedback} {last : Phase} {world : σ}

theorem run_of_command {c : Command} (h : q.next f = (.command c, r)) :
    m.run q f last world =
      let (abort, world) := if r.phase = last then (false, world) else m.abortRequested world
      if abort then (.error (.cancelled r.phase), ⟨r, r.phase, r.setup.makeSafe m world⟩)
      else
        match m.dispatch r.phase c world with
        | (.ok feedback, world) => m.run r feedback r.phase world
        | (.error e, world) => (.error e, ⟨r, r.phase, world⟩) := by
  rw [run]
  split
  · next stepped =>
    cases h.symm.trans stepped
    rfl
  · next stepped => cases h.symm.trans stepped
  · next stepped => cases h.symm.trans stepped

theorem run_of_done (h : q.next f = (.done, r)) : m.run q f last world = (.ok (), ⟨r, .done, world⟩) := by
  rw [run]
  split <;> simp_all

theorem run_of_failed {e : SeparationError} (h : q.next f = (.failed e, r)) :
    m.run q f last world = (.error e, ⟨r, last, world⟩) := by
  rw [run]
  split <;> simp_all

end Machine

namespace Separator
variable {σ : Type}

def executeLayer (sep : Separator) (m : Machine σ) (area : Float32) (nextLayerNm : Int32) (world : σ) :
    Except SeparationError SeparationReport × Separator × σ :=
  let (start, world) := m.now world
  let fill := sep.exposure.fillFor area
  let params := sep.exposure.params fill
  match Setup.resolve sep.table params sep.geometry nextLayerNm with
  | .error e => (.error (.ofProfileError e), sep, world)
  | .ok setup =>
    let (result, ran) := m.run (.ofSetup setup) .none sep.phase world
    let idle := { sep with phase := .idle }
    match result with
    | .error e => (.error e, idle, ran.world)
    | .ok () =>
      let (stop, world) := m.now ran.world
      let report : SeparationReport := {
        elapsedMs := UInt64.ofNat (stop.toNat - start.toNat)
        fill
        stallRecoveries := ran.plan.recoveries
        movesTimeMs := (params.tilt.map (·.movesTimeMs)).getD 0
        hopped := ran.plan.setup.hops }
      (.ok report, idle, world)

end Separator
end LayerSeparation
