import LayerSeparation.Separation.Plan

/-! A separation with the counters that it is walked through with: the phase, the steps taken in it, and what
was reported last. A call takes the feedback in and goes from phase to phase until a command is due. Every
phase comes after the ones before it and a failed attempt to free the tilt is not made again, so no call goes
on for ever, whatever the counters hold. -/
namespace LayerSeparation

inductive Expect where
  | ack
  | position
  | stall
  | homed
  deriving DecidableEq, Repr

def Command.expect : Command → Expect
  | .readPosition _ => .position
  | .queryStall _ => .stall
  | .home _ => .homed
  | .setTiltCurve _ | .setTowerCurve _ | .moveRelative .. | .moveAbsolute .. | .wait _ => .ack

structure Sequencer where
  setup : Setup
  phase : Phase := .idle
  /-- Steps taken inside the phase. -/
  sub : UInt16 := 0
  expect : Expect := .ack
  lastAxis : Axis := .tilt
  split : Option CycleSplit := none
  position : Int32 := 0
  stalled : Bool := false
  homed : Bool := false
  /-- The tilt was freed and is on its way back to where it was checked. -/
  restoring : Bool := false
  homing : HomingBudget := { allowed := 0 }
  recoveries : UInt8 := 0
  failure : Option SeparationError := none

namespace Sequencer

def ofSetup (s : Setup) : Sequencer := { setup := s }

abbrev Outcome := Except SeparationError (Option Command) × Sequencer

/-- The count stops at the greatest word. -/
def count (q : Sequencer) : Sequencer :=
  { q with sub := UInt16.ofNat (min (q.sub.toNat + 1) 0xffff) }

def enter (q : Sequencer) (phase : Phase) : Sequencer :=
  { q with phase, sub := 0, split := none, restoring := false }

def issue (q : Sequencer) (c : Command) : Outcome := (.ok (some c), q)

def goOn (q : Sequencer) : Outcome := (.ok none, q)

def fail (q : Sequencer) (e : SeparationError) : Outcome := (.error e, q)

def withMoves (q : Sequencer) (act : TiltMoves → Outcome) : Outcome :=
  match q.setup.tilt with
  | some moves => act moves
  | none => q.fail (.axisCommandFailure .tilt q.phase .invalidResponse)

/-- A pause of no length is left out. -/
def pause (q : Sequencer) (step : UInt16) (ms : UInt32) (following : Phase) : Outcome :=
  if step = 0 ∧ 0 < ms then q.issue (.wait ms) else (q.enter following).goOn

def curve (q : Sequencer) (step : UInt16) (pick : TiltMoves → TiltCurve) (following : Phase) : Outcome :=
  if step = 0 then q.withMoves fun moves => q.issue (.setTiltCurve (pick moves))
  else (q.enter following).goOn

def cycles (q : Sequencer) (step : UInt16) (target : Int32) (profile : MovingProfile)
    (following : Phase) : Outcome :=
  if step = 0 then q.issue (.readPosition .tilt)
  else
    let split := match q.split with
      | some split => some split
      | none => (Width.difference? target q.position).map fun distance =>
        CycleSplit.new distance profile.cycles profile.delayMs
    match split with
    | none => q.fail (.axisCommandFailure .tilt q.phase .outOfBounds)
    | some split =>
      match split.next with
      | none => (q.enter following).goOn
      | some (.move steps, split) => { q with split := some split }.issue (.moveRelative .tilt steps)
      | some (.wait ms, split) => { q with split := some split }.issue (.wait ms)

def afterTiltUp (q : Sequencer) : Sequencer :=
  if q.setup.hops then q.enter .towerLower else q.enter .settleBeforeExposure

def leaveCheck (q : Sequencer) : Sequencer :=
  match q.phase with
  | .stallCheck | .unstuck => q.enter .tower
  | _ => q.afterTiltUp

def check (q : Sequencer) (step : UInt16) (target : Int32) (profile : MovingProfile)
    (freeing : Phase) : Outcome :=
  if step = 0 then q.issue (.queryStall .tilt)
  else if step = 1 then q.issue (.readPosition .tilt)
  else
    match (StallCheck.mk target profile.homingTolerance).evaluate q.stalled q.position with
    | .clear => q.leaveCheck.goOn
    | .stalled .. =>
      ({ q with homing := { allowed := profile.homingCycles } }.enter freeing).goOn

/-- A recovery is counted, up to the greatest word. -/
def freed (q : Sequencer) (homing : HomingBudget) : Sequencer :=
  { q with homing, recoveries := UInt8.ofNat (min (q.recoveries.toNat + 1) 255) }

def attempt (q : Sequencer) (restore : Option Int32) : Outcome :=
  match q.homing.record q.homed with
  | (.recovered _, homing) =>
    match restore with
    | some position => { q.freed homing with restoring := true }.issue (.moveAbsolute .tilt position)
    | none => (q.freed homing).leaveCheck.goOn
  | (.retry, homing) => { q with homing }.goOn
  | (.exhausted _, homing) =>
    { q with homing }.fail (.tiltStallUnrecoverable q.phase homing.attempts)

/-- Homes the tilt on even steps and looks at the result on odd ones. -/
def free (q : Sequencer) (step : UInt16) (restore : Option Int32) : Outcome :=
  if q.restoring then q.leaveCheck.goOn
  else if step % 2 = 0 then
    if q.homing.isExhausted then q.fail (.tiltStallUnrecoverable q.phase q.homing.attempts)
    else q.issue (.home .tilt)
  else q.attempt restore

/-- One iteration. The step is the count before it. -/
def advance (start : Sequencer) : Outcome :=
  let step := start.sub
  let q := start.count
  match q.phase with
  | .idle => (q.enter .settleAfterExposure).goOn
  | .settleAfterExposure =>
    q.pause step q.setup.params.delayAfterExposureMs
      (if q.setup.tilt.isSome then .tiltDownInitial else .tower)
  | .tiltDownInitial => q.withMoves fun moves =>
    if step = 0 then q.issue (.setTiltCurve moves.down.initialCurve)
    else if step = 1 ∧ 0 < moves.down.offsetSteps then
      q.issue (.moveRelative .tilt (-moves.down.offsetSteps))
    else (q.enter .tiltDownOffsetWait).goOn
  | .tiltDownOffsetWait => q.withMoves fun moves =>
    q.pause step moves.down.offsetDelayMs .tiltDownFinish
  | .tiltDownFinish => q.curve step (·.down.finishCurve) .tiltDownCycles
  | .tiltDownCycles => q.withMoves fun moves => q.cycles step 0 moves.down .stallCheck
  | .stallCheck => q.withMoves fun moves => q.check step 0 moves.down .unstuck
  | .unstuck => q.free step none
  | .tower =>
    if step = 0 then q.issue (.setTowerCurve q.setup.params.towerCurve)
    else if step = 1 then
      if q.setup.hops then q.issue (.moveRelative .tower q.setup.hopNm)
      else q.issue (.moveAbsolute .tower q.setup.nextLayerNm)
    else if q.setup.tilt.isSome then (q.enter .tiltUpInitial).goOn
    else q.afterTiltUp.goOn
  | .tiltUpInitial => q.withMoves fun moves =>
    if step = 0 then q.issue (.setTiltCurve moves.up.initialCurve)
    else if step = 1 then
      match Width.difference? q.setup.geometry.heightSteps moves.up.offsetSteps with
      | some position => q.issue (.moveAbsolute .tilt position)
      | none => q.fail (.axisCommandFailure .tilt q.phase .outOfBounds)
    else (q.enter .tiltUpOffsetWait).goOn
  | .tiltUpOffsetWait => q.withMoves fun moves =>
    q.pause step moves.up.offsetDelayMs .tiltUpFinish
  | .tiltUpFinish => q.curve step (·.up.finishCurve) .tiltUpCycles
  | .tiltUpCycles => q.withMoves fun moves =>
    q.cycles step q.setup.geometry.heightSteps moves.up .tiltUpStallCheck
  | .tiltUpStallCheck => q.withMoves fun moves =>
    q.check step q.setup.geometry.heightSteps moves.up .tiltUpUnstuck
  | .tiltUpUnstuck => q.free step (some q.setup.geometry.heightSteps)
  | .towerLower =>
    if step = 0 then q.issue (.moveAbsolute .tower q.setup.nextLayerNm)
    else (q.enter .settleBeforeExposure).goOn
  | .settleBeforeExposure => q.pause step q.setup.params.delayBeforeExposureMs .done
  | .done => q.goOn

section
variable {q r : Sequencer} {step : UInt16} {following : Phase}

@[simp] theorem count_phase : q.count.phase = q.phase := rfl

@[simp] theorem count_setup : q.count.setup = q.setup := rfl

@[simp] theorem count_split : q.count.split = q.split := rfl

@[simp] theorem count_position : q.count.position = q.position := rfl

@[simp] theorem count_stalled : q.count.stalled = q.stalled := rfl

@[simp] theorem count_restoring : q.count.restoring = q.restoring := rfl

@[simp] theorem count_homing : q.count.homing = q.homing := rfl

theorem toNat_sub_count : q.count.sub.toNat = min (q.sub.toNat + 1) 0xffff := by
  rw [count, UInt16.toNat_ofNat_of_lt' (by simp only [UInt16.size]; omega)]

theorem sub_count_ne_zero : q.count.sub ≠ 0 := by
  intro zero
  have counted := q.toNat_sub_count
  rw [zero] at counted
  have : (0 : UInt16).toNat = 0 := rfl
  omega

theorem even_sub_iff : q.sub % 2 = 0 ↔ q.sub.toNat % 2 = 0 := by
  rw [← UInt16.toNat_inj, UInt16.toNat_mod]
  rfl

@[simp] theorem enter_phase (phase : Phase) : (q.enter phase).phase = phase := rfl

@[simp] theorem enter_sub (phase : Phase) : (q.enter phase).sub = 0 := rfl

theorem eq_of_withMoves {act : TiltMoves → Outcome} {o : Option Command}
    (h : q.withMoves act = (.ok o, r)) : ∃ moves, q.setup.tilt = some moves ∧ act moves = (.ok o, r) := by
  unfold withMoves at h
  split at h
  · next moves tilted => exact ⟨moves, tilted, h⟩
  · cases h

theorem eq_of_pause {ms : UInt32} (h : q.pause step ms following = r.goOn) : r = q.enter following := by
  unfold pause at h
  split at h
  · cases h
  · cases h
    rfl

theorem eq_of_curve {pick : TiltMoves → TiltCurve} (h : q.curve step pick following = r.goOn) :
    r = q.enter following := by
  unfold curve at h
  split at h
  · obtain ⟨moves, -, h⟩ := eq_of_withMoves h
    cases h
  · cases h
    rfl

theorem eq_of_cycles {target : Int32} {profile : MovingProfile}
    (h : q.cycles step target profile following = r.goOn) : r = q.enter following := by
  unfold cycles at h
  split at h
  · cases h
  · dsimp only at h
    split at h
    · cases h
    · split at h
      · cases h
        rfl
      · cases h
      · cases h

def Checks (q : Sequencer) : Prop :=
  q.phase = .stallCheck ∨ q.phase = .unstuck ∨ q.phase = .tiltUpStallCheck ∨ q.phase = .tiltUpUnstuck

theorem lt_leaveCheck (checks : q.Checks) : q.phase < q.leaveCheck.phase := by
  have after : Phase.tiltUpUnstuck < q.afterTiltUp.phase := by
    unfold afterTiltUp
    split
    · exact show Phase.tiltUpUnstuck < Phase.towerLower by decide
    · exact show Phase.tiltUpUnstuck < Phase.settleBeforeExposure by decide
  rcases checks with here | here | here | here <;> simp only [leaveCheck, here]
  · exact show Phase.stallCheck < Phase.tower by decide
  · exact show Phase.unstuck < Phase.tower by decide
  · exact Nat.lt_trans (show Phase.tiltUpStallCheck < Phase.tiltUpUnstuck by decide) after
  · exact after

theorem lt_of_check {target : Int32} {profile : MovingProfile} {freeing : Phase} (checks : q.Checks)
    (order : q.phase < freeing) (h : q.check step target profile freeing = r.goOn) : q.phase < r.phase := by
  unfold check at h
  split at h
  · cases h
  split at h
  · cases h
  split at h
  · cases h
    exact lt_leaveCheck checks
  · cases h
    exact order

theorem lt_of_free {restore : Option Int32} (checks : q.Checks) (h : q.free step restore = r.goOn) :
    q.phase < r.phase ∨
      r.phase = q.phase ∧ r.homing.remaining.toNat < q.homing.remaining.toNat := by
  unfold free attempt at h
  split at h
  · cases h
    exact .inl (lt_leaveCheck checks)
  split at h
  · split at h <;> cases h
  split at h
  · next homing _ =>
    split at h
    · cases h
    · cases h
      exact .inl (lt_leaveCheck (q := q.freed homing) checks)
  · next retried =>
    cases h
    exact .inr ⟨rfl, HomingBudget.remaining_lt_of_record_retry retried⟩
  · cases h

/-- Without a command the phase is a later one, or an attempt to free the tilt has failed. -/
theorem later_of_advance (h : q.advance = r.goOn) (more : r.phase ≠ .done) :
    q.phase < r.phase ∨ r.phase = q.phase ∧ r.homing.remaining.toNat < q.homing.remaining.toNat := by
  have entered {p p' : Phase} (h : r = q.count.enter p') (before : p < p') : p < r.phase := h ▸ before
  unfold advance at h
  cases here : q.phase <;> simp only [count_phase, here] at h
  case idle =>
    cases h
    exact .inl (entered rfl (by decide))
  case settleAfterExposure =>
    refine .inl (entered (eq_of_pause h) ?_)
    split <;> decide
  case tiltDownInitial =>
    obtain ⟨moves, -, h⟩ := eq_of_withMoves h
    split at h
    · cases h
    split at h
    · cases h
    · cases h
      exact .inl (entered rfl (by decide))
  case tiltDownOffsetWait =>
    obtain ⟨moves, -, h⟩ := eq_of_withMoves h
    exact .inl (entered (eq_of_pause h) (by decide))
  case tiltDownFinish => exact .inl (entered (eq_of_curve h) (by decide))
  case tiltDownCycles =>
    obtain ⟨moves, -, h⟩ := eq_of_withMoves h
    exact .inl (entered (eq_of_cycles h) (by decide))
  case stallCheck =>
    obtain ⟨moves, -, h⟩ := eq_of_withMoves h
    have later := lt_of_check (by simp [Checks, here]) (by rw [count_phase, here]; decide) h
    exact .inl (by rwa [count_phase, here] at later)
  case unstuck =>
    have later := lt_of_free (by simp [Checks, here]) h
    rwa [count_phase, here] at later
  case tower =>
    split at h
    · cases h
    split at h
    · split at h <;> cases h
    split at h
    · cases h
      exact .inl (entered rfl (by decide))
    · cases h
      refine .inl ?_
      unfold afterTiltUp
      split
      · exact show Phase.tower < Phase.towerLower by decide
      · exact show Phase.tower < Phase.settleBeforeExposure by decide
  case tiltUpInitial =>
    obtain ⟨moves, -, h⟩ := eq_of_withMoves h
    split at h
    · cases h
    split at h
    · split at h <;> cases h
    · cases h
      exact .inl (entered rfl (by decide))
  case tiltUpOffsetWait =>
    obtain ⟨moves, -, h⟩ := eq_of_withMoves h
    exact .inl (entered (eq_of_pause h) (by decide))
  case tiltUpFinish => exact .inl (entered (eq_of_curve h) (by decide))
  case tiltUpCycles =>
    obtain ⟨moves, -, h⟩ := eq_of_withMoves h
    exact .inl (entered (eq_of_cycles h) (by decide))
  case tiltUpStallCheck =>
    obtain ⟨moves, -, h⟩ := eq_of_withMoves h
    have later := lt_of_check (by simp [Checks, here]) (by rw [count_phase, here]; decide) h
    exact .inl (by rwa [count_phase, here] at later)
  case tiltUpUnstuck =>
    have later := lt_of_free (by simp [Checks, here]) h
    rwa [count_phase, here] at later
  case towerLower =>
    split at h
    · cases h
    · cases h
      exact .inl (entered rfl (by decide))
  case settleBeforeExposure => exact .inl (entered (eq_of_pause h) (by decide))
  case done =>
    cases h
    exact absurd here more

end

def await (q : Sequencer) (c : Command) : Sequencer :=
  { q with expect := c.expect, lastAxis := c.axis.getD q.lastAxis }

def accept (q : Sequencer) (feedback : Feedback) : Except SeparationError Sequencer :=
  match q.expect, feedback with
  | .ack, .none => .ok { q with expect := .ack }
  | .position, .position position => .ok { q with expect := .ack, position }
  | .stall, .stall stalled => .ok { q with expect := .ack, stalled }
  | .homed, .homed homed => .ok { q with expect := .ack, homed }
  | _, _ => .error (.axisCommandFailure q.lastAxis q.phase .invalidResponse)

def proceed (q : Sequencer) : Step × Sequencer :=
  match _advanced : q.advance with
  | (.ok (some c), r) => (.command c, r.await c)
  | (.ok none, r) => if _ended : r.phase = .done then (.done, r) else r.proceed
  | (.error e, r) => (.failed e, { r with failure := some e })
termination_by (Catalogue.index Phase.done - Catalogue.index q.phase, q.homing.remaining.toNat)
decreasing_by
  have last : Catalogue.index r.phase ≤ Catalogue.index Phase.done := by cases r.phase <;> decide
  rcases later_of_advance _advanced _ended with later | ⟨same, fewer⟩
  · have order : Catalogue.index q.phase < Catalogue.index r.phase := later
    exact .left _ _ (by omega)
  · rw [same]
    exact .right _ fewer

def next (q : Sequencer) (feedback : Feedback) : Step × Sequencer :=
  match q.failure with
  | some e => (.failed e, q)
  | none =>
    match q.accept feedback with
    | .ok r => r.proceed
    | .error e => (.failed e, { q with failure := some e })

end Sequencer
end LayerSeparation
