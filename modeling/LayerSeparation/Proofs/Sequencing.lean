import LayerSeparation.Proofs.Places
import LayerSeparation.Proofs.Split
import LayerSeparation.Separation.Sequencer

/-! Where the counters of a sequencer stand in the script of its separation. Every state whose counters fit its
phase has a script ahead of it: what its phase has left and all that follows. A phase that is entered at its
beginning has its whole part ahead. -/
namespace LayerSeparation

namespace Setup

def afterSettling (s : Setup) : Phase := if s.tilt.isSome then .tiltDownInitial else .tower

def afterTiltUp (s : Setup) : Phase := if s.hops then .towerLower else .settleBeforeExposure

def afterTower (s : Setup) : Phase := if s.tilt.isSome then .tiltUpInitial else s.afterTiltUp

end Setup

namespace Script

def tilting (s : Setup) (phase : Phase) (act : TiltMoves → Script) : Script :=
  match s.tilt with
  | some moves => act moves
  | none => .fail (.axisCommandFailure .tilt phase .invalidResponse)

def downOffset (moves : TiltMoves) (rest : Script) : Script :=
  (if 0 < moves.down.offsetSteps then
    .moveRelative .tiltDownInitial .tilt (-moves.down.offsetSteps) else id) rest

def upOffset (s : Setup) (moves : TiltMoves) (rest : Script) : Script :=
  match Width.difference? s.geometry.heightSteps moves.up.offsetSteps with
  | none => outOfTravel .tiltUpInitial
  | some position => .moveAbsolute .tiltUpInitial .tilt position rest

def towerMove (s : Setup) (rest : Script) : Script :=
  if s.hops then .moveRelative .tower .tower s.hopNm rest
  else .moveAbsolute .tower .tower s.nextLayerNm rest

/-- The script from the beginning of a phase on. A phase that frees the tilt begins with all its attempts. -/
def onward (s : Setup) : Phase → Script
  | .idle => onward s .settleAfterExposure
  | .settleAfterExposure => pause .settleAfterExposure s.params.delayAfterExposureMs (onward s s.afterSettling)
  | .tiltDownInitial => tilting s .tiltDownInitial fun moves =>
    .setTiltCurve .tiltDownInitial moves.down.initialCurve (downOffset moves (onward s .tiltDownOffsetWait))
  | .tiltDownOffsetWait => tilting s .tiltDownOffsetWait fun moves =>
    pause .tiltDownOffsetWait moves.down.offsetDelayMs (onward s .tiltDownFinish)
  | .tiltDownFinish => tilting s .tiltDownFinish fun moves =>
    .setTiltCurve .tiltDownFinish moves.down.finishCurve (onward s .tiltDownCycles)
  | .tiltDownCycles => tilting s .tiltDownCycles fun moves =>
    cycles .tiltDownCycles 0 moves.down (onward s .stallCheck)
  | .stallCheck => tilting s .stallCheck fun moves =>
    check .stallCheck .unstuck 0 moves.down (onward s .tower) (onward s .tower)
  | .unstuck => tilting s .unstuck fun moves =>
    free .unstuck (onward s .tower) { allowed := moves.down.homingCycles }
  | .tower => .setTowerCurve .tower s.params.towerCurve (towerMove s (onward s s.afterTower))
  | .tiltUpInitial => tilting s .tiltUpInitial fun moves =>
    .setTiltCurve .tiltUpInitial moves.up.initialCurve (upOffset s moves (onward s .tiltUpOffsetWait))
  | .tiltUpOffsetWait => tilting s .tiltUpOffsetWait fun moves =>
    pause .tiltUpOffsetWait moves.up.offsetDelayMs (onward s .tiltUpFinish)
  | .tiltUpFinish => tilting s .tiltUpFinish fun moves =>
    .setTiltCurve .tiltUpFinish moves.up.finishCurve (onward s .tiltUpCycles)
  | .tiltUpCycles => tilting s .tiltUpCycles fun moves =>
    cycles .tiltUpCycles s.geometry.heightSteps moves.up (onward s .tiltUpStallCheck)
  | .tiltUpStallCheck => tilting s .tiltUpStallCheck fun moves =>
    check .tiltUpStallCheck .tiltUpUnstuck s.geometry.heightSteps moves.up
      (.moveAbsolute .tiltUpUnstuck .tilt s.geometry.heightSteps (onward s s.afterTiltUp)) (onward s s.afterTiltUp)
  | .tiltUpUnstuck => tilting s .tiltUpUnstuck fun moves =>
    free .tiltUpUnstuck (.moveAbsolute .tiltUpUnstuck .tilt s.geometry.heightSteps
      (onward s s.afterTiltUp)) { allowed := moves.up.homingCycles }
  | .towerLower => .moveAbsolute .towerLower .tower s.nextLayerNm (onward s .settleBeforeExposure)
  | .settleBeforeExposure =>
    pause .settleBeforeExposure s.params.delayBeforeExposureMs (onward s .done)
  | .done => .done
termination_by phase => Catalogue.index Phase.done - Catalogue.index phase
decreasing_by
  all_goals try simp only [Setup.afterSettling, Setup.afterTower, Setup.afterTiltUp]
  all_goals repeat' split
  all_goals decide

theorem onward_afterTiltUp (s : Setup) : onward s s.afterTiltUp =
    towerLower s (pause .settleBeforeExposure s.params.delayBeforeExposureMs .done) := by
  unfold Setup.afterTiltUp towerLower
  split
  · rw [onward, onward, onward]
  · rw [onward, onward]

theorem onward_tiltUpInitial {s : Setup} {moves : TiltMoves} (hs : s.tilt = some moves) :
    onward s .tiltUpInitial = tiltUp s.geometry moves.up (onward s s.afterTiltUp) := by
  simp only [onward, tilting, hs]
  rfl

theorem onward_tower (s : Setup) : onward s .tower = towerRaise s (onward s s.afterTower) := by
  rw [onward]
  rfl

theorem onward_tiltDownInitial {s : Setup} {moves : TiltMoves} (hs : s.tilt = some moves) :
    onward s .tiltDownInitial = tiltDown moves.down (onward s .tower) := by
  simp only [onward_tower]
  simp only [onward, tilting, hs]
  rfl

theorem onward_idle (s : Setup) : onward s .idle = separation s := by
  rw [onward, onward, separation]
  cases hs : s.tilt with
  | none =>
    simp only [Setup.afterSettling, Setup.afterTower, hs, Option.isSome_none, Bool.false_eq_true, if_false,
      onward_tower, onward_afterTiltUp, id]
  | some moves =>
    simp only [Setup.afterSettling, Setup.afterTower, hs, Option.isSome_some, if_true, onward_tower,
      onward_tiltDownInitial hs, onward_tiltUpInitial hs, onward_afterTiltUp]

def passed (s : Setup) : Way → Script
  | .down => onward s .tower
  | .up => onward s s.afterTiltUp

def released (s : Setup) : Way → Script
  | .down => passed s .down
  | .up => .moveAbsolute .tiltUpUnstuck .tilt s.geometry.heightSteps (passed s .up)

def verdict (s : Setup) (moves : TiltMoves) (way : Way) (stalled : Bool) (position : Int32) : Script :=
  match (StallCheck.mk (way.target s) (way.profile moves).homingTolerance).evaluate stalled position with
  | .clear => passed s way
  | .stalled .. => free way.freeing (released s way) { allowed := (way.profile moves).homingCycles }

def attempted (s : Setup) (way : Way) : HomingStatus × HomingBudget → Script
  | (.recovered _, _) => .recovered (released s way)
  | (.retry, left) => free way.freeing (released s way) left
  | (.exhausted attempts, _) => .fail (.tiltStallUnrecoverable way.freeing attempts)

def covered (s : Setup) (moves : TiltMoves) (way : Way) (position : Int32) : Script :=
  match Width.difference? (way.target s) position with
  | none => outOfTravel way.cycles
  | some distance =>
    (CycleSplit.new distance (way.profile moves).cycles (way.profile moves).delayMs).pending.foldr
      (splitStep way.cycles) (onward s way.checking)

end Script
namespace Sequencer
open Script

def covering (q : Sequencer) (moves : TiltMoves) (way : Way) : Script :=
  if q.sub = 0 then .ask way.cycles (.readPosition .tilt) (covered q.setup moves way)
  else
    match q.split with
    | none => covered q.setup moves way q.position
    | some split => split.pending.foldr (splitStep way.cycles) (onward q.setup way.checking)

def checking (q : Sequencer) (moves : TiltMoves) (way : Way) : Script :=
  if q.sub = 0 then .ask way.checking (.queryStall .tilt) fun stalled =>
    .ask way.checking (.readPosition .tilt) (verdict q.setup moves way stalled)
  else if q.sub = 1 then .ask way.checking (.readPosition .tilt) (verdict q.setup moves way q.stalled)
  else verdict q.setup moves way q.stalled q.position

def freeing (q : Sequencer) (way : Way) : Script :=
  if q.restoring then passed q.setup way
  else if q.sub % 2 = 0 then Script.free way.freeing (released q.setup way) q.homing
  else attempted q.setup way (q.homing.record q.homed)

/-- The script that a state has ahead of it. -/
def ahead (q : Sequencer) : Script :=
  let s := q.setup
  match q.phase with
  | .idle => onward s .idle
  | .settleAfterExposure =>
    if q.sub = 0 then onward s .settleAfterExposure else onward s s.afterSettling
  | .tiltDownInitial => tilting s .tiltDownInitial fun moves =>
    if q.sub = 0 then .setTiltCurve .tiltDownInitial moves.down.initialCurve
      (downOffset moves (onward s .tiltDownOffsetWait))
    else if q.sub = 1 then downOffset moves (onward s .tiltDownOffsetWait)
    else onward s .tiltDownOffsetWait
  | .tiltDownOffsetWait => tilting s .tiltDownOffsetWait fun moves =>
    if q.sub = 0 then Script.pause .tiltDownOffsetWait moves.down.offsetDelayMs (onward s .tiltDownFinish)
    else onward s .tiltDownFinish
  | .tiltDownFinish => if q.sub = 0 then onward s .tiltDownFinish else onward s .tiltDownCycles
  | .tiltDownCycles => tilting s .tiltDownCycles fun moves => q.covering moves .down
  | .stallCheck => tilting s .stallCheck fun moves => q.checking moves .down
  | .unstuck => q.freeing .down
  | .tower =>
    if q.sub = 0 then onward s .tower
    else if q.sub = 1 then towerMove s (onward s s.afterTower)
    else onward s s.afterTower
  | .tiltUpInitial => tilting s .tiltUpInitial fun moves =>
    if q.sub = 0 then .setTiltCurve .tiltUpInitial moves.up.initialCurve
      (upOffset s moves (onward s .tiltUpOffsetWait))
    else if q.sub = 1 then upOffset s moves (onward s .tiltUpOffsetWait)
    else onward s .tiltUpOffsetWait
  | .tiltUpOffsetWait => tilting s .tiltUpOffsetWait fun moves =>
    if q.sub = 0 then Script.pause .tiltUpOffsetWait moves.up.offsetDelayMs (onward s .tiltUpFinish)
    else onward s .tiltUpFinish
  | .tiltUpFinish => if q.sub = 0 then onward s .tiltUpFinish else onward s .tiltUpCycles
  | .tiltUpCycles => tilting s .tiltUpCycles fun moves => q.covering moves .up
  | .tiltUpStallCheck => tilting s .tiltUpStallCheck fun moves => q.checking moves .up
  | .tiltUpUnstuck => q.freeing .up
  | .towerLower =>
    if q.sub = 0 then onward s .towerLower else onward s .settleBeforeExposure
  | .settleBeforeExposure =>
    if q.sub = 0 then onward s .settleBeforeExposure else onward s .done
  | .done => .done

/-- The counters fit the phase. The steps of a stretch are those taken and those to come, and every homing
takes two. -/
def Fits (q : Sequencer) : Prop :=
  match q.phase with
  | .tiltDownCycles | .tiltUpCycles =>
    match q.split with
    | none => q.sub.toNat ≤ 1
    | some split => 0 < q.sub.toNat ∧ q.sub.toNat + split.pending.length ≤ 510
  | .unstuck | .tiltUpUnstuck =>
    q.sub.toNat / 2 = q.homing.attempts.toNat ∧
      (q.sub.toNat % 2 = 1 → q.homing.attempts.toNat < q.homing.allowed.toNat)
  | .done => True
  | _ => q.sub.toNat ≤ 2

/-- How many iterations it may take until something is given. -/
def lag (q : Sequencer) : Nat :=
  match q.phase with
  | .idle => 3
  | .settleAfterExposure | .tiltDownOffsetWait | .tiltUpOffsetWait => 2
  | .tiltDownInitial | .tiltUpInitial => if q.sub = 0 then 1 else 3
  | .unstuck | .tiltUpUnstuck => if q.sub % 2 = 0 ∧ q.restoring = false then 1 else 2
  | .settleBeforeExposure | .done => 1
  | .tiltDownFinish | .tiltDownCycles | .stallCheck | .tower | .tiltUpFinish | .tiltUpCycles
  | .tiltUpStallCheck | .towerLower => if q.sub = 0 then 1 else 2

section
variable {q r : Sequencer} {s : Setup} {moves : TiltMoves} {way : Way}

theorem Fits.few (fits : q.Fits) (unfinished : q.phase ≠ .done) : q.sub.toNat ≤ 511 := by
  have attempts := q.homing.attempts.toNat_lt
  unfold Fits at fits
  split at fits
  · split at fits <;> omega
  · split at fits <;> omega
  · omega
  · omega
  · exact absurd ‹_› unfinished
  · omega

theorem toNat_count (few : q.sub.toNat ≤ 511) : q.count.sub.toNat = q.sub.toNat + 1 := by
  rw [toNat_sub_count]
  omega

theorem one_of_start (start : q.sub = 0) : q.count.sub = 1 :=
  UInt16.toNat_inj.mp (by rw [toNat_count (by rw [start]; decide), start]; rfl)

theorem two_of_second (second : q.sub = 1) : q.count.sub = 2 :=
  UInt16.toNat_inj.mp (by rw [toNat_count (by rw [second]; decide), second]; rfl)

theorem closer (quick : r.lag = 1) (slow : q.lag = 2) : r.lag < q.lag := by omega

theorem ahead_enter (q : Sequencer) {p : Phase} (first : p ≠ .unstuck) (second : p ≠ .tiltUpUnstuck) :
    (q.enter p).Fits ∧ (q.enter p).ahead = onward q.setup p := by
  cases p with
  | unstuck => exact absurd rfl first
  | tiltUpUnstuck => exact absurd rfl second
  | idle | settleAfterExposure | tiltDownFinish | tower | tiltUpFinish | towerLower
  | settleBeforeExposure => exact ⟨Nat.zero_le _, rfl⟩
  | tiltDownInitial | tiltDownOffsetWait | tiltDownCycles | stallCheck | tiltUpInitial
  | tiltUpOffsetWait | tiltUpCycles | tiltUpStallCheck =>
    refine ⟨Nat.zero_le _, ?_⟩
    rw [onward]
    rfl
  | done =>
    refine ⟨trivial, ?_⟩
    rw [onward]
    rfl

theorem ahead_cycles (here : r.phase = way.cycles) (hs : r.setup.tilt = some moves) :
    r.ahead = r.covering moves way := by
  cases way <;> simp only [ahead, here, Way.cycles, tilting, hs]

theorem fits_cycles (here : r.phase = way.cycles) : r.Fits ↔
    match r.split with
    | none => r.sub.toNat ≤ 1
    | some split => 0 < r.sub.toNat ∧ r.sub.toNat + split.pending.length ≤ 510 := by
  cases way <;> simp only [Fits, here, Way.cycles]

theorem ahead_split {split : CycleSplit} (here : r.phase = way.cycles) (hs : r.setup.tilt = some moves)
    (moved : r.sub ≠ 0) (left : r.split = some split)
    (few : r.sub.toNat + split.pending.length ≤ 510) :
    r.Fits ∧ r.ahead = split.pending.foldr (splitStep way.cycles) (onward r.setup way.checking) := by
  have positive : r.sub.toNat ≠ 0 := fun zero => moved (UInt16.toNat_inj.mp zero)
  rw [fits_cycles here, ahead_cycles here hs, covering, if_neg moved, left]
  exact ⟨⟨by omega, few⟩, rfl⟩

theorem ahead_check (here : r.phase = way.checking) (hs : r.setup.tilt = some moves) :
    r.ahead = r.checking moves way := by
  cases way <;> simp only [ahead, here, Way.checking, tilting, hs]

theorem fits_check (here : r.phase = way.checking) : r.Fits ↔ r.sub.toNat ≤ 2 := by
  cases way <;> simp only [Fits, here, Way.checking]

theorem afterSettling_cases (s : Setup) : s.afterSettling = .tiltDownInitial ∨ s.afterSettling = .tower := by
  unfold Setup.afterSettling
  split
  · exact .inl rfl
  · exact .inr rfl

theorem afterTiltUp_eq (r : Sequencer) : r.afterTiltUp = r.enter r.setup.afterTiltUp := by
  unfold afterTiltUp Setup.afterTiltUp
  split <;> rfl

theorem afterTiltUp_cases (s : Setup) : s.afterTiltUp = .towerLower ∨ s.afterTiltUp = .settleBeforeExposure := by
  unfold Setup.afterTiltUp
  split
  · exact .inl rfl
  · exact .inr rfl

theorem leaveCheck_eq (way : Way) (here : r.phase = way.checking ∨ r.phase = way.freeing) :
    ∃ p, r.leaveCheck = r.enter p ∧ passed r.setup way = onward r.setup p ∧ p ≠ .unstuck ∧
      p ≠ .tiltUpUnstuck ∧ (r.enter p).lag = 1 := by
  cases way with
  | down =>
    have left : r.leaveCheck = r.enter .tower := by
      rcases here with here | here <;> simp only [leaveCheck, here, Way.checking, Way.freeing]
    exact ⟨.tower, left, rfl, by decide, by decide, rfl⟩
  | up =>
    have left : r.leaveCheck = r.enter r.setup.afterTiltUp := by
      rcases here with here | here <;>
        simp only [leaveCheck, here, Way.checking, Way.freeing, afterTiltUp_eq]
    rcases afterTiltUp_cases r.setup with h | h
    · exact ⟨_, left, rfl, by rw [h]; decide, by rw [h]; decide, by rw [h]; rfl⟩
    · exact ⟨_, left, rfl, by rw [h]; decide, by rw [h]; decide, by rw [h]; rfl⟩

theorem ahead_free (here : r.phase = way.freeing) : r.ahead = r.freeing way := by
  cases way <;> simp only [ahead, here, Way.freeing]

theorem fits_free (here : r.phase = way.freeing) : r.Fits ↔
    r.sub.toNat / 2 = r.homing.attempts.toNat ∧
      (r.sub.toNat % 2 = 1 → r.homing.attempts.toNat < r.homing.allowed.toNat) := by
  cases way <;> simp only [Fits, here, Way.freeing]

theorem ahead_of_even (here : r.phase = way.freeing) (unrestored : r.restoring = false)
    (even : r.sub % 2 = 0) : r.ahead = Script.free way.freeing (released r.setup way) r.homing := by
  rw [ahead_free here, freeing, unrestored, if_neg Bool.false_ne_true, if_pos even]

theorem ahead_of_odd (here : r.phase = way.freeing) (unrestored : r.restoring = false)
    (odd : ¬ r.sub % 2 = 0) : r.ahead = attempted r.setup way (r.homing.record r.homed) := by
  rw [ahead_free here, freeing, unrestored, if_neg Bool.false_ne_true, if_neg odd]

theorem ahead_of_restoring (here : r.phase = way.freeing) (restored : r.restoring = true) :
    r.ahead = passed r.setup way := by
  rw [ahead_free here, freeing, if_pos restored]

theorem ahead_stuck (r : Sequencer) (way : Way) (allowed : UInt8) :
    let stuck := ({ r with homing := { allowed } }).enter way.freeing
    stuck.Fits ∧ stuck.ahead = Script.free way.freeing (released r.setup way) { allowed } ∧ stuck.lag = 1 := by
  have fits : (0 : UInt16).toNat / 2 = (0 : UInt8).toNat ∧
      ((0 : UInt16).toNat % 2 = 1 → (0 : UInt8).toNat < allowed.toNat) :=
    ⟨rfl, fun odd => absurd odd (by decide)⟩
  refine ⟨(fits_free rfl).mpr fits, ?_, by cases way <;> rfl⟩
  rw [ahead_free rfl]
  rfl

theorem free_of_left {budget : HomingBudget} (left : ¬ budget.isExhausted) :
    Script.free way.freeing (released s way) budget =
      .ask way.freeing (.home .tilt) fun homed => attempted s way (budget.record homed) := by
  rw [Script.free, if_neg left]
  refine congrArg _ (funext fun homed => ?_)
  rcases budget.record homed with ⟨status, spent⟩
  cases status <;> rfl

end

end Sequencer
end LayerSeparation
