import LayerSeparation.Separation.Error
import LayerSeparation.Separation.Setup
import LayerSeparation.Tilt.Homing
import LayerSeparation.Tilt.Split
import LayerSeparation.Tilt.Stall

/-! A separation as a tree of commands. Each command names the phase it belongs to and is followed by
one tree for every answer it can get, so a script is finite whatever is answered. Nothing here
touches a driver. -/
namespace LayerSeparation

inductive Script where
  | done
  | fail (e : SeparationError)
  /-- A stuck tilt was freed. -/
  | recovered (rest : Script)
  | ask (phase : Phase) (command : Command) (next : command.Answer → Script)

namespace Script

def setTiltCurve (phase : Phase) (curve : TiltCurve) (rest : Script) : Script :=
  .ask phase (.setTiltCurve curve) fun _ => rest

def setTowerCurve (phase : Phase) (curve : TowerCurve) (rest : Script) : Script :=
  .ask phase (.setTowerCurve curve) fun _ => rest

def moveRelative (phase : Phase) (axis : Axis) (steps : Int32) (rest : Script) : Script :=
  .ask phase (.moveRelative axis steps) fun _ => rest

def moveAbsolute (phase : Phase) (axis : Axis) (position : Int32) (rest : Script) : Script :=
  .ask phase (.moveAbsolute axis position) fun _ => rest

/-- A pause of no length is left out. -/
def pause (phase : Phase) (ms : UInt32) (rest : Script) : Script :=
  if 0 < ms then .ask phase (.wait ms) fun _ => rest else rest

/-- The tilt would have to travel farther than a word can say. -/
def outOfTravel (phase : Phase) : Script := .fail (.axisCommandFailure .tilt phase .outOfBounds)

def splitStep (phase : Phase) : SplitStep → Script → Script
  | .move steps, rest => .moveRelative phase .tilt steps rest
  | .wait ms, rest => .ask phase (.wait ms) fun _ => rest

def cycles (phase : Phase) (target : Int32) (profile : MovingProfile) (rest : Script) : Script :=
  .ask phase (.readPosition .tilt) fun position =>
    match Width.difference? target position with
    | none => outOfTravel phase
    | some distance =>
      (CycleSplit.new distance profile.cycles profile.delayMs).pending.foldr (splitStep phase) rest

def free (phase : Phase) (rest : Script) (budget : HomingBudget) : Script :=
  if budget.isExhausted then .fail (.tiltStallUnrecoverable phase budget.attempts)
  else .ask phase (.home .tilt) fun homed =>
    match _h : budget.record homed with
    | (.recovered _, _) => .recovered rest
    | (.retry, left) => free phase rest left
    | (.exhausted attempts, _) => .fail (.tiltStallUnrecoverable phase attempts)
termination_by budget.remaining.toNat
decreasing_by exact HomingBudget.remaining_lt_of_record_retry _h

/-- Goes on with `clear` if the tilt stands at `target`, and otherwise frees it and goes on with
`freed`. -/
def check (phase freeing : Phase) (target : Int32) (profile : MovingProfile)
    (freed clear : Script) : Script :=
  .ask phase (.queryStall .tilt) fun stalled =>
  .ask phase (.readPosition .tilt) fun position =>
    match (StallCheck.mk target profile.homingTolerance).evaluate stalled position with
    | .clear => clear
    | .stalled .. => free freeing freed { allowed := profile.homingCycles }

def tiltDown (profile : MovingProfile) (rest : Script) : Script :=
  .setTiltCurve .tiltDownInitial profile.initialCurve <|
  (if 0 < profile.offsetSteps then
    .moveRelative .tiltDownInitial .tilt (-profile.offsetSteps) else id) <|
  pause .tiltDownOffsetWait profile.offsetDelayMs <|
  .setTiltCurve .tiltDownFinish profile.finishCurve <|
  cycles .tiltDownCycles 0 profile <|
  check .stallCheck .unstuck 0 profile rest rest

/-- Back up to the exposure position. A freed tilt stands at the bottom and is sent up again. -/
def tiltUp (geometry : TiltGeometry) (profile : MovingProfile) (rest : Script) : Script :=
  .setTiltCurve .tiltUpInitial profile.initialCurve <|
  match Width.difference? geometry.heightSteps profile.offsetSteps with
  | none => outOfTravel .tiltUpInitial
  | some position =>
    .moveAbsolute .tiltUpInitial .tilt position <|
    pause .tiltUpOffsetWait profile.offsetDelayMs <|
    .setTiltCurve .tiltUpFinish profile.finishCurve <|
    cycles .tiltUpCycles geometry.heightSteps profile <|
    check .tiltUpStallCheck .tiltUpUnstuck geometry.heightSteps profile
      (.moveAbsolute .tiltUpUnstuck .tilt geometry.heightSteps rest) rest

def towerRaise (s : Setup) (rest : Script) : Script :=
  .setTowerCurve .tower s.params.towerCurve <|
  if s.hops then .moveRelative .tower .tower s.hopNm rest
  else .moveAbsolute .tower .tower s.nextLayerNm rest

def towerLower (s : Setup) (rest : Script) : Script :=
  if s.hops then .moveAbsolute .towerLower .tower s.nextLayerNm rest else rest

def separation (s : Setup) : Script :=
  pause .settleAfterExposure s.params.delayAfterExposureMs <|
  (match s.tilt with
    | some moves => tiltDown moves.down
    | none => id) <|
  towerRaise s <|
  (match s.tilt with
    | some moves => tiltUp s.geometry moves.up
    | none => id) <|
  towerLower s <|
  pause .settleBeforeExposure s.params.delayBeforeExposureMs .done

end Script
end LayerSeparation
