import LayerSeparation.Profile.Curve
import LayerSeparation.Profile.Geometry

/-! Moving profiles. One tilt move is a first stretch with one curve, a pause, and the rest of the
way with another curve, split into equal parts. The ranges checked here are those of the fields; the
travel of a particular machine is a second check. -/
namespace LayerSeparation

structure MovingProfile where
  initialCurve : TiltCurve
  offsetSteps : Int32
  offsetDelayMs : UInt32
  finishCurve : TiltCurve
  cycles : UInt8
  delayMs : UInt32
  homingTolerance : UInt32
  homingCycles : UInt8
  deriving DecidableEq, Repr

namespace MovingProfile

def maxOffsetSteps : Int := 10000
def maxPauseMs : Int := 20000
def maxCycles : Int := 10

/-- The fields are in range. Tolerance and homing attempts are free. -/
def validate (p : MovingProfile) : Except ProfileError Unit := do
  checkRange "offset_steps" p.offsetSteps.toInt 0 maxOffsetSteps
  checkRange "offset_delay_ms" p.offsetDelayMs.toNat 0 maxPauseMs
  checkRange "cycles" p.cycles.toNat 0 maxCycles
  checkRange "delay_ms" p.delayMs.toNat 0 maxPauseMs

def validateFor (p : MovingProfile) (g : TiltGeometry) : Except ProfileError Unit := do
  p.validate
  checkRange "offset_steps" p.offsetSteps.toInt 0 g.heightSteps.toInt

end MovingProfile
end LayerSeparation
