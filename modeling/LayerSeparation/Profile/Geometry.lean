import LayerSeparation.Profile.Error

/-! Tilt positions known from calibration. Position zero is the bottom stop, where the layer has
been released. -/
namespace LayerSeparation

def topStopSteps : Int := 6016

structure TiltGeometry where
  /-- The horizontal position, in which layers are exposed. -/
  heightSteps : Int32
  deriving DecidableEq, Repr

namespace TiltGeometry

def factory : TiltGeometry := ⟨4928⟩

def validate (g : TiltGeometry) : Except ProfileError Unit :=
  checkRange "tilt_height_steps" g.heightSteps.toInt 1 topStopSteps

end TiltGeometry
end LayerSeparation
