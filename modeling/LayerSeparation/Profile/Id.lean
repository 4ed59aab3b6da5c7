import LayerSeparation.Axis

/-! The names a configuration may use: eight speed and current curves for each axis and four moving
profiles, all of which drive the tilt. -/
namespace LayerSeparation

inductive TiltCurve where
  | homingFast
  | homingSlow
  | moveFast
  | moveSlow
  | layerMoveSlow
  | layerRelease
  | layerMoveFast
  | reserved
  deriving DecidableEq, Repr

instance : Catalogue TiltCurve where
  entries := [.homingFast, .homingSlow, .moveFast, .moveSlow, .layerMoveSlow, .layerRelease,
    .layerMoveFast, .reserved]
  name
    | .homingFast => "homing_fast"
    | .homingSlow => "homing_slow"
    | .moveFast => "move_fast"
    | .moveSlow => "move_slow"
    | .layerMoveSlow => "layer_move_slow"
    | .layerRelease => "layer_release"
    | .layerMoveFast => "layer_move_fast"
    | .reserved => "reserved"
  mem_entries a := by cases a <;> simp
  names_nodup := by decide

inductive TowerCurve where
  | homingFast
  | homingSlow
  | moveFast
  | moveSlow
  | layer
  | layerMove
  | superSlow
  | resinSensor
  deriving DecidableEq, Repr

instance : Catalogue TowerCurve where
  entries := [.homingFast, .homingSlow, .moveFast, .moveSlow, .layer, .layerMove, .superSlow,
    .resinSensor]
  name
    | .homingFast => "homing_fast"
    | .homingSlow => "homing_slow"
    | .moveFast => "move_fast"
    | .moveSlow => "move_slow"
    | .layer => "layer"
    | .layerMove => "layer_move"
    | .superSlow => "super_slow"
    | .resinSensor => "resin_sensor"
  mem_entries a := by cases a <;> simp
  names_nodup := by decide

inductive MovingProfileId where
  | tiltDownLargeFill
  | tiltDownSmallFill
  | tiltUpLargeFill
  | tiltUpSmallFill
  deriving DecidableEq, Repr

instance : Catalogue MovingProfileId where
  entries := [.tiltDownLargeFill, .tiltDownSmallFill, .tiltUpLargeFill, .tiltUpSmallFill]
  name
    | .tiltDownLargeFill => "tilt_down_large_fill"
    | .tiltDownSmallFill => "tilt_down_small_fill"
    | .tiltUpLargeFill => "tilt_up_large_fill"
    | .tiltUpSmallFill => "tilt_up_small_fill"
  mem_entries a := by cases a <;> simp
  names_nodup := by decide

namespace MovingProfileId

def axis (_ : MovingProfileId) : Axis := .tilt

def name (m : MovingProfileId) : String := Catalogue.name m

end MovingProfileId
end LayerSeparation
