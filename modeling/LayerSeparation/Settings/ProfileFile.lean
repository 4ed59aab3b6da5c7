import LayerSeparation.Profile.Geometry
import LayerSeparation.Settings.Reference
import LayerSeparation.Settings.Sections

/-! Contents of a profile file before its references are resolved. -/
namespace LayerSeparation

structure MovingSection where
  initialCurve : Reference
  offsetSteps : Int32 := 0
  offsetDelayMs : UInt32 := 0
  finishCurve : Reference
  cycles : UInt8 := 0
  delayMs : UInt32 := 0
  homingTolerance : UInt32 := 0
  homingCycles : UInt8 := 0
  deriving DecidableEq, Repr

structure SeparationSection where
  delayBeforeExposureMs : UInt32 := 0
  delayAfterExposureMs : UInt32 := 0
  towerHopHeightNm : UInt32 := 0
  towerCurve : Reference
  useTilt : Bool := true
  tiltDown : Option String := none
  tiltUp : Option String := none
  movesTimeMs : UInt32 := 0
  deriving DecidableEq, Repr

structure PresetSection where
  smallFill : Reference
  largeFill : Reference
  deriving DecidableEq, Repr

structure ExposureSection where
  areaFill : Option Float32 := none
  areaFillPercent : Option UInt8 := none
  displayAreaMm2 : Option Float32 := none
  profile : Option Reference := none
  below : Option SeparationSection := none
  above : Option SeparationSection := none

structure ProfileFile where
  geometry : Option TiltGeometry := none
  tiltCurves : Sections CurveParams := {}
  towerCurves : Sections CurveParams := {}
  movingProfiles : Sections MovingSection := {}
  layerProfiles : Sections SeparationSection := {}
  exposureProfiles : Sections PresetSection := {}
  exposure : ExposureSection

end LayerSeparation
