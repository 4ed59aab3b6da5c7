import LayerSeparation.Profile.Exposure
import LayerSeparation.Profile.Table

/-! Tilt tuning of a machine that keeps it in a few numbers: the four moving profiles, a threshold in
percent and one tower hop. -/
namespace LayerSeparation

structure Tuning where
  rows : MovingProfileId → MovingProfile := MovingProfileId.factoryProfile
  useTilt : Bool := true
  /-- Threshold between small and large layers, in percent of the display area. -/
  fastLimitPercent : UInt8 := 45
  /-- Tower hop in microsteps of the tower. -/
  towerHopSteps : UInt32 := 0
  tiltHeight : Int32 := TiltGeometry.factory.heightSteps
  screwMm : UInt32 := 4
  delayBeforeExposureMs : UInt32 := 0
  delayAfterExposureMs : UInt32 := 0

namespace Tuning

/-- Two hundred full steps of sixteen microsteps each. -/
def towerStepsPerTurn : Nat := 200 * 16

def nmPerMm : Nat := 1000000

/-- Curves are left to the motion controller. -/
def table (t : Tuning) : MovingProfileTable := ⟨.unset, .unset, t.rows⟩

def geometry (t : Tuning) : TiltGeometry := ⟨t.tiltHeight⟩

/-- Height of the tower hop, rounded down, or the greatest word if it does not fit. -/
def towerHopNm (t : Tuning) : UInt32 :=
  let nm := t.towerHopSteps.toNat * nmPerMm * t.screwMm.toNat / towerStepsPerTurn
  UInt32.ofNat (min nm 0xffffffff)

def layerParams (t : Tuning) (tiltDown tiltUp : MovingProfileId) (hopNm : UInt32) : LayerParams where
  delayBeforeExposureMs := t.delayBeforeExposureMs
  delayAfterExposureMs := t.delayAfterExposureMs
  towerHopHeightNm := hopNm
  towerCurve := .layer
  tilt := if t.useTilt then some ⟨tiltDown, tiltUp, 0⟩ else none

/-- With the tilt only large layers hop, without it all do. -/
def exposureProfile (t : Tuning) (displayAreaMm2 : Float32) : ExposureProfile where
  areaFill := areaFillFromPercent t.fastLimitPercent displayAreaMm2
  below := t.layerParams .tiltDownSmallFill .tiltUpSmallFill (if t.useTilt then 0 else t.towerHopNm)
  above := t.layerParams .tiltDownLargeFill .tiltUpLargeFill t.towerHopNm

end Tuning
end LayerSeparation
