import LayerSeparation.Profile.Curve

/-! Separation parameters and their choice by the cured area. The choice is one comparison of single
precision numbers: an area equal to the threshold is above it, and so is one that is not a
number. -/
namespace LayerSeparation

inductive Fill where
  | below
  | above
  deriving DecidableEq, Repr

instance : Catalogue Fill where
  entries := [.below, .above]
  name
    | .below => "below"
    | .above => "above"
  mem_entries a := by cases a <;> simp
  names_nodup := by decide

structure TiltSequence where
  tiltDown : MovingProfileId
  tiltUp : MovingProfileId
  /-- Expected duration of the tilt moves. It is reported and has no other use. -/
  movesTimeMs : UInt32
  deriving DecidableEq, Repr

structure LayerParams where
  delayBeforeExposureMs : UInt32
  delayAfterExposureMs : UInt32
  /-- How far the tower is raised before it goes to the next layer; zero goes there directly. -/
  towerHopHeightNm : UInt32
  towerCurve : TowerCurve
  tilt : Option TiltSequence
  deriving DecidableEq, Repr

namespace LayerParams

def maxSettleMs : Int := 30000
def maxHopNm : Int := 100000000
def maxMovesTimeMs : Int := 600000

def useTilt (p : LayerParams) : Bool := p.tilt.isSome

def validate (p : LayerParams) : Except ProfileError Unit := do
  checkRange "delay_before_exposure_ms" p.delayBeforeExposureMs.toNat 0 maxSettleMs
  checkRange "delay_after_exposure_ms" p.delayAfterExposureMs.toNat 0 maxSettleMs
  checkRange "tower_hop_height_nm" p.towerHopHeightNm.toNat 0 maxHopNm
  match p.tilt with
  | some sequence => checkRange "moves_time_ms" sequence.movesTimeMs.toNat 0 maxMovesTimeMs
  | none => .ok ()

end LayerParams

/-- Two parameter sets and the area in square millimetres that parts them. -/
structure ExposureProfile where
  areaFill : Float32
  below : LayerParams
  above : LayerParams

namespace ExposureProfile

def fillFor (e : ExposureProfile) (area : Float32) : Fill :=
  if area < e.areaFill then .below else .above

def params (e : ExposureProfile) : Fill → LayerParams
  | .below => e.below
  | .above => e.above

def select (e : ExposureProfile) (area : Float32) : LayerParams := e.params (e.fillFor area)

/-- A threshold is finite and not negative. The report rounds it toward zero and clamps it to a
signed 64 bit word; what is not a number is reported as zero. -/
def validate (e : ExposureProfile) : Except ProfileError Unit := do
  if !e.areaFill.isFinite || e.areaFill < 0 then
    throw (.outOfRange "area_fill" e.areaFill.toInt64.toInt)
  e.below.validate
  e.above.validate

end ExposureProfile

def areaFillFromPercent (percent : UInt8) (displayAreaMm2 : Float32) : Float32 :=
  displayAreaMm2 * percent.toFloat32 / 100

end LayerSeparation
