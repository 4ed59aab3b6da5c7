import LayerSeparation.Profile.Exposure
import LayerSeparation.Profile.Table
import LayerSeparation.Width

/-! The parameters of one separation with every reference resolved and every range checked. Only a
set that passes here is ever carried out. -/
namespace LayerSeparation

structure TiltMoves where
  down : MovingProfile
  up : MovingProfile
  deriving DecidableEq, Repr

structure Setup where
  params : LayerParams
  tilt : Option TiltMoves
  geometry : TiltGeometry
  nextLayerNm : Int32
  hopNm : Int32

namespace Setup

/-- Profiles that a sequence refers to must stay inside the travel, the one for the way down first. -/
def resolveTilt (table : MovingProfileTable) (geometry : TiltGeometry) :
    Option TiltSequence → Except ProfileError (Option TiltMoves)
  | none => .ok none
  | some sequence => do
    let down ← table.profileFor .tilt sequence.tiltDown
    let up ← table.profileFor .tilt sequence.tiltUp
    down.validateFor geometry
    up.validateFor geometry
    return some ⟨down, up⟩

/-- Geometry comes first, then the parameters, then the profiles they refer to. -/
def resolve (table : MovingProfileTable) (params : LayerParams) (geometry : TiltGeometry)
    (nextLayerNm : Int32) : Except ProfileError Setup := do
  geometry.validate
  params.validate
  let hopNm ← match Width.int32? params.towerHopHeightNm.toNat with
    | some n => .ok n
    | none => .error (.outOfRange "tower_hop_height_nm" params.towerHopHeightNm.toNat)
  let tilt ← resolveTilt table geometry params.tilt
  return { params, tilt, geometry, nextLayerNm, hopNm }

def hops (s : Setup) : Bool := 0 < s.hopNm

end Setup
end LayerSeparation
