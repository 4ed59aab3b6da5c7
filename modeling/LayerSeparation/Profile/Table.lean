import LayerSeparation.Profile.Moving

/-! The table of a machine: the curves of both axes and the four moving profiles. It is built once
and only read afterwards. -/
namespace LayerSeparation

def MovingProfileId.factoryProfile : MovingProfileId → MovingProfile
  | .tiltDownLargeFill => ⟨.layerRelease, 650, 1000, .layerMoveSlow, 1, 0, 64, 3⟩
  | .tiltDownSmallFill => ⟨.layerRelease, 0, 0, .layerMoveFast, 1, 0, 0, 0⟩
  | .tiltUpLargeFill => ⟨.moveFast, 400, 0, .layerRelease, 1, 0, 0, 0⟩
  | .tiltUpSmallFill => ⟨.moveFast, 400, 0, .layerRelease, 1, 0, 0, 0⟩

structure MovingProfileTable where
  tiltCurves : CurveTable TiltCurve
  towerCurves : CurveTable TowerCurve
  moving : MovingProfileId → MovingProfile

namespace MovingProfileTable

def factory : MovingProfileTable := ⟨.unset, .unset, MovingProfileId.factoryProfile⟩

def toList (t : MovingProfileTable) : List MovingProfile := Catalogue.entries.map t.moving

def profileFor (t : MovingProfileTable) (axis : Axis) (id : MovingProfileId) :
    Except ProfileError MovingProfile :=
  if id.axis = axis then .ok (t.moving id) else .error (.unknownProfile axis (.moving id))

def profileByName (t : MovingProfileTable) (axis : Axis) (name : String) :
    Except ProfileError MovingProfile :=
  match Catalogue.ofName? name with
  | some id => t.profileFor axis id
  | none => .error (.unknownName axis name)

def profileByIndex (t : MovingProfileTable) (axis : Axis) (i : UInt8) :
    Except ProfileError MovingProfile :=
  match Catalogue.ofIndex? i.toNat with
  | some id => t.profileFor axis id
  | none => .error (.unknownIndex axis i)

def validate (t : MovingProfileTable) : Except ProfileError Unit :=
  t.toList.forM MovingProfile.validate

theorem eq_iff {s t : MovingProfileTable} : s = t ↔
    s.tiltCurves = t.tiltCurves ∧ s.towerCurves = t.towerCurves ∧ s.toList = t.toList := by
  unfold toList
  rw [← Catalogue.funext_iff_map]
  cases s
  cases t
  simp

instance : DecidableEq MovingProfileTable := fun _ _ => decidable_of_iff _ eq_iff.symm

end MovingProfileTable
end LayerSeparation
