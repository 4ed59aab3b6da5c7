import LayerSeparation.Profile.Error

/-! Speed and current curves. Each axis has eight; the motion controller holds their raw values and
a separation only selects among them. -/
namespace LayerSeparation

class Curve (C : Type) extends Catalogue C where
  axis : Axis

instance : Curve TiltCurve where
  axis := .tilt

instance : Curve TowerCurve where
  axis := .tower

namespace Curve
variable {C : Type} [Curve C]

def ofIndex (i : UInt8) : Except ProfileError C :=
  match (Catalogue.ofIndex? i.toNat : Option C) with
  | some c => .ok c
  | none => .error (.unknownIndex (axis C) i)

def ofName (s : String) : Except ProfileError C :=
  match (Catalogue.ofName? s : Option C) with
  | some c => .ok c
  | none => .error (.unknownName (axis C) s)

end Curve

structure CurveParams where
  startingSteprate : UInt16 := 0
  maximumSteprate : UInt16 := 0
  acceleration : UInt16 := 0
  deceleration : UInt16 := 0
  current : UInt16 := 0
  stallguardThreshold : Int8 := 0
  coolstepThreshold : UInt16 := 0
  deriving DecidableEq, Repr

structure CurveTable (C : Type) where
  get : C → CurveParams

namespace CurveTable
variable {C : Type}

def unset : CurveTable C := ⟨fun _ => {}⟩

def set [DecidableEq C] (t : CurveTable C) (curve : C) (params : CurveParams) : CurveTable C :=
  ⟨fun c => if c = curve then params else t.get c⟩

def toList [Catalogue C] (t : CurveTable C) : List (C × CurveParams) :=
  Catalogue.entries.map fun c => (c, t.get c)

instance [Catalogue C] : DecidableEq (CurveTable C) := fun s t =>
  decidable_of_iff ((Catalogue.entries.map s.get : List CurveParams) = Catalogue.entries.map t.get)
    (by rw [← Catalogue.funext_iff_map]; cases s; cases t; simp)

end CurveTable
end LayerSeparation
