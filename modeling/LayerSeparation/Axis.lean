import LayerSeparation.Catalogue

/-! The two axes that take part in a layer separation. Tilt positions are microsteps, tower
positions nanometres. -/
namespace LayerSeparation

/-- The tilt peels the layer off the vat membrane; the tower carries the platform. -/
inductive Axis where
  | tilt
  | tower
  deriving DecidableEq, Repr

instance : Catalogue Axis where
  entries := [.tilt, .tower]
  name
    | .tilt => "tilt"
    | .tower => "tower"
  mem_entries a := by cases a <;> simp
  names_nodup := by decide

def Axis.name (a : Axis) : String := Catalogue.name a

end LayerSeparation
