import LayerSeparation.Catalogue

/-! Names under which a profile file may define parameter sets. A layer profile is one set; an
exposure profile picks one for small and one for large areas. -/
namespace LayerSeparation

/-- Listed from the fastest on. -/
inductive LayerProfileId where
  | superFast
  | fast
  | slow
  | superSlow
  deriving DecidableEq, Repr

instance : Catalogue LayerProfileId where
  entries := [.superFast, .fast, .slow, .superSlow]
  name
    | .superFast => "super_fast"
    | .fast => "fast"
    | .slow => "slow"
    | .superSlow => "super_slow"
  mem_entries a := by cases a <;> simp
  names_nodup := by decide

inductive ExposureProfileId where
  /-- Taken if a file selects none. -/
  | default
  | safe
  | highViscosity
  deriving DecidableEq, Repr

instance : Catalogue ExposureProfileId where
  entries := [.default, .safe, .highViscosity]
  name
    | .default => "default"
    | .safe => "safe"
    | .highViscosity => "high_viscosity"
  mem_entries a := by cases a <;> simp
  names_nodup := by decide

end LayerSeparation
