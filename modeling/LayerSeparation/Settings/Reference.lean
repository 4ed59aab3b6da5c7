import LayerSeparation.Profile.Curve

/-! References to members of an enumeration, by position or by name. -/
namespace LayerSeparation

inductive Reference where
  | index (i : UInt8)
  | name (s : String)
  deriving DecidableEq, Repr

namespace Reference

def text : Reference → String
  | .index i => s!"index {i}"
  | .name s => s!"\"{s}\""

def curve {C : Type} [Curve C] : Reference → Except ProfileError C
  | .index i => Curve.ofIndex i
  | .name s => Curve.ofName s

def entry? {α : Type} [Catalogue α] : Reference → Option α
  | .index i => Catalogue.ofIndex? i.toNat
  | .name s => Catalogue.ofName? s

end Reference
end LayerSeparation
