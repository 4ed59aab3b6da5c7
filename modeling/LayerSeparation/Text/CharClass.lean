/-! Classes of characters, given as ranges of code points. -/
namespace LayerSeparation.Text

/-- Ranges of code points with both ends included. -/
structure CharClass where
  ranges : List (Nat × Nat)

def CharClass.contains (k : CharClass) (c : Char) : Bool :=
  k.ranges.any fun (lo, hi) => lo ≤ c.toNat && c.toNat ≤ hi

end LayerSeparation.Text
