import LayerSeparation.Width

/-! The check of the tilt after a move. The tilt is stuck if the driver says so, or if it stands
farther from its target than the tolerance. The distance is exact for every pair of positions. -/
namespace LayerSeparation

inductive StallOutcome where
  | clear
  | stalled (position : Int32) (deviation : UInt32)
  deriving DecidableEq, Repr

def StallOutcome.isClear : StallOutcome → Bool
  | .clear => true
  | .stalled .. => false

structure StallCheck where
  target : Int32
  tolerance : UInt32
  deriving DecidableEq, Repr

namespace StallCheck

def evaluate (c : StallCheck) (stalled : Bool) (position : Int32) : StallOutcome :=
  let deviation := Width.distance position c.target
  if stalled || c.tolerance < deviation then .stalled position deviation else .clear

theorem isClear_evaluate_iff (c : StallCheck) (stalled : Bool) (position : Int32) :
    (c.evaluate stalled position).isClear ↔
      stalled = false ∧ (position.toInt - c.target.toInt).natAbs ≤ c.tolerance.toNat := by
  have h := Width.toNat_distance position c.target
  unfold evaluate
  cases stalled
  · by_cases ht : c.tolerance < Width.distance position c.target
    · have := UInt32.lt_iff_toNat_lt.1 ht
      simp [ht, StallOutcome.isClear]
      omega
    · have := mt UInt32.lt_iff_toNat_lt.2 ht
      simp [ht, StallOutcome.isClear]
      omega
  · simp [StallOutcome.isClear]

end StallCheck
end LayerSeparation
