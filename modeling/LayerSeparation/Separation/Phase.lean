import LayerSeparation.Catalogue

/-! Phases of a layer separation, in the order in which they run. Tilt phases are left out without a
tilt, the phases that free a stuck tilt come only after a failed check, and the tower is lowered
only after a hop. -/
namespace LayerSeparation

inductive Phase where
  | idle
  | settleAfterExposure
  | tiltDownInitial
  | tiltDownOffsetWait
  | tiltDownFinish
  | tiltDownCycles
  | stallCheck
  | unstuck
  | tower
  | tiltUpInitial
  | tiltUpOffsetWait
  | tiltUpFinish
  | tiltUpCycles
  | tiltUpStallCheck
  | tiltUpUnstuck
  | towerLower
  | settleBeforeExposure
  | done
  deriving DecidableEq, Repr

instance : Catalogue Phase where
  entries := [.idle, .settleAfterExposure, .tiltDownInitial, .tiltDownOffsetWait, .tiltDownFinish,
    .tiltDownCycles, .stallCheck, .unstuck, .tower, .tiltUpInitial, .tiltUpOffsetWait,
    .tiltUpFinish, .tiltUpCycles, .tiltUpStallCheck, .tiltUpUnstuck, .towerLower,
    .settleBeforeExposure, .done]
  name
    | .idle => "Idle"
    | .settleAfterExposure => "SettleAfterExposure"
    | .tiltDownInitial => "TiltDownInitial"
    | .tiltDownOffsetWait => "TiltDownOffsetWait"
    | .tiltDownFinish => "TiltDownFinish"
    | .tiltDownCycles => "TiltDownCycles"
    | .stallCheck => "StallCheck"
    | .unstuck => "Unstuck"
    | .tower => "TowerPhase"
    | .tiltUpInitial => "TiltUpInitial"
    | .tiltUpOffsetWait => "TiltUpOffsetWait"
    | .tiltUpFinish => "TiltUpFinish"
    | .tiltUpCycles => "TiltUpCycles"
    | .tiltUpStallCheck => "TiltUpStallCheck"
    | .tiltUpUnstuck => "TiltUpUnstuck"
    | .towerLower => "TowerLower"
    | .settleBeforeExposure => "SettleBeforeExposure"
    | .done => "Done"
  mem_entries a := by cases a <;> simp
  names_nodup := by decide

namespace Phase

def text : Phase → String
  | .idle => "idle"
  | .settleAfterExposure => "settle after exposure"
  | .tiltDownInitial => "tilt down initial"
  | .tiltDownOffsetWait => "tilt down offset wait"
  | .tiltDownFinish => "tilt down finish"
  | .tiltDownCycles => "tilt down cycles"
  | .stallCheck => "stall check"
  | .unstuck => "unstuck"
  | .tower => "tower"
  | .tiltUpInitial => "tilt up initial"
  | .tiltUpOffsetWait => "tilt up offset wait"
  | .tiltUpFinish => "tilt up finish"
  | .tiltUpCycles => "tilt up cycles"
  | .tiltUpStallCheck => "tilt up stall check"
  | .tiltUpUnstuck => "tilt up unstuck"
  | .towerLower => "tower lower"
  | .settleBeforeExposure => "settle before exposure"
  | .done => "done"

def isTilt : Phase → Bool
  | .tiltDownInitial | .tiltDownOffsetWait | .tiltDownFinish | .tiltDownCycles | .stallCheck
  | .unstuck | .tiltUpInitial | .tiltUpOffsetWait | .tiltUpFinish | .tiltUpCycles
  | .tiltUpStallCheck | .tiltUpUnstuck => true
  | .idle | .settleAfterExposure | .tower | .towerLower | .settleBeforeExposure | .done => false

def compare (p q : Phase) : Ordering := Ord.compare (Catalogue.index p) (Catalogue.index q)

instance : LE Phase := ⟨fun p q => Catalogue.index p ≤ Catalogue.index q⟩
instance : LT Phase := ⟨fun p q => Catalogue.index p < Catalogue.index q⟩
instance (p q : Phase) : Decidable (p ≤ q) :=
  inferInstanceAs (Decidable (Catalogue.index p ≤ Catalogue.index q))
instance (p q : Phase) : Decidable (p < q) :=
  inferInstanceAs (Decidable (Catalogue.index p < Catalogue.index q))

end Phase
end LayerSeparation
