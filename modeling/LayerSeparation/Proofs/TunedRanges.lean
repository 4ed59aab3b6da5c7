import LayerSeparation.Proofs.Admission
import LayerSeparation.Proofs.RowFormat
import LayerSeparation.Proofs.TunedHop

/-! What holds of every tuning that a text gives, however long the text. Each assignment is clamped where it is
made and each row is checked where it is read, so table and geometry pass their checks and every setting lies in
its range. The tower hop is computed without a loss: the product of the settings fits into 64 bits and its
quotient into 32. -/
namespace LayerSeparation

open Tuning

theorem MovingProfileId.validate_factoryProfile (id : MovingProfileId) : id.factoryProfile.validate = .ok () := by
  cases id <;> rfl

theorem MovingProfileId.Chosen.validate {pairs : List Assignment} {id : MovingProfileId} {p : MovingProfile}
    (h : id.Chosen pairs p) : p.validate = .ok () := by
  cases h with
  | own given =>
    obtain ⟨_, _, _, _, read⟩ := given
    exact (MovingProfile.ofRow_eq_ok_iff.mp read).2
  | common _ _ given =>
    obtain ⟨_, _, _, _, read⟩ := given
    exact (MovingProfile.ofRow_eq_ok_iff.mp read).2
  | factory => exact id.validate_factoryProfile

namespace Tuning
variable {t : Tuning} {pairs : List Assignment}

theorem le_settingOf {default lo hi : Int} (low : lo ≤ default) (value : Option (List Char)) :
    lo ≤ settingOf default lo hi value := by
  unfold settingOf
  split <;> omega

theorem Follows.validate_table (h : t.Follows pairs) : t.table.validate = .ok () := by
  have rows : ∀ id, (t.rows id).validate = .ok () := by
    intro id
    by_cases bad : Malformed pairs
    · rw [h.given_up bad id]
      exact id.validate_factoryProfile
    · exact (h.chosen bad id).validate
  exact forM_eq_ok_iff.mpr (List.forall_mem_map.mpr fun id _ => rows id)

structure Sound (t : Tuning) : Prop where
  table : t.table.validate = .ok ()
  geometry : t.geometry.validate = .ok ()
  fastLimit : t.fastLimitPercent.toNat ≤ 100
  towerHop : t.towerHopSteps.toNat ≤ 8000
  screwPitch : 1 ≤ t.screwMm.toNat ∧ t.screwMm.toNat ≤ 100
  delayBefore : 100 ∣ t.delayBeforeExposureMs.toNat ∧ t.delayBeforeExposureMs.toNat ≤ 30000
  delayAfter : 100 ∣ t.delayAfterExposureMs.toNat ∧ t.delayAfterExposureMs.toNat ≤ 30000

/-- The height of the hop is exact, each of its products fits into 64 bits, and the quotient into 32. -/
structure HopExact (t : Tuning) : Prop where
  factor : t.towerHopSteps.toNat * 1000000 < UInt64.size
  product : t.towerHopSteps.toNat * 1000000 * t.screwMm.toNat < UInt64.size
  quotient : t.towerHopSteps.toNat * 1000000 * t.screwMm.toNat / 3200 < UInt32.size
  height : t.towerHopNm.toNat = t.towerHopSteps.toNat * t.screwMm.toNat * 1000000 / 3200

/-- Where the hop is made: by large layers, and by small ones unless the tilt separates them. -/
structure HopPlaced (t : Tuning) (e : ExposureProfile) : Prop where
  above : e.above.towerHopHeightNm = t.towerHopNm
  belowWithout : t.useTilt = false → e.below.towerHopHeightNm = t.towerHopNm
  belowWith : t.useTilt = true → e.below.towerHopHeightNm = 0

theorem Follows.sound (h : t.Follows pairs) (height : t.geometry.validate = .ok ()) : t.Sound := by
  have within := h.inRange
  have fastLimit : (t.fastLimitPercent.toNat : Int) = settingOf 45 0 100 _ := h.settings .fastLimit
  have screwPitch : (t.screwMm.toNat : Int) = settingOf 4 1 100 _ := h.settings .screwPitch
  have before : (t.delayBeforeExposureMs.toNat : Int) = 100 * settingOf 0 0 300 _ :=
    h.settings .delayBeforeExposure
  have after : (t.delayAfterExposureMs.toNat : Int) = 100 * settingOf 0 0 300 _ :=
    h.settings .delayAfterExposure
  constructor
  case table => exact h.validate_table
  case geometry => exact height
  case towerHop => exact within.towerHop
  case fastLimit =>
    have percent : settingOf 45 0 100 (lastValue pairs .fastLimit) ≤ 100 :=
      settingOf_le (by decide) (by decide) _
    omega
  case screwPitch =>
    have pitch : 1 ≤ settingOf 4 1 100 (lastValue pairs .screwPitch) :=
      le_settingOf (by decide) _
    exact ⟨by omega, within.screwPitch⟩
  case delayBefore => exact ⟨by omega, within.delayBefore⟩
  case delayAfter => exact ⟨by omega, within.delayAfter⟩

theorem InRange.hopExact (h : t.InRange) : t.HopExact := by
  have product : t.towerHopSteps.toNat * t.screwMm.toNat ≤ 8000 * 100 :=
    Nat.mul_le_mul h.towerHop h.screwPitch
  have order : t.towerHopSteps.toNat * 1000000 * t.screwMm.toNat =
      t.towerHopSteps.toNat * t.screwMm.toNat * 1000000 := Nat.mul_right_comm _ _ _
  have steps := h.towerHop
  constructor
  case factor =>
    simp only [UInt64.size]
    omega
  case product =>
    simp only [UInt64.size]
    omega
  case quotient =>
    simp only [UInt32.size]
    omega
  case height =>
    rw [h.toNat_towerHopNm, order]

theorem hopPlaced (t : Tuning) (display : Float32) : t.HopPlaced (t.exposureProfile display) where
  above := rfl
  belowWithout off := by simp only [exposureProfile, layerParams, off, Bool.false_eq_true, if_false]
  belowWith on := by simp only [exposureProfile, layerParams, on, if_true]

/-- Whatever a text says, if it is accepted at all, its tuning is sound, and the hop is placed without a loss. -/
theorem sound_of_text {text : String} (accepted : ofText text = .ok t) :
    t.Sound ∧ t.HopExact ∧ ∀ display, t.HopPlaced (t.exposureProfile display) := by
  obtain ⟨d, held, rfl, height⟩ := draft_of_text accepted
  have follows := held.finish
  exact ⟨follows.sound height, follows.inRange.hopExact, hopPlaced _⟩

def excessiveText : String :=
  "layertowerhop = 8001\nscrewmm = 500\nlimit4fast = 256\ndelayafterexposure = -1\ntiltup = 2 300 0 5 1 0 0 0\n"

theorem sound_of_text_excessive : ∃ t, ofText excessiveText = .ok t ∧
    (t.Sound ∧ t.HopExact ∧ ∀ display, t.HopPlaced (t.exposureProfile display)) ∧
      t.fastLimitPercent = 100 ∧ t.delayAfterExposureMs = 0 ∧ t.towerHopNm = 250000000 := by
  obtain ⟨t, accepted, facts⟩ : ∃ t, ofText excessiveText = .ok t ∧ t.fastLimitPercent = 100 ∧
      t.delayAfterExposureMs = 0 ∧ t.towerHopNm = 250000000 := exists_ok_of_any (by decide +kernel)
  exact ⟨t, accepted, sound_of_text accepted, facts⟩

end Tuning
end LayerSeparation
