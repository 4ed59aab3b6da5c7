import LayerSeparation.Proofs.Assignments

/-! What a tuning file makes of the parameter sets of a layer. Each setting is clamped to its range, and
with that both delays are in range. The tower hop is a product of two settings, and the product is not
clamped: it may come out longer than a layer may hop. -/
namespace LayerSeparation

namespace Tuning

theorem settingOf_le {default lo hi : Int} (order : lo ≤ hi) (high : default ≤ hi)
    (value : Option (List Char)) : settingOf default lo hi value ≤ hi := by
  unfold settingOf
  split <;> omega

structure InRange (t : Tuning) : Prop where
  towerHop : t.towerHopSteps.toNat ≤ 8000
  screwPitch : t.screwMm.toNat ≤ 100
  delayBefore : t.delayBeforeExposureMs.toNat ≤ 30000
  delayAfter : t.delayAfterExposureMs.toNat ≤ 30000

theorem Follows.inRange {t : Tuning} {pairs : List Assignment} (h : t.Follows pairs) : t.InRange := by
  have towerHop : (t.towerHopSteps.toNat : Int) = settingOf 0 0 8000 _ := h.settings .towerHop
  have screwPitch : (t.screwMm.toNat : Int) = settingOf 4 1 100 _ := h.settings .screwPitch
  have before : (t.delayBeforeExposureMs.toNat : Int) = 100 * settingOf 0 0 300 _ :=
    h.settings .delayBeforeExposure
  have after : (t.delayAfterExposureMs.toNat : Int) = 100 * settingOf 0 0 300 _ :=
    h.settings .delayAfterExposure
  constructor
  · have steps : settingOf 0 0 8000 (lastValue pairs .towerHop) ≤ 8000 :=
      settingOf_le (by decide) (by decide) _
    omega
  · have pitch : settingOf 4 1 100 (lastValue pairs .screwPitch) ≤ 100 :=
      settingOf_le (by decide) (by decide) _
    omega
  · have tenths : settingOf 0 0 300 (lastValue pairs .delayBeforeExposure) ≤ 300 :=
      settingOf_le (by decide) (by decide) _
    omega
  · have tenths : settingOf 0 0 300 (lastValue pairs .delayAfterExposure) ≤ 300 :=
      settingOf_le (by decide) (by decide) _
    omega

def hopCheck (t : Tuning) : Except ProfileError Unit :=
  if t.towerHopSteps.toNat * t.screwMm.toNat ≤ 320000 then .ok ()
  else .error (.outOfRange "tower_hop_height_nm"
    (t.towerHopSteps.toNat * 1000000 * t.screwMm.toNat / 3200 : Nat))

namespace InRange
variable {t : Tuning}

theorem toNat_towerHopNm (h : t.InRange) :
    t.towerHopNm.toNat = t.towerHopSteps.toNat * 1000000 * t.screwMm.toNat / 3200 := by
  have product : t.towerHopSteps.toNat * t.screwMm.toNat ≤ 8000 * 100 :=
    Nat.mul_le_mul h.towerHop h.screwPitch
  have order : t.towerHopSteps.toNat * 1000000 * t.screwMm.toNat =
      t.towerHopSteps.toNat * t.screwMm.toNat * 1000000 := Nat.mul_right_comm _ _ _
  unfold towerHopNm nmPerMm towerStepsPerTurn
  dsimp only
  rw [UInt32.toNat_ofNat_of_lt' (by simp only [UInt32.size]; omega)]
  omega

theorem validate_layerParams (h : t.InRange) (down up : MovingProfileId) (hop : UInt32) :
    (t.layerParams down up hop).validate =
      checkRange "tower_hop_height_nm" hop.toNat 0 LayerParams.maxHopNm := by
  have before : checkRange "delay_before_exposure_ms" t.delayBeforeExposureMs.toNat 0
      LayerParams.maxSettleMs = .ok () :=
    checkRange_eq_ok_iff.mpr ⟨Int.natCast_nonneg _, Int.ofNat_le.mpr h.delayBefore⟩
  have after : checkRange "delay_after_exposure_ms" t.delayAfterExposureMs.toNat 0
      LayerParams.maxSettleMs = .ok () :=
    checkRange_eq_ok_iff.mpr ⟨Int.natCast_nonneg _, Int.ofNat_le.mpr h.delayAfter⟩
  unfold LayerParams.validate layerParams
  dsimp only
  rw [before, after]
  cases checkRange "tower_hop_height_nm" hop.toNat 0 LayerParams.maxHopNm with
  | error e => rfl
  | ok u => cases t.useTilt <;> rfl

theorem checkRange_towerHopNm (h : t.InRange) :
    checkRange "tower_hop_height_nm" t.towerHopNm.toNat 0 LayerParams.maxHopNm = t.hopCheck := by
  have order : t.towerHopSteps.toNat * 1000000 * t.screwMm.toNat =
      t.towerHopSteps.toNat * t.screwMm.toNat * 1000000 := Nat.mul_right_comm _ _ _
  rw [h.toNat_towerHopNm, order, hopCheck]
  split
  · next short =>
    refine checkRange_eq_ok_iff.mpr ⟨Int.natCast_nonneg _, ?_⟩
    simp only [LayerParams.maxHopNm]
    omega
  · next long =>
    refine (if_pos (.inr ?_)).trans (by rw [order])
    simp only [LayerParams.maxHopNm]
    omega

theorem validate_above (h : t.InRange) (display : Float32) :
    (t.exposureProfile display).above.validate = t.hopCheck :=
  (h.validate_layerParams _ _ _).trans h.checkRange_towerHopNm

theorem validate_below (h : t.InRange) (display : Float32) :
    (t.exposureProfile display).below.validate = if t.useTilt then .ok () else t.hopCheck := by
  refine (h.validate_layerParams _ _ _).trans ?_
  cases t.useTilt with
  | true => rfl
  | false => exact h.checkRange_towerHopNm

end InRange

/-- The parameter sets that an accepted text gives a layer can be turned down for the hop and for nothing
else, whatever the display. With the tilt that of the small layers cannot, since they do not hop. -/
theorem exposure_checked_for_hop {text : String} {t : Tuning} (accepted : ofText text = .ok t)
    (display : Float32) : (t.exposureProfile display).above.validate = t.hopCheck ∧
      (t.exposureProfile display).below.validate = if t.useTilt then .ok () else t.hopCheck := by
  obtain ⟨d, held, rfl, _⟩ := draft_of_text accepted
  have within := held.finish.inRange
  exact ⟨within.validate_above display, within.validate_below display⟩

/-- The longest hop that a screw of forty millimetres can make within the limit. -/
def longestHopText : String := "tilt = no\nlayertowerhop = 8000\nscrewmm = 40\n"

theorem exposure_checked_for_hop_longest : ∃ t, ofText longestHopText = .ok t ∧ ∀ display,
    (t.exposureProfile display).above.validate = .ok () ∧
      (t.exposureProfile display).below.validate = .ok () := by
  obtain ⟨t, accepted, steps, pitch, tilt⟩ : ∃ t, ofText longestHopText = .ok t ∧
      t.towerHopSteps = 8000 ∧ t.screwMm = 40 ∧ t.useTilt = false :=
    exists_ok_of_any (by decide +kernel)
  have hop : t.hopCheck = .ok () := by
    rw [hopCheck, steps, pitch]
    rfl
  refine ⟨t, accepted, fun display => ?_⟩
  have checked := exposure_checked_for_hop accepted display
  rw [tilt, hop] at checked
  exact checked

def farthestHopText : String := "layertowerhop = 8000\nscrewmm = 100\n"

/-- The text is accepted, and large layers would hop a quarter of a metre. -/
theorem farthest_hop_turned_down : ∃ t, ofText farthestHopText = .ok t ∧ ∀ display,
    (t.exposureProfile display).above.validate =
      .error (.outOfRange "tower_hop_height_nm" 250000000) := by
  obtain ⟨t, accepted, steps, pitch⟩ : ∃ t, ofText farthestHopText = .ok t ∧
      t.towerHopSteps = 8000 ∧ t.screwMm = 100 := exists_ok_of_any (by decide +kernel)
  obtain ⟨d, held, rfl, _⟩ := draft_of_text accepted
  refine ⟨_, accepted, fun display => (held.finish.inRange.validate_above display).trans ?_⟩
  rw [hopCheck, steps, pitch]
  rfl

end Tuning
end LayerSeparation
