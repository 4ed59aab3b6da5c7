import LayerSeparation.Profile.Row
import LayerSeparation.Proofs.Accepted

/-! Reading back a row that was written. Every value of a profile in range comes back from its word but
one: the tolerance has no range of its own, and the upper half of its values is written as negative
numbers, which no reading accepts. -/
namespace LayerSeparation

namespace Width

theorem toInt_toInt32 (w : UInt32) :
    w.toInt32.toInt = if w.toNat < 0x80000000 then (w.toNat : Int) else w.toNat - 0x100000000 := by
  have bits : w.toInt32.toInt = w.toBitVec.toInt := rfl
  have count : w.toBitVec.toNat = w.toNat := rfl
  rw [bits, BitVec.toInt_eq_toNat_cond, count]
  split <;> split <;> omega

theorem uint8?_toNat (n : UInt8) : uint8? n.toNat = some n := by
  have range := n.toNat_lt
  rw [uint8?, if_pos ⟨Int.natCast_nonneg _, by omega⟩, Int.toNat_natCast, UInt8.ofNat_toNat]

theorem uint32?_toNat (w : UInt32) : uint32? w.toNat = some w := by
  have range := w.toNat_lt
  rw [uint32?, if_pos ⟨Int.natCast_nonneg _, by omega⟩, Int.toNat_natCast, UInt32.ofNat_toNat]

end Width

namespace MovingProfile

theorem rowCurve_index (c : TiltCurve) : rowCurve (Int32.ofInt (Catalogue.index c)) = .ok c := by
  cases c <;> rfl

theorem rowCount_toInt32 (field : String) (n : UInt8) :
    rowCount field n.toUInt32.toInt32 = .ok n := by
  have range := n.toNat_lt
  have value : n.toUInt32.toInt32.toInt = n.toNat := by
    rw [Width.toInt_toInt32, UInt8.toNat_toUInt32, if_pos (by omega)]
  rw [rowCount, value, Width.uint8?_toNat]

/-- A word comes back from a row if it fits without the sign. -/
theorem rowWord_toInt32 (field : String) (w : UInt32) : rowWord field w.toInt32 =
    if w.toNat < 0x80000000 then .ok w else .error (.outOfRange field (w.toNat - 0x100000000)) := by
  have range := w.toNat_lt
  have value := Width.toInt_toInt32 w
  by_cases small : w.toNat < 0x80000000
  · rw [if_pos small] at value ⊢
    rw [rowWord, value, Width.uint32?_toNat]
  · rw [if_neg small] at value ⊢
    have negative : Width.uint32? ((w.toNat : Int) - 0x100000000) = none := if_neg (by omega)
    rw [rowWord, value, negative]

theorem pauses_of_validate {p : MovingProfile} {u : Unit} (h : p.validate = .ok u) :
    p.offsetDelayMs.toNat ≤ 20000 ∧ p.delayMs.toNat ≤ 20000 := by
  simp only [validate, bind_eq_ok_iff, checkRange_eq_ok_iff, maxPauseMs] at h
  obtain ⟨_, _, _, first, _, _, between⟩ := h
  omega

/-- A row that was written for a profile in range is read as that profile, unless its tolerance needs the
bit of the sign. It is then refused with the number that was written. -/
theorem ofRow_toRow {p : MovingProfile} (valid : p.validate = .ok ()) :
    ofRow p.toRow = if p.homingTolerance.toNat < 0x80000000 then .ok p
      else .error (.outOfRange "homing_tolerance" (p.homingTolerance.toNat - 0x100000000)) := by
  obtain ⟨first, between⟩ := pauses_of_validate valid
  have offsetDelay : rowWord "offset_delay_ms" p.offsetDelayMs.toInt32 = .ok p.offsetDelayMs :=
    (rowWord_toInt32 _ _).trans (if_pos (by omega))
  have delay : rowWord "delay_ms" p.delayMs.toInt32 = .ok p.delayMs :=
    (rowWord_toInt32 _ _).trans (if_pos (by omega))
  have tolerance := rowWord_toInt32 "homing_tolerance" p.homingTolerance
  simp only [toRow, ofRow, rowCurve_index, rowCount_toInt32, offsetDelay, delay, tolerance]
  split
  · have checked : (do p.validate; return p : Except ProfileError MovingProfile) = .ok p := by
      rw [valid]
      rfl
    exact checked
  · rfl

/- The greatest tolerance that comes back. -/
theorem ofRow_toRow_tolerant :
    let p : MovingProfile := ⟨.layerRelease, 650, 1000, .layerMoveSlow, 1, 0, 0x7fffffff, 3⟩
    p.validate = .ok () ∧ ofRow p.toRow = .ok p :=
  ⟨rfl, ofRow_toRow (p := ⟨.layerRelease, 650, 1000, .layerMoveSlow, 1, 0, 0x7fffffff, 3⟩) rfl⟩

theorem toRow_unread :
    let p : MovingProfile := ⟨.layerRelease, 650, 1000, .layerMoveSlow, 1, 0, 0x80000000, 3⟩
    p.validate = .ok () ∧ p.toRow = [5, 650, 1000, 4, 1, 0, -0x80000000, 3] ∧
      ofRow p.toRow = .error (.outOfRange "homing_tolerance" (-0x80000000)) :=
  ⟨rfl, rfl, rfl⟩

end MovingProfile
end LayerSeparation
