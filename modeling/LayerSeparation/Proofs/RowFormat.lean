import LayerSeparation.Proofs.RowReading
import Mathlib.Data.List.Forall2
import Mathlib.Data.List.Nodup

/-! The rows that are read. A row of eight values is that of a profile exactly if each value lies in the range of
its place; the profile then says nothing but the row, which can be written back from it. Rows of any other length
are told apart from rows with a wrong value. -/
namespace LayerSeparation

namespace Width

theorem uint8?_eq_some_iff {n : Int} {w : UInt8} : uint8? n = some w ↔ (w.toNat : Int) = n := by
  constructor
  · intro h
    unfold uint8? at h
    split at h
    · cases h
      rw [UInt8.toNat_ofNat_of_lt' (by simp only [UInt8.size]; omega)]
      omega
    · cases h
  · rintro rfl
    exact uint8?_toNat w

theorem uint32?_eq_some_iff {n : Int} {w : UInt32} : uint32? n = some w ↔ (w.toNat : Int) = n := by
  constructor
  · intro h
    unfold uint32? at h
    split at h
    · cases h
      rw [UInt32.toNat_ofNat_of_lt' (by simp only [UInt32.size]; omega)]
      omega
    · cases h
  · rintro rfl
    exact uint32?_toNat w

theorem exists_uint8 {n : Int} (low : 0 ≤ n) (high : n < 0x100) : ∃ w : UInt8, (w.toNat : Int) = n :=
  ⟨_, uint8?_eq_some_iff.mp (if_pos ⟨low, high⟩)⟩

theorem exists_uint32 {n : Int} (low : 0 ≤ n) (high : n < 0x100000000) : ∃ w : UInt32, (w.toNat : Int) = n :=
  ⟨_, uint32?_eq_some_iff.mp (if_pos ⟨low, high⟩)⟩

end Width

theorem Catalogue.ofIndex?_eq_some_iff {α : Type} [Catalogue α] [DecidableEq α] {i : Nat} {a : α} :
    ofIndex? i = some a ↔ index a = i := by
  constructor
  · intro h
    obtain ⟨within, rfl⟩ := List.getElem?_eq_some_iff.mp h
    exact (names_nodup (α := α)).of_map.idxOf_getElem i within
  · rintro rfl
    exact ofIndex?_index a

namespace MovingProfile

def values (p : MovingProfile) : List Int :=
  [Catalogue.index p.initialCurve, p.offsetSteps.toInt, p.offsetDelayMs.toNat, Catalogue.index p.finishCurve,
    p.cycles.toNat, p.delayMs.toNat, p.homingTolerance.toNat, p.homingCycles.toNat]

def rowRanges : List (Int × Int) :=
  [(0, 7), (0, 10000), (0, 20000), (0, 7), (0, 10), (0, 20000), (0, 0x7fffffff), (0, 255)]

def InFormat (row : List Int32) : Prop :=
  List.Forall₂ (fun v range => range.1 ≤ v.toInt ∧ v.toInt ≤ range.2) row rowRanges

theorem rowCurve_eq_ok_iff {v : Int32} {c : TiltCurve} :
    rowCurve v = .ok c ↔ (Catalogue.index c : Int) = v.toInt := by
  unfold rowCurve
  constructor
  · intro h
    split at h
    · next i narrow =>
      unfold Curve.ofIndex at h
      split at h
      · next found =>
        cases h
        rw [Catalogue.ofIndex?_eq_some_iff.mp found, Width.uint8?_eq_some_iff.mp narrow]
      · cases h
    · cases h
  · intro same
    rw [← same]
    cases c <;> rfl

theorem rowWord_eq_ok_iff {field : String} {v : Int32} {w : UInt32} :
    rowWord field v = .ok w ↔ (w.toNat : Int) = v.toInt := by
  rw [← Width.uint32?_eq_some_iff]
  unfold rowWord
  split <;> simp_all

theorem rowCount_eq_ok_iff {field : String} {v : Int32} {n : UInt8} :
    rowCount field v = .ok n ↔ (n.toNat : Int) = v.toInt := by
  rw [← Width.uint8?_eq_some_iff]
  unfold rowCount
  split <;> simp_all

theorem validate_eq_ok_iff {p : MovingProfile} : p.validate = .ok () ↔
    (0 ≤ p.offsetSteps.toInt ∧ p.offsetSteps.toInt ≤ 10000) ∧ p.offsetDelayMs.toNat ≤ 20000 ∧
      p.cycles.toNat ≤ 10 ∧ p.delayMs.toNat ≤ 20000 := by
  simp only [validate, bind_eq_ok_iff, checkRange_eq_ok_iff, maxOffsetSteps, maxPauseMs, maxCycles]
  constructor
  · rintro ⟨_, offset, _, pause, _, cycles, delay⟩
    omega
  · rintro ⟨offset, pause, cycles, delay⟩
    exact ⟨(), offset, (), by omega, (), by omega, by omega⟩

/-- A row is read as the profile that says the same, if that profile is in range. -/
theorem ofRow_eq_ok_iff {row : List Int32} {p : MovingProfile} :
    ofRow row = .ok p ↔ row.map Int32.toInt = p.values ∧ p.validate = .ok () := by
  constructor
  · intro h
    unfold ofRow at h
    split at h
    · simp only [bind_eq_ok_iff, rowCurve_eq_ok_iff, rowWord_eq_ok_iff, rowCount_eq_ok_iff] at h
      obtain ⟨initial, ha, offsetDelay, hc, finish, hd, cycles, he, delay, hf, tolerance, hg, attempts, hh, _,
        valid, built⟩ := h
      cases built
      exact ⟨by simp [values, *], valid⟩
    · cases h
  · rintro ⟨same, valid⟩
    simp only [values, List.map_eq_cons_iff, List.map_eq_nil_iff] at same
    obtain ⟨a, _, rfl, ha, b, _, rfl, hb, c, _, rfl, hc, d, _, rfl, hd, e, _, rfl, he, f, _, rfl, hf, g, _, rfl, hg,
      h, _, rfl, hh, rfl⟩ := same
    simp only [ofRow, bind_eq_ok_iff, rowCurve_eq_ok_iff, rowWord_eq_ok_iff, rowCount_eq_ok_iff]
    refine ⟨_, ha.symm, _, hc.symm, _, hd.symm, _, he.symm, _, hf.symm, _, hg.symm, _, hh.symm, (), ?_, ?_⟩
    · rw [Int32.toInt_inj.mp hb]
      exact valid
    · rw [Int32.toInt_inj.mp hb]
      rfl

theorem exists_index_iff {n : Int} : (∃ c : TiltCurve, (Catalogue.index c : Int) = n) ↔ 0 ≤ n ∧ n ≤ 7 := by
  constructor
  · rintro ⟨c, rfl⟩
    cases c <;> decide
  · rintro ⟨low, high⟩
    have within : n.toNat < (Catalogue.entries : List TiltCurve).length := by
      change n.toNat < 8
      omega
    refine ⟨(Catalogue.entries : List TiltCurve)[n.toNat], ?_⟩
    rw [Catalogue.ofIndex?_eq_some_iff.mp (List.getElem?_eq_getElem within)]
    omega

theorem values_inRange {p : MovingProfile} (valid : p.validate = .ok ())
    (fits : (p.homingTolerance.toNat : Int) < 0x80000000) :
    List.Forall₂ (fun n (range : Int × Int) => range.1 ≤ n ∧ n ≤ range.2) p.values rowRanges := by
  obtain ⟨offset, pause, cycles, delay⟩ := validate_eq_ok_iff.mp valid
  have initial := exists_index_iff.mp ⟨p.initialCurve, rfl⟩
  have finish := exists_index_iff.mp ⟨p.finishCurve, rfl⟩
  have attempts := p.homingCycles.toNat_lt
  simp only [values, rowRanges, List.forall₂_cons, List.forall₂_nil_left_iff, and_true]
  omega

theorem tolerance_lt_of_map {row : List Int32} {p : MovingProfile} (same : row.map Int32.toInt = p.values) :
    (p.homingTolerance.toNat : Int) < 0x80000000 := by
  have written : (p.homingTolerance.toNat : Int) ∈ row.map Int32.toInt := by simp [same, values]
  obtain ⟨v, -, value⟩ := List.mem_map.mp written
  exact value ▸ v.toInt_lt

theorem inFormat_iff {row : List Int32} :
    InFormat row ↔ ∃ p : MovingProfile, row.map Int32.toInt = p.values ∧ p.validate = .ok () := by
  constructor
  · intro format
    simp only [InFormat, rowRanges, List.forall₂_cons_right_iff, List.forall₂_nil_right_iff] at format
    obtain ⟨a, _, ha, ⟨b, _, hb, ⟨c, _, hc, ⟨d, _, hd, ⟨e, _, he, ⟨f, _, hf, ⟨g, _, hg, ⟨h, _, hh, rfl, rfl⟩,
      rfl⟩, rfl⟩, rfl⟩, rfl⟩, rfl⟩, rfl⟩, rfl⟩ := format
    obtain ⟨initial, initialIs⟩ := exists_index_iff.mpr ha
    obtain ⟨pause, pauseIs⟩ := Width.exists_uint32 hc.1 (by omega)
    obtain ⟨finish, finishIs⟩ := exists_index_iff.mpr hd
    obtain ⟨cycles, cyclesIs⟩ := Width.exists_uint8 he.1 (by omega)
    obtain ⟨delay, delayIs⟩ := Width.exists_uint32 hf.1 (by omega)
    obtain ⟨tolerance, toleranceIs⟩ := Width.exists_uint32 hg.1 (by omega)
    obtain ⟨attempts, attemptsIs⟩ := Width.exists_uint8 hh.1 (by omega)
    refine ⟨⟨initial, b, pause, finish, cycles, delay, tolerance, attempts⟩, ?_, ?_⟩
    · simp [values, *]
    · rw [validate_eq_ok_iff]
      dsimp only
      omega
  · rintro ⟨p, same, valid⟩
    have within := values_inRange valid (tolerance_lt_of_map same)
    rw [← same, List.forall₂_map_left_iff] at within
    exact within

theorem map_toInt_toRow {p : MovingProfile} (valid : p.validate = .ok ())
    (fits : (p.homingTolerance.toNat : Int) < 0x80000000) : p.toRow.map Int32.toInt = p.values := by
  obtain ⟨-, pause, -, delay⟩ := validate_eq_ok_iff.mp valid
  have curve (c : TiltCurve) : (Int32.ofInt (Catalogue.index c)).toInt = Catalogue.index c := by
    cases c <;> rfl
  have word {w : UInt32} (small : w.toNat < 0x80000000) : w.toInt32.toInt = w.toNat := by
    rw [Width.toInt_toInt32, if_pos small]
  have byte (n : UInt8) : n.toUInt32.toInt32.toInt = n.toNat := by
    have := n.toNat_lt
    rw [word (by rw [UInt8.toNat_toUInt32]; omega), UInt8.toNat_toUInt32]
  simp only [toRow, values, List.map_cons, List.map_nil, curve, byte, word (show p.offsetDelayMs.toNat < _ by omega),
    word (show p.delayMs.toNat < _ by omega), word (show p.homingTolerance.toNat < _ by omega)]

theorem ofRow_of_length {row : List Int32} (other : row.length ≠ 8) :
    ofRow row = .error (.malformedRow row.length) := by
  unfold ofRow
  split
  · exact absurd rfl other
  · rfl

theorem ofRow_ne_malformedRow {row : List Int32} (eight : row.length = 8) (n : Nat) :
    ofRow row ≠ .error (.malformedRow n) := by
  have curve (v : Int32) : rowCurve v ≠ .error (.malformedRow n) := by
    unfold rowCurve
    split
    · unfold Curve.ofIndex
      split <;> simp [ProfileError.unknownIndex]
    · simp
  have word (field : String) (v : Int32) : rowWord field v ≠ .error (.malformedRow n) := by
    unfold rowWord
    split <;> simp
  have count (field : String) (v : Int32) : rowCount field v ≠ .error (.malformedRow n) := by
    unfold rowCount
    split <;> simp
  have range (p : MovingProfile) : p.validate ≠ .error (.malformedRow n) := by
    simp [validate, bind_eq_error_iff, checkRange_eq_error_iff]
  unfold ofRow
  split
  · simp only [ne_eq, bind_eq_error_iff, curve, word, count, range, false_or, pure, Except.pure, reduceCtorEq,
      and_false, exists_false, not_false_eq_true]
  · next short =>
    obtain ⟨a, b, c, d, e, f, g, h, rfl⟩ : ∃ a b c d e f g h, row = [a, b, c, d, e, f, g, h] := by
      simp only [List.length_eq_succ_iff, List.length_eq_zero_iff] at eight
      simpa [eq_comm] using eight
    exact absurd rfl (short a b c d e f g h)

structure ReadsFormat (row : List Int32) : Prop where
  accepted_iff : (∃ p, ofRow row = .ok p) ↔ InFormat row
  written_back : ∀ p, ofRow row = .ok p → p.toRow = row ∧ p.validate = .ok ()
  told_apart : ∀ row' p, ofRow row = .ok p → ofRow row' = .ok p → row' = row
  malformed_iff : ∀ n, ofRow row = .error (.malformedRow n) ↔ row.length ≠ 8 ∧ n = row.length

/-- Rows are read as they are written, for every list of values. -/
theorem reads_format (row : List Int32) : ReadsFormat row := by
  have same_of_map {row' : List Int32} (same : row'.map Int32.toInt = row.map Int32.toInt) : row' = row :=
    List.map_injective_iff.mpr (fun _ _ => Int32.toInt_inj.mp) same
  constructor
  · rw [inFormat_iff]
    exact exists_congr fun p => ofRow_eq_ok_iff
  · intro p read
    obtain ⟨same, valid⟩ := ofRow_eq_ok_iff.mp read
    exact ⟨same_of_map ((map_toInt_toRow valid (tolerance_lt_of_map same)).trans same.symm), valid⟩
  · intro row' p read read'
    exact same_of_map ((ofRow_eq_ok_iff.mp read').1.trans (ofRow_eq_ok_iff.mp read).1.symm)
  · intro n
    by_cases eight : row.length = 8
    · simp [eight, ofRow_ne_malformedRow eight n]
    · simp [eight, ofRow_of_length eight, eq_comm]

end MovingProfile
end LayerSeparation
