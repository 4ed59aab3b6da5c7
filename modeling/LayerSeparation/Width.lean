/-! Words of fixed width seen as integers. Narrowing refuses what does not fit or clamps it to the
range; no bits are dropped here. Every operation is stated through the integer it denotes. -/
namespace LayerSeparation.Width

def int8? (n : Int) : Option Int8 :=
  if -0x80 ≤ n ∧ n < 0x80 then some (Int8.ofInt n) else none

def int32? (n : Int) : Option Int32 :=
  if -0x80000000 ≤ n ∧ n < 0x80000000 then some (Int32.ofInt n) else none

def uint8? (n : Int) : Option UInt8 :=
  if 0 ≤ n ∧ n < 0x100 then some (UInt8.ofNat n.toNat) else none

def uint16? (n : Int) : Option UInt16 :=
  if 0 ≤ n ∧ n < 0x10000 then some (UInt16.ofNat n.toNat) else none

def uint32? (n : Int) : Option UInt32 :=
  if 0 ≤ n ∧ n < 0x100000000 then some (UInt32.ofNat n.toNat) else none

def uint64? (n : Int) : Option UInt64 :=
  if 0 ≤ n ∧ n < 0x10000000000000000 then some (UInt64.ofNat n.toNat) else none

def clampInt32 (n : Int) : Int32 := Int32.ofInt (max (-0x80000000) (min n 0x7fffffff))

/-- The exact sum, or the nearest word if it does not fit. -/
def sumInt32 (a b : Int32) : Int32 := clampInt32 (a.toInt + b.toInt)

def sumUInt64 (a : UInt64) (n : Nat) : UInt64 := UInt64.ofNat (min (a.toNat + n) 0xffffffffffffffff)

def difference? (a b : Int32) : Option Int32 := int32? (a.toInt - b.toInt)

/-- How far two positions lie apart. The distance of any two words fits without a sign. -/
def distance (a b : Int32) : UInt32 := UInt32.ofNat (a.toInt - b.toInt).natAbs

theorem int32?_eq_some_iff {n : Int} {w : Int32} : int32? n = some w ↔ w.toInt = n := by
  unfold int32?
  split
  · next h =>
    have hn : (Int32.ofInt n).toInt = n := Int32.toInt_ofInt_of_le (by omega) (by omega)
    constructor
    · intro e
      rw [← Option.some.inj e, hn]
    · rintro rfl
      rw [Int32.ofInt_toInt]
  · next h =>
    constructor
    · intro e
      cases e
    · rintro rfl
      exact absurd ⟨w.le_toInt, w.toInt_lt⟩ h

theorem int32?_eq_none_iff {n : Int} : int32? n = none ↔ n < -0x80000000 ∨ 0x80000000 ≤ n := by
  unfold int32?
  split <;> simp <;> omega

theorem toInt_clampInt32 (n : Int) :
    (clampInt32 n).toInt = max (-0x80000000) (min n 0x7fffffff) :=
  Int32.toInt_ofInt_of_le (by omega) (by omega)

theorem sumInt32_eq {a b c : Int32} (h : c.toInt = a.toInt + b.toInt) : sumInt32 a b = c := by
  have := c.le_toInt
  have := c.toInt_lt
  apply Int32.toInt_inj.mp
  rw [sumInt32, toInt_clampInt32]
  omega

theorem difference?_eq_some_iff {a b d : Int32} :
    difference? a b = some d ↔ d.toInt = a.toInt - b.toInt := int32?_eq_some_iff

theorem toInt_neg {a : Int32} (h : a ≠ Int32.minValue) : (-a).toInt = -a.toInt := by
  have low : a.toInt ≠ -0x80000000 := fun e => h (Int32.toInt_inj.mp (by rw [e]; rfl))
  have := a.le_toInt
  have := a.toInt_lt
  rw [Int32.toInt_neg]
  exact Int.bmod_eq_of_le (by omega) (by omega)

theorem toInt_neg_of_nonneg {a : Int32} (h : 0 ≤ a.toInt) : (-a).toInt = -a.toInt := by
  apply toInt_neg
  rintro rfl
  exact absurd h (by decide)

theorem toInt_sub {a b : Int32} (h : -0x80000000 ≤ a.toInt - b.toInt)
    (h' : a.toInt - b.toInt < 0x80000000) : (a - b).toInt = a.toInt - b.toInt := by
  rw [Int32.toInt_sub]
  exact Int.bmod_eq_of_le (by omega) (by omega)

theorem toNat_distance (a b : Int32) : (distance a b).toNat = (a.toInt - b.toInt).natAbs := by
  have ha := a.le_toInt
  have ha' := a.toInt_lt
  have hb := b.le_toInt
  have hb' := b.toInt_lt
  unfold distance
  rw [UInt32.toNat_ofNat_of_lt']
  simp only [UInt32.size]
  omega

theorem toNat_sumUInt64 (a : UInt64) (n : Nat) :
    (sumUInt64 a n).toNat = min (a.toNat + n) 0xffffffffffffffff := by
  unfold sumUInt64
  rw [UInt64.toNat_ofNat_of_lt']
  simp only [UInt64.size]
  omega

end LayerSeparation.Width
