import Mathlib.Data.List.DropRight

/-! Records of bounded length. A full record keeps nothing more until it is cleared. -/
namespace LayerSeparation

variable {ω α : Type} {room : Nat} {clears : ω → Bool} {item? : ω → Option α} {operations : List ω} {o : ω}

/-- What a record with so much room keeps of operations: the first entries since it was last cleared. -/
def boundedRecord (room : Nat) (clears : ω → Bool) (item? : ω → Option α) (operations : List ω) : List α :=
  ((operations.rtakeWhile fun o => !clears o).filterMap item?).take room

theorem length_boundedRecord_le : (boundedRecord room clears item? operations).length ≤ room :=
  List.length_take_le _ _

theorem boundedRecord_clear (h : clears o = true) :
    boundedRecord room clears item? (operations ++ [o]) = [] := by
  rw [boundedRecord, List.rtakeWhile_concat_neg _ _ _ (by rw [h]; decide), List.filterMap_nil, List.take_nil]

/- An entry that is not kept itself makes no difference to what is kept after it. -/
theorem take_take_append (n : Nat) (l m : List α) : (l.take n ++ m).take n = (l ++ m).take n := by
  rw [List.take_append, List.take_append, List.take_take, Nat.min_self, List.length_take]
  congr 2
  omega

theorem boundedRecord_entry {entry : α} (h : clears o = false) (there : item? o = some entry) :
    boundedRecord room clears item? (operations ++ [o]) =
      (boundedRecord room clears item? operations ++ [entry]).take room := by
  rw [boundedRecord, List.rtakeWhile_concat_pos _ _ _ (by rw [h]; rfl), List.filterMap_append,
    List.filterMap_cons_some there, List.filterMap_nil, ← take_take_append]
  rfl

theorem boundedRecord_skip (h : clears o = false) (none : item? o = none) :
    boundedRecord room clears item? (operations ++ [o]) = boundedRecord room clears item? operations := by
  rw [boundedRecord, List.rtakeWhile_concat_pos _ _ _ (by rw [h]; rfl), List.filterMap_append,
    List.filterMap_cons_none none, List.filterMap_nil, List.append_nil]
  rfl

end LayerSeparation
