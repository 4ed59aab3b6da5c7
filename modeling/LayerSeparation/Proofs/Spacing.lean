import LayerSeparation.Text.Blank
import Mathlib.Data.List.DropRight
import Mathlib.Data.List.TakeWhile

/-! Text taken apart. The pieces of a text that is put together around a separator are those of its parts;
stripping takes away what surrounds a text and leaves the rest alone. -/
namespace LayerSeparation.Text

variable {p : Char → Bool} {cs before after : List Char}

theorem pieces_eq_splitOnP (p : Char → Bool) (cs : List Char) : pieces p cs = cs.splitOnP p := by
  induction cs with
  | nil => rfl
  | cons c rest ih =>
    rw [pieces, ih, List.splitOnP_cons_eq_if_modifyHead]
    cases p c with
    | true => rfl
    | false =>
      cases found : rest.splitOnP p with
      | nil => exact absurd found (List.splitOnP_ne_nil p rest)
      | cons piece tail => rfl

theorem pieces_append_cons {sep : Char} (stop : p sep = true) (before after : List Char) :
    pieces p (before ++ sep :: after) = pieces p before ++ pieces p after := by
  simp only [pieces_eq_splitOnP, List.splitOnP_append_cons _ _ stop]

theorem pieces_of_forall_not (plain : ∀ c ∈ cs, p c = false) : pieces p cs = [cs] := by
  rw [pieces_eq_splitOnP, List.splitOnP_eq_singleton plain]

theorem strip_append (front : ∀ c ∈ before, p c = true) (back : ∀ c ∈ after, p c = true) :
    strip p (before ++ cs ++ after) = strip p cs := by
  unfold strip
  rw [List.append_assoc, List.dropWhile_append_of_pos front, List.dropWhile_append]
  split
  · next none =>
    rw [List.isEmpty_iff.mp none, List.dropWhile_eq_nil_iff.mpr back]
  · rw [List.reverse_append, List.dropWhile_append_of_pos (by simpa using back)]

theorem strip_dropWhile (p : Char → Bool) (cs : List Char) : strip p (cs.dropWhile p) = strip p cs := by
  unfold strip
  rw [List.dropWhile_idempotent]

theorem strip_rdropWhile (p : Char → Bool) (cs : List Char) : strip p (cs.rdropWhile p) = strip p cs := by
  have whole : cs.rdropWhile p ++ cs.rtakeWhile p = cs := by
    rw [List.rdropWhile, List.rtakeWhile, ← List.reverse_append, List.takeWhile_append_dropWhile,
      List.reverse_reverse]
  have back : ∀ c ∈ cs.rtakeWhile p, p c = true := fun c mem => List.mem_rtakeWhile_imp mem
  have taken : strip p ([] ++ cs.rdropWhile p ++ cs.rtakeWhile p) = strip p (cs.rdropWhile p) :=
    strip_append (List.forall_mem_nil _) back
  rw [List.nil_append, whole] at taken
  exact taken.symm

theorem strip_map {f : Char → Char} (alike : ∀ c, p (f c) = p c) (cs : List Char) :
    strip p (cs.map f) = (strip p cs).map f := by
  have same : p ∘ f = p := funext alike
  simp only [strip, List.dropWhile_map, ← List.map_reverse, same]

theorem strip_append_cons {c : Char} (stays : p c = false) (before after : List Char) :
    strip p (before ++ c :: after) = before.dropWhile p ++ c :: after.rdropWhile p := by
  have front : (before ++ c :: after).dropWhile p = before.dropWhile p ++ c :: after := by
    rw [List.dropWhile_append]
    split
    · next none => rw [List.isEmpty_iff.mp none, List.dropWhile_cons_of_neg (by simp [stays]), List.nil_append]
    · rfl
  have back (kept : List Char) : (kept ++ c :: after).rdropWhile p = kept ++ c :: after.rdropWhile p := by
    rw [List.rdropWhile, List.reverse_append, List.reverse_cons, List.append_assoc, List.dropWhile_append]
    split
    · next none =>
      rw [List.singleton_append, List.dropWhile_cons_of_neg (by simp [stays]), List.rdropWhile,
        List.isEmpty_iff.mp none]
      simp
    · rw [List.rdropWhile]
      simp
  exact (congrArg _ front).trans (back _)

theorem head?_strip (p : Char → Bool) (cs : List Char) : (strip p cs).head? = (cs.dropWhile p).head? := by
  have stop := List.head?_dropWhile_not p cs
  rw [← strip_dropWhile]
  cases rest : cs.dropWhile p with
  | nil => rfl
  | cons c tail =>
    rw [rest] at stop
    have kept : strip p (c :: tail) = c :: tail.rdropWhile p := strip_append_cons stop [] tail
    rw [kept, List.head?_cons, List.head?_cons]

end LayerSeparation.Text
