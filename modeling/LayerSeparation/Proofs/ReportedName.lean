import LayerSeparation.Profile.Error
import Mathlib.Data.String.Basic

/-! Names in reports. What is kept of a name is its longest beginning of whole characters that has room: a longer
one would not fit, and a name that is cut leaves less room than a character can take. -/
namespace LayerSeparation

open String (utf8Len)

section
variable {room : Nat} {cs ds : List Char}

theorem fitting_begins (room : Nat) (cs : List Char) : fitting room cs <+: cs := by
  induction cs generalizing room with
  | nil => exact List.prefix_rfl
  | cons c rest ih =>
    rw [fitting]
    split
    · exact List.cons_prefix_cons.mpr ⟨rfl, ih _⟩
    · exact List.nil_prefix

theorem utf8Len_fitting_le (room : Nat) (cs : List Char) : utf8Len (fitting room cs) ≤ room := by
  induction cs generalizing room with
  | nil => exact Nat.zero_le room
  | cons c rest ih =>
    rw [fitting]
    split
    · next fits =>
      have left := ih (room - c.utf8Size)
      rw [String.utf8Len_cons]
      omega
    · exact Nat.zero_le room

theorem prefix_fitting (begins : ds <+: cs) (fits : utf8Len ds ≤ room) : ds <+: fitting room cs := by
  induction cs generalizing room ds with
  | nil =>
    rw [List.prefix_nil.mp begins]
    exact List.nil_prefix
  | cons c rest ih =>
    cases ds with
    | nil => exact List.nil_prefix
    | cons d ds =>
      obtain ⟨rfl, later⟩ := List.cons_prefix_cons.mp begins
      rw [String.utf8Len_cons] at fits
      rw [fitting, if_pos (by omega)]
      exact List.cons_prefix_cons.mpr ⟨rfl, ih later (by omega)⟩

theorem fitting_of_utf8Len_le (fits : utf8Len cs ≤ room) : fitting room cs = cs :=
  (fitting_begins room cs).eq_of_length_le (prefix_fitting List.prefix_rfl fits).length_le

/-- The first character that is left out would have had no room, and no character takes more than four bytes. -/
theorem room_lt_of_fitting_ne (cut : fitting room cs ≠ cs) : room < utf8Len (fitting room cs) + 4 := by
  obtain ⟨rest, whole⟩ := fitting_begins room cs
  cases rest with
  | nil =>
    rw [List.append_nil] at whole
    exact absurd whole cut
  | cons c rest =>
    have next : fitting room cs ++ [c] <+: cs := by
      refine ⟨rest, ?_⟩
      rwa [List.append_assoc, List.singleton_append]
    have unfit : ¬ utf8Len (fitting room cs ++ [c]) ≤ room := by
      intro fits
      have longer := (prefix_fitting next fits).length_le
      rw [List.length_append, List.length_singleton] at longer
      omega
    have short := c.utf8Size_le_four
    rw [String.utf8Len_append, String.utf8Len_cons, String.utf8Len_nil] at unfit
    omega

end

/-- A text with room for so many bytes takes a character that fits, and refuses any other without a change. The
answer tells whether the character was taken, and what the text is after it. -/
structure RoomFor (room : Nat) (push : String → Char → Bool × String) : Prop where
  fits : ∀ kept c, kept.utf8ByteSize + c.utf8Size ≤ room → push kept c = (true, kept.push c)
  full : ∀ kept c, room < kept.utf8ByteSize + c.utf8Size → push kept c = (false, kept)

def pushWithin (room : Nat) (kept : String) (c : Char) : Bool × String :=
  if kept.utf8ByteSize + c.utf8Size ≤ room then (true, kept.push c) else (false, kept)

theorem roomFor_pushWithin (room : Nat) : RoomFor room (pushWithin room) where
  fits _ _ fits := if_pos fits
  full _ _ full := if_neg (Nat.not_le.mpr full)

def pushAll (push : String → Char → Bool × String) : String → List Char → String
  | kept, [] => kept
  | kept, c :: rest =>
    match push kept c with
    | (true, longer) => pushAll push longer rest
    | (false, left) => left

theorem RoomFor.pushAll_eq {room : Nat} {push : String → Char → Bool × String} (h : RoomFor room push)
    (kept : String) (cs : List Char) :
    pushAll push kept cs = kept ++ String.ofList (fitting (room - kept.utf8ByteSize) cs) := by
  induction cs generalizing kept with
  | nil => exact (String.append_empty).symm
  | cons c rest ih =>
    rw [pushAll, fitting]
    by_cases fits : kept.utf8ByteSize + c.utf8Size ≤ room
    · have left : room - (kept.push c).utf8ByteSize = room - kept.utf8ByteSize - c.utf8Size := by
        rw [String.utf8ByteSize_push]
        omega
      rw [h.fits kept c fits, if_pos (by omega)]
      dsimp only
      rw [ih, left, String.push_eq_append, String.append_assoc, String.ofList_cons]
    · have wide : ¬ c.utf8Size ≤ room - kept.utf8ByteSize := by
        have some := c.utf8Size_pos
        omega
      rw [h.full kept c (by omega), if_neg wide]
      exact (String.append_empty).symm

namespace ProfileRef

structure Keeps (s kept : String) : Prop where
  reported : ofName s = .name kept
  begins : kept.toList <+: s.toList
  fits : kept.utf8ByteSize ≤ reportedNameBytes
  longest : ∀ t : String, t.toList <+: s.toList → t.utf8ByteSize ≤ reportedNameBytes → t.toList <+: kept.toList
  bytes : s.toByteArray.extract 0 kept.utf8ByteSize = kept.toByteArray ∧ kept.toByteArray.IsValidUTF8
  whole : kept = s ↔ s.utf8ByteSize ≤ reportedNameBytes
  cut : kept ≠ s → 20 < kept.utf8ByteSize
  again : ofName kept = .name kept

theorem keeps_fitting (s : String) : Keeps s (String.ofList (fitting reportedNameBytes s.toList)) := by
  have size : ∀ t : String, t.utf8ByteSize = utf8Len t.toList := fun t => by
    rw [← String.utf8ByteSize_ofList, String.ofList_toList]
  have within := utf8Len_fitting_le reportedNameBytes s.toList
  generalize kept_eq : fitting reportedNameBytes s.toList = kept at within
  have begins : kept <+: s.toList := kept_eq ▸ fitting_begins reportedNameBytes s.toList
  have same : String.ofList kept = s ↔ kept = s.toList := by
    rw [← String.toList_inj, String.toList_ofList]
  constructor
  case reported => rw [ofName, kept_eq]
  case begins => rwa [String.toList_ofList]
  case fits => rwa [String.utf8ByteSize_ofList]
  case longest =>
    intro t start short
    rw [String.toList_ofList, ← kept_eq]
    exact prefix_fitting start (size t ▸ short)
  case bytes =>
    obtain ⟨rest, whole⟩ := begins
    have parts : s = String.ofList kept ++ String.ofList rest := by
      rw [← String.ofList_append, whole, String.ofList_toList]
    refine ⟨?_, (String.ofList kept).isValidUTF8⟩
    rw [parts, String.toByteArray_append]
    exact ByteArray.extract_append_eq_left rfl
  case whole =>
    rw [same, size s, ← kept_eq]
    exact ⟨fun uncut => uncut ▸ utf8Len_fitting_le _ _, fitting_of_utf8Len_le⟩
  case cut =>
    intro lost
    have short := room_lt_of_fitting_ne (kept_eq.symm ▸ mt same.mpr lost)
    rw [kept_eq] at short
    rw [String.utf8ByteSize_ofList]
    unfold reportedNameBytes at short
    omega
  case again => rw [ofName, String.toList_ofList, fitting_of_utf8Len_le within]

/-- A name put into a text with the room of a report, character by character, comes to what the report keeps,
and that is its longest beginning with room there. -/
theorem keeps_longest {push : String → Char → Bool × String} (h : RoomFor reportedNameBytes push) (s : String) :
    Keeps s (pushAll push "" s.toList) := by
  rw [h.pushAll_eq, String.empty_append]
  exact keeps_fitting s

/-- Seven characters of three bytes leave three bytes, and the next character takes four. What comes after it
would have found room, and is lost with it. -/
theorem keeps_longest_short_of_room : RoomFor reportedNameBytes (pushWithin reportedNameBytes) ∧
    Keeps "√√√√√√√😀√" (pushAll (pushWithin reportedNameBytes) "" "√√√√√√√😀√".toList) ∧
    ofName "√√√√√√√😀√" = .name "√√√√√√√" ∧ "√√√√√√√".utf8ByteSize = 21 :=
  ⟨roomFor_pushWithin _, keeps_longest (roomFor_pushWithin _) _, by decide, by decide⟩

end ProfileRef
end LayerSeparation
