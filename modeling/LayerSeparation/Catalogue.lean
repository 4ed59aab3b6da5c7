/-! Fixed enumerations. Every member has a position and a name; a member is found again by either,
and nothing else finds it. No order other than the listed one is assumed. -/
namespace LayerSeparation

class Catalogue (α : Type) where
  entries : List α
  name : α → String
  mem_entries : ∀ a, a ∈ entries
  names_nodup : (entries.map name).Nodup

namespace Catalogue
variable {α : Type} [Catalogue α]

def index [DecidableEq α] (a : α) : Nat := (entries : List α).idxOf a

def ofIndex? (i : Nat) : Option α := (entries : List α)[i]?

def ofName? (s : String) : Option α := (entries : List α).find? (fun a => name a == s)

theorem eq_of_mem_of_nodup_map {β γ : Type} {f : β → γ} {xs : List β} (h : (xs.map f).Nodup)
    {a b : β} (ha : a ∈ xs) (hb : b ∈ xs) (hab : f a = f b) : a = b := by
  induction xs with
  | nil => cases ha
  | cons x rest ih =>
    have hx : f x ∉ rest.map f := (List.nodup_cons.1 h).1
    have hr : (rest.map f).Nodup := (List.nodup_cons.1 h).2
    rcases List.mem_cons.1 ha with hax | har <;> rcases List.mem_cons.1 hb with hbx | hbr
    · rw [hax, hbx]
    · exact absurd (List.mem_map.2 ⟨b, hbr, by rw [← hab, hax]⟩) hx
    · exact absurd (List.mem_map.2 ⟨a, har, by rw [hab, hbx]⟩) hx
    · exact ih hr har hbr

theorem name_injective {a b : α} (h : name a = name b) : a = b :=
  eq_of_mem_of_nodup_map names_nodup (mem_entries a) (mem_entries b) h

theorem ofIndex?_index [DecidableEq α] (a : α) : ofIndex? (index a) = some a := by
  have h : (entries : List α).idxOf a < (entries : List α).length :=
    List.idxOf_lt_length_of_mem (mem_entries a)
  unfold ofIndex? index
  rw [List.getElem?_eq_getElem h, List.getElem_idxOf h]

theorem ofName?_eq_some_iff {s : String} {a : α} : ofName? s = some a ↔ name a = s := by
  constructor
  · intro h
    simpa using List.find?_some h
  · rintro rfl
    cases h : (ofName? (name a) : Option α) with
    | some b => exact congrArg some (name_injective (by simpa using List.find?_some h))
    | none => simpa using List.find?_eq_none.1 h a (mem_entries a)

theorem funext_iff_map {β : Type} {f g : α → β} :
    f = g ↔ (entries : List α).map f = (entries : List α).map g := by
  constructor
  · rintro rfl
    rfl
  · intro h
    funext a
    exact List.map_inj_left.1 h a (mem_entries a)

end Catalogue
end LayerSeparation
