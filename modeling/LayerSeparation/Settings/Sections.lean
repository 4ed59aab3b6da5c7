/-! Named sections of a file. There is at most one of a name, and they are walked in the order of
their names, whatever their order in the file. -/
namespace LayerSeparation

structure Sections (α : Type) where
  entries : List (String × α) := []
  increasing : (entries.map (·.1)).Pairwise (· < ·) := by simp

namespace Sections
variable {α : Type}

def get? (s : Sections α) (name : String) : Option α := s.entries.lookup name

/-- Puts an entry into its place. One of the same name gives way to it. -/
def place (name : String) (a : α) : List (String × α) → List (String × α)
  | [] => [(name, a)]
  | (other, b) :: rest =>
    if name < other then (name, a) :: (other, b) :: rest
    else if other < name then (other, b) :: place name a rest
    else (name, a) :: rest

theorem mem_names_place {name x : String} {a : α} {entries : List (String × α)}
    (h : x ∈ (place name a entries).map (·.1)) : x = name ∨ x ∈ entries.map (·.1) := by
  induction entries with
  | nil => simpa [place] using h
  | cons e rest ih =>
    obtain ⟨other, b⟩ := e
    unfold place at h
    split at h
    · simpa using h
    · split at h
      · simp only [List.map_cons, List.mem_cons] at h ⊢
        rcases h with h | h
        · exact .inr (.inl h)
        · rcases ih h with h | h
          · exact .inl h
          · exact .inr (.inr h)
      · simp only [List.map_cons, List.mem_cons] at h ⊢
        rcases h with h | h
        · exact .inl h
        · exact .inr (.inr h)

theorem increasing_place (name : String) (a : α) {entries : List (String × α)}
    (h : (entries.map (·.1)).Pairwise (· < ·)) :
    ((place name a entries).map (·.1)).Pairwise (· < ·) := by
  induction entries with
  | nil => simp [place]
  | cons e rest ih =>
    obtain ⟨other, b⟩ := e
    obtain ⟨first, later⟩ := List.pairwise_cons.1 h
    unfold place
    split
    · next lt =>
      refine List.pairwise_cons.2 ⟨fun x hx => ?_, h⟩
      rcases List.mem_cons.1 hx with rfl | hx
      · exact lt
      · exact String.lt_trans lt (first x hx)
    · next ge =>
      split
      · next gt =>
        refine List.pairwise_cons.2 ⟨fun x hx => ?_, ih later⟩
        rcases mem_names_place hx with rfl | hx
        · exact gt
        · exact first x hx
      · next le =>
        have same : name = other := String.le_antisymm (String.not_lt.1 le) (String.not_lt.1 ge)
        exact List.pairwise_cons.2 ⟨fun x hx => same ▸ first x hx, later⟩

def insert (s : Sections α) (name : String) (a : α) : Sections α :=
  ⟨place name a s.entries, increasing_place name a s.increasing⟩

def ofList (entries : List (String × α)) : Sections α :=
  entries.foldl (fun s (name, a) => s.insert name a) {}

/-- Reads every section, in order, name before content. The first fault is reported; no section has
an effect on what another name refers to. -/
def resolve {ε ι β : Type} [BEq ι] (s : Sections α) (known : String → Except ε ι)
    (read : α → Except ε β) : Except ε (ι → Option β) := do
  let found ← s.entries.mapM fun (name, a) => do
    let id ← known name
    return (id, ← read a)
  return fun id => found.lookup id

end Sections
end LayerSeparation
