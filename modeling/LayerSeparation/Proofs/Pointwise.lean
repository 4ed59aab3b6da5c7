import LayerSeparation.Proofs.Loading

/-! Entries of a bundle, one by one. Each comes from the section of its own name and from what that section
refers to; a name without a section has the factory profile, curve settings of zero, or is not known. The
sections are walked in order and written into tables; no two of them write to the same place, so the walk
and the look-up by name come to the same. -/
namespace LayerSeparation

namespace Sections
variable {ε ι α β γ : Type} {known : String → Except ε ι} {read : α → Except ε β}

/-- Walks the sections in order and writes what each holds into the table, at the member that its name
spells. -/
def write [DecidableEq ι] (s : Sections α) (known : String → Except ε ι) (read : α → Except ε β)
    (entry : β → γ) (table : ι → γ) : Except ε (ι → γ) :=
  s.entries.foldlM (fun table (name, a) => do
    let id ← known name
    let x ← read a
    return fun i => if i = id then entry x else table i) table

variable [Catalogue ι] (spelled : ∀ {name : String} {id : ι}, known name = .ok id ↔ Catalogue.name id = name)
include spelled

theorem names_of_walk {entries : List (String × α)} {pairs : List (ι × β)}
    (walked : (entries.mapM fun (name, a) => do
      let id ← known name
      return (id, ← read a)) = .ok pairs) :
    pairs.map (fun p => Catalogue.name p.1) = entries.map (·.1) := by
  induction entries generalizing pairs with
  | nil =>
    cases walked
    rfl
  | cons entry rest ih =>
    rw [List.mapM_cons] at walked
    obtain ⟨_, first, walked⟩ := bind_eq_ok_iff.mp walked
    obtain ⟨later, following, walked⟩ := bind_eq_ok_iff.mp walked
    obtain ⟨id, named, first⟩ := bind_eq_ok_iff.mp first
    obtain ⟨x, content, first⟩ := bind_eq_ok_iff.mp first
    cases first
    cases walked
    rw [List.map_cons, List.map_cons, ih following, spelled.mp named]

section
variable [BEq ι] {s : Sections α} {found : ι → Option β} (h : s.resolve known read = .ok found)
include h

theorem found_eq_none_iff [LawfulBEq ι] {id : ι} : found id = none ↔ s.get? (Catalogue.name id) = none := by
  constructor
  · intro absent
    obtain ⟨pairs, walked, taken⟩ := bind_eq_ok_iff.mp h
    cases taken
    refine List.lookup_eq_none_iff.mpr fun e member => bne_iff_ne.mpr fun same => ?_
    have named : Catalogue.name id ∈ s.entries.map (·.1) := same ▸ List.mem_map_of_mem member
    rw [← names_of_walk spelled walked] at named
    obtain ⟨p, there, spells⟩ := List.mem_map.mp named
    exact bne_iff_ne.mp (List.lookup_eq_none_iff.mp absent p there) (Catalogue.name_injective spells).symm
  · intro absent
    cases there : found id with
    | none => rfl
    | some x =>
      obtain ⟨a, section', _⟩ := (found_iff spelled h).mp there
      rw [absent] at section'
      cases section'

theorem found_of_get? [LawfulBEq ι] (id : ι) :
    match s.get? (Catalogue.name id) with
    | some a => ∃ x, found id = some x ∧ read a = .ok x
    | none => found id = none := by
  cases there : s.get? (Catalogue.name id) with
  | none => exact (found_eq_none_iff spelled h).mpr there
  | some a =>
    cases here : found id with
    | none =>
      rw [(found_eq_none_iff spelled h).mp here] at there
      cases there
    | some x =>
      obtain ⟨a', same, content⟩ := (found_iff spelled h).mp here
      rw [there] at same
      cases same
      exact ⟨x, rfl, content⟩

end

/-- Each section has a place of its own to be written to, so the table has in it what is looked up by
name. A fault is the same on both ways. -/
theorem write_eq_resolve [DecidableEq ι] (s : Sections α) (entry : β → γ) (table : ι → γ) :
    s.write known read entry table =
      (s.resolve known read).map fun found id => ((found id).map entry).getD (table id) := by
  have order := s.increasing
  unfold write resolve
  generalize s.entries = entries at order
  induction entries generalizing table with
  | nil => rfl
  | cons e rest ih =>
    obtain ⟨name, a⟩ := e
    obtain ⟨first, order⟩ := List.pairwise_cons.mp order
    simp only [List.foldlM_cons, List.mapM_cons]
    cases named : known name with
    | error e => rfl
    | ok here =>
      cases content : read a with
      | error e => rfl
      | ok x =>
        refine (ih (fun i => if i = here then entry x else table i) order).trans ?_
        cases walked : rest.mapM fun (name, a) => do
          let id ← known name
          return (id, ← read a) with
        | error e => rfl
        | ok later =>
          refine congrArg Except.ok (funext fun id => ?_)
          by_cases same : id = here
          · -- no later section has this name
            have fresh : later.lookup here = none := by
              refine List.lookup_eq_none_iff.mpr fun p member => bne_iff_ne.mpr ?_
              rintro rfl
              have again : Catalogue.name p.1 ∈ rest.map (·.1) := by
                rw [← names_of_walk spelled walked]
                exact List.mem_map_of_mem member
              rw [spelled.mp named] at again
              exact absurd (first _ again) (String.lt_irrefl _)
            simp [same, fresh]
          · simp [List.lookup_cons, same, beq_false_of_ne same]

theorem write_some [DecidableEq ι] (s : Sections α) :
    s.write known read some (fun _ => none) = s.resolve known read := by
  rw [write_eq_resolve spelled]
  cases s.resolve known read with
  | error e => rfl
  | ok found => exact congrArg Except.ok (funext fun id => by cases there : found id <;> simp [there])

end Sections

structure MovingSection.Describes (s : MovingSection) (p : MovingProfile) : Prop where
  initial : s.initialCurve.curve = .ok p.initialCurve
  offset : p.offsetSteps = s.offsetSteps
  offsetDelay : p.offsetDelayMs = s.offsetDelayMs
  finish : s.finishCurve.curve = .ok p.finishCurve
  cycles : p.cycles = s.cycles
  delay : p.delayMs = s.delayMs
  tolerance : p.homingTolerance = s.homingTolerance
  attempts : p.homingCycles = s.homingCycles

theorem MovingSection.Describes.unique {s : MovingSection} {p q : MovingProfile} (hp : s.Describes p)
    (hq : s.Describes q) : p = q := by
  have initial := Except.ok.inj (hp.initial.symm.trans hq.initial)
  have finish := Except.ok.inj (hp.finish.symm.trans hq.finish)
  obtain ⟨-, offset, offsetDelay, -, cycles, delay, tolerance, attempts⟩ := hp
  rw [← hq.offset] at offset
  rw [← hq.offsetDelay] at offsetDelay
  rw [← hq.cycles] at cycles
  rw [← hq.delay] at delay
  rw [← hq.tolerance] at tolerance
  rw [← hq.attempts] at attempts
  cases p
  cases q
  simp_all only

theorem SeparationSection.Describes.unique {s : SeparationSection} {p q : LayerParams}
    (hp : s.Describes p) (hq : s.Describes q) : p = q := by
  have tower := Except.ok.inj (hp.tower.symm.trans hq.tower)
  have tilt : p.tilt = q.tilt := by
    have first := hp.tilt
    have second := hq.tilt
    split at first
    · next used =>
      rw [if_pos used] at second
      obtain ⟨down, up, spellsDown, spellsUp, first⟩ := first
      obtain ⟨down', up', spellsDown', spellsUp', second⟩ := second
      rw [spellsDown, Option.some.injEq] at spellsDown'
      rw [spellsUp, Option.some.injEq] at spellsUp'
      rw [first, second, Catalogue.name_injective spellsDown', Catalogue.name_injective spellsUp']
    · next unused =>
      rw [if_neg unused] at second
      exact first.trans second.symm
  obtain ⟨before, after, hop, -, -⟩ := hp
  rw [← hq.before] at before
  rw [← hq.after] at after
  rw [← hq.hop] at hop
  cases p
  cases q
  simp_all only

namespace Bundle

/-- The tables are those that the walks over the sections end with, each of which starts from what holds
without a section. -/
structure Written (file : ProfileFile) (b : Bundle) : Prop where
  tiltCurves : file.tiltCurves.write Curve.ofName .ok id (fun _ => {}) = .ok b.table.tiltCurves.get
  towerCurves : file.towerCurves.write Curve.ofName .ok id (fun _ => {}) = .ok b.table.towerCurves.get
  moving : file.movingProfiles.write MovingProfileId.known (fun s => liftM s.resolve) id
    MovingProfileId.factoryProfile = .ok b.table.moving
  layers : file.layerProfiles.write (fun name => orUnknown layerKind name (Catalogue.ofName? name))
    (·.resolve "layer_profiles") some (fun _ => none) = .ok b.layerProfiles
  exposures : ∃ areaFill, file.exposure.threshold = .ok areaFill ∧
    file.exposureProfiles.write (fun name => orUnknown exposureKind name (Catalogue.ofName? name))
      (·.resolve areaFill b.layerProfiles) some (fun _ => none) = .ok b.exposureProfiles

end Bundle

theorem curve_ofName_eq_ok_iff {C : Type} [Curve C] {name : String} {c : C} :
    Curve.ofName name = .ok c ↔ Catalogue.name c = name := by
  rw [← Catalogue.ofName?_eq_some_iff, Curve.ofName]
  cases (Catalogue.ofName? name : Option C) <;> simp

theorem orUnknown_ofName?_eq_ok_iff {ι : Type} [Catalogue ι] {kind name : String} {id : ι} :
    orUnknown kind name (Catalogue.ofName? name) = .ok id ↔ Catalogue.name id = name :=
  orUnknown_eq_ok_iff.trans Catalogue.ofName?_eq_some_iff

theorem CurveTable.get_of_sections {C : Type} [Curve C] [DecidableEq C] {s : Sections CurveParams}
    {t : CurveTable C} (h : ofSections s = .ok t) :
    (∀ c, t.get c = (s.get? (Catalogue.name c)).getD {}) ∧
      s.write Curve.ofName .ok id (fun _ => {}) = .ok t.get := by
  obtain ⟨found, resolved, made⟩ := bind_eq_ok_iff.mp h
  cases made
  constructor
  · intro c
    have there := Sections.found_of_get? curve_ofName_eq_ok_iff resolved c
    revert there
    cases s.get? (Catalogue.name c) with
    | none => exact fun absent => by simp [absent]
    | some x =>
      rintro ⟨y, there, same⟩
      cases same
      simp [there]
  · rw [Sections.write_eq_resolve curve_ofName_eq_ok_iff, resolved]
    simp [Except.map]

namespace MovingProfileTable

theorem parts_of_file {file : ProfileFile} {t : MovingProfileTable} (h : ofFile file = .ok t) :
    CurveTable.ofSections file.tiltCurves = .ok t.tiltCurves ∧
    CurveTable.ofSections file.towerCurves = .ok t.towerCurves ∧
    ∃ found, file.movingProfiles.resolve MovingProfileId.known (fun s => liftM s.resolve) = .ok found ∧
      t.moving = fun id => (found id).getD id.factoryProfile := by
  unfold ofFile at h
  simp only [bind_eq_ok_iff, lift_eq_ok_iff, pure, Except.pure, Except.ok.injEq] at h
  obtain ⟨tilt, tilts, tower, towers, found, resolved, _, _, rfl⟩ := h
  refine ⟨tilts, towers, found, ?_, rfl⟩
  rw [← resolved]

end MovingProfileTable

namespace Bundle
variable {file : ProfileFile} {b : Bundle} (h : ofFile file = .ok b)
include h

theorem parts_of_file :
    MovingProfileTable.ofFile file = .ok b.table ∧
    ∃ areaFill, file.exposure.threshold = .ok areaFill ∧
      file.layerProfiles.resolve (fun name => orUnknown layerKind name (Catalogue.ofName? name))
        (·.resolve "layer_profiles") = .ok b.layerProfiles ∧
      file.exposureProfiles.resolve (fun name => orUnknown exposureKind name (Catalogue.ofName? name))
        (·.resolve areaFill b.layerProfiles) = .ok b.exposureProfiles ∧
      file.exposure.select areaFill b.exposureProfiles = .ok b.exposure := by
  unfold ofFile at h
  simp only [bind_eq_ok_iff, lift_eq_ok_iff, pure, Except.pure, Except.ok.injEq] at h
  obtain ⟨table, built, _, _, areaFill, given, layers, walked, presets, named, exposure, chosen, _, _,
    rfl⟩ := h
  exact ⟨built, areaFill, given, walked, named, chosen⟩

theorem written : b.Written file := by
  obtain ⟨built, areaFill, given, walked, named, -⟩ := parts_of_file h
  obtain ⟨tilts, towers, found, resolved, moving⟩ := MovingProfileTable.parts_of_file built
  exact {
    tiltCurves := (CurveTable.get_of_sections tilts).2
    towerCurves := (CurveTable.get_of_sections towers).2
    moving := by
      rw [Sections.write_eq_resolve known_eq_ok_iff, resolved, moving]
      simp [Except.map]
    layers := by
      rw [Sections.write_some orUnknown_ofName?_eq_ok_iff, walked]
    exposures := ⟨areaFill, given, by
      rw [Sections.write_some orUnknown_ofName?_eq_ok_iff, named]⟩ }

omit h

variable {other : ProfileFile} {c : Bundle}

end Bundle
end LayerSeparation
