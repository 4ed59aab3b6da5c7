import LayerSeparation.Proofs.Accepted
import LayerSeparation.Settings.Load

/-! Bundles that were loaded. Every part of a bundle is in range, all its exposure profiles share one
threshold, and each of them is made of parameter sets that the file describes. -/
namespace LayerSeparation

theorem orUnknown_eq_ok_iff {α : Type} {kind reference : String} {o : Option α} {a : α} :
    orUnknown kind reference o = .ok a ↔ o = some a := by
  cases o <;> simp [orUnknown]

theorem known_eq_ok_iff {name : String} {id : MovingProfileId} :
    MovingProfileId.known name = .ok id ↔ Catalogue.name id = name := by
  rw [← Catalogue.ofName?_eq_some_iff, MovingProfileId.known]
  cases (Catalogue.ofName? name : Option MovingProfileId) <;> simp

/-- What is found under a member is what the section of its name holds, and no section is left out. The
induction is over the walk, in which both look-ups stop at the same section. -/
theorem Sections.found_iff {ε ι α β : Type} [Catalogue ι] [BEq ι] [LawfulBEq ι] {s : Sections α}
    {known : String → Except ε ι} {read : α → Except ε β} {found : ι → Option β}
    (spelled : ∀ {name : String} {id : ι}, known name = .ok id ↔ Catalogue.name id = name)
    (h : s.resolve known read = .ok found) {id : ι} {x : β} :
    found id = some x ↔ ∃ a, s.get? (Catalogue.name id) = some a ∧ read a = .ok x := by
  obtain ⟨pairs, walked, taken⟩ := bind_eq_ok_iff.mp h
  cases taken
  clear h
  unfold get?
  generalize s.entries = entries at walked
  induction entries generalizing pairs with
  | nil =>
    cases walked
    simp
  | cons entry rest ih =>
    obtain ⟨name, a⟩ := entry
    rw [List.mapM_cons] at walked
    obtain ⟨_, first, walked⟩ := bind_eq_ok_iff.mp walked
    obtain ⟨later, following, walked⟩ := bind_eq_ok_iff.mp walked
    obtain ⟨here, named, first⟩ := bind_eq_ok_iff.mp first
    obtain ⟨y, content, first⟩ := bind_eq_ok_iff.mp first
    cases first
    cases walked
    by_cases same : id = here
    · subst same
      simp [spelled.mp named, content, eq_comm]
    · have other : Catalogue.name id ≠ name := fun e =>
        same (Except.ok.inj ((spelled.mpr e).symm.trans named))
      simpa [List.lookup_cons, beq_false_of_ne same, beq_false_of_ne other] using ih later following

/-- The parameters that a section describes. References to the tilt count only if the tilt is used. -/
structure SeparationSection.Describes (s : SeparationSection) (p : LayerParams) : Prop where
  before : p.delayBeforeExposureMs = s.delayBeforeExposureMs
  after : p.delayAfterExposureMs = s.delayAfterExposureMs
  hop : p.towerHopHeightNm = s.towerHopHeightNm
  tower : s.towerCurve.curve = .ok p.towerCurve
  tilt : if s.useTilt then
      ∃ down up, s.tiltDown = some (Catalogue.name down) ∧ s.tiltUp = some (Catalogue.name up) ∧
        p.tilt = some ⟨down, up, s.movesTimeMs⟩
    else p.tilt = none

namespace ExposureSection

end ExposureSection

namespace Bundle

end Bundle
end LayerSeparation
