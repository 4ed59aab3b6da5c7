import LayerSeparation.Proofs.Loading
import Mathlib.Data.List.Forall2

/-! Files that refer to the same things in different ways. A member of an enumeration is found by its name and by
its position alike, so a file in which some references are written the other way is loaded to the same bundle,
or turned down for the same reason. Only the text of a reference that leads to no profile may differ in the
report. -/
namespace LayerSeparation

namespace Reference

/-- The same reference, or references to one member of `α`, the one by its name, the other by its position. -/
inductive Respelled (α : Type) [Catalogue α] [DecidableEq α] : Reference → Reference → Prop where
  | same (r : Reference) : Respelled α r r
  | byPosition {i : UInt8} {a : α} (place : i.toNat = Catalogue.index a) :
      Respelled α (.name (Catalogue.name a)) (.index i)
  | byName {i : UInt8} {a : α} (place : i.toNat = Catalogue.index a) :
      Respelled α (.index i) (.name (Catalogue.name a))

section
variable {α : Type} [Catalogue α] {i : UInt8} {a : α}

theorem found_name (a : α) : entry? (name (Catalogue.name a)) = some a := Catalogue.ofName?_eq_some_iff.mpr rfl

theorem found_index [DecidableEq α] (place : i.toNat = Catalogue.index a) : entry? (index i) = some a := by
  unfold entry?
  dsimp only
  rw [place]
  exact Catalogue.ofIndex?_index a

theorem Respelled.found_eq [DecidableEq α] {r s : Reference} (h : Respelled α r s) :
    (r.entry? : Option α) = s.entry? := by
  cases h with
  | same => rfl
  | byPosition place => rw [found_name, found_index place]
  | byName place => rw [found_name, found_index place]

end

theorem curve_of_found {C : Type} [Curve C] {r : Reference} {c : C} (found : r.entry? = some c) :
    r.curve = .ok c := by
  cases r with
  | index i =>
    have found : (Catalogue.ofIndex? i.toNat : Option C) = some c := found
    simp only [curve, Curve.ofIndex, found]
  | name s =>
    have found : (Catalogue.ofName? s : Option C) = some c := found
    simp only [curve, Curve.ofName, found]

theorem Respelled.curve_eq {C : Type} [Curve C] [DecidableEq C] {r s : Reference} (h : Respelled C r s) :
    (r.curve : Except ProfileError C) = s.curve := by
  cases h with
  | same => rfl
  | byPosition place => rw [curve_of_found (found_name _), curve_of_found (found_index place)]
  | byName place => rw [curve_of_found (found_name _), curve_of_found (found_index place)]

end Reference

/-! Sections and files that differ in nothing but their references. -/

structure MovingSection.Respelled (s t : MovingSection) : Prop where
  initial : Reference.Respelled TiltCurve s.initialCurve t.initialCurve
  finish : Reference.Respelled TiltCurve s.finishCurve t.finishCurve
  rest : t = { s with initialCurve := t.initialCurve, finishCurve := t.finishCurve }

structure SeparationSection.Respelled (s t : SeparationSection) : Prop where
  tower : Reference.Respelled TowerCurve s.towerCurve t.towerCurve
  rest : t = { s with towerCurve := t.towerCurve }

structure PresetSection.Respelled (s t : PresetSection) : Prop where
  small : Reference.Respelled LayerProfileId s.smallFill t.smallFill
  large : Reference.Respelled LayerProfileId s.largeFill t.largeFill

structure ExposureSection.Respelled (s t : ExposureSection) : Prop where
  profile : Option.Rel (Reference.Respelled ExposureProfileId) s.profile t.profile
  below : Option.Rel SeparationSection.Respelled s.below t.below
  above : Option.Rel SeparationSection.Respelled s.above t.above
  rest : t = { s with profile := t.profile, below := t.below, above := t.above }

def Sections.Alike {α β : Type} (R : α → β → Prop) (s : Sections α) (t : Sections β) : Prop :=
  List.Forall₂ (fun e f => e.1 = f.1 ∧ R e.2 f.2) s.entries t.entries

structure ProfileFile.Respelled (file other : ProfileFile) : Prop where
  moving : file.movingProfiles.Alike MovingSection.Respelled other.movingProfiles
  layers : file.layerProfiles.Alike SeparationSection.Respelled other.layerProfiles
  presets : file.exposureProfiles.Alike PresetSection.Respelled other.exposureProfiles
  exposure : file.exposure.Respelled other.exposure
  rest : other = { file with
    movingProfiles := other.movingProfiles
    layerProfiles := other.layerProfiles
    exposureProfiles := other.exposureProfiles
    exposure := other.exposure }

/-- The same error, but for the text of a reference that leads to nothing. -/
inductive ConfigError.Alike : ConfigError → ConfigError → Prop where
  | same (e : ConfigError) : Alike e e
  | unknown (kind reference other : String) :
      Alike (.unknownReference kind reference) (.unknownReference kind other)

theorem ConfigError.Alike.isUnknownProfile_eq {e e' : ConfigError} (h : e.Alike e') :
    e'.isUnknownProfile = e.isUnknownProfile := by
  cases h <;> rfl

inductive SameOutcome {α : Type} : Except ConfigError α → Except ConfigError α → Prop where
  | ok (a : α) : SameOutcome (.ok a) (.ok a)
  | error {e e' : ConfigError} (alike : e.Alike e') : SameOutcome (.error e) (.error e')

namespace SameOutcome
variable {α β γ δ : Type}

theorem refl (x : Except ConfigError α) : SameOutcome x x := by
  cases x with
  | ok a => exact .ok a
  | error e => exact .error (.same e)

theorem of_eq {x y : Except ConfigError α} (h : x = y) : SameOutcome x y := by
  rw [h]
  exact refl y

theorem bind {x y : Except ConfigError α} {f g : α → Except ConfigError β} (h : SameOutcome x y)
    (onward : ∀ a, SameOutcome (f a) (g a)) : SameOutcome (x >>= f) (y >>= g) := by
  cases h with
  | ok a => exact onward a
  | error alike => exact .error alike

theorem mapM {R : α → β → Prop} {f : α → Except ConfigError γ} {g : β → Except ConfigError γ} {xs : List α}
    {ys : List β} (related : List.Forall₂ R xs ys) (each : ∀ x y, R x y → SameOutcome (f x) (g y)) :
    SameOutcome (xs.mapM f) (ys.mapM g) := by
  induction related with
  | nil => exact .ok []
  | cons first _ ih =>
    rw [List.mapM_cons, List.mapM_cons]
    exact bind (each _ _ first) fun a => bind ih fun later => refl _

theorem resolve {ι : Type} [BEq ι] {R : α → β → Prop} {s : Sections α} {t : Sections β}
    {known : String → Except ConfigError ι} {read : α → Except ConfigError γ} {read' : β → Except ConfigError γ}
    (related : s.Alike R t) (each : ∀ a b, R a b → SameOutcome (read a) (read' b)) :
    SameOutcome (s.resolve known read) (t.resolve known read') := by
  refine bind (mapM related ?_) fun found => refl _
  rintro ⟨name, a⟩ ⟨_, b⟩ ⟨rfl, contents⟩
  exact bind (refl _) fun id => bind (each a b contents) fun x => refl _

theorem orUnknown {kind reference other : String} {o o' : Option α} (same : o = o') :
    SameOutcome (orUnknown kind reference o) (orUnknown kind other o') := by
  subst same
  cases o with
  | some a => exact .ok a
  | none => exact .error (.unknown kind reference other)

theorem eq_ok_iff {x y : Except ConfigError α} (h : SameOutcome x y) (a : α) : x = .ok a ↔ y = .ok a := by
  cases h with
  | ok b => rfl
  | error alike => exact ⟨nofun, nofun⟩

theorem exists_error {x y : Except ConfigError α} {e : ConfigError} (h : SameOutcome x y)
    (failed : x = .error e) :
    ∃ e', y = .error e' ∧ e.Alike e' ∧ e'.isUnknownProfile = e.isUnknownProfile := by
  cases h with
  | ok a => cases failed
  | error alike =>
    cases failed
    exact ⟨_, rfl, alike, alike.isUnknownProfile_eq⟩

end SameOutcome

theorem MovingSection.Respelled.resolve_eq {s t : MovingSection} (h : s.Respelled t) : s.resolve = t.resolve := by
  rw [h.rest]
  unfold resolve
  rw [h.initial.curve_eq, h.finish.curve_eq]

theorem SeparationSection.Respelled.resolve_eq {s t : SeparationSection} (h : s.Respelled t)
    (sectionName : String) : s.resolve sectionName = t.resolve sectionName := by
  rw [h.rest]
  unfold resolve
  rw [h.tower.curve_eq]

theorem PresetSection.Respelled.resolve {s t : PresetSection} (h : s.Respelled t) (areaFill : Float32)
    (layers : LayerProfileId → Option LayerParams) :
    SameOutcome (s.resolve areaFill layers) (t.resolve areaFill layers) := by
  have small := congrArg (·.bind layers) h.small.found_eq
  have large := congrArg (·.bind layers) h.large.found_eq
  exact .bind (.orUnknown small) fun below => .bind (.orUnknown large) fun above => .refl _

namespace ExposureSection.Respelled
variable {s t : ExposureSection} (h : s.Respelled t)
include h

theorem threshold_eq : s.threshold = t.threshold := by
  rw [h.rest]
  rfl

theorem select (areaFill : Float32) (presets : ExposureProfileId → Option ExposureProfile) :
    SameOutcome (s.select areaFill presets) (t.select areaFill presets) := by
  obtain ⟨profile, below, above, -⟩ := h
  unfold ExposureSection.select
  revert profile below above
  generalize s.profile = p, s.below = b, s.above = a, t.profile = p', t.below = b', t.above = a'
  intro profile below above
  cases profile with
  | none =>
    cases below with
    | none => cases above <;> exact .refl _
    | some small =>
      cases above with
      | none => exact .refl _
      | some large =>
        dsimp only
        rw [small.resolve_eq, large.resolve_eq]
        exact .refl _
  | some respelled =>
    cases below with
    | none =>
      cases above with
      | none => exact .orUnknown (congrArg (·.bind presets) respelled.found_eq)
      | some => exact .refl _
    | some => cases above <;> exact .refl _

end ExposureSection.Respelled

namespace ProfileFile.Respelled
variable {file other : ProfileFile} (h : file.Respelled other)
include h

theorem table : SameOutcome (MovingProfileTable.ofFile file) (MovingProfileTable.ofFile other) := by
  have tilt : file.tiltCurves = other.tiltCurves := (congrArg ProfileFile.tiltCurves h.rest :).symm
  have tower : file.towerCurves = other.towerCurves := (congrArg ProfileFile.towerCurves h.rest :).symm
  unfold MovingProfileTable.ofFile
  rw [tilt, tower]
  refine .bind (.refl _) fun tiltCurves => .bind (.refl _) fun towerCurves => ?_
  refine .bind (.resolve h.moving fun s t contents => ?_) fun found => .refl _
  rw [contents.resolve_eq]
  exact .refl _

theorem bundle : SameOutcome (Bundle.ofFile file) (Bundle.ofFile other) := by
  have geometry : file.geometry = other.geometry := (congrArg ProfileFile.geometry h.rest :).symm
  unfold Bundle.ofFile
  rw [geometry, h.exposure.threshold_eq]
  refine .bind h.table fun table => .bind (.refl _) fun _ => .bind (.refl _) fun areaFill => ?_
  refine .bind (.resolve h.layers fun s t contents => .of_eq (contents.resolve_eq _)) fun layers => ?_
  refine .bind (.resolve h.presets fun s t contents => contents.resolve areaFill layers) fun presets => ?_
  exact .bind (h.exposure.select areaFill presets) fun exposure => .refl _

end ProfileFile.Respelled

def Sections.single {α : Type} (name : String) (a : α) : Sections α := ⟨[(name, a)], List.pairwise_singleton _ _⟩

namespace Bundle

/-- Names and positions are interchangeable in every reference of a file. A file that is accepted stays so and
gives the same bundle; one that is turned down stays so, for the same reason. -/
theorem ofFile_of_respelled {file other : ProfileFile} (h : file.Respelled other) :
    (∀ b, ofFile file = .ok b ↔ ofFile other = .ok b) ∧
    (∀ e, ofFile file = .error e →
      ∃ e', ofFile other = .error e' ∧ e.Alike e' ∧ e'.isUnknownProfile = e.isUnknownProfile) ∧
    ∀ (decode : String → Option ProfileFile) text text', decode text = some file → decode text' = some other →
      SameOutcome (load decode text) (load decode text') := by
  refine ⟨h.bundle.eq_ok_iff, fun e failed => h.bundle.exists_error failed, ?_⟩
  intro decode text text' read read'
  unfold load
  rw [read, read']
  exact h.bundle

/-- A file that refers to everything by name, with one section of each kind. -/
def namedFile : ProfileFile where
  tiltCurves := .single "layer_release" { maximumSteprate := 700 }
  towerCurves := .single "layer" { maximumSteprate := 900 }
  movingProfiles := .single "tilt_up_small_fill" {
    initialCurve := .name "move_slow", finishCurve := .name "layer_release" }
  layerProfiles := .single "fast" { towerCurve := .name "layer", useTilt := false }
  exposureProfiles := .single "safe" { smallFill := .name "fast", largeFill := .name "fast" }
  exposure := { areaFillPercent := some 35, displayAreaMm2 := some 8000, profile := some (.name "safe") }

def mixedFile : ProfileFile :=
  { namedFile with
    movingProfiles := .single "tilt_up_small_fill" {
      initialCurve := .name "move_slow", finishCurve := .index 5 }
    layerProfiles := .single "fast" { towerCurve := .index 4, useTilt := false }
    exposureProfiles := .single "safe" { smallFill := .index 1, largeFill := .name "fast" }
    exposure := { namedFile.exposure with profile := some (.index 1) } }

def selecting (r : Reference) : ProfileFile :=
  { namedFile with exposure := { namedFile.exposure with profile := some r } }

theorem ofFile_of_respelled_mixed : namedFile.Respelled mixedFile ∧
    (∃ b, ofFile namedFile = .ok b ∧ ofFile mixedFile = .ok b) ∧
    ∃ e e', ofFile (selecting (.name "high_viscosity")) = .error e ∧ ofFile (selecting (.index 2)) = .error e' ∧
      e.Alike e' ∧ e'.isUnknownProfile = e.isUnknownProfile := by
  have mixed : namedFile.Respelled mixedFile := {
    moving := .cons ⟨rfl, .same _, .byPosition (a := TiltCurve.layerRelease) rfl, rfl⟩ .nil
    layers := .cons ⟨rfl, .byPosition (a := TowerCurve.layer) rfl, rfl⟩ .nil
    presets := .cons ⟨rfl, .byPosition (a := LayerProfileId.fast) rfl, .same _⟩ .nil
    exposure := ⟨.some (.byPosition (a := ExposureProfileId.safe) rfl), .none, .none, rfl⟩
    rest := rfl }
  have astray : (selecting (.name "high_viscosity")).Respelled (selecting (.index 2)) := {
    moving := .cons ⟨rfl, .same _, .same _, rfl⟩ .nil
    layers := .cons ⟨rfl, .same _, rfl⟩ .nil
    presets := .cons ⟨rfl, .same _, .same _⟩ .nil
    exposure := ⟨.some (.byPosition (a := ExposureProfileId.highViscosity) rfl), .none, .none, rfl⟩
    rest := rfl }
  obtain ⟨b, accepted, -⟩ := exists_ok_of_any (x := ofFile namedFile) (P := fun _ => True) (by decide +kernel)
  have refused : (ofFile (selecting (.name "high_viscosity"))).toOption.isNone = true := by decide +kernel
  refine ⟨mixed, ⟨b, accepted, ((ofFile_of_respelled mixed).1 b).mp accepted⟩, ?_⟩
  cases failed : ofFile (selecting (.name "high_viscosity")) with
  | ok b =>
    rw [failed] at refused
    cases refused
  | error e =>
    obtain ⟨e', failed', alike⟩ := (ofFile_of_respelled astray).2.1 e failed
    exact ⟨e, e', rfl, failed', alike⟩

end Bundle
end LayerSeparation
