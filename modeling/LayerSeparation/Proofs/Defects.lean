import LayerSeparation.Proofs.Layout
import LayerSeparation.Proofs.TunedHeight

/-! The errors of a tuning file. A line can be defective by itself: it is no assignment, or it gives eight integers
that are the row of no profile. The first defective line is reported, and the tilt height is checked only if there
is none. Rows that are not eight integers and values that cannot be read are no reason to turn a text down. -/
namespace LayerSeparation

open Text

theorem lift_eq_error_iff {α : Type} {x : Except ProfileError α} {e : ConfigError} :
    (liftM x : Except ConfigError α) = .error e ↔ ∃ e', x = .error e' ∧ e = .profile e' := by
  cases x with
  | error e' =>
    constructor
    · rintro ⟨⟩
      exact ⟨e', rfl, rfl⟩
    · rintro ⟨_, ⟨⟩, rfl⟩
      rfl
  | ok a => exact iff_of_false nofun nofun

theorem exists_ok_iff {ε α : Type} {x : Except ε α} : (∃ a, x = .ok a) ↔ ¬ ∃ e, x = .error e := by
  cases x <;> simp

namespace Tuning

/-- What is wrong with a line alone. Its number and its content are reported if it is no assignment. -/
inductive Defect (number : Nat) (raw : List Char) : ConfigError → Prop where
  | unassigned (said : silent (trim raw) = false) (bare : '=' ∉ trim raw) :
      Defect number raw (.badLine number (trim raw))
  | row {key : RowKey} {value : List Char} {row : List Int32} {e : ProfileError}
      (given : Assigns raw (.row key) value) (eight : EightIntegers value row)
      (turnedDown : MovingProfile.ofRow row = .error e) : Defect number raw (.profile e)

def Defective (raw : List Char) : Prop := ∃ number e, Defect number raw e

/-- The error of the first defective line. All lines are numbered, those that say nothing too. -/
inductive FirstDefect : Nat → List (List Char) → ConfigError → Prop where
  | here {number : Nat} {raw : List Char} {rest : List (List Char)} {e : ConfigError}
      (defect : Defect number raw e) : FirstDefect number (raw :: rest) e
  | later {number : Nat} {raw : List Char} {rest : List (List Char)} {e : ConfigError}
      (sound : ¬ Defective raw) (found : FirstDefect (number + 1) rest e) : FirstDefect number (raw :: rest) e

def heightIn (pairs : List Assignment) : Int :=
  settingOf 4928 (-0x80000000) 0x7fffffff (lastValue pairs .tiltHeight)

def WithinTravel (height : Int) : Prop := 1 ≤ height ∧ height ≤ 6016

def Readable (value : List Char) : TuningKey → Prop
  | .row _ => ∃ row, EightIntegers value row
  | .tilt => ∃ b, flag? value = some b
  | _ => ∃ n, number? value = some n

theorem Defect.renumber {number : Nat} {raw : List Char} {e : ConfigError} (defect : Defect number raw e)
    (other : Nat) : ∃ e', Defect other raw e' := by
  cases defect with
  | unassigned said bare => exact ⟨_, .unassigned said bare⟩
  | row given eight turnedDown => exact ⟨_, .row given eight turnedDown⟩

theorem defective_iff (number : Nat) {raw : List Char} : Defective raw ↔ ∃ e, Defect number raw e :=
  ⟨fun ⟨_, _, defect⟩ => defect.renumber number, fun ⟨e, defect⟩ => ⟨number, e, defect⟩⟩

theorem not_defective_of_setsNothing {raw : List Char} (idle : SetsNothing raw) : ¬ Defective raw := by
  rintro ⟨number, e, ⟨said, bare⟩ | ⟨given, eight, turnedDown⟩⟩
  · exact bare (idle.resolve_left (by simp [said])).1
  · have unknown := (idle.resolve_left (by simp [given.said])).2
    exact unknown _ (congrArg Prod.fst given.pair).symm

theorem not_defective_of_unreadable {raw value : List Char} {key : TuningKey} (given : Assigns raw key value)
    (unreadable : ¬ Readable value key) : ¬ Defective raw := by
  rintro ⟨number, e, ⟨said, bare⟩ | ⟨given', eight, turnedDown⟩⟩
  · exact bare given.assigned
  · obtain ⟨rfl, rfl⟩ := given.unique given'
    exact unreadable ⟨_, eight⟩

theorem firstDefect_cons_iff {number : Nat} {raw : List Char} {rest : List (List Char)} {e : ConfigError} :
    FirstDefect number (raw :: rest) e ↔
      Defect number raw e ∨ ¬ Defective raw ∧ FirstDefect (number + 1) rest e := by
  constructor
  · intro h
    cases h with
    | here defect => exact .inl defect
    | later sound found => exact .inr ⟨sound, found⟩
  · rintro (defect | ⟨sound, found⟩)
    · exact .here defect
    · exact .later sound found

theorem firstDefect_replace {number : Nat} {front back : List (List Char)} {raw raw' : List Char} {e : ConfigError}
    (sound : ¬ Defective raw) (sound' : ¬ Defective raw') :
    FirstDefect number (front ++ raw :: back) e ↔ FirstDefect number (front ++ raw' :: back) e := by
  induction front generalizing number with
  | nil =>
    have none {line : List Char} (sound : ¬ Defective line) : ¬ Defect number line e :=
      fun defect => sound ⟨number, e, defect⟩
    simp only [List.nil_append, firstDefect_cons_iff, none sound, none sound', sound, sound']
  | cons line front ih => simp only [List.cons_append, firstDefect_cons_iff, ih]

theorem firstDefect_append {number : Nat} {before after : List (List Char)} {line : List Char} {e : ConfigError}
    (sound : ∀ earlier ∈ before, ¬ Defective earlier) (defect : Defect (number + before.length) line e) :
    FirstDefect number (before ++ line :: after) e := by
  induction before generalizing number with
  | nil => exact .here defect
  | cons earlier before ih =>
    obtain ⟨first, rest⟩ := List.forall_mem_cons.mp sound
    refine .later first (ih rest ?_)
    rw [List.length_cons] at defect
    rwa [Nat.add_assoc, Nat.add_comm 1]

end Tuning

namespace TuningDraft

open Tuning

variable {d : TuningDraft} {e : ConfigError}

theorem set_eq_error_iff {key : TuningKey} {value : List Char} {e : ProfileError} : d.set key value = .error e ↔
    ∃ k row, key = .row k ∧ EightIntegers value row ∧ MovingProfile.ofRow row = .error e := by
  cases key with
  | row k =>
    unfold TuningDraft.set
    cases read : rowValues? value with
    | none =>
      refine iff_of_false nofun ?_
      rintro ⟨_, row, _, eight, _⟩
      rw [rowValues?_eq_some_iff.mpr eight] at read
      cases read
    | some row =>
      have eight := rowValues?_eq_some_iff.mp read
      have failed : (∃ k' row', TuningKey.row k = .row k' ∧ EightIntegers value row' ∧
          MovingProfile.ofRow row' = .error e) ↔ MovingProfile.ofRow row = .error e := by
        constructor
        · rintro ⟨_, row', _, eight', failed⟩
          exact eight.unique eight' ▸ failed
        · exact fun failed => ⟨k, row, rfl, eight, failed⟩
      rw [failed]
      simp [bind_eq_error_iff, pure, Except.pure]
  | _ => exact iff_of_false nofun (by simp)

/-- A line is turned down for what is wrong with it alone, whatever the draft it is added to. -/
theorem addLine_eq_error_iff {number : Nat} {raw : List Char} :
    d.addLine number raw = .error e ↔ Defect number raw e := by
  obtain idle | ⟨key, value, given⟩ | ⟨said, bare⟩ := line_cases raw
  · rw [addLine_of_setsNothing idle]
    exact iff_of_false nofun fun defect => not_defective_of_setsNothing idle ⟨number, e, defect⟩
  · rw [addLine_of_assigns given, lift_eq_error_iff]
    simp only [set_eq_error_iff]
    constructor
    · rintro ⟨e', ⟨k, row, rfl, eight, turnedDown⟩, rfl⟩
      exact .row given eight turnedDown
    · rintro (⟨-, bare⟩ | ⟨given', eight, turnedDown⟩)
      · exact absurd given.assigned bare
      · obtain ⟨rfl, rfl⟩ := given.unique given'
        exact ⟨_, ⟨_, _, rfl, eight, turnedDown⟩, rfl⟩
  · rw [addLine_of_bare said bare]
    constructor
    · rintro ⟨⟩
      exact .unassigned said bare
    · rintro (⟨-, -⟩ | ⟨given, -, -⟩)
      · rfl
      · exact absurd given.assigned bare

theorem exists_addLine_iff_not_defective (d : TuningDraft) (number : Nat) {raw : List Char} :
    (∃ d', d.addLine number raw = .ok d') ↔ ¬ Defective raw := by
  simp only [exists_ok_iff, addLine_eq_error_iff, defective_iff number]

theorem run_eq_error_iff {lines : List (List Char)} {start : Nat} :
    (lines.zipIdx start).foldlM (fun (d : TuningDraft) (raw, number) => d.addLine number raw) d = .error e ↔
      FirstDefect start lines e := by
  induction lines generalizing d start with
  | nil => exact iff_of_false nofun nofun
  | cons raw lines ih =>
    rw [List.zipIdx_cons, List.foldlM_cons, bind_eq_error_iff, firstDefect_cons_iff, addLine_eq_error_iff,
      ← exists_addLine_iff_not_defective d start]
    simp only [ih, exists_and_right]

end TuningDraft

namespace Tuning

theorem exists_firstDefect_iff {number : Nat} {lines : List (List Char)} :
    (∃ e, FirstDefect number lines e) ↔ ∃ raw ∈ lines, Defective raw := by
  induction lines generalizing number with
  | nil => exact iff_of_false nofun nofun
  | cons raw lines ih =>
    simp only [firstDefect_cons_iff, exists_or, ← defective_iff number, exists_and_left, ih, List.exists_mem_cons_iff]
    by_cases defective : Defective raw <;> simp [defective]

theorem exists_run_iff_not_defective {lines : List (List Char)} {start : Nat} :
    (∃ d, (lines.zipIdx start).foldlM (fun (d : TuningDraft) (raw, number) => d.addLine number raw) {} = .ok d) ↔
      ∀ raw ∈ lines, ¬ Defective raw := by
  simp only [exists_ok_iff, TuningDraft.run_eq_error_iff, exists_firstDefect_iff, not_exists, not_and]

theorem ofText_eq_error_iff {text : String} {e : ConfigError} : ofText text = .error e ↔
    FirstDefect 1 (linesOf text.toList) e ∨ (∀ raw ∈ linesOf text.toList, ¬ Defective raw) ∧
      ¬ WithinTravel (heightIn (assignments text)) ∧
        e = .profile (.outOfRange "tilt_height_steps" (heightIn (assignments text))) := by
  unfold ofText
  rw [bind_eq_error_iff, TuningDraft.run_eq_error_iff, ← @exists_run_iff_not_defective _ 1, ← exists_and_right]
  refine or_congr_right (exists_congr fun d => and_congr_right fun ran => ?_)
  have height : d.settings.tiltHeight.toInt = heightIn (assignments text) :=
    (TuningDraft.holds_of_run ran).settings .tiltHeight
  generalize heightIn (assignments text) = steps at height
  have checked : d.finish.geometry.validate = checkRange "tilt_height_steps" steps 1 6016 := by
    rw [← height]
    rfl
  have outside : (steps < 1 ∨ 6016 < steps) ↔ ¬ WithinTravel steps := by
    unfold WithinTravel
    omega
  dsimp only
  rw [bind_eq_error_iff, lift_eq_error_iff, checked]
  simp [checkRange_eq_error_iff, outside, and_assoc, pure, Except.pure]

theorem settingOf_of_unreadable {value : List Char} (unreadable : ¬ ∃ n, number? value = some n)
    (default lo hi : Int) : settingOf default lo hi (some value) = default := by
  have none : number? value = none := by simpa [Option.eq_none_iff_forall_ne_some] using unreadable
  rw [settingOf, Option.bind_some, none]

/-- A height that cannot be read hides those before it, but the one in its place is within the travel. -/
theorem height_of_emptied {first second : List Assignment} {key : TuningKey} {value : List Char}
    (unreadable : ¬ Readable value key)
    (outside : ¬ WithinTravel (heightIn (first ++ [(Catalogue.name key, value)] ++ second))) :
    heightIn (first ++ second) = heightIn (first ++ [(Catalogue.name key, value)] ++ second) := by
  have last : lastValue (first ++ [(Catalogue.name key, value)] ++ second) .tiltHeight =
      (lastValue second .tiltHeight).or
        (if TuningKey.tiltHeight = key then some value else lastValue first .tiltHeight) := by
    rw [lastValue_append, lastValue_assigned]
  unfold heightIn at outside ⊢
  rw [last] at outside ⊢
  rw [lastValue_append]
  by_cases height : TuningKey.tiltHeight = key
  · subst height
    cases later : lastValue second .tiltHeight with
    | some value' => rfl
    | none =>
      rw [later, if_pos rfl, Option.none_or, settingOf_of_unreadable unreadable] at outside
      exact absurd ⟨by decide, by decide⟩ outside
  · rw [if_neg height]

/-- A line whose value cannot be read is never the reason for an error: with nothing in its place the text has the
same one. -/
theorem ofText_emptied {before line after : List Char} {key : TuningKey} {value : List Char} {e : ConfigError}
    (start : LineStart before) (stop : LineEnd after) (single : '\n' ∉ line) (given : Assigns line key value)
    (unreadable : ¬ Readable value key)
    (failed : ofText (String.ofList (before ++ line ++ after)) = .error e) :
    ofText (String.ofList (before ++ after)) = .error e := by
  obtain ⟨front, back, lines⟩ := linesOf_between start stop
  have sound := not_defective_of_unreadable given unreadable
  have emptied : linesOf (before ++ after) = front ++ [] :: back := by
    rw [← lines (List.not_mem_nil), List.append_nil]
  have given_once : assignmentsOf (front ++ line :: back) =
      assignmentsOf front ++ [(Catalogue.name key, value)] ++ assignmentsOf back := by
    rw [assignmentsOf_append, assignmentsOf_cons, given.assignmentsOf_eq, List.append_assoc]
  have given_not : assignmentsOf (front ++ [] :: back) = assignmentsOf front ++ assignmentsOf back := by
    rw [assignmentsOf_append, assignmentsOf_cons, assignmentsOf_silent rfl, List.nil_append]
  rw [ofText_eq_error_iff, assignments, String.toList_ofList, ← linesOf] at failed ⊢
  rw [lines single, given_once] at failed
  rw [emptied, given_not]
  rcases failed with defect | ⟨clean, outside, rfl⟩
  · exact .inl ((firstDefect_replace sound (not_defective_of_setsNothing (.inl rfl))).mp defect)
  · rw [height_of_emptied unreadable outside]
    refine .inr ⟨?_, outside, rfl⟩
    simp only [List.forall_mem_append, List.forall_mem_cons] at clean ⊢
    exact ⟨clean.1, (not_defective_of_setsNothing (.inl rfl)), clean.2.2⟩

structure ReportsErrors (text : String) : Prop where
  fails_iff : (∃ e, ofText text = .error e) ↔ (∃ raw ∈ linesOf text.toList, Defective raw) ∨
    (∀ raw ∈ linesOf text.toList, ¬ Defective raw) ∧ ¬ WithinTravel (heightIn (assignments text))
  error_iff : ∀ e, ofText text = .error e ↔ FirstDefect 1 (linesOf text.toList) e ∨
    (∀ raw ∈ linesOf text.toList, ¬ Defective raw) ∧ ¬ WithinTravel (heightIn (assignments text)) ∧
      e = .profile (.outOfRange "tilt_height_steps" (heightIn (assignments text)))
  unreadable_harmless : ∀ before line after key value e, text.toList = before ++ line ++ after →
    LineStart before → LineEnd after → '\n' ∉ line → Assigns line key value → ¬ Readable value key →
      ofText text = .error e → ofText (String.ofList (before ++ after)) = .error e

/-- The first defective line is reported, without one a tilt height outside the travel, and nothing else. -/
theorem reports_errors (text : String) : ReportsErrors text where
  fails_iff := by
    simp only [ofText_eq_error_iff, exists_or, exists_firstDefect_iff, exists_and_left, exists_eq, and_true]
  error_iff := fun e => ofText_eq_error_iff
  unreadable_harmless := by
    intro before line after key value e written start stop single given unreadable failed
    rw [← @String.ofList_toList text, written] at failed
    exact ofText_emptied start stop single given unreadable failed

example : ofText "tiltup = 2 400\n\n# old\n tilt \ntilt = 0\nscrewmm" = .error (.badLine 4 "tilt".toList) := rfl

end Tuning
end LayerSeparation
