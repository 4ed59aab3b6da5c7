import LayerSeparation.Proofs.Accepted
import LayerSeparation.Settings.TuningFile
import Mathlib.Data.List.TakeDrop
import Mathlib.Data.List.TakeWhile

/-! Tuning files as lists of assignments. What an accepted file says is told by the last assignment of
each key alone: lines take effect one by one, but no line needs to be known besides the last one of its
key. Rows are the exception, since one of them that is not eight integers gives up all of them. -/
namespace LayerSeparation

namespace Tuning

/-- A key in lower case, and a value without the quotes around it. -/
abbrev Assignment := String × List Char

def silent : List Char → Bool
  | [] | '#' :: _ | '[' :: _ => true
  | _ => false

def assignment (content : List Char) : Assignment :=
  (String.ofList ((Text.trim (content.takeWhile (· != '='))).map Char.toLower),
    Text.strip (· == '"') (Text.trim (content.dropWhile (· != '=')).tail))

def SetsNothing (line : List Char) : Prop :=
  silent (Text.trim line) = true ∨
    '=' ∈ Text.trim line ∧ ∀ key : TuningKey, Catalogue.name key ≠ (assignment (Text.trim line)).1

structure Assigns (raw : List Char) (key : TuningKey) (value : List Char) : Prop where
  said : silent (Text.trim raw) = false
  assigned : '=' ∈ Text.trim raw
  pair : assignment (Text.trim raw) = (Catalogue.name key, value)

def assignmentsOf (lines : List (List Char)) : List Assignment :=
  ((lines.map Text.trim).filter fun content => !silent content).map assignment

def assignments (text : String) : List Assignment :=
  assignmentsOf (Text.pieces (· == '\n') text.toList)

theorem assignmentsOf_append (first second : List (List Char)) :
    assignmentsOf (first ++ second) = assignmentsOf first ++ assignmentsOf second := by
  simp only [assignmentsOf, List.map_append, List.filter_append]

theorem assignmentsOf_cons (raw : List Char) (lines : List (List Char)) :
    assignmentsOf (raw :: lines) = assignmentsOf [raw] ++ assignmentsOf lines :=
  assignmentsOf_append [raw] lines

def lastValue (pairs : List Assignment) (key : TuningKey) : Option (List Char) :=
  pairs.reverse.lookup (Catalogue.name key)

def number? (value : List Char) : Option Int :=
  (Text.integer? value).filter fun n => -0x8000000000000000 ≤ n && n < 0x8000000000000000

def flag? (value : List Char) : Option Bool :=
  let word := String.ofList (value.map Char.toLower)
  if word ∈ ["true", "yes", "1"] then some true
  else if word ∈ ["false", "no", "0"] then some false
  else none

def settingOf (default lo hi : Int) (value : Option (List Char)) : Int :=
  match value.bind number? with
  | some n => max lo (min n hi)
  | none => default

def EightIntegers (value : List Char) (row : List Int32) : Prop :=
  (Text.words value).map Text.integer? = row.map (fun w => some w.toInt) ∧ row.length = 8

def Malformed (pairs : List Assignment) : Prop :=
  ∃ key value, (Catalogue.name (TuningKey.row key), value) ∈ pairs ∧ ¬ ∃ row, EightIntegers value row

def GivesRow (pairs : List Assignment) (key : RowKey) (p : MovingProfile) : Prop :=
  ∃ value row, lastValue pairs (.row key) = some value ∧ EightIntegers value row ∧
    MovingProfile.ofRow row = .ok p

end Tuning

namespace MovingProfileId

open Tuning

def ownKey : MovingProfileId → RowKey
  | .tiltDownLargeFill => .tiltDownLargeFill
  | .tiltDownSmallFill => .tiltDownSmallFill
  | .tiltUpLargeFill => .tiltUpLargeFill
  | .tiltUpSmallFill => .tiltUpSmallFill

def commonKey? : MovingProfileId → Option RowKey
  | .tiltDownLargeFill | .tiltDownSmallFill => none
  | .tiltUpLargeFill | .tiltUpSmallFill => some .tiltUp

/-- The last row of its own counts, or else the last common one, or else that of the factory. Which of
the keys comes first in the file does not matter. -/
inductive Chosen (pairs : List Assignment) (id : MovingProfileId) : MovingProfile → Prop where
  | own {p : MovingProfile} (given : GivesRow pairs id.ownKey p) : Chosen pairs id p
  | common {key : RowKey} {p : MovingProfile} (unset : lastValue pairs (.row id.ownKey) = none)
      (shared : id.commonKey? = some key) (given : GivesRow pairs key p) : Chosen pairs id p
  | factory (unset : lastValue pairs (.row id.ownKey) = none)
      (unshared : ∀ key, id.commonKey? = some key → lastValue pairs (.row key) = none) :
      Chosen pairs id id.factoryProfile

end MovingProfileId

namespace Tuning

/-- The setting of a key is what the value assigned to it last says, or the default if there is none.
Delays are given in tenths of a second. -/
def Tells (t : Tuning) (last : Option (List Char)) : TuningKey → Prop
  | .row _ => True
  | .tilt => t.useTilt = (last.bind flag?).getD true
  | .fastLimit => t.fastLimitPercent.toNat = settingOf 45 0 100 last
  | .towerHop => t.towerHopSteps.toNat = settingOf 0 0 8000 last
  | .tiltHeight => t.tiltHeight.toInt = settingOf 4928 (-0x80000000) 0x7fffffff last
  | .screwPitch => t.screwMm.toNat = settingOf 4 1 100 last
  | .delayBeforeExposure => t.delayBeforeExposureMs.toNat = 100 * settingOf 0 0 300 last
  | .delayAfterExposure => t.delayAfterExposureMs.toNat = 100 * settingOf 0 0 300 last

structure Follows (t : Tuning) (pairs : List Assignment) : Prop where
  settings : ∀ key, t.Tells (lastValue pairs key) key
  given_up : Malformed pairs → ∀ id, t.rows id = id.factoryProfile
  chosen : ¬ Malformed pairs → ∀ id : MovingProfileId, id.Chosen pairs (t.rows id)

variable {pairs : List Assignment}

theorem lastValue_append (first second : List Assignment) (key : TuningKey) :
    lastValue (first ++ second) key = (lastValue second key).or (lastValue first key) := by
  simp [lastValue, List.lookup_append]

theorem lastValue_snoc (name : String) (value : List Char) (key : TuningKey) :
    lastValue (pairs ++ [(name, value)]) key =
      if Catalogue.name key = name then some value else lastValue pairs key := by
  unfold lastValue
  rw [List.reverse_concat, List.lookup_cons]
  split <;> simp_all

theorem lastValue_assigned (pairs : List Assignment) (assigned key : TuningKey) (value : List Char) :
    lastValue (pairs ++ [(Catalogue.name assigned, value)]) key =
      if key = assigned then some value else lastValue pairs key := by
  have same : Catalogue.name key = Catalogue.name assigned ↔ key = assigned :=
    ⟨Catalogue.name_injective, congrArg _⟩
  rw [lastValue_snoc]
  simp only [same]

theorem numberOr_eq (default : Int) (value : List Char) :
    numberOr default value = (number? value).getD default := by
  unfold numberOr number?
  cases Text.integer? value with
  | none => rfl
  | some n =>
    rw [Option.filter_some]
    simp only [Bool.and_eq_true, decide_eq_true_eq]
    split <;> rfl

theorem flagOr_eq (default : Bool) (value : List Char) :
    flagOr default value = (flag? value).getD default := by
  unfold flagOr flag?
  generalize String.ofList (value.map Char.toLower) = word
  dsimp only
  split <;> simp_all

theorem clampedOr_eq {default lo hi : Nat} (low : lo ≤ default) (high : default ≤ hi)
    (value : List Char) : (clampedOr default lo hi value : Int) = settingOf default lo hi (some value) := by
  unfold clampedOr settingOf
  rw [numberOr_eq, Option.bind_some]
  cases number? value with
  | none =>
    dsimp only [Option.getD_none]
    omega
  | some n =>
    dsimp only [Option.getD_some]
    omega

theorem clampedOr_le {default lo hi : Nat} (order : lo ≤ hi) (value : List Char) :
    clampedOr default lo hi value ≤ hi := by
  unfold clampedOr
  omega

theorem toNat_clampedOr {default lo hi : Nat} (low : lo ≤ default) (high : default ≤ hi)
    (fits : hi < UInt32.size) (value : List Char) :
    ((UInt32.ofNat (clampedOr default lo hi value)).toNat : Int) = settingOf default lo hi (some value) := by
  have bound : clampedOr default lo hi value ≤ hi := clampedOr_le (Nat.le_trans low high) value
  rw [UInt32.toNat_ofNat_of_lt' (Nat.lt_of_le_of_lt bound fits)]
  exact clampedOr_eq low high value

theorem toNat_delayMs (value : List Char) :
    (delayMs value).toNat = 100 * settingOf 0 0 300 (some value) := by
  have bound : clampedOr 0 0 300 value ≤ 300 := clampedOr_le (by decide) value
  have exact : (clampedOr 0 0 300 value : Int) = settingOf 0 0 300 (some value) :=
    clampedOr_eq (by decide) (by decide) value
  rw [delayMs, UInt32.toNat_ofNat_of_lt' (by simp only [UInt32.size]; omega)]
  omega

theorem toInt_clampInt32_numberOr (value : List Char) :
    (Width.clampInt32 (numberOr 4928 value)).toInt =
      settingOf 4928 (-0x80000000) 0x7fffffff (some value) := by
  rw [Width.toInt_clampInt32, numberOr_eq, settingOf, Option.bind_some]
  cases number? value <;> rfl

theorem mapM_eq_some_iff {α β γ : Type} {f : α → Option β} {g : α → Option γ} {h : β → γ}
    (each : ∀ x y, f x = some y ↔ g x = some (h y)) {xs : List α} {ys : List β} :
    xs.mapM f = some ys ↔ xs.map g = ys.map fun y => some (h y) := by
  induction xs generalizing ys with
  | nil => cases ys <;> simp
  | cons x xs ih =>
    rw [List.mapM_cons]
    cases ys with
    | nil => cases f x <;> cases xs.mapM f <;> simp
    | cons y ys => simp [Option.bind_eq_some_iff, ih, each]

theorem rowValues?_eq_some_iff {value : List Char} {row : List Int32} :
    rowValues? value = some row ↔ EightIntegers value row := by
  have each : ∀ (w : List Char) (n : Int32),
      (do Width.int32? (← Text.integer? w)) = some n ↔ Text.integer? w = some n.toInt := by
    intro w n
    simp [Option.bind_eq_some_iff, Width.int32?_eq_some_iff]
  unfold rowValues?
  constructor
  · intro h
    obtain ⟨row', read, h⟩ := Option.bind_eq_some_iff.mp h
    split at h
    · next eight =>
      cases h
      exact ⟨(mapM_eq_some_iff each).mp read, eight⟩
    · cases h
  · rintro ⟨read, eight⟩
    exact Option.bind_eq_some_iff.mpr ⟨row, (mapM_eq_some_iff each).mpr read, if_pos eight⟩

theorem ofChars_eq (raw : List Char) : TuningLine.ofChars raw =
    if silent (Text.trim raw) then .skipped
    else if '=' ∈ Text.trim raw then
      .assignment (assignment (Text.trim raw)).1.toList (assignment (Text.trim raw)).2
    else .unreadable (Text.trim raw) := by
  unfold TuningLine.ofChars
  generalize Text.trim raw = content
  dsimp only
  split
  · rfl
  · rfl
  · rfl
  · next blank comment header =>
    have said : silent content = false := by
      unfold silent
      split <;> simp_all
    rw [said, List.span_eq_takeWhile_dropWhile]
    unfold assignment
    cases rest : content.dropWhile (· != '=') with
    | nil =>
      have absent : '=' ∉ content := fun h => by
        simpa using List.dropWhile_eq_nil_iff.mp rest '=' h
      simp [absent]
    | cons c value =>
      have more : content.dropWhile (· != '=') ≠ [] := by
        rw [rest]
        exact List.cons_ne_nil _ _
      have stop := List.head_dropWhile_not (· != '=') more
      have found : c = '=' := by simpa [rest] using stop
      have present : '=' ∈ content := by
        rw [← List.takeWhile_append_dropWhile (p := (· != '=')) (l := content), rest, found]
        simp
      subst found
      simp [present]

theorem line_cases (raw : List Char) : SetsNothing raw ∨ (∃ key value, Assigns raw key value) ∨
    silent (Text.trim raw) = false ∧ '=' ∉ Text.trim raw := by
  cases quiet : silent (Text.trim raw) with
  | true => exact .inl (.inl quiet)
  | false =>
    by_cases equals : '=' ∈ Text.trim raw
    · by_cases known : ∃ key : TuningKey, Catalogue.name key = (assignment (Text.trim raw)).1
      · obtain ⟨key, named⟩ := known
        exact .inr (.inl ⟨key, _, quiet, equals, Prod.ext named.symm rfl⟩)
      · exact .inl (.inr ⟨equals, not_exists.mp known⟩)
    · exact .inr (.inr ⟨rfl, equals⟩)

theorem assignmentsOf_silent {raw : List Char} (quiet : silent (Text.trim raw) = true) : assignmentsOf [raw] = [] := by
  simp [assignmentsOf, quiet]

theorem assignmentsOf_said {raw : List Char} (said : silent (Text.trim raw) = false) :
    assignmentsOf [raw] = [assignment (Text.trim raw)] := by
  simp [assignmentsOf, said]

theorem Assigns.unique {raw value value' : List Char} {key key' : TuningKey} (given : Assigns raw key value)
    (given' : Assigns raw key' value') : key = key' ∧ value = value' := by
  obtain ⟨named, same⟩ := Prod.mk.inj (given.pair.symm.trans given'.pair)
  exact ⟨Catalogue.name_injective named, same⟩

theorem Assigns.assignmentsOf_eq {raw value : List Char} {key : TuningKey} (given : Assigns raw key value) :
    assignmentsOf [raw] = [(Catalogue.name key, value)] := by
  rw [assignmentsOf_said given.said, given.pair]

theorem malformed_snoc {name : String} {value : List Char} :
    Malformed (pairs ++ [(name, value)]) ↔ Malformed pairs ∨
      ∃ key, Catalogue.name (TuningKey.row key) = name ∧ ¬ ∃ row, EightIntegers value row := by
  unfold Malformed
  simp only [List.mem_append, List.mem_singleton, Prod.mk.injEq]
  constructor
  · rintro ⟨key, value', earlier | ⟨named, rfl⟩, bad⟩
    · exact .inl ⟨key, value', earlier, bad⟩
    · exact .inr ⟨key, named, bad⟩
  · rintro (⟨key, value', earlier, bad⟩ | ⟨key, named, bad⟩)
    · exact ⟨key, value', .inl earlier, bad⟩
    · exact ⟨key, value, .inr ⟨named, rfl⟩, bad⟩

theorem EightIntegers.unique {value : List Char} {row row' : List Int32} (h : EightIntegers value row)
    (h' : EightIntegers value row') : row = row' :=
  Option.some.inj ((rowValues?_eq_some_iff.mpr h).symm.trans (rowValues?_eq_some_iff.mpr h'))

theorem givesRow_iff {key : RowKey} {value : List Char} {row : List Int32} {p q : MovingProfile}
    (last : lastValue pairs (.row key) = some value) (read : EightIntegers value row)
    (taken : MovingProfile.ofRow row = .ok p) : GivesRow pairs key q ↔ p = q := by
  constructor
  · rintro ⟨value', row', last', read', taken'⟩
    rw [last] at last'
    cases last'
    rw [read.unique read', taken'] at taken
    exact (Except.ok.inj taken).symm
  · rintro rfl
    exact ⟨value, row, last, read, taken⟩

theorem givesRow_congr {pairs' : List Assignment} {key : RowKey} {p : MovingProfile}
    (same : lastValue pairs' (.row key) = lastValue pairs (.row key)) :
    GivesRow pairs' key p ↔ GivesRow pairs key p := by
  unfold GivesRow
  rw [same]

end Tuning

namespace TuningDraft

open Tuning

/-- What a draft holds once lines with these assignments were added to an empty one. -/
structure Holds (d : TuningDraft) (pairs : List Assignment) : Prop where
  settings : ∀ key, d.settings.Tells (lastValue pairs key) key
  malformed : d.malformed = true ↔ Malformed pairs
  given : ¬ Malformed pairs → ∀ key p, d.rows key = some p ↔ GivesRow pairs key p
  unset : ¬ Malformed pairs → ∀ key, d.rows key = none ↔ lastValue pairs (.row key) = none

variable {d d' : TuningDraft} {pairs : List Assignment} {key : TuningKey} {value : List Char}

theorem tells_set (set : d.set key value = .ok d') : d'.settings.Tells (some value) key := by
  cases key with
  | row key => trivial
  | tilt =>
    cases set
    exact flagOr_eq true value
  | fastLimit =>
    cases set
    have word : (UInt8.ofNat (clampedOr 45 0 100 value)).toNat = clampedOr 45 0 100 value :=
      UInt8.toNat_ofNat_of_lt' (Nat.lt_of_le_of_lt (clampedOr_le (by decide) value) (by decide))
    exact (congrArg Int.ofNat word).trans (clampedOr_eq (by decide) (by decide) value)
  | towerHop =>
    cases set
    exact toNat_clampedOr (by decide) (by decide) (by decide) value
  | tiltHeight =>
    cases set
    exact toInt_clampInt32_numberOr value
  | screwPitch =>
    cases set
    exact toNat_clampedOr (by decide) (by decide) (by decide) value
  | delayBeforeExposure =>
    cases set
    exact toNat_delayMs value
  | delayAfterExposure =>
    cases set
    exact toNat_delayMs value

theorem set_row_cases {key : RowKey} (set : d.set (.row key) value = .ok d') :
    ((¬ ∃ row, EightIntegers value row) ∧ d' = { d with malformed := true }) ∨
      ∃ row p, EightIntegers value row ∧ MovingProfile.ofRow row = .ok p ∧
        d' = { d with rows := fun other => if other = key then some p else d.rows other } := by
  unfold TuningDraft.set at set
  cases read : rowValues? value with
  | none =>
    simp only [read] at set
    cases set
    refine .inl ⟨?_, rfl⟩
    rintro ⟨row, eight⟩
    rw [rowValues?_eq_some_iff.mpr eight] at read
    cases read
  | some row =>
    simp only [read] at set
    obtain ⟨p, taken, built⟩ := bind_eq_ok_iff.mp set
    cases built
    exact .inr ⟨row, p, rowValues?_eq_some_iff.mp read, taken, rfl⟩

theorem tells_set_of_ne (set : d.set key value = .ok d') {other : TuningKey} (ne : other ≠ key)
    {last : Option (List Char)} : d'.settings.Tells last other ↔ d.settings.Tells last other := by
  cases key with
  | row key => obtain ⟨_, rfl⟩ | ⟨_, _, _, _, rfl⟩ := set_row_cases set <;> rfl
  | _ =>
    cases set
    cases other <;> first | rfl | exact absurd rfl ne

theorem holds_empty : ({} : TuningDraft).Holds [] where
  settings key := by cases key <;> trivial
  malformed := by simp [Malformed]
  given _ key p := by simp [GivesRow, lastValue]
  unset _ key := by simp [lastValue]

theorem Holds.set_row {key : RowKey} (h : d.Holds pairs) (set : d.set (.row key) value = .ok d')
    (settings : ∀ other, d'.settings.Tells
      (lastValue (pairs ++ [(Catalogue.name (TuningKey.row key), value)]) other) other) :
    d'.Holds (pairs ++ [(Catalogue.name (TuningKey.row key), value)]) := by
  have last := fun other => lastValue_assigned pairs (.row key) other value
  obtain ⟨bad, rfl⟩ | ⟨row, p, read, taken, rfl⟩ := set_row_cases set
  · have spoilt : Malformed (pairs ++ [(Catalogue.name (TuningKey.row key), value)]) :=
      malformed_snoc.mpr (.inr ⟨key, rfl, bad⟩)
    exact ⟨settings, by simp [spoilt], fun sound => absurd spoilt sound, fun sound => absurd spoilt sound⟩
  · have kept : Malformed (pairs ++ [(Catalogue.name (TuningKey.row key), value)]) ↔ Malformed pairs := by
      rw [malformed_snoc]
      exact ⟨fun h => h.resolve_right fun ⟨_, _, bad⟩ => bad ⟨row, read⟩, .inl⟩
    refine ⟨settings, h.malformed.trans kept.symm, ?_, ?_⟩
    · intro sound other q
      rw [kept] at sound
      by_cases same : other = key
      · subst same
        rw [givesRow_iff ((last _).trans (if_pos rfl)) read taken]
        simp
      · have skipped : TuningKey.row other ≠ .row key := fun e => same (TuningKey.row.inj e)
        rw [givesRow_congr ((last _).trans (if_neg skipped)), ← h.given sound]
        simp [same]
    · intro sound other
      rw [kept] at sound
      rw [last]
      by_cases same : other = key
      · simp [same]
      · simp [same, h.unset sound]

theorem Holds.plain (h : d.Holds pairs) {name : String}
    (plain : ∀ key, Catalogue.name (TuningKey.row key) ≠ name) (rows : d'.rows = d.rows)
    (malformed : d'.malformed = d.malformed)
    (settings : ∀ key, d'.settings.Tells (lastValue (pairs ++ [(name, value)]) key) key) :
    d'.Holds (pairs ++ [(name, value)]) := by
  have kept : Malformed (pairs ++ [(name, value)]) ↔ Malformed pairs := by
    rw [malformed_snoc]
    exact ⟨fun h => h.resolve_right fun ⟨key, named, _⟩ => plain key named, .inl⟩
  have last : ∀ key, lastValue (pairs ++ [(name, value)]) (.row key) = lastValue pairs (.row key) :=
    fun key => (lastValue_snoc _ _ _).trans (if_neg (plain key))
  refine ⟨settings, ?_, ?_, ?_⟩
  · rw [malformed, h.malformed, kept]
  · intro sound key p
    rw [rows, givesRow_congr (last key)]
    exact h.given (kept.not.mp sound) key p
  · intro sound key
    rw [rows, last key]
    exact h.unset (kept.not.mp sound) key

theorem Holds.set (h : d.Holds pairs) (set : d.set key value = .ok d') :
    d'.Holds (pairs ++ [(Catalogue.name key, value)]) := by
  have settings : ∀ other, d'.settings.Tells
      (lastValue (pairs ++ [(Catalogue.name key, value)]) other) other := by
    intro other
    rw [lastValue_assigned]
    split
    · next same =>
      rw [same]
      exact tells_set set
    · next ne => exact (tells_set_of_ne set ne).mpr (h.settings other)
  cases key with
  | row key => exact h.set_row set settings
  | _ =>
    cases set
    exact h.plain (fun key named => nomatch Catalogue.name_injective named) rfl rfl settings

theorem addLine_of_setsNothing {raw : List Char} (idle : SetsNothing raw) (d : TuningDraft) (number : Nat) :
    d.addLine number raw = .ok d := by
  unfold TuningDraft.addLine
  rw [ofChars_eq]
  by_cases quiet : silent (Text.trim raw) = true
  · rw [if_pos quiet]
  · obtain ⟨assigned, unknown⟩ := idle.resolve_left quiet
    rw [if_neg quiet, if_pos assigned]
    simp only [String.ofList_toList]
    cases found : (Catalogue.ofName? (assignment (Text.trim raw)).1 : Option TuningKey) with
    | none => rfl
    | some key => exact absurd (Catalogue.ofName?_eq_some_iff.mp found) (unknown key)

theorem addLine_of_assigns {raw : List Char} (given : Assigns raw key value) (d : TuningDraft) (number : Nat) :
    d.addLine number raw = liftM (d.set key value) := by
  unfold TuningDraft.addLine
  rw [ofChars_eq, given.said, if_neg Bool.false_ne_true, if_pos given.assigned, given.pair]
  simp only [String.ofList_toList, Catalogue.ofName?_eq_some_iff.mpr rfl]

theorem addLine_of_bare {raw : List Char} (said : silent (Text.trim raw) = false) (bare : '=' ∉ Text.trim raw)
    (d : TuningDraft) (number : Nat) : d.addLine number raw = .error (.badLine number (Text.trim raw)) := by
  unfold TuningDraft.addLine
  rw [ofChars_eq, said, if_neg Bool.false_ne_true, if_neg bare]

theorem Holds.idle (h : d.Holds pairs) {raw : List Char} (idle : SetsNothing raw) :
    d.Holds (pairs ++ assignmentsOf [raw]) := by
  cases quiet : silent (Text.trim raw) with
  | true =>
    rw [assignmentsOf_silent quiet, List.append_nil]
    exact h
  | false =>
    have unknown := (idle.resolve_left (by simp [quiet])).2
    rw [assignmentsOf_said quiet]
    generalize assignment (Text.trim raw) = pair at unknown
    refine h.plain (fun key => unknown (.row key)) rfl rfl fun key => ?_
    rw [lastValue_snoc, if_neg (unknown key)]
    exact h.settings key

theorem Holds.addLine (h : d.Holds pairs) {number : Nat} {raw : List Char}
    (added : d.addLine number raw = .ok d') : d'.Holds (pairs ++ assignmentsOf [raw]) := by
  obtain idle | ⟨key, value, given⟩ | ⟨said, bare⟩ := line_cases raw
  · rw [addLine_of_setsNothing idle] at added
    cases added
    exact h.idle idle
  · rw [addLine_of_assigns given] at added
    rw [given.assignmentsOf_eq]
    exact h.set (lift_eq_ok_iff.mp added)
  · rw [addLine_of_bare said bare] at added
    cases added

theorem Holds.run {lines : List (List Char × Nat)} (h : d.Holds pairs)
    (ran : lines.foldlM (fun (d : TuningDraft) (raw, number) => d.addLine number raw) d = .ok d') :
    d'.Holds (pairs ++ assignmentsOf (lines.map Prod.fst)) := by
  induction lines generalizing d pairs with
  | nil =>
    cases ran
    simpa [assignmentsOf] using h
  | cons line lines ih =>
    obtain ⟨raw, number⟩ := line
    rw [List.foldlM_cons] at ran
    obtain ⟨next, added, ran⟩ := bind_eq_ok_iff.mp ran
    have later := ih (h.addLine added) ran
    rw [List.append_assoc, ← assignmentsOf_cons] at later
    exact later

theorem holds_of_run {text : String}
    (ran : ((Text.pieces (· == '\n') text.toList).zipIdx 1).foldlM
      (fun (d : TuningDraft) (raw, number) => d.addLine number raw) {} = .ok d) : d.Holds (assignments text) := by
  have held := holds_empty.run ran
  rw [List.zipIdx_map_fst, List.nil_append] at held
  exact held

theorem row_eq (d : TuningDraft) (id : MovingProfileId) : d.row id =
    (d.rows id.ownKey <|> id.commonKey?.bind d.rows).getD id.factoryProfile := by
  cases id with
  | tiltDownLargeFill | tiltDownSmallFill =>
    unfold TuningDraft.row MovingProfileId.ownKey MovingProfileId.commonKey?
    simp
  | tiltUpLargeFill | tiltUpSmallFill => rfl

theorem Holds.finish (h : d.Holds pairs) : d.finish.Follows pairs := by
  constructor
  · intro key
    have told := h.settings key
    cases key <;> exact told
  · intro bad id
    have spoilt := h.malformed.mpr bad
    simp only [TuningDraft.finish, spoilt, if_true]
  · intro sound id
    have whole : d.malformed = false := Bool.eq_false_iff.mpr (h.malformed.not.mpr sound)
    have given : d.finish.rows id = d.row id := by
      simp only [TuningDraft.finish, whole, Bool.false_eq_true, if_false]
    rw [given, row_eq]
    cases own : d.rows id.ownKey with
    | some p => exact .own ((h.given sound _ _).mp own)
    | none =>
      have unset := (h.unset sound _).mp own
      cases shared : id.commonKey? with
      | none => exact .factory unset (by rw [shared]; nofun)
      | some key =>
        cases common : d.rows key with
        | some p =>
          simp [common]
          exact .common unset shared ((h.given sound _ _).mp common)
        | none =>
          simp [common]
          refine .factory unset ?_
          rintro other same
          rw [shared] at same
          cases same
          exact (h.unset sound _).mp common

end TuningDraft

namespace Tuning

theorem draft_of_text {text : String} {t : Tuning} (accepted : ofText text = .ok t) :
    ∃ d : TuningDraft, d.Holds (assignments text) ∧ t = d.finish ∧ t.geometry.validate = .ok () := by
  unfold ofText at accepted
  obtain ⟨d, ran, accepted⟩ := bind_eq_ok_iff.mp accepted
  obtain ⟨_, height, accepted⟩ := bind_eq_ok_iff.mp accepted
  cases accepted
  exact ⟨d, TuningDraft.holds_of_run ran, rfl, lift_eq_ok_iff.mp height⟩

/-- An accepted text means what its assignments say, each key by its last one. -/
theorem follows_assignments {text : String} {t : Tuning} (accepted : ofText text = .ok t) :
    t.Follows (assignments text) := by
  obtain ⟨d, held, rfl, _⟩ := draft_of_text accepted
  exact held.finish

/-- A row of its own stands before the common one, and a number is followed by none. -/
def repeatingText : String :=
  "[tilt]\nTiltUpSmallFill = \"2 200 0 6 1 0 0 0\"\n# both sizes\ntiltup = 2 300 0 5 1 0 0 0\n" ++
  "limit4fast = 30\nlimit4fast = half\nscrewmm = 0\n"

theorem follows_assignments_repeating : ∃ t, ofText repeatingText = .ok t ∧
    t.Follows (assignments repeatingText) ∧ t.fastLimitPercent = 45 ∧ t.screwMm = 1 ∧
      (t.rows .tiltUpSmallFill).offsetSteps = 200 ∧ (t.rows .tiltUpLargeFill).offsetSteps = 300 := by
  obtain ⟨t, accepted, facts⟩ : ∃ t, ofText repeatingText = .ok t ∧ t.fastLimitPercent = 45 ∧
      t.screwMm = 1 ∧ (t.rows .tiltUpSmallFill).offsetSteps = 200 ∧
      (t.rows .tiltUpLargeFill).offsetSteps = 300 := exists_ok_of_any (by decide +kernel)
  exact ⟨t, accepted, follows_assignments accepted, facts⟩

end Tuning
end LayerSeparation
