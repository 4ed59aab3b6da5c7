import LayerSeparation.Proofs.Assignments
import Mathlib.Data.Nat.Digits.Defs

/-! The tilt height of a tuning file. Apart from it a text can only fail by a line that is no assignment or by a
row that no profile has. A height is clamped to a word and then checked against the travel, so what lies outside
the travel is an error. That ends where a number of 64 bits ends: a longer one counts as unreadable, and the
height of the factory stands in for it. -/
namespace LayerSeparation

namespace Text

/-- A whole number in decimal: digits after at most a minus sign. Zeros may come first. -/
inductive Decimal : List Char → Int → Prop where
  | natural {ds : List Nat} (nonempty : ds ≠ []) (digits : ∀ d ∈ ds, d < 10) :
      Decimal (ds.map Nat.digitChar) ((Nat.ofDigits 10 ds.reverse : Nat) : Int)
  | negative {ds : List Nat} (nonempty : ds ≠ []) (digits : ∀ d ∈ ds, d < 10) :
      Decimal ('-' :: ds.map Nat.digitChar) (-((Nat.ofDigits 10 ds.reverse : Nat) : Int))

theorem digit?_digitChar : ∀ d < 10, digit? 10 (Nat.digitChar d) = some d := by decide

theorem digitChar_ne_sign : ∀ d < 10, Nat.digitChar d ≠ '+' ∧ Nat.digitChar d ≠ '-' := by decide

/-- Digits are read from the left, their weights grow from the right. -/
theorem value_eq_ofDigits (base : Nat) (ds : List Nat) : value base ds = Nat.ofDigits base ds.reverse := by
  rw [Nat.ofDigits_eq_foldr, List.foldr_reverse, value]
  simp only [Nat.mul_comm base, Nat.add_comm, Nat.cast_id]

theorem natural?_digits {ds : List Nat} (nonempty : ds ≠ []) (digits : ∀ d ∈ ds, d < 10) :
    natural? 10 (ds.map Nat.digitChar) = some (Nat.ofDigits 10 ds.reverse) := by
  have each : (ds.map Nat.digitChar).mapM (digit? 10) = some ds := by
    clear nonempty
    induction ds with
    | nil => rfl
    | cons d ds ih =>
      rw [List.map_cons, List.mapM_cons, digit?_digitChar d (digits d List.mem_cons_self),
        ih fun d' mem => digits d' (List.mem_cons_of_mem d mem)]
      rfl
  rw [natural?, if_neg (by simpa using nonempty), each, Option.map_some, value_eq_ofDigits]

theorem Decimal.read {cs : List Char} {n : Int} (written : Decimal cs n) : integer? cs = some n := by
  cases written with
  | @natural ds nonempty digits =>
    have read := natural?_digits nonempty digits
    cases ds with
    | nil => exact absurd rfl nonempty
    | cons d ds =>
      -- The first digit is no sign, so all of the text is taken for digits.
      have ⟨plus, minus⟩ := digitChar_ne_sign d (digits d List.mem_cons_self)
      rw [List.map_cons] at read ⊢
      unfold integer?
      split
      · next same => exact absurd (List.cons.inj same).1 plus
      · next same => exact absurd (List.cons.inj same).1 minus
      · rw [read]
        rfl
  | negative nonempty digits =>
    change (natural? 10 _).map _ = _
    rw [natural?_digits nonempty digits]
    rfl

end Text

namespace Tuning

def KnownRow (pair : Assignment) : Prop :=
  ∀ key row, Catalogue.name (TuningKey.row key) = pair.1 → EightIntegers pair.2 row →
    ∃ p, MovingProfile.ofRow row = .ok p

structure Legible (lines : List (List Char)) : Prop where
  readable : ∀ raw ∈ lines, silent (Text.trim raw) = true ∨ '=' ∈ Text.trim raw
  rows : ∀ pair ∈ assignmentsOf lines, KnownRow pair

theorem legible_nil : Legible [] := ⟨nofun, nofun⟩

theorem legible_cons {raw : List Char} {lines : List (List Char)} :
    Legible (raw :: lines) ↔ Legible [raw] ∧ Legible lines := by
  have rows : (∀ pair ∈ assignmentsOf (raw :: lines), KnownRow pair) ↔
      (∀ pair ∈ assignmentsOf [raw], KnownRow pair) ∧ ∀ pair ∈ assignmentsOf lines, KnownRow pair := by
    rw [assignmentsOf_cons, List.forall_mem_append]
  constructor
  · intro h
    have ⟨first, rest⟩ := List.forall_mem_cons.mp h.readable
    have ⟨rowsFirst, rowsRest⟩ := rows.mp h.rows
    exact ⟨⟨List.forall_mem_singleton.mpr first, rowsFirst⟩, rest, rowsRest⟩
  · rintro ⟨first, rest⟩
    exact ⟨List.forall_mem_cons.mpr ⟨first.readable raw List.mem_cons_self, rest.readable⟩,
      rows.mpr ⟨first.rows, rest.rows⟩⟩

theorem legible_of_setsNothing {raw : List Char} (idle : SetsNothing raw) : Legible [raw] := by
  refine ⟨List.forall_mem_singleton.mpr (idle.imp_right And.left), ?_⟩
  cases quiet : silent (Text.trim raw) with
  | true => simp [assignmentsOf_silent quiet]
  | false =>
    have unknown := (idle.resolve_left (by simp [quiet])).2
    rw [assignmentsOf_said quiet, List.forall_mem_singleton]
    exact fun key row named => absurd named (unknown _)

end Tuning

namespace TuningDraft

open Tuning

variable {d : TuningDraft}

theorem exists_set_iff {key : TuningKey} {value : List Char} :
    (∃ d', d.set key value = .ok d') ↔ KnownRow (Catalogue.name key, value) := by
  constructor
  · rintro ⟨d', set⟩ k row named eight
    cases Catalogue.name_injective named
    obtain ⟨unread, -⟩ | ⟨row', p, eight', taken, -⟩ := set_row_cases set
    · exact absurd ⟨row, eight⟩ unread
    · exact ⟨p, eight.unique eight' ▸ taken⟩
  · intro known
    cases key with
    | row k =>
      unfold TuningDraft.set
      cases read : rowValues? value with
      | none => exact ⟨_, rfl⟩
      | some row =>
        obtain ⟨p, taken⟩ := known k row rfl (rowValues?_eq_some_iff.mp read)
        exact ⟨_, bind_eq_ok_iff.mpr ⟨p, taken, rfl⟩⟩
    | _ => exact ⟨_, rfl⟩

theorem exists_addLine_iff (number : Nat) {raw : List Char} :
    (∃ d', d.addLine number raw = .ok d') ↔ Legible [raw] := by
  obtain idle | ⟨key, value, given⟩ | ⟨said, bare⟩ := line_cases raw
  · rw [addLine_of_setsNothing idle]
    exact iff_of_true ⟨d, rfl⟩ (legible_of_setsNothing idle)
  · have legible : Legible [raw] ↔ KnownRow (Catalogue.name key, value) := by
      rw [← @List.forall_mem_singleton _ KnownRow, ← given.assignmentsOf_eq]
      exact ⟨Legible.rows, fun rows => ⟨by simp [given.assigned], rows⟩⟩
    simp only [addLine_of_assigns given, lift_eq_ok_iff, exists_set_iff, legible]
  · rw [addLine_of_bare said bare]
    refine iff_of_false nofun fun legible => ?_
    rcases legible.readable raw List.mem_cons_self with quiet | equals
    · exact absurd quiet (by simp [said])
    · exact bare equals

/-- Lines are taken in exactly if they are legible, whatever the draft they are added to. -/
theorem exists_run_iff {lines : List (List Char × Nat)} :
    (∃ d', lines.foldlM (fun (d : TuningDraft) (raw, number) => d.addLine number raw) d = .ok d') ↔
      Legible (lines.map Prod.fst) := by
  induction lines generalizing d with
  | nil => exact iff_of_true ⟨d, rfl⟩ legible_nil
  | cons line lines ih =>
    obtain ⟨raw, number⟩ := line
    rw [List.map_cons, legible_cons, ← exists_addLine_iff (d := d) number]
    simp only [List.foldlM_cons, bind_eq_ok_iff]
    constructor
    · rintro ⟨d', next, added, ran⟩
      exact ⟨⟨next, added⟩, ih.mp ⟨d', ran⟩⟩
    · rintro ⟨⟨next, added⟩, rest⟩
      obtain ⟨d', ran⟩ := ih.mpr rest
      exact ⟨d', next, added, ran⟩

end TuningDraft

namespace Tuning

def LegibleText (text : String) : Prop := Legible (Text.pieces (· == '\n') text.toList)

theorem legibleText_iff {text : String} : LegibleText text ↔
    ∃ d, ((Text.pieces (· == '\n') text.toList).zipIdx 1).foldlM
      (fun (d : TuningDraft) (raw, number) => d.addLine number raw) {} = .ok d := by
  rw [TuningDraft.exists_run_iff, List.zipIdx_map_fst, LegibleText]

instance (text : String) : Decidable (LegibleText text) :=
  decidable_of_iff
    ((((Text.pieces (· == '\n') text.toList).zipIdx 1).foldlM
      (fun (d : TuningDraft) (raw, number) => d.addLine number raw) {}).isOk = true)
    (isOk_iff.trans legibleText_iff.symm)

theorem ofText_of_legible {text : String} (legible : LegibleText text) :
    ∃ d : TuningDraft, d.Holds (assignments text) ∧ ofText text =
      liftM (checkRange "tilt_height_steps" d.settings.tiltHeight.toInt 1 6016) >>= fun _ => .ok d.finish := by
  obtain ⟨d, ran⟩ := legibleText_iff.mp legible
  refine ⟨d, TuningDraft.holds_of_run ran, ?_⟩
  unfold ofText
  dsimp only
  rw [ran]
  rfl

/-- What comes of a tilt height that is written as the number `n`. -/
inductive HeightRead (n : Int) : Except ConfigError Tuning → Prop where
  | taken {t : Tuning} (travel : 1 ≤ n ∧ n ≤ 6016) (height : t.tiltHeight.toInt = n) : HeightRead n (.ok t)
  /-- Outside the travel. The report gives the height as it was clamped. -/
  | reported (word : -0x8000000000000000 ≤ n ∧ n < 0x8000000000000000) (outside : n < 1 ∨ 6016 < n) :
      HeightRead n
        (.error (.profile (.outOfRange "tilt_height_steps" (max (-0x80000000) (min n 0x7fffffff)))))
  /-- Longer than 64 bits, and for this reason not taken for a number at all. -/
  | unread {t : Tuning} (long : n < -0x8000000000000000 ∨ 0x8000000000000000 ≤ n)
      (height : t.tiltHeight = TiltGeometry.factory.heightSteps) : HeightRead n (.ok t)

theorem settingOf_of_decimal {value : List Char} {n : Int} (written : Text.Decimal value n)
    (default lo hi : Int) : settingOf default lo hi (some value) =
      if -0x8000000000000000 ≤ n ∧ n < 0x8000000000000000 then max lo (min n hi) else default := by
  rw [settingOf, Option.bind_some, number?, written.read, Option.filter_some]
  simp only [Bool.and_eq_true, decide_eq_true_eq]
  by_cases word : -0x8000000000000000 ≤ n ∧ n < 0x8000000000000000
  · rw [if_pos word, if_pos word]
  · rw [if_neg word, if_neg word]

/-- In a text with nothing else wrong the last tilt height is taken if it lies within the travel. A number of 64
bits that does not is reported, whatever its sign and size. -/
theorem heightRead_of_last {text : String} {value : List Char} {n : Int} (legible : LegibleText text)
    (last : lastValue (assignments text) .tiltHeight = some value) (written : Text.Decimal value n) :
    HeightRead n (ofText text) := by
  obtain ⟨d, held, read⟩ := ofText_of_legible legible
  have told : d.settings.tiltHeight.toInt = settingOf 4928 (-0x80000000) 0x7fffffff (some value) :=
    last ▸ held.settings .tiltHeight
  rw [settingOf_of_decimal written] at told
  rw [read]
  by_cases word : -0x8000000000000000 ≤ n ∧ n < 0x8000000000000000
  · rw [if_pos word] at told
    by_cases travel : 1 ≤ n ∧ n ≤ 6016
    · have exact : d.settings.tiltHeight.toInt = n := by omega
      rw [(checkRange_eq_ok_iff (u := ())).mpr (by omega)]
      exact .taken travel exact
    · have outside : n < 1 ∨ 6016 < n := by omega
      rw [told, checkRange, if_pos (by omega)]
      exact .reported word outside
  · rw [if_neg word] at told
    rw [(checkRange_eq_ok_iff (u := ())).mpr (by omega)]
    exact .unread (by omega) (Int32.toInt_inj.mp told)

/-- The last height counts, not the first. It is below the bottom stop. -/
def sunkText : String := "tiltheight = 4928\ntiltup = 2 300 0 5 1 0 0 0\nTiltHeight = \"-0012\"\n"

theorem heightRead_of_last_sunk :
    ofText sunkText = .error (.profile (.outOfRange "tilt_height_steps" (-12))) := by
  have read : HeightRead (-12) (ofText sunkText) :=
    heightRead_of_last (by decide +kernel) (by decide +kernel)
      (@Text.Decimal.negative [0, 0, 1, 2] (by decide) (by decide))
  generalize ofText sunkText = result at read
  cases read with
  | taken travel height => omega
  | reported word outside => rfl
  | unread long height => omega

def overlongText : String := "tiltheight = 99999999999999999999\n"

/-- The text is accepted, and the machine is taken for one that has the tilt height of the factory. -/
theorem overlong_height_accepted : LegibleText overlongText ∧
    (∃ value, lastValue (assignments overlongText) .tiltHeight = some value ∧
      Text.Decimal value 99999999999999999999) ∧
    ∃ t, ofText overlongText = .ok t ∧ t.tiltHeight = 4928 := by
  have written : Text.Decimal (List.replicate 20 '9') 99999999999999999999 :=
    @Text.Decimal.natural (List.replicate 20 9) (by decide) (by decide)
  exact ⟨by decide +kernel, ⟨_, by decide +kernel, written⟩, exists_ok_of_any (by decide +kernel)⟩

end Tuning
end LayerSeparation
