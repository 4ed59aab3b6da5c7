import LayerSeparation.Proofs.Assignments
import LayerSeparation.Proofs.Spacing
import Mathlib.Data.List.Forall2
import Mathlib.Logic.Relation

/-! The layout of tuning files. A file may be laid out in other ways: with lines that set nothing, with white space
around what a line says, with keys in capitals and values in quotes, with one kind of line end or the other. None
of this reaches the settings. It may change the number of a line, which only errors tell. -/
namespace LayerSeparation

namespace Text

theorem toNat_toLower (c : Char) :
    c.toLower.toNat = if 65 ≤ c.toNat ∧ c.toNat ≤ 90 then c.toNat + 32 else c.toNat := by
  unfold Char.toLower Char.toNat
  simp only [ge_iff_le, UInt32.le_iff_toNat_le]
  split
  · next upper =>
    have exact : (c.val + 32).toNat = c.val.toNat + 32 := by
      have high := upper.2
      rw [UInt32.toNat_add]
      simp only [Char.reduceVal, UInt32.reduceToNat] at high ⊢
      omega
    exact exact.trans (if_pos upper).symm
  · next other => exact (if_neg other).symm

theorem toNat_toUpper (c : Char) :
    c.toUpper.toNat = if 97 ≤ c.toNat ∧ c.toNat ≤ 122 then c.toNat - 32 else c.toNat := by
  unfold Char.toUpper Char.toNat
  simp only [UInt32.le_iff_toNat_le]
  split
  · next lower =>
    have exact : (c.val + ('A'.val - 'a'.val)).toNat = c.val.toNat - 32 := by
      have shift : ('A'.val - 'a'.val).toNat = 2 ^ 32 - 32 := rfl
      obtain ⟨low, high⟩ := lower
      rw [UInt32.toNat_add, shift]
      simp only [Char.reduceVal, UInt32.reduceToNat] at low high
      omega
    exact exact.trans (if_pos lower).symm
  · next other => exact (if_neg other).symm

theorem toLower_toUpper (c : Char) : c.toUpper.toLower = c.toLower := by
  apply Char.toNat_inj.mp
  simp only [toNat_toLower, toNat_toUpper]
  grind

theorem toLower_toLower (c : Char) : c.toLower.toLower = c.toLower := by
  apply Char.toNat_inj.mp
  simp only [toNat_toLower]
  grind

theorem toLower_eq_iff {m : Char} (mark : m.toNat < 65 ∨ 90 < m.toNat ∧ m.toNat < 97) (c : Char) :
    c.toLower = m ↔ c = m := by
  rw [← Char.toNat_inj, ← Char.toNat_inj, toNat_toLower]
  split <;> omega

theorem isBlank_toLower (c : Char) : isBlank c.toLower = isBlank c := by
  unfold isBlank CharClass.contains
  rw [toNat_toLower]
  split
  · rw [Bool.eq_iff_iff]
    simp [whiteSpace]
    omega
  · rfl

/-- The same text, with some letters in the other case. Only letters of ASCII have one here. -/
def SameLetters : List Char → List Char → Prop :=
  List.Forall₂ fun c c' => c' = c ∨ c' = c.toLower ∨ c' = c.toUpper

theorem SameLetters.map_toLower {cs cs' : List Char} (same : SameLetters cs cs') :
    cs'.map Char.toLower = cs.map Char.toLower := by
  induction same with
  | nil => rfl
  | cons letter _ ih =>
    rw [List.map_cons, List.map_cons, ih]
    rcases letter with rfl | rfl | rfl
    · rfl
    · rw [toLower_toLower]
    · rw [toLower_toUpper]

theorem SameLetters.mem_iff {cs cs' : List Char} (same : SameLetters cs cs') {m : Char}
    (mark : m.toNat < 65 ∨ 90 < m.toNat ∧ m.toNat < 97) : m ∈ cs' ↔ m ∈ cs := by
  have folded (cs : List Char) : m ∈ cs.map Char.toLower ↔ m ∈ cs := by simp [toLower_eq_iff mark]
  rw [← folded, same.map_toLower, folded]

def Margin (cs : List Char) : Prop := ∀ c ∈ cs, isBlank c = true ∧ c ≠ '\n'

instance (cs : List Char) : Decidable (Margin cs) :=
  List.decidableBAll (fun c => isBlank c = true ∧ c ≠ '\n') cs

end Text

namespace Tuning

open Text

inductive Restated : List Char → List Char → Prop where
  | margin {before line after : List Char} (front : Margin before) (back : Margin after) :
      Restated line (before ++ line ++ after)
  | letters {key key' value : List Char} (plain : '=' ∉ key) (same : SameLetters key key') :
      Restated (key ++ '=' :: value) (key' ++ '=' :: value)
  | aroundKey {before key after value : List Char} (plain : '=' ∉ key) (front : Margin before) (back : Margin after) :
      Restated (key ++ '=' :: value) (before ++ key ++ after ++ '=' :: value)
  | aroundValue {key before value after : List Char} (plain : '=' ∉ key) (front : Margin before)
      (back : Margin after) : Restated (key ++ '=' :: value) (key ++ '=' :: (before ++ value ++ after))
  | quoted {key before value after : List Char} (plain : '=' ∉ key) (front : Margin before) (back : Margin after)
      (trimmed : trim value = value) :
      Restated (key ++ '=' :: (before ++ value ++ after)) (key ++ '=' :: (before ++ '"' :: value ++ '"' :: after))

def LineStart (before : List Char) : Prop := before = [] ∨ ∃ earlier, before = earlier ++ ['\n']

def LineEnd (after : List Char) : Prop := after = [] ∨ ∃ later, after = '\n' :: later

inductive Relaid : List Char → List Char → Prop where
  | inserted {before line after : List Char} (start : LineStart before) (single : '\n' ∉ line)
      (idle : SetsNothing line) : Relaid (before ++ after) (before ++ line ++ '\n' :: after)
  | restated {before line line' after : List Char} (start : LineStart before) (stop : LineEnd after)
      (single : '\n' ∉ line) (said : Restated line line') :
      Relaid (before ++ line ++ after) (before ++ line' ++ after)
  | carriage {before after : List Char} : Relaid (before ++ '\n' :: after) (before ++ '\r' :: '\n' :: after)
  | ended {text : List Char} : Relaid text (text ++ ['\n'])
  | unended {text : List Char} : Relaid (text ++ ['\n']) text

theorem silent_eq (content : List Char) : silent content = content.head?.all fun c => c == '#' || c == '[' := by
  cases content with
  | nil => rfl
  | cons c rest =>
    unfold silent
    split <;> simp_all

theorem silent_map_toLower (content : List Char) : silent (content.map Char.toLower) = silent content := by
  have comment (c : Char) : c.toLower = '#' ↔ c = '#' := toLower_eq_iff (by decide) c
  have header (c : Char) : c.toLower = '[' ↔ c = '[' := toLower_eq_iff (by decide) c
  cases content with
  | nil => rfl
  | cons c rest =>
    rw [Bool.eq_iff_iff]
    simp [silent_eq, comment, header]

theorem trim_margin {before cs after : List Char} (front : Margin before) (back : Margin after) :
    trim (before ++ cs ++ after) = trim cs :=
  strip_append (fun c mem => (front c mem).1) (fun c mem => (back c mem).1)

/-- An assignment is told by its key and its value alone, each without what surrounds it. -/
theorem ofChars_assignment {key : List Char} (plain : '=' ∉ key) (value : List Char) :
    TuningLine.ofChars (key ++ '=' :: value) =
      if silent ((trim key).map Char.toLower ++ ['=']) then .skipped
      else .assignment ((trim key).map Char.toLower) (strip (· == '"') (trim value)) := by
  have content : trim (key ++ '=' :: value) = key.dropWhile isBlank ++ '=' :: value.rdropWhile isBlank :=
    strip_append_cons (by decide) key value
  have start : ∀ c ∈ key.dropWhile isBlank, (c != '=') = true := by
    intro c mem
    have other : c ≠ '=' := fun same => plain (same ▸ (List.dropWhile_sublist isBlank).mem mem)
    simpa using other
  have pair : assignment (trim (key ++ '=' :: value)) =
      (String.ofList ((trim key).map Char.toLower), strip (· == '"') (trim value)) := by
    rw [content, assignment, List.takeWhile_append_of_pos start, List.dropWhile_append_of_pos start]
    simp [trim, strip_dropWhile, strip_rdropWhile]
  have quiet : silent (trim (key ++ '=' :: value)) = silent ((trim key).map Char.toLower ++ ['=']) := by
    have folded : (trim key).map Char.toLower ++ ['='] = (trim key ++ ['=']).map Char.toLower := by simp
    rw [folded, silent_map_toLower, content, silent_eq, silent_eq, List.head?_append, List.head?_append, trim,
      head?_strip]
    rfl
  have assigned : '=' ∈ trim (key ++ '=' :: value) := by simp [content]
  rw [ofChars_eq, quiet, if_pos assigned, pair, String.toList_ofList]

theorem ofChars_congr {line line' : List Char} (same : trim line' = trim line) :
    TuningLine.ofChars line' = TuningLine.ofChars line := by
  unfold TuningLine.ofChars
  rw [same]

theorem Restated.ofChars_eq {line line' : List Char} (said : Restated line line') :
    TuningLine.ofChars line' = TuningLine.ofChars line := by
  cases said with
  | margin front back => exact ofChars_congr (trim_margin front back)
  | @letters key key' value plain same =>
    have plain' : '=' ∉ key' := fun mem => plain ((same.mem_iff (by decide)).mp mem)
    have name : (trim key').map Char.toLower = (trim key).map Char.toLower := by
      rw [trim, trim, ← strip_map isBlank_toLower, ← strip_map isBlank_toLower, same.map_toLower]
    rw [ofChars_assignment plain', ofChars_assignment plain, name]
  | @aroundKey before key after value plain front back =>
    have plain' : '=' ∉ before ++ key ++ after := by
      simp only [List.mem_append, not_or]
      have blank : isBlank '=' ≠ true := by decide
      exact ⟨⟨fun mem => blank (front _ mem).1, plain⟩, fun mem => blank (back _ mem).1⟩
    rw [ofChars_assignment plain', ofChars_assignment plain, trim_margin front back]
  | aroundValue plain front back =>
    rw [ofChars_assignment plain, ofChars_assignment plain, trim_margin front back]
  | @quoted key before value after plain front back trimmed =>
    have marks : ∀ c ∈ ['"'], (c == '"') = true := by simp
    have enclosed : trim (before ++ '"' :: value ++ '"' :: after) = ['"'] ++ value ++ ['"'] := by
      have regroup : before ++ '"' :: value ++ '"' :: after = before ++ ('"' :: (value ++ ['"'])) ++ after := by simp
      rw [regroup, trim_margin front back]
      exact (strip_append_cons (by decide) [] (value ++ ['"'])).trans
        (congrArg ('"' :: ·) (List.rdropWhile_concat_neg isBlank value '"' (by decide)))
    rw [ofChars_assignment plain, ofChars_assignment plain, enclosed, strip_append marks marks,
      trim_margin front back, trimmed]

end Tuning

namespace TuningDraft

open Text Tuning

def read (d : TuningDraft) (lines : List (List Char)) : Except ConfigError TuningDraft :=
  lines.foldlM (fun d raw => d.addLine 0 raw) d

theorem read_append (d : TuningDraft) (first second : List (List Char)) :
    d.read (first ++ second) = d.read first >>= fun next => next.read second :=
  List.foldlM_append

theorem read_cons (d : TuningDraft) (raw : List Char) (rest : List (List Char)) :
    d.read (raw :: rest) = d.addLine 0 raw >>= fun next => next.read rest :=
  List.foldlM_cons

theorem addLine_eq_ok_iff {d d' : TuningDraft} (number number' : Nat) {raw : List Char} :
    d.addLine number raw = .ok d' ↔ d.addLine number' raw = .ok d' := by
  unfold TuningDraft.addLine
  cases TuningLine.ofChars raw <;> simp

theorem run_eq_ok_iff {d d' : TuningDraft} {lines : List (List Char)} {start : Nat} :
    (lines.zipIdx start).foldlM (fun (d : TuningDraft) (raw, number) => d.addLine number raw) d = .ok d' ↔
      d.read lines = .ok d' := by
  induction lines generalizing d start with
  | nil => rfl
  | cons raw lines ih =>
    rw [List.zipIdx_cons, List.foldlM_cons, read_cons, bind_eq_ok_iff, bind_eq_ok_iff]
    exact exists_congr fun next => and_congr (addLine_eq_ok_iff start 0) ih

end TuningDraft

namespace Tuning

open Text TuningDraft

abbrev linesOf (text : List Char) : List (List Char) := pieces (· == '\n') text

theorem linesOf_append {before : List Char} (start : LineStart before) :
    ∃ front, ∀ cs, linesOf (before ++ cs) = front ++ linesOf cs := by
  rcases start with rfl | ⟨earlier, rfl⟩
  · exact ⟨[], fun cs => rfl⟩
  · refine ⟨linesOf earlier, fun cs => ?_⟩
    rw [List.append_assoc, List.singleton_append]
    exact pieces_append_cons (by decide) earlier cs

theorem linesOf_append_end {after : List Char} (stop : LineEnd after) :
    ∃ back, ∀ cs, linesOf (cs ++ after) = linesOf cs ++ back := by
  rcases stop with rfl | ⟨later, rfl⟩
  · exact ⟨[], fun cs => by simp⟩
  · exact ⟨linesOf later, fun cs => pieces_append_cons (by decide) cs later⟩

theorem linesOf_single {line : List Char} (single : '\n' ∉ line) : linesOf line = [line] := by
  apply pieces_of_forall_not
  intro c mem
  have other : c ≠ '\n' := fun same => single (same ▸ mem)
  simpa using other

theorem linesOf_between {before after : List Char} (start : LineStart before) (stop : LineEnd after) :
    ∃ front back, ∀ {line}, '\n' ∉ line → linesOf (before ++ line ++ after) = front ++ line :: back := by
  obtain ⟨front, atFront⟩ := linesOf_append start
  obtain ⟨back, atBack⟩ := linesOf_append_end stop
  refine ⟨front, back, fun single => ?_⟩
  rw [List.append_assoc, atFront, atBack, linesOf_single single, List.singleton_append]

theorem exists_last_line (text : List Char) :
    ∃ before line, text = before ++ line ∧ LineStart before ∧ '\n' ∉ line := by
  refine ⟨text.rdropWhile (· != '\n'), text.rtakeWhile (· != '\n'), ?_, ?_, ?_⟩
  · exact List.rdropWhile_append_rtakeWhile.symm
  · by_cases first : text.rdropWhile (· != '\n') = []
    · exact .inl first
    · have stop := List.rdropWhile_last_not (· != '\n') text first
      simp only [bne_iff_ne, ne_eq, not_not] at stop
      exact .inr ⟨_, stop ▸ (List.dropLast_append_getLast first).symm⟩
  · intro mem
    simpa using List.mem_rtakeWhile_imp mem

theorem Restated.single {line line' : List Char} (said : Restated line line') (single : '\n' ∉ line) :
    '\n' ∉ line' := by
  have margin {cs : List Char} (blank : Margin cs) : '\n' ∉ cs := fun mem => (blank _ mem).2 rfl
  cases said with
  | margin front back => simp_all
  | letters plain same => simp_all [same.mem_iff (show '\n'.toNat < 65 ∨ _ by decide)]
  | aroundKey plain front back => simp_all
  | aroundValue plain front back => simp_all
  | quoted plain front back trimmed => simp_all

theorem read_restated {before line line' after : List Char} (start : LineStart before) (stop : LineEnd after)
    (single : '\n' ∉ line) (said : Restated line line') (d : TuningDraft) :
    d.read (linesOf (before ++ line' ++ after)) = d.read (linesOf (before ++ line ++ after)) := by
  obtain ⟨front, back, lines⟩ := linesOf_between start stop
  have added (next : TuningDraft) : next.addLine 0 line' = next.addLine 0 line := by
    unfold TuningDraft.addLine
    rw [said.ofChars_eq]
  rw [lines single, lines (said.single single)]
  simp only [read_append, read_cons, added]

theorem read_ended (text : List Char) (d : TuningDraft) :
    d.read (linesOf (text ++ ['\n'])) = d.read (linesOf text) := by
  have blank : SetsNothing [] := .inl rfl
  rw [linesOf, pieces_append_cons (by decide) text [], read_append]
  exact (bind_congr fun next => addLine_of_setsNothing blank next 0).trans (bind_pure _)

theorem Relaid.read_eq {text text' : List Char} (relaid : Relaid text text') (d : TuningDraft) :
    d.read (linesOf text') = d.read (linesOf text) := by
  cases relaid with
  | @inserted before line after start single idle =>
    obtain ⟨front, atFront⟩ := linesOf_append start
    have more : linesOf (line ++ '\n' :: after) = line :: linesOf after := by
      rw [linesOf, pieces_append_cons (by decide) line after, ← linesOf, linesOf_single single, List.singleton_append]
    rw [List.append_assoc, atFront, atFront, more, read_append, read_append]
    apply bind_congr
    intro next
    rw [read_cons, addLine_of_setsNothing idle]
    rfl
  | restated start stop single said => exact read_restated start stop single said d
  | @carriage before after =>
    -- The carriage return becomes white space at the end of the line.
    obtain ⟨earlier, line, rfl, start, single⟩ := exists_last_line before
    have wider : Restated line ([] ++ line ++ ['\r']) := .margin (by decide) (by decide)
    have same := read_restated start (.inr ⟨after, rfl⟩) single wider d
    simpa using same
  | ended => exact read_ended _ d
  | unended => exact (read_ended _ d).symm

theorem ofText_eq_ok_iff {text : String} {t : Tuning} : ofText text = .ok t ↔
    ∃ d, TuningDraft.read {} (linesOf text.toList) = .ok d ∧ d.finish.geometry.validate = .ok () ∧
      d.finish = t := by
  unfold ofText
  simp only [bind_eq_ok_iff, run_eq_ok_iff, lift_eq_ok_iff]
  refine exists_congr fun d => and_congr_right fun _ => ?_
  constructor
  · rintro ⟨_, valid, same⟩
    exact ⟨valid, Except.ok.inj same⟩
  · rintro ⟨valid, rfl⟩
    exact ⟨(), valid, rfl⟩

theorem read_relaid {text text' : List Char} (relaid : Relation.ReflTransGen Relaid text text') (d : TuningDraft) :
    d.read (linesOf text') = d.read (linesOf text) := by
  induction relaid with
  | refl => rfl
  | tail _ step ih => exact (step.read_eq d).trans ih

/-- Whatever changes are made to its layout, a text is accepted as before and says the same. -/
theorem ofText_of_relaid {text text' : String} (relaid : Relation.ReflTransGen Relaid text.toList text'.toList)
    (t : Tuning) : ofText text = .ok t ↔ ofText text' = .ok t := by
  rw [ofText_eq_ok_iff, ofText_eq_ok_iff, read_relaid relaid]

def bareText : String := "screwmm=8"

def dressedText : String := "[tower]\n\tScrewMM = \"8\"\r\n"

theorem relaid_dressed : Relation.ReflTransGen Relaid bareText.toList dressedText.toList := by
  have whole {line line' : List Char} (said : Restated line line') (single : '\n' ∉ line) : Relaid line line' := by
    simpa using Relaid.restated (.inl rfl) (.inl rfl) single said
  have quoted : Relaid "screwmm=8".toList "screwmm=\"8\"".toList :=
    whole (@Restated.quoted "screwmm".toList [] "8".toList [] (by decide) (by decide) (by decide) rfl) (by decide)
  have aroundValue : Relaid "screwmm=\"8\"".toList "screwmm= \"8\"".toList :=
    whole (@Restated.aroundValue "screwmm".toList [' '] "\"8\"".toList [] (by decide) (by decide) (by decide))
      (by decide)
  have aroundKey : Relaid "screwmm= \"8\"".toList "screwmm = \"8\"".toList :=
    whole (@Restated.aroundKey [] "screwmm".toList [' '] " \"8\"".toList (by decide) (by decide) (by decide))
      (by decide)
  have letters : Relaid "screwmm = \"8\"".toList "ScrewMM = \"8\"".toList :=
    whole (@Restated.letters "screwmm ".toList "ScrewMM ".toList " \"8\"".toList (by decide)
      (by unfold SameLetters; decide)) (by decide)
  have margin : Relaid "ScrewMM = \"8\"".toList "\tScrewMM = \"8\"".toList :=
    whole (@Restated.margin ['\t'] "ScrewMM = \"8\"".toList [] (by decide) (by decide)) (by decide)
  have ended : Relaid "\tScrewMM = \"8\"".toList "\tScrewMM = \"8\"\n".toList := .ended
  have carriage : Relaid "\tScrewMM = \"8\"\n".toList "\tScrewMM = \"8\"\r\n".toList :=
    @Relaid.carriage "\tScrewMM = \"8\"".toList []
  have inserted : Relaid "\tScrewMM = \"8\"\r\n".toList dressedText.toList :=
    @Relaid.inserted [] "[tower]".toList "\tScrewMM = \"8\"\r\n".toList (.inl rfl) (by decide) (.inl rfl)
  have worded := Relation.ReflTransGen.single quoted |>.tail aroundValue |>.tail aroundKey |>.tail letters
  exact worded.tail margin |>.tail ended |>.tail carriage |>.tail inserted

theorem ofText_of_relaid_dressed : Relation.ReflTransGen Relaid bareText.toList dressedText.toList ∧
    ∃ t, ofText dressedText = .ok t ∧ t.screwMm = 8 := by
  obtain ⟨t, accepted, pitch⟩ : ∃ t, ofText bareText = .ok t ∧ t.screwMm = 8 :=
    exists_ok_of_any (by decide +kernel)
  exact ⟨relaid_dressed, t, (ofText_of_relaid relaid_dressed t).mp accepted, pitch⟩

end Tuning
end LayerSeparation
