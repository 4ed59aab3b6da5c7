import LayerSeparation.Proofs.Defects
import LayerSeparation.Proofs.RowFormat

/-! Rows with a curve that is not one of the axis. An index of one byte is looked up and reported as unknown; what
no byte can hold is not looked up, and is reported as a field out of range instead. In a tuning file the report is
that of the row, unless an earlier line is defective. -/
namespace LayerSeparation

namespace MovingProfile

/-- A row all of whose other values are in the range of their place. The curve given is the first from the left
that is none of the axis. -/
inductive ForeignCurve : List Int32 → Int32 → Prop where
  | initial {v b c d e f g h : Int32} (foreign : ¬ (0 ≤ v.toInt ∧ v.toInt ≤ 7))
      (others : InFormat [0, b, c, 0, e, f, g, h]) : ForeignCurve [v, b, c, d, e, f, g, h] v
  | finish {a b c v e f g h : Int32} (initial : 0 ≤ a.toInt ∧ a.toInt ≤ 7)
      (foreign : ¬ (0 ≤ v.toInt ∧ v.toInt ≤ 7)) (others : InFormat [0, b, c, 0, e, f, g, h]) :
      ForeignCurve [a, b, c, v, e, f, g, h] v

def curveError (v : Int32) : ProfileError :=
  if 0 ≤ v.toInt ∧ v.toInt ≤ 255 then .unknownIndex .tilt (UInt8.ofNat v.toInt.toNat)
  else .outOfRange "curve index" v.toInt

theorem ForeignCurve.foreign {row : List Int32} {v : Int32} (h : ForeignCurve row v) :
    ¬ (0 ≤ v.toInt ∧ v.toInt ≤ 7) := by
  cases h with
  | initial foreign others => exact foreign
  | finish initial foreign others => exact foreign

theorem rowCurve_of_foreign {v : Int32} (foreign : ¬ (0 ≤ v.toInt ∧ v.toInt ≤ 7)) :
    rowCurve v = .error (curveError v) := by
  have unheld {i : UInt8} (narrow : Width.uint8? v.toInt = some i) :
      (Catalogue.ofIndex? i.toNat : Option TiltCurve) = none := by
    cases found : (Catalogue.ofIndex? i.toNat : Option TiltCurve) with
    | none => rfl
    | some curve =>
      have index : (Catalogue.index curve : Int) = v.toInt := by
        rw [Catalogue.ofIndex?_eq_some_iff.mp found, Width.uint8?_eq_some_iff.mp narrow]
      exact absurd (exists_index_iff.mp ⟨curve, index⟩) foreign
  unfold rowCurve curveError
  by_cases byte : 0 ≤ v.toInt ∧ v.toInt ≤ 255
  · have narrow : Width.uint8? v.toInt = some (UInt8.ofNat v.toInt.toNat) := if_pos ⟨byte.1, by omega⟩
    rw [narrow, if_pos byte]
    dsimp only
    rw [Curve.ofIndex, unheld narrow]
    rfl
  · have wide : Width.uint8? v.toInt = none := if_neg (by omega)
    rw [wide, if_neg byte]

theorem isUnknownProfile_curveError {v : Int32} (foreign : ¬ (0 ≤ v.toInt ∧ v.toInt ≤ 7)) :
    (curveError v).isUnknownProfile = true ↔ 8 ≤ v.toInt ∧ v.toInt ≤ 255 := by
  unfold curveError
  split
  · next byte => exact iff_of_true rfl (by omega)
  · next wide => exact iff_of_false nofun (by omega)

theorem ForeignCurve.ofRow_eq {row : List Int32} {v : Int32} (h : ForeignCurve row v) :
    ofRow row = .error (curveError v) := by
  cases h with
  | initial foreign others =>
    simp only [ofRow, rowCurve_of_foreign foreign]
    rfl
  | finish initial foreign others =>
    -- The pause stands between the two curves and has to be read first.
    simp only [InFormat, rowRanges, List.forall₂_cons] at others
    obtain ⟨curve, index⟩ := exists_index_iff.mpr initial
    obtain ⟨pause, word⟩ := Width.exists_uint32 others.2.2.1.1 (by omega)
    simp only [ofRow, rowCurve_eq_ok_iff.mpr index, rowWord_eq_ok_iff.mpr word, rowCurve_of_foreign foreign]
    rfl

end MovingProfile

namespace Tuning

open MovingProfile

/-- What comes of a row with a curve that is none of the axis, and of the texts whose first defect it is. An error
of either kind is one about something unknown if a byte can hold the index, and only then. -/
structure ReportsCurve (row : List Int32) (v : Int32) : Prop where
  from_row : ofRow row = .error (curveError v) ∧
    ((curveError v).isUnknownProfile = true ↔ 8 ≤ v.toInt ∧ v.toInt ≤ 255)
  from_text : ∀ text before line after key value, linesOf text.toList = before ++ line :: after →
    (∀ earlier ∈ before, ¬ Defective earlier) → Assigns line (.row key) value → EightIntegers value row →
      ofText text = .error (.profile (curveError v)) ∧
        ((ConfigError.profile (curveError v)).isUnknownProfile = true ↔ 8 ≤ v.toInt ∧ v.toInt ≤ 255)

/-- A row of a profile but for a curve that is none of the axis is turned down, alone and in a text. The index decides
how. -/
theorem reports_curve {row : List Int32} {v : Int32} (foreign : ForeignCurve row v) : ReportsCurve row v where
  from_row := ⟨foreign.ofRow_eq, isUnknownProfile_curveError foreign.foreign⟩
  from_text := by
    intro text before line after key value split sound given eight
    refine ⟨?_, isUnknownProfile_curveError foreign.foreign⟩
    rw [ofText_eq_error_iff, split]
    exact .inl (firstDefect_append sound (.row given eight foreign.ofRow_eq))

/-- The ninth curve of eight. -/
def ninthText : String := "# tuned\ntiltup = 9 400 0 5 1 0 0 0\n"

theorem reports_curve_ninth : ForeignCurve [9, 400, 0, 5, 1, 0, 0, 0] 9 ∧
    ofText ninthText = .error (.profile (.unknownIndex .tilt 9)) := by
  have foreign : ForeignCurve [9, 400, 0, 5, 1, 0, 0, 0] 9 :=
    .initial (by decide) (by unfold InFormat rowRanges; decide)
  have comment : ¬ Defective "# tuned".toList := by
    rintro ⟨number, e, ⟨said, -⟩ | ⟨given, -, -⟩⟩
    · exact absurd said (by decide)
    · exact absurd given.said (by decide)
  have given : Assigns "tiltup = 9 400 0 5 1 0 0 0".toList (.row .tiltUp) "9 400 0 5 1 0 0 0".toList :=
    ⟨by decide, by decide, by decide⟩
  have reported := (reports_curve foreign).from_text ninthText ["# tuned".toList] _ [[]] _ _ rfl
    (List.forall_mem_singleton.mpr comment) given ⟨by decide, rfl⟩
  exact ⟨foreign, reported.1⟩

/-- Below the first index and above the last one of a byte a curve is none of the axis either, but the error does not
say so. -/
theorem foreign_curve_not_unknown :
    (ForeignCurve [256, 650, 1000, 4, 1, 0, 64, 3] 256 ∧
      ∃ e, ofRow [256, 650, 1000, 4, 1, 0, 64, 3] = .error e ∧ e.isUnknownProfile = false) ∧
    (ForeignCurve [2, 400, 0, -1, 1, 0, 0, 0] (-1) ∧
      ∃ e, ofText "tiltup = 2 400 0 -1 1 0 0 0" = .error e ∧ e.isUnknownProfile = false) := by
  have late : ForeignCurve [256, 650, 1000, 4, 1, 0, 64, 3] 256 :=
    .initial (by decide) (by unfold InFormat rowRanges; decide)
  have early : ForeignCurve [2, 400, 0, -1, 1, 0, 0, 0] (-1) :=
    .finish (by decide) (by decide) (by unfold InFormat rowRanges; decide)
  exact ⟨⟨late, _, late.ofRow_eq, by decide⟩, early, _, rfl, rfl⟩

end Tuning
end LayerSeparation
