import LayerSeparation.Profile.Row
import LayerSeparation.Settings.Error
import LayerSeparation.Settings.Tuning
import LayerSeparation.Text.Blank
import LayerSeparation.Text.Digits

/-! Tuning files: one assignment a line. The last assignment of a key counts. A number that cannot be
read gives way to its default and is clamped to its range; a row that is not eight integers gives
up all rows of the file; a row that no profile has, and a tilt height outside the travel, are
errors. -/
namespace LayerSeparation

inductive RowKey where
  | tiltDownLargeFill
  | tiltDownSmallFill
  | tiltUp
  | tiltUpLargeFill
  | tiltUpSmallFill
  deriving DecidableEq, Repr

inductive TuningKey where
  | row (key : RowKey)
  | tilt
  | fastLimit
  | towerHop
  | tiltHeight
  | screwPitch
  | delayBeforeExposure
  | delayAfterExposure
  deriving DecidableEq, Repr

instance : Catalogue TuningKey where
  entries := [.row .tiltDownLargeFill, .row .tiltDownSmallFill, .row .tiltUp, .row .tiltUpLargeFill,
    .row .tiltUpSmallFill, .tilt, .fastLimit, .towerHop, .tiltHeight, .screwPitch,
    .delayBeforeExposure, .delayAfterExposure]
  name
    | .row .tiltDownLargeFill => "tiltdownlargefill"
    | .row .tiltDownSmallFill => "tiltdownsmallfill"
    | .row .tiltUp => "tiltup"
    | .row .tiltUpLargeFill => "tiltuplargefill"
    | .row .tiltUpSmallFill => "tiltupsmallfill"
    | .tilt => "tilt"
    | .fastLimit => "limit4fast"
    | .towerHop => "layertowerhop"
    | .tiltHeight => "tiltheight"
    | .screwPitch => "screwmm"
    | .delayBeforeExposure => "delaybeforeexposure"
    | .delayAfterExposure => "delayafterexposure"
  mem_entries a := by
    cases a with
    | row k => cases k <;> simp
    | _ => simp
  names_nodup := by decide

inductive TuningLine where
  | skipped
  | assignment (key value : List Char)
  | unreadable (content : List Char)
  deriving DecidableEq, Repr

/-- White space around the line, the key and the value does not count. -/
def TuningLine.ofChars (raw : List Char) : TuningLine :=
  let content := Text.trim raw
  match content with
  | [] | '#' :: _ | '[' :: _ => .skipped
  | _ =>
    match content.span (· != '=') with
    | (key, '=' :: value) =>
      .assignment ((Text.trim key).map Char.toLower) (Text.strip (· == '"') (Text.trim value))
    | _ => .unreadable content

def numberOr (default : Int) (value : List Char) : Int :=
  match Text.integer? value with
  | some n => if -0x8000000000000000 ≤ n ∧ n < 0x8000000000000000 then n else default
  | none => default

def clampedOr (default lo hi : Nat) (value : List Char) : Nat :=
  (max (lo : Int) (min (numberOr default value) hi)).toNat

def flagOr (default : Bool) (value : List Char) : Bool :=
  match String.ofList (value.map Char.toLower) with
  | "true" | "yes" | "1" => true
  | "false" | "no" | "0" => false
  | _ => default

/-- Delays are written in tenths of a second. -/
def delayMs (value : List Char) : UInt32 := UInt32.ofNat (clampedOr 0 0 300 value * 100)

def rowValues? (value : List Char) : Option (List Int32) := do
  let row ← (Text.words value).mapM fun w => do Width.int32? (← Text.integer? w)
  if row.length = 8 then return row else failure

structure TuningDraft where
  settings : Tuning := {}
  rows : RowKey → Option MovingProfile := fun _ => none
  malformed : Bool := false

namespace TuningDraft

def set (d : TuningDraft) (key : TuningKey) (value : List Char) : Except ProfileError TuningDraft :=
  let s := d.settings
  match key with
  | .row k =>
    match rowValues? value with
    | some values => do
      let p ← MovingProfile.ofRow values
      return { d with rows := fun other => if other = k then some p else d.rows other }
    | none => .ok { d with malformed := true }
  | .tilt => .ok { d with settings := { s with useTilt := flagOr true value } }
  | .fastLimit => .ok { d with
      settings := { s with fastLimitPercent := UInt8.ofNat (clampedOr 45 0 100 value) } }
  | .towerHop => .ok { d with
      settings := { s with towerHopSteps := UInt32.ofNat (clampedOr 0 0 8000 value) } }
  | .tiltHeight => .ok { d with
      settings := { s with
        tiltHeight := Width.clampInt32 (numberOr TiltGeometry.factory.heightSteps.toInt value) } }
  | .screwPitch => .ok { d with
      settings := { s with screwMm := UInt32.ofNat (clampedOr 4 1 100 value) } }
  | .delayBeforeExposure => .ok { d with
      settings := { s with delayBeforeExposureMs := delayMs value } }
  | .delayAfterExposure => .ok { d with
      settings := { s with delayAfterExposureMs := delayMs value } }

/-- Keys that are not known have no effect. -/
def addLine (d : TuningDraft) (number : Nat) (raw : List Char) : Except ConfigError TuningDraft :=
  match TuningLine.ofChars raw with
  | .skipped => .ok d
  | .unreadable content => .error (.badLine number content)
  | .assignment key value => do
    match (Catalogue.ofName? (String.ofList key) : Option TuningKey) with
    | some k =>
      let next ← d.set k value
      return next
    | none => return d

/-- A row of its own comes before the common one, and that before the factory row. -/
def row (d : TuningDraft) (id : MovingProfileId) : MovingProfile :=
  let given : Option MovingProfile := match id with
    | .tiltDownLargeFill => d.rows .tiltDownLargeFill
    | .tiltDownSmallFill => d.rows .tiltDownSmallFill
    | .tiltUpLargeFill => d.rows .tiltUpLargeFill <|> d.rows .tiltUp
    | .tiltUpSmallFill => d.rows .tiltUpSmallFill <|> d.rows .tiltUp
  given.getD id.factoryProfile

def finish (d : TuningDraft) : Tuning :=
  { d.settings with rows := if d.malformed then MovingProfileId.factoryProfile else d.row }

end TuningDraft

/-- Lines are counted from one. The first fault of a line is reported, or else that of the tilt
height. -/
def Tuning.ofText (text : String) : Except ConfigError Tuning := do
  let lines := (Text.pieces (· == '\n') text.toList).zipIdx 1
  let draft ← lines.foldlM (fun (d : TuningDraft) (raw, number) => d.addLine number raw) {}
  let tuning := draft.finish
  tuning.geometry.validate
  return tuning

end LayerSeparation
