import LayerSeparation.Profile.Moving
import LayerSeparation.Width

/-! A moving profile as a row of eight signed words: first curve, offset, pause after the offset,
finish curve, cycles, pause between cycles, tolerance, homing attempts. A word that is unsigned in
the profile keeps its bits in the row, so the upper half of its range is written as a negative
number, which reading refuses. -/
namespace LayerSeparation.MovingProfile

def toRow (p : MovingProfile) : List Int32 :=
  [Int32.ofInt (Catalogue.index p.initialCurve), p.offsetSteps, p.offsetDelayMs.toInt32,
    Int32.ofInt (Catalogue.index p.finishCurve), p.cycles.toUInt32.toInt32, p.delayMs.toInt32,
    p.homingTolerance.toInt32, p.homingCycles.toUInt32.toInt32]

/-- A value that no index can hold is out of range; an index beyond the last curve is unknown. -/
def rowCurve (value : Int32) : Except ProfileError TiltCurve :=
  match Width.uint8? value.toInt with
  | some i => Curve.ofIndex i
  | none => .error (.outOfRange "curve index" value.toInt)

def rowWord (field : String) (value : Int32) : Except ProfileError UInt32 :=
  match Width.uint32? value.toInt with
  | some w => .ok w
  | none => .error (.outOfRange field value.toInt)

def rowCount (field : String) (value : Int32) : Except ProfileError UInt8 :=
  match Width.uint8? value.toInt with
  | some n => .ok n
  | none => .error (.outOfRange field value.toInt)

/-- The first offending value from the left is reported; ranges are checked once all eight are
read. -/
def ofRow : List Int32 → Except ProfileError MovingProfile
  | [initial, offset, offsetDelay, finish, cycles, delay, tolerance, attempts] => do
    let p : MovingProfile := {
      initialCurve := ← rowCurve initial
      offsetSteps := offset
      offsetDelayMs := ← rowWord "offset_delay_ms" offsetDelay
      finishCurve := ← rowCurve finish
      cycles := ← rowCount "cycles" cycles
      delayMs := ← rowWord "delay_ms" delay
      homingTolerance := ← rowWord "homing_tolerance" tolerance
      homingCycles := ← rowCount "homing_cycles" attempts }
    p.validate
    return p
  | row => .error (.malformedRow row.length)

end LayerSeparation.MovingProfile
