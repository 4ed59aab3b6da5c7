import LayerSeparation.Profile.Curve
import LayerSeparation.Separation.Machine
import LayerSeparation.Width

/-! A simulated axis. Moves take no time, every call is counted, and stalls, homing results and one
fault can be arranged. A limit is compared with the target of a move, not with the direction of
travel. A call that fails changes nothing but the count and the record of calls. -/
namespace LayerSeparation

/-- A call as the record keeps it. Position readings are counted but not recorded. -/
inductive AxisCall (C : Type) where
  | setCurve (curve : C)
  | moveRelative (steps : Int32)
  | moveAbsolute (position : Int32)
  | queryStall
  | home
  deriving DecidableEq, Repr

def AxisCall.isMotion {C : Type} : AxisCall C → Bool
  | .moveRelative _ | .moveAbsolute _ | .home => true
  | .setCurve _ | .queryStall => false

structure SimAxis (C : Type) where
  position : Int32
  curve : Option C := none
  /-- Moves beyond these positions are refused. -/
  bounds : Option (Int32 × Int32) := none
  /-- Moves to a target below this position stop at it. -/
  obstruction : Option Int32 := none
  /-- Moves to a target above this position stop at it. -/
  ceiling : Option Int32 := none
  stall : Bool := false
  /-- Results of the next homings; without one homing succeeds. -/
  homings : List Bool := []
  fault : Option (Nat × AxisError) := none
  calls : Nat := 0
  trace : List (AxisCall C) := []
  deriving Repr

namespace SimAxis
variable {C : Type}

def traceLength : Nat := 64
def homingsLength : Nat := 8

def obstructAt (a : SimAxis C) (position : Int32) : SimAxis C :=
  { a with obstruction := some position }

def obstructAbove (a : SimAxis C) (position : Int32) : SimAxis C :=
  { a with ceiling := some position }

def setPosition (a : SimAxis C) (position : Int32) : SimAxis C := { a with position }

def injectStall (a : SimAxis C) : SimAxis C := { a with stall := true }

/-- Results beyond the length of the queue are dropped. -/
def scriptHoming (a : SimAxis C) (results : List Bool) : SimAxis C :=
  { a with homings := (a.homings ++ results).take homingsLength }

def failCall (a : SimAxis C) (number : Nat) (error : AxisError) : SimAxis C :=
  { a with fault := some (number, error) }

def clearTrace (a : SimAxis C) : SimAxis C := { a with trace := [] }

def motionCount (a : SimAxis C) : Nat := a.trace.countP AxisCall.isMotion

def record (a : SimAxis C) (call : Option (AxisCall C)) : Except AxisError Unit × SimAxis C :=
  let counted := { a with
    calls := a.calls + 1
    trace := (a.trace ++ call.toList).take traceLength }
  match a.fault with
  | some (number, error) => (if number = a.calls then .error error else .ok (), counted)
  | none => (.ok (), counted)

def inBounds (a : SimAxis C) (target : Int32) : Bool :=
  match a.bounds with
  | some (lo, hi) => lo ≤ target && target ≤ hi
  | none => true

/-- Where a move to `target` ends, and whether a limit stops it. The obstruction is looked at
first. -/
def reach (a : SimAxis C) (target : Int32) : Int32 × Bool :=
  match a.obstruction.filter (target < ·), a.ceiling.filter (· < target) with
  | some limit, _ => (min a.position limit, true)
  | none, some limit => (max a.position limit, true)
  | none, none => (target, false)

def moveTo (a : SimAxis C) (target : Int32) : Except AxisError Unit × SimAxis C :=
  if a.inBounds target then
    let (position, stopped) := a.reach target
    (.ok (), { a with position, stall := a.stall || stopped })
  else (.error .outOfBounds, a)

def call {α : Type} (a : SimAxis C) (c : Option (AxisCall C))
    (effect : SimAxis C → Except AxisError α × SimAxis C) : Except AxisError α × SimAxis C :=
  match a.record c with
  | (.error e, a) => (.error e, a)
  | (.ok (), a) => effect a

def setCurve (curve : C) (a : SimAxis C) : Except AxisError Unit × SimAxis C :=
  a.call (some (.setCurve curve)) fun a => (.ok (), { a with curve := some curve })

/-- The target is the exact sum of position and steps, clamped to a word. -/
def moveRelative (steps : Int32) (a : SimAxis C) : Except AxisError Unit × SimAxis C :=
  a.call (some (.moveRelative steps)) fun a => a.moveTo (Width.sumInt32 a.position steps)

def moveAbsolute (position : Int32) (a : SimAxis C) : Except AxisError Unit × SimAxis C :=
  a.call (some (.moveAbsolute position)) fun a => a.moveTo position

def readPosition (a : SimAxis C) : Except AxisError Int32 × SimAxis C :=
  a.call none fun a => (.ok a.position, a)

/-- Reading the flag clears it. -/
def queryStall (a : SimAxis C) : Except AxisError Bool × SimAxis C :=
  a.call (some .queryStall) fun a => (.ok a.stall, { a with stall := false })

/-- Finding the stop brings the axis to zero and removes what blocked it. -/
def home (a : SimAxis C) : Except AxisError Bool × SimAxis C :=
  a.call (some .home) fun a =>
    let a' := { a with homings := a.homings.tail }
    if a.homings.head?.getD true then
      (.ok true, { a' with position := 0, obstruction := none, ceiling := none, stall := false })
    else (.ok false, a')

def driver : AxisDriver C (SimAxis C) where
  setCurve := setCurve
  moveRelative := moveRelative
  moveAbsolute := moveAbsolute
  position := readPosition
  queryStall := queryStall
  home := home

end SimAxis
end LayerSeparation
