import LayerSeparation.Profile.Id

/-! Commands to the axes and the delay source, and what comes back. A command fixes the type of its
answer; feedback is untyped and answers a command only if it is of the right kind. -/
namespace LayerSeparation

inductive AxisError where
  | communicationError
  | notHomed
  | outOfBounds
  | invalidResponse
  | driverFault
  deriving DecidableEq, Repr

instance : Catalogue AxisError where
  entries := [.communicationError, .notHomed, .outOfBounds, .invalidResponse, .driverFault]
  name
    | .communicationError => "CommunicationError"
    | .notHomed => "NotHomed"
    | .outOfBounds => "OutOfBounds"
    | .invalidResponse => "InvalidResponse"
    | .driverFault => "DriverFault"
  mem_entries a := by cases a <;> simp
  names_nodup := by decide

def AxisError.message : AxisError → String
  | .communicationError => "communication with the motion controller failed"
  | .notHomed => "axis is not homed"
  | .outOfBounds => "position out of bounds"
  | .invalidResponse => "unexpected response from the driver"
  | .driverFault => "driver fault"

inductive Command where
  | setTiltCurve (curve : TiltCurve)
  | setTowerCurve (curve : TowerCurve)
  | moveRelative (axis : Axis) (steps : Int32)
  | moveAbsolute (axis : Axis) (position : Int32)
  | readPosition (axis : Axis)
  | queryStall (axis : Axis)
  | home (axis : Axis)
  | wait (ms : UInt32)
  deriving DecidableEq, Repr

namespace Command

def axis : Command → Option Axis
  | .setTiltCurve _ => some .tilt
  | .setTowerCurve _ => some .tower
  | .moveRelative a _ => some a
  | .moveAbsolute a _ => some a
  | .readPosition a => some a
  | .queryStall a => some a
  | .home a => some a
  | .wait _ => none

def isMotion : Command → Bool
  | .moveRelative .. | .moveAbsolute .. | .home _ => true
  | .setTiltCurve _ | .setTowerCurve _ | .readPosition _ | .queryStall _ | .wait _ => false

/-- A position, a flag, or the bare fact that the command is done. -/
@[reducible] def Answer : Command → Type
  | .readPosition _ => Int32
  | .queryStall _ => Bool
  | .home _ => Bool
  | .setTiltCurve _ | .setTowerCurve _ | .moveRelative .. | .moveAbsolute .. | .wait _ => Unit

end Command

/-- What is reported back after a command, before it is matched with the command. -/
inductive Feedback where
  | none
  | position (p : Int32)
  | stall (flag : Bool)
  | homed (found : Bool)
  deriving DecidableEq, Repr

def Command.feedback : (c : Command) → c.Answer → Feedback
  | .readPosition _, p => .position p
  | .queryStall _, flag => .stall flag
  | .home _, found => .homed found
  | .setTiltCurve _, _ | .setTowerCurve _, _ | .moveRelative .., _ | .moveAbsolute .., _
  | .wait _, _ => .none

/-- The answer that feedback holds for a command, if it is of the kind that the command asks for. -/
def Feedback.answer? (f : Feedback) : (c : Command) → Option c.Answer
  | .readPosition _ => match f with
    | .position p => some p
    | _ => .none
  | .queryStall _ => match f with
    | .stall flag => some flag
    | _ => .none
  | .home _ => match f with
    | .homed found => some found
    | _ => .none
  | .setTiltCurve _ | .setTowerCurve _ | .moveRelative .. | .moveAbsolute .. | .wait _ => match f with
    | .none => some ()
    | _ => .none

end LayerSeparation
