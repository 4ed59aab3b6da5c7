import LayerSeparation.Profile.Error
import LayerSeparation.Separation.Command
import LayerSeparation.Separation.Phase

/-! The ways in which a layer separation can fail. A profile error is raised before any motion and
belongs to the idle phase. -/
namespace LayerSeparation

inductive SeparationError where
  | unknownProfile (e : ProfileError)
  | invalidProfile (e : ProfileError)
  | tiltStallUnrecoverable (phase : Phase) (attempts : UInt8)
  | axisCommandFailure (axis : Axis) (phase : Phase) (error : AxisError)
  | cancelled (phase : Phase)
  deriving DecidableEq, Repr

namespace SeparationError

def ofProfileError (e : ProfileError) : SeparationError :=
  if e.isUnknownProfile then .unknownProfile e else .invalidProfile e

def axis : SeparationError → Option Axis
  | .unknownProfile (.unknownProfile a _) => some a
  | .unknownProfile _ | .invalidProfile _ => none
  | .tiltStallUnrecoverable .. => some .tilt
  | .axisCommandFailure a .. => some a
  | .cancelled _ => none

def phase : SeparationError → Phase
  | .unknownProfile _ | .invalidProfile _ => .idle
  | .tiltStallUnrecoverable p _ => p
  | .axisCommandFailure _ p _ => p
  | .cancelled p => p

def message : SeparationError → String
  | .unknownProfile e => e.message
  | .invalidProfile e => e.message
  | .tiltStallUnrecoverable p attempts =>
    s!"tilt stall not resolved after {attempts} homing attempts ({p.text})"
  | .axisCommandFailure a p e => s!"{a.name} command failed during {p.text}: {e.message}"
  | .cancelled p => s!"separation cancelled during {p.text}"

end SeparationError
end LayerSeparation
