import LayerSeparation.Profile.Error
import LayerSeparation.Text.Quoted

/-! What can be wrong with settings. Text that is not in the format of its file, or does not have the
fields that the file must have, is told from settings that are readable but cannot be used. -/
namespace LayerSeparation

inductive ReadFailure where
  | notFound
  | invalidText
  deriving DecidableEq, Repr

def ReadFailure.text : ReadFailure → String
  | .notFound => "no such file"
  | .invalidText => "not valid UTF-8"

inductive ConfigError where
  | unreadable (path : String) (cause : ReadFailure)
  /-- Not a profile file: its syntax, a key or the type of a value is wrong. -/
  | malformed
  | profile (e : ProfileError)
  | missingField (sectionName field : String)
  | unknownReference (kind reference : String)
  | conflict (sectionName first second : String)
  /-- A line that is not an assignment. Lines are counted from one. -/
  | badLine (number : Nat) (content : List Char)
  deriving DecidableEq, Repr

namespace ConfigError

def isUnknownProfile : ConfigError → Bool
  | .profile e => e.isUnknownProfile
  | .unknownReference .. => true
  | _ => false

def message : ConfigError → String
  | .unreadable path cause => s!"failed to read {path}: {cause.text}"
  | .malformed => "invalid profile file"
  | .profile e => e.message
  | .missingField name field => s!"[{name}] is missing `{field}`"
  | .unknownReference kind reference => s!"unknown {kind} {reference}"
  | .conflict name first second => s!"[{name}] sets both `{first}` and `{second}`"
  | .badLine number content =>
    s!"line {number}: expected `key = value`, got " ++ String.ofList (Text.quoted content)

end ConfigError

/-- A profile error met while settings are read is reported as it is. -/
instance : MonadLift (Except ProfileError) (Except ConfigError) where
  monadLift r := r.mapError .profile

theorem lift_eq_ok_iff {α : Type} {x : Except ProfileError α} {a : α} :
    (liftM x : Except ConfigError α) = .ok a ↔ x = .ok a := by
  cases x with
  | error e => exact ⟨nofun, nofun⟩
  | ok b => exact ⟨fun h => by cases h; rfl, fun h => by cases h; rfl⟩

end LayerSeparation
