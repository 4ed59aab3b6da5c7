import LayerSeparation.Profile.Id

/-! What can be wrong with a profile: a reference that names nothing, a value outside its range, a
row of the wrong length. A name is kept in a report up to 24 bytes of its encoding and is never cut
inside a character. -/
namespace LayerSeparation

def fitting : Nat → List Char → List Char
  | _, [] => []
  | room, c :: rest => if c.utf8Size ≤ room then c :: fitting (room - c.utf8Size) rest else []

def reportedNameBytes : Nat := 24

inductive ProfileRef where
  | index (i : UInt8)
  | name (kept : String)
  | moving (id : MovingProfileId)
  deriving DecidableEq, Repr

namespace ProfileRef

def ofName (s : String) : ProfileRef := .name (String.ofList (fitting reportedNameBytes s.toList))

def text : ProfileRef → String
  | .index i => s!"index {i}"
  | .name kept => s!"\"{kept}\""
  | .moving id => id.name

end ProfileRef

inductive ProfileError where
  | unknownProfile (axis : Axis) (reference : ProfileRef)
  | outOfRange (field : String) (value : Int)
  | malformedRow (count : Nat)
  deriving DecidableEq, Repr

namespace ProfileError

def unknownIndex (axis : Axis) (i : UInt8) : ProfileError := .unknownProfile axis (.index i)

def unknownName (axis : Axis) (s : String) : ProfileError := .unknownProfile axis (.ofName s)

def isUnknownProfile : ProfileError → Bool
  | .unknownProfile .. => true
  | _ => false

def message : ProfileError → String
  | .unknownProfile axis reference => s!"unknown {axis.name} profile {reference.text}"
  | .outOfRange field value => s!"profile field `{field}` out of range: {value}"
  | .malformedRow count => s!"moving profile row needs 8 values, got {count}"

end ProfileError

def checkRange (field : String) (value lo hi : Int) : Except ProfileError Unit :=
  if value < lo ∨ hi < value then .error (.outOfRange field value) else .ok ()

end LayerSeparation
