import LayerSeparation.Width

/-! Structured data between a text format and the types of this library: a value is read from it
field by field. A field is looked up by its name in a record and by its place in a list, so a list
of the fields in order stands for the record. -/
namespace LayerSeparation

inductive Datum where
  | null
  | bool (b : Bool)
  | integer (n : Int)
  | float (x : Float)
  /-- A number too great to be kept. -/
  | oversized
  | text (s : String)
  | moment (s : String)
  | list (items : List Datum)
  | record (fields : List (String × Datum))
  deriving Inhabited

namespace Datum

mutual

def isKept : Datum → Bool
  | .oversized => false
  | .list items => itemsKept items
  | .record fields => fieldsKept fields
  | _ => true

def itemsKept : List Datum → Bool
  | [] => true
  | d :: rest => d.isKept && itemsKept rest

def fieldsKept : List (String × Datum) → Bool
  | [] => true
  | (_, d) :: rest => d.isKept && fieldsKept rest

end

def bool? : Datum → Option Bool
  | .bool b => some b
  | _ => none

def text? : Datum → Option String
  | .text s => some s
  | _ => none

def word? {α : Type} (narrow : Int → Option α) : Datum → Option α
  | .integer n => narrow n
  | _ => none

/-- A single precision number, rounded once from a fraction and once from a whole number that has
at most 64 bits. -/
def single? : Datum → Option Float32
  | .float x => some x.toFloat32
  | .integer n =>
    if -0x8000000000000000 ≤ n ∧ n < 0x10000000000000000 then some (Float32.ofInt n) else none
  | _ => none

def option? {α : Type} (read : Datum → Option α) : Datum → Option (Option α)
  | .null => some none
  | d => (read d).map some

end Datum

inductive Fields where
  | named (fields : List (String × Datum))
  | listed (items : List Datum)

abbrev FieldReader (α : Type) := StateT Fields Option α

namespace FieldReader
variable {α : Type}

/-- The field of this name, or the first one that is left. `absent` is the value of a field that a
record lacks, `cut` that of one that a list is too short for. -/
def field (name : String) (read : Datum → Option α) (absent cut : Option α) : FieldReader α
  | .named fields =>
    match fields.lookup name with
    | some d => (read d).map (·, .named fields)
    | none => absent.map (·, .named fields)
  | .listed (d :: rest) => (read d).map (·, .listed rest)
  | .listed [] => cut.map (·, .listed [])

def required (name : String) (read : Datum → Option α) : FieldReader α :=
  field name read none none

def defaulted (name : String) (default : α) (read : Datum → Option α) : FieldReader α :=
  field name read (some default) (some default)

/-- A field that a record may leave out but a list may not. -/
def optional (name : String) (read : Datum → Option α) : FieldReader (Option α) :=
  field name (Datum.option? read) (some none) none

def exact (r : FieldReader α) : Datum → Option α
  | .record fields => (r (.named fields)).map (·.1)
  | .list items =>
    match r (.listed items) with
    | some (a, .listed []) => some a
    | _ => none
  | _ => none

/-- Reads a record, whatever else it holds as long as its numbers are kept, or a list that begins
with the fields. -/
def leading (r : FieldReader α) : Datum → Option α
  | .record fields =>
    if Datum.fieldsKept fields then (r (.named fields)).map (·.1) else none
  | .list items => (r (.listed items)).map (·.1)
  | _ => none

def closed (keys : List String) (r : FieldReader α) : Datum → Option α
  | .record fields =>
    if fields.all (fun f => keys.contains f.1) then (r (.named fields)).map (·.1) else none
  | .list items => (r (.listed items)).map (·.1)
  | _ => none

end FieldReader
end LayerSeparation
