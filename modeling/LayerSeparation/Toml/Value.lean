import LayerSeparation.Toml.Moment
import LayerSeparation.Toml.Number
import LayerSeparation.Toml.Tree

/-! Values. Arrays and inline tables may be nested up to a fixed depth. -/
namespace LayerSeparation.Toml

open Reader

def endsWord (c : Char) : Bool :=
  isGap c || c == '\n' || c == '\r' || c == ',' || c == ']' || c == '}' || c == '#'

/-- A word. A time may follow its date after a space. -/
def word : Reader (List Char) := do
  let first ← takeWhile (!endsWord ·)
  if isDate first then
    fun
    | ' ' :: c :: rest =>
      if c.isDigit then
        let (time, rest) := (c :: rest).span (!endsWord ·)
        some (first ++ ' ' :: time, rest)
      else some (first, ' ' :: c :: rest)
    | cs => some (first, cs)
  else return first

def ofWord? (cs : List Char) : Option Datum :=
  if cs = "true".toList then some (.bool true)
  else if cs = "false".toList then some (.bool false)
  else if isMoment cs then some (.moment (String.ofList cs))
  else number? cs

def array (item : Reader Datum) : Reader Datum := do
  expect "["
  let items ← many do
    filler
    if (← peek) = some ']' then return none
    let d ← item
    filler
    unless ← accept "," do
      guard ((← peek) = some ']')
    return some d
  expect "]"
  return .list items

def assignment (value : Reader Datum) : Reader (Key × Datum) := do
  let k ← key
  gap
  expect "="
  gap
  return (k, ← value)

def inlineTable (value : Reader Datum) : Reader Datum := do
  expect "\x7b"
  gap
  if ← accept "\x7d" then return .record []
  let first ← assignment value
  let later ← many do
    gap
    if ← accept "," then
      gap
      some <$> assignment value
    else return none
  expect "\x7d"
  match (first :: later).foldlM (fun t (k, d) => Table.assign t k d) [] with
  | some t => return Table.datum t
  | none => failure

def value : (depth : Nat) → Reader Datum
  | 0 => plain
  | depth + 1 => do
    match ← peek with
    | some '[' => array (value depth)
    | some '\x7b' => inlineTable (value depth)
    | _ => plain
where
  plain : Reader Datum := do
    match ← peek with
    | some '"' | some '\'' => return .text (← string)
    | _ =>
      match ofWord? (← word) with
      | some d => return d
      | none => failure

end LayerSeparation.Toml
