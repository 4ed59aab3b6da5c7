import LayerSeparation.Toml.Value

/-! Documents: lines that are headers or assignments. A document is a record in which an entry stands
where its key or the header of its table was met first. -/
namespace LayerSeparation.Toml

open Reader

inductive Statement where
  | assign (key : Key) (d : Datum)
  | openTable (key : Key)
  | openElement (key : Key)

def header (closing : String) : Reader Key := do
  gap
  let k ← key
  gap
  expect closing
  return k

def line : Reader (Option Statement) := do
  if ← accept "[[" then return some (.openElement (← header "]]"))
  if ← accept "[" then return some (.openTable (← header "]"))
  match ← peek with
  | none | some '\n' | some '\r' | some '#' => return none
  | _ =>
    let (k, d) ← assignment (value depthLimit)
    return some (.assign k d)

def lines : Reader (List (Option Statement)) := many do
  gap
  if (← peek) = none then return none
  let statement ← line
  lineEnd
  return some statement

/-- The tables read so far, and the path of the header that assignments belong to. -/
structure Draft where
  root : Table := []
  current : List String := []

def Draft.add (d : Draft) : Statement → Option Draft
  | .assign key x => do
    return { d with root := ← d.root.below (fun t => Table.assign t key x) d.current }
  | .openTable key => do
    return ⟨← d.root.openTable key, key.path ++ [key.name]⟩
  | .openElement key => do
    return ⟨← d.root.openElement key, key.path ++ [key.name]⟩

def byteOrderMark : Char := '\ufeff'

def document? (text : String) : Option Datum := do
  let cs := match text.toList with
    | c :: rest => if c = byteOrderMark then rest else c :: rest
    | [] => []
  let statements ← whole? lines cs
  let d ← (statements.filterMap id).foldlM Draft.add {}
  return d.root.datum

end LayerSeparation.Toml
