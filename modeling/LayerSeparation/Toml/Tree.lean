import LayerSeparation.Datum
import LayerSeparation.Toml.Text

/-! Tables while a document is read. A table can be opened by its own header once. Keys with dots can
add only to tables that such keys made, which they may reach through other tables on the way of a
header and through the last of a list of tables. Nothing can be added to a value. -/
namespace LayerSeparation.Toml

inductive Origin where
  | header
  | passed
  | dotted
  deriving DecidableEq

inductive Node where
  | value (d : Datum)
  | table (origin : Origin) (entries : List (String × Node))
  /-- A list of tables, of which only the last is open. -/
  | tables (closed : List Datum) (last : List (String × Node))

abbrev Table := List (String × Node)

mutual

def Node.datum : Node → Datum
  | .value d => d
  | .table _ entries => .record (Table.data entries)
  | .tables closed last => .list (closed ++ [.record (Table.data last)])

def Table.data : List (String × Node) → List (String × Datum)
  | [] => []
  | (key, node) :: rest => (key, node.datum) :: Table.data rest

end

namespace Table

def datum (t : Table) : Datum := .record (data t)

/-- Changes the entry of a key, or adds one. A change that is refused refuses the whole. -/
def alter (key : String) (change : Option Node → Option Node) : Table → Option Table
  | [] => (change none).map fun node => [(key, node)]
  | (k, node) :: rest =>
    if k = key then (change (some node)).map fun node => (k, node) :: rest
    else (alter key change rest).map ((k, node) :: ·)

def below (change : Table → Option Table) : List String → Table → Option Table
  | [], t => change t
  | key :: path, t => t.alter key fun
    | none => (below change path []).map (.table .passed)
    | some (.table origin entries) => (below change path entries).map (.table origin)
    | some (.tables closed last) => (below change path last).map (.tables closed)
    | some (.value _) => none

def belowDots (change : Table → Option Table) : List String → Table → Option Table
  | [], t => change t
  | key :: path, t => t.alter key fun
    | none => (belowDots change path []).map (.table .dotted)
    | some (.table origin entries) =>
      if origin = .dotted ∨ origin = .passed ∧ path ≠ [] then
        (belowDots change path entries).map (.table origin)
      else none
    | some (.tables closed last) =>
      if path ≠ [] then (belowDots change path last).map (.tables closed) else none
    | some (.value _) => none

def assign (t : Table) (key : Key) (d : Datum) : Option Table :=
  t.belowDots (alter key.name fun
    | none => some (.value d)
    | some _ => none) key.path

def openTable (t : Table) (key : Key) : Option Table :=
  t.below (alter key.name fun
    | none => some (.table .header [])
    | some (.table .passed entries) => some (.table .header entries)
    | some _ => none) key.path

def openElement (t : Table) (key : Key) : Option Table :=
  t.below (alter key.name fun
    | none => some (.tables [] [])
    | some (.tables closed last) => some (.tables (closed ++ [datum last]) [])
    | some _ => none) key.path

end Table
end LayerSeparation.Toml
