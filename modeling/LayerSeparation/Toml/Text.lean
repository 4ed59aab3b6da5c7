import LayerSeparation.Text.Digits
import LayerSeparation.Toml.Reader

/-! Strings and keys. A string stands between quotes, which are written three times if it may span
lines; only double quotes have escapes. A key is a path of bare words and strings on one line. -/
namespace LayerSeparation.Toml

open Reader

/-- A character given by `n` hexadecimal digits. Surrogates are no characters. -/
def codePoint (n : Nat) : Reader Char := do
  match Text.natural? 16 (← take n) with
  | some code => if code.isValidChar then return Char.ofNat code else failure
  | none => failure

def skippedBreak : Reader Unit := do
  gap
  guard (← newline)
  let _ ← many do
    gap
    if ← newline then return some () else return none

def escape (spansLines : Bool) : Reader (List Char) := do
  match ← peek with
  | some 'u' => return [← take 1 *> codePoint 4]
  | some 'U' => return [← take 1 *> codePoint 8]
  | some 'b' => take 1 *> pure ['\x08']
  | some 't' => take 1 *> pure ['\t']
  | some 'n' => take 1 *> pure ['\n']
  | some 'f' => take 1 *> pure ['\x0c']
  | some 'r' => take 1 *> pure ['\r']
  | some '"' => take 1 *> pure ['"']
  | some '\\' => take 1 *> pure ['\\']
  | _ =>
    guard spansLines
    skippedBreak
    return []

structure Quoting where
  quote : Char
  spansLines : Bool

def Quoting.escapes (q : Quoting) : Bool := q.quote == '"'

/-- The next part of a string, or none after the closing quotes. In a string that spans lines up to
two quotes may stand before the closing three. -/
def Quoting.part (q : Quoting) : Reader (Option (List Char)) := fun cs => do
  let c ← cs.head?
  if c = q.quote then
    let quotes := (cs.takeWhile (· == q.quote)).length
    if !q.spansLines then return (none, cs.drop 1)
    else if quotes < 3 then return (some (cs.take quotes), cs.drop quotes)
    else if quotes = 3 then return (none, cs.drop 3)
    else if quotes ≤ 5 then return (some (cs.take (quotes - 3)), cs.drop (quotes - 3))
    else failure
  else if c = '\\' ∧ q.escapes then
    (some <$> escape q.spansLines) (cs.drop 1)
  else if isPlain c then
    let (plain, rest) := cs.span fun c => isPlain c && c != q.quote && !(c == '\\' && q.escapes)
    return (some plain, rest)
  else if q.spansLines then
    let (isBreak, rest) ← newline cs
    if isBreak then return (some (cs.take (cs.length - rest.length)), rest) else failure
  else failure

def Quoting.body (q : Quoting) : Reader String := do
  let parts ← many q.part
  return String.ofList parts.flatten

/-- A line break right after the opening quotes is left out. -/
def string : Reader String := do
  if ← accept "\"\"\"" then
    let _ ← newline
    Quoting.body ⟨'"', true⟩
  else if ← accept "'''" then
    let _ ← newline
    Quoting.body ⟨'\'', true⟩
  else if ← accept "\"" then Quoting.body ⟨'"', false⟩
  else
    expect "'"
    Quoting.body ⟨'\'', false⟩

def isBare (c : Char) : Bool := c.isAlphanum || c == '_' || c == '-'

def simpleKey : Reader String := do
  if ← accept "\"" then Quoting.body ⟨'"', false⟩
  else if ← accept "'" then Quoting.body ⟨'\'', false⟩
  else
    let word ← takeWhile isBare
    guard !word.isEmpty
    return String.ofList word

structure Key where
  path : List String
  name : String

/-- How many simple keys a key may have, and how deep arrays and inline tables may be nested. -/
def depthLimit : Nat := 80

def key : Reader Key := do
  let first ← simpleKey
  let later ← many do
    gap
    if ← accept "." then
      gap
      some <$> simpleKey
    else return none
  guard (later.length < depthLimit)
  match later.getLast? with
  | some name => return ⟨first :: later.dropLast, name⟩
  | none => return ⟨[], first⟩

end LayerSeparation.Toml
