/-! Reading a text from the left. A reader takes a value off the front or refuses the whole text. -/
namespace LayerSeparation.Toml

abbrev Reader := StateT (List Char) Option

namespace Reader
variable {α : Type}

def peek : Reader (Option Char) := fun cs => some (cs.head?, cs)

def take (n : Nat) : Reader (List Char) := fun cs =>
  if n ≤ cs.length then some (cs.take n, cs.drop n) else none

def takeWhile (p : Char → Bool) : Reader (List Char) := fun cs => some (cs.span p)

def accept (s : String) : Reader Bool := fun cs =>
  if s.toList.isPrefixOf cs then some (true, cs.drop s.toList.length) else some (false, cs)

def expect (s : String) : Reader Unit := do
  guard (← accept s)

/-- Reads items until there is none. An item that takes nothing off the text is refused, since it
would come again without end. -/
def many (item : Reader (Option α)) (cs : List Char) : Option (List α × List Char) :=
  match item cs with
  | none => none
  | some (none, rest) => some ([], rest)
  | some (some a, rest) =>
    if _shorter : rest.length < cs.length then
      match many item rest with
      | some (items, rest) => some (a :: items, rest)
      | none => none
    else none
termination_by cs.length

def whole? (r : Reader α) (cs : List Char) : Option α :=
  match r cs with
  | some (a, []) => some a
  | _ => none

end Reader

def isGap (c : Char) : Bool := c == ' ' || c == '\t'

/-- A character that a comment or a string may hold as it is: a tab or no control character. -/
def isPlain (c : Char) : Bool := c == '\t' || (' ' ≤ c && c != '\x7f')

open Reader

def gap : Reader Unit := do
  let _ ← takeWhile isGap

def newline : Reader Bool := do
  if ← accept "\n" then return true else accept "\r\n"

def comment : Reader Unit := do
  if ← accept "#" then
    let _ ← takeWhile isPlain

def lineEnd : Reader Unit := do
  gap
  comment
  unless ← newline do
    guard ((← peek) = none)

def filler : Reader Unit := do
  let _ ← many do
    gap
    comment
    if ← newline then return some () else return none

end LayerSeparation.Toml
