import LayerSeparation.Text.CharClass

/-! White space, and text taken apart at it. -/
namespace LayerSeparation.Text

def whiteSpace : CharClass where
  ranges := [(9, 13), (32, 32), (0x85, 0x85), (0xa0, 0xa0), (0x1680, 0x1680), (0x2000, 0x200a),
    (0x2028, 0x2029), (0x202f, 0x202f), (0x205f, 0x205f), (0x3000, 0x3000)]

def isBlank (c : Char) : Bool := whiteSpace.contains c

def strip (p : Char → Bool) (cs : List Char) : List Char :=
  ((cs.dropWhile p).reverse.dropWhile p).reverse

def trim (cs : List Char) : List Char := strip isBlank cs

/-- The pieces between the characters of a class: one more than there are such characters. -/
def pieces (p : Char → Bool) : List Char → List (List Char)
  | [] => [[]]
  | c :: rest =>
    match p c, pieces p rest with
    | true, tail => [] :: tail
    | false, [] => [[c]]
    | false, piece :: tail => (c :: piece) :: tail

def words (cs : List Char) : List (List Char) := (pieces isBlank cs).filter (!·.isEmpty)

end LayerSeparation.Text
