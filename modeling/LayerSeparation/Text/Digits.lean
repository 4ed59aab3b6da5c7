/-! Numbers written in digits. A letter of either case stands for a digit above nine. -/
namespace LayerSeparation.Text

/-- What one character counts for in a base of at most 36. -/
def digit? (base : Nat) (c : Char) : Option Nat :=
  let value :=
    if '0' ≤ c ∧ c ≤ '9' then c.toNat - '0'.toNat
    else if 'a' ≤ c ∧ c ≤ 'z' then c.toNat - 'a'.toNat + 10
    else if 'A' ≤ c ∧ c ≤ 'Z' then c.toNat - 'A'.toNat + 10
    else base
  if value < base then some value else none

def value (base : Nat) (ds : List Nat) : Nat := ds.foldl (fun n d => n * base + d) 0

def natural? (base : Nat) (cs : List Char) : Option Nat :=
  if cs.isEmpty then none else (cs.mapM (digit? base)).map (value base)

def integer? : List Char → Option Int
  | '+' :: ds => (natural? 10 ds).map Int.ofNat
  | '-' :: ds => (natural? 10 ds).map fun n => -Int.ofNat n
  | ds => (natural? 10 ds).map Int.ofNat

end LayerSeparation.Text
