import LayerSeparation.Datum
import LayerSeparation.Text.Blank
import LayerSeparation.Text.Digits

/-! Numbers. Underscores may stand between two digits, and a decimal number has no leading zero. An
integer of more than 128 bits and a fraction that is too great for double precision are numbers as
well, but their values are not kept. -/
namespace LayerSeparation.Toml

def ungrouped? (base : Nat) (cs : List Char) : Option (List Char) :=
  let groups := Text.pieces (· == '_') cs
  if groups.all fun g => !g.isEmpty && g.all fun c => (Text.digit? base c).isSome then
    some groups.flatten
  else none

def decimalDigits? (cs : List Char) : Option (List Char) := do
  let ds ← ungrouped? 10 cs
  if ds.head? = some '0' ∧ ds.length ≠ 1 then failure
  return ds

def signed : List Char → Bool × List Char
  | '+' :: cs => (false, cs)
  | '-' :: cs => (true, cs)
  | cs => (false, cs)

/-- An integer in one of four bases. Only a decimal one has a sign. -/
def integer? : List Char → Option Int
  | '0' :: 'x' :: ds => do Text.natural? 16 (← ungrouped? 16 ds)
  | '0' :: 'o' :: ds => do Text.natural? 8 (← ungrouped? 8 ds)
  | '0' :: 'b' :: ds => do Text.natural? 2 (← ungrouped? 2 ds)
  | cs => do
    let (negative, cs) := signed cs
    let n ← Text.natural? 10 (← decimalDigits? cs)
    return if negative then -n else n

structure Decimal where
  mantissa : Nat
  exponent : Int

/-- Finite numbers lie below ten to this power. -/
def greatestPower : Int := 309

/-- Positive numbers below ten to this power round to zero. -/
def leastPower : Int := -324

/-- The number in double precision, rounded once, if it is finite. Exponents far outside the range
are told by their size. -/
def Decimal.toFloat? (d : Decimal) : Option Float :=
  let power := d.exponent + (Nat.toDigits 10 d.mantissa).length
  if d.mantissa = 0 ∨ power < leastPower then some 0
  else if greatestPower < power then none
  else
    let x := Float.ofScientific d.mantissa (d.exponent < 0) d.exponent.natAbs
    if x.isFinite then some x else none

def splitBefore (p : Char → Bool) (cs : List Char) : List Char × List Char := cs.span (!p ·)

def decimal? (cs : List Char) : Option Decimal := do
  let (number, power) := splitBefore (fun c => c == 'e' || c == 'E') cs
  let (whole, fraction) := splitBefore (· == '.') number
  guard (!power.isEmpty || !fraction.isEmpty)
  let whole ← decimalDigits? whole
  let fraction ← if fraction.isEmpty then some [] else ungrouped? 10 (fraction.drop 1)
  let exponent : Int ← if power.isEmpty then pure 0 else do
    let (negative, ds) := signed (power.drop 1)
    let n ← Text.natural? 10 (← ungrouped? 10 ds)
    pure (if negative then -(n : Int) else n)
  return ⟨← Text.natural? 10 (whole ++ fraction), exponent - fraction.length⟩

def fraction? (cs : List Char) : Option Datum := do
  let (negative, cs) := signed cs
  let x ← match cs with
    | ['i', 'n', 'f'] => pure (some (1 / 0))
    | ['n', 'a', 'n'] => pure (some (0 / 0))
    | cs => Decimal.toFloat? <$> decimal? cs
  match x with
  | some x => return .float (if negative then -x else x)
  | none => return .oversized

def fitsWord (n : Int) : Bool :=
  -0x80000000000000000000000000000000 ≤ n && n ≤ 0xffffffffffffffffffffffffffffffff

def number? (cs : List Char) : Option Datum :=
  match integer? cs with
  | some n => some (if fitsWord n then .integer n else .oversized)
  | none => fraction? cs

end LayerSeparation.Toml
