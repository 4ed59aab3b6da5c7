import LayerSeparation.Text.Digits

/-! Dates and times. They have no use in settings, and only their form is checked. -/
namespace LayerSeparation.Toml

def twoDigits? (lo hi : Nat) (cs : List Char) : Option Nat := do
  if cs.length ≠ 2 then failure
  let n ← Text.natural? 10 cs
  if lo ≤ n ∧ n ≤ hi then some n else none

def daysIn (year month : Nat) : Nat :=
  match month with
  | 2 => if year % 4 = 0 ∧ (year % 100 ≠ 0 ∨ year % 400 = 0) then 29 else 28
  | 4 | 6 | 9 | 11 => 30
  | _ => 31

def isDate (cs : List Char) : Bool :=
  match cs with
  | [a, b, c, d, '-', e, f, '-', g, h] => Option.isSome do
    let year ← Text.natural? 10 [a, b, c, d]
    let month ← twoDigits? 1 12 [e, f]
    twoDigits? 1 (daysIn year month) [g, h]
  | _ => false

/-- Hours, minutes and seconds, and a fraction of a second if it is given. A minute may have a leap
second. -/
def isTime (cs : List Char) : Bool :=
  match cs with
  | a :: b :: ':' :: c :: d :: ':' :: e :: f :: fraction =>
    (twoDigits? 0 23 [a, b]).isSome && (twoDigits? 0 59 [c, d]).isSome &&
      (twoDigits? 0 60 [e, f]).isSome &&
      match fraction with
      | [] => true
      | '.' :: ds => (Text.natural? 10 ds).isSome
      | _ => false
  | _ => false

def isOffset (cs : List Char) : Bool :=
  match cs with
  | ['Z'] | ['z'] => true
  | sign :: a :: b :: ':' :: c :: [d] =>
    (sign == '+' || sign == '-') && (twoDigits? 0 23 [a, b]).isSome &&
      (twoDigits? 0 59 [c, d]).isSome
  | _ => false

def isMoment (cs : List Char) : Bool :=
  isDate cs || isTime cs ||
    match cs.drop 10 with
    | c :: rest =>
      let (time, offset) := rest.span fun c => c.isDigit || c == ':' || c == '.'
      isDate (cs.take 10) && (c == 'T' || c == 't' || c == ' ') && isTime time &&
        (offset.isEmpty || isOffset offset)
    | [] => false

end LayerSeparation.Toml
