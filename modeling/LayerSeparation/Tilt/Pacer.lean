import LayerSeparation.Tilt.Split

/-! The steps of a split, counted off one at a time. Every counter and every length is a word, and what does
not fit into its word stops the count. That it never does, and that the steps are those of the split, is not
assumed here. -/
namespace LayerSeparation

open Width (int32? uint8?)

structure Pacer where
  distance : Int32
  perMove : Int32
  moves : UInt8
  issued : UInt8
  delayMs : UInt32
  waitPending : Bool
  deriving DecidableEq, Repr

namespace Pacer

def quotient? (a : Int32) (b : Int) : Option Int32 :=
  if b = 0 then none else int32? (a.toInt.tdiv b)

/-- Without cycles there is one move, and the delay is not kept. -/
def new? (distance : Int32) (cycles : UInt8) (delayMs : UInt32) : Option Pacer := do
  let moves := if cycles = 0 then 1 else cycles
  return {
    distance
    perMove := ← quotient? distance moves.toNat
    moves
    issued := 0
    delayMs := if cycles = 0 then 0 else delayMs
    waitPending := false }

def isFinished (s : Pacer) : Bool := s.moves ≤ s.issued && !s.waitPending

/-- The last move takes the remainder with it. -/
def moveLen? (s : Pacer) (index : UInt8) : Option Int32 := do
  let following ← uint8? (index.toNat + 1)
  if following = s.moves then
    let others ← int32? (s.moves.toNat - 1)
    let covered ← int32? (s.perMove.toInt * others.toInt)
    int32? (s.distance.toInt - covered.toInt)
  else return s.perMove

/-- The next step, if there is one, and the count after it. A pause is due between two moves and nowhere
else. -/
def next? (s : Pacer) : Option (Option SplitStep × Pacer) :=
  if s.waitPending then some (some (.wait s.delayMs), { s with waitPending := false })
  else if s.moves ≤ s.issued then some (none, s)
  else do
    let steps ← s.moveLen? s.issued
    let issued ← uint8? (s.issued.toNat + 1)
    return (some (.move steps), { s with issued, waitPending := issued < s.moves && 0 < s.delayMs })

def calls? : Nat → Pacer → Option (List (Option SplitStep) × Pacer)
  | 0, s => some ([], s)
  | n + 1, s => do
    let (step, t) ← s.next?
    let (steps, u) ← calls? n t
    return (step :: steps, u)

end Pacer
end LayerSeparation
