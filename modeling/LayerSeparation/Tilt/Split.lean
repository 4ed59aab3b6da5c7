import LayerSeparation.Width

/-! Splitting one stretch of tilt travel into parts with pauses between them, which keeps the peel
force low. The parts add up to the whole distance: all but the last are the truncated quotient and
the last takes the remainder with it. -/
namespace LayerSeparation

inductive SplitStep where
  | move (steps : Int32)
  | wait (ms : UInt32)
  deriving DecidableEq, Repr

def shares (distance : Int) (parts : Nat) : List Int :=
  let each := distance.tdiv parts
  List.replicate (parts - 1) each ++ [distance - each * ((parts - 1 : Nat) : Int)]

structure CycleSplit where
  distance : Int32
  moves : UInt8
  pending : List SplitStep
  deriving DecidableEq, Repr

namespace CycleSplit

/-- No part is longer than the whole, so every length is a word again. Without cycles there is one
move; without a delay there is no pause. -/
def new (distance : Int32) (cycles : UInt8) (delayMs : UInt32) : CycleSplit :=
  let moves := if cycles = 0 then 1 else cycles
  let parts := (shares distance.toInt moves.toNat).map fun n => SplitStep.move (Int32.ofInt n)
  { distance
    moves
    pending := if delayMs = 0 then parts else parts.intersperse (.wait delayMs) }

def next (s : CycleSplit) : Option (SplitStep × CycleSplit) :=
  match s.pending with
  | [] => none
  | step :: rest => some (step, { s with pending := rest })

def isFinished (s : CycleSplit) : Bool := s.pending.isEmpty

end CycleSplit

theorem length_shares (distance : Int) {parts : Nat} (h : 0 < parts) :
    (shares distance parts).length = parts := by
  simp [shares]
  omega

theorem total_shares (distance : Int) (parts : Nat) :
    (shares distance parts).foldr (· + ·) 0 = distance := by
  simp only [shares, List.foldr_append, List.foldr_cons, List.foldr_nil]
  generalize distance.tdiv parts = each
  suffices h : ∀ (n : Nat) (last : Int),
      (List.replicate n each).foldr (· + ·) last = last + each * n by
    rw [h]
    omega
  intro n last
  induction n with
  | zero => simp
  | succ n ih =>
    simp only [List.replicate_succ, List.foldr_cons, ih, Int.natCast_add, Int.mul_add]
    omega

/- No cycles at all count as one. -/
theorem toNat_moves (cycles : UInt8) :
    (if cycles = 0 then 1 else cycles).toNat = max cycles.toNat 1 := by
  split
  · next none => rw [none]; rfl
  · next some =>
    have positive : cycles.toNat ≠ 0 := fun e => some (UInt8.toNat_inj.mp e)
    omega

theorem length_pending_lt (distance : Int32) (cycles : UInt8) (delayMs : UInt32) :
    (CycleSplit.new distance cycles delayMs).pending.length < 2 * max cycles.toNat 1 := by
  have positive : 0 < max cycles.toNat 1 := by omega
  simp only [CycleSplit.new, toNat_moves]
  split
  · rw [List.length_map, length_shares _ positive]
    omega
  · rw [List.length_intersperse, List.length_map, length_shares _ positive]
    omega

end LayerSeparation
