import LayerSeparation.Width

/-! Simulated time. The clock advances only when something waits on it. Time is counted in
nanoseconds in a 64 bit word and stops at the end of its range; requested waits are kept for
inspection up to a limit that has no effect on time. -/
namespace LayerSeparation

structure SimClock where
  nowNs : UInt64 := 0
  waits : List UInt32 := []
  deriving DecidableEq, Repr

namespace SimClock

def waitsLength : Nat := 64
def nsPerMs : Nat := 1000000

def advanceNs (c : SimClock) (ns : Nat) : SimClock :=
  { c with nowNs := Width.sumUInt64 c.nowNs ns }

/-- Time passes without a wait. -/
def advanceMs (c : SimClock) (ms : UInt32) : SimClock := c.advanceNs (ms.toNat * nsPerMs)

def nowMs (c : SimClock) : UInt64 := UInt64.ofNat (c.nowNs.toNat / nsPerMs)

def delayNs (c : SimClock) (ns : UInt32) : SimClock := c.advanceNs ns.toNat

def delayUs (c : SimClock) (us : UInt32) : SimClock := c.advanceNs (us.toNat * 1000)

/-- The only delay that is kept as a wait. -/
def delayMs (c : SimClock) (ms : UInt32) : SimClock :=
  { c with waits := (c.waits ++ [ms]).take waitsLength }.advanceMs ms

def totalWaitMs (c : SimClock) : Nat := c.waits.foldr (fun w n => w.toNat + n) 0

def clearWaits (c : SimClock) : SimClock := { c with waits := [] }

theorem toNat_nowMs (c : SimClock) : c.nowMs.toNat = c.nowNs.toNat / nsPerMs := by
  have range := c.nowNs.toNat_lt
  rw [nowMs, UInt64.toNat_ofNat_of_lt']
  exact Nat.lt_of_le_of_lt (Nat.div_le_self _ _) range

/- Whole milliseconds are shown as they pass, wherever the clock started. -/
theorem toNat_nowMs_add {c d : SimClock} {ms : Nat}
    (passed : d.nowNs.toNat = c.nowNs.toNat + ms * nsPerMs) :
    d.nowMs.toNat = c.nowMs.toNat + ms := by
  rw [toNat_nowMs, toNat_nowMs, passed]
  exact Nat.add_mul_div_right _ _ (by decide)

end SimClock
end LayerSeparation
