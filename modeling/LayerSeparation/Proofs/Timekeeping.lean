import LayerSeparation.Proofs.BoundedRecord
import LayerSeparation.Simulation.Clock
import Mathlib.Algebra.Ring.Nat

/-! Simulated time. However time is made to pass, and in whatever order, the clock shows the exact sum of what was
requested, up to the end of its range. What is kept of the waits has no part in it. -/
namespace LayerSeparation

/-- Waiting goes through the clock itself or through a reference that is shared. -/
inductive ClockHandle where
  | owned
  | shared
  deriving DecidableEq, Repr

inductive ClockOperation where
  | delayNs (handle : ClockHandle) (ns : UInt32)
  | delayUs (handle : ClockHandle) (us : UInt32)
  | delayMs (handle : ClockHandle) (ms : UInt32)
  | advanceMs (ms : UInt32)
  | clearWaits
  deriving DecidableEq, Repr

namespace ClockOperation

def requested? : ClockOperation → Option Nat
  | .delayNs _ ns => some ns.toNat
  | .delayUs _ us => some (us.toNat * 1000)
  | .delayMs _ ms => some (ms.toNat * SimClock.nsPerMs)
  | .advanceMs ms => some (ms.toNat * SimClock.nsPerMs)
  | .clearWaits => none

def wait? : ClockOperation → Option UInt32
  | .delayMs _ ms => some ms
  | _ => none

def clears (o : ClockOperation) : Bool := o = .clearWaits

end ClockOperation

def requests (operations : List ClockOperation) : List Nat := operations.filterMap ClockOperation.requested?

def waitsOf (operations : List ClockOperation) : List UInt32 :=
  boundedRecord SimClock.waitsLength ClockOperation.clears ClockOperation.wait? operations

/-- Delays of microseconds are split into delays of nanoseconds without loss. -/
def Splits (parts : UInt32 → List UInt32) : Prop := ∀ us, ((parts us).map UInt32.toNat).sum = us.toNat * 1000

namespace SimClock
variable {parts : UInt32 → List UInt32} {c : SimClock} {operations : List ClockOperation}

def perform (parts : UInt32 → List UInt32) (c : SimClock) : ClockOperation → SimClock
  | .delayNs _ ns => c.delayNs ns
  | .delayUs _ us => (parts us).foldl delayNs c
  | .delayMs _ ms => c.delayMs ms
  | .advanceMs ms => c.advanceMs ms
  | .clearWaits => c.clearWaits

def after (parts : UInt32 → List UInt32) (c : SimClock) (operations : List ClockOperation) : SimClock :=
  operations.foldl (perform parts) c

theorem after_append (parts : UInt32 → List UInt32) (c : SimClock) (operations more : List ClockOperation) :
    c.after parts (operations ++ more) = (c.after parts operations).after parts more := List.foldl_append

def maxNs : Nat := 0xffffffffffffffff

theorem toNat_nowNs_le (c : SimClock) : c.nowNs.toNat ≤ maxNs := by
  have range := c.nowNs.toNat_lt
  unfold maxNs
  omega

theorem waits_advanceNs (c : SimClock) (ns : Nat) : (c.advanceNs ns).waits = c.waits := rfl

theorem toNat_nowNs_advanceNs (c : SimClock) (ns : Nat) :
    (c.advanceNs ns).nowNs.toNat = min (c.nowNs.toNat + ns) maxNs := Width.toNat_sumUInt64 _ _

/- The waits are the same on both sides, so that two clocks are compared by their time alone. -/
theorem advanceNs_zero (c : SimClock) : c.advanceNs 0 = c := by
  have same : (c.advanceNs 0).nowNs = c.nowNs := by
    rw [← UInt64.toNat_inj, toNat_nowNs_advanceNs]
    exact Nat.min_eq_left (toNat_nowNs_le c)
  exact congrArg (fun nowNs => { c with nowNs }) same

/-- Time that passes in two goes passes in one, also where the clock stops between them. -/
theorem advanceNs_advanceNs (c : SimClock) (m n : Nat) : (c.advanceNs m).advanceNs n = c.advanceNs (m + n) := by
  have same : ((c.advanceNs m).advanceNs n).nowNs = (c.advanceNs (m + n)).nowNs := by
    rw [← UInt64.toNat_inj, toNat_nowNs_advanceNs, toNat_nowNs_advanceNs, toNat_nowNs_advanceNs]
    omega
  exact congrArg (fun nowNs => { c with nowNs }) same

theorem foldl_delayNs (c : SimClock) (ns : List UInt32) :
    ns.foldl delayNs c = c.advanceNs (ns.map UInt32.toNat).sum := by
  induction ns generalizing c with
  | nil => exact (advanceNs_zero c).symm
  | cons n rest ih => rw [List.foldl_cons, ih, delayNs, advanceNs_advanceNs, List.map_cons, List.sum_cons]

theorem foldl_delayNs_parts (split : Splits parts) (c : SimClock) (us : UInt32) :
    (parts us).foldl delayNs c = c.delayUs us := by
  rw [foldl_delayNs, split, delayUs]

theorem nowNs_perform (split : Splits parts) (c : SimClock) (o : ClockOperation) :
    (c.perform parts o).nowNs = (c.advanceNs (o.requested?.getD 0)).nowNs := by
  cases o with
  | delayUs _ us => rw [perform, foldl_delayNs_parts split]; rfl
  | clearWaits =>
    have still : (c.advanceNs 0).nowNs = c.nowNs := congrArg nowNs (advanceNs_zero c)
    exact still.symm
  | _ => rfl

/-- The sum of what is requested is cut off once, however often the clock cuts it off on the way. -/
theorem toNat_nowNs_after (split : Splits parts) (c : SimClock) (operations : List ClockOperation) :
    (c.after parts operations).nowNs.toNat = min (c.nowNs.toNat + (requests operations).sum) maxNs := by
  induction operations generalizing c with
  | nil => exact (Nat.min_eq_left (toNat_nowNs_le c)).symm
  | cons o rest ih =>
    have next : (requests (o :: rest)).sum = o.requested?.getD 0 + (requests rest).sum := by
      cases there : o.requested? with
      | none => rw [requests, List.filterMap_cons_none there]; exact (Nat.zero_add _).symm
      | some ns => rw [requests, List.filterMap_cons_some there]; exact List.sum_cons
    rw [after, List.foldl_cons, ← after, ih, nowNs_perform split, toNat_nowNs_advanceNs, next]
    omega

theorem waits_after (parts : UInt32 → List UInt32) (operations : List ClockOperation) :
    (after parts {} operations).waits = waitsOf operations := by
  -- what is on record depends on the last clearing, so operations are taken off the end
  induction operations using List.reverseRecOn with
  | nil => rfl
  | append_singleton operations o ih =>
    rw [after_append, after, List.foldl_cons, List.foldl_nil]
    cases o with
    | delayNs _ ns =>
      rw [perform, delayNs, waits_advanceNs]
      exact ih.trans (boundedRecord_skip rfl rfl).symm
    | delayUs _ us =>
      rw [perform, foldl_delayNs, waits_advanceNs]
      exact ih.trans (boundedRecord_skip rfl rfl).symm
    | delayMs handle ms =>
      have entered : (ClockOperation.delayMs handle ms).wait? = some ms := rfl
      rw [waitsOf, boundedRecord_entry (by rfl) entered, ← waitsOf, ← ih, perform, delayMs, advanceMs,
        waits_advanceNs]
    | advanceMs ms =>
      rw [perform, advanceMs, waits_advanceNs]
      exact ih.trans (boundedRecord_skip rfl rfl).symm
    | clearWaits => exact (boundedRecord_clear rfl).symm

theorem totalWaitMs_eq (c : SimClock) : c.totalWaitMs = (c.waits.map UInt32.toNat).sum := by
  rw [totalWaitMs, List.sum, List.foldr_map]

theorem sum_toNat_le (ws : List UInt32) : (ws.map UInt32.toNat).sum ≤ ws.length * 0xffffffff := by
  induction ws with
  | nil => exact Nat.le_refl 0
  | cons w rest ih =>
    have range := w.toNat_lt
    rw [List.map_cons, List.sum_cons, List.length_cons]
    omega

/-- What a new clock shows after operations in any order, if delays of microseconds are carried out in parts. -/
structure TimeLaw (parts : UInt32 → List UInt32) (operations : List ClockOperation) : Prop where
  shown : (after parts {} operations).nowMs.toNat = min maxNs (requests operations).sum / nsPerMs
  /-- Neither the order nor the handle matters, nor is anything changed by clearing the record. -/
  order : ∀ others, (requests others).Perm (requests operations) →
    (after parts {} others).nowMs = (after parts {} operations).nowMs
  later : ∀ more, (after parts {} operations).nowMs ≤ (after parts {} (operations ++ more)).nowMs
  waits : (after parts {} operations).waits = waitsOf operations
  total : (after parts {} operations).totalWaitMs =
    ((after parts {} operations).waits.map UInt32.toNat).sum ∧ (after parts {} operations).totalWaitMs < 2 ^ 64

/-- Time is simulated as it is requested, for every way to split microseconds and every list of operations. -/
theorem time_law (split : Splits parts) (operations : List ClockOperation) : TimeLaw parts operations := by
  have shown := fun others => toNat_nowNs_after split {} others
  simp only [UInt64.toNat_zero, Nat.zero_add] at shown
  constructor
  case shown => rw [toNat_nowMs, shown, Nat.min_comm]
  case order =>
    intro others reordered
    rw [← UInt64.toNat_inj, toNat_nowMs, toNat_nowMs, shown, shown, reordered.sum_nat]
  case later =>
    intro more
    have passed := toNat_nowNs_after split (after parts {} operations) more
    have range := toNat_nowNs_le (after parts {} operations)
    rw [UInt64.le_iff_toNat_le, toNat_nowMs, toNat_nowMs, after_append, passed]
    exact Nat.div_le_div_right (by omega)
  case waits => exact waits_after parts operations
  case total =>
    have few : (after parts {} operations).waits.length ≤ 64 := by
      rw [waits_after parts]
      exact length_boundedRecord_le
    have bounded := sum_toNat_le (after parts {} operations).waits
    rw [totalWaitMs_eq]
    omega

def maxUs : Nat := 4294967

/-- As long as more is left than fits into a delay of nanoseconds, the longest delay; then what is left. -/
def longestFirst (us : UInt32) : List UInt32 :=
  let whole := (us.toNat - 1) / maxUs
  List.replicate whole (UInt32.ofNat (maxUs * 1000)) ++ [UInt32.ofNat ((us.toNat - whole * maxUs) * 1000)]

theorem splits_longestFirst : Splits longestFirst := by
  intro us
  have range := us.toNat_lt
  have full : (UInt32.ofNat (maxUs * 1000)).toNat = maxUs * 1000 := by decide
  rw [longestFirst]
  generalize whole_eq : (us.toNat - 1) / maxUs = whole
  unfold maxUs at *
  have left : (UInt32.ofNat ((us.toNat - whole * 4294967) * 1000)).toNat =
      (us.toNat - whole * 4294967) * 1000 := by
    rw [UInt32.toNat_ofNat_of_lt']
    simp only [UInt32.size]
    omega
  rw [List.map_append, List.map_replicate, List.map_singleton, full, left, List.sum_append, List.sum_replicate_nat,
    List.sum_singleton]
  omega

/-- The longest delay of microseconds goes into a thousand parts and one, and its last part is no whole number of
milliseconds. The wait before the record was cleared has passed all the same. -/
theorem time_law_longest_delay : Splits longestFirst ∧
    let ended := after longestFirst {}
      [.delayMs .owned 7, .clearWaits, .delayUs .shared 4294967295, .delayNs .owned 705000, .delayMs .shared 1]
    ended.nowMs.toNat = 4294976 ∧ ended.waits = [1] :=
  have law := time_law splits_longestFirst
    [.delayMs .owned 7, .clearWaits, .delayUs .shared 4294967295, .delayNs .owned 705000, .delayMs .shared 1]
  ⟨splits_longestFirst, law.shown.trans (by decide), law.waits.trans (by decide)⟩

end SimClock
end LayerSeparation
