/-! A bounded number of homing attempts. A success is a recovery whatever the budget; a failure is
final as soon as no attempt is left after it. The count of attempts stops at 255. -/
namespace LayerSeparation

inductive HomingStatus where
  | recovered (attempts : UInt8)
  | retry
  | exhausted (attempts : UInt8)
  deriving DecidableEq, Repr

structure HomingBudget where
  allowed : UInt8
  attempts : UInt8 := 0
  deriving DecidableEq, Repr

namespace HomingBudget

def remaining (b : HomingBudget) : UInt8 := UInt8.ofNat (b.allowed.toNat - b.attempts.toNat)

def isExhausted (b : HomingBudget) : Bool := b.remaining == 0

def spend (b : HomingBudget) : HomingBudget :=
  { b with attempts := UInt8.ofNat (min (b.attempts.toNat + 1) 255) }

def record (b : HomingBudget) (homed : Bool) : HomingStatus × HomingBudget :=
  let spent := b.spend
  if homed then (.recovered spent.attempts, spent)
  else if spent.isExhausted then (.exhausted spent.attempts, spent)
  else (.retry, spent)

theorem toNat_remaining (b : HomingBudget) :
    b.remaining.toNat = b.allowed.toNat - b.attempts.toNat := by
  unfold remaining
  rw [UInt8.toNat_ofNat_of_lt']
  have := b.allowed.toNat_lt
  simp only [UInt8.size]
  omega

theorem toNat_attempts_spend (b : HomingBudget) :
    b.spend.attempts.toNat = min (b.attempts.toNat + 1) 255 := by
  unfold spend
  rw [UInt8.toNat_ofNat_of_lt']
  simp only [UInt8.size]
  omega

theorem isExhausted_iff (b : HomingBudget) :
    b.isExhausted ↔ b.allowed.toNat ≤ b.attempts.toNat := by
  have h := toNat_remaining b
  have hz : b.remaining = 0 ↔ b.remaining.toNat = 0 := by
    rw [← UInt8.toNat_inj]
    rfl
  simp only [isExhausted, beq_iff_eq, hz]
  omega

theorem remaining_spend_le (b : HomingBudget) : b.spend.remaining.toNat ≤ b.remaining.toNat := by
  have attempts := b.attempts.toNat_lt
  have allowed : b.spend.allowed = b.allowed := rfl
  rw [toNat_remaining, toNat_remaining, toNat_attempts_spend, allowed]
  omega

theorem snd_record (b : HomingBudget) (homed : Bool) : (b.record homed).2 = b.spend := by
  unfold record
  cases homed <;> by_cases h : b.spend.isExhausted <;> simp [h]

theorem record_retry_iff {b c : HomingBudget} {homed : Bool} :
    b.record homed = (.retry, c) ↔ homed = false ∧ ¬ b.spend.isExhausted ∧ c = b.spend := by
  unfold record
  cases homed <;> by_cases h : b.spend.isExhausted <;> simp [h, eq_comm]

theorem record_exhausted_iff {b c : HomingBudget} {n : UInt8} {homed : Bool} :
    b.record homed = (.exhausted n, c) ↔
      homed = false ∧ b.spend.isExhausted ∧ n = b.spend.attempts ∧ c = b.spend := by
  unfold record
  cases homed <;> by_cases h : b.spend.isExhausted <;> simp [h, eq_comm]

theorem homed_of_record_recovered {b c : HomingBudget} {n : UInt8} {homed : Bool}
    (h : b.record homed = (.recovered n, c)) : homed = true := by
  unfold record at h
  cases homed
  · by_cases hs : b.spend.isExhausted <;> simp [hs] at h
  · rfl

theorem remaining_lt_of_record_retry {b c : HomingBudget} {homed : Bool}
    (h : b.record homed = (.retry, c)) : c.remaining.toNat < b.remaining.toNat := by
  obtain ⟨_, hn, rfl⟩ := record_retry_iff.1 h
  rw [isExhausted_iff, toNat_attempts_spend] at hn
  rw [toNat_remaining, toNat_remaining, toNat_attempts_spend]
  have ha : b.spend.allowed = b.allowed := rfl
  have hl := b.allowed.toNat_lt
  rw [ha] at hn ⊢
  omega

end HomingBudget
end LayerSeparation
