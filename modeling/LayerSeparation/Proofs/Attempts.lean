import LayerSeparation.Separation.Separator

/-! Homing attempts within a budget. However many are recorded, each is told by its number and its result, and a
loop that goes on while it is told to makes as many as the budget has, at least one, or stops at the first
success. -/
namespace LayerSeparation

namespace HomingBudget

def records (b : HomingBudget) : List Bool → List HomingStatus
  | [] => []
  | homed :: rest => (b.record homed).1 :: (b.record homed).2.records rest

def after (b : HomingBudget) : List Bool → HomingBudget
  | [] => b
  | homed :: rest => (b.record homed).2.after rest

/-- The number of attempts of a loop that records them until it is not told to retry. There is none if the
results end before the loop does. -/
def attemptsMade? (b : HomingBudget) : List Bool → Option Nat
  | [] => none
  | homed :: rest =>
    match b.record homed with
    | (.retry, left) => (left.attemptsMade? rest).map (· + 1)
    | (.recovered _, _) | (.exhausted _, _) => some 1

def attemptsOf (left : Nat) (results : List Bool) : Nat := min (results.findIdx id + 1) (max 1 left)

variable {b : HomingBudget}

theorem fst_record (b : HomingBudget) (homed : Bool) : (b.record homed).1 =
    if homed then .recovered b.spend.attempts
    else if b.allowed.toNat ≤ b.spend.attempts.toNat then .exhausted b.spend.attempts else .retry := by
  have spent := isExhausted_iff b.spend
  have same : b.spend.allowed = b.allowed := rfl
  rw [same] at spent
  unfold record
  cases homed <;> by_cases h : b.spend.isExhausted <;> simp [h, ← spent]

theorem after_record (b : HomingBudget) (homed : Bool) (rest : List Bool) :
    b.after (homed :: rest) = b.spend.after rest := by
  rw [after, snd_record]

theorem after_eq (b : HomingBudget) (results : List Bool) : (b.after results).allowed = b.allowed ∧
    (b.after results).attempts.toNat = min (b.attempts.toNat + results.length) 255 := by
  induction results generalizing b with
  | nil =>
    have range := b.attempts.toNat_lt
    refine ⟨rfl, ?_⟩
    simp only [after, List.length_nil]
    omega
  | cons homed rest ih =>
    obtain ⟨allowed, attempts⟩ := ih b.spend
    rw [after_record, List.length_cons, attempts, toNat_attempts_spend]
    exact ⟨allowed, by omega⟩

theorem getElem?_records (b : HomingBudget) (results : List Bool) (k : Nat) : (b.records results)[k]? =
    results[k]?.map fun homed => ((b.after (results.take k)).record homed).1 := by
  induction results generalizing b k with
  | nil => rfl
  | cons homed rest ih =>
    cases k with
    | zero => rfl
    | succ k =>
      rw [records, List.getElem?_cons_succ, List.getElem?_cons_succ, List.take_succ_cons, ih]
      rfl

/-- One attempt less is left, even where the count of attempts has stopped. -/
theorem toNat_remaining_spend (b : HomingBudget) : b.spend.remaining.toNat = b.remaining.toNat - 1 := by
  have range := b.allowed.toNat_lt
  have same : b.spend.allowed = b.allowed := rfl
  rw [toNat_remaining, toNat_remaining, toNat_attempts_spend, same]
  omega

theorem isExhausted_iff_remaining (b : HomingBudget) : b.isExhausted ↔ b.remaining.toNat = 0 := by
  rw [isExhausted_iff, toNat_remaining, Nat.sub_eq_zero_iff_le]

theorem attemptsOf_success (left : Nat) (rest : List Bool) : attemptsOf left (true :: rest) = 1 := by
  rw [attemptsOf, List.findIdx_cons]
  exact Nat.min_eq_left (Nat.le_max_left 1 left)

theorem attemptsOf_last {left : Nat} (few : left ≤ 1) (results : List Bool) : attemptsOf left results = 1 := by
  rw [attemptsOf, Nat.max_eq_left few]
  exact Nat.min_eq_right (Nat.le_add_left 1 _)

theorem attemptsOf_retry {left : Nat} (more : ¬ left ≤ 1) (rest : List Bool) :
    attemptsOf left (false :: rest) = attemptsOf (left - 1) rest + 1 := by
  have next : (false :: rest).findIdx id = rest.findIdx id + 1 := List.findIdx_cons
  rw [attemptsOf, attemptsOf, next]
  omega

/-- The loop ends where the first success or the end of the budget is, if the results reach so far. The
induction is on the results, with whatever is left of the budget before them. -/
theorem attemptsMade?_eq (b : HomingBudget) (results : List Bool) : b.attemptsMade? results =
    if attemptsOf b.remaining.toNat results ≤ results.length then some (attemptsOf b.remaining.toNat results)
    else none := by
  induction results generalizing b with
  | nil =>
    have some : ¬ attemptsOf b.remaining.toNat [] ≤ 0 := by
      rw [attemptsOf]
      omega
    exact (if_neg some).symm
  | cons homed rest ih =>
    rw [attemptsMade?, List.length_cons]
    cases told : b.record homed with
    | mk status left =>
    cases status with
    | recovered n =>
      rw [homed_of_record_recovered told, attemptsOf_success, if_pos (Nat.le_add_left 1 _)]
    | exhausted n =>
      obtain ⟨_, spent, _⟩ := record_exhausted_iff.mp told
      rw [isExhausted_iff_remaining, toNat_remaining_spend] at spent
      rw [attemptsOf_last (by omega), if_pos (Nat.le_add_left 1 _)]
    | retry =>
      obtain ⟨rfl, more, rfl⟩ := record_retry_iff.mp told
      rw [isExhausted_iff_remaining, toNat_remaining_spend] at more
      rw [attemptsOf_retry (by omega), ← toNat_remaining_spend]
      dsimp only
      rw [ih]
      split
      · next reached => rw [if_pos (Nat.succ_le_succ reached), Option.map_some]
      · next short => rw [if_neg (mt Nat.le_of_succ_le_succ short), Option.map_none]

end HomingBudget

namespace Machine
variable {σ : Type}

def homings (m : Machine σ) : Nat → σ → List Bool
  | 0, _ => []
  | n + 1, world => (m.attemptHoming world).1 :: m.homings n (m.attemptHoming world).2

def homed (m : Machine σ) : Nat → σ → σ
  | 0, world => world
  | n + 1, world => m.homed n (m.attemptHoming world).2

theorem length_homings (m : Machine σ) (n : Nat) (world : σ) : (m.homings n world).length = n := by
  induction n generalizing world with
  | zero => rfl
  | succ n ih => rw [homings, List.length_cons, ih]

theorem homeWithin_eq_homed (m : Machine σ) (b : HomingBudget) {reach n : Nat} (world : σ)
    (made : b.attemptsMade? (m.homings reach world) = some n) : m.homeWithin b world = m.homed n world := by
  induction reach generalizing b n world with
  | zero => cases made
  | succ reach ih =>
    rw [homings, HomingBudget.attemptsMade?] at made
    rw [homeWithin_eq]
    cases told : b.record (m.attemptHoming world).1 with
    | mk status left =>
    rw [told] at made
    cases status with
    | recovered _ =>
      cases made
      rfl
    | exhausted _ =>
      cases made
      rfl
    | retry =>
      obtain ⟨more, later, rfl⟩ := Option.map_eq_some_iff.mp made
      exact ih left _ later

end Machine

namespace HomingBudget

def statusOf (allowed : UInt8) (number : Nat) (homed : Bool) : HomingStatus :=
  if homed then .recovered (UInt8.ofNat (min number 255))
  else if allowed.toNat ≤ number then .exhausted (UInt8.ofNat (min number 255))
  else .retry

/-- What a new budget tells of any results, and how many of them a loop looks at. -/
structure RetryLaw (allowed : UInt8) (results : List Bool) : Prop where
  told : ∀ (k : Nat) (homed : Bool), results[k]? = some homed →
    (records { allowed } results)[k]? = some (statusOf allowed (k + 1) homed)
  attempts : (after { allowed } results).attempts.toNat = min results.length 255
  remaining : ((after { allowed } results).remaining.toNat : Int) =
    max 0 ((allowed.toNat : Int) - (after { allowed } results).attempts.toNat)
  exhausted : (after { allowed } results).isExhausted ↔ (after { allowed } results).remaining = 0
  made : attemptsMade? { allowed } results =
    let n := min (results.findIdx id + 1) (max 1 allowed.toNat)
    if n ≤ results.length then some n else none
  homed : ∀ {σ : Type} (m : Machine σ) (world : σ), m.homeWithin { allowed } world =
    let results := m.homings (max 1 allowed.toNat) world
    m.homed (min (results.findIdx id + 1) (max 1 allowed.toNat)) world

theorem toNat_remaining_new (allowed : UInt8) : (HomingBudget.mk allowed 0).remaining.toNat = allowed.toNat :=
  toNat_remaining _

theorem attemptsMade?_new (allowed : UInt8) (results : List Bool) : attemptsMade? { allowed } results =
    let n := min (results.findIdx id + 1) (max 1 allowed.toNat)
    if n ≤ results.length then some n else none := by
  rw [attemptsMade?_eq, toNat_remaining_new]
  rfl

/-- A budget tells attempts apart by their number and their result, for all budgets, the empty and the greatest
among them, and for more attempts than it can count. -/
theorem retry_law (allowed : UInt8) (results : List Bool) : RetryLaw allowed results := by
  have counted := fun made => after_eq { allowed } made
  simp only [UInt8.toNat_zero, Nat.zero_add] at counted
  constructor
  case told =>
    intro k homed there
    obtain ⟨before, _⟩ := List.getElem?_eq_some_iff.mp there
    obtain ⟨same, attempts⟩ := counted (results.take k)
    rw [List.length_take_of_le (Nat.le_of_lt before)] at attempts
    have range := allowed.toNat_lt
    have stops : min (min k 255 + 1) 255 = min (k + 1) 255 := by omega
    have spent : (after { allowed } (results.take k)).spend.attempts = UInt8.ofNat (min (k + 1) 255) := by
      rw [spend, attempts, stops]
    have final : allowed.toNat ≤ min (min k 255 + 1) 255 ↔ allowed.toNat ≤ k + 1 := by omega
    rw [getElem?_records, there, Option.map_some, fst_record, toNat_attempts_spend, same, attempts, spent]
    simp only [final, statusOf]
  case attempts => exact (counted results).2
  case remaining =>
    rw [toNat_remaining, (counted results).1]
    omega
  case exhausted => exact beq_iff_eq
  case made => exact attemptsMade?_new allowed results
  case homed =>
    intro σ m world
    have made := attemptsMade?_new allowed (m.homings (max 1 allowed.toNat) world)
    rw [m.length_homings] at made
    exact m.homeWithin_eq_homed _ world (made.trans (if_pos (Nat.min_le_right _ _)))

end HomingBudget
end LayerSeparation
