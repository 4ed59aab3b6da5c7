import LayerSeparation.Proofs.Order

/-! Freeing a stuck tilt. The attempts left are counted down to zero, and the budget of the profile is
that count: no attempt is lost and none is made twice, for an empty budget and for a full one. -/
namespace LayerSeparation.Script

def homings (phase : Phase) (rest : Script) (allowed : UInt8) : Nat → Script
  | 0 => .fail (.tiltStallUnrecoverable phase allowed)
  | left + 1 => .ask phase (.home .tilt) fun homed =>
    if homed then .recovered rest else homings phase rest allowed left

theorem free_eq_homings (phase : Phase) (rest : Script) (budget : HomingBudget)
    (within : budget.attempts.toNat ≤ budget.allowed.toNat) :
    free phase rest budget =
      homings phase rest budget.allowed (budget.allowed.toNat - budget.attempts.toNat) := by
  generalize count : budget.allowed.toNat - budget.attempts.toNat = left
  induction left generalizing budget with
  | zero =>
    have spent : budget.isExhausted := (HomingBudget.isExhausted_iff budget).mpr (by omega)
    have all : budget.attempts = budget.allowed := UInt8.toNat_inj.mp (by omega)
    rw [free, if_pos spent, homings, all]
  | succ left ih =>
    have some : ¬ budget.isExhausted := by
      rw [HomingBudget.isExhausted_iff]
      omega
    have range := budget.allowed.toNat_lt
    have made : budget.spend.attempts.toNat = budget.attempts.toNat + 1 := by
      rw [HomingBudget.toNat_attempts_spend]
      omega
    have same : budget.spend.allowed = budget.allowed := rfl
    rw [free, if_neg some, homings]
    refine congrArg _ (funext fun homed => ?_)
    cases homed with
    | true => rfl
    | false =>
      split
      · next h => cases HomingBudget.homed_of_record_recovered h
      · next h =>
        obtain ⟨_, _, rfl⟩ := HomingBudget.record_retry_iff.mp h
        rw [← same]
        exact ih budget.spend (by rw [same]; omega) (by rw [same]; omega)
      · next attempts spent h =>
        -- the last attempt: nothing is left of the budget after it
        obtain ⟨_, none, rfl, _⟩ := HomingBudget.record_exhausted_iff.mp h
        rw [HomingBudget.isExhausted_iff, same] at none
        have last : left = 0 := by omega
        have all : budget.spend.attempts = budget.allowed := UInt8.toNat_inj.mp (by omega)
        rw [last, all]
        rfl

theorem free_eq (phase : Phase) (rest : Script) (allowed : UInt8) :
    free phase rest { allowed } = homings phase rest allowed allowed.toNat :=
  free_eq_homings phase rest { allowed } (Nat.zero_le _)

section
variable {phase : Phase} {rest : Script} {allowed : UInt8} {turns : List Turn} {e : SeparationError}

def missed (phase : Phase) (count : Nat) : List Turn :=
  List.replicate count ⟨phase, .home .tilt, false⟩

/- Failed attempts use up the budget, and the first success ends it. -/
theorem leads_missed (phase : Phase) (rest : Script) (allowed : UInt8) (count left : Nat) :
    (homings phase rest allowed (left + count)).Leads (missed phase count)
      (homings phase rest allowed left) := by
  induction count with
  | zero => exact .refl _
  | succ count ih => exact leads_ask_iff.mpr (.inr ⟨false, _, rfl, ih⟩)

def Unfailing : Script → Prop
  | .done => True
  | .fail _ => False
  | .recovered rest => rest.Unfailing
  | .ask _ _ next => ∀ a, (next a).Unfailing

theorem Unfailing.not_leads {t : Script} (h : t.Unfailing) : ¬ t.Leads turns (.fail e) := by
  induction t generalizing turns with
  | done => nofun
  | fail e => cases h
  | recovered t ih =>
    intro hl
    cases hl with
    | recovered hl => exact ih h hl
  | ask phase c next ih =>
    intro hl
    cases hl with
    | ask a hl => exact ih a (h a) hl

theorem unfailing_pause {ms : UInt32} (h : rest.Unfailing) : (pause phase ms rest).Unfailing :=
  pause_induct (fun _ => h) h

theorem missed_of_fails {left : Nat} (sound : rest.Unfailing)
    (h : (homings phase rest allowed left).Leads turns (.fail e)) :
    turns = missed phase left ∧ e = .tiltStallUnrecoverable phase allowed := by
  induction left generalizing turns with
  | zero =>
    obtain ⟨rfl, same⟩ := leads_fail_iff.mp h
    exact ⟨rfl, Script.fail.inj same⟩
  | succ left ih =>
    rcases leads_ask_iff.mp h with ⟨_, here⟩ | ⟨homed, more, rfl, later⟩
    · cases here
    · cases homed with
      | false =>
        obtain ⟨rfl, same⟩ := ih later
        exact ⟨rfl, same⟩
      | true =>
        cases later with
        | recovered later => exact absurd later sound.not_leads

end

theorem check_eq (phase freeing : Phase) (target : Int32) (profile : MovingProfile)
    (freed clear : Script) :
    check phase freeing target profile freed clear =
      .ask phase (.queryStall .tilt) fun flag => .ask phase (.readPosition .tilt) fun p =>
        if flag = false ∧ (p.toInt - target.toInt).natAbs ≤ profile.homingTolerance.toNat then clear
        else homings freeing freed profile.homingCycles profile.homingCycles.toNat := by
  refine congrArg _ (funext fun flag => congrArg _ (funext fun p => ?_))
  have passed := StallCheck.isClear_evaluate_iff ⟨target, profile.homingTolerance⟩ flag p
  cases ho : (StallCheck.mk target profile.homingTolerance).evaluate flag p with
  | clear =>
    rw [ho] at passed
    rw [if_pos (passed.mp rfl)]
  | stalled position deviation =>
    rw [ho] at passed
    have stuck := mt passed.mpr nofun
    rw [if_neg stuck]
    exact free_eq _ _ _

theorem stuck_of_fails {phase freeing : Phase} {target : Int32} {profile : MovingProfile}
    {freed clear : Script} {turns : List Turn} {e : SeparationError} (hf : freed.Unfailing)
    (hc : clear.Unfailing)
    (h : (check phase freeing target profile freed clear).Leads turns (.fail e)) :
    ∃ (flag : Bool) (p : Int32),
      turns = ⟨phase, .queryStall .tilt, flag⟩ :: ⟨phase, .readPosition .tilt, p⟩ ::
        missed freeing profile.homingCycles.toNat ∧
      ¬ (flag = false ∧ (p.toInt - target.toInt).natAbs ≤ profile.homingTolerance.toNat) ∧
      e = .tiltStallUnrecoverable freeing profile.homingCycles := by
  rw [check_eq] at h
  rcases leads_ask_iff.mp h with ⟨_, here⟩ | ⟨flag, more, rfl, asked⟩
  · cases here
  rcases leads_ask_iff.mp asked with ⟨_, here⟩ | ⟨p, more, rfl, answered⟩
  · cases here
  split at answered
  · exact absurd answered hc.not_leads
  · next stuck =>
    obtain ⟨rfl, same⟩ := missed_of_fails hf answered
    exact ⟨flag, p, rfl, stuck, same⟩

end LayerSeparation.Script
