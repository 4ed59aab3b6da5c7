import LayerSeparation.Proofs.Sequencing

/-! One iteration of a sequencer. It takes the first command off the script ahead, or leaves the script as it is
and comes closer to giving something; a recovery is counted where the script says so, and the counters fit
again after it. -/
namespace LayerSeparation.Sequencer
open Script

structure Keeps (q r : Sequencer) (found : Bool) : Prop where
  setup : r.setup = q.setup
  expect : r.expect = q.expect
  lastAxis : r.lastAxis = q.lastAxis
  failure : r.failure = q.failure
  recoveries : r.recoveries.toNat = if found then min (q.recoveries.toNat + 1) 255 else q.recoveries.toNat

def take (q : Sequencer) : (c : Command) → c.Answer → Sequencer
  | .readPosition _, position => { q with position }
  | .queryStall _, stalled => { q with stalled }
  | .home _, homed => { q with homed }
  | .setTiltCurve _, _ | .setTowerCurve _, _ | .moveRelative .., _ | .moveAbsolute .., _ | .wait _, _ => q

def counted (found : Bool) (t : Script) : Script := if found then .recovered t else t

/-- What one iteration makes of the script ahead of it. -/
inductive Iterates (q : Sequencer) (t : Script) : Outcome → Prop where
  | fails {r : Sequencer} {e : SeparationError} (ahead : t = .fail e) (phase : e.phase = r.phase)
      (few : r.sub.toNat ≤ 512) (keeps : Keeps q r false) : Iterates q t (r.fail e)
  | goesOn {r : Sequencer} (found : Bool) (fits : r.Fits) (ahead : t = counted found r.ahead)
      (closer : r.phase = .done ∨ r.lag < q.lag) (keeps : Keeps q r found) : Iterates q t r.goOn
  | issues {r : Sequencer} {c : Command} {next : c.Answer → Script} (found : Bool) (fits : r.Fits)
      (ahead : t = counted found (.ask r.phase c next)) (answered : ∀ a, (r.take c a).ahead = next a)
      (keeps : Keeps q r found) : Iterates q t (r.issue c)

section
variable {q r : Sequencer} {s : Setup} {moves : TiltMoves} {way : Way}

theorem iterates_enter {p : Phase} (first : p ≠ .unstuck) (second : p ≠ .tiltUpUnstuck)
    (closer : p = .done ∨ (q.count.enter p).lag < q.lag) :
    Iterates q (onward q.setup p) (q.count.enter p).goOn :=
  have entered := ahead_enter q.count first second
  .goesOn false entered.1 entered.2.symm closer ⟨rfl, rfl, rfl, rfl, rfl⟩

theorem iterates_withMoves {act : TiltMoves → Outcome} {part : TiltMoves → Script} (fits : q.Fits)
    (unfinished : q.phase ≠ .done)
    (each : ∀ moves, q.setup.tilt = some moves → Iterates q (part moves) (act moves)) :
    Iterates q (tilting q.setup q.phase part) (q.count.withMoves act) := by
  have few := fits.few unfinished
  have counted := toNat_count few
  unfold tilting withMoves
  rw [count_setup]
  cases tilt : q.setup.tilt with
  | some moves => exact each moves tilt
  | none => exact .fails rfl rfl (by omega) ⟨rfl, rfl, rfl, rfl, rfl⟩

theorem iterates_pause (ms : UInt32) (following : Phase) (first : following ≠ .unstuck)
    (second : following ≠ .tiltUpUnstuck)
    (closer : following = .done ∨ (q.count.enter following).lag < q.lag)
    (paused : q.sub = 0 → q.count.Fits ∧ q.count.ahead = onward q.setup following) :
    Iterates q
      (if q.sub = 0 then Script.pause q.phase ms (onward q.setup following) else onward q.setup following)
      (q.count.pause q.sub ms following) := by
  have later := iterates_enter first second closer
  unfold pause Script.pause
  by_cases start : q.sub = 0
  · obtain ⟨fits, ahead⟩ := paused start
    rw [if_pos start]
    by_cases long : 0 < ms
    · rw [if_pos long, if_pos ⟨start, long⟩]
      exact .issues false fits rfl (fun _ => ahead) ⟨rfl, rfl, rfl, rfl, rfl⟩
    · rw [if_neg long, if_neg fun h => long h.2]
      exact later
  · rw [if_neg start, if_neg fun h => start h.1]
    exact later

theorem iterates_curve (pick : TiltMoves → TiltCurve) (following : Phase) (fits : q.Fits)
    (unfinished : q.phase ≠ .done) (first : following ≠ .unstuck) (second : following ≠ .tiltUpUnstuck)
    (closer : q.sub ≠ 0 → (q.count.enter following).lag < q.lag)
    (chosen : q.sub = 0 → q.count.Fits ∧ q.count.ahead = onward q.setup following) :
    Iterates q
      (if q.sub = 0 then tilting q.setup q.phase fun moves =>
        .setTiltCurve q.phase (pick moves) (onward q.setup following)
      else onward q.setup following)
      (q.count.curve q.sub pick following) := by
  unfold curve
  by_cases start : q.sub = 0
  · obtain ⟨fits', ahead⟩ := chosen start
    rw [if_pos start, if_pos start]
    refine iterates_withMoves fits unfinished fun moves _ => ?_
    exact .issues false fits' rfl (fun _ => ahead) ⟨rfl, rfl, rfl, rfl, rfl⟩
  · rw [if_neg start, if_neg start]
    exact iterates_enter first second (.inr (closer start))

theorem iterates_split (here : q.phase = way.cycles) (hs : q.setup.tilt = some moves)
    (started : q.sub ≠ 0) {split : CycleSplit} (few : q.sub.toNat + split.pending.length ≤ 510) :
    Iterates q (split.pending.foldr (splitStep way.cycles) (onward q.setup way.checking))
      (match split.next with
        | none => (q.count.enter way.checking).goOn
        | some (.move steps, split) =>
          { q.count with split := some split }.issue (.moveRelative .tilt steps)
        | some (.wait ms, split) => { q.count with split := some split }.issue (.wait ms)) := by
  have counted := toNat_count (q := q) (by omega)
  have moved := q.sub_count_ne_zero
  unfold CycleSplit.next
  cases due : split.pending with
  | nil =>
    have closer : (q.count.enter way.checking).lag < q.lag := by
      cases way <;> simp [lag, here, Way.cycles, Way.checking, started]
    exact iterates_enter (by cases way <;> decide) (by cases way <;> decide) (.inr closer)
  | cons step rest =>
    rw [due, List.length_cons] at few
    obtain ⟨fits, ahead⟩ := ahead_split
      (r := { q.count with split := some { split with pending := rest } }) here hs moved rfl
      (by show q.count.sub.toNat + rest.length ≤ 510; omega)
    rw [List.foldr_cons]
    cases step with
    | move steps =>
      exact .issues false fits (by rw [← here]; rfl) (fun _ => ahead) ⟨rfl, rfl, rfl, rfl, rfl⟩
    | wait ms =>
      exact .issues false fits (by rw [← here]; rfl) (fun _ => ahead) ⟨rfl, rfl, rfl, rfl, rfl⟩

theorem iterates_cycles (way : Way) (here : q.phase = way.cycles) (hs : q.setup.tilt = some moves) (fits : q.Fits) :
    Iterates q (q.covering moves way)
      (q.count.cycles q.sub (way.target q.setup) (way.profile moves) way.checking) := by
  have small := (fits_cycles here).mp fits
  have few := fits.few (by rw [here]; cases way <;> decide)
  have counted := toNat_count few
  unfold covering cycles
  by_cases start : q.sub = 0
  · rw [if_pos start, if_pos start]
    have zero : q.sub.toNat = 0 := congrArg UInt16.toNat start
    have whole : q.split = none := by
      cases left : q.split with
      | none => rfl
      | some split =>
        rw [left] at small
        omega
    have fits' : q.count.Fits := by
      rw [fits_cycles (r := q.count) here, count_split, whole]
      omega
    refine .issues false fits' (by rw [count_phase, here]; rfl) (fun position => ?_) ⟨rfl, rfl, rfl, rfl, rfl⟩
    · rw [ahead_cycles (r := q.count.take (.readPosition .tilt) position) here hs, covering]
      simp only [take, count_split, whole, if_neg q.sub_count_ne_zero]
      rfl
  · rw [if_neg start, if_neg start]
    have positive : q.sub.toNat ≠ 0 := fun zero => start (UInt16.toNat_inj.mp zero)
    cases left : q.split with
    | some split =>
      rw [left] at small
      simp only [count_split, left]
      exact iterates_split here hs start small.2
    | none =>
      rw [left] at small
      simp only [count_split, count_position, left]
      unfold covered
      cases far : Width.difference? (way.target q.setup) q.position with
      | none => exact .fails (by rw [count_phase, here]; rfl) rfl (by omega) ⟨rfl, rfl, rfl, rfl, rfl⟩
      | some distance =>
        have long := length_pending_lt distance (way.profile moves).cycles (way.profile moves).delayMs
        have range := (way.profile moves).cycles.toNat_lt
        exact iterates_split here hs start (by omega)

theorem iterates_leaveCheck (here : q.phase = way.checking ∨ q.phase = way.freeing) (slow : q.lag = 2) :
    Iterates q (passed q.setup way) q.count.leaveCheck.goOn := by
  obtain ⟨p, left, onward, first, second, close⟩ := leaveCheck_eq (r := q.count) way here
  rw [left, ← count_setup, onward]
  exact iterates_enter first second (.inr (closer close slow))

theorem iterates_check (way : Way) (here : q.phase = way.checking) (hs : q.setup.tilt = some moves) (fits : q.Fits) :
    Iterates q (q.checking moves way)
      (q.count.check q.sub (way.target q.setup) (way.profile moves) way.freeing) := by
  have few := (fits_check here).mp fits
  have counted := toNat_count (q := q) (by omega)
  unfold checking check
  by_cases start : q.sub = 0
  · rw [if_pos start, if_pos start]
    have one := one_of_start start
    refine .issues false ((fits_check (r := q.count) here).mpr (by rw [one]; decide)) (by rw [count_phase, here]; rfl)
      (fun stalled => ?_) ⟨rfl, rfl, rfl, rfl, rfl⟩
    rw [ahead_check (r := q.count.take (.queryStall .tilt) stalled) here hs, checking]
    simp only [take, one, if_neg (show (1 : UInt16) ≠ 0 by decide), if_true]
    rfl
  rw [if_neg start, if_neg start]
  by_cases second : q.sub = 1
  · rw [if_pos second, if_pos second]
    have two := two_of_second second
    refine .issues false ((fits_check (r := q.count) here).mpr (by rw [two]; decide)) (by rw [count_phase, here]; rfl)
      (fun position => ?_) ⟨rfl, rfl, rfl, rfl, rfl⟩
    rw [ahead_check (r := q.count.take (.readPosition .tilt) position) here hs, checking]
    simp only [take, two, if_neg (show (2 : UInt16) ≠ 0 by decide), if_neg (show (2 : UInt16) ≠ 1 by decide)]
    rfl
  rw [if_neg second, if_neg second]
  have slow : q.lag = 2 := by cases way <;> simp [lag, here, Way.checking, start]
  unfold verdict
  simp only [count_stalled, count_position]
  cases (StallCheck.mk (way.target q.setup) (way.profile moves).homingTolerance).evaluate q.stalled
    q.position with
  | clear => exact iterates_leaveCheck (.inl here) slow
  | stalled position deviation =>
    obtain ⟨fits', ahead, close⟩ := ahead_stuck q.count way (way.profile moves).homingCycles
    exact .goesOn false fits' ahead.symm (.inr (closer close slow))
      ⟨rfl, rfl, rfl, rfl, rfl⟩

def restore (s : Setup) : Way → Option Int32
  | .down => none
  | .up => some s.geometry.heightSteps

theorem iterates_attempt (here : q.phase = way.freeing) (unrestored : q.restoring = false)
    (odd : q.sub.toNat % 2 = 1) (half : q.sub.toNat / 2 = q.homing.attempts.toNat)
    (owed : q.homing.attempts.toNat < q.homing.allowed.toNat) :
    Iterates q (attempted q.setup way (q.homing.record q.homed))
      (q.count.attempt (restore q.setup way)) := by
  have range := q.homing.allowed.toNat_lt
  have counted := toNat_count (q := q) (by omega)
  have even : q.count.sub % 2 = 0 := by
    rw [even_sub_iff]
    omega
  have slow : q.lag = 2 := by
    cases way <;> simp [lag, here, Way.freeing, even_sub_iff, odd]
  unfold attempt
  cases recorded : q.homing.record q.homed with
  | mk status budget =>
    have recorded' : q.count.homing.record q.count.homed = (status, budget) := recorded
    have spent : budget = q.homing.spend := by rw [← HomingBudget.snd_record, recorded]
    have made : budget.attempts.toNat = q.homing.attempts.toNat + 1 := by
      rw [spent, HomingBudget.toNat_attempts_spend]
      omega
    have fits {next : Sequencer} (same : next.phase = way.freeing) (count : next.sub = q.count.sub)
        (left : next.homing = budget) : next.Fits := by
      rw [fits_free same, left, count, made]
      omega
    simp only [recorded']
    cases status with
    | recovered attempts =>
      have found : (q.count.freed budget).recoveries.toNat = min (q.recoveries.toNat + 1) 255 :=
        UInt8.toNat_ofNat_of_lt' (by simp only [UInt8.size]; omega)
      -- on the way down the phase is left at once, on the way up the tilt is sent back first
      cases way with
      | down =>
        obtain ⟨p, left, onward, first, second, close⟩ := leaveCheck_eq (r := q.count.freed budget)
          .down (.inr here)
        have entered := ahead_enter (q.count.freed budget) first second
        show Iterates q (.recovered (passed q.setup .down)) (q.count.freed budget).leaveCheck.goOn
        rw [left]
        exact .goesOn true entered.1 (congrArg Script.recovered (onward.trans entered.2.symm))
          (.inr (closer close slow)) ⟨rfl, rfl, rfl, rfl, found⟩
      | up =>
        have sent : Script.recovered (released q.setup .up) = .recovered (.ask q.phase
            (.moveAbsolute .tilt q.setup.geometry.heightSteps) fun _ => passed q.setup .up) := by
          rw [here]
          rfl
        exact .issues true (fits here rfl rfl) sent (fun _ => ahead_of_restoring here rfl)
          ⟨rfl, rfl, rfl, rfl, found⟩
    | retry =>
      have ahead := ahead_of_even (r := { q.count with homing := budget }) here unrestored even
      have quick : lag { q.count with homing := budget } = 1 := by
        cases way <;> simp [lag, here, Way.freeing, even, unrestored]
      exact .goesOn false (fits here rfl rfl) ahead.symm (.inr (closer quick slow)) ⟨rfl, rfl, rfl, rfl, rfl⟩
    | exhausted attempts =>
      obtain ⟨-, -, rfl, rfl⟩ := HomingBudget.record_exhausted_iff.mp recorded
      exact .fails (by rw [count_phase, here]; rfl) rfl (by show q.count.sub.toNat ≤ 512; omega)
        ⟨rfl, rfl, rfl, rfl, rfl⟩

theorem iterates_free (way : Way) (here : q.phase = way.freeing) (fits : q.Fits) :
    Iterates q (q.freeing way) (q.count.free q.sub (restore q.setup way)) := by
  obtain ⟨half, owed⟩ := (fits_free here).mp fits
  have few := fits.few (by rw [here]; cases way <;> decide)
  have counted := toNat_count few
  unfold freeing free
  rw [count_restoring]
  cases restoring : q.restoring with
  | true =>
    have slow : q.lag = 2 := by cases way <;> simp [lag, here, Way.freeing, restoring]
    exact iterates_leaveCheck (.inr here) slow
  | false =>
    rw [if_neg Bool.false_ne_true, if_neg Bool.false_ne_true]
    by_cases even : q.sub % 2 = 0
    · rw [if_pos even, if_pos even, count_homing]
      rw [even_sub_iff] at even
      by_cases spent : q.homing.isExhausted
      · rw [if_pos spent, Script.free, if_pos spent]
        exact .fails (by rw [count_phase, here]) rfl (by omega) ⟨rfl, rfl, rfl, rfl, rfl⟩
      · rw [if_neg spent, free_of_left spent]
        rw [HomingBudget.isExhausted_iff] at spent
        have fits' : q.count.Fits := by
          rw [fits_free (r := q.count) here, counted, count_homing]
          omega
        have odd : ¬ q.count.sub % 2 = 0 := by
          rw [even_sub_iff]
          omega
        exact .issues false fits' (by rw [count_phase, here]; rfl)
          (fun homed => ahead_of_odd (r := q.count.take (.home .tilt) homed) here restoring odd)
          ⟨rfl, rfl, rfl, rfl, rfl⟩
    · rw [if_neg even, if_neg even]
      rw [even_sub_iff] at even
      exact iterates_attempt here restoring (by omega) half (owed (by omega))

theorem iterates_settleAfter (here : q.phase = .settleAfterExposure) : Iterates q q.ahead q.advance := by
  have following := afterSettling_cases q.setup
  have step := iterates_pause (q := q) q.setup.params.delayAfterExposureMs q.setup.afterSettling
    (by rcases following with h | h <;> rw [h] <;> decide)
    (by rcases following with h | h <;> rw [h] <;> decide)
    (.inr (by rcases following with h | h <;> rw [h] <;> simp [lag, here]))
    (fun start => by simp [Fits, ahead, here, one_of_start start])
  rw [here] at step
  simp only [ahead, advance, count_phase, here]
  rw [onward]
  exact step

theorem iterates_tiltDownInitial (here : q.phase = .tiltDownInitial) (fits : q.Fits) :
    Iterates q q.ahead q.advance := by
  have unfinished : q.phase ≠ .done := by rw [here]; decide
  have few : q.sub.toNat ≤ 2 := by simpa only [Fits, here] using fits
  have counted := toNat_count (q := q) (by omega)
  simp only [ahead, advance, count_phase, here]
  rw [← here]
  refine iterates_withMoves fits unfinished fun moves hs => ?_
  by_cases start : q.sub = 0
  · rw [if_pos start, if_pos start]
    have one := one_of_start start
    refine .issues false (by simp [Fits, here, one]) rfl (fun _ => ?_) ⟨rfl, rfl, rfl, rfl, rfl⟩
    simp [ahead, here, take, one, tilting, hs]
  rw [if_neg start, if_neg start]
  have later : Iterates q (onward q.setup .tiltDownOffsetWait) (q.count.enter .tiltDownOffsetWait).goOn :=
    iterates_enter (by decide) (by decide) (.inr (by simp [lag, here, start]))
  by_cases second : q.sub = 1
  · have two := two_of_second second
    rw [if_pos second, downOffset]
    by_cases offset : 0 < moves.down.offsetSteps
    · rw [if_pos offset, if_pos ⟨second, offset⟩]
      refine .issues false (by simp [Fits, here, two]) (by rw [count_phase, here]; rfl) (fun _ => ?_)
        ⟨rfl, rfl, rfl, rfl, rfl⟩
      simp [ahead, here, take, two, tilting, hs]
    · rw [if_neg offset, if_neg fun h => offset h.2]
      exact later
  · rw [if_neg second, if_neg fun h => second h.1]
    exact later

theorem iterates_tiltUpInitial (here : q.phase = .tiltUpInitial) (fits : q.Fits) :
    Iterates q q.ahead q.advance := by
  have unfinished : q.phase ≠ .done := by rw [here]; decide
  have few : q.sub.toNat ≤ 2 := by simpa only [Fits, here] using fits
  have counted := toNat_count (q := q) (by omega)
  simp only [ahead, advance, count_phase, here]
  rw [← here]
  refine iterates_withMoves fits unfinished fun moves hs => ?_
  by_cases start : q.sub = 0
  · rw [if_pos start, if_pos start]
    have one := one_of_start start
    refine .issues false (by simp [Fits, here, one]) rfl (fun _ => ?_) ⟨rfl, rfl, rfl, rfl, rfl⟩
    simp [ahead, here, take, one, tilting, hs]
  rw [if_neg start, if_neg start]
  by_cases second : q.sub = 1
  · have two := two_of_second second
    rw [if_pos second, if_pos second, upOffset, count_setup]
    cases Width.difference? q.setup.geometry.heightSteps moves.up.offsetSteps with
    | none => exact .fails (by rw [here]; rfl) rfl (by omega) ⟨rfl, rfl, rfl, rfl, rfl⟩
    | some position =>
      refine .issues false (by simp [Fits, here, two]) (by rw [count_phase, here]; rfl) (fun _ => ?_)
        ⟨rfl, rfl, rfl, rfl, rfl⟩
      simp [ahead, here, take, two, tilting, hs]
  · rw [if_neg second, if_neg second]
    exact iterates_enter (by decide) (by decide) (.inr (by simp [lag, here, start]))

theorem iterates_tower (here : q.phase = .tower) (fits : q.Fits) : Iterates q q.ahead q.advance := by
  have few : q.sub.toNat ≤ 2 := by simpa only [Fits, here] using fits
  simp only [ahead, advance, count_phase, here]
  by_cases start : q.sub = 0
  · have one := one_of_start start
    rw [if_pos start, if_pos start, onward]
    refine .issues false (by simp [Fits, here, one]) (by rw [count_phase, here]; rfl) (fun _ => ?_)
      ⟨rfl, rfl, rfl, rfl, rfl⟩
    simp [ahead, here, take, one]
  rw [if_neg start, if_neg start]
  by_cases second : q.sub = 1
  · have two := two_of_second second
    rw [if_pos second, if_pos second, towerMove, count_setup]
    split
    · refine .issues false (by simp [Fits, here, two]) (by rw [count_phase, here]; rfl) (fun _ => ?_)
        ⟨rfl, rfl, rfl, rfl, rfl⟩
      simp [ahead, here, take, two]
    · refine .issues false (by simp [Fits, here, two]) (by rw [count_phase, here]; rfl) (fun _ => ?_)
        ⟨rfl, rfl, rfl, rfl, rfl⟩
      simp [ahead, here, take, two]
  · rw [if_neg second, if_neg second, afterTiltUp_eq]
    have slow : q.lag = 2 := by simp [lag, here, start]
    unfold Setup.afterTower
    rw [count_setup]
    split
    · exact iterates_enter (by decide) (by decide) (.inr (closer rfl slow))
    · rcases afterTiltUp_cases q.setup with h | h
      · rw [h]
        exact iterates_enter (by decide) (by decide) (.inr (closer rfl slow))
      · rw [h]
        exact iterates_enter (by decide) (by decide) (.inr (closer rfl slow))

theorem iterates_towerLower (here : q.phase = .towerLower) : Iterates q q.ahead q.advance := by
  simp only [ahead, advance, count_phase, here]
  by_cases start : q.sub = 0
  · have one := one_of_start start
    rw [if_pos start, if_pos start, onward]
    refine .issues false (by simp [Fits, here, one]) (by rw [count_phase, here]; rfl) (fun _ => ?_)
      ⟨rfl, rfl, rfl, rfl, rfl⟩
    simp [ahead, here, take, one]
  · rw [if_neg start, if_neg start]
    exact iterates_enter (by decide) (by decide) (.inr (by simp [lag, here, start]))

theorem iterates_settleBefore (here : q.phase = .settleBeforeExposure) : Iterates q q.ahead q.advance := by
  have step := iterates_pause (q := q) q.setup.params.delayBeforeExposureMs .done (by decide) (by decide) (.inl rfl)
    (fun start => by simp [Fits, ahead, here, one_of_start start])
  rw [here] at step
  simp only [ahead, advance, count_phase, here]
  rw [onward]
  exact step

/-- One iteration takes the first command off the script ahead, or comes closer to it. -/
theorem iterates_advance (fits : q.Fits) : Iterates q q.ahead q.advance := by
  cases here : q.phase with
  | idle =>
    simp only [ahead, advance, count_phase, here]
    rw [onward]
    exact iterates_enter (by decide) (by decide) (.inr (by simp only [lag, here, enter_phase]; decide))
  | settleAfterExposure => exact iterates_settleAfter here
  | tiltDownInitial => exact iterates_tiltDownInitial here fits
  | tiltDownOffsetWait =>
    simp only [ahead, advance, count_phase, here]
    rw [← here]
    refine iterates_withMoves fits (by rw [here]; decide) fun moves hs => ?_
    exact iterates_pause _ _ (by decide) (by decide) (.inr (by simp [lag, here]))
      (fun start => by simp [Fits, ahead, here, one_of_start start, tilting, hs])
  | tiltDownFinish =>
    have step := iterates_curve (·.down.finishCurve) .tiltDownCycles fits
      (by rw [here]; decide) (by decide) (by decide) (fun later => by simp [lag, here, later])
      (fun start => by simp [Fits, ahead, here, one_of_start start])
    rw [here] at step
    simp only [ahead, advance, count_phase, here]
    rw [onward]
    exact step
  | tiltDownCycles =>
    simp only [ahead, advance, count_phase, here]
    rw [← here]
    exact iterates_withMoves fits (by rw [here]; decide) fun moves hs =>
      iterates_cycles .down here hs fits
  | stallCheck =>
    simp only [ahead, advance, count_phase, here]
    rw [← here]
    exact iterates_withMoves fits (by rw [here]; decide) fun moves hs =>
      iterates_check .down here hs fits
  | unstuck =>
    simp only [ahead, advance, count_phase, here]
    exact iterates_free .down here fits
  | tower => exact iterates_tower here fits
  | tiltUpInitial => exact iterates_tiltUpInitial here fits
  | tiltUpOffsetWait =>
    simp only [ahead, advance, count_phase, here]
    rw [← here]
    refine iterates_withMoves fits (by rw [here]; decide) fun moves hs => ?_
    exact iterates_pause _ _ (by decide) (by decide) (.inr (by simp [lag, here]))
      (fun start => by simp [Fits, ahead, here, one_of_start start, tilting, hs])
  | tiltUpFinish =>
    have step := iterates_curve (·.up.finishCurve) .tiltUpCycles fits
      (by rw [here]; decide) (by decide) (by decide) (fun later => by simp [lag, here, later])
      (fun start => by simp [Fits, ahead, here, one_of_start start])
    rw [here] at step
    simp only [ahead, advance, count_phase, here]
    rw [onward]
    exact step
  | tiltUpCycles =>
    simp only [ahead, advance, count_phase, here]
    rw [← here]
    exact iterates_withMoves fits (by rw [here]; decide) fun moves hs =>
      iterates_cycles .up here hs fits
  | tiltUpStallCheck =>
    simp only [ahead, advance, count_phase, here]
    rw [← here]
    exact iterates_withMoves fits (by rw [here]; decide) fun moves hs =>
      iterates_check .up here hs fits
  | tiltUpUnstuck =>
    simp only [ahead, advance, count_phase, here]
    exact iterates_free .up here fits
  | towerLower => exact iterates_towerLower here
  | settleBeforeExposure => exact iterates_settleBefore here
  | done =>
    have fits' : q.count.Fits := by simp only [Fits, count_phase, here]
    have ended : q.count.ahead = .done := by simp only [ahead, count_phase, here]
    simp only [ahead, advance, count_phase, here]
    exact .goesOn false fits' ended.symm (.inl here) ⟨rfl, rfl, rfl, rfl, rfl⟩

end

end LayerSeparation.Sequencer
