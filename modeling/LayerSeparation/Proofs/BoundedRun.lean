import LayerSeparation.Proofs.CommandCount
import LayerSeparation.Proofs.Iteration
import LayerSeparation.Proofs.Recovery

/-! Runs of a sequencer. Whatever is fed, a sequencer shows what the plan of its separation shows, and so it gives
no more commands than the script has on any path. Each call comes to an end after three iterations at most, and
the count of the steps in a phase stays far below its greatest value. -/
namespace LayerSeparation

namespace Plan

def tally (p : Plan) (found : Bool) : Plan := if found then { p with recoveries := p.recoveries + 1 } else p

theorem resume_counted (p : Plan) (found : Bool) (t : Script) :
    p.resume (Sequencer.counted found t) = (p.tally found).resume t := by
  cases found <;> rfl

theorem frees_accept {p : Plan} {k : Nat} (frees : p.Frees k) {f : Feedback} {t : Script}
    (accepted : p.stage.accept f = some t) : ∃ owed, t.Frees k owed := by
  unfold Frees at frees
  generalize p.stage = stage at frees accepted
  cases stage with
  | ready u =>
    obtain ⟨-, rfl⟩ := accept_ready_iff.mp accepted
    exact ⟨false, frees⟩
  | awaiting c next =>
    obtain ⟨a, -, rfl⟩ := accept_awaiting_iff.mp accepted
    exact ⟨_, frees a⟩
  | failed e => cases accepted

end Plan
namespace Sequencer
open Script

/-- The iterations of a call, each with the state it begins in, and what they come to. -/
inductive Loops : Sequencer → List Sequencer → Step × Sequencer → Prop where
  | issues {q r : Sequencer} {c : Command} (advanced : q.advance = r.issue c) :
      Loops q [q] (.command c, r.await c)
  | ends {q r : Sequencer} (advanced : q.advance = r.goOn) (ended : r.phase = .done) :
      Loops q [q] (.done, r)
  | goesOn {q r : Sequencer} {visited : List Sequencer} {result : Step × Sequencer}
      (advanced : q.advance = r.goOn) (more : r.phase ≠ .done) (later : Loops r visited result) :
      Loops q (q :: visited) result
  | fails {q r : Sequencer} {e : SeparationError} (advanced : q.advance = r.fail e) :
      Loops q [q] (.failed e, { r with failure := some e })

inductive Calls (q : Sequencer) (f : Feedback) : List Sequencer → Step × Sequencer → Prop where
  | failed {e : SeparationError} (before : q.failure = some e) : Calls q f [] (.failed e, q)
  | refused {e : SeparationError} (sound : q.failure = none) (wrong : q.accept f = .error e) :
      Calls q f [] (.failed e, { q with failure := some e })
  | accepted {r : Sequencer} {visited : List Sequencer} {result : Step × Sequencer}
      (sound : q.failure = none) (taken : q.accept f = .ok r) (loops : Loops r visited result) :
      Calls q f visited result

def events (q : Sequencer) : List Feedback → List Event
  | [] => []
  | f :: fs => .fed f :: (q.next f).1.event (q.next f).2.phase :: (q.next f).2.events fs

def after : Sequencer → List Feedback → Sequencer
  | q, [] => q
  | q, f :: fs => (q.next f).2.after fs

section
variable {p : Plan} {q r : Sequencer} {t : Script} {k n : Nat} {found owed : Bool} {f : Feedback}
  {visited : List Sequencer} {result : Step × Sequencer}

theorem loops_proceed (q : Sequencer) : ∃ visited, Loops q visited q.proceed := by
  fun_induction proceed q with
  | case1 q c r advanced => exact ⟨_, .issues advanced⟩
  | case2 q r advanced ended => exact ⟨_, .ends advanced ended⟩
  | case3 q r advanced more ih =>
    obtain ⟨visited, later⟩ := ih
    exact ⟨_, .goesOn advanced more later⟩
  | case4 q e r advanced => exact ⟨_, .fails advanced⟩

theorem calls_next (q : Sequencer) (f : Feedback) : ∃ visited, Calls q f visited (q.next f) := by
  unfold next
  cases before : q.failure with
  | some e => exact ⟨_, .failed before⟩
  | none =>
    cases taken : q.accept f with
    | error e => exact ⟨_, .refused before taken⟩
    | ok r =>
      obtain ⟨visited, loops⟩ := loops_proceed r
      exact ⟨visited, .accepted before taken loops⟩

/- What an iteration came to tells which of its cases it was. -/
theorem Fits.of_issue {c : Command} (fits : q.Fits) (advanced : q.advance = r.issue c) :
    ∃ found next, r.Fits ∧ q.ahead = counted found (.ask r.phase c next) ∧
      (∀ a, (r.take c a).ahead = next a) ∧ Keeps q r found := by
  have step := iterates_advance fits
  generalize q.advance = outcome at step advanced
  cases step with
  | fails => cases advanced
  | goesOn => cases advanced
  | issues found fits' ahead answered keeps =>
    cases advanced
    exact ⟨found, _, fits', ahead, answered, keeps⟩

theorem Fits.of_goOn (fits : q.Fits) (advanced : q.advance = r.goOn) :
    ∃ found, r.Fits ∧ q.ahead = counted found r.ahead ∧ (r.phase = .done ∨ r.lag < q.lag) ∧
      Keeps q r found := by
  have step := iterates_advance fits
  generalize q.advance = outcome at step advanced
  cases step with
  | fails => cases advanced
  | goesOn found fits' ahead closer keeps =>
    cases advanced
    exact ⟨found, fits', ahead, closer, keeps⟩
  | issues => cases advanced

theorem Fits.of_fail {e : SeparationError} (fits : q.Fits) (advanced : q.advance = r.fail e) :
    q.ahead = .fail e ∧ e.phase = r.phase ∧ r.sub.toNat ≤ 512 ∧ Keeps q r false := by
  have step := iterates_advance fits
  generalize q.advance = outcome at step advanced
  cases step with
  | fails ahead phase few keeps =>
    cases advanced
    exact ⟨ahead, phase, few, keeps⟩
  | goesOn => cases advanced
  | issues => cases advanced

theorem lag_bounds (q : Sequencer) : 0 < q.lag ∧ q.lag ≤ 3 := by
  unfold lag
  split <;> (try split) <;> decide

/-- Each iteration of a call is closer to its end, and the counters fit all the way. -/
theorem Loops.within (loops : Loops q visited result) (fits : q.Fits) :
    visited.length ≤ q.lag ∧ ∀ r ∈ visited, r.Fits := by
  induction loops with
  | issues => exact ⟨(lag_bounds _).1, List.forall_mem_singleton.mpr fits⟩
  | ends => exact ⟨(lag_bounds _).1, List.forall_mem_singleton.mpr fits⟩
  | @goesOn q r visited result advanced more later ih =>
    obtain ⟨found, fits', -, closer, -⟩ := fits.of_goOn advanced
    obtain ⟨length, all⟩ := ih fits'
    have less := closer.resolve_left more
    exact ⟨by rw [List.length_cons]; omega, List.forall_mem_cons.mpr ⟨fits, all⟩⟩
  | fails => exact ⟨(lag_bounds _).1, List.forall_mem_singleton.mpr fits⟩

inductive Follows (q : Sequencer) : Plan.Stage → Prop where
  | ready (sound : q.failure = none) (due : q.expect = .ack) (fits : q.Fits) :
      Follows q (.ready q.ahead)
  | awaiting {c : Command} {next : c.Answer → Script} (sound : q.failure = none)
      (due : q.expect = c.expect) (fits : q.Fits) (answered : ∀ a, (q.take c a).ahead = next a) :
      Follows q (.awaiting c next)
  | failed {e : SeparationError} (before : q.failure = some e) : Follows q (.failed e)

structure Agrees (p : Plan) (q : Sequencer) : Prop where
  stage : q.Follows p.stage
  phase : p.phase = q.phase
  lastAxis : p.lastAxis = q.lastAxis
  recoveries : p.recoveries = q.recoveries
  few : q.phase ≠ .done → q.sub.toNat ≤ 512

structure Level (p : Plan) (q : Sequencer) (k : Nat) : Prop where
  sound : q.failure = none
  due : q.expect = .ack
  lastAxis : p.lastAxis = q.lastAxis
  recoveries : p.recoveries = q.recoveries
  few : p.recoveries.toNat + k ≤ 2

theorem frees_counted (frees : (counted found t).Frees k owed) :
    ∃ left owed, t.Frees left owed ∧ left + found.toNat = k := by
  cases found with
  | false => exact ⟨k, owed, frees, rfl⟩
  | true =>
    obtain ⟨-, left, rfl, later⟩ := frees
    exact ⟨left, false, later, rfl⟩

/- So few recoveries are counted that neither count comes to its end. -/
theorem Level.keeps (level : Level p q k) (keeps : Keeps q r found) (left : n + found.toNat = k) :
    Level (p.tally found) r n := by
  obtain ⟨sound, due, lastAxis, recoveries, few⟩ := level
  have same := keeps.recoveries
  rw [← recoveries] at same
  cases found with
  | false =>
    have level : p.recoveries = r.recoveries := UInt8.toNat_inj.mp same.symm
    exact ⟨keeps.failure.trans sound, keeps.expect.trans due, lastAxis.trans keeps.lastAxis.symm, level,
      by simpa [Plan.tally, ← left] using few⟩
  | true =>
    rw [Bool.toNat_true] at left
    have more : (p.recoveries + 1).toNat = p.recoveries.toNat + 1 := by
      rw [UInt8.toNat_add]
      show (p.recoveries.toNat + 1) % 256 = _
      omega
    have level : p.recoveries + 1 = r.recoveries := by
      rw [← UInt8.toNat_inj, more, same, if_pos rfl]
      omega
    refine ⟨keeps.failure.trans sound, keeps.expect.trans due, lastAxis.trans keeps.lastAxis.symm, level, ?_⟩
    show (p.recoveries + 1).toNat + n ≤ 2
    omega

theorem Loops.resumes (loops : Loops q visited result) (fits : q.Fits) (level : Level p q k)
    (frees : q.ahead.Frees k owed) :
    (p.resume q.ahead).1 = result.1 ∧ Agrees (p.resume q.ahead).2 result.2 := by
  -- over the iterations; each may count a recovery, so the plan and what is still owed change with them
  induction loops generalizing p k owed with
  | @issues q r c advanced =>
    obtain ⟨found, next, fits', ahead, answered, keeps⟩ := fits.of_issue advanced
    rw [ahead] at frees ⊢
    obtain ⟨left, -, -, few⟩ := frees_counted frees
    have level' := level.keeps keeps few
    rw [Plan.resume_counted]
    refine ⟨rfl, .awaiting level'.sound rfl fits' fun a => ?_, rfl, ?_, level'.recoveries, fun unfinished => ?_⟩
    · rw [← answered a]
      cases c <;> rfl
    · show c.axis.getD (p.tally found).lastAxis = c.axis.getD r.lastAxis
      rw [level'.lastAxis]
    · have small := Fits.few fits' unfinished
      show r.sub.toNat ≤ 512
      omega
  | @ends q r advanced ended =>
    obtain ⟨found, fits', ahead, -, keeps⟩ := fits.of_goOn advanced
    rw [ahead] at frees ⊢
    obtain ⟨left, -, -, few⟩ := frees_counted frees
    have level' := level.keeps keeps few
    have nothing : r.ahead = .done := by simp only [Sequencer.ahead, ended]
    have stage := Follows.ready level'.sound level'.due fits'
    rw [nothing] at stage
    rw [Plan.resume_counted, nothing]
    exact ⟨rfl, stage, ended.symm, level'.lastAxis, level'.recoveries, fun more => absurd ended more⟩
  | @goesOn q r visited result advanced more later ih =>
    obtain ⟨found, fits', ahead, -, keeps⟩ := fits.of_goOn advanced
    rw [ahead] at frees ⊢
    obtain ⟨left, owed', frees', few⟩ := frees_counted frees
    rw [Plan.resume_counted]
    exact ih fits' (level.keeps keeps few) frees'
  | @fails q r e advanced =>
    obtain ⟨ahead, phase, few, keeps⟩ := fits.of_fail advanced
    have level' := level.keeps keeps (Nat.add_zero k)
    rw [ahead]
    exact ⟨rfl, .failed rfl, phase, level'.lastAxis, level'.recoveries, fun _ => few⟩

theorem accept_take {c : Command} (due : q.expect = c.expect) (a : c.Answer) :
    q.accept (c.feedback a) = .ok { q.take c a with expect := .ack } := by
  cases c <;> simp only [accept, due, Command.expect, Command.feedback, take]

theorem accept_refused {c : Command} (due : q.expect = c.expect) (unanswered : f.answer? c = none) :
    q.accept f = .error (.axisCommandFailure q.lastAxis q.phase .invalidResponse) := by
  cases c <;> cases f <;> simp_all [accept, Command.expect, Feedback.answer?]

theorem accept_ack_refused (due : q.expect = .ack) (other : f ≠ .none) :
    q.accept f = .error (.axisCommandFailure q.lastAxis q.phase .invalidResponse) := by
  cases f <;> simp_all [accept]

theorem fits_take {c : Command} (a : c.Answer) (fits : q.Fits) : (q.take c a).Fits := by
  cases c <;> exact fits

theorem next_of_accept (sound : q.failure = none) (taken : q.accept f = .ok r) : q.next f = r.proceed := by
  simp only [next, sound, taken]

theorem next_of_refused {e : SeparationError} (sound : q.failure = none) (wrong : q.accept f = .error e) :
    q.next f = (.failed e, { q with failure := some e }) := by
  simp only [next, sound, wrong]

theorem next_of_failed {e : SeparationError} (before : q.failure = some e) : q.next f = (.failed e, q) := by
  simp only [next, before]

theorem Agrees.refused (agrees : Agrees p q) (sound : q.failure = none)
    (unaccepted : p.stage.accept f = none)
    (wrong : q.accept f = .error (.axisCommandFailure q.lastAxis q.phase .invalidResponse)) :
    (p.next f).1 = (q.next f).1 ∧ Agrees (p.next f).2 (q.next f).2 := by
  have unfailed : ∀ e, p.stage ≠ .failed e := by
    intro e failed
    have follows := agrees.stage
    rw [failed] at follows
    cases follows with
    | failed before => cases sound.symm.trans before
  rw [← agrees.lastAxis, ← agrees.phase] at wrong
  rw [Plan.next_of_unaccepted unaccepted unfailed, next_of_refused sound wrong]
  exact ⟨rfl, .failed rfl, agrees.phase, agrees.lastAxis, agrees.recoveries, agrees.few⟩

/-- One call does what one step of the plan does. -/
theorem Agrees.next (agrees : Agrees p q) (frees : p.Frees k) (few : p.recoveries.toNat + k ≤ 2)
    (f : Feedback) : (p.next f).1 = (q.next f).1 ∧ Agrees (p.next f).2 (q.next f).2 := by
  have follows := agrees.stage
  generalize standing : p.stage = stage at follows
  cases follows with
  | ready sound due fits =>
    by_cases given : f = .none
    · have accepted : p.stage.accept f = some q.ahead := by
        rw [standing]
        exact Plan.accept_ready_iff.mpr ⟨given, rfl⟩
      have taken : q.accept f = .ok { q with expect := .ack } := by simp only [given, accept, due]
      obtain ⟨owed, owes⟩ := Plan.frees_accept frees accepted
      obtain ⟨visited, loops⟩ := loops_proceed { q with expect := .ack }
      rw [Plan.next_of_accept accepted, next_of_accept sound taken]
      exact loops.resumes fits ⟨sound, rfl, agrees.lastAxis, agrees.recoveries, few⟩ owes
    · have unaccepted : p.stage.accept f = none := by
        rw [standing]
        exact if_neg given
      exact agrees.refused sound unaccepted (accept_ack_refused due given)
  | @awaiting c next sound due fits answered =>
    cases answer : f.answer? c with
    | some a =>
      obtain rfl := answer?_eq_some_iff.mp answer
      have accepted : p.stage.accept (c.feedback a) = some (q.take c a).ahead := by
        rw [standing, answered a]
        exact Plan.accept_awaiting_iff.mpr ⟨a, rfl, rfl⟩
      have level : Level p { q.take c a with expect := .ack } k := by
        cases c <;> exact ⟨sound, rfl, agrees.lastAxis, agrees.recoveries, few⟩
      obtain ⟨owed, owes⟩ := Plan.frees_accept frees accepted
      obtain ⟨visited, loops⟩ := loops_proceed { q.take c a with expect := .ack }
      rw [Plan.next_of_accept accepted, next_of_accept sound (accept_take due a)]
      exact loops.resumes (fits_take a fits) level owes
    | none =>
      have unaccepted : p.stage.accept f = none := by
        rw [standing]
        exact Option.map_eq_none_iff.mpr answer
      exact agrees.refused sound unaccepted (accept_refused due answer)
  | @failed e before =>
    have stays : p.next f = (.failed e, p) := by simp only [Plan.next, standing]
    rw [stays, next_of_failed before]
    exact ⟨rfl, agrees⟩

theorem agrees_start (s : Setup) : Agrees (.ofSetup s) (ofSetup s) := by
  have ahead : (ofSetup s).ahead = separation s := onward_idle s
  have start : (ofSetup s).Follows (.ready (ofSetup s).ahead) := .ready rfl rfl (Nat.zero_le 2)
  rw [ahead] at start
  exact ⟨start, rfl, rfl, rfl, fun _ => Nat.zero_le 512⟩

theorem run_agrees (s : Setup) (before : List Feedback)
    (agrees : Agrees ((Plan.ofSetup s).after before) q) (fs : List Feedback) :
    q.events fs = ((Plan.ofSetup s).after before).events fs ∧
      Agrees ((Plan.ofSetup s).after (before ++ fs)) (q.after fs) := by
  -- what was fed before stays, since it tells how many recoveries can still be counted
  induction fs generalizing q before with
  | nil =>
    rw [List.append_nil]
    exact ⟨rfl, agrees⟩
  | cons f fs ih =>
    obtain ⟨k, frees, few⟩ := Plan.frees_after s before
    obtain ⟨shown, agrees'⟩ := agrees.next frees few f
    have later : (((Plan.ofSetup s).after before).next f).2 = (Plan.ofSetup s).after (before ++ [f]) :=
      (Plan.after_append _ before [f]).symm
    rw [events, Plan.events, ← shown, ← agrees'.phase]
    rw [later] at agrees' ⊢
    obtain ⟨same, last⟩ := ih _ agrees'
    rw [List.append_assoc] at last
    exact ⟨by rw [same], last⟩

theorem agrees_after (s : Setup) (fs : List Feedback) :
    (ofSetup s).events fs = (Plan.ofSetup s).events fs ∧
      Agrees ((Plan.ofSetup s).after fs) ((ofSetup s).after fs) :=
  run_agrees s [] (agrees_start s) fs

theorem Agrees.fits (agrees : Agrees p q) (sound : q.failure = none) : q.Fits := by
  have follows := agrees.stage
  generalize p.stage = stage at follows
  cases follows with
  | ready _ _ fits => exact fits
  | awaiting _ _ fits _ => exact fits
  | failed before => cases sound.symm.trans before

theorem fits_accept (fits : q.Fits) (taken : q.accept f = .ok r) : r.Fits := by
  unfold accept at taken
  split at taken <;> cases taken <;> exact fits

theorem count_lt (few : q.sub.toNat ≤ 512) : q.count.sub < 0xffff := by
  rw [UInt16.lt_iff_toNat_lt, count, UInt16.toNat_ofNat_of_lt' (by simp only [UInt16.size]; omega)]
  show min (q.sub.toNat + 1) 0xffff < 0xffff
  omega

theorem Agrees.calls (agrees : Agrees p q) (calls : Calls q f visited result) :
    visited.length ≤ 3 ∧ ∀ r ∈ q :: visited, r.phase ≠ .done → r.count.sub < 0xffff := by
  have here : q.phase ≠ .done → q.count.sub < 0xffff := fun more => count_lt (agrees.few more)
  cases calls with
  | failed => exact ⟨Nat.zero_le 3, by simpa using here⟩
  | refused => exact ⟨Nat.zero_le 3, by simpa using here⟩
  | @accepted r _ _ sound taken loops =>
    obtain ⟨length, all⟩ := loops.within (fits_accept (agrees.fits sound) taken)
    refine ⟨Nat.le_trans length r.lag_bounds.2, List.forall_mem_cons.mpr ⟨here, fun r mem more => ?_⟩⟩
    have few := Fits.few (all r mem) more
    exact count_lt (by omega)

end

/-- Bounded runs, for every setup and all feedback: what comes out is what comes out of the plan, the commands are
no more than the setup may take, and each call takes three iterations at most. Neither between two calls nor in
any iteration is the steps' greatest count reached, unless the separation is done. -/
theorem bounded_run (s : Setup) (fs : List Feedback) :
    (ofSetup s).events fs = (Plan.ofSetup s).events fs ∧
      ((ofSetup s).events fs).countP Event.isCommand ≤ s.mostCommands ∧
      ∀ f, ∃ visited, Calls ((ofSetup s).after fs) f visited (((ofSetup s).after fs).next f) ∧
        visited.length ≤ 3 ∧
        ∀ r ∈ (ofSetup s).after fs :: visited, r.phase ≠ .done → r.count.sub < 0xffff := by
  obtain ⟨same, agrees⟩ := agrees_after s fs
  refine ⟨same, ?_, fun f => ?_⟩
  · rw [same]
    exact Plan.commands_le s fs
  · obtain ⟨visited, calls⟩ := calls_next ((ofSetup s).after fs) f
    exact ⟨visited, calls, agrees.calls calls⟩

end Sequencer
end LayerSeparation
