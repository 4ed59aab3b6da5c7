import LayerSeparation.Proofs.BoundedRun

/-! The order in which a separation goes through its phases. Whatever is fed, no call and no iteration of a call
goes back to an earlier phase, and every phase gives its commands in one piece and to its own axis. A
separation that has failed stays where it failed, and one that is done stays done. -/
namespace LayerSeparation

/-- Only the phases of the tilt address the tilt, and all the others the tower. Any phase may wait. -/
def Phase.Owns (phase : Phase) (c : Command) : Prop :=
  (∃ ms, c = .wait ms) ∨ c.axis = some (if phase.isTilt then .tilt else .tower)

namespace Phase

theorem le_of_eq {p q : Phase} (h : p = q) : p ≤ q := h ▸ Nat.le_refl _

theorem owns_wait (phase : Phase) (ms : UInt32) : phase.Owns (.wait ms) := .inl ⟨ms, rfl⟩

theorem owns_tilt {phase : Phase} {c : Command} (tilt : phase.isTilt) (axis : c.axis = some .tilt) :
    phase.Owns c := .inr (by rw [axis, if_pos tilt])

end Phase

theorem Step.event_eq_issued_iff {step : Step} {phase p : Phase} {c : Command} :
    step.event phase = .issued p c ↔ phase = p ∧ step = .command c := by
  cases step <;> simp [Step.event]

def Event.Precedes (d e : Event) : Prop :=
  ∀ p c q c', d = .issued p c → e = .issued q c' → p ≤ q

namespace Sequencer

def Tilted (q : Sequencer) : Prop := q.phase.isTilt → q.setup.tilt.isSome

theorem Tilted.congr {q r : Sequencer} (h : q.Tilted) (phase : r.phase = q.phase)
    (setup : r.setup = q.setup) : r.Tilted := by
  unfold Tilted
  rwa [phase, setup]

/-- All that an iteration can do to the phase: a command and a failure leave it, and what is entered without a
command does not lie before it. -/
inductive Proceeds (q : Sequencer) : Outcome → Prop where
  | issues {r : Sequencer} {c : Command} (same : r.phase = q.phase) (setup : r.setup = q.setup)
      (own : q.phase.Owns c) : Proceeds q (r.issue c)
  | enters {r : Sequencer} (later : q.phase ≤ r.phase) (setup : r.setup = q.setup) (tilted : r.Tilted) :
      Proceeds q r.goOn
  | fails {r : Sequencer} {e : SeparationError} (same : r.phase = q.phase) (setup : r.setup = q.setup) :
      Proceeds q (r.fail e)

section
variable {q r : Sequencer} {step : UInt16} {phase following : Phase} {s : Setup}
  {visited : List Sequencer} {result : Step × Sequencer} {f : Feedback}

theorem Proceeds.of_count {outcome : Outcome} (h : Proceeds q.count outcome) : Proceeds q outcome := by
  cases h with
  | issues same setup own => exact .issues same setup own
  | enters later setup tilted => exact .enters later setup tilted
  | fails same setup => exact .fails same setup

theorem proceeds_enter (later : q.phase ≤ phase) (tilt : phase.isTilt → q.setup.tilt.isSome) :
    Proceeds q (q.enter phase).goOn :=
  .enters later rfl tilt

theorem proceeds_withMoves {act : TiltMoves → Outcome}
    (each : ∀ moves, q.setup.tilt = some moves → Proceeds q (act moves)) : Proceeds q (q.withMoves act) := by
  unfold withMoves
  cases tilt : q.setup.tilt with
  | some moves => exact each moves tilt
  | none => exact .fails rfl rfl

theorem proceeds_pause {ms : UInt32} (later : q.phase ≤ following)
    (tilt : following.isTilt → q.setup.tilt.isSome) : Proceeds q (q.pause step ms following) := by
  unfold pause
  split
  · exact .issues rfl rfl (Phase.owns_wait _ ms)
  · exact proceeds_enter later tilt

theorem proceeds_curve {pick : TiltMoves → TiltCurve} (tilted : q.Tilted) (here : q.phase.isTilt)
    (later : q.phase ≤ following) : Proceeds q (q.curve step pick following) := by
  unfold curve
  split
  · refine proceeds_withMoves fun moves _ => ?_
    exact .issues rfl rfl (Phase.owns_tilt here rfl)
  · exact proceeds_enter later fun _ => tilted here

theorem proceeds_cycles {target : Int32} {profile : MovingProfile} (tilted : q.Tilted)
    (here : q.phase.isTilt) (later : q.phase ≤ following) :
    Proceeds q (q.cycles step target profile following) := by
  unfold cycles
  split
  · exact .issues rfl rfl (Phase.owns_tilt here rfl)
  · dsimp only
    split
    · exact .fails rfl rfl
    · split
      · exact proceeds_enter later fun _ => tilted here
      · exact .issues rfl rfl (Phase.owns_tilt here rfl)
      · exact .issues rfl rfl (Phase.owns_wait _ _)

theorem proceeds_afterTiltUp (later : q.phase ≤ .towerLower) : Proceeds q q.afterTiltUp.goOn := by
  unfold afterTiltUp
  split
  · exact proceeds_enter later nofun
  · exact proceeds_enter (Nat.le_trans later (by decide)) nofun

theorem proceeds_leaveCheck (checks : q.Checks) : Proceeds q q.leaveCheck.goOn := by
  unfold leaveCheck
  rcases checks with here | here | here | here <;> simp only [here]
  · exact proceeds_enter (by rw [here]; decide) nofun
  · exact proceeds_enter (by rw [here]; decide) nofun
  · exact proceeds_afterTiltUp (by rw [here]; decide)
  · exact proceeds_afterTiltUp (by rw [here]; decide)

theorem proceeds_check {target : Int32} {profile : MovingProfile} (tilted : q.Tilted) (checks : q.Checks)
    (here : q.phase.isTilt) (later : q.phase ≤ phase) :
    Proceeds q (q.check step target profile phase) := by
  unfold check
  split
  · exact .issues rfl rfl (Phase.owns_tilt here rfl)
  split
  · exact .issues rfl rfl (Phase.owns_tilt here rfl)
  split
  · exact proceeds_leaveCheck checks
  · exact .enters later rfl fun _ => tilted here

theorem proceeds_attempt {restore : Option Int32} (tilted : q.Tilted) (checks : q.Checks)
    (here : q.phase.isTilt) : Proceeds q (q.attempt restore) := by
  unfold attempt
  split
  · next homing _ =>
    cases restore with
    | some position => exact .issues rfl rfl (Phase.owns_tilt here rfl)
    | none =>
      cases proceeds_leaveCheck (q := q.freed homing) checks with
      | enters later setup tilted => exact .enters later setup tilted
  · exact .enters (Nat.le_refl _) rfl tilted
  · exact .fails rfl rfl

theorem proceeds_free {restore : Option Int32} (tilted : q.Tilted) (checks : q.Checks)
    (here : q.phase.isTilt) : Proceeds q (q.free step restore) := by
  unfold free
  split
  · exact proceeds_leaveCheck checks
  split
  · split
    · exact .fails rfl rfl
    · exact .issues rfl rfl (Phase.owns_tilt here rfl)
  · exact proceeds_attempt tilted checks here

theorem proceeds_advance (tilted : q.Tilted) : Proceeds q q.advance := by
  have counted : q.count.Tilted := tilted
  have upTo {p p' : Phase} (here : q.phase = p) (order : p ≤ p') : q.count.phase ≤ p' := by
    rwa [count_phase, here]
  have tilting {p : Phase} (here : q.phase = p) (tilt : p.isTilt) : q.count.phase.isTilt := by
    rwa [count_phase, here]
  apply Proceeds.of_count
  unfold advance
  cases here : q.phase <;> simp only [count_phase, here]
  case idle => exact proceeds_enter (upTo here (by decide)) nofun
  case settleAfterExposure =>
    by_cases tilt : q.setup.tilt.isSome
    · simp only [count_setup, tilt, if_true]
      exact proceeds_pause (upTo here (by decide)) fun _ => tilt
    · simp only [count_setup, tilt]
      exact proceeds_pause (upTo here (by decide)) nofun
  case tiltDownInitial =>
    refine proceeds_withMoves fun moves tilt => ?_
    have owns {c : Command} (axis : c.axis = some .tilt) := Phase.owns_tilt (tilting here rfl) axis
    split
    · exact .issues rfl rfl (owns rfl)
    split
    · exact .issues rfl rfl (owns rfl)
    · exact proceeds_enter (upTo here (by decide)) fun _ => counted (tilting here rfl)
  case tiltDownOffsetWait =>
    refine proceeds_withMoves fun moves _ => ?_
    exact proceeds_pause (upTo here (by decide)) fun _ => counted (tilting here rfl)
  case tiltDownFinish => exact proceeds_curve counted (tilting here rfl) (upTo here (by decide))
  case tiltDownCycles =>
    refine proceeds_withMoves fun moves _ => ?_
    exact proceeds_cycles counted (tilting here rfl) (upTo here (by decide))
  case stallCheck =>
    refine proceeds_withMoves fun moves _ => ?_
    exact proceeds_check counted (.inl here) (tilting here rfl) (upTo here (by decide))
  case unstuck => exact proceeds_free counted (.inr (.inl here)) (tilting here rfl)
  case tower =>
    have owns {c : Command} (axis : c.axis = some .tower) : q.count.phase.Owns c := by
      refine .inr ?_
      rw [axis, count_phase, here]
      rfl
    split
    · exact .issues rfl rfl (owns rfl)
    split
    · split
      · exact .issues rfl rfl (owns rfl)
      · exact .issues rfl rfl (owns rfl)
    split
    · next tilt => exact proceeds_enter (upTo here (by decide)) fun _ => tilt
    · exact proceeds_afterTiltUp (upTo here (by decide))
  case tiltUpInitial =>
    refine proceeds_withMoves fun moves tilt => ?_
    have owns {c : Command} (axis : c.axis = some .tilt) := Phase.owns_tilt (tilting here rfl) axis
    split
    · exact .issues rfl rfl (owns rfl)
    split
    · split
      · exact .issues rfl rfl (owns rfl)
      · exact .fails rfl rfl
    · exact proceeds_enter (upTo here (by decide)) fun _ => counted (tilting here rfl)
  case tiltUpOffsetWait =>
    refine proceeds_withMoves fun moves _ => ?_
    exact proceeds_pause (upTo here (by decide)) fun _ => counted (tilting here rfl)
  case tiltUpFinish => exact proceeds_curve counted (tilting here rfl) (upTo here (by decide))
  case tiltUpCycles =>
    refine proceeds_withMoves fun moves _ => ?_
    exact proceeds_cycles counted (tilting here rfl) (upTo here (by decide))
  case tiltUpStallCheck =>
    refine proceeds_withMoves fun moves _ => ?_
    exact proceeds_check counted (.inr (.inr (.inl here))) (tilting here rfl) (upTo here (by decide))
  case tiltUpUnstuck => exact proceeds_free counted (.inr (.inr (.inr here))) (tilting here rfl)
  case towerLower =>
    split
    · refine .issues rfl rfl (.inr ?_)
      rw [count_phase, here]
      rfl
    · exact proceeds_enter (upTo here (by decide)) nofun
  case settleBeforeExposure => exact proceeds_pause (upTo here (by decide)) nofun
  case done => exact .enters (Nat.le_refl _) rfl counted

end

/-- Along these states the phase never goes back, and none is in a phase of the tilt without one. -/
structure Climbs (s : Setup) (states : List Sequencer) : Prop where
  rising : states.Pairwise fun q r => q.phase ≤ r.phase
  setup : ∀ q ∈ states, q.setup = s
  tilted : ∀ q ∈ states, q.Tilted

section
variable {q r : Sequencer} {s : Setup} {states visited : List Sequencer} {result : Step × Sequencer}
  {f : Feedback}

theorem climbs_pair (later : q.phase ≤ r.phase) (setup : r.setup = q.setup) (start : q.Tilted)
    (stop : r.Tilted) : Climbs q.setup [q, r] :=
  ⟨by simpa using later, by simpa using setup, by simpa using ⟨start, stop⟩⟩

theorem Climbs.again (h : Climbs s (q :: states)) : Climbs s (q :: q :: states) := by
  obtain ⟨rising, setup, tilted⟩ := h
  refine ⟨List.pairwise_cons.mpr ⟨?_, rising⟩, ?_, ?_⟩
  · exact List.forall_mem_cons.mpr ⟨Nat.le_refl _, (List.pairwise_cons.mp rising).1⟩
  · exact List.forall_mem_cons.mpr ⟨setup q List.mem_cons_self, setup⟩
  · exact List.forall_mem_cons.mpr ⟨tilted q List.mem_cons_self, tilted⟩

theorem Climbs.since (h : Climbs s (r :: states)) (later : q.phase ≤ r.phase) (setup : q.setup = s)
    (start : q.Tilted) : Climbs s (q :: states) := by
  have from_r := List.pairwise_cons.mp h.rising
  refine ⟨List.pairwise_cons.mpr ⟨fun t mem => ?_, from_r.2⟩, ?_, ?_⟩
  · exact Nat.le_trans later (from_r.1 t mem)
  · exact List.forall_mem_cons.mpr ⟨setup, (List.forall_mem_cons.mp h.setup).2⟩
  · exact List.forall_mem_cons.mpr ⟨start, (List.forall_mem_cons.mp h.tilted).2⟩

theorem Loops.climbs (loops : Loops q visited result) (tilted : q.Tilted) :
    Climbs q.setup (q :: (visited ++ [result.2])) ∧
      ∀ c, result.1 = .command c → result.2.phase.Owns c := by
  induction loops with
  | @issues q r c advanced =>
    have step := proceeds_advance tilted
    rw [advanced] at step
    cases step with
    | issues same setup own =>
      have climbs : Climbs q.setup [q, r.await c] :=
        climbs_pair (Phase.le_of_eq same.symm) setup tilted (tilted.congr same setup)
      refine ⟨climbs.again, ?_⟩
      rintro d ⟨⟩
      exact same ▸ own
  | @ends q r advanced ended =>
    have step := proceeds_advance tilted
    rw [advanced] at step
    cases step with
    | enters later setup stop => exact ⟨(climbs_pair later setup tilted stop).again, nofun⟩
  | @goesOn q r visited result advanced more later ih =>
    have step := proceeds_advance tilted
    rw [advanced] at step
    cases step with
    | enters later setup start =>
      obtain ⟨climbs, owned⟩ := ih start
      rw [setup] at climbs
      exact ⟨(climbs.since later rfl tilted).again, owned⟩
  | @fails q r e advanced =>
    have step := proceeds_advance tilted
    rw [advanced] at step
    cases step with
    | fails same setup =>
      have climbs : Climbs q.setup [q, { r with failure := some e }] :=
        climbs_pair (Phase.le_of_eq same.symm) setup tilted (tilted.congr same setup)
      exact ⟨climbs.again, nofun⟩

theorem accept_keeps (taken : q.accept f = .ok r) : r.phase = q.phase ∧ r.setup = q.setup := by
  unfold accept at taken
  split at taken <;> cases taken <;> exact ⟨rfl, rfl⟩

theorem Calls.climbs (calls : Calls q f visited result) (tilted : q.Tilted) :
    Climbs q.setup (q :: (visited ++ [result.2])) ∧
      ∀ c, result.1 = .command c → result.2.phase.Owns c := by
  cases calls with
  | failed before => exact ⟨climbs_pair (Nat.le_refl _) rfl tilted tilted, nofun⟩
  | refused sound wrong => exact ⟨climbs_pair (Nat.le_refl _) rfl tilted tilted, nofun⟩
  | accepted sound taken loops =>
    obtain ⟨phase, setup⟩ := accept_keeps taken
    obtain ⟨climbs, owned⟩ := loops.climbs (tilted.congr phase setup)
    rw [setup] at climbs
    exact ⟨climbs.since (Phase.le_of_eq phase.symm) rfl tilted, owned⟩

theorem next_climbs (tilted : q.Tilted) (f : Feedback) :
    q.phase ≤ (q.next f).2.phase ∧ (q.next f).2.setup = q.setup ∧ (q.next f).2.Tilted ∧
      ∀ c, (q.next f).1 = .command c → (q.next f).2.phase.Owns c := by
  obtain ⟨visited, calls⟩ := calls_next q f
  obtain ⟨climbs, owned⟩ := calls.climbs tilted
  have last : (q.next f).2 ∈ visited ++ [(q.next f).2] := by simp
  have rising := (List.pairwise_cons.mp climbs.rising).1
  have mem := List.mem_cons_of_mem q last
  exact ⟨rising _ last, climbs.setup _ mem, climbs.tilted _ mem, owned⟩

theorem after_append (q : Sequencer) (fs gs : List Feedback) :
    q.after (fs ++ gs) = (q.after fs).after gs := by
  induction fs generalizing q with
  | nil => rfl
  | cons f fs ih => exact ih _

theorem after_climbs (tilted : q.Tilted) (fs : List Feedback) :
    q.phase ≤ (q.after fs).phase ∧ (q.after fs).setup = q.setup ∧ (q.after fs).Tilted := by
  induction fs generalizing q with
  | nil => exact ⟨Nat.le_refl _, rfl, tilted⟩
  | cons f fs ih =>
    obtain ⟨first, setup, tilted', -⟩ := next_climbs tilted f
    obtain ⟨rest, setup', last⟩ := ih tilted'
    exact ⟨Nat.le_trans first rest, setup'.trans setup, last⟩

/-- Whatever is given in a run belongs to no phase before the one it began in. -/
theorem later_of_issued (tilted : q.Tilted) {fs : List Feedback} {phase : Phase} {c : Command}
    (h : .issued phase c ∈ q.events fs) : q.phase ≤ phase ∧ phase.Owns c := by
  induction fs generalizing q with
  | nil => cases h
  | cons f fs ih =>
    obtain ⟨first, -, tilted', owned⟩ := next_climbs tilted f
    rcases List.mem_cons.mp h with h | h
    · cases h
    rcases List.mem_cons.mp h with h | h
    · obtain ⟨rfl, given⟩ := Step.event_eq_issued_iff.mp h.symm
      exact ⟨first, owned c given⟩
    · obtain ⟨rest, own⟩ := ih tilted' h
      exact ⟨Nat.le_trans first rest, own⟩

theorem events_precede (tilted : q.Tilted) (fs : List Feedback) :
    (q.events fs).Pairwise Event.Precedes := by
  induction fs generalizing q with
  | nil => exact .nil
  | cons f fs ih =>
    obtain ⟨-, -, tilted', -⟩ := next_climbs tilted f
    have unsent : ∀ e ∈ (q.next f).1.event (q.next f).2.phase :: (q.next f).2.events fs,
        Event.Precedes (.fed f) e := by
      intro e _ p c p' c' fed
      cases fed
    refine .cons unsent (.cons ?_ (ih tilted'))
    rintro e mem p c p' c' given rfl
    obtain ⟨rfl, -⟩ := Step.event_eq_issued_iff.mp given
    exact (later_of_issued tilted' mem).1

theorem tilted_ofSetup (s : Setup) : (ofSetup s).Tilted := nofun

end
end Sequencer

namespace Script

theorem within_lowers (s : Setup) :
    (separation s).Within fun phase _ => phase = .towerLower → s.hops = true := by
  have elsewhere : ∀ phases : List Phase, .towerLower ∉ phases → ∀ (axis : Axis) (phase : Phase) (c : Command),
      Sparing axis phases phase c → phase = .towerLower → s.hops = true := by
    rintro phases outside axis _ c ⟨mem, -⟩ rfl
    exact absurd mem outside
  refine within_separation ?_ (fun moves _ => ?_) ?_ (fun moves _ => ?_) ?_ ?_
  · exact within_pause nofun trivial
  · exact (within_wayDown moves.down).mono (elsewhere _ (by decide) _)
  · exact (within_towerRaise s).mono fun phase c own here => by cases own.1.symm.trans here
  · exact (within_wayUp s.geometry moves.up).mono (elsewhere _ (by decide) _)
  · unfold towerLower
    split
    · next hops => exact ⟨fun _ => hops, fun _ => trivial⟩
    · trivial
  · exact within_pause nofun trivial

theorem lowered_of_ends {s : Setup} {turns : List Turn} (h : (separation s).Ends turns)
    (hops : s.hops = true) : ∃ x ∈ turns, x.phase = .towerLower := by
  rw [separation_eq] at h
  simp only [ends_andThen_iff] at h
  obtain ⟨after, _, rfl, -, down, _, rfl, -, raise, _, rfl, -, up, _, rfl, -, lower, before, rfl,
    lowered, -⟩ := h
  rcases ends_towerLower lowered with ⟨-, rfl⟩ | ⟨flat, -⟩
  · exact ⟨⟨.towerLower, .moveAbsolute .tower s.nextLayerNm, ()⟩, by simp, rfl⟩
  · cases hops.symm.trans flat

end Script

namespace Plan

theorem lowers_iff {s : Setup} {fs : List Feedback} (ended : .done ∈ (ofSetup s).events fs) :
    (∃ c, .issued .towerLower c ∈ (ofSetup s).events fs) ↔ s.hops = true := by
  constructor
  · rintro ⟨c, given⟩
    obtain ⟨before, here⟩ := prefix_of_mem given
    obtain ⟨turns, -, path⟩ := path_of_issued here
    exact (path.within (Script.within_lowers s)).2 rfl
  · intro hops
    obtain ⟨before, here⟩ := prefix_of_mem ended
    obtain ⟨turns, seen, path⟩ := path_of_done here
    obtain ⟨x, mem, lowered⟩ := Script.lowered_of_ends path hops
    have early : .issued .towerLower x.command ∈ before :=
      seen.subset (mem_history_iff.mpr ⟨x, mem, lowered, rfl⟩)
    exact ⟨x.command, here.subset (List.mem_append_left _ early)⟩

structure Progress (s : Setup) (fs : List Feedback) : Prop where
  rising : ∀ gs, ((ofSetup s).after fs).phase ≤ ((ofSetup s).after (fs ++ gs)).phase
  climbing : ((ofSetup s).after fs).phase = ((Sequencer.ofSetup s).after fs).phase ∧
    ∀ f visited, let q := (Sequencer.ofSetup s).after fs
      Sequencer.Calls q f visited (q.next f) → Sequencer.Climbs s (q :: (visited ++ [(q.next f).2]))
  /-- Nothing comes between two commands of one phase but others of that phase. -/
  contiguous : ∀ phase c d before between behind,
    (ofSetup s).events fs = before ++ .issued phase c :: (between ++ .issued phase d :: behind) →
      ∀ q b, .issued q b ∈ between → q = phase
  tilted : ((ofSetup s).after fs).phase.isTilt → s.tilt.isSome
  owned : ∀ phase c, .issued phase c ∈ (ofSetup s).events fs → phase.Owns c
  lowers_iff : .done ∈ (ofSetup s).events fs →
    ((∃ c, .issued .towerLower c ∈ (ofSetup s).events fs) ↔ 0 < s.params.towerHopHeightNm)
  failed_for_good : ∀ f e, let p := (ofSetup s).after fs
    (p.next f).1 = .failed e → ∀ gs g, ((p.next f).2.after gs).next g = (.failed e, (p.next f).2)
  done_again : ∀ f, let p := (ofSetup s).after fs
    (p.next f).1 = .done → (p.next f).2.next .none = (.done, (p.next f).2)

theorem stage_of_failed {p : Plan} {f : Feedback} {e : SeparationError} (h : (p.next f).1 = .failed e) :
    (p.next f).2.stage = .failed e := by
  rcases next_cases p f with ⟨t, phase, c, next, -, -, shown, -⟩ | ⟨t, -, -, shown, -⟩ | ⟨x, shown, stage⟩
  · rw [h] at shown
    cases shown
  · rw [h] at shown
    cases shown
  · rw [h] at shown
    cases shown
    exact stage

theorem resume_again {p : Plan} {t : Script} (h : (p.resume t).1 = .done) :
    (p.resume t).2.next .none = (.done, (p.resume t).2) := by
  induction t generalizing p with
  | done => rfl
  | fail e => cases h
  | recovered t ih => exact ih h
  | ask phase c next ih => cases h

theorem again_of_done {p : Plan} {f : Feedback} (h : (p.next f).1 = .done) :
    (p.next f).2.next .none = (.done, (p.next f).2) := by
  cases accepted : p.stage.accept f with
  | some t =>
    rw [next_of_accept accepted] at h ⊢
    exact resume_again h
  | none =>
    obtain ⟨e, failed, -⟩ := next_of_not_accept accepted
    cases h.symm.trans failed

/-- Progress, for every accepted setup and all feedback. -/
theorem progress {table : MovingProfileTable} {params : LayerParams} {geometry : TiltGeometry}
    {nextLayerNm : Int32} {s : Setup} (accepted : Setup.resolve table params geometry nextLayerNm = .ok s)
    (fs : List Feedback) : Progress s fs := by
  have resolved := Setup.resolved_of_eq_ok accepted
  obtain ⟨same, agrees⟩ := Sequencer.agrees_after s fs
  obtain ⟨-, setup, tilted⟩ := Sequencer.after_climbs (Sequencer.tilted_ofSetup s) fs
  constructor
  · intro gs
    have later := (Sequencer.after_climbs tilted gs).1
    rw [← Sequencer.after_append] at later
    rwa [agrees.phase, (Sequencer.agrees_after s (fs ++ gs)).2.phase]
  · refine ⟨agrees.phase, ?_⟩
    intro f visited q calls
    have climbs := (calls.climbs tilted).1
    rwa [setup] at climbs
  · intro phase c d before between behind split q b mem
    have order := Sequencer.events_precede (Sequencer.tilted_ofSetup s) fs
    rw [same, split] at order
    have rest := (List.pairwise_append.mp order).2.1
    obtain ⟨first, rest⟩ := List.pairwise_cons.mp rest
    have last := (List.pairwise_append.mp rest).2.2
    have low := first (.issued q b) (List.mem_append_left _ mem) _ _ _ _ rfl rfl
    have high := last (.issued q b) mem (.issued phase d) List.mem_cons_self _ _ _ _ rfl rfl
    exact Phase.le_antisymm high low
  · intro tilt
    rw [agrees.phase] at tilt
    have present := tilted tilt
    rwa [setup] at present
  · intro phase c given
    rw [← same] at given
    exact (Sequencer.later_of_issued (Sequencer.tilted_ofSetup s) given).2
  · intro ended
    rw [lowers_iff ended, resolved.hops_iff, resolved.params_eq]
  · intro f e p failed gs g
    have stage := stage_of_failed failed
    rw [(run_failed stage gs).2, next, stage]
  · intro f p ended
    exact again_of_done ended

/- The sample, which hops, as far as its end. -/
theorem progress_sample : Progress .sample (.none :: sampleFeedback) ∧
    ∃ c, .issued .towerLower c ∈ (ofSetup .sample).events (.none :: sampleFeedback) := by
  have law := progress Setup.resolve_sample (.none :: sampleFeedback)
  exact ⟨law, (law.lowers_iff (by decide +kernel)).mpr (by decide +kernel)⟩

end Plan
end LayerSeparation
