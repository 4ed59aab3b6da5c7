import LayerSeparation.Proofs.Recovery
import LayerSeparation.Proofs.Split

/-! Why a plan fails. Whatever it is fed, it fails for the first time only on feedback of the wrong kind,
on a position from which the way to go is no word, or on the last homing that is allowed; and on each of
these it does fail, with the error that belongs to it. Nothing else that looks like a failure in it can
come about once its setup was accepted. -/
namespace LayerSeparation

def Answers (run : List Event) (f : Feedback) : Prop :=
  match run.getLast? with
  | some (.issued _ c) => (f.answer? c).isSome
  | _ => f = .none

def Way.exhausting (moves : TiltMoves) (way : Way) (flag : Bool) (x : Int32) : List Turn :=
  ⟨way.checking, .queryStall .tilt, flag⟩ :: ⟨way.checking, .readPosition .tilt, x⟩ ::
    Script.missed way.freeing (way.profile moves).homingCycles.toNat

inductive FailureCause (s : Setup) (run : List Event) (f : Feedback) : SeparationError → Prop where
  | mismatch (wrong : ¬ Answers run f) :
      FailureCause s run f (.axisCommandFailure (axisAfter run) (phaseAfter run) .invalidResponse)
  /-- There is no way down from the lowest position there is. -/
  | outOfTravelDown (asked : run.getLast? = some (.issued .tiltDownCycles (.readPosition .tilt)))
      (found : f = .position Int32.minValue) :
      FailureCause s run f (.axisCommandFailure .tilt .tiltDownCycles .outOfBounds)
  | outOfTravelUp {x : Int32}
      (asked : run.getLast? = some (.issued .tiltUpCycles (.readPosition .tilt)))
      (found : f = .position x) (far : 0x7fffffff < s.geometry.heightSteps.toInt - x.toInt) :
      FailureCause s run f (.axisCommandFailure .tilt .tiltUpCycles .outOfBounds)
  | exhausted {moves : TiltMoves} {way : Way} {flag : Bool} {x : Int32} (tilt : s.tilt = some moves)
      (stuck : ¬ way.Clear s moves flag x)
      (seen : (way.exhausting moves flag x).flatMap Turn.events <:+ run ++ [.fed f]) :
      FailureCause s run f (.tiltStallUnrecoverable way.freeing (way.profile moves).homingCycles)

/-- What is looked out for in a setup that was accepted and cannot happen. -/
structure Sound (s : Setup) : Prop where
  tilt_present : ∀ fs, (∀ e, .failed e ∉ (Plan.ofSetup s).events fs) →
    ((Plan.ofSetup s).after fs).phase.isTilt → s.tilt.isSome
  up_reaches : ∀ moves, s.tilt = some moves →
    ∃ w, Width.difference? s.geometry.heightSteps moves.up.offsetSteps = some w
  down_exact : ∀ moves, s.tilt = some moves →
    (-moves.down.offsetSteps).toInt = -moves.down.offsetSteps.toInt
  hop_exact : s.hopNm.toInt = s.params.towerHopHeightNm.toNat

theorem Sound.reach {s : Setup} (h : Sound s) : ∀ moves, s.tilt = some moves →
    Width.difference? s.geometry.heightSteps moves.up.offsetSteps ≠ none := by
  intro moves hs far
  obtain ⟨w, near⟩ := h.up_reaches moves hs
  rw [far] at near
  cases near

def SplitStep.length? : SplitStep → Option Int
  | .move steps => some steps.toInt
  | .wait _ => none

def SplitExact (distance : Int32) (cycles : UInt8) (delayMs : UInt32) : Prop :=
  (∀ n ∈ workings distance.toInt (max cycles.toNat 1), -0x80000000 ≤ n ∧ n < 0x80000000) ∧
  (CycleSplit.new distance cycles delayMs).pending.filterMap SplitStep.length? =
    shares distance.toInt (max cycles.toNat 1)

theorem feedback_injective {c : Command} {a b : c.Answer} (h : c.feedback a = c.feedback b) :
    a = b := by
  have answered : (c.feedback a).answer? c = some a := answer?_eq_some_iff.mpr rfl
  rw [h, answer?_eq_some_iff.mpr rfl] at answered
  exact (Option.some.inj answered).symm

theorem events_injective {xs ys : List Turn} (h : xs.flatMap Turn.events = ys.flatMap Turn.events) :
    xs = ys := by
  induction xs generalizing ys with
  | nil =>
    cases ys with
    | nil => rfl
    | cons y ys => cases h
  | cons x xs ih =>
    cases ys with
    | nil => cases h
    | cons y ys =>
      obtain ⟨phase, c, a⟩ := x
      obtain ⟨phase', c', a'⟩ := y
      injection h with first h
      injection first with samePhase sameCommand
      subst samePhase sameCommand
      injection h with second h
      injection second with sameFeedback
      have same : a = a' := feedback_injective sameFeedback
      rw [same, ih h]

/- Events come in pairs, so the end of a history is made of whole turns. -/
theorem suffix_of_history {xs turns : List Turn} (h : xs.flatMap Turn.events <:+ history turns) :
    xs <:+ turns := by
  have pairs : ∀ ys : List Turn, (ys.flatMap Turn.events).length = 2 * ys.length := by
    intro ys
    induction ys with
    | nil => rfl
    | cons y ys ih =>
      simp only [List.flatMap_cons, List.length_append, ih, Turn.events, List.length_cons,
        List.length_nil]
      omega
  obtain ⟨first, whole⟩ := h
  have few : xs.length ≤ turns.length := by
    have count := congrArg List.length whole
    simp only [history, List.length_append, List.length_cons, pairs] at count
    omega
  have parts : history turns = history (turns.take (turns.length - xs.length)) ++
      (turns.drop (turns.length - xs.length)).flatMap Turn.events := by
    rw [history, history, List.cons_append, ← List.flatMap_append, List.take_append_drop]
  rw [parts] at whole
  have same := (List.append_inj' whole (by rw [pairs, pairs, List.length_drop]; omega)).2
  exact ⟨_, by rw [events_injective same, List.take_append_drop]⟩

theorem last_of_history {run : List Event} {f : Feedback} {turns : List Turn} {x : Turn}
    (h : run ++ [.fed f] = history (turns ++ [x])) :
    run = history turns ++ [.issued x.phase x.command] ∧ f = x.command.feedback x.answer := by
  have ends : run ++ [.fed f] =
      (history turns ++ [.issued x.phase x.command]) ++ [.fed (x.command.feedback x.answer)] := by
    rw [h, history_snoc, List.append_assoc]
    rfl
  obtain ⟨earlier, fed⟩ := List.append_inj' ends rfl
  injection fed with fed
  injection fed with fed
  exact ⟨earlier, fed⟩

theorem history_injective {xs ys : List Turn} (h : history xs = history ys) : xs = ys :=
  events_injective (List.cons.inj h).2

namespace Script

/- A path that goes on comes to the command that it goes on with. -/
theorem Leads.head {t u : Script} {x : Turn} {xs : List Turn} (h : t.Leads (x :: xs) u) :
    ∃ next, t.Leads [] (.ask x.phase x.command next) := by
  induction t with
  | done => cases h
  | fail e => cases h
  | recovered t ih =>
    cases h with
    | recovered h =>
      obtain ⟨next, there⟩ := ih h
      exact ⟨next, .recovered there⟩
  | ask phase c next ih =>
    cases h with
    | ask a h => exact ⟨next, .refl _⟩

theorem leads_exhausting (s : Setup) (moves : TiltMoves) (way : Way) {flag : Bool} {x : Int32}
    (stuck : ¬ way.Clear s moves flag x) :
    (way.check s moves).Leads (way.exhausting moves flag x)
      (.fail (.tiltStallUnrecoverable way.freeing (way.profile moves).homingCycles)) := by
  have tries := leads_missed way.freeing (way.freed s moves) (way.profile moves).homingCycles
    (way.profile moves).homingCycles.toNat 0
  rw [Nat.zero_add] at tries
  have verdict : way.verdict s moves flag x = _ := if_neg stuck
  rw [← verdict] at tries
  rw [Way.check_eq_verdict]
  exact leads_ask_iff.mpr (.inr ⟨flag, _, rfl, leads_ask_iff.mpr (.inr ⟨x, _, rfl, tries⟩)⟩)

end Script

namespace Plan
variable {s : Setup} {run : List Event} {f : Feedback} {p : Plan} {e : SeparationError}

open Script

theorem answers_iff {stage : Stage} (h : Stands s run stage) (sound : ∀ e, .failed e ∉ run) :
    Answers run f ↔ ∃ t, stage.accept f = some t := by
  cases h with
  | fresh => simp [Answers, Stage.accept]
  | awaiting path => simp [Answers, Stage.accept, Option.isSome_iff_exists]
  | finished last => simp [Answers, Stage.accept, last]
  | failed last => exact absurd (List.mem_of_getLast? last) (sound _)

theorem Stands.unfailed {stage : Stage} (h : Stands s run stage) (sound : ∀ e, .failed e ∉ run)
    (e : SeparationError) : stage ≠ .failed e := by
  intro failed
  rw [failed] at h
  cases h with
  | failed last => exact sound e (List.mem_of_getLast? last)

theorem path_of_failed {t : Script} (h : Stands s run p.stage) (accepted : p.stage.accept f = some t)
    (failed : (p.next f).1 = .failed e) :
    ∃ turns, run ++ [.fed f] = history turns ∧ (separation s).Leads turns (.fail e) := by
  rw [next_of_accept accepted] at failed
  have shown : t.shown = .failed e := by
    rw [← resume_shown p t, failed]
    rfl
  rcases h.takes accepted with ⟨turns, seen, path⟩ | rfl
  · have ended := path.trans (leads_of_shown_failed shown)
    rw [List.append_nil] at ended
    exact ⟨turns, seen, ended⟩
  · cases shown

theorem failed_of_path {turns : List Turn} {x : Turn} (h : Stands s run p.stage)
    (seen : run ++ [.fed f] = history (turns ++ [x]))
    (path : (separation s).Leads (turns ++ [x]) (.fail e)) : (p.next f).1 = .failed e := by
  obtain ⟨phase, c, a⟩ := x
  obtain ⟨earlier, fed⟩ := last_of_history seen
  have last : run.getLast? = some (.issued phase c) := by rw [earlier, List.getLast?_concat]
  obtain ⟨turns', next, stage, earlier', path'⟩ := h.of_issued last
  rw [earlier] at earlier'
  have same : turns = turns' := history_injective (List.append_inj' earlier' rfl).1
  rw [← same] at path'
  have accepted : p.stage.accept f = some (next a) := by
    rw [stage, fed]
    exact accept_awaiting_iff.mpr ⟨a, rfl, rfl⟩
  have shown := (path'.snoc a).shown_unique path
  rw [next_of_accept accepted]
  have event := resume_shown p (next a)
  rw [shown] at event
  cases out : (p.resume (next a)).1 with
  | command c =>
    rw [out] at event
    cases event
  | done =>
    rw [out] at event
    cases event
  | failed e' =>
    rw [out] at event
    cases event
    rfl

theorem tilt_of_path {turns : List Turn} {phase : Phase} {c : Command} {next : c.Answer → Script}
    (path : (separation s).Leads turns (.ask phase c next)) (tilt : phase.isTilt) :
    ∃ moves, s.tilt = some moves := by
  cases hs : s.tilt with
  | some moves => exact ⟨moves, rfl⟩
  | none =>
    have level := (path.within (within_of_no_tilt hs)).2.1.1
    rw [tilt] at level
    cases level

theorem Reached.tilt_of_phase (h : Reached s run p) (sound : ∀ e, .failed e ∉ run)
    (tilt : p.phase.isTilt) : ∃ moves, s.tilt = some moves := by
  obtain ⟨stands, phase, _⟩ := h
  rw [phase] at tilt
  generalize p.stage = stage at stands
  cases stands with
  | fresh => cases tilt
  | awaiting path =>
    rw [phaseAfter, List.getLast?_concat] at tilt
    exact tilt_of_path path tilt
  | finished last =>
    rw [phaseAfter, last] at tilt
    cases tilt
  | failed last => exact absurd (List.mem_of_getLast? last) (sound _)

theorem failed_of_reading (h : Stands s run p.stage) (way : Way) {x : Int32}
    (asked : run.getLast? = some (.issued way.cycles (.readPosition .tilt)))
    (found : f = .position x) (far : Width.difference? (way.target s) x = none) :
    (p.next f).1 = .failed (.axisCommandFailure .tilt way.cycles .outOfBounds) := by
  obtain ⟨turns, next, _, earlier, path⟩ := h.of_issued asked
  have tilt : way.cycles.isTilt := by cases way <;> rfl
  obtain ⟨moves, hs⟩ := tilt_of_path path tilt
  obtain ⟨rest, -, same⟩ := eq_cycles_of_separation hs way path
  have out : (cycles way.cycles (way.target s) (way.profile moves) rest).Leads
      [⟨way.cycles, .readPosition .tilt, x⟩] (outOfTravel way.cycles) := by
    refine leads_ask_iff.mpr (.inr ⟨x, [], rfl, ?_⟩)
    simp only [far]
    exact .refl _
  rw [same] at path
  apply failed_of_path h _ (path.trans out)
  rw [earlier, found, history_snoc, List.append_assoc]
  rfl

theorem failed_of_exhausted (h : Stands s run p.stage) {moves : TiltMoves} {way : Way} {flag : Bool}
    {x : Int32} (tilt : s.tilt = some moves) (stuck : ¬ way.Clear s moves flag x)
    (seen : (way.exhausting moves flag x).flatMap Turn.events <:+ run ++ [.fed f]) :
    (p.next f).1 =
      .failed (.tiltStallUnrecoverable way.freeing (way.profile moves).homingCycles) := by
  obtain ⟨init, last, whole⟩ : ∃ init last, way.exhausting moves flag x = init ++ [last] := by
    have some : way.exhausting moves flag x ≠ [] := by
      intro none
      cases none
    exact ⟨_, _, (List.dropLast_append_getLast some).symm⟩
  obtain ⟨first, ends⟩ := seen
  -- the run before the last answer ends in the command it answers
  have ends' : run ++ [.fed f] =
      ((first ++ init.flatMap Turn.events) ++ [.issued last.phase last.command]) ++
        [.fed (last.command.feedback last.answer)] := by
    rw [← ends, whole]
    simp [Turn.events]
  obtain ⟨earlier, fed⟩ := List.append_inj' ends' rfl
  injection fed with fed
  injection fed with fed
  have asked : run.getLast? = some (.issued last.phase last.command) := by
    rw [earlier, List.getLast?_concat]
  obtain ⟨turns, next, _, here, path⟩ := h.of_issued asked
  have seen : run ++ [.fed f] = history (turns ++ [last]) := by
    rw [here, fed, history_snoc, List.append_assoc]
    rfl
  have suffix : way.exhausting moves flag x <:+ turns ++ [last] := by
    apply suffix_of_history
    rw [← seen]
    exact ⟨first, ends⟩
  obtain ⟨before, split⟩ := suffix
  have longer := path.snoc last.answer
  have turn : (⟨last.phase, last.command, last.answer⟩ : Turn) = last := rfl
  rw [turn, ← split] at longer
  obtain ⟨v, checked, rest⟩ := longer.split
  obtain ⟨own, there⟩ := rest.head
  have path := checked.trans there
  rw [List.append_nil] at path
  rw [eq_check_of_separation tilt way path] at path
  have failed := path.trans (leads_exhausting s moves way stuck)
  rw [split] at failed
  exact failed_of_path h seen failed

/-- Every first failure has one of the causes. -/
theorem cause_of_failed (h : Reached s run p) (sound : ∀ e, .failed e ∉ run)
    (height : 0 ≤ s.geometry.heightSteps.toInt)
    (reach : ∀ moves, s.tilt = some moves →
      Width.difference? s.geometry.heightSteps moves.up.offsetSteps ≠ none)
    (failed : (p.next f).1 = .failed e) : FailureCause s run f e := by
  cases accepted : p.stage.accept f with
  | none =>
    have wrong : ¬ Answers run f := by
      rw [answers_iff h.stage sound, accepted]
      nofun
    rw [next_of_unaccepted accepted (h.stage.unfailed sound)] at failed
    injection failed with same
    rw [← same, h.axis, h.phase]
    exact .mismatch wrong
  | some t =>
    obtain ⟨turns, seen, path⟩ := path_of_failed h.stage accepted failed
    obtain ⟨moves, way, before, after, tilt, rfl, fails⟩ := fails_of_separation reach path
    cases fails with
    | @out x far =>
      obtain ⟨rfl, rfl⟩ := last_of_history seen
      have low := x.le_toInt
      have high := x.toInt_lt
      have top := s.geometry.heightSteps.toInt_lt
      have beyond := Width.int32?_eq_none_iff.mp far
      cases way with
      | down =>
        have zero : (Way.down.target s).toInt = 0 := rfl
        rw [zero] at beyond
        have lowest : x = Int32.minValue := Int32.toInt_inj.mp (by rw [Int32.toInt_minValue]; omega)
        exact .outOfTravelDown List.getLast?_concat (by rw [lowest]; rfl)
      | up =>
        have target : (Way.up.target s).toInt = s.geometry.heightSteps.toInt := rfl
        rw [target] at beyond
        have excess : 0x7fffffff < s.geometry.heightSteps.toInt - x.toInt := by omega
        exact .outOfTravelUp List.getLast?_concat rfl excess
    | @stuck flag x stuck =>
      refine .exhausted tilt stuck ⟨history before, ?_⟩
      rw [seen, history, history, List.flatMap_append]
      rfl

end Plan

theorem split_exact (distance : Int32) (cycles : UInt8) (delayMs : UInt32) :
    SplitExact distance cycles delayMs := by
  have range := cycles.toNat_lt
  have some : 0 < max cycles.toNat 1 := by omega
  have fit := workings_fit distance some (by omega)
  refine ⟨fit, ?_⟩
  have whole : ∀ n ∈ shares distance.toInt (max cycles.toNat 1), (Int32.ofInt n).toInt = n := by
    intro n hn
    obtain ⟨low, high⟩ := fit n (mem_workings_of_share some hn)
    exact Int32.toInt_ofInt_of_le low high
  have exactly : ∀ ns : List Int, (∀ n ∈ ns, (Int32.ofInt n).toInt = n) →
      (ns.map fun n => SplitStep.move (Int32.ofInt n)).filterMap SplitStep.length? = ns := by
    intro ns words
    induction ns with
    | nil => rfl
    | cons n ns ih =>
      obtain ⟨first, rest⟩ := List.forall_mem_cons.mp words
      rw [List.map_cons, List.filterMap_cons, ih rest]
      simp only [SplitStep.length?, first]
  simp only [CycleSplit.new, toNat_moves]
  split
  · exact exactly _ whole
  · rw [filterMap_intersperse rfl]
    exact exactly _ whole

namespace Plan

theorem sound_of_resolved {table : MovingProfileTable} {params : LayerParams}
    {geometry : TiltGeometry} {nextLayerNm : Int32} {s : Setup}
    (resolved : s.Resolved table params geometry nextLayerNm) : Sound s := by
  refine ⟨?_, ?_, ?_, ?_⟩
  · intro fs unfailed tilt
    obtain ⟨moves, hs⟩ := (reached s fs).tilt_of_phase unfailed tilt
    rw [hs]
    rfl
  · intro moves hs
    have travel := (resolved.profiles moves hs).2
    rw [← resolved.geometry_eq] at travel
    have first := travel.offset
    have reach := travel.travel
    have top := s.geometry.heightSteps.toInt_lt
    exact ⟨_, Width.difference?_eq_some_iff.mpr (Width.toInt_sub (by omega) (by omega))⟩
  · intro moves hs
    exact Width.toInt_neg_of_nonneg (resolved.profiles moves hs).1.offset.1
  · rw [resolved.params_eq]
    exact resolved.hop

/-- A plan made of accepted inputs fails for the causes listed and for no other, each with its own
error, and no word overflows on the way. -/
theorem failure_law {table : MovingProfileTable} {params : LayerParams} {geometry : TiltGeometry}
    {nextLayerNm : Int32} {s : Setup}
    (accepted : Setup.resolve table params geometry nextLayerNm = .ok s) :
    (∀ fs f e, (∀ e', .failed e' ∉ (ofSetup s).events fs) →
      ((((ofSetup s).after fs).next f).1 = .failed e ↔
        FailureCause s ((ofSetup s).events fs) f e)) ∧
    Sound s ∧
    (∀ p : LayerParams, p.validate = .ok () → ∃ hop, Width.int32? p.towerHopHeightNm.toNat = some hop) ∧
    ∀ distance cycles delayMs, SplitExact distance cycles delayMs := by
  have resolved := Setup.resolved_of_eq_ok accepted
  have sound := sound_of_resolved resolved
  have height := resolved.height
  rw [← resolved.geometry_eq] at height
  refine ⟨?_, sound, ?_, split_exact⟩
  · intro fs f e unfailed
    have h := reached s fs
    constructor
    · intro failed
      apply cause_of_failed h unfailed (by omega) _ failed
      intro moves hs none
      obtain ⟨w, some⟩ := sound.up_reaches moves hs
      rw [none] at some
      cases some
    · intro cause
      cases cause with
      | mismatch wrong =>
        have rejected : ((ofSetup s).after fs).stage.accept f = none := by
          rw [answers_iff h.stage unfailed] at wrong
          exact Option.eq_none_iff_forall_ne_some.mpr (not_exists.mp wrong)
        rw [next_of_unaccepted rejected (h.stage.unfailed unfailed), ← h.axis, ← h.phase]
        rfl
      | outOfTravelDown asked found =>
        have out : Width.difference? 0 Int32.minValue = none := by decide +kernel
        exact failed_of_reading h.stage .down asked found out
      | outOfTravelUp asked found far =>
        have out := Width.int32?_eq_none_iff.mpr (.inr (Int.add_one_le_of_lt far))
        exact failed_of_reading h.stage .up asked found out
      | exhausted tilt stuck seen => exact failed_of_exhausted h.stage tilt stuck seen
  · intro p valid
    simp only [LayerParams.validate, bind_eq_ok_iff, checkRange_eq_ok_iff, LayerParams.maxHopNm]
      at valid
    obtain ⟨_, _, _, _, _, ⟨low, high⟩, _⟩ := valid
    cases word : Width.int32? p.towerHopHeightNm.toNat with
    | some hop => exact ⟨hop, rfl⟩
    | none =>
      have out := Width.int32?_eq_none_iff.mp word
      omega

/- The sample, whose tilt is found at the lowest position there is. -/
theorem failure_law_sample :
    (((ofSetup .sample).after (.none :: sampleFeedback.take 5)).next (.position Int32.minValue)).1 =
        .failed (.axisCommandFailure .tilt .tiltDownCycles .outOfBounds) ∧
      Sound .sample := by
  have plain : ∀ x ∈ (ofSetup .sample).events (.none :: sampleFeedback.take 5),
      (x matches .failed _) = false := by decide +kernel
  have unfailed : ∀ e, .failed e ∉ (ofSetup .sample).events (.none :: sampleFeedback.take 5) := by
    intro e failed
    cases plain _ failed
  obtain ⟨causes, sound, _⟩ := failure_law Setup.resolve_sample
  exact ⟨(causes _ _ _ unfailed).mpr (.outOfTravelDown (by decide +kernel) rfl), sound⟩

end Plan
end LayerSeparation
