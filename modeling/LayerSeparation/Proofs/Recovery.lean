import LayerSeparation.Proofs.Drive
import LayerSeparation.Proofs.Nominal
import LayerSeparation.Proofs.Places
import LayerSeparation.Proofs.Tally

/-! What a plan makes of a tilt that is checked. A tilt that stands where it should lets the separation
go on. Otherwise it is homed as often as its profile allows, and the separation goes on as if the check
had passed after the first homing that finds the stop, or fails for good after the last one. The law is
the same for both ways, with the profile of each. -/
namespace LayerSeparation

namespace Way

def Clear (s : Setup) (moves : TiltMoves) (way : Way) (flag : Bool) (x : Int32) : Prop :=
  flag = false ∧ (x.toInt - (way.target s).toInt).natAbs ≤ (way.profile moves).homingTolerance.toNat

instance (s : Setup) (moves : TiltMoves) (way : Way) (flag : Bool) (x : Int32) :
    Decidable (way.Clear s moves flag x) := inferInstanceAs (Decidable (_ ∧ _))

def onward (s : Setup) : Way → Event
  | .down => .issued .tower (.setTowerCurve s.params.towerCurve)
  | .up =>
    if s.hops then .issued .towerLower (.moveAbsolute .tower s.nextLayerNm)
    else if 0 < s.params.delayBeforeExposureMs then
      .issued .settleBeforeExposure (.wait s.params.delayBeforeExposureMs)
    else .done

/- A homing ends at the bottom, where the way down leads anyway. -/
def restoring (s : Setup) : Way → List Event
  | .down => []
  | .up => [.issued .tiltUpUnstuck (.moveAbsolute .tilt s.geometry.heightSteps)]

def verdict (s : Setup) (moves : TiltMoves) (way : Way) (flag : Bool) (x : Int32) : Script :=
  if way.Clear s moves flag x then way.rest s moves
  else Script.homings way.freeing (way.freed s moves) (way.profile moves).homingCycles
    (way.profile moves).homingCycles.toNat

theorem check_eq_verdict (s : Setup) (moves : TiltMoves) (way : Way) :
    way.check s moves = .ask way.checking (.queryStall .tilt) fun flag =>
      .ask way.checking (.readPosition .tilt) fun x => way.verdict s moves flag x :=
  Script.check_eq ..

theorem shown_rest (s : Setup) (moves : TiltMoves) (way : Way) :
    (way.rest s moves).shown = way.onward s := by
  cases way with
  | down => rfl
  | up =>
    simp only [rest, Script.afterUp, Script.towerLower, Script.pause, onward]
    split
    · rfl
    · split <;> rfl

theorem onward_ne (s : Setup) (way : Way) :
    (∀ e, way.onward s ≠ .failed e) ∧ ∀ c, way.onward s ≠ .issued way.freeing c := by
  cases way with
  | down => constructor <;> intro x same <;> cases same
  | up =>
    simp only [onward, freeing]
    by_cases hops : s.hops
    · simp [hops]
    · by_cases settles : 0 < s.params.delayBeforeExposureMs <;> simp [hops, settles]

theorem frees_rest (s : Setup) (moves : TiltMoves) (way : Way) :
    ∃ n, (way.rest s moves).Frees n false := by
  cases way with
  | down => exact ⟨1, Script.frees_afterDown s moves⟩
  | up => exact ⟨0, Script.frees_afterUp s⟩

end Way

/-- The last command was a homing of the tilt, and it found the stop. -/
def foundStop (run : List Event) (f : Feedback) : Bool :=
  match run.getLast?, f with
  | some (.issued _ (.home .tilt)), .homed found => found
  | _, _ => false

structure RecoveryLaw (s : Setup) (moves : TiltMoves) (way : Way) (p : Plan) : Prop where
  passes_iff : ∀ flag x,
    outgoing (p.events [.stall flag, .position x]) =
      [.issued way.checking (.readPosition .tilt), way.onward s] ↔ way.Clear s moves flag x
  passed : ∀ flag x, way.Clear s moves flag x →
    p.after [.stall flag, .position x] = p.after [.stall false, .position (way.target s)] ∧
      (p.after [.stall flag, .position x]).recoveries = p.recoveries
  /-- The first homing that finds the stop is the last, and all goes on as after a passed check. -/
  freed : ∀ flag x (homed : Nat → Bool) (i : Nat), ¬ way.Clear s moves flag x →
    i < (way.profile moves).homingCycles.toNat → (∀ j < i, homed j = false) → homed i = true →
      let fs := .stall flag :: .position x :: ((List.range (i + 1)).map (fun j => .homed (homed j)) ++
        (way.restoring s).map fun _ => .none)
      outgoing (p.events fs) = .issued way.checking (.readPosition .tilt) ::
        (List.replicate (i + 1) (.issued way.freeing (.home .tilt)) ++ way.restoring s ++
          [way.onward s]) ∧
      p.after fs = { p.after [.stall false, .position (way.target s)] with
        recoveries := p.recoveries + 1 } ∧
      (p.recoveries + 1).toNat = p.recoveries.toNat + 1
  /-- Once the last homing has failed the error is all that is ever shown again. -/
  given_up : ∀ flag x (homed : Nat → Bool) (more : List Feedback), ¬ way.Clear s moves flag x →
    (∀ j < (way.profile moves).homingCycles.toNat, homed j = false) →
      let n := (way.profile moves).homingCycles
      let fs := .stall flag :: .position x ::
        ((List.range n.toNat).map (fun j => .homed (homed j)) ++ more)
      outgoing (p.events fs) = .issued way.checking (.readPosition .tilt) ::
        (List.replicate n.toNat (.issued way.freeing (.home .tilt)) ++
          List.replicate (more.length + 1) (.failed (.tiltStallUnrecoverable way.freeing n))) ∧
      (p.after fs).recoveries = p.recoveries

namespace Plan
variable {p q : Plan}

open Script

/- Taking up a script leaves nothing of the stage and the phase before. -/
theorem resume_congr (axis : p.lastAxis = q.lastAxis) (count : p.recoveries = q.recoveries)
    (t : Script) : p.resume t = q.resume t := by
  induction t generalizing p q with
  | done => simp only [resume, axis, count]
  | fail e => simp only [resume, axis, count]
  | recovered t ih =>
    have more : p.recoveries + 1 = q.recoveries + 1 := by rw [count]
    exact ih axis more
  | ask phase c next ih => simp only [resume, axis, count]

/- No recovery is counted on taking up a script that owes none. -/
theorem resume_with_recoveries {t : Script} {n : Nat} (h : t.Frees n false) (r : UInt8) :
    ({ q with recoveries := r }.resume t).2 = { (q.resume t).2 with recoveries := r } := by
  cases t with
  | done => rfl
  | fail e => rfl
  | recovered t => cases h.1
  | ask phase c next => rfl

theorem resume_recoveries {t : Script} {n : Nat} (h : t.Frees n false) :
    (q.resume t).2.recoveries = q.recoveries := by
  cases t with
  | recovered t => cases h.1
  | _ => rfl

theorem outgoing_shown (t : Script) (run : List Event) :
    outgoing (t.shown :: run) = t.shown :: outgoing run := by
  induction t with
  | done => rfl
  | fail e => rfl
  | recovered t ih => exact ih
  | ask phase c next ih => rfl

theorem outgoing_fed (f : Feedback) (run : List Event) : outgoing (.fed f :: run) = outgoing run := rfl

theorem homing_missed (phase : Phase) (rest : Script) (allowed : UInt8) (tilt : q.lastAxis = .tilt)
    (left : Nat) :
    (q.resume (homings phase rest allowed (left + 1))).2.next (.homed false) =
      q.resume (homings phase rest allowed left) := by
  have again : (q.resume (homings phase rest allowed (left + 1))).2.lastAxis = q.lastAxis := tilt.symm
  exact resume_congr again rfl _

theorem homing_found (phase : Phase) (rest : Script) (allowed : UInt8) (tilt : q.lastAxis = .tilt)
    (left : Nat) :
    (q.resume (homings phase rest allowed (left + 1))).2.next (.homed true) =
      { q with recoveries := q.recoveries + 1 }.resume rest := by
  have again : (q.resume (homings phase rest allowed (left + 1))).2.lastAxis = q.lastAxis := tilt.symm
  exact resume_congr again rfl _

theorem run_missed (phase : Phase) (rest : Script) (allowed : UInt8) (tilt : q.lastAxis = .tilt)
    (left count : Nat) (gs : List Feedback) :
    outgoing ((homings phase rest allowed (left + count)).shown ::
        (q.resume (homings phase rest allowed (left + count))).2.events
          (List.replicate count (.homed false) ++ gs)) =
      List.replicate count (.issued phase (.home .tilt)) ++
        outgoing ((homings phase rest allowed left).shown ::
          (q.resume (homings phase rest allowed left)).2.events gs) ∧
    (q.resume (homings phase rest allowed (left + count))).2.after
        (List.replicate count (.homed false) ++ gs) =
      (q.resume (homings phase rest allowed left)).2.after gs := by
  induction count with
  | zero => exact ⟨rfl, rfl⟩
  | succ count ih =>
    have step := homing_missed phase rest allowed tilt (left + count)
    have asked : (homings phase rest allowed (left + (count + 1))).shown =
        .issued phase (.home .tilt) := rfl
    rw [List.replicate_succ, List.replicate_succ, List.cons_append, List.cons_append]
    constructor
    · rw [outgoing_shown, asked, events, outgoing_fed, ← Nat.add_assoc, step, resume_shown, ih.1]
    · rw [after, ← Nat.add_assoc, step, ih.2]

theorem run_failed {e : SeparationError} (stage : p.stage = .failed e) (more : List Feedback) :
    outgoing (p.events more) = List.replicate more.length (.failed e) ∧ p.after more = p := by
  have stays : ∀ f, p.next f = (.failed e, p) := by
    intro f
    unfold next
    rw [stage]
  induction more with
  | nil => exact ⟨rfl, rfl⟩
  | cons f more ih =>
    rw [events, after, stays f]
    exact ⟨congrArg _ ih.1, ih.2⟩

theorem map_homed_eq {homed : Nat → Bool} {n : Nat} {found : Bool} (h : ∀ j < n, homed j = found) :
    (List.range n).map (fun j => Feedback.homed (homed j)) = List.replicate n (.homed found) := by
  apply List.eq_replicate_iff.mpr
  constructor
  · simp
  · intro f hf
    obtain ⟨j, hj, rfl⟩ := List.mem_map.mp hf
    rw [h j (List.mem_range.mp hj)]

def Asking (s : Setup) (moves : TiltMoves) (way : Way) (p : Plan) : Prop :=
  ∃ next, p.stage = .awaiting (.queryStall .tilt) next ∧
    ∀ flag, next flag = .ask way.checking (.readPosition .tilt) (way.verdict s moves flag)

section
variable {s : Setup} {moves : TiltMoves} {way : Way}

theorem asking_of_issued (hs : s.tilt = some moves) {fs : List Feedback}
    (last : ((ofSetup s).events fs).getLast? = some (.issued way.checking (.queryStall .tilt))) :
    Asking s moves way ((ofSetup s).after fs) := by
  obtain ⟨turns, next, stage, _, path⟩ := (reached s fs).stage.of_issued last
  have check := eq_check_of_separation hs way path
  rw [Way.check_eq_verdict] at check
  have same := eq_of_heq (Script.ask.inj check).2.2
  exact ⟨next, stage, fun flag => congrFun same flag⟩

theorem Asking.run (asking : Asking s moves way p) (flag : Bool) (x : Int32) (gs : List Feedback) :
    outgoing (p.events (.stall flag :: .position x :: gs)) =
      .issued way.checking (.readPosition .tilt) :: outgoing ((way.verdict s moves flag x).shown ::
        ({ p with lastAxis := .tilt }.resume (way.verdict s moves flag x)).2.events gs) ∧
    p.after (.stall flag :: .position x :: gs) =
      ({ p with lastAxis := .tilt }.resume (way.verdict s moves flag x)).2.after gs := by
  obtain ⟨next, stage, answered⟩ := asking
  have first : p.next (.stall flag) =
      p.resume (.ask way.checking (.readPosition .tilt) (way.verdict s moves flag)) := by
    rw [← answered flag]
    apply next_of_accept
    rw [stage]
    exact accept_awaiting_iff.mpr ⟨flag, rfl, rfl⟩
  have accepted : (Stage.awaiting (.readPosition .tilt) (way.verdict s moves flag)).accept
      (.position x) = some (way.verdict s moves flag x) := accept_awaiting_iff.mpr ⟨x, rfl, rfl⟩
  have second :
      (p.resume (.ask way.checking (.readPosition .tilt) (way.verdict s moves flag))).2.next
        (.position x) = { p with lastAxis := .tilt }.resume (way.verdict s moves flag x) := by
    rw [next_of_accept accepted]
    apply resume_congr <;> rfl
  constructor
  · rw [events, first, resume_shown, events, second, resume_shown]
    rfl
  · rw [after, first, after, second]

theorem Asking.passed (asking : Asking s moves way p) {flag : Bool} {x : Int32}
    (clear : way.Clear s moves flag x) :
    outgoing (p.events [.stall flag, .position x]) =
      [.issued way.checking (.readPosition .tilt), way.onward s] ∧
    p.after [.stall flag, .position x] = ({ p with lastAxis := .tilt }.resume (way.rest s moves)).2 := by
  have verdict : way.verdict s moves flag x = way.rest s moves := if_pos clear
  obtain ⟨out, plan⟩ := asking.run flag x []
  rw [verdict, outgoing_shown, Way.shown_rest] at out
  rw [verdict] at plan
  exact ⟨out, plan⟩

theorem Asking.stuck (asking : Asking s moves way p) {flag : Bool} {x : Int32}
    (stuck : ¬ way.Clear s moves flag x) :
    outgoing (p.events [.stall flag, .position x]) ≠
      [.issued way.checking (.readPosition .tilt), way.onward s] := by
  have verdict : way.verdict s moves flag x = _ := if_neg stuck
  obtain ⟨out, _⟩ := asking.run flag x []
  rw [out, verdict, outgoing_shown]
  intro same
  have shown := (List.cons.inj (List.cons.inj same).2).1
  obtain ⟨sound, elsewhere⟩ := Way.onward_ne s way
  cases left : (way.profile moves).homingCycles.toNat with
  | zero =>
    rw [left] at shown
    exact sound _ shown.symm
  | succ left' =>
    rw [left] at shown
    exact elsewhere _ shown.symm

theorem clear_target (s : Setup) (moves : TiltMoves) (way : Way) :
    way.Clear s moves false (way.target s) := by
  refine ⟨rfl, ?_⟩
  rw [Int.sub_self]
  exact Nat.zero_le _

/- What follows a homing that found the stop. -/
theorem run_freed (s : Setup) (moves : TiltMoves) (way : Way) (r : UInt8)
    (tilt : q.lastAxis = .tilt) :
    outgoing ((way.freed s moves).shown ::
        ({ q with recoveries := r }.resume (way.freed s moves)).2.events
          ((way.restoring s).map fun _ => .none)) = way.restoring s ++ [way.onward s] ∧
    ({ q with recoveries := r }.resume (way.freed s moves)).2.after
        ((way.restoring s).map fun _ => .none) =
      { (q.resume (way.rest s moves)).2 with recoveries := r } := by
  obtain ⟨n, frees⟩ := Way.frees_rest s moves way
  have kept := resume_with_recoveries (q := q) frees r
  cases way with
  | down =>
    refine ⟨?_, kept⟩
    rw [outgoing_shown]
    exact congrArg (· :: []) (Way.shown_rest s moves .down)
  | up =>
    have accepted : (Stage.awaiting (.moveAbsolute .tilt s.geometry.heightSteps)
        fun _ => afterUp s).accept .none = some (afterUp s) :=
      accept_awaiting_iff.mpr ⟨(), rfl, rfl⟩
    have sent : ({ q with recoveries := r }.resume (Way.freed s moves .up)).2.next .none =
        { q with recoveries := r }.resume (afterUp s) := by
      refine (next_of_accept accepted).trans ?_
      apply resume_congr
      · exact tilt.symm
      · rfl
    have shown : (afterUp s).shown = Way.onward s .up := Way.shown_rest s moves .up
    constructor
    · rw [outgoing_shown, Way.restoring, List.map_cons, List.map_nil, events, sent, resume_shown,
        outgoing_fed, outgoing_shown, shown]
      rfl
    · rw [Way.restoring, List.map_cons, List.map_nil, after, sent]
      exact kept

theorem Asking.freed (asking : Asking s moves way p) {flag : Bool} {x : Int32}
    {homed : Nat → Bool} {i : Nat} (stuck : ¬ way.Clear s moves flag x)
    (allowed : i < (way.profile moves).homingCycles.toNat) (missed : ∀ j < i, homed j = false)
    (found : homed i = true) :
    outgoing (p.events (.stall flag :: .position x ::
        ((List.range (i + 1)).map (fun j => .homed (homed j)) ++
          (way.restoring s).map fun _ => .none))) =
      .issued way.checking (.readPosition .tilt) ::
        (List.replicate (i + 1) (.issued way.freeing (.home .tilt)) ++ way.restoring s ++
          [way.onward s]) ∧
    p.after (.stall flag :: .position x ::
        ((List.range (i + 1)).map (fun j => .homed (homed j)) ++
          (way.restoring s).map fun _ => .none)) =
      { ({ p with lastAxis := .tilt }.resume (way.rest s moves)).2 with
        recoveries := p.recoveries + 1 } := by
  obtain ⟨left, count⟩ := Nat.exists_eq_add_of_lt allowed
  have verdict : way.verdict s moves flag x = homings way.freeing (way.freed s moves)
      (way.profile moves).homingCycles (left + 1 + i) := by
    rw [Way.verdict, if_neg stuck, count]
    congr 1
    omega
  have answers : (List.range (i + 1)).map (fun j => Feedback.homed (homed j)) =
      List.replicate i (.homed false) ++ [.homed true] := by
    rw [List.range_succ, List.map_append, map_homed_eq missed, List.map_singleton, found]
  have tilt : ({ p with lastAxis := .tilt } : Plan).lastAxis = .tilt := rfl
  obtain ⟨out, plan⟩ := asking.run flag x (List.replicate i (.homed false) ++
    .homed true :: (way.restoring s).map fun _ => .none)
  obtain ⟨tries, tried⟩ := run_missed way.freeing (way.freed s moves)
    (way.profile moves).homingCycles tilt (left + 1) i
    (.homed true :: (way.restoring s).map fun _ => .none)
  obtain ⟨went, stands⟩ := run_freed s moves way (p.recoveries + 1) tilt
  have stop := homing_found way.freeing (way.freed s moves) (way.profile moves).homingCycles tilt left
  have asked : (homings way.freeing (way.freed s moves) (way.profile moves).homingCycles
    (left + 1)).shown = .issued way.freeing (.home .tilt) := rfl
  rw [answers, List.append_assoc, List.singleton_append]
  constructor
  · rw [out, verdict, tries, outgoing_shown, asked, events, outgoing_fed, stop, resume_shown, went,
      List.replicate_succ']
    simp
  · rw [plan, verdict, tried, after, stop, stands]

theorem Asking.given_up (asking : Asking s moves way p) {flag : Bool} {x : Int32}
    {homed : Nat → Bool} (stuck : ¬ way.Clear s moves flag x)
    (missed : ∀ j < (way.profile moves).homingCycles.toNat, homed j = false)
    (more : List Feedback) :
    outgoing (p.events (.stall flag :: .position x ::
        ((List.range (way.profile moves).homingCycles.toNat).map (fun j => .homed (homed j)) ++
          more))) =
      .issued way.checking (.readPosition .tilt) ::
        (List.replicate (way.profile moves).homingCycles.toNat (.issued way.freeing (.home .tilt)) ++
          List.replicate (more.length + 1)
            (.failed (.tiltStallUnrecoverable way.freeing (way.profile moves).homingCycles))) ∧
    (p.after (.stall flag :: .position x ::
        ((List.range (way.profile moves).homingCycles.toNat).map (fun j => .homed (homed j)) ++
          more))).recoveries = p.recoveries := by
  have verdict : way.verdict s moves flag x = homings way.freeing (way.freed s moves)
      (way.profile moves).homingCycles (0 + (way.profile moves).homingCycles.toNat) := by
    rw [Way.verdict, if_neg stuck, Nat.zero_add]
  have tilt : ({ p with lastAxis := .tilt } : Plan).lastAxis = .tilt := rfl
  obtain ⟨out, plan⟩ := asking.run flag x
    (List.replicate (way.profile moves).homingCycles.toNat (.homed false) ++ more)
  obtain ⟨tries, tried⟩ := run_missed way.freeing (way.freed s moves)
    (way.profile moves).homingCycles tilt 0 (way.profile moves).homingCycles.toNat more
  have failed : ({ p with lastAxis := .tilt }.resume (homings way.freeing (way.freed s moves)
      (way.profile moves).homingCycles 0)).2.stage = .failed _ := rfl
  obtain ⟨same, stays⟩ := run_failed failed more
  rw [map_homed_eq missed]
  constructor
  · rw [out, verdict, tries, outgoing_shown, same]
    rfl
  · rw [plan, verdict, tried, stays]
    rfl

end

/- How many recoveries can still be counted. -/
def Frees (k : Nat) (p : Plan) : Prop :=
  match p.stage with
  | .ready t => t.Frees k false
  | .awaiting c next => ∀ a, (next a).Frees k (Turn.frees ⟨p.phase, c, a⟩)
  | .failed _ => True

theorem frees_resume {t : Script} {k : Nat} {owed : Bool} (p : Plan) (h : t.Frees k owed) :
    ∃ left, (p.resume t).2.Frees left ∧ left + owed.toNat = k ∧
      (p.resume t).2.recoveries = p.recoveries + UInt8.ofNat owed.toNat := by
  induction t generalizing p k owed with
  | done =>
    have none : owed = false := h
    rw [none]
    exact ⟨k, rfl, rfl, (UInt8.add_zero _).symm⟩
  | fail e =>
    have none : owed = false := h
    rw [none]
    exact ⟨k, trivial, rfl, (UInt8.add_zero _).symm⟩
  | recovered t ih =>
    obtain ⟨rfl, k, rfl, later⟩ := h
    obtain ⟨left, frees, few, counted⟩ := ih { p with recoveries := p.recoveries + 1 } later
    simp only [Bool.toNat_false, Nat.add_zero] at few
    refine ⟨left, frees, by rw [few, Bool.toNat_true], ?_⟩
    rw [resume, counted]
    exact UInt8.add_zero _
  | ask phase c next ih =>
    obtain ⟨rfl, later⟩ := h
    exact ⟨k, later, rfl, (UInt8.add_zero _).symm⟩

section
variable {s : Setup} {run : List Event} {f : Feedback} {k : Nat}

theorem foundStop_issued (run : List Event) (phase : Phase) (c : Command) (f : Feedback) :
    foundStop (run ++ [.issued phase c]) f =
      ((f.answer? c).map fun a => Turn.frees ⟨phase, c, a⟩).getD false := by
  unfold foundStop
  rw [List.getLast?_concat]
  cases c with
  | home axis => cases axis <;> cases f <;> rfl
  | _ => cases f <;> rfl

theorem foundStop_of_rejected {stage : Stage} (h : Stands s run stage) (none : stage.accept f = none) :
    foundStop run f = false := by
  cases h with
  | fresh => rfl
  | awaiting path =>
    have unanswered := Option.map_eq_none_iff.mp none
    rw [foundStop_issued, unanswered]
    rfl
  | finished last => simp [foundStop, last]
  | failed last => simp [foundStop, last]

theorem Reached.frees_accept (h : Reached s run p) (frees : p.Frees k) {t : Script}
    (accepted : p.stage.accept f = some t) : t.Frees k (foundStop run f) := by
  obtain ⟨stands, phase, _⟩ := h
  unfold Frees at frees
  generalize p.stage = stage at stands frees accepted
  cases stands with
  | fresh =>
    obtain ⟨_, rfl⟩ := accept_ready_iff.mp accepted
    exact frees
  | @awaiting turns q c next path =>
    obtain ⟨a, rfl, rfl⟩ := accept_awaiting_iff.mp accepted
    have here : p.phase = q := by
      rw [phase]
      simp [phaseAfter, Event.phase]
    have answered : (c.feedback a).answer? c = some a := answer?_eq_some_iff.mpr rfl
    rw [foundStop_issued, answered, ← here]
    exact frees a
  | finished last =>
    obtain ⟨_, rfl⟩ := accept_ready_iff.mp accepted
    have ended : foundStop run f = false := by simp [foundStop, last]
    exact ended
  | failed last => cases accepted

/-- One step counts a recovery if the last command was a homing that found the stop. -/
theorem Reached.counted_next (h : Reached s run p) (frees : p.Frees k) (f : Feedback) :
    ∃ left, (p.next f).2.Frees left ∧ left + (foundStop run f).toNat = k ∧
      (p.next f).2.recoveries = p.recoveries + UInt8.ofNat (foundStop run f).toNat := by
  cases accepted : p.stage.accept f with
  | some t =>
    rw [next_of_accept accepted]
    exact frees_resume p (h.frees_accept frees accepted)
  | none =>
    rw [foundStop_of_rejected h.stage accepted]
    by_cases failed : ∃ e, p.stage = .failed e
    · obtain ⟨e, hs⟩ := failed
      have stays : p.next f = (.failed e, p) := by
        unfold Plan.next
        rw [hs]
      rw [stays]
      exact ⟨k, frees, rfl, (UInt8.add_zero _).symm⟩
    · rw [next_of_unaccepted accepted (not_exists.mp failed)]
      exact ⟨k, trivial, rfl, (UInt8.add_zero _).symm⟩

theorem Reached.counted (h : Reached s run p) (frees : p.Frees k)
    (few : p.recoveries.toNat + k ≤ 2) (fs : List Feedback) :
    ∃ left, (p.after fs).Frees left ∧ (p.after fs).recoveries.toNat + left ≤ 2 := by
  induction fs generalizing p run k with
  | nil => exact ⟨k, frees, few⟩
  | cons f fs ih =>
    obtain ⟨left, later, split, counted⟩ := h.counted_next frees f
    have small := (foundStop run f).toNat_le
    apply ih (h.next f) later
    rw [counted, UInt8.toNat_add, UInt8.toNat_ofNat']
    omega

theorem frees_after (s : Setup) (fs : List Feedback) :
    ∃ left, ((ofSetup s).after fs).Frees left ∧
      ((ofSetup s).after fs).recoveries.toNat + left ≤ 2 := by
  have start : (ofSetup s).Frees 2 := Script.frees_separation s
  exact (reached s []).counted start (Nat.le_refl 2) fs

theorem recoveries_step (s : Setup) (fs : List Feedback) (f : Feedback) :
    ((ofSetup s).after (fs ++ [f])).recoveries.toNat =
      ((ofSetup s).after fs).recoveries.toNat + (foundStop ((ofSetup s).events fs) f).toNat := by
  obtain ⟨k, frees, few⟩ := frees_after s fs
  obtain ⟨left, _, split, counted⟩ := (reached s fs).counted_next frees f
  have small := (foundStop ((ofSetup s).events fs) f).toNat_le
  rw [after_append]
  show (((ofSetup s).after fs).next f).2.recoveries.toNat = _
  rw [counted, UInt8.toNat_add, UInt8.toNat_ofNat']
  omega

end

/-- Every check of a tilt follows the law, on both ways and however it was reached. Recoveries are
counted nowhere else, and a separation never counts more than two. -/
theorem recovery_law {s : Setup} {moves : TiltMoves} (way : Way) (fs : List Feedback)
    (hs : s.tilt = some moves)
    (last : ((ofSetup s).events fs).getLast? = some (.issued way.checking (.queryStall .tilt))) :
    RecoveryLaw s moves way ((ofSetup s).after fs) ∧
    (∀ gs f, ((ofSetup s).after (gs ++ [f])).recoveries.toNat =
      ((ofSetup s).after gs).recoveries.toNat + (foundStop ((ofSetup s).events gs) f).toNat) ∧
    ∀ gs, ((ofSetup s).after gs).recoveries.toNat ≤ 2 := by
  have asking := asking_of_issued hs last
  have target := asking.passed (clear_target s moves way)
  obtain ⟨n, frees⟩ := Way.frees_rest s moves way
  have few : ∀ gs, ((ofSetup s).after gs).recoveries.toNat ≤ 2 := by
    intro gs
    obtain ⟨left, _, few⟩ := frees_after s gs
    omega
  refine ⟨⟨?_, ?_, ?_, ?_⟩, recoveries_step s, few⟩
  · intro flag x
    constructor
    · intro shown
      by_contra stuck
      exact asking.stuck stuck shown
    · exact fun clear => (asking.passed clear).1
  · intro flag x clear
    rw [(asking.passed clear).2, target.2]
    exact ⟨rfl, resume_recoveries frees⟩
  · intro flag x homed i stuck allowed missed found
    obtain ⟨shown, plan⟩ := asking.freed stuck allowed missed found
    refine ⟨shown, ?_, ?_⟩
    · rw [plan, target.2]
    · have bound := few fs
      rw [UInt8.toNat_add]
      simp only [UInt8.reduceToNat]
      omega
  · intro flag x homed more stuck missed
    exact asking.given_up stuck missed more

/- The sample, whose tilt has come up again. -/
theorem recovery_law_sample :
    ((ofSetup .sample).events (.none :: sampleFeedback.take 16)).getLast? =
        some (.issued .tiltUpStallCheck (.queryStall .tilt)) ∧
      RecoveryLaw .sample ⟨MovingProfileId.tiltDownLargeFill.factoryProfile,
          MovingProfileId.tiltUpLargeFill.factoryProfile⟩ .up
        ((ofSetup .sample).after (.none :: sampleFeedback.take 16)) := by
  have last : ((ofSetup .sample).events (.none :: sampleFeedback.take 16)).getLast? =
      some (.issued Way.up.checking (.queryStall .tilt)) := by decide +kernel
  exact ⟨last, (recovery_law .up (.none :: sampleFeedback.take 16) rfl last).1⟩

end Plan
end LayerSeparation
