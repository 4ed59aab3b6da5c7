import LayerSeparation.Proofs.Admission
import LayerSeparation.Proofs.Pacing

/-! What a plan may ask of the machine. Ranges are checked once, before anything moves, and whatever is reported
back afterwards no command leaves them: each pause, each position and each length stays in bounds, and on the
two stretches of the tilt the moves lead from where it stands to where it should stand without passing it. -/
namespace LayerSeparation

def InEnvelope (s : Setup) (phase : Phase) : Command → Prop
  | .wait ms => 1 ≤ ms.toNat ∧ ms.toNat ≤ 30000
  | .moveAbsolute .tilt position => 0 ≤ position.toInt ∧ position.toInt ≤ s.geometry.heightSteps.toInt
  | .moveAbsolute .tower position => position = s.nextLayerNm
  | .moveRelative .tilt steps =>
    phase = .tiltDownInitial ∧ -min 10000 s.geometry.heightSteps.toInt ≤ steps.toInt ∧ steps.toInt ≤ -1 ∨
      phase = .tiltDownCycles ∨ phase = .tiltUpCycles
  | .moveRelative .tower nm => 1 ≤ nm.toInt ∧ nm.toInt ≤ 100000000
  | .readPosition axis | .queryStall axis | .home axis => axis = .tilt
  | .setTiltCurve _ | .setTowerCurve _ => True

def Event.stretch? (phase : Phase) : Event → Option Int
  | .issued q (.moveRelative .tilt steps) => if q = phase then some steps.toInt else none
  | _ => none

def stretched (phase : Phase) (run : List Event) : List Int := run.filterMap (Event.stretch? phase)

theorem Divides.wait {distance : Int32} {cycles : UInt8} {delayMs ms : UInt32} {steps : List SplitStep}
    (h : Divides distance cycles delayMs steps) (mem : .wait ms ∈ steps) : ms = delayMs ∧ 0 < delayMs := by
  have pauses := h.pauses
  split at pauses
  · next paused =>
    obtain ⟨i, before, here⟩ := List.mem_iff_getElem.mp mem
    have step := pauses.2 i before
    rw [List.getElem?_eq_getElem before, here] at step
    split at step
    · obtain ⟨n, move⟩ := step
      cases move
    · cases step
      exact ⟨rfl, paused.2⟩
  · obtain ⟨n, move⟩ := pauses _ mem
    cases move

/-- Whatever part of a split was made leads from its beginning towards its end. -/
theorem Divides.covers {distance x target : Int32} {cycles : UInt8} {delayMs : UInt32} {steps : List SplitStep}
    {made : List Int} (h : Divides distance cycles delayMs steps)
    (whole : distance.toInt = target.toInt - x.toInt) (first : made <+: lengths steps) :
    let y := x.toInt + total made
    (x.toInt ≤ y ∧ y ≤ target.toInt ∨ target.toInt ≤ y ∧ y ≤ x.toInt) ∧
      (made = lengths steps → y = target.toInt) := by
  have between := h.between made.length
  rw [← List.prefix_iff_eq_take.mp first] at between
  constructor
  · omega
  · intro all
    rw [all, h.whole]
    omega

theorem Setup.hop_of_resolve {table : MovingProfileTable} {params : LayerParams} {geometry : TiltGeometry}
    {nextLayerNm : Int32} {s : Setup} (accepted : resolve table params geometry nextLayerNm = .ok s) :
    (params.towerHopHeightNm.toNat : Int) ≤ 100000000 := by
  obtain ⟨_, -, accepted⟩ := bind_eq_ok_iff.mp accepted
  obtain ⟨_, ranges, -⟩ := bind_eq_ok_iff.mp accepted
  exact hop_of_validate ranges

namespace Script

section
variable {s : Setup} {phase freeing : Phase} {rest freed clear : Script} {profile : MovingProfile}
  {moves : TiltMoves}

theorem enveloped_pause {ms : UInt32} (few : ms.toNat ≤ 30000) (h : rest.Within (InEnvelope s)) :
    (pause phase ms rest).Within (InEnvelope s) := by
  unfold pause
  split
  · next long => exact ⟨⟨UInt32.lt_iff_toNat_lt.mp long, few⟩, fun _ => h⟩
  · exact h

theorem enveloped_split (way : Way) {steps : List SplitStep}
    (waits : ∀ ms, .wait ms ∈ steps → 1 ≤ ms.toNat ∧ ms.toNat ≤ 30000) (h : rest.Within (InEnvelope s)) :
    (steps.foldr (splitStep way.cycles) rest).Within (InEnvelope s) := by
  induction steps with
  | nil => exact h
  | cons x xs ih =>
    have later := ih fun ms mem => waits ms (List.mem_cons_of_mem x mem)
    cases x with
    | move steps => exact ⟨.inr (by cases way <;> simp [Way.cycles]), fun _ => later⟩
    | wait ms => exact ⟨waits ms List.mem_cons_self, fun _ => later⟩

theorem enveloped_cycles (way : Way) {target : Int32} (few : profile.delayMs.toNat ≤ 30000)
    (h : rest.Within (InEnvelope s)) : (cycles way.cycles target profile rest).Within (InEnvelope s) := by
  refine ⟨rfl, fun position => ?_⟩
  dsimp only
  split
  · trivial
  · refine enveloped_split way (fun ms mem => ?_) h
    obtain ⟨rfl, long⟩ := (divides_pending _ _ _).wait mem
    exact ⟨UInt32.lt_iff_toNat_lt.mp long, few⟩

theorem enveloped_check {target : Int32} (hf : freed.Within (InEnvelope s))
    (hc : clear.Within (InEnvelope s)) :
    (check phase freeing target profile freed clear).Within (InEnvelope s) :=
  within_check rfl rfl rfl hf hc

theorem enveloped_wayDown (travel : profile.InTravel s.geometry) :
    (wayDown profile).Within (InEnvelope s) := by
  obtain ⟨offset, reach, offsetDelay, -, delay⟩ := travel
  have rest : (pause .tiltDownOffsetWait profile.offsetDelayMs <|
      setTiltCurve .tiltDownFinish profile.finishCurve <|
      cycles .tiltDownCycles 0 profile .done).Within (InEnvelope s) := by
    refine enveloped_pause (by omega) ⟨trivial, fun _ => ?_⟩
    exact enveloped_cycles .down (by omega) trivial
  refine within_andThen ⟨trivial, fun _ => ?_⟩ (enveloped_check trivial trivial)
  split
  · next long =>
    have first : 0 < profile.offsetSteps.toInt := Int32.lt_iff_toInt_lt.mp long
    have back := Width.toInt_neg_of_nonneg offset.1
    exact ⟨.inl ⟨rfl, by omega, by omega⟩, fun _ => rest⟩
  · exact rest

theorem enveloped_wayUp (travel : profile.InTravel s.geometry) (height : 0 ≤ s.geometry.heightSteps.toInt) :
    (wayUp s.geometry profile).Within (InEnvelope s) := by
  obtain ⟨offset, reach, offsetDelay, -, delay⟩ := travel
  have top : InEnvelope s .tiltUpUnstuck (.moveAbsolute .tilt s.geometry.heightSteps) :=
    ⟨height, Int.le_refl _⟩
  refine within_andThen ⟨trivial, fun _ => ?_⟩ (enveloped_check ⟨top, fun _ => trivial⟩ trivial)
  split
  · trivial
  · next position there =>
    have place := Width.difference?_eq_some_iff.mp there
    refine ⟨⟨by omega, by omega⟩, fun _ => enveloped_pause (by omega) ⟨trivial, fun _ => ?_⟩⟩
    exact enveloped_cycles .up (by omega) trivial

end

theorem enveloped_separation {table : MovingProfileTable} {params : LayerParams}
    {geometry : TiltGeometry} {nextLayerNm : Int32} {s : Setup}
    (accepted : Setup.resolve table params geometry nextLayerNm = .ok s) :
    (separation s).Within (InEnvelope s) := by
  have resolved := Setup.resolved_of_eq_ok accepted
  have height := resolved.height
  have hop := resolved.hop
  have far := Setup.hop_of_resolve accepted
  have travel := resolved.profiles
  have settles := And.intro resolved.before resolved.after
  rw [← resolved.params_eq] at settles hop far
  rw [← resolved.geometry_eq] at height travel
  refine within_separation (enveloped_pause settles.2 trivial) (fun moves tilt => ?_) ?_ (fun moves tilt => ?_)
    ?_ (enveloped_pause settles.1 trivial)
  · exact enveloped_wayDown (travel moves tilt).1
  · refine ⟨trivial, fun _ => ?_⟩
    split
    · next hops =>
      have long : 0 < s.hopNm.toInt := Int32.lt_iff_toInt_lt.mp (of_decide_eq_true hops)
      exact ⟨⟨long, by omega⟩, fun _ => trivial⟩
    · exact ⟨rfl, fun _ => trivial⟩
  · exact enveloped_wayUp (travel moves tilt).2 (by omega)
  · unfold towerLower
    split
    · exact ⟨rfl, fun _ => trivial⟩
    · trivial

end Script

theorem stretched_cons (phase : Phase) (e : Event) (run : List Event) :
    stretched phase (e :: run) = (e.stretch? phase).toList ++ stretched phase run := by
  rw [stretched, List.filterMap_cons]
  cases e.stretch? phase <;> rfl

theorem stretched_fed (phase : Phase) (f : Feedback) (run : List Event) :
    stretched phase (.fed f :: run) = stretched phase run := rfl

theorem stretched_outgoing (phase : Phase) (run : List Event) :
    stretched phase (outgoing run) = stretched phase run := by
  induction run with
  | nil => rfl
  | cons e run ih =>
    rw [stretched_cons, ← ih]
    cases e with
    | fed f => rfl
    | _ => exact stretched_cons ..

namespace Plan
variable {s : Setup} {p : Plan} {phase : Phase} {t rest : Script}

open Script

theorem within_of_issued {R : Phase → Command → Prop} {c : Command} {gs : List Feedback} (h : t.Within R)
    (given : .issued phase c ∈ t.shown :: (p.resume t).2.events gs) : R phase c := by
  have begun : { p with stage := .ready t }.events (.none :: gs) =
      .fed .none :: t.shown :: (p.resume t).2.events gs := by
    have same : { p with stage := .ready t }.resume t = p.resume t := by
      apply resume_congr <;> rfl
    rw [events, next_of_accept (accept_ready_iff.mpr ⟨rfl, rfl⟩), same, resume_shown]
  obtain ⟨before, here⟩ := prefix_of_mem (List.mem_cons_of_mem (.fed .none) given)
  rw [← begun] at here
  have unfed : ∀ f, Event.issued phase c ≠ .fed f := fun f same => by cases same
  have sound : ∀ x, Event.issued phase c ≠ .failed x := fun x same => by cases same
  obtain ⟨f, u, turns, v, accepted, path, shown, -⟩ := path_of_event here unfed sound
  obtain ⟨rfl, rfl⟩ := accept_ready_iff.mp accepted
  cases shown with
  | ask _ _ next => exact (path.within h).2.1

theorem stretched_elsewhere (h : t.Within fun q _ => q ≠ phase) (gs : List Feedback) :
    stretched phase (t.shown :: (p.resume t).2.events gs) = [] := by
  refine List.filterMap_eq_nil_iff.mpr fun e mem => ?_
  cases e with
  | issued q c =>
    have away : q ≠ phase := within_of_issued h mem
    cases c <;> try rfl
    case moveRelative axis steps => cases axis <;> simp [Event.stretch?, away]
  | _ => rfl

theorem stretched_failed {e : SeparationError} (stage : p.stage = .failed e) (gs : List Feedback) :
    stretched phase (p.events gs) = [] := by
  rw [← stretched_outgoing, (run_failed stage gs).1]
  induction gs.length with
  | zero => rfl
  | succ n ih =>
    rw [List.replicate_succ, stretched_cons, ih]
    rfl

theorem splitStep_eq (phase : Phase) (x : SplitStep) (u : Script) :
    splitStep phase x u = .ask phase x.command fun _ => u := by
  cases x <;> rfl

theorem stretched_issued (phase : Phase) (x : SplitStep) (run : List Event) :
    stretched phase (.issued phase x.command :: run) = x.length?.toList ++ stretched phase run := by
  have length : Event.stretch? phase (.issued phase x.command) = x.length? := by
    cases x with
    | move steps => exact if_pos rfl
    | wait ms => rfl
  rw [stretched_cons, length]

theorem lengths_cons (x : SplitStep) (xs : List SplitStep) :
    lengths (x :: xs) = x.length?.toList ++ lengths xs := by
  rw [lengths, List.filterMap_cons]
  cases x.length? <;> rfl

/-- The moves that are made on a stretch are the first of its parts, by induction on the steps that are left.
Feedback of the wrong kind ends them, and the phase is not left before they are all made. -/
theorem stretched_split (later : rest.Within fun q _ => q ≠ phase) (steps : List SplitStep) (p : Plan)
    (gs : List Feedback) :
    let t := steps.foldr (splitStep phase) rest
    let made := stretched phase (t.shown :: (p.resume t).2.events gs)
    made <+: lengths steps ∧ (((p.resume t).2.after gs).phase ≠ phase → made = lengths steps) := by
  induction steps generalizing p gs with
  | nil =>
    have nothing := stretched_elsewhere (p := p) later gs
    exact ⟨nothing ▸ List.prefix_rfl, fun _ => nothing⟩
  | cons x xs ih =>
    dsimp only at ih ⊢
    rw [List.foldr_cons, splitStep_eq]
    generalize xs.foldr (splitStep phase) rest = u at ih
    generalize stands : (p.resume (.ask phase x.command fun _ => u)).2 = q
    have stage : q.stage = .awaiting x.command fun _ => u := by rw [← stands]; rfl
    have here : q.phase = phase := by rw [← stands]; rfl
    rw [shown, stretched_issued, lengths_cons]
    cases gs with
    | nil =>
      have none : stretched phase (q.events []) = [] := rfl
      rw [none, List.append_nil]
      exact ⟨List.prefix_append _ _, fun left => absurd here left⟩
    | cons g gs =>
      rw [events, after, stretched_fed]
      cases accepted : q.stage.accept g with
      | some v =>
        have same : u = v := by
          rw [stage] at accepted
          obtain ⟨-, -, same⟩ := accept_awaiting_iff.mp accepted
          exact same
        obtain ⟨more, whole⟩ := ih q gs
        rw [next_of_accept accepted, ← same, resume_shown]
        exact ⟨(List.prefix_append_right_inj _).mpr more, fun left => by rw [whole left]⟩
      | none =>
        have sound : ∀ e, q.stage ≠ .failed e := fun e failed => by cases stage.symm.trans failed
        have silent : stretched phase (q.reject.1.event q.reject.2.phase :: q.reject.2.events gs) = [] :=
          stretched_failed (p := q.reject.2) rfl gs
        have stays : q.reject.2.after gs = q.reject.2 := (run_failed rfl gs).2
        rw [next_of_unaccepted accepted sound, silent, List.append_nil, stays]
        exact ⟨List.prefix_append _ _, fun left => absurd here left⟩

theorem stretched_of_reading {moves : TiltMoves} (tilt : s.tilt = some moves) (way : Way) {turns : List Turn}
    {next : (Command.readPosition .tilt).Answer → Script}
    (path : (separation s).Leads turns (.ask way.cycles (.readPosition .tilt) next)) (x : Int32) (p : Plan)
    (gs : List Feedback) :
    let made := stretched way.cycles ((next x).shown :: (p.resume (next x)).2.events gs)
    let y := x.toInt + total made
    let target := (way.target s).toInt
    (x.toInt ≤ y ∧ y ≤ target ∨ target ≤ y ∧ y ≤ x.toInt) ∧
      (((p.resume (next x)).2.after gs).phase ≠ way.cycles → y = target) := by
  obtain ⟨rest, spans, same⟩ := eq_cycles_of_separation tilt way path
  obtain ⟨-, -, same⟩ := Script.ask.inj same
  have early : way.cycles < way.checking := by cases way <;> decide
  have later : rest.Within fun q _ => q ≠ way.cycles := by
    refine spans.within.mono ?_
    rintro q _ ⟨low, -⟩ rfl
    exact Nat.not_le_of_lt early low
  dsimp only
  rw [eq_of_heq same]
  dsimp only
  cases distance : Width.difference? (way.target s) x with
  | none =>
    have silent : stretched way.cycles ((outOfTravel way.cycles).shown ::
        (p.resume (outOfTravel way.cycles)).2.events gs) = [] :=
      stretched_failed (p := (p.resume (outOfTravel way.cycles)).2) rfl gs
    have stays : (p.resume (outOfTravel way.cycles)).2.after gs = (p.resume (outOfTravel way.cycles)).2 :=
      (run_failed rfl gs).2
    dsimp only
    rw [silent, stays]
    refine ⟨?_, fun left => absurd rfl left⟩
    have nothing : total [] = 0 := rfl
    omega
  | some d =>
    have whole := Width.difference?_eq_some_iff.mp distance
    have divides := divides_pending d (way.profile moves).cycles (way.profile moves).delayMs
    obtain ⟨first, left⟩ := stretched_split later
      (CycleSplit.new d (way.profile moves).cycles (way.profile moves).delayMs).pending p gs
    obtain ⟨between, reached⟩ := divides.covers whole first
    exact ⟨between, fun gone => reached (left gone)⟩

structure Contained (s : Setup) (fs : List Feedback) : Prop where
  within : ∀ phase c, .issued phase c ∈ (ofSetup s).events fs → InEnvelope s phase c
  read_first : ∀ (way : Way) steps before,
    before ++ [.issued way.cycles (.moveRelative .tilt steps)] <+: (ofSetup s).events fs →
      ∃ x, [.issued way.cycles (.readPosition .tilt), .fed (.position x)] <:+: before
  /-- From the position read the moves lead towards the target and, before anything else comes, all the way. -/
  covers : ∀ (way : Way) (x : Int32) (gs : List Feedback),
    ((ofSetup s).events fs).getLast? = some (.issued way.cycles (.readPosition .tilt)) →
    let made := stretched way.cycles (((ofSetup s).after fs).events (.position x :: gs))
    let y := x.toInt + total made
    let target := (way.target s).toInt
    (x.toInt ≤ y ∧ y ≤ target ∨ target ≤ y ∧ y ≤ x.toInt) ∧
      (((ofSetup s).after (fs ++ .position x :: gs)).phase ≠ way.cycles → y = target)

/-- The envelope, for every accepted setup and all feedback. -/
theorem contained {table : MovingProfileTable} {params : LayerParams} {geometry : TiltGeometry}
    {nextLayerNm : Int32} {s : Setup} (accepted : Setup.resolve table params geometry nextLayerNm = .ok s)
    (fs : List Feedback) : Contained s fs := by
  have tilting : ∀ way : Way, way.cycles.isTilt := fun way => by cases way <;> rfl
  constructor
  · intro phase c given
    obtain ⟨before, here⟩ := prefix_of_mem given
    obtain ⟨turns, -, path⟩ := path_of_issued here
    exact (path.within (enveloped_separation accepted)).2
  · intro way steps before here
    obtain ⟨turns, rfl, next, path⟩ := path_of_issued here
    obtain ⟨moves, tilt⟩ := tilt_of_path path (tilting way)
    obtain ⟨first, after, rest, rfl, -, stretch⟩ := leads_cycles_of_separation tilt way path
    rcases leads_ask_iff.mp stretch with ⟨-, other⟩ | ⟨x, more, rfl, -⟩
    · cases other
    · have read : [⟨way.cycles, .readPosition .tilt, x⟩] <:+:
          first ++ ⟨way.cycles, .readPosition .tilt, x⟩ :: more := ⟨first, more, by simp⟩
      exact ⟨x, infix_history read⟩
  · intro way x gs asked
    obtain ⟨turns, next, stage, -, path⟩ := (reached s fs).stage.of_issued asked
    obtain ⟨moves, tilt⟩ := tilt_of_path path (tilting way)
    have accepted : ((ofSetup s).after fs).stage.accept (.position x) = some (next x) := by
      rw [stage]
      exact accept_awaiting_iff.mpr ⟨x, rfl, rfl⟩
    have step := stretched_of_reading tilt way path x ((ofSetup s).after fs) gs
    rw [after_append]
    dsimp only at step ⊢
    rw [after, events, stretched_fed, next_of_accept accepted, resume_shown]
    exact step

/- The sample, whose tilt is found 1000 steps above the bottom and goes all the way down. -/
theorem contained_sample :
    let fs := .none :: sampleFeedback.take 5
    Contained .sample fs ∧ 1000 + total (stretched .tiltDownCycles
      (((ofSetup .sample).after fs).events (.position 1000 :: List.replicate 19 .none))) = 0 := by
  have law := contained Setup.resolve_sample (.none :: sampleFeedback.take 5)
  have down := law.covers .down 1000 (List.replicate 19 .none) (by decide +kernel)
  exact ⟨law, down.2 (by decide +kernel)⟩

end Plan
end LayerSeparation
