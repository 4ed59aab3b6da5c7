import Mathlib.Data.List.Chain
import LayerSeparation.Proofs.Accepted
import LayerSeparation.Proofs.Parts
import LayerSeparation.Proofs.Run

/-! The commands of a separation in which nothing goes wrong, as one list. The list is written out
from the parameters and two readings of the tilt; no script and no plan occurs in it. A plan that
gets such answers issues exactly this list and then is done. -/
namespace LayerSeparation

def SplitStep.command : SplitStep → Command
  | .move steps => .moveRelative .tilt steps
  | .wait ms => .wait ms

/- A pause of no length is left out. -/
def pauses (phase : Phase) (ms : UInt32) : List Event :=
  if 0 < ms then [.issued phase (.wait ms)] else []

def stretches (phase : Phase) (distance : Int32) (profile : MovingProfile) : List Event :=
  (CycleSplit.new distance profile.cycles profile.delayMs).pending.map fun step =>
    .issued phase step.command

/-- The way down of a tilt that is found at `p` after its first stretch. -/
def MovingProfile.nominalDown (profile : MovingProfile) (p : Int32) : List Event :=
  [.issued .tiltDownInitial (.setTiltCurve profile.initialCurve)] ++
  (if 0 < profile.offsetSteps then
    [.issued .tiltDownInitial (.moveRelative .tilt (-profile.offsetSteps))] else []) ++
  pauses .tiltDownOffsetWait profile.offsetDelayMs ++
  [.issued .tiltDownFinish (.setTiltCurve profile.finishCurve),
    .issued .tiltDownCycles (.readPosition .tilt)] ++
  stretches .tiltDownCycles (-p) profile ++
  [.issued .stallCheck (.queryStall .tilt), .issued .stallCheck (.readPosition .tilt)]

def MovingProfile.nominalUp (profile : MovingProfile) (height q : Int32) : List Event :=
  [.issued .tiltUpInitial (.setTiltCurve profile.initialCurve),
    .issued .tiltUpInitial (.moveAbsolute .tilt (height - profile.offsetSteps))] ++
  pauses .tiltUpOffsetWait profile.offsetDelayMs ++
  [.issued .tiltUpFinish (.setTiltCurve profile.finishCurve),
    .issued .tiltUpCycles (.readPosition .tilt)] ++
  stretches .tiltUpCycles (height - q) profile ++
  [.issued .tiltUpStallCheck (.queryStall .tilt), .issued .tiltUpStallCheck (.readPosition .tilt)]

def LayerParams.nominalTower (params : LayerParams) (nextLayerNm : Int32) : List Event :=
  [.issued .tower (.setTowerCurve params.towerCurve),
    .issued .tower (if 0 < params.towerHopHeightNm then
      .moveRelative .tower (Int32.ofNat params.towerHopHeightNm.toNat)
      else .moveAbsolute .tower nextLayerNm)]

def Setup.nominal (s : Setup) (p q : Int32) : List Event :=
  pauses .settleAfterExposure s.params.delayAfterExposureMs ++
  ((match s.tilt with
    | some moves => moves.down.nominalDown p
    | none => []) ++
  (s.params.nominalTower s.nextLayerNm ++
  ((match s.tilt with
    | some moves => moves.up.nominalUp s.geometry.heightSteps q
    | none => []) ++
  ((if 0 < s.params.towerHopHeightNm then
    [.issued .towerLower (.moveAbsolute .tower s.nextLayerNm)] else []) ++
  pauses .settleBeforeExposure s.params.delayBeforeExposureMs))))

/-- Answers of a healthy tilt: no stall, close enough to its target whenever it is checked, and found
at `p` and at `q` before the split moves. -/
def Turn.Healthy (s : Setup) (p q : Int32) : Turn → Prop
  | ⟨_, .queryStall _, flag⟩ => flag = false
  | ⟨phase, .readPosition _, x⟩ =>
    (phase = .tiltDownCycles → x = p) ∧ (phase = .tiltUpCycles → x = q) ∧
    (phase = .stallCheck → ∀ moves ∈ s.tilt,
      x.toInt.natAbs ≤ moves.down.homingTolerance.toNat) ∧
    (phase = .tiltUpStallCheck → ∀ moves ∈ s.tilt,
      (x.toInt - s.geometry.heightSteps.toInt).natAbs ≤ moves.up.homingTolerance.toNat)
  | _ => True

instance (s : Setup) (p q : Int32) : DecidablePred (Turn.Healthy s p q)
  | ⟨_, .queryStall _, flag⟩ => inferInstanceAs (Decidable (flag = false))
  | ⟨phase, .readPosition _, x⟩ => inferInstanceAs (Decidable (
    (phase = .tiltDownCycles → x = p) ∧ (phase = .tiltUpCycles → x = q) ∧
    (phase = .stallCheck → ∀ moves ∈ s.tilt,
      x.toInt.natAbs ≤ moves.down.homingTolerance.toNat) ∧
    (phase = .tiltUpStallCheck → ∀ moves ∈ s.tilt,
      (x.toInt - s.geometry.heightSteps.toInt).natAbs ≤ moves.up.homingTolerance.toNat)))
  | ⟨_, .setTiltCurve _, _⟩ | ⟨_, .setTowerCurve _, _⟩ | ⟨_, .moveRelative .., _⟩
  | ⟨_, .moveAbsolute .., _⟩ | ⟨_, .home _, _⟩ | ⟨_, .wait _, _⟩ => .isTrue trivial

def HealthyFeedback (s : Setup) (p q : Int32) : Event → Event → Prop
  | .issued phase c, .fed f => ∃ a ∈ f.answer? c, Turn.Healthy s p q ⟨phase, c, a⟩
  | .done, .fed f => f = .none
  | _, _ => True

instance (s : Setup) (p q : Int32) : DecidableRel (HealthyFeedback s p q)
  | .issued phase c, .fed f =>
    inferInstanceAs (Decidable (∃ a ∈ f.answer? c, Turn.Healthy s p q ⟨phase, c, a⟩))
  | .done, .fed f => inferInstanceAs (Decidable (f = .none))
  | .issued .., .issued .. | .issued .., .done | .issued .., .failed _ | .done, .issued ..
  | .done, .done | .done, .failed _ | .fed _, _ | .failed _, _ => .isTrue trivial

namespace Script

/-- As long as the answers are admitted the script asks exactly this, frees nothing and ends. -/
def Issues (admitted : Turn → Prop) : Script → List Event → Prop
  | .done, es => es = []
  | .fail _, _ | .recovered _, _ => False
  | .ask phase c next, es => ∃ more, es = .issued phase c :: more ∧
      ∀ a, admitted ⟨phase, c, a⟩ → (next a).Issues admitted more

variable {admitted : Turn → Prop} {phase : Phase}

theorem issues_andThen {t rest : Script} {es more : List Event} (ht : t.Issues admitted es)
    (hr : rest.Issues admitted more) : (t.andThen rest).Issues admitted (es ++ more) := by
  induction t generalizing es with
  | done =>
    have none : es = [] := ht
    subst none
    exact hr
  | fail e => cases ht
  | recovered t ih => cases ht
  | ask phase c next ih =>
    obtain ⟨tail, rfl, ht⟩ := ht
    exact ⟨tail ++ more, rfl, fun a ha => ih a (ht a ha)⟩

/- One command that is only acknowledged. -/
theorem issues_acknowledged {c : Command} {rest : Script} {es : List Event}
    (h : rest.Issues admitted es) :
    (ask phase c fun _ => rest).Issues admitted (.issued phase c :: es) :=
  ⟨es, rfl, fun _ _ => h⟩

theorem issues_pause (phase : Phase) (ms : UInt32) {rest : Script} {es : List Event}
    (h : rest.Issues admitted es) :
    (pause phase ms rest).Issues admitted (pauses phase ms ++ es) := by
  unfold pause pauses
  split
  · exact issues_acknowledged h
  · exact h

theorem issues_cycles {target p d : Int32} {profile : MovingProfile}
    (only : ∀ x, admitted ⟨phase, .readPosition .tilt, x⟩ → x = p)
    (distance : d.toInt = target.toInt - p.toInt) :
    (cycles phase target profile .done).Issues admitted
      (.issued phase (.readPosition .tilt) :: stretches phase d profile) := by
  refine ⟨_, rfl, fun x hx => ?_⟩
  have found : x = p := only x hx
  subst found
  have exact_distance := Width.difference?_eq_some_iff.mpr distance
  simp only [exact_distance, stretches]
  induction (CycleSplit.new d profile.cycles profile.delayMs).pending with
  | nil => rfl
  | cons step steps ih => cases step <;> exact issues_acknowledged ih

theorem issues_check {freeing : Phase} {target : Int32} {profile : MovingProfile}
    {freed : Script} (clear : ∀ flag, admitted ⟨phase, .queryStall .tilt, flag⟩ → flag = false)
    (near : ∀ x : Int32, admitted ⟨phase, .readPosition .tilt, x⟩ →
      (x.toInt - target.toInt).natAbs ≤ profile.homingTolerance.toNat) :
    (check phase freeing target profile freed .done).Issues admitted
      [.issued phase (.queryStall .tilt), .issued phase (.readPosition .tilt)] := by
  refine ⟨_, rfl, fun flag hf => ⟨_, rfl, fun x hx => ?_⟩⟩
  have passed : ((StallCheck.mk target profile.homingTolerance).evaluate flag x).isClear :=
    (StallCheck.isClear_evaluate_iff _ _ _).mpr ⟨clear flag hf, near x hx⟩
  cases ho : (StallCheck.mk target profile.homingTolerance).evaluate flag x with
  | clear => simp only [ho]; rfl
  | stalled position deviation =>
    rw [ho] at passed
    cases passed

theorem issues_wayDown {s : Setup} {p q : Int32} {moves : TiltMoves} (hs : s.tilt = some moves)
    (hp : p ≠ Int32.minValue) :
    (wayDown moves.down).Issues (Turn.Healthy s p q) (moves.down.nominalDown p) := by
  have distance : (-p).toInt = (0 : Int32).toInt - p.toInt := by
    rw [Width.toInt_neg hp]
    simp
  have moved : (cycles .tiltDownCycles 0 moves.down .done).Issues (Turn.Healthy s p q) _ :=
    issues_cycles (fun x h => h.1 rfl) distance
  have finished : (setTiltCurve .tiltDownFinish moves.down.finishCurve <|
      cycles .tiltDownCycles 0 moves.down .done).Issues (Turn.Healthy s p q) _ :=
    issues_acknowledged moved
  have turned := issues_pause .tiltDownOffsetWait moves.down.offsetDelayMs finished
  have checked : (checkDown moves.down).Issues (Turn.Healthy s p q) _ :=
    issues_check (fun flag h => h) (fun x h => by simpa using h.2.2.1 rfl moves hs)
  have descended : (descend moves.down).Issues (Turn.Healthy s p q)
      (.issued .tiltDownInitial (.setTiltCurve moves.down.initialCurve) ::
      ((if 0 < moves.down.offsetSteps then
        [.issued .tiltDownInitial (.moveRelative .tilt (-moves.down.offsetSteps))] else []) ++
      (pauses .tiltDownOffsetWait moves.down.offsetDelayMs ++
      .issued .tiltDownFinish (.setTiltCurve moves.down.finishCurve) ::
      .issued .tiltDownCycles (.readPosition .tilt) ::
      stretches .tiltDownCycles (-p) moves.down))) := by
    apply issues_acknowledged
    split
    · exact issues_acknowledged turned
    · exact turned
  have whole := issues_andThen descended checked
  simpa only [wayDown, MovingProfile.nominalDown, List.append_assoc, List.cons_append,
    List.nil_append] using whole

theorem issues_wayUp {s : Setup} {p q : Int32} {moves : TiltMoves} (hs : s.tilt = some moves)
    (travel : moves.up.InTravel s.geometry)
    (hq : -0x80000000 ≤ s.geometry.heightSteps.toInt - q.toInt)
    (hq' : s.geometry.heightSteps.toInt - q.toInt < 0x80000000) :
    (wayUp s.geometry moves.up).Issues (Turn.Healthy s p q)
      (moves.up.nominalUp s.geometry.heightSteps q) := by
  have offset := travel.offset
  have within := travel.travel
  have high := s.geometry.heightSteps.toInt_lt
  have target : Width.difference? s.geometry.heightSteps moves.up.offsetSteps =
      some (s.geometry.heightSteps - moves.up.offsetSteps) :=
    Width.difference?_eq_some_iff.mpr (Width.toInt_sub (by omega) (by omega))
  have moved : (cycles .tiltUpCycles s.geometry.heightSteps moves.up .done).Issues
      (Turn.Healthy s p q) _ := issues_cycles (fun x h => h.2.1 rfl) (Width.toInt_sub hq hq')
  have finished : (setTiltCurve .tiltUpFinish moves.up.finishCurve <|
      cycles .tiltUpCycles s.geometry.heightSteps moves.up .done).Issues (Turn.Healthy s p q) _ :=
    issues_acknowledged moved
  have turned := issues_pause .tiltUpOffsetWait moves.up.offsetDelayMs finished
  have checked : (checkUp s.geometry moves.up).Issues (Turn.Healthy s p q) _ :=
    issues_check (fun flag h => h) (fun x h => h.2.2.2 rfl moves hs)
  have ascended : (ascend s.geometry moves.up).Issues (Turn.Healthy s p q)
      (.issued .tiltUpInitial (.setTiltCurve moves.up.initialCurve) ::
      .issued .tiltUpInitial
        (.moveAbsolute .tilt (s.geometry.heightSteps - moves.up.offsetSteps)) ::
      (pauses .tiltUpOffsetWait moves.up.offsetDelayMs ++
      .issued .tiltUpFinish (.setTiltCurve moves.up.finishCurve) ::
      .issued .tiltUpCycles (.readPosition .tilt) ::
      stretches .tiltUpCycles (s.geometry.heightSteps - q) moves.up)) := by
    apply issues_acknowledged
    simp only [target]
    exact issues_acknowledged turned
  have whole := issues_andThen ascended checked
  simpa only [wayUp, MovingProfile.nominalUp, List.append_assoc, List.cons_append,
    List.nil_append] using whole

end Script

namespace Setup
variable {table : MovingProfileTable} {params : LayerParams} {geometry : TiltGeometry}
  {nextLayerNm : Int32} {s : Setup}

theorem Resolved.hops_iff (h : Resolved table params geometry nextLayerNm s) :
    s.hops ↔ 0 < s.params.towerHopHeightNm := by
  have hop := h.hop
  rw [← h.params_eq] at hop
  have zero : (0 : Int32).toInt = 0 := rfl
  simp only [hops, decide_eq_true_eq, Int32.lt_iff_toInt_lt, UInt32.lt_iff_toNat_lt, hop, zero,
    UInt32.toNat_zero]
  omega

theorem Resolved.hopNm_eq (h : Resolved table params geometry nextLayerNm s) :
    s.hopNm = Int32.ofNat s.params.towerHopHeightNm.toNat := by
  have hop := h.hop
  rw [← h.params_eq] at hop
  rw [← Int32.ofInt_toInt s.hopNm, hop]
  rfl

end Setup

namespace Script

theorem issues_towerRaise {s : Setup} {admitted : Turn → Prop}
    (hops : s.hops ↔ 0 < s.params.towerHopHeightNm)
    (hop : s.hopNm = Int32.ofNat s.params.towerHopHeightNm.toNat) :
    (towerRaise s .done).Issues admitted (s.params.nominalTower s.nextLayerNm) := by
  apply issues_acknowledged
  by_cases h : 0 < s.params.towerHopHeightNm
  · rw [if_pos (hops.mpr h), if_pos h, ← hop]
    exact issues_acknowledged rfl
  · rw [if_neg (mt hops.mp h), if_neg h]
    exact issues_acknowledged rfl

theorem issues_separation {table : MovingProfileTable} {params : LayerParams}
    {geometry : TiltGeometry} {nextLayerNm : Int32} {s : Setup} {p q : Int32}
    (resolved : s.Resolved table params geometry nextLayerNm) (hp : p ≠ Int32.minValue)
    (hq : -0x80000000 ≤ s.geometry.heightSteps.toInt - q.toInt)
    (hq' : s.geometry.heightSteps.toInt - q.toInt < 0x80000000) :
    (separation s).Issues (Turn.Healthy s p q) (s.nominal p q) := by
  have settle : ∀ phase ms, (pause phase ms .done).Issues (Turn.Healthy s p q) (pauses phase ms) := by
    intro phase ms
    have h : (Script.done).Issues (Turn.Healthy s p q) [] := rfl
    simpa using issues_pause phase ms h
  have lower : (towerLower s .done).Issues (Turn.Healthy s p q)
      (if 0 < s.params.towerHopHeightNm then
        [.issued .towerLower (.moveAbsolute .tower s.nextLayerNm)] else []) := by
    unfold towerLower
    by_cases h : 0 < s.params.towerHopHeightNm
    · rw [if_pos (resolved.hops_iff.mpr h), if_pos h]
      exact issues_acknowledged rfl
    · rw [if_neg (mt resolved.hops_iff.mp h), if_neg h]
      rfl
  have raise : (towerRaise s .done).Issues (Turn.Healthy s p q) _ :=
    issues_towerRaise resolved.hops_iff resolved.hopNm_eq
  rw [separation_eq, Setup.nominal]
  cases hs : s.tilt with
  | none =>
    simp only [withTilt, hs, andThen, List.nil_append]
    exact issues_andThen (settle _ _) (issues_andThen raise (issues_andThen lower (settle _ _)))
  | some moves =>
    have travel := (resolved.profiles moves hs).2
    rw [← resolved.geometry_eq] at travel
    simp only [withTilt, hs]
    exact issues_andThen (settle _ _) (issues_andThen (issues_wayDown hs hp) (issues_andThen raise
      (issues_andThen (issues_wayUp hs travel hq hq') (issues_andThen lower (settle _ _)))))

end Script

namespace Plan
variable {s : Setup} {p q : Int32}

/-- The last thing that came out of a plan, and the commands it has yet to issue. -/
inductive Due (s : Setup) (p q : Int32) : Plan → Event → List Event → Prop where
  | ready {plan : Plan} {t : Script} {es : List Event} (stage : plan.stage = .ready t)
      (issues : t.Issues (Turn.Healthy s p q) es) : Due s p q plan .done es
  | awaiting {plan : Plan} {phase : Phase} {c : Command} {next : c.Answer → Script}
      {es : List Event} (stage : plan.stage = .awaiting c next)
      (issues : ∀ a, Turn.Healthy s p q ⟨phase, c, a⟩ →
        (next a).Issues (Turn.Healthy s p q) es) : Due s p q plan (.issued phase c) es

/- After healthy feedback the plan takes up a script that issues what is due. -/
theorem Due.accept {plan : Plan} {e : Event} {es : List Event} {f : Feedback}
    (due : Due s p q plan e es) (healthy : HealthyFeedback s p q e (.fed f)) :
    ∃ t, plan.stage.accept f = some t ∧ t.Issues (Turn.Healthy s p q) es := by
  cases due with
  | ready stage issues =>
    rw [stage]
    exact ⟨_, accept_ready_iff.mpr ⟨healthy, rfl⟩, issues⟩
  | awaiting stage issues =>
    obtain ⟨a, answered, ha⟩ := healthy
    rw [stage]
    exact ⟨_, accept_awaiting_iff.mpr ⟨a, answer?_eq_some_iff.mp answered, rfl⟩, issues a ha⟩

theorem Due.next {plan : Plan} {e : Event} {es : List Event} {f : Feedback}
    (due : Due s p q plan e es) (healthy : HealthyFeedback s p q e (.fed f)) :
    ∃ shown more, es ++ [.done] = shown :: more ∧
      (∀ run, outgoing (.fed f :: shown :: run) = shown :: outgoing run) ∧
      (plan.next f).1.event (plan.next f).2.phase = shown ∧
      Due s p q (plan.next f).2 shown es.tail := by
  obtain ⟨t, accepted, issues⟩ := due.accept healthy
  rw [next_of_accept accepted]
  cases t with
  | done =>
    have none : es = [] := issues
    subst none
    exact ⟨.done, [], rfl, fun _ => rfl, rfl, .ready rfl rfl⟩
  | fail e => cases issues
  | recovered t => cases issues
  | ask phase c next =>
    obtain ⟨more, rfl, issues⟩ := issues
    exact ⟨.issued phase c, _, rfl, fun _ => rfl, rfl, .awaiting rfl issues⟩

theorem outgoing_of_due {plan : Plan} {e : Event} {es : List Event} {fs : List Feedback}
    (due : Due s p q plan e es)
    (healthy : List.IsChain (HealthyFeedback s p q) (e :: plan.events fs)) :
    outgoing (plan.events fs) = (es ++ List.replicate fs.length Event.done).take fs.length := by
  induction fs generalizing plan e es with
  | nil => rfl
  | cons f fs ih =>
    rw [events, List.isChain_cons_cons, List.isChain_cons_cons] at healthy
    obtain ⟨answered, _, rest⟩ := healthy
    obtain ⟨shown, more, hes, out, step, due⟩ := due.next answered
    rw [step] at rest
    rw [events, step, out, ih due rest, List.length_cons]
    cases es with
    | nil =>
      injection hes with hshown
      rw [← hshown]
      simp [List.replicate_succ]
    | cons x es =>
      injection hes with hshown
      -- one end more than is looked at
      have spare : (es ++ List.replicate (fs.length + 1) Event.done).take fs.length =
          (es ++ List.replicate fs.length Event.done).take fs.length := by
        rw [List.replicate_succ', ← List.append_assoc, List.take_append_of_le_length (by simp)]
      rw [hshown, List.tail_cons, List.cons_append, List.take_succ_cons, spare]

/-- A plan made of accepted inputs and driven by a healthy tilt issues the nominal commands one after
another, and from then on tells that it is done. -/
theorem nominal_sequence {table : MovingProfileTable} {params : LayerParams}
    {geometry : TiltGeometry} {nextLayerNm : Int32} {s : Setup} (p q : Int32) (fs : List Feedback)
    (accepted : Setup.resolve table params geometry nextLayerNm = .ok s) (hp : p ≠ Int32.minValue)
    (hq : -0x80000000 ≤ geometry.heightSteps.toInt - q.toInt)
    (hq' : geometry.heightSteps.toInt - q.toInt < 0x80000000)
    (healthy : List.IsChain (HealthyFeedback s p q) ((ofSetup s).events (.none :: fs))) :
    outgoing ((ofSetup s).events (.none :: fs)) =
      (s.nominal p q ++ List.replicate (fs.length + 1) Event.done).take (fs.length + 1) := by
  have resolved := Setup.resolved_of_eq_ok accepted
  rw [← resolved.geometry_eq] at hq hq'
  have due : Due s p q (ofSetup s) .done (s.nominal p q) :=
    .ready rfl (Script.issues_separation resolved hp hq hq')
  exact outgoing_of_due due (List.isChain_cons_cons.mpr ⟨rfl, healthy⟩)

/- A whole run of the sample, whose tilt stands at 4928 steps and stops where it is sent. -/
def sampleFeedback : List Feedback :=
  [.none, .none, .none, .none, .none, .position 4278, .none, .stall false, .position 0,
    .none, .none, .none, .none, .none, .position 4528, .none, .stall false, .position 4928,
    .none, .none]

theorem nominal_sequence_sample :
    outgoing ((ofSetup .sample).events (.none :: sampleFeedback)) =
      Setup.sample.nominal 4278 4528 ++ [.done] :=
  (nominal_sequence 4278 4528 sampleFeedback Setup.resolve_sample (by decide) (by decide)
    (by decide) (by decide +kernel)).trans (by decide +kernel)

end Plan
end LayerSeparation
