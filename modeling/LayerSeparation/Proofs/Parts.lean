import LayerSeparation.Proofs.Path

/-! A separation as a chain of closed parts: the settle times, the way down, the tower, the way up
and the lowering. For each part: the commands it is confined to and the paths that complete it. A
completed check of the tilt either passed or ends in a homing that succeeded. -/
namespace LayerSeparation

def Setup.towerMove (s : Setup) : Command :=
  if s.hops then .moveRelative .tower s.hopNm else .moveAbsolute .tower s.nextLayerNm

namespace Script

/- Each part puts what follows behind its own commands and looks at nothing else. -/
theorem setTiltCurve_andThen (phase : Phase) (curve : TiltCurve) (t rest : Script) :
    (setTiltCurve phase curve t).andThen rest = setTiltCurve phase curve (t.andThen rest) := rfl

theorem setTowerCurve_andThen (phase : Phase) (curve : TowerCurve) (t rest : Script) :
    (setTowerCurve phase curve t).andThen rest = setTowerCurve phase curve (t.andThen rest) := rfl

theorem moveRelative_andThen (phase : Phase) (axis : Axis) (steps : Int32) (t rest : Script) :
    (moveRelative phase axis steps t).andThen rest =
      moveRelative phase axis steps (t.andThen rest) := rfl

theorem moveAbsolute_andThen (phase : Phase) (axis : Axis) (position : Int32) (t rest : Script) :
    (moveAbsolute phase axis position t).andThen rest =
      moveAbsolute phase axis position (t.andThen rest) := rfl

theorem pause_andThen (phase : Phase) (ms : UInt32) (t rest : Script) :
    (pause phase ms t).andThen rest = pause phase ms (t.andThen rest) := by
  unfold pause
  split <;> rfl

theorem foldr_splitStep_andThen (phase : Phase) (steps : List SplitStep) (t rest : Script) :
    (steps.foldr (splitStep phase) t).andThen rest =
      steps.foldr (splitStep phase) (t.andThen rest) := by
  induction steps with
  | nil => rfl
  | cons step steps ih => cases step <;> exact congrArg _ (funext fun _ => ih)

theorem cycles_andThen (phase : Phase) (target : Int32) (profile : MovingProfile)
    (t rest : Script) :
    (cycles phase target profile t).andThen rest =
      cycles phase target profile (t.andThen rest) := by
  refine congrArg _ (funext fun position => ?_)
  cases h : Width.difference? target position with
  | none => simp only [h]; rfl
  | some distance => simp only [h]; exact foldr_splitStep_andThen phase _ t rest

theorem free_andThen (phase : Phase) (t rest : Script) (budget : HomingBudget) :
    (free phase t budget).andThen rest = free phase (t.andThen rest) budget := by
  fun_induction free phase t budget with
  | case1 budget spent => rw [free, if_pos spent, andThen]
  | case2 budget left ih =>
    rw [free, if_neg left]
    refine congrArg _ (funext fun homed => ?_)
    dsimp only
    split
    · rfl
    · next h => exact ih homed _ h
    · rfl

theorem check_andThen (phase freeing : Phase) (target : Int32) (profile : MovingProfile)
    (freed clear rest : Script) :
    (check phase freeing target profile freed clear).andThen rest =
      check phase freeing target profile (freed.andThen rest) (clear.andThen rest) := by
  refine congrArg _ (funext fun stalled => congrArg _ (funext fun position => ?_))
  dsimp only
  split
  · rfl
  · exact free_andThen _ _ _ _

def descend (profile : MovingProfile) : Script :=
  .setTiltCurve .tiltDownInitial profile.initialCurve <|
  (if 0 < profile.offsetSteps then
    .moveRelative .tiltDownInitial .tilt (-profile.offsetSteps) else id) <|
  pause .tiltDownOffsetWait profile.offsetDelayMs <|
  .setTiltCurve .tiltDownFinish profile.finishCurve <|
  cycles .tiltDownCycles 0 profile .done

def ascend (geometry : TiltGeometry) (profile : MovingProfile) : Script :=
  .setTiltCurve .tiltUpInitial profile.initialCurve <|
  match Width.difference? geometry.heightSteps profile.offsetSteps with
  | none => outOfTravel .tiltUpInitial
  | some position =>
    .moveAbsolute .tiltUpInitial .tilt position <|
    pause .tiltUpOffsetWait profile.offsetDelayMs <|
    .setTiltCurve .tiltUpFinish profile.finishCurve <|
    cycles .tiltUpCycles geometry.heightSteps profile .done

def checkDown (profile : MovingProfile) : Script :=
  check .stallCheck .unstuck 0 profile .done .done

def checkUp (geometry : TiltGeometry) (profile : MovingProfile) : Script :=
  check .tiltUpStallCheck .tiltUpUnstuck geometry.heightSteps profile
    (.moveAbsolute .tiltUpUnstuck .tilt geometry.heightSteps .done) .done

def wayDown (profile : MovingProfile) : Script := (descend profile).andThen (checkDown profile)

def wayUp (geometry : TiltGeometry) (profile : MovingProfile) : Script :=
  (ascend geometry profile).andThen (checkUp geometry profile)

theorem tiltDown_eq (profile : MovingProfile) (rest : Script) :
    tiltDown profile rest = (wayDown profile).andThen rest := by
  have first : ∀ t u : Script,
      ((if 0 < profile.offsetSteps then
        .moveRelative .tiltDownInitial .tilt (-profile.offsetSteps) else id) t).andThen u =
      (if 0 < profile.offsetSteps then
        .moveRelative .tiltDownInitial .tilt (-profile.offsetSteps) else id) (t.andThen u) := by
    intro t u
    split <;> rfl
  simp only [tiltDown, wayDown, descend, setTiltCurve_andThen, first, pause_andThen,
    cycles_andThen, checkDown, check_andThen, andThen]

theorem tiltUp_eq (geometry : TiltGeometry) (profile : MovingProfile) (rest : Script) :
    tiltUp geometry profile rest = (wayUp geometry profile).andThen rest := by
  simp only [tiltUp, wayUp, andThen_assoc, ascend, setTiltCurve_andThen]
  cases h : Width.difference? geometry.heightSteps profile.offsetSteps with
  | none => rfl
  | some position =>
    simp only [moveAbsolute_andThen, setTiltCurve_andThen, pause_andThen, cycles_andThen, checkUp,
      check_andThen, andThen]

theorem towerRaise_eq (s : Setup) (rest : Script) :
    towerRaise s rest = (towerRaise s .done).andThen rest := by
  simp only [towerRaise, setTowerCurve_andThen]
  split <;> simp only [moveRelative_andThen, moveAbsolute_andThen, andThen]

theorem towerLower_eq (s : Setup) (rest : Script) :
    towerLower s rest = (towerLower s .done).andThen rest := by
  unfold towerLower
  split <;> rfl

def withTilt (s : Setup) (part : TiltMoves → Script) : Script :=
  match s.tilt with
  | some moves => part moves
  | none => .done

theorem separation_eq (s : Setup) : separation s =
    (pause .settleAfterExposure s.params.delayAfterExposureMs .done).andThen
    ((withTilt s fun moves => wayDown moves.down).andThen
    ((towerRaise s .done).andThen
    ((withTilt s fun moves => wayUp s.geometry moves.up).andThen
    ((towerLower s .done).andThen
    (pause .settleBeforeExposure s.params.delayBeforeExposureMs .done))))) := by
  rw [separation, pause_andThen, andThen, ← towerRaise_eq, ← towerLower_eq]
  cases h : s.tilt with
  | none => simp only [withTilt, h, andThen, id]
  | some moves => simp only [withTilt, h, tiltDown_eq, tiltUp_eq]

/- What holds of a part by the way it is built: it is enough to look at the commands it may send and
at the ends it may come to. -/
section
variable {Q : Script → Prop} {phase freeing : Phase} {rest freed clear : Script}

theorem pause_induct {ms : UInt32} (wait : Q (.ask phase (.wait ms) fun _ => rest)) (skip : Q rest) :
    Q (pause phase ms rest) := by
  unfold pause
  split
  · exact wait
  · exact skip

theorem cycles_induct {target : Int32} {profile : MovingProfile}
    (read : ∀ next, (∀ p, Q (next p)) → Q (.ask phase (.readPosition .tilt) next))
    (out : Q (outOfTravel phase)) (step : ∀ x t, Q t → Q (splitStep phase x t)) (last : Q rest) :
    Q (cycles phase target profile rest) := by
  apply read
  intro p
  cases Width.difference? target p with
  | none => exact out
  | some distance =>
    dsimp only
    induction (CycleSplit.new distance profile.cycles profile.delayMs).pending with
    | nil => exact last
    | cons x xs ih => exact step x _ ih

theorem free_induct (spent : ∀ n, Q (.fail (.tiltStallUnrecoverable phase n)))
    (home : ∀ next, next true = .recovered rest → Q (next false) →
      Q (.ask phase (.home .tilt) next)) (budget : HomingBudget) :
    Q (free phase rest budget) := by
  fun_induction free phase rest budget with
  | case1 budget none => exact spent _
  | case2 budget left ih =>
    apply home
    · have found : budget.record true = (.recovered budget.spend.attempts, budget.spend) := rfl
      split
      · rfl
      · next h => cases found.symm.trans h
      · next h => cases found.symm.trans h
    · split
      · next h => cases HomingBudget.homed_of_record_recovered h
      · next h => exact ih false _ h
      · exact spent _

theorem check_induct {target : Int32} {profile : MovingProfile}
    (query : ∀ next, (∀ flag, Q (next flag)) → Q (.ask phase (.queryStall .tilt) next))
    (read : ∀ next, (∀ p, Q (next p)) → Q (.ask phase (.readPosition .tilt) next))
    (passed : Q clear) (stalled : ∀ budget, Q (free freeing freed budget)) :
    Q (check phase freeing target profile freed clear) := by
  apply query
  intro flag
  apply read
  intro p
  split
  · exact passed
  · exact stalled _

end

/- What each part is confined to, for any bound on phases and commands. -/
section
variable {R : Phase → Command → Prop} {phase freeing : Phase} {rest freed clear : Script}

theorem within_pause {ms : UInt32} (hw : R phase (.wait ms)) (hr : rest.Within R) :
    (pause phase ms rest).Within R := by
  apply pause_induct
  · exact ⟨hw, fun _ => hr⟩
  · exact hr

theorem within_cycles {target : Int32} {profile : MovingProfile}
    (hp : R phase (.readPosition .tilt)) (hm : ∀ n, R phase (.moveRelative .tilt n))
    (hw : ∀ ms, R phase (.wait ms)) (hr : rest.Within R) :
    (cycles phase target profile rest).Within R := by
  apply cycles_induct
  · exact fun next hn => ⟨hp, hn⟩
  · trivial
  · intro x t ht
    cases x with
    | move n => exact ⟨hm n, fun _ => ht⟩
    | wait ms => exact ⟨hw ms, fun _ => ht⟩
  · exact hr

theorem within_free (hh : R phase (.home .tilt)) (hr : rest.Within R) (budget : HomingBudget) :
    (free phase rest budget).Within R := by
  apply free_induct
  · exact fun _ => trivial
  · intro next found missed
    refine ⟨hh, fun homed => ?_⟩
    cases homed with
    | false => exact missed
    | true =>
      rw [found]
      exact hr

theorem within_check {target : Int32} {profile : MovingProfile}
    (hq : R phase (.queryStall .tilt)) (hp : R phase (.readPosition .tilt))
    (hh : R freeing (.home .tilt)) (hf : freed.Within R) (hc : clear.Within R) :
    (check phase freeing target profile freed clear).Within R := by
  apply check_induct
  · exact fun next hn => ⟨hq, hn⟩
  · exact fun next hn => ⟨hp, hn⟩
  · exact hc
  · exact within_free hh hf

end

def Sparing (axis : Axis) (phases : List Phase) (phase : Phase) (c : Command) : Prop :=
  phase ∈ phases ∧ c.axis ≠ some axis

def downPhases : List Phase :=
  [.tiltDownInitial, .tiltDownOffsetWait, .tiltDownFinish, .tiltDownCycles, .stallCheck, .unstuck]

def upPhases : List Phase :=
  [.tiltUpInitial, .tiltUpOffsetWait, .tiltUpFinish, .tiltUpCycles, .tiltUpStallCheck,
    .tiltUpUnstuck]

/- The moves themselves home nothing. -/
theorem within_descend (profile : MovingProfile) :
    (descend profile).Within fun phase c => Sparing .tower downPhases phase c ∧ c ≠ .home .tilt := by
  have rest : (pause .tiltDownOffsetWait profile.offsetDelayMs <|
      setTiltCurve .tiltDownFinish profile.finishCurve <|
      cycles .tiltDownCycles 0 profile .done).Within fun phase c =>
        Sparing .tower downPhases phase c ∧ c ≠ .home .tilt := by
    refine within_pause ⟨⟨by decide, nofun⟩, nofun⟩ ⟨⟨⟨by decide, nofun⟩, nofun⟩, fun _ => ?_⟩
    exact within_cycles ⟨⟨by decide, nofun⟩, nofun⟩ (fun _ => ⟨⟨by decide, nofun⟩, nofun⟩)
      (fun _ => ⟨⟨by decide, nofun⟩, nofun⟩) trivial
  refine ⟨⟨⟨by decide, nofun⟩, nofun⟩, fun _ => ?_⟩
  split
  · exact ⟨⟨⟨by decide, nofun⟩, nofun⟩, fun _ => rest⟩
  · exact rest

theorem within_ascend (geometry : TiltGeometry) (profile : MovingProfile) :
    (ascend geometry profile).Within fun phase c =>
      Sparing .tower upPhases phase c ∧ c ≠ .home .tilt := by
  refine ⟨⟨⟨by decide, nofun⟩, nofun⟩, fun _ => ?_⟩
  split
  · trivial
  · refine ⟨⟨⟨by decide, nofun⟩, nofun⟩, fun _ => ?_⟩
    refine within_pause ⟨⟨by decide, nofun⟩, nofun⟩ ⟨⟨⟨by decide, nofun⟩, nofun⟩, fun _ => ?_⟩
    exact within_cycles ⟨⟨by decide, nofun⟩, nofun⟩ (fun _ => ⟨⟨by decide, nofun⟩, nofun⟩)
      (fun _ => ⟨⟨by decide, nofun⟩, nofun⟩) trivial

theorem within_wayDown (profile : MovingProfile) :
    (wayDown profile).Within (Sparing .tower downPhases) :=
  within_andThen ((within_descend profile).mono fun _ _ h => h.1)
    (within_check ⟨by decide, nofun⟩ ⟨by decide, nofun⟩ ⟨by decide, nofun⟩ trivial trivial)

theorem within_wayUp (geometry : TiltGeometry) (profile : MovingProfile) :
    (wayUp geometry profile).Within (Sparing .tower upPhases) :=
  within_andThen ((within_ascend geometry profile).mono fun _ _ h => h.1)
    (within_check ⟨by decide, nofun⟩ ⟨by decide, nofun⟩ ⟨by decide, nofun⟩
      ⟨⟨by decide, nofun⟩, fun _ => trivial⟩ trivial)

theorem within_towerRaise (s : Setup) :
    (towerRaise s .done).Within fun phase c => phase = .tower ∧ c.axis = some .tower := by
  refine ⟨⟨rfl, rfl⟩, fun _ => ?_⟩
  split
  · exact ⟨⟨rfl, rfl⟩, fun _ => trivial⟩
  · exact ⟨⟨rfl, rfl⟩, fun _ => trivial⟩

theorem within_towerLower (s : Setup) :
    (towerLower s .done).Within fun phase c => phase = .towerLower ∧ c.axis = some .tower := by
  unfold towerLower
  split
  · exact ⟨⟨rfl, rfl⟩, fun _ => trivial⟩
  · trivial

theorem within_settle (phase : Phase) (ms : UInt32) :
    (pause phase ms .done).Within fun p c => p = phase ∧ c.axis = none :=
  within_pause ⟨rfl, rfl⟩ trivial

theorem within_separation {R : Phase → Command → Prop} {s : Setup}
    (after : (pause .settleAfterExposure s.params.delayAfterExposureMs .done).Within R)
    (down : ∀ moves, s.tilt = some moves → (wayDown moves.down).Within R)
    (raise : (towerRaise s .done).Within R)
    (up : ∀ moves, s.tilt = some moves → (wayUp s.geometry moves.up).Within R)
    (lower : (towerLower s .done).Within R)
    (before : (pause .settleBeforeExposure s.params.delayBeforeExposureMs .done).Within R) :
    (separation s).Within R := by
  have tilting : ∀ part : TiltMoves → Script, (∀ moves, s.tilt = some moves → (part moves).Within R) →
      (withTilt s part).Within R := by
    intro part each
    unfold withTilt
    cases tilt : s.tilt with
    | some moves => exact each moves tilt
    | none => trivial
  rw [separation_eq]
  exact within_andThen after <| within_andThen (tilting _ down) <| within_andThen raise <|
    within_andThen (tilting _ up) <| within_andThen lower before

theorem within_of_no_tilt {s : Setup} (hs : s.tilt = none) :
    (separation s).Within fun phase c => phase.isTilt = false ∧ c.axis ≠ some .tilt := by
  have settle : ∀ phase ms, phase.isTilt = false →
      (pause phase ms .done).Within fun phase c => phase.isTilt = false ∧ c.axis ≠ some .tilt := by
    intro phase ms level
    refine (within_settle phase ms).mono fun _ _ h => ⟨by rw [h.1, level], by rw [h.2]; decide⟩
  rw [separation_eq]
  simp only [withTilt, hs, andThen]
  refine within_andThen (settle _ _ rfl) (within_andThen ?_ (within_andThen ?_ (settle _ _ rfl)))
  · exact (within_towerRaise s).mono fun _ _ h => ⟨by rw [h.1]; rfl, by rw [h.2]; decide⟩
  · exact (within_towerLower s).mono fun _ _ h => ⟨by rw [h.1]; rfl, by rw [h.2]; decide⟩

/- The paths that complete a part. -/
theorem ends_free {phase : Phase} {rest : Script} {budget : HomingBudget} {turns : List Turn}
    (h : Ends (free phase rest budget) turns) :
    ∃ k more, turns = List.replicate k ⟨phase, .home .tilt, false⟩ ++
      ⟨phase, .home .tilt, true⟩ :: more ∧ Ends rest more := by
  fun_induction free phase rest budget generalizing turns with
  | case1 budget spent => exact absurd h not_ends_fail
  | case2 budget left ih =>
    obtain ⟨homed, more, rfl, he⟩ := ends_ask_iff.mp h
    split at he
    · next spent hr =>
      have found : homed = true := HomingBudget.homed_of_record_recovered hr
      exact ⟨0, more, by rw [found]; rfl, ends_recovered_iff.mp he⟩
    · next spent hr =>
      have missed : homed = false := (HomingBudget.record_retry_iff.mp hr).1
      obtain ⟨k, last, rfl, hl⟩ := ih homed spent hr he
      exact ⟨k + 1, last, by rw [missed]; rfl, hl⟩
    · exact absurd he not_ends_fail

/-- A completed check passed, or it was followed by failed homings and one that succeeded. -/
theorem ends_check {phase freeing : Phase} {target : Int32} {profile : MovingProfile}
    {freed clear : Script} {turns : List Turn}
    (h : Ends (check phase freeing target profile freed clear) turns) :
    (∃ (p : Int32) (more : List Turn),
      turns = [⟨phase, .queryStall .tilt, false⟩, ⟨phase, .readPosition .tilt, p⟩] ++ more ∧
      (p.toInt - target.toInt).natAbs ≤ profile.homingTolerance.toNat ∧ Ends clear more) ∨
    (∃ (flag : Bool) (p : Int32) (k : Nat) (more : List Turn),
      turns = [⟨phase, .queryStall .tilt, flag⟩, ⟨phase, .readPosition .tilt, p⟩] ++
        List.replicate k ⟨freeing, .home .tilt, false⟩ ++ ⟨freeing, .home .tilt, true⟩ :: more ∧
      Ends freed more) := by
  obtain ⟨flag, rest, rfl, hq⟩ := ends_ask_iff.mp h
  obtain ⟨p, more, rfl, hp⟩ := ends_ask_iff.mp hq
  cases ho : (StallCheck.mk target profile.homingTolerance).evaluate flag p with
  | clear =>
    simp only [ho] at hp
    have passed := (StallCheck.isClear_evaluate_iff ⟨target, profile.homingTolerance⟩ flag p).mp
      (by rw [ho]; rfl)
    exact .inl ⟨p, more, by rw [passed.1]; rfl, passed.2, hp⟩
  | stalled position deviation =>
    simp only [ho] at hp
    obtain ⟨k, last, rfl, hl⟩ := ends_free hp
    exact .inr ⟨flag, p, k, last, by simp, hl⟩

theorem ends_towerRaise {s : Setup} {turns : List Turn} (h : Ends (towerRaise s .done) turns) :
    ∃ x : Turn, turns = [⟨.tower, .setTowerCurve s.params.towerCurve, ()⟩, x] ∧
      x.phase = .tower ∧ x.command = s.towerMove := by
  obtain ⟨_, rest, rfl, hc⟩ := ends_ask_iff.mp h
  unfold Setup.towerMove
  split at hc
  · next hs =>
    obtain ⟨_, more, rfl, hm⟩ := ends_ask_iff.mp hc
    rw [ends_done_iff.mp hm, if_pos hs]
    exact ⟨_, rfl, rfl, rfl⟩
  · next hs =>
    obtain ⟨_, more, rfl, hm⟩ := ends_ask_iff.mp hc
    rw [ends_done_iff.mp hm, if_neg hs]
    exact ⟨_, rfl, rfl, rfl⟩

theorem ends_towerLower {s : Setup} {turns : List Turn} (h : Ends (towerLower s .done) turns) :
    (s.hops = true ∧ turns = [⟨.towerLower, .moveAbsolute .tower s.nextLayerNm, ()⟩]) ∨
      (s.hops = false ∧ turns = []) := by
  unfold towerLower at h
  split at h
  · next hs =>
    obtain ⟨_, more, rfl, hm⟩ := ends_ask_iff.mp h
    rw [ends_done_iff.mp hm]
    exact .inl ⟨hs, rfl⟩
  · next hs => exact .inr ⟨by simpa using hs, ends_done_iff.mp h⟩

theorem ends_separation {s : Setup} {moves : TiltMoves} (hs : s.tilt = some moves)
    {turns : List Turn} (h : Ends (separation s) turns) :
    ∃ settle down raise up lower last,
      turns = settle ++ (down ++ (raise ++ (up ++ (lower ++ last)))) ∧
      Ends (pause .settleAfterExposure s.params.delayAfterExposureMs .done) settle ∧
      Ends (wayDown moves.down) down ∧ Ends (towerRaise s .done) raise ∧
      Ends (wayUp s.geometry moves.up) up ∧ Ends (towerLower s .done) lower ∧
      Ends (pause .settleBeforeExposure s.params.delayBeforeExposureMs .done) last := by
  rw [separation_eq] at h
  simp only [withTilt, hs, ends_andThen_iff] at h
  obtain ⟨settle, _, rfl, h1, down, _, rfl, h2, raise, _, rfl, h3, up, _, rfl, h4, lower, last, rfl,
    h5, h6⟩ := h
  exact ⟨settle, down, raise, up, lower, last, rfl, h1, h2, h3, h4, h5, h6⟩

end Script
end LayerSeparation
