import LayerSeparation.Proofs.Parts
import LayerSeparation.Proofs.Run

/-! The interlock between tilt and tower. The tower does not move before the tilt is known to be down,
the tilt does not rise before the tower has moved, and nothing is finished before the tilt is known to
be up again. Every statement is about what was seen before a command, for arbitrary feedback; what a
driver makes of a command is not assumed. -/
namespace LayerSeparation

def Phase.isTiltUp : Phase → Bool
  | .tiltUpInitial | .tiltUpOffsetWait | .tiltUpFinish | .tiltUpCycles | .tiltUpStallCheck
  | .tiltUpUnstuck => true
  | _ => false

theorem Phase.isTiltUp_bounds {p : Phase} (h : p.isTiltUp) :
    ¬ p < .tower ∧ p ≠ .tower ∧ ¬ .tiltUpUnstuck < p := by
  revert h
  cases p <;> decide

def Passed (phase : Phase) (target : Int32) (profile : MovingProfile) (seen : List Event) : Prop :=
  ∃ p : Int32,
    [.issued phase (.queryStall .tilt), .fed (.stall false),
      .issued phase (.readPosition .tilt), .fed (.position p)] <:+: seen ∧
    (p.toInt - target.toInt).natAbs ≤ profile.homingTolerance.toNat

def DownSettled (profile : MovingProfile) (seen : List Event) : Prop :=
  Passed .stallCheck 0 profile seen ∨
    [.issued .unstuck (.home .tilt), .fed (.homed true)] <:+: seen

/- A homing leaves the tilt at the bottom, so on the way up it does not count without the move that
follows it. -/
def UpSettled (geometry : TiltGeometry) (profile : MovingProfile) (seen : List Event) : Prop :=
  Passed .tiltUpStallCheck geometry.heightSteps profile seen ∨
    [.issued .tiltUpUnstuck (.home .tilt), .fed (.homed true),
      .issued .tiltUpUnstuck (.moveAbsolute .tilt geometry.heightSteps), .fed .none] <:+: seen

def TowerMoved (s : Setup) (seen : List Event) : Prop :=
  [.issued .tower s.towerMove, .fed .none] <:+: seen

/-- What every prefix of a run promises about the command that comes next. -/
structure Interlocked (s : Setup) (run : List Event) : Prop where
  tower_after_down : ∀ moves before phase c, s.tilt = some moves →
    before ++ [.issued phase c] <+: run → c.axis = some .tower → DownSettled moves.down before
  up_after_tower : ∀ moves before phase c, s.tilt = some moves →
    before ++ [.issued phase c] <+: run → phase.isTiltUp → c.axis = some .tilt →
      TowerMoved s before
  lower_after_up : ∀ moves before c, s.tilt = some moves →
    before ++ [.issued .towerLower c] <+: run → UpSettled s.geometry moves.up before
  done_after_up : ∀ moves before, s.tilt = some moves →
    before ++ [.done] <+: run → UpSettled s.geometry moves.up before
  /-- From a tower phase on, up to the first command of the way up. -/
  tower_alone : ∀ moves before c between, s.tilt = some moves →
    before ++ .issued .tower c :: between <+: run →
    (∀ q d, .issued q d ∈ between → q.isTiltUp = false) →
      ∀ q d, .issued q d ∈ .issued .tower c :: between → d.axis = some .tower
  no_up_without_tilt : s.tilt = none → ∀ q d, .issued q d ∈ run → q.isTiltUp = false

theorem Passed.mono {phase : Phase} {target : Int32} {profile : MovingProfile}
    {seen more : List Event} (h : Passed phase target profile seen) (hm : seen <:+: more) :
    Passed phase target profile more := by
  obtain ⟨p, hp, near⟩ := h
  exact ⟨p, hp.trans hm, near⟩

theorem UpSettled.mono {geometry : TiltGeometry} {profile : MovingProfile} {seen more : List Event}
    (h : UpSettled geometry profile seen) (hm : seen <:+: more) :
    UpSettled geometry profile more := by
  rcases h with h | h
  · exact .inl (h.mono hm)
  · exact .inr (h.trans hm)

namespace Script

theorem passed_of_turns {phase : Phase} {target p : Int32} {profile : MovingProfile}
    {turns : List Turn}
    (h : [⟨phase, .queryStall .tilt, false⟩, ⟨phase, .readPosition .tilt, p⟩] <:+: turns)
    (near : (p.toInt - target.toInt).natAbs ≤ profile.homingTolerance.toNat) :
    Passed phase target profile (history turns) :=
  ⟨p, infix_history h, near⟩

theorem Ends.downSettled {profile : MovingProfile} {part turns : List Turn}
    (h : (wayDown profile).Ends part) (hp : part <:+: turns) :
    DownSettled profile (history turns) := by
  obtain ⟨first, check, rfl, _, hc⟩ := ends_andThen_iff.mp h
  have hm : check <:+: turns := (List.suffix_append first check).isInfix.trans hp
  rcases ends_check hc with ⟨p, more, rfl, near, _⟩ | ⟨flag, p, k, more, rfl, _⟩
  · exact .inl (passed_of_turns (List.IsInfix.trans ⟨[], more, rfl⟩ hm) near)
  · have freed : [⟨.unstuck, .home .tilt, true⟩] <:+: turns :=
      List.IsInfix.trans ⟨_, more, List.append_assoc _ _ _⟩ hm
    exact .inr (infix_history freed)

theorem Ends.upSettled {geometry : TiltGeometry} {profile : MovingProfile} {part turns : List Turn}
    (h : (wayUp geometry profile).Ends part) (hp : part <:+: turns) :
    UpSettled geometry profile (history turns) ∧ ∃ x ∈ turns, x.phase.isTiltUp := by
  obtain ⟨first, check, rfl, _, hc⟩ := ends_andThen_iff.mp h
  have hm : check <:+: turns := (List.suffix_append first check).isInfix.trans hp
  rcases ends_check hc with ⟨p, more, rfl, near, _⟩ | ⟨flag, p, k, more, rfl, hf⟩
  · exact ⟨.inl (passed_of_turns (List.IsInfix.trans ⟨[], more, rfl⟩ hm) near),
      _, hm.subset List.mem_cons_self, rfl⟩
  · obtain ⟨_, rest, rfl, hr⟩ := ends_ask_iff.mp hf
    have freed : [⟨.tiltUpUnstuck, .home .tilt, true⟩,
        ⟨.tiltUpUnstuck, .moveAbsolute .tilt geometry.heightSteps, ()⟩] <:+: turns :=
      List.IsInfix.trans ⟨_, rest, List.append_assoc _ _ _⟩ hm
    exact ⟨.inr (infix_history freed), _, hm.subset List.mem_cons_self, rfl⟩

theorem feedback_towerMove (s : Setup) (a : s.towerMove.Answer) :
    s.towerMove.feedback a = .none := by
  have h : (∃ n, s.towerMove = .moveRelative .tower n) ∨
      ∃ p, s.towerMove = .moveAbsolute .tower p := by
    unfold Setup.towerMove
    split
    · exact .inl ⟨_, rfl⟩
    · exact .inr ⟨_, rfl⟩
  generalize s.towerMove = c at a h
  rcases h with ⟨n, rfl⟩ | ⟨p, rfl⟩ <;> rfl

theorem Ends.towerMoved {s : Setup} {part turns : List Turn}
    (h : (towerRaise s .done).Ends part) (hm : part <:+: turns) : TowerMoved s (history turns) := by
  obtain ⟨⟨phase, c, a⟩, rfl, rfl, rfl⟩ := ends_towerRaise h
  have moved : [⟨.tower, s.towerMove, a⟩] <:+: turns :=
    List.IsInfix.trans ⟨[_], [], rfl⟩ hm
  have seen := infix_history moved
  simp only [List.flatMap_cons, List.flatMap_nil, Turn.events, feedback_towerMove] at seen
  exact seen

inductive Standing (s : Setup) (moves : TiltMoves) (turns : List Turn) (phase : Phase)
    (c : Command) : Prop where
  | down (earlier : ∀ x ∈ turns, x.phase < .tower) (early : phase < .tower)
      (spared : c.axis ≠ some .tower)
  | raise (settled : DownSettled moves.down (history turns)) (here : phase = .tower)
      (sent : c.axis = some .tower) (unrisen : ∀ x ∈ turns, x.phase.isTiltUp = false)
  | up (moved : TowerMoved s (history turns)) (rising : phase.isTiltUp) (spared : c.axis ≠ some .tower)
  | finish (settled : DownSettled moves.down (history turns))
      (risen : UpSettled s.geometry moves.up (history turns))
      (rose : ∃ x ∈ turns, x.phase.isTiltUp) (late : .tiltUpUnstuck < phase)

namespace Standing
variable {s : Setup} {moves : TiltMoves} {turns : List Turn} {phase : Phase} {c : Command}

theorem settled_of_tower (h : Standing s moves turns phase c) (tower : c.axis = some .tower) :
    DownSettled moves.down (history turns) := by
  cases h with
  | down _ _ spared => exact absurd tower spared
  | raise settled _ _ _ => exact settled
  | up _ _ spared => exact absurd tower spared
  | finish settled _ _ _ => exact settled

theorem moved_of_rising (h : Standing s moves turns phase c) (rising : phase.isTiltUp) :
    TowerMoved s (history turns) := by
  obtain ⟨notEarly, notTower, notLate⟩ := Phase.isTiltUp_bounds rising
  cases h with
  | down _ early _ => exact absurd early notEarly
  | raise _ here _ _ => exact absurd here notTower
  | up moved _ _ => exact moved
  | finish _ _ _ late => exact absurd late notLate

theorem risen_of_lower (h : Standing s moves turns .towerLower c) :
    UpSettled s.geometry moves.up (history turns) := by
  cases h with
  | down _ early _ => exact absurd early (by decide)
  | raise _ here _ _ => cases here
  | up _ rising _ => cases rising
  | finish _ risen _ _ => exact risen

theorem sent_of_raise (h : Standing s moves turns .tower c) :
    c.axis = some .tower ∧ ∀ x ∈ turns, x.phase.isTiltUp = false := by
  cases h with
  | down _ early _ => exact absurd early (by decide)
  | raise _ _ sent unrisen => exact ⟨sent, unrisen⟩
  | up _ rising _ => cases rising
  | finish _ _ _ late => exact absurd late (by decide)

/- Once the tower was sent and as long as the tilt has not begun to rise. -/
theorem sent_of_unrisen (h : Standing s moves turns phase c)
    (raised : ∃ x ∈ turns, x.phase = .tower) (unrisen : ∀ x ∈ turns, x.phase.isTiltUp = false)
    (level : phase.isTiltUp = false) : c.axis = some .tower := by
  cases h with
  | down earlier _ _ =>
    obtain ⟨x, hx, here⟩ := raised
    exact absurd (earlier x hx) (by rw [here]; decide)
  | raise _ _ sent _ => exact sent
  | up _ rising _ =>
    rw [level] at rising
    cases rising
  | finish _ _ rose _ =>
    obtain ⟨x, hx, hup⟩ := rose
    rw [unrisen x hx] at hup
    cases hup

end Standing

theorem standing_of_asks {s : Setup} {moves : TiltMoves} (hs : s.tilt = some moves)
    {turns : List Turn} {phase : Phase} {c : Command} (h : (separation s).Asks turns phase c) :
    Standing s moves turns phase c := by
  have early : ∀ p ∈ downPhases, p < .tower := by decide
  have rising : ∀ p ∈ upPhases, p.isTiltUp := by decide
  have level : ∀ p : Phase, p < .tower → p.isTiltUp = false := by
    intro p
    cases p <;> decide
  rw [separation_eq] at h
  simp only [withTilt, hs] at h
  rcases asks_andThen_iff.mp h with h | ⟨settle, rest, rfl, hsettle, h⟩
  · obtain ⟨before, rfl, none⟩ := h.within (within_settle _ _)
    exact .down (fun x hx => by rw [(before x hx).1]; decide) (by decide) (by rw [none]; decide)
  have settles : ∀ x ∈ settle, x.phase < .tower := by
    intro x hx
    rw [(hsettle.within (within_settle _ _) x hx).1]
    decide
  rcases asks_andThen_iff.mp h with h | ⟨down, rest, rfl, hdown, h⟩
  · obtain ⟨before, hp, hc⟩ := h.within (within_wayDown moves.down)
    refine .down ?_ (early phase hp) hc
    intro x hx
    rcases List.mem_append.mp hx with hx | hx
    · exact settles x hx
    · exact early _ (before x hx).1
  have settled : ∀ more, DownSettled moves.down (history (settle ++ (down ++ more))) := by
    intro more
    exact hdown.downSettled ⟨settle, more, by simp⟩
  rcases asks_andThen_iff.mp h with h | ⟨raise, rest, rfl, hraise, h⟩
  · obtain ⟨before, hp, hc⟩ := h.within (within_towerRaise s)
    refine .raise (settled _) hp hc ?_
    intro x hx
    simp only [List.mem_append] at hx
    rcases hx with hx | hx | hx
    · exact level _ (settles x hx)
    · exact level _ (early _ (hdown.within (within_wayDown _) x hx).1)
    · rw [(before x hx).1]
      rfl
  rcases asks_andThen_iff.mp h with h | ⟨up, rest, rfl, hup, h⟩
  · obtain ⟨_, hp, hc⟩ := h.within (within_wayUp s.geometry moves.up)
    exact .up (hraise.towerMoved ⟨settle ++ down, rest, by simp⟩) (rising phase hp) hc
  have risen : ∀ more, UpSettled s.geometry moves.up
        (history (settle ++ (down ++ (raise ++ (up ++ more))))) ∧
      ∃ x ∈ settle ++ (down ++ (raise ++ (up ++ more))), x.phase.isTiltUp := by
    intro more
    exact hup.upSettled ⟨settle ++ down ++ raise, more, by simp⟩
  rcases asks_andThen_iff.mp h with h | ⟨lower, rest, rfl, hlower, h⟩
  · obtain ⟨_, rfl, _⟩ := h.within (within_towerLower s)
    exact .finish (settled _) (risen _).1 (risen _).2 (by decide)
  · obtain ⟨_, rfl, _⟩ := h.within (within_settle _ _)
    exact .finish (settled _) (risen _).1 (risen _).2 (by decide)

theorem upSettled_of_ends {s : Setup} {moves : TiltMoves} (hs : s.tilt = some moves)
    {turns : List Turn} (h : (separation s).Ends turns) :
    UpSettled s.geometry moves.up (history turns) := by
  obtain ⟨settle, down, raise, up, lower, last, rfl, _, _, _, hup, _⟩ := ends_separation hs h
  exact (hup.upSettled ⟨settle ++ down ++ raise, lower ++ last, by simp⟩).1

end Script

/-- The interlock holds in every run, for feedback of any kind, value and length. -/
theorem interlocked_run (s : Setup) (fs : List Feedback) :
    Interlocked s ((Plan.ofSetup s).events fs) := by
  constructor
  · intro moves before phase c hs h tower
    obtain ⟨turns, rfl, hp⟩ := Plan.path_of_issued h
    exact (Script.standing_of_asks hs hp).settled_of_tower tower
  · intro moves before phase c hs h rising tilt
    obtain ⟨turns, rfl, hp⟩ := Plan.path_of_issued h
    exact (Script.standing_of_asks hs hp).moved_of_rising rising
  · intro moves before c hs h
    obtain ⟨turns, rfl, hp⟩ := Plan.path_of_issued h
    exact (Script.standing_of_asks hs hp).risen_of_lower
  · intro moves before hs h
    obtain ⟨turns, hb, hp⟩ := Plan.path_of_done h
    exact (Script.upSettled_of_ends hs hp).mono hb.isInfix
  · intro moves before c between hs h alone q d hd
    have first : before ++ [.issued .tower c] <+: (Plan.ofSetup s).events fs :=
      List.IsPrefix.trans ⟨between, by simp⟩ h
    obtain ⟨raised, rfl, hr⟩ := Plan.path_of_issued first
    obtain ⟨sent, unrisen⟩ := (Script.standing_of_asks hs hr).sent_of_raise
    rcases List.mem_cons.mp hd with hd | hd
    · cases hd
      exact sent
    obtain ⟨mid, last, rfl⟩ := List.append_of_mem hd
    have later : (history raised ++ .issued .tower c :: mid) ++ [.issued q d] <+:
        (Plan.ofSetup s).events fs := List.IsPrefix.trans ⟨last, by simp⟩ h
    obtain ⟨turns, hturns, hp⟩ := Plan.path_of_issued later
    refine (Script.standing_of_asks hs hp).sent_of_unrisen ?_ ?_ (alone q d hd)
    · have seen : .issued .tower c ∈ history turns := by
        rw [← hturns]
        simp
      obtain ⟨x, hx, here, _⟩ := mem_history_iff.mp seen
      exact ⟨x, hx, here⟩
    · intro x hx
      have seen : .issued x.phase x.command ∈ history turns :=
        mem_history_iff.mpr ⟨x, hx, rfl, rfl⟩
      rw [← hturns, List.mem_append, List.mem_cons, mem_history_iff] at seen
      rcases seen with ⟨y, hy, same, _⟩ | seen | seen
      · rw [← same]
        exact unrisen y hy
      · injection seen with here
        rw [here]
        rfl
      · exact alone _ _ (List.mem_append_left _ seen)
  · intro hs q d hd
    obtain ⟨before, last, hsplit⟩ := List.append_of_mem hd
    have reached : before ++ [.issued q d] <+: (Plan.ofSetup s).events fs :=
      ⟨last, by rw [hsplit]; simp⟩
    obtain ⟨turns, _, hp⟩ := Plan.path_of_issued reached
    have level : ∀ p : Phase, p.isTilt = false → p.isTiltUp = false := by
      intro p
      cases p <;> decide
    exact level q (hp.within (Script.within_of_no_tilt hs)).2.1

end LayerSeparation
