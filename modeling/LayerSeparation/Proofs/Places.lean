import LayerSeparation.Proofs.Freeing

/-! What is left of a separation when it has come to a certain command. The two ways of the tilt are
built alike, and the readings and checks on them occur at one place each, so the command and its phase
alone tell what follows. Nothing else can fail. -/
namespace LayerSeparation

/-- The tilt goes down before the tower moves and up after it. -/
inductive Way where
  | down
  | up
  deriving DecidableEq

namespace Way

def cycles : Way → Phase
  | .down => .tiltDownCycles
  | .up => .tiltUpCycles

def checking : Way → Phase
  | .down => .stallCheck
  | .up => .tiltUpStallCheck

def freeing : Way → Phase
  | .down => .unstuck
  | .up => .tiltUpUnstuck

def target (s : Setup) : Way → Int32
  | .down => 0
  | .up => s.geometry.heightSteps

def profile (moves : TiltMoves) : Way → MovingProfile
  | .down => moves.down
  | .up => moves.up

open Script

def rest (s : Setup) (moves : TiltMoves) : Way → Script
  | .down => afterDown s moves
  | .up => afterUp s

/-- A freed tilt stands at the bottom, where the way up has to begin again. -/
def freed (s : Setup) (moves : TiltMoves) : Way → Script
  | .down => afterDown s moves
  | .up => .moveAbsolute .tiltUpUnstuck .tilt s.geometry.heightSteps (afterUp s)

def check (s : Setup) (moves : TiltMoves) (way : Way) : Script :=
  Script.check way.checking way.freeing (way.target s) (way.profile moves) (way.freed s moves)
    (way.rest s moves)

end Way

namespace Script

section
variable {t first rest part u : Script} {turns : List Turn} {phase : Phase} {c : Command}
  {next : c.Answer → Script}

def Lacks (phase : Phase) (c : Command) (t : Script) : Prop :=
  t.Within fun q d => ¬ (q = phase ∧ d = c)

theorem Spans.lacks {lo hi : Phase} (h : t.Spans lo hi) (c : Command)
    (outside : phase < lo ∨ hi < phase) : t.Lacks phase c := by
  apply h.within.mono
  rintro q d ⟨low, high⟩ ⟨rfl, rfl⟩
  rcases outside with before | after
  · exact Nat.not_le_of_lt before low
  · exact Nat.not_le_of_lt after high

theorem Lacks.not_leads (h : t.Lacks phase c) : ¬ t.Leads turns (.ask phase c next) := by
  intro hl
  exact (hl.within h).2.1 ⟨rfl, rfl⟩

/- A command that the first part does not send lies behind it. -/
theorem Leads.past (h : (first.andThen rest).Leads turns (.ask phase c next))
    (lacks : first.Lacks phase c) :
    ∃ before after, turns = before ++ after ∧ first.Ends before ∧
      rest.Leads after (.ask phase c next) := by
  rcases Leads.of_andThen h with ⟨v, hv, hl, hu⟩ | found
  · cases v with
    | done => exact absurd rfl hv
    | fail e => cases hu
    | recovered t => cases hu
    | ask q d own =>
      cases hu
      exact absurd hl lacks.not_leads
  · exact found

theorem Leads.inside (h : (part.andThen rest).Leads turns (.ask phase c next))
    (lacks : rest.Lacks phase c) :
    ∃ own, part.Leads turns (.ask phase c own) ∧
      Script.ask phase c next = (Script.ask phase c own).andThen rest := by
  rcases Leads.of_andThen h with ⟨v, hv, hl, hu⟩ | ⟨_, _, _, _, later⟩
  · cases v with
    | done => exact absurd rfl hv
    | fail e => cases hu
    | recovered t => cases hu
    | ask q d own =>
      cases hu
      exact ⟨own, hl, rfl⟩
  · exact absurd later lacks.not_leads

theorem Leads.fails_andThen {e : SeparationError} (h : (first.andThen rest).Leads turns (.fail e)) :
    first.Leads turns (.fail e) ∨
      ∃ before after, turns = before ++ after ∧ first.Ends before ∧ rest.Leads after (.fail e) := by
  rcases Leads.of_andThen h with ⟨v, hv, hl, hu⟩ | found
  · cases v with
    | done => exact absurd rfl hv
    | fail e' =>
      cases hu
      exact .inl hl
    | recovered t => cases hu
    | ask q d own => cases hu
  · exact .inr found

/- An acknowledged command is passed on the way to anything else. -/
theorem Leads.pass {q : Phase} {d : Command} (h : (Script.ask q d fun _ => t).Leads turns u)
    (other : u ≠ .ask q d fun _ => t) :
    ∃ before after, turns = before ++ after ∧ t.Leads after u := by
  rcases leads_ask_iff.mp h with ⟨_, here⟩ | ⟨a, more, rfl, later⟩
  · exact absurd here other
  · exact ⟨[⟨q, d, a⟩], more, rfl, later⟩

theorem Leads.pass_pause {q : Phase} {ms : UInt32} (h : (pause q ms t).Leads turns u)
    (other : u ≠ .ask q (.wait ms) fun _ => t) :
    ∃ before after, turns = before ++ after ∧ t.Leads after u := by
  unfold pause at h
  split at h
  · exact h.pass other
  · exact ⟨[], turns, rfl, h⟩

/- A reading and a check are the only ones of their kind in their phase. -/
theorem eq_cycles_of_leads {target : Int32} {profile : MovingProfile}
    {own : (Command.readPosition .tilt).Answer → Script}
    (h : (cycles phase target profile rest).Leads turns (.ask phase (.readPosition .tilt) own))
    (lacks : rest.Lacks phase (.readPosition .tilt)) :
    turns = [] ∧ ask phase (.readPosition .tilt) own = cycles phase target profile rest := by
  rcases leads_ask_iff.mp h with here | ⟨p, more, _, later⟩
  · exact here
  · refine absurd later (Lacks.not_leads ?_)
    cases Width.difference? target p with
    | none => trivial
    | some distance =>
      dsimp only
      induction (CycleSplit.new distance profile.cycles profile.delayMs).pending with
      | nil => exact lacks
      | cons x xs ih => cases x <;> exact ⟨nofun, fun _ => ih⟩

theorem eq_check_of_leads {freeing : Phase} {target : Int32} {profile : MovingProfile}
    {freed clear : Script} {own : (Command.queryStall .tilt).Answer → Script}
    (h : (check phase freeing target profile freed clear).Leads turns
      (.ask phase (.queryStall .tilt) own))
    (hf : freed.Lacks phase (.queryStall .tilt)) (hc : clear.Lacks phase (.queryStall .tilt)) :
    turns = [] ∧
      ask phase (.queryStall .tilt) own = check phase freeing target profile freed clear := by
  rcases leads_ask_iff.mp h with here | ⟨flag, more, _, later⟩
  · exact here
  · refine absurd later (Lacks.not_leads ⟨nofun, fun p => ?_⟩)
    dsimp only
    split
    · exact hc
    · exact within_free nofun hf _

end

section
variable {s : Setup} {moves : TiltMoves} {profile : MovingProfile} {geometry : TiltGeometry}
  {u : Script} {turns : List Turn}

/- The commands before the reading are passed on the way to anything that belongs to no phase of
theirs. -/
theorem Leads.pass_descend (h : (descend profile).Leads turns u)
    (other : ∀ q d f, u = .ask q d f → q = .tiltDownCycles) :
    ∃ before after, turns = before ++ after ∧
      (cycles .tiltDownCycles 0 profile .done).Leads after u := by
  have away : ∀ q d f, q ≠ .tiltDownCycles → u ≠ .ask q d f :=
    fun q d f early here => early (other q d f here)
  obtain ⟨first, after, rfl, started⟩ := h.pass (away _ _ _ nofun)
  have moved : ∃ second later, after = second ++ later ∧
      (pause .tiltDownOffsetWait profile.offsetDelayMs <|
        setTiltCurve .tiltDownFinish profile.finishCurve <|
        cycles .tiltDownCycles 0 profile .done).Leads later u := by
    split at started
    · exact started.pass (away _ _ _ nofun)
    · exact ⟨[], after, rfl, started⟩
  obtain ⟨second, after, rfl, moved⟩ := moved
  obtain ⟨third, after, rfl, paused⟩ := moved.pass_pause (away _ _ _ nofun)
  obtain ⟨fourth, after, rfl, turned⟩ := paused.pass (away _ _ _ nofun)
  exact ⟨first ++ (second ++ (third ++ fourth)), after, by simp, turned⟩

theorem Leads.pass_ascend (h : (ascend geometry profile).Leads turns u)
    (other : ∀ q d f, u = .ask q d f → q = .tiltUpCycles)
    (reach : Width.difference? geometry.heightSteps profile.offsetSteps = none →
      u ≠ outOfTravel .tiltUpInitial) :
    ∃ before after, turns = before ++ after ∧
      (cycles .tiltUpCycles geometry.heightSteps profile .done).Leads after u := by
  have away : ∀ q d f, q ≠ .tiltUpCycles → u ≠ .ask q d f :=
    fun q d f early here => early (other q d f here)
  obtain ⟨first, after, rfl, started⟩ := h.pass (away _ _ _ nofun)
  split at started
  · next none => exact absurd (leads_fail_iff.mp started).2 (reach none)
  · obtain ⟨second, after, rfl, moved⟩ := started.pass (away _ _ _ nofun)
    obtain ⟨third, after, rfl, paused⟩ := moved.pass_pause (away _ _ _ nofun)
    obtain ⟨fourth, after, rfl, turned⟩ := paused.pass (away _ _ _ nofun)
    exact ⟨first ++ (second ++ (third ++ fourth)), after, by simp, turned⟩

end

section
variable {s : Setup} {moves : TiltMoves} {turns : List Turn}

theorem leads_of_tilt (hs : s.tilt = some moves) {phase : Phase} {c : Command}
    {own : c.Answer → Script} (h : (separation s).Leads turns (.ask phase c own))
    (late : .settleAfterExposure < phase) :
    ∃ before after, turns = before ++ after ∧
      ((wayDown moves.down).andThen (afterDown s moves)).Leads after (.ask phase c own) := by
  rw [separation_of_tilt hs] at h
  obtain ⟨before, after, split, _, later⟩ := h.past ((spans_settle _ _).lacks _ (.inr late))
  exact ⟨before, after, split, later⟩

theorem leads_of_rising (hs : s.tilt = some moves) {phase : Phase} {c : Command}
    {own : c.Answer → Script} (h : (separation s).Leads turns (.ask phase c own))
    (late : .tower < phase) :
    ∃ before after, turns = before ++ after ∧
      ((wayUp s.geometry moves.up).andThen (afterUp s)).Leads after (.ask phase c own) := by
  have down : (wayDown moves.down).Spans .tiltDownInitial .unstuck :=
    spans_andThen (spans_descend _) (spans_checkDown _) (by decide) (by decide) (by decide)
  obtain ⟨settle, _, rfl, lowering⟩ := leads_of_tilt hs h (Nat.lt_trans (by decide) late)
  obtain ⟨lower, _, rfl, _, raising⟩ := lowering.past (down.lacks _ (.inr (Nat.lt_trans (by decide) late)))
  obtain ⟨raise, after, rfl, _, rising⟩ := raising.past ((spans_towerRaise s).lacks _ (.inr late))
  exact ⟨settle ++ (lower ++ raise), after, by simp, rising⟩

/-- The check that a separation has come to is the one of that way, and all that follows is known. -/
theorem eq_check_of_separation (hs : s.tilt = some moves) (way : Way)
    {own : (Command.queryStall .tilt).Answer → Script}
    (h : (separation s).Leads turns (.ask way.checking (.queryStall .tilt) own)) :
    ask way.checking (.queryStall .tilt) own = way.check s moves := by
  cases way with
  | down =>
    obtain ⟨_, _, _, h⟩ := leads_of_tilt hs h (by decide)
    rw [wayDown, andThen_assoc] at h
    obtain ⟨_, _, _, _, h⟩ := h.past ((spans_descend _).lacks _ (.inr (by decide)))
    rw [checkDown, check_andThen, andThen] at h
    have behind : (afterDown s moves).Lacks .stallCheck (.queryStall .tilt) :=
      (spans_afterDown s moves).lacks _ (.inl (by decide))
    exact (eq_check_of_leads h behind behind).2
  | up =>
    obtain ⟨_, _, _, h⟩ := leads_of_rising hs h (by decide)
    rw [wayUp, andThen_assoc] at h
    obtain ⟨_, _, _, _, h⟩ := h.past ((spans_ascend _ _).lacks _ (.inr (by decide)))
    rw [checkUp, check_andThen, moveAbsolute_andThen, andThen] at h
    have behind : (afterUp s).Lacks .tiltUpStallCheck (.queryStall .tilt) :=
      (spans_afterUp s).lacks _ (.inl (by decide))
    exact (eq_check_of_leads h ⟨fun same => absurd same.1 (by decide), fun _ => behind⟩ behind).2

theorem leads_cycles_of_separation (hs : s.tilt = some moves) (way : Way) {c : Command}
    {own : c.Answer → Script} (h : (separation s).Leads turns (.ask way.cycles c own)) :
    ∃ before after rest, turns = before ++ after ∧ rest.Spans way.checking .settleBeforeExposure ∧
      (cycles way.cycles (way.target s) (way.profile moves) rest).Leads after (.ask way.cycles c own) := by
  cases way with
  | down =>
    obtain ⟨settle, _, rfl, lowering⟩ := leads_of_tilt hs h (by decide)
    rw [wayDown, andThen_assoc] at lowering
    have rest : ((checkDown moves.down).andThen (afterDown s moves)).Spans .stallCheck
        .settleBeforeExposure :=
      spans_andThen (spans_checkDown _) (spans_afterDown s moves) (by decide) (by decide)
        (by decide)
    obtain ⟨inner, inside, whole⟩ := lowering.inside (rest.lacks _ (.inl (by decide)))
    obtain ⟨first, after, rfl, passed⟩ :=
      inside.pass_descend fun q d f here => (Script.ask.inj here).1.symm
    have there := @Leads.andThen _ _ ((checkDown moves.down).andThen (afterDown s moves)) _ passed
    rw [cycles_andThen, ← whole] at there
    exact ⟨settle ++ first, after, _, by simp, rest, there⟩
  | up =>
    obtain ⟨early, _, rfl, rising⟩ := leads_of_rising hs h (by decide)
    rw [wayUp, andThen_assoc] at rising
    have rest : ((checkUp s.geometry moves.up).andThen (afterUp s)).Spans .tiltUpStallCheck
        .settleBeforeExposure :=
      spans_andThen (spans_checkUp _ _) (spans_afterUp s) (by decide) (by decide) (by decide)
    obtain ⟨inner, inside, whole⟩ := rising.inside (rest.lacks _ (.inl (by decide)))
    obtain ⟨first, after, rfl, passed⟩ :=
      inside.pass_ascend (fun q d f here => (Script.ask.inj here).1.symm) fun _ here => by cases here
    have there := @Leads.andThen _ _ ((checkUp s.geometry moves.up).andThen (afterUp s)) _ passed
    rw [cycles_andThen, ← whole] at there
    exact ⟨early ++ first, after, _, by simp, rest, there⟩

theorem eq_cycles_of_separation (hs : s.tilt = some moves) (way : Way)
    {own : (Command.readPosition .tilt).Answer → Script}
    (h : (separation s).Leads turns (.ask way.cycles (.readPosition .tilt) own)) :
    ∃ rest, rest.Spans way.checking .settleBeforeExposure ∧ ask way.cycles (.readPosition .tilt) own =
      cycles way.cycles (way.target s) (way.profile moves) rest := by
  obtain ⟨_, _, rest, _, spans, h⟩ := leads_cycles_of_separation hs way h
  have early : way.cycles < way.checking := by cases way <;> decide
  exact ⟨rest, spans, (eq_cycles_of_leads h (spans.lacks _ (.inl early))).2⟩

/-- The two ways in which a way of the tilt fails, by the turns that lie right before the end. -/
inductive Fails (s : Setup) (moves : TiltMoves) (way : Way) : List Turn → SeparationError → Prop where
  | out {p : Int32} (far : Width.difference? (way.target s) p = none) :
      Fails s moves way [⟨way.cycles, .readPosition .tilt, p⟩]
        (.axisCommandFailure .tilt way.cycles .outOfBounds)
  | stuck {flag : Bool} {p : Int32}
      (failed : ¬ (flag = false ∧ (p.toInt - (way.target s).toInt).natAbs ≤
        (way.profile moves).homingTolerance.toNat)) :
      Fails s moves way (⟨way.checking, .queryStall .tilt, flag⟩ ::
          ⟨way.checking, .readPosition .tilt, p⟩ ::
          missed way.freeing (way.profile moves).homingCycles.toNat)
        (.tiltStallUnrecoverable way.freeing (way.profile moves).homingCycles)

theorem out_of_fails {phase : Phase} {target : Int32} {profile : MovingProfile}
    {e : SeparationError} (h : (cycles phase target profile .done).Leads turns (.fail e)) :
    ∃ p : Int32, turns = [⟨phase, .readPosition .tilt, p⟩] ∧ Width.difference? target p = none ∧
      e = .axisCommandFailure .tilt phase .outOfBounds := by
  rcases leads_ask_iff.mp h with ⟨_, here⟩ | ⟨p, more, rfl, later⟩
  · cases here
  · cases hd : Width.difference? target p with
    | none =>
      simp only [hd] at later
      obtain ⟨rfl, same⟩ := leads_fail_iff.mp later
      exact ⟨p, rfl, hd, Script.fail.inj same⟩
    | some distance =>
      simp only [hd] at later
      refine absurd later (Unfailing.not_leads ?_)
      induction (CycleSplit.new distance profile.cycles profile.delayMs).pending with
      | nil => trivial
      | cons x xs ih => cases x <;> exact fun _ => ih

theorem fails_of_wayDown {e : SeparationError} (h : (wayDown moves.down).Leads turns (.fail e)) :
    ∃ before after, turns = before ++ after ∧ Fails s moves .down after e := by
  rcases h.fails_andThen with moving | ⟨before, after, rfl, _, checking⟩
  · obtain ⟨before, after, rfl, reading⟩ := moving.pass_descend nofun
    obtain ⟨p, rfl, far, rfl⟩ := out_of_fails reading
    exact ⟨before, _, rfl, .out far⟩
  · have ended : Script.done.Unfailing := trivial
    obtain ⟨flag, p, rfl, stuck, rfl⟩ := stuck_of_fails ended ended checking
    exact ⟨before, _, rfl, .stuck stuck⟩

theorem fails_of_wayUp {e : SeparationError}
    (reach : Width.difference? s.geometry.heightSteps moves.up.offsetSteps ≠ none)
    (h : (wayUp s.geometry moves.up).Leads turns (.fail e)) :
    ∃ before after, turns = before ++ after ∧ Fails s moves .up after e := by
  rcases h.fails_andThen with moving | ⟨before, after, rfl, _, checking⟩
  · obtain ⟨before, after, rfl, reading⟩ :=
      moving.pass_ascend nofun fun none => absurd none reach
    obtain ⟨p, rfl, far, rfl⟩ := out_of_fails reading
    exact ⟨before, _, rfl, .out far⟩
  · have ended : Script.done.Unfailing := trivial
    have sentUp : (moveAbsolute .tiltUpUnstuck .tilt s.geometry.heightSteps .done).Unfailing :=
      fun _ => ended
    obtain ⟨flag, p, rfl, stuck, rfl⟩ := stuck_of_fails sentUp ended checking
    exact ⟨before, _, rfl, .stuck stuck⟩

theorem unfailing_settle (phase : Phase) (ms : UInt32) : (pause phase ms .done).Unfailing :=
  unfailing_pause trivial

theorem unfailing_towerRaise (s : Setup) : (towerRaise s .done).Unfailing := by
  intro _
  split
  · exact fun _ => trivial
  · exact fun _ => trivial

theorem unfailing_towerLower (s : Setup) : (towerLower s .done).Unfailing := by
  unfold towerLower
  split
  · exact fun _ => trivial
  · trivial

theorem fails_of_separation {e : SeparationError}
    (reach : ∀ moves, s.tilt = some moves →
      Width.difference? s.geometry.heightSteps moves.up.offsetSteps ≠ none)
    (h : (separation s).Leads turns (.fail e)) :
    ∃ moves way before after, s.tilt = some moves ∧ turns = before ++ after ∧
      Fails s moves way after e := by
  rw [separation_eq] at h
  rcases h.fails_andThen with h | ⟨settle, rest, rfl, _, h⟩
  · exact absurd h (unfailing_settle _ _).not_leads
  have later : ∀ {rest : List Turn}, ((towerRaise s .done).andThen
      ((withTilt s fun moves => wayUp s.geometry moves.up).andThen (afterUp s))).Leads rest
      (.fail e) → ∃ moves before after, s.tilt = some moves ∧ rest = before ++ after ∧
        Fails s moves .up after e := by
    intro rest h
    rcases h.fails_andThen with h | ⟨raise, rest, rfl, _, h⟩
    · exact absurd h (unfailing_towerRaise s).not_leads
    rcases h.fails_andThen with h | ⟨up, rest, rfl, _, h⟩
    · cases hs : s.tilt with
      | none =>
        simp only [withTilt, hs] at h
        cases h
      | some moves =>
        simp only [withTilt, hs] at h
        obtain ⟨before, after, rfl, fails⟩ := fails_of_wayUp (reach moves hs) h
        exact ⟨moves, raise ++ before, after, rfl, by simp, fails⟩
    rcases h.fails_andThen with h | ⟨lower, rest, rfl, _, h⟩
    · exact absurd h (unfailing_towerLower s).not_leads
    · exact absurd h (unfailing_settle _ _).not_leads
  rcases h.fails_andThen with h | ⟨down, rest, rfl, _, h⟩
  · cases hs : s.tilt with
    | none =>
      simp only [withTilt, hs] at h
      cases h
    | some moves =>
      simp only [withTilt, hs] at h
      obtain ⟨before, after, rfl, fails⟩ := fails_of_wayDown (s := s) h
      exact ⟨moves, .down, settle ++ before, after, rfl, by simp, fails⟩
  · obtain ⟨moves, before, after, hs, rfl, fails⟩ := later h
    exact ⟨moves, .up, settle ++ (down ++ before), after, hs, by simp, fails⟩

end

end Script
end LayerSeparation
