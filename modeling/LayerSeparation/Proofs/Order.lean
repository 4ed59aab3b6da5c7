import LayerSeparation.Proofs.Parts

/-! The phases of a separation come in order. Along every path a command belongs to the phase of the
command before it or to a later one, whatever was answered, and each part keeps to a range of phases
of its own. -/
namespace LayerSeparation

theorem Phase.le_antisymm {p q : Phase} (h : p ≤ q) (h' : q ≤ p) : p = q := by
  have same : Catalogue.index p = Catalogue.index q := Nat.le_antisymm h h'
  have found := Catalogue.ofIndex?_index q
  rw [← same, Catalogue.ofIndex?_index p] at found
  exact Option.some.inj found

namespace Script

def Spans (lo hi : Phase) : Script → Prop
  | .done | .fail _ => True
  | .recovered rest => rest.Spans lo hi
  | .ask phase _ next => (lo ≤ phase ∧ phase ≤ hi) ∧ ∀ a, (next a).Spans phase hi

section
variable {lo hi lo' hi' phase freeing : Phase} {t rest freed clear : Script}

theorem Spans.mono (h : t.Spans lo hi) (below : lo' ≤ lo) (above : hi ≤ hi') : t.Spans lo' hi' := by
  induction t generalizing lo lo' with
  | done => trivial
  | fail e => trivial
  | recovered t ih => exact ih h below
  | ask phase c next ih =>
    obtain ⟨⟨low, high⟩, later⟩ := h
    exact ⟨⟨Nat.le_trans below low, Nat.le_trans high above⟩,
      fun a => ih a (later a) (Nat.le_refl _)⟩

theorem Spans.within (h : t.Spans lo hi) : t.Within fun phase _ => lo ≤ phase ∧ phase ≤ hi := by
  induction t generalizing lo with
  | done => trivial
  | fail e => trivial
  | recovered t ih => exact ih h
  | ask phase c next ih =>
    refine ⟨h.1, fun a => (ih a (h.2 a)).mono ?_⟩
    intro q _ hq
    exact ⟨Nat.le_trans h.1.1 hq.1, hq.2⟩

theorem spans_andThen (ht : t.Spans lo hi) (hr : rest.Spans lo' hi') (first : lo ≤ lo')
    (apart : hi ≤ lo') (last : hi ≤ hi') : (t.andThen rest).Spans lo hi' := by
  induction t generalizing lo with
  | done => exact hr.mono first (Nat.le_refl _)
  | fail e => trivial
  | recovered t ih => exact ih ht first
  | ask phase c next ih =>
    obtain ⟨⟨low, high⟩, later⟩ := ht
    exact ⟨⟨low, Nat.le_trans high last⟩, fun a => ih a (later a) (Nat.le_trans high apart)⟩

theorem spans_pause {ms : UInt32} (low : lo ≤ phase) (high : phase ≤ hi) (h : rest.Spans phase hi) :
    (pause phase ms rest).Spans lo hi := by
  apply pause_induct
  · exact ⟨⟨low, high⟩, fun _ => h⟩
  · exact h.mono low (Nat.le_refl _)

theorem spans_cycles {target : Int32} {profile : MovingProfile} (low : lo ≤ phase)
    (high : phase ≤ hi) (h : rest.Spans phase hi) :
    (cycles phase target profile rest).Spans lo hi := by
  have here : phase ≤ phase ∧ phase ≤ hi := ⟨Nat.le_refl _, high⟩
  suffices steps : (cycles phase target profile rest).Spans phase hi from
    steps.mono low (Nat.le_refl _)
  apply cycles_induct
  · exact fun next hn => ⟨here, hn⟩
  · trivial
  · intro x t ht
    cases x <;> exact ⟨here, fun _ => ht⟩
  · exact h

theorem spans_check {target : Int32} {profile : MovingProfile} (order : phase ≤ freeing)
    (high : freeing ≤ hi) (hf : freed.Spans freeing hi) (hc : clear.Spans phase hi) :
    (check phase freeing target profile freed clear).Spans phase hi := by
  have here : phase ≤ phase ∧ phase ≤ hi := ⟨Nat.le_refl _, Nat.le_trans order high⟩
  apply check_induct
  · exact fun next hn => ⟨here, hn⟩
  · exact fun next hn => ⟨here, hn⟩
  · exact hc
  · intro budget
    suffices homing : (free freeing freed budget).Spans freeing hi from
      homing.mono order (Nat.le_refl _)
    apply free_induct
    · exact fun _ => trivial
    · intro next found missed
      refine ⟨⟨Nat.le_refl _, high⟩, fun homed => ?_⟩
      cases homed with
      | false => exact missed
      | true =>
        rw [found]
        exact hf

end

theorem spans_descend (profile : MovingProfile) :
    (descend profile).Spans .tiltDownInitial .tiltDownCycles := by
  have turned : (pause .tiltDownOffsetWait profile.offsetDelayMs <|
      setTiltCurve .tiltDownFinish profile.finishCurve <|
      cycles .tiltDownCycles 0 profile .done).Spans .tiltDownInitial .tiltDownCycles := by
    refine spans_pause (by decide) (by decide) ⟨by decide, fun _ => ?_⟩
    exact spans_cycles (by decide) (by decide) trivial
  refine ⟨by decide, fun _ => ?_⟩
  split
  · exact ⟨by decide, fun _ => turned⟩
  · exact turned

theorem spans_ascend (geometry : TiltGeometry) (profile : MovingProfile) :
    (ascend geometry profile).Spans .tiltUpInitial .tiltUpCycles := by
  refine ⟨by decide, fun _ => ?_⟩
  split
  · trivial
  · refine ⟨by decide, fun _ => spans_pause (by decide) (by decide) ⟨by decide, fun _ => ?_⟩⟩
    exact spans_cycles (by decide) (by decide) trivial

theorem spans_checkDown (profile : MovingProfile) : (checkDown profile).Spans .stallCheck .unstuck :=
  spans_check (by decide) (by decide) trivial trivial

theorem spans_checkUp (geometry : TiltGeometry) (profile : MovingProfile) :
    (checkUp geometry profile).Spans .tiltUpStallCheck .tiltUpUnstuck :=
  spans_check (by decide) (by decide) ⟨by decide, fun _ => trivial⟩ trivial

theorem spans_towerRaise (s : Setup) : (towerRaise s .done).Spans .tower .tower := by
  refine ⟨by decide, fun _ => ?_⟩
  split
  · exact ⟨by decide, fun _ => trivial⟩
  · exact ⟨by decide, fun _ => trivial⟩

theorem spans_towerLower (s : Setup) : (towerLower s .done).Spans .towerLower .towerLower := by
  unfold towerLower
  split
  · exact ⟨by decide, fun _ => trivial⟩
  · trivial

theorem spans_settle (phase : Phase) (ms : UInt32) : (pause phase ms .done).Spans phase phase :=
  spans_pause (Nat.le_refl _) (Nat.le_refl _) trivial

/- What is left of a separation behind each of its checks. -/
def afterUp (s : Setup) : Script :=
  (towerLower s .done).andThen
    (pause .settleBeforeExposure s.params.delayBeforeExposureMs .done)

def afterDown (s : Setup) (moves : TiltMoves) : Script :=
  (towerRaise s .done).andThen ((wayUp s.geometry moves.up).andThen (afterUp s))

theorem spans_afterUp (s : Setup) : (afterUp s).Spans .towerLower .settleBeforeExposure :=
  spans_andThen (spans_towerLower s) (spans_settle _ _) (by decide) (by decide) (by decide)

theorem spans_wayUp (geometry : TiltGeometry) (profile : MovingProfile) :
    (wayUp geometry profile).Spans .tiltUpInitial .tiltUpUnstuck :=
  spans_andThen (spans_ascend geometry profile) (spans_checkUp geometry profile) (by decide)
    (by decide) (by decide)

theorem spans_afterDown (s : Setup) (moves : TiltMoves) :
    (afterDown s moves).Spans .tower .settleBeforeExposure := by
  have rest : ((wayUp s.geometry moves.up).andThen (afterUp s)).Spans .tiltUpInitial
      .settleBeforeExposure :=
    spans_andThen (spans_wayUp s.geometry moves.up) (spans_afterUp s) (by decide) (by decide)
      (by decide)
  exact spans_andThen (spans_towerRaise s) rest (by decide) (by decide) (by decide)

theorem separation_of_tilt {s : Setup} {moves : TiltMoves} (hs : s.tilt = some moves) :
    separation s = (pause .settleAfterExposure s.params.delayAfterExposureMs .done).andThen
      ((wayDown moves.down).andThen (afterDown s moves)) := by
  rw [separation_eq]
  simp only [withTilt, hs, afterDown, afterUp]

theorem spans_separation (s : Setup) :
    (separation s).Spans .settleAfterExposure .settleBeforeExposure := by
  cases hs : s.tilt with
  | none =>
    have rest : ((towerRaise s .done).andThen (afterUp s)).Spans .tower .settleBeforeExposure :=
      spans_andThen (spans_towerRaise s) (spans_afterUp s) (by decide) (by decide) (by decide)
    have whole := spans_andThen (spans_settle .settleAfterExposure s.params.delayAfterExposureMs)
      rest (by decide) (by decide) (by decide)
    rw [separation_eq]
    simpa only [withTilt, hs, afterUp, andThen] using whole
  | some moves =>
    have down := spans_andThen (spans_descend moves.down) (spans_checkDown moves.down) (by decide)
      (by decide) (by decide)
    have rest := spans_andThen down (spans_afterDown s moves) (by decide) (by decide) (by decide)
    rw [separation_of_tilt hs]
    exact spans_andThen (spans_settle _ _) rest (by decide) (by decide) (by decide)

end Script
end LayerSeparation
