import LayerSeparation.Proofs.Freeing
import LayerSeparation.Proofs.Run
import LayerSeparation.Proofs.Split

/-! How many commands a separation may take. A stretch takes a command for the position and one for each of its
parts, a check takes two and as many homings as its profile allows, and everything else takes one. The bound is
that of the script, so it holds of every run, whatever is answered and however long the run goes on. -/
namespace LayerSeparation

namespace Script

def AtMost : Nat → Script → Prop
  | _, .done | _, .fail _ => True
  | n, .recovered rest => rest.AtMost n
  | n, .ask _ _ next => ∃ k, n = k + 1 ∧ ∀ a, (next a).AtMost k

section
variable {phase freeing : Phase} {t u rest freed clear : Script} {m n : Nat} {turns : List Turn}

theorem AtMost.mono (h : t.AtMost m) (more : m ≤ n) : t.AtMost n := by
  induction t generalizing m n with
  | done => trivial
  | fail e => trivial
  | recovered t ih => exact ih h more
  | ask phase c next ih =>
    obtain ⟨k, rfl, later⟩ := h
    obtain ⟨extra, rfl⟩ := Nat.exists_eq_add_of_le more
    exact ⟨k + extra, by omega, fun a => ih a (later a) (by omega)⟩

theorem atMost_ask {c : Command} {next : c.Answer → Script} (h : ∀ a, (next a).AtMost n) :
    (ask phase c next).AtMost (n + 1) := ⟨n, rfl, h⟩

theorem atMost_andThen (ht : t.AtMost m) (hr : rest.AtMost n) : (t.andThen rest).AtMost (m + n) := by
  induction t generalizing m with
  | done => exact hr.mono (Nat.le_add_left _ _)
  | fail e => trivial
  | recovered t ih => exact ih ht
  | ask phase c next ih =>
    obtain ⟨k, rfl, later⟩ := ht
    exact ⟨k + n, by omega, fun a => ih a (later a)⟩

theorem Leads.atMost (h : t.Leads turns u) (ht : t.AtMost n) :
    ∃ k, n = turns.length + k ∧ u.AtMost k := by
  induction h generalizing n with
  | refl t => exact ⟨n, (Nat.zero_add n).symm, ht⟩
  | recovered h ih => exact ih ht
  | ask a h ih =>
    obtain ⟨k, rfl, later⟩ := ht
    obtain ⟨left, rfl, hu⟩ := ih (later a)
    exact ⟨left, by rw [List.length_cons]; omega, hu⟩

theorem atMost_pause {ms : UInt32} (h : rest.AtMost n) : (pause phase ms rest).AtMost (n + 1) := by
  apply pause_induct
  · exact atMost_ask fun _ => h
  · exact h.mono (Nat.le_succ n)

theorem atMost_split (steps : List SplitStep) (h : rest.AtMost n) :
    (steps.foldr (splitStep phase) rest).AtMost (n + steps.length) := by
  induction steps with
  | nil => exact h
  | cons step steps ih =>
    cases step with
    | move count => exact atMost_ask fun _ => ih
    | wait ms => exact atMost_ask fun _ => ih

theorem atMost_cycles {target : Int32} {profile : MovingProfile} (h : rest.AtMost n) :
    (cycles phase target profile rest).AtMost (n + 2 * max 1 profile.cycles.toNat) := by
  have some : n + 2 * max 1 profile.cycles.toNat = n + (2 * max 1 profile.cycles.toNat - 1) + 1 := by omega
  rw [some]
  refine atMost_ask fun position => ?_
  split
  · trivial
  · next distance _ =>
    have few := length_pending_lt distance profile.cycles profile.delayMs
    exact (atMost_split _ h).mono (by omega)

theorem atMost_homings {allowed : UInt8} (h : rest.AtMost n) (left : Nat) :
    (homings phase rest allowed left).AtMost (n + left) := by
  induction left with
  | zero => trivial
  | succ left ih =>
    refine atMost_ask fun homed => ?_
    cases homed with
    | false => exact ih
    | true => exact h.mono (Nat.le_add_right n left)

theorem atMost_check {target : Int32} {profile : MovingProfile} (hf : freed.AtMost n)
    (hc : clear.AtMost n) :
    (check phase freeing target profile freed clear).AtMost (n + profile.homingCycles.toNat + 2) := by
  rw [check_eq]
  refine atMost_ask fun flag => atMost_ask fun position => ?_
  split
  · exact hc.mono (Nat.le_add_right _ _)
  · exact atMost_homings hf _

end

theorem atMost_wayDown (profile : MovingProfile) :
    (wayDown profile).AtMost (6 + 2 * max 1 profile.cycles.toNat + profile.homingCycles.toNat) := by
  have ended : Script.done.AtMost 0 := trivial
  have turned : (pause .tiltDownOffsetWait profile.offsetDelayMs <|
      setTiltCurve .tiltDownFinish profile.finishCurve <|
      cycles .tiltDownCycles 0 profile .done).AtMost (0 + 2 * max 1 profile.cycles.toNat + 1 + 1) :=
    atMost_pause (atMost_ask fun _ => atMost_cycles ended)
  have moved : (descend profile).AtMost (0 + 2 * max 1 profile.cycles.toNat + 1 + 1 + 1 + 1) := by
    refine atMost_ask fun _ => ?_
    split
    · exact atMost_ask fun _ => turned
    · exact turned.mono (Nat.le_succ _)
  exact (atMost_andThen moved (atMost_check ended ended)).mono (by omega)

theorem atMost_wayUp (geometry : TiltGeometry) (profile : MovingProfile) :
    (wayUp geometry profile).AtMost
      (7 + 2 * max 1 profile.cycles.toNat + profile.homingCycles.toNat) := by
  have ended : Script.done.AtMost 0 := trivial
  have moved : (ascend geometry profile).AtMost (0 + 2 * max 1 profile.cycles.toNat + 1 + 1 + 1 + 1) := by
    refine atMost_ask fun _ => ?_
    split
    · trivial
    · exact atMost_ask fun _ => atMost_pause (atMost_ask fun _ => atMost_cycles ended)
  have sentUp : (moveAbsolute .tiltUpUnstuck .tilt geometry.heightSteps .done).AtMost 1 :=
    atMost_ask fun _ => ended
  exact (atMost_andThen moved (atMost_check sentUp (ended.mono (Nat.zero_le 1)))).mono (by omega)

theorem atMost_towerRaise (s : Setup) : (towerRaise s .done).AtMost 2 := by
  refine atMost_ask fun _ => ?_
  split <;> exact atMost_ask fun _ => trivial

theorem atMost_afterUp (s : Setup) : (afterUp s).AtMost 2 := by
  have ended : Script.done.AtMost 0 := trivial
  have lower : (towerLower s .done).AtMost 1 := by
    unfold towerLower
    split
    · exact atMost_ask fun _ => ended
    · trivial
  exact atMost_andThen lower (atMost_pause ended)

end Script

def Setup.mostCommands (s : Setup) : Nat :=
  match s.tilt with
  | some moves =>
    18 + 2 * max 1 moves.down.cycles.toNat + 2 * max 1 moves.up.cycles.toNat +
      moves.down.homingCycles.toNat + moves.up.homingCycles.toNat
  | none => 5

theorem Script.atMost_separation (s : Setup) : (separation s).AtMost s.mostCommands := by
  have settled : (pause .settleAfterExposure s.params.delayAfterExposureMs .done).AtMost 1 :=
    atMost_pause (n := 0) trivial
  have raised := atMost_towerRaise s
  unfold Setup.mostCommands
  cases hs : s.tilt with
  | none =>
    rw [separation_eq]
    simp only [withTilt, hs, andThen]
    exact atMost_andThen settled (atMost_andThen raised (atMost_afterUp s))
  | some moves =>
    rw [separation_of_tilt hs]
    dsimp only
    have rest := atMost_andThen raised (atMost_andThen (atMost_wayUp s.geometry moves.up) (atMost_afterUp s))
    exact (atMost_andThen settled (atMost_andThen (atMost_wayDown moves.down) rest)).mono (by omega)

def Event.isCommand : Event → Bool
  | .issued .. => true
  | .fed _ | .done | .failed _ => false

namespace Plan
open Script

def AtMost (n : Nat) (p : Plan) : Prop :=
  match p.stage with
  | .ready t => t.AtMost n
  | .awaiting _ next => ∀ a, (next a).AtMost n
  | .failed _ => True

section
variable {p : Plan} {n : Nat}

theorem AtMost.accept (h : p.AtMost n) {f : Feedback} {t : Script} (accepted : p.stage.accept f = some t) :
    t.AtMost n := by
  unfold AtMost at h
  generalize p.stage = stage at h accepted
  cases stage with
  | ready u =>
    obtain ⟨-, rfl⟩ := accept_ready_iff.mp accepted
    exact h
  | awaiting c next =>
    obtain ⟨a, -, rfl⟩ := accept_awaiting_iff.mp accepted
    exact h a
  | failed e => cases accepted

theorem AtMost.events (h : p.AtMost n) (fs : List Feedback) :
    (p.events fs).countP Event.isCommand ≤ n := by
  induction fs generalizing p n with
  | nil => exact Nat.zero_le n
  | cons f fs ih =>
    rw [Plan.events, List.countP_cons_of_neg (by simp [Event.isCommand])]
    rcases next_cases p f with ⟨t, phase, c, next, accepted, path, shown, stage⟩ |
      ⟨t, accepted, path, shown, stage⟩ | ⟨e, shown, stage⟩
    · obtain ⟨k, rfl, left, rfl, later⟩ := path.atMost (h.accept accepted)
      have rest : (p.next f).2.AtMost left := by
        unfold AtMost
        rw [stage]
        exact later
      have few := ih rest
      rw [shown, List.countP_cons_of_pos rfl, List.length_nil]
      omega
    · have rest : (p.next f).2.AtMost n := by
        unfold AtMost
        rw [stage]
        trivial
      rw [shown, List.countP_cons_of_neg (by simp [Event.isCommand])]
      exact ih rest
    · have rest : (p.next f).2.AtMost n := by
        unfold AtMost
        rw [stage]
        trivial
      rw [shown, List.countP_cons_of_neg (by simp [Event.isCommand])]
      exact ih rest

/-- Whatever is answered, a plan gives no more commands than its script has on any path. -/
theorem commands_le (s : Setup) (fs : List Feedback) :
    ((ofSetup s).events fs).countP Event.isCommand ≤ s.mostCommands :=
  have start : (ofSetup s).AtMost s.mostCommands := Script.atMost_separation s
  start.events fs

end

end Plan
end LayerSeparation
