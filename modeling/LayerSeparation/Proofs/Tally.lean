import LayerSeparation.Proofs.Order

/-! How often a separation frees its tilt. A recovery is counted right after every homing that found the
stop and nowhere else, and there is at most one on each of the two ways, whatever is answered. -/
namespace LayerSeparation

def Turn.frees : Turn → Bool
  | ⟨_, .home .tilt, found⟩ => found
  | _ => false

namespace Script

/- `owed` tells whether a recovery is due, `n` how many can still come. -/
def Frees : Nat → Bool → Script → Prop
  | _, owed, .done => owed = false
  | _, owed, .fail _ => owed = false
  | n, owed, .recovered rest => owed = true ∧ ∃ k, n = k + 1 ∧ rest.Frees k false
  | n, owed, .ask phase c next => owed = false ∧ ∀ a, (next a).Frees n (Turn.frees ⟨phase, c, a⟩)

section
variable {phase freeing : Phase} {t u rest freed clear : Script} {m n : Nat} {owed : Bool}
  {turns : List Turn}

theorem Frees.mono (h : t.Frees m owed) (more : m ≤ n) : t.Frees n owed := by
  induction t generalizing m n owed with
  | done => exact h
  | fail e => exact h
  | recovered t ih =>
    obtain ⟨due, k, rfl, later⟩ := h
    obtain ⟨extra, rfl⟩ := Nat.exists_eq_add_of_le more
    exact ⟨due, k + extra, by omega, ih later (by omega)⟩
  | ask phase c next ih => exact ⟨h.1, fun a => ih a (h.2 a) more⟩

theorem frees_andThen (ht : t.Frees m owed) (hr : rest.Frees n false) :
    (t.andThen rest).Frees (m + n) owed := by
  induction t generalizing m owed with
  | done =>
    have none : owed = false := ht
    rw [none]
    exact hr.mono (Nat.le_add_left _ _)
  | fail e => exact ht
  | recovered t ih =>
    obtain ⟨due, k, rfl, later⟩ := ht
    exact ⟨due, k + n, by omega, ih later⟩
  | ask phase c next ih => exact ⟨ht.1, fun a => ih a (ht.2 a)⟩

theorem frees_pause {ms : UInt32} (h : rest.Frees n false) : (pause phase ms rest).Frees n false := by
  apply pause_induct
  · exact ⟨rfl, fun _ => h⟩
  · exact h

theorem frees_cycles {target : Int32} {profile : MovingProfile} (h : rest.Frees n false) :
    (cycles phase target profile rest).Frees n false := by
  apply cycles_induct
  · exact fun next hn => ⟨rfl, hn⟩
  · exact rfl
  · intro x t ht
    cases x <;> exact ⟨rfl, fun _ => ht⟩
  · exact h

theorem frees_check {target : Int32} {profile : MovingProfile} (hf : freed.Frees n false)
    (hc : clear.Frees n false) :
    (check phase freeing target profile freed clear).Frees (n + 1) false := by
  apply check_induct
  · exact fun next hn => ⟨rfl, hn⟩
  · exact fun next hn => ⟨rfl, hn⟩
  · exact hc.mono (Nat.le_succ n)
  · intro budget
    apply free_induct
    · exact fun _ => rfl
    · intro next found missed
      refine ⟨rfl, fun homed => ?_⟩
      cases homed with
      | false => exact missed
      | true =>
        rw [found]
        exact ⟨rfl, n, rfl, hf⟩

/-- Along a path the recoveries counted and those to come stay within the bound. -/
theorem Leads.frees (h : t.Leads turns u) (ht : t.Frees n owed) :
    ∃ k due, u.Frees k due ∧
      owed.toNat + turns.countP Turn.frees + k ≤ n + due.toNat := by
  induction h generalizing n owed with
  | refl t => exact ⟨n, owed, ht, by simp [Nat.add_comm]⟩
  | recovered h ih =>
    obtain ⟨rfl, k, rfl, later⟩ := ht
    obtain ⟨left, due, hu, few⟩ := ih later
    refine ⟨left, due, hu, ?_⟩
    simp only [Bool.toNat_true, Bool.toNat_false] at few ⊢
    omega
  | @ask phase c next turns u a h ih =>
    obtain ⟨rfl, later⟩ := ht
    obtain ⟨left, due, hu, few⟩ := ih (later a)
    refine ⟨left, due, hu, ?_⟩
    rw [List.countP_cons]
    cases hf : Turn.frees ⟨phase, c, a⟩ <;> simp [hf] at few ⊢ <;> omega

end

theorem frees_settle (phase : Phase) (ms : UInt32) : (pause phase ms .done).Frees 0 false := by
  have ended : Script.done.Frees 0 false := rfl
  exact frees_pause ended

theorem frees_wayDown (profile : MovingProfile) : (wayDown profile).Frees 1 false := by
  have ended : Script.done.Frees 0 false := rfl
  have turned : (pause .tiltDownOffsetWait profile.offsetDelayMs <|
      setTiltCurve .tiltDownFinish profile.finishCurve <|
      cycles .tiltDownCycles 0 profile .done).Frees 0 false :=
    frees_pause ⟨rfl, fun _ => frees_cycles ended⟩
  have moved : (descend profile).Frees 0 false := by
    refine ⟨rfl, fun _ => ?_⟩
    split
    · exact ⟨rfl, fun _ => turned⟩
    · exact turned
  exact frees_andThen moved (frees_check ended ended)

theorem frees_wayUp (geometry : TiltGeometry) (profile : MovingProfile) :
    (wayUp geometry profile).Frees 1 false := by
  have ended : Script.done.Frees 0 false := rfl
  have moved : (ascend geometry profile).Frees 0 false := by
    refine ⟨rfl, fun _ => ?_⟩
    split
    · rfl
    · exact ⟨rfl, fun _ => frees_pause ⟨rfl, fun _ => frees_cycles ended⟩⟩
  have sentUp : (moveAbsolute .tiltUpUnstuck .tilt geometry.heightSteps .done).Frees 0 false :=
    ⟨rfl, fun _ => ended⟩
  exact frees_andThen moved (frees_check sentUp ended)

theorem frees_towerRaise (s : Setup) : (towerRaise s .done).Frees 0 false := by
  refine ⟨rfl, fun _ => ?_⟩
  split
  · exact ⟨rfl, fun _ => rfl⟩
  · exact ⟨rfl, fun _ => rfl⟩

theorem frees_afterUp (s : Setup) : (afterUp s).Frees 0 false := by
  have lower : (towerLower s .done).Frees 0 false := by
    unfold towerLower
    split
    · exact ⟨rfl, fun _ => rfl⟩
    · rfl
  exact frees_andThen lower (frees_settle _ _)

theorem frees_afterDown (s : Setup) (moves : TiltMoves) : (afterDown s moves).Frees 1 false :=
  frees_andThen (frees_towerRaise s) (frees_andThen (frees_wayUp _ _) (frees_afterUp s))

theorem frees_separation (s : Setup) : (separation s).Frees 2 false := by
  cases hs : s.tilt with
  | none =>
    have whole := frees_andThen (frees_settle .settleAfterExposure s.params.delayAfterExposureMs)
      (frees_andThen (frees_towerRaise s) (frees_afterUp s))
    rw [separation_eq]
    simp only [withTilt, hs, andThen]
    exact whole.mono (by decide)
  | some moves =>
    rw [separation_of_tilt hs]
    exact frees_andThen (frees_settle _ _)
      (frees_andThen (frees_wayDown moves.down) (frees_afterDown s moves))

end Script
end LayerSeparation
