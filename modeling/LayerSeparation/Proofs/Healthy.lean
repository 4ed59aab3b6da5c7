import LayerSeparation.Proofs.Log
import LayerSeparation.Proofs.Nominal
import LayerSeparation.Proofs.Split
import LayerSeparation.Proofs.Unhindered

/-! A layer on a bench that nothing hinders. Wherever its axes stand it carries out the nominal commands
and ends at the exposure position and at the next layer, and the time that passes is the sum of the
pauses. The one thing that is asked of the start is that the first stretch of the way down does not
leave the range of a word. -/
namespace LayerSeparation

def Turn.issued (x : Turn) : Event := .issued x.phase x.command

def Turn.Nominal (s : Setup) (p q : Int32) (x : Turn) : Prop :=
  x.Healthy s p q ∧ ∀ axis, x.command ≠ .home axis

/- A script that issues these commands is gone through by turns that are them. -/
theorem Script.Issues.ends {admitted : Turn → Prop} {t : Script} {turns : List Turn}
    (h : t.Issues admitted (turns.map Turn.issued)) (answers : ∀ x ∈ turns, admitted x) :
    t.Ends turns := by
  induction t generalizing turns with
  | done =>
    have closed : turns = [] := List.map_eq_nil_iff.mp h
    rw [closed]
    exact .refl _
  | fail e => cases h
  | recovered t ih => cases h
  | ask phase c next ih =>
    obtain ⟨more, same, h⟩ := h
    cases turns with
    | nil => cases same
    | cons x turns =>
      obtain ⟨phase', c', a⟩ := x
      injection same with first rest
      injection first with same_phase same_command
      subst same_phase same_command rest
      exact .ask a (ih a (h a (answers _ List.mem_cons_self))
        fun y hy => answers y (List.mem_cons_of_mem _ hy))

def MovingProfile.pausesMs (profile : MovingProfile) : Nat :=
  profile.offsetDelayMs.toNat + (max profile.cycles.toNat 1 - 1) * profile.delayMs.toNat

def Setup.pausesMs (s : Setup) : Nat :=
  s.params.delayAfterExposureMs.toNat + s.params.delayBeforeExposureMs.toNat +
    match s.tilt with
    | some moves => moves.down.pausesMs + moves.up.pausesMs
    | none => 0

def parts (phase : Phase) (ms : UInt32) : List Int → List Event
  | [] => []
  | [n] => [.issued phase (.moveRelative .tilt (Int32.ofInt n))]
  | n :: k :: ns => .issued phase (.moveRelative .tilt (Int32.ofInt n)) ::
    (pauses phase ms ++ parts phase ms (k :: ns))

theorem stretches_eq (phase : Phase) (d : Int32) (profile : MovingProfile) :
    stretches phase d profile =
      parts phase profile.delayMs (shares d.toInt (max profile.cycles.toNat 1)) := by
  simp only [stretches, CycleSplit.new, toNat_moves]
  generalize shares d.toInt (max profile.cycles.toNat 1) = ns
  fun_induction parts phase profile.delayMs ns with
  | case1 => split <;> rfl
  | case2 n => split <;> rfl
  | case3 n k ns ih =>
    rw [← ih]
    by_cases none : profile.delayMs = 0
    · simp [none, pauses, SplitStep.command]
    · have some : 0 < profile.delayMs := UInt32.pos_iff_ne_zero.mpr none
      simp [none, pauses, SplitStep.command, some]

namespace Bench

/-- At rest at the one stand, the bench carries out exactly these commands and comes to rest at the
other. -/
def Covers (admitted : Turn → Prop) (startNs : Nat) (r : Stand) (es : List Event) (r' : Stand) :
    Prop :=
  ∀ phase b, Rests startNs r b → ∃ turns last b', turns.map Turn.issued = es ∧
    (∀ x ∈ turns, admitted x) ∧ machine.Performs phase b turns last b' ∧ Rests startNs r' b'

section
variable {admitted : Turn → Prop} {startNs : Nat} {r r' r'' : Stand} {es es' : List Event}

theorem covers_nil : Covers admitted startNs r [] r :=
  fun phase b h => ⟨[], phase, b, rfl, nofun, .refl _ _, h⟩

theorem Covers.append (h : Covers admitted startNs r es r')
    (h' : Covers admitted startNs r' es' r'') : Covers admitted startNs r (es ++ es') r'' := by
  intro phase b rests
  obtain ⟨first, mid, between, rfl, answers, performs, rests⟩ := h phase b rests
  obtain ⟨second, last, b', rfl, answers', performs', rests⟩ := h' mid between rests
  refine ⟨first ++ second, last, b', List.map_append, ?_, performs.append performs', rests⟩
  intro x hx
  rcases List.mem_append.mp hx with hx | hx
  · exact answers x hx
  · exact answers' x hx

theorem covers_turn {phase : Phase} {c : Command} {a : c.Answer} (answer : admitted ⟨phase, c, a⟩)
    (sent : ∀ b, Rests startNs r b →
      ∃ b', machine.perform c b = (.ok a, b') ∧ Rests startNs r' b') :
    Covers admitted startNs r [.issued phase c] r' := by
  intro before b rests
  obtain ⟨polled, unasked, rests⟩ := rests.poll before phase
  obtain ⟨b', performed, rests⟩ := sent polled rests
  refine ⟨[⟨phase, c, a⟩], phase, b', rfl, ?_, .turn unasked performed (.refl _ _), rests⟩
  intro x hx
  rw [List.mem_singleton.mp hx]
  exact answer

end

section
variable {s : Setup} {p q : Int32} {startNs : Nat} {x y target : Int32} {t : Nat}

theorem covers_pauses (phase : Phase) (ms : UInt32) :
    Covers (Turn.Nominal s p q) startNs ⟨x, y, t⟩ (pauses phase ms) ⟨x, y, t + ms.toNat⟩ := by
  unfold pauses
  split
  · exact covers_turn ⟨trivial, nofun⟩ fun b h => h.wait ms
  · next none =>
    have zero : ms.toNat = 0 := by
      rw [UInt32.lt_iff_toNat_lt] at none
      simpa using none
    rw [zero]
    exact covers_nil

theorem covers_parts {phase : Phase} {ms : UInt32} {ns : List Int} (sided : Sided ns)
    (some : ns ≠ []) (fits : -0x80000000 ≤ total ns ∧ total ns < 0x80000000)
    (there : target.toInt = x.toInt + total ns) :
    Covers (Turn.Nominal s p q) startNs ⟨x, y, t⟩ (parts phase ms ns)
      ⟨target, y, t + (ns.length - 1) * ms.toNat⟩ := by
  have low := x.le_toInt
  have high := x.toInt_lt
  have low' := target.le_toInt
  have high' := target.toInt_lt
  fun_induction parts phase ms ns generalizing x t with
  | case1 => exact absurd rfl some
  | case2 n =>
    have only : total [n] = n := Int.add_zero n
    rw [only] at fits there
    have word : (Int32.ofInt n).toInt = n := Int32.toInt_ofInt_of_le fits.1 fits.2
    rw [← word] at there
    have moved : Covers (Turn.Nominal s p q) startNs ⟨x, y, t⟩
        [.issued phase (.moveRelative .tilt (Int32.ofInt n))] ⟨target, y, t⟩ :=
      covers_turn ⟨trivial, nofun⟩ fun b h => h.shiftTilt there
    simpa using moved
  | case3 n k ns ih =>
    obtain ⟨rest, same_side⟩ := sided.of_cons
    rw [total_cons] at fits there
    have word : (Int32.ofInt n).toInt = n := Int32.toInt_ofInt_of_le (by omega) (by omega)
    have between : (Int32.ofInt (x.toInt + n)).toInt = x.toInt + n :=
      Int32.toInt_ofInt_of_le (by omega) (by omega)
    have moved : Covers (Turn.Nominal s p q) startNs ⟨x, y, t⟩
        [.issued phase (.moveRelative .tilt (Int32.ofInt n))]
        ⟨Int32.ofInt (x.toInt + n), y, t⟩ :=
      covers_turn ⟨trivial, nofun⟩ fun b h => h.shiftTilt (by rw [between, word])
    have onward := ih (x := Int32.ofInt (x.toInt + n)) (t := t + ms.toNat) rest (by simp)
      (by omega) (by omega) (by omega) (by omega)
    have time : t + ((n :: k :: ns).length - 1) * ms.toNat =
        t + ms.toNat + ((k :: ns).length - 1) * ms.toNat := by
      simp only [List.length_cons, Nat.add_sub_cancel, Nat.add_mul, Nat.one_mul]
      omega
    rw [time]
    exact moved.append ((covers_pauses phase ms).append onward)

theorem covers_stretches (phase : Phase) (profile : MovingProfile) {d : Int32}
    (distance : d.toInt = target.toInt - x.toInt) :
    Covers (Turn.Nominal s p q) startNs ⟨x, y, t⟩ (stretches phase d profile)
      ⟨target, y, t + (max profile.cycles.toNat 1 - 1) * profile.delayMs.toNat⟩ := by
  have count : (shares d.toInt (max profile.cycles.toNat 1)).length = max profile.cycles.toNat 1 :=
    length_shares _ (by omega)
  have sum : total (shares d.toInt (max profile.cycles.toNat 1)) = d.toInt := total_shares _ _
  have some : shares d.toInt (max profile.cycles.toNat 1) ≠ [] := by
    intro none
    rw [none, List.length_nil] at count
    omega
  have covered : Covers (Turn.Nominal s p q) startNs ⟨x, y, t⟩
      (parts phase profile.delayMs (shares d.toInt (max profile.cycles.toNat 1))) ⟨target, y, _⟩ :=
    covers_parts (sided_shares _ _) some (by rw [sum]; exact ⟨d.le_toInt, d.toInt_lt⟩)
      (by rw [sum]; omega)
  rw [count] at covered
  rw [stretches_eq]
  exact covered

theorem covers_setTiltCurve (phase : Phase) (curve : TiltCurve) {r : Stand} :
    Covers (Turn.Nominal s p q) startNs r [.issued phase (.setTiltCurve curve)] r :=
  covers_turn ⟨trivial, nofun⟩ fun _ h => h.setTiltCurve curve

theorem covers_queryStall (phase : Phase) {r : Stand} :
    Covers (Turn.Nominal s p q) startNs r [.issued phase (.queryStall .tilt)] r :=
  covers_turn ⟨rfl, nofun⟩ fun _ h => h.queryTilt

theorem covers_readPosition {phase : Phase} {r : Stand}
    (healthy : Turn.Healthy s p q ⟨phase, .readPosition .tilt, r.tilt⟩) :
    Covers (Turn.Nominal s p q) startNs r [.issued phase (.readPosition .tilt)] r :=
  covers_turn ⟨healthy, nofun⟩ fun _ h => h.readTilt

theorem covers_lower {down : MovingProfile} (offset : 0 ≤ down.offsetSteps.toInt)
    (first : p.toInt = x.toInt - down.offsetSteps.toInt) :
    Covers (Turn.Nominal s p q) startNs ⟨x, y, t⟩
      (if 0 < down.offsetSteps then
        [.issued .tiltDownInitial (.moveRelative .tilt (-down.offsetSteps))] else []) ⟨p, y, t⟩ := by
  split
  · have sum : p.toInt = x.toInt + (-down.offsetSteps).toInt := by
      rw [Width.toInt_neg_of_nonneg offset]
      omega
    exact covers_turn ⟨trivial, nofun⟩ fun b h => h.shiftTilt sum
  · next none =>
    have zero : (0 : Int32).toInt = 0 := rfl
    rw [Int32.lt_iff_toInt_lt, zero] at none
    have same : p = x := Int32.toInt_inj.mp (by omega)
    rw [same]
    exact covers_nil

theorem covers_nominalDown {down : MovingProfile} (offset : 0 ≤ down.offsetSteps.toInt)
    (first : p.toInt = x.toInt - down.offsetSteps.toInt) (room : p ≠ Int32.minValue) :
    Covers (Turn.Nominal s p q) startNs ⟨x, y, t⟩ (down.nominalDown p)
      ⟨0, y, t + down.pausesMs⟩ := by
  have distance : (-p).toInt = (0 : Int32).toInt - p.toInt := by
    rw [Width.toInt_neg room]
    simp
  have started : Covers (Turn.Nominal s p q) startNs ⟨x, y, t⟩
      [.issued .tiltDownInitial (.setTiltCurve down.initialCurve)] ⟨x, y, t⟩ :=
    covers_setTiltCurve _ _
  have read : ∀ t, Covers (Turn.Nominal s p q) startNs ⟨p, y, t⟩
      [.issued .tiltDownCycles (.readPosition .tilt)] ⟨p, y, t⟩ :=
    fun t => covers_readPosition ⟨fun _ => rfl, nofun, nofun, nofun⟩
  have checked : ∀ t, Covers (Turn.Nominal s p q) startNs ⟨0, y, t⟩
      [.issued .stallCheck (.readPosition .tilt)] ⟨0, y, t⟩ :=
    fun t => covers_readPosition ⟨nofun, nofun, fun _ _ _ => by simp, nofun⟩
  have whole := started.append <| (covers_lower offset first).append <|
    (covers_pauses .tiltDownOffsetWait down.offsetDelayMs).append <|
    (covers_setTiltCurve .tiltDownFinish down.finishCurve).append <| (read _).append <|
    (covers_stretches .tiltDownCycles down distance).append <|
    (covers_queryStall .stallCheck).append (checked _)
  rw [MovingProfile.pausesMs, ← Nat.add_assoc]
  simpa only [MovingProfile.nominalDown, List.append_assoc, List.cons_append, List.nil_append]
    using whole

theorem covers_nominalUp {up : MovingProfile}
    (first : q.toInt = s.geometry.heightSteps.toInt - up.offsetSteps.toInt)
    (offset : 0 ≤ up.offsetSteps.toInt) (travel : up.offsetSteps.toInt ≤ s.geometry.heightSteps.toInt) :
    Covers (Turn.Nominal s p q) startNs ⟨x, y, t⟩ (up.nominalUp s.geometry.heightSteps q)
      ⟨s.geometry.heightSteps, y, t + up.pausesMs⟩ := by
  have high := s.geometry.heightSteps.toInt_lt
  have distance : (s.geometry.heightSteps - q).toInt = s.geometry.heightSteps.toInt - q.toInt :=
    Width.toInt_sub (by omega) (by omega)
  have there : s.geometry.heightSteps - up.offsetSteps = q := by
    apply Int32.toInt_inj.mp
    rw [Width.toInt_sub (by omega) (by omega), first]
  have started : Covers (Turn.Nominal s p q) startNs ⟨x, y, t⟩
      [.issued .tiltUpInitial (.setTiltCurve up.initialCurve)] ⟨x, y, t⟩ :=
    covers_setTiltCurve _ _
  have raised : Covers (Turn.Nominal s p q) startNs ⟨x, y, t⟩
      [.issued .tiltUpInitial (.moveAbsolute .tilt q)] ⟨q, y, t⟩ :=
    covers_turn ⟨trivial, nofun⟩ fun _ h => h.moveTilt q
  have read : ∀ t, Covers (Turn.Nominal s p q) startNs ⟨q, y, t⟩
      [.issued .tiltUpCycles (.readPosition .tilt)] ⟨q, y, t⟩ :=
    fun t => covers_readPosition ⟨nofun, fun _ => rfl, nofun, nofun⟩
  have checked : ∀ t, Covers (Turn.Nominal s p q) startNs ⟨s.geometry.heightSteps, y, t⟩
      [.issued .tiltUpStallCheck (.readPosition .tilt)] ⟨s.geometry.heightSteps, y, t⟩ :=
    fun t => covers_readPosition ⟨nofun, nofun, nofun, fun _ _ _ => by simp⟩
  have whole := started.append <| raised.append <|
    (covers_pauses .tiltUpOffsetWait up.offsetDelayMs).append <|
    (covers_setTiltCurve .tiltUpFinish up.finishCurve).append <| (read _).append <|
    (covers_stretches .tiltUpCycles up distance).append <|
    (covers_queryStall .tiltUpStallCheck).append (checked _)
  rw [MovingProfile.pausesMs, ← Nat.add_assoc]
  simpa only [MovingProfile.nominalUp, there, List.append_assoc, List.cons_append, List.nil_append]
    using whole

theorem covers_tower {between : List Event} {x' : Int32} {t' : Nat}
    (covered : ∀ y, Covers (Turn.Nominal s p q) startNs ⟨x, y, t⟩ between ⟨x', y, t'⟩) :
    Covers (Turn.Nominal s p q) startNs ⟨x, y, t⟩
      (s.params.nominalTower s.nextLayerNm ++ (between ++
        if 0 < s.params.towerHopHeightNm then
          [.issued .towerLower (.moveAbsolute .tower s.nextLayerNm)] else []))
      ⟨x', s.nextLayerNm, t'⟩ := by
  have set : ∀ r, Covers (Turn.Nominal s p q) startNs r
      [.issued .tower (.setTowerCurve s.params.towerCurve)] r :=
    fun r => covers_turn ⟨trivial, nofun⟩ fun _ h => h.setTowerCurve _
  have sent : ∀ phase y x t, Covers (Turn.Nominal s p q) startNs ⟨x, y, t⟩
      [.issued phase (.moveAbsolute .tower s.nextLayerNm)] ⟨x, s.nextLayerNm, t⟩ :=
    fun phase y x t => covers_turn ⟨trivial, nofun⟩ fun _ h => h.moveTower _
  rw [LayerParams.nominalTower]
  split
  · have hopped : Covers (Turn.Nominal s p q) startNs ⟨x, y, t⟩
        [.issued .tower
          (.moveRelative .tower (Int32.ofNat s.params.towerHopHeightNm.toNat))]
        ⟨x, Width.sumInt32 y (Int32.ofNat s.params.towerHopHeightNm.toNat), t⟩ :=
      covers_turn ⟨trivial, nofun⟩ fun _ h => h.shiftTower _
    exact ((set _).append hopped).append ((covered _).append (sent _ _ _ _))
  · exact ((set _).append (sent _ _ _ _)).append ((covered _).append covers_nil)

/-- The nominal commands lead from anywhere to the exposure position and the next layer, and take the
sum of the pauses. -/
theorem covers_nominal (first : ∀ moves ∈ s.tilt, moves.down.InTravel s.geometry ∧
      moves.up.InTravel s.geometry ∧ p ≠ Int32.minValue ∧
      p.toInt = x.toInt - moves.down.offsetSteps.toInt ∧
      q.toInt = s.geometry.heightSteps.toInt - moves.up.offsetSteps.toInt) :
    Covers (Turn.Nominal s p q) startNs ⟨x, y, 0⟩ (s.nominal p q)
      ⟨if s.tilt.isSome then s.geometry.heightSteps else x, s.nextLayerNm, s.pausesMs⟩ := by
  have after : Covers (Turn.Nominal s p q) startNs ⟨x, y, 0⟩ _ _ :=
    covers_pauses .settleAfterExposure s.params.delayAfterExposureMs
  have before : ∀ x t, Covers (Turn.Nominal s p q) startNs ⟨x, s.nextLayerNm, t⟩ _ _ :=
    fun x t => covers_pauses .settleBeforeExposure s.params.delayBeforeExposureMs
  rw [Setup.nominal, Setup.pausesMs]
  cases hs : s.tilt with
  | none =>
    have stays : ∀ y, Covers (Turn.Nominal s p q) startNs
        ⟨x, y, 0 + s.params.delayAfterExposureMs.toNat⟩ [] _ := fun y => covers_nil
    have whole := after.append ((covers_tower stays).append (before _ _))
    simpa only [List.append_assoc, List.nil_append, Nat.zero_add, Nat.add_zero, Option.isSome_none,
      Bool.false_eq_true, if_false] using whole
  | some moves =>
    obtain ⟨down, up, least, lowered, raised⟩ := first moves hs
    have falls : Covers (Turn.Nominal s p q) startNs
        ⟨x, y, 0 + s.params.delayAfterExposureMs.toNat⟩ (moves.down.nominalDown p) _ :=
      covers_nominalDown down.offset.1 lowered least
    have rises : ∀ y, Covers (Turn.Nominal s p q) startNs
        ⟨0, y, 0 + s.params.delayAfterExposureMs.toNat + moves.down.pausesMs⟩
        (moves.up.nominalUp s.geometry.heightSteps q) _ :=
      fun y => covers_nominalUp raised up.offset.1 up.travel
    have whole := after.append (falls.append ((covers_tower rises).append (before _ _)))
    have time : s.params.delayAfterExposureMs.toNat + s.params.delayBeforeExposureMs.toNat +
          (moves.down.pausesMs + moves.up.pausesMs) =
        0 + s.params.delayAfterExposureMs.toNat + moves.down.pausesMs + moves.up.pausesMs +
          s.params.delayBeforeExposureMs.toNat := by omega
    simp only [time, Option.isSome_some, if_true]
    simpa only [List.append_assoc] using whole

end
end Bench

namespace Setup

/- Where the tilt is found before each of the split moves. -/
theorem Resolved.readings {table : MovingProfileTable} {params : LayerParams}
    {geometry : TiltGeometry} {nextLayerNm : Int32} {s : Setup}
    (h : s.Resolved table params geometry nextLayerNm) {x : Int32}
    (room : ∀ moves ∈ s.tilt, -0x80000000 < x.toInt - moves.down.offsetSteps.toInt) :
    ∃ p q : Int32, p ≠ Int32.minValue ∧ 0 ≤ s.geometry.heightSteps.toInt - q.toInt ∧
      s.geometry.heightSteps.toInt - q.toInt < 0x80000000 ∧
      ∀ moves ∈ s.tilt, moves.down.InTravel s.geometry ∧ moves.up.InTravel s.geometry ∧
        p.toInt = x.toInt - moves.down.offsetSteps.toInt ∧
        q.toInt = s.geometry.heightSteps.toInt - moves.up.offsetSteps.toInt := by
  have high := x.toInt_lt
  have high' := s.geometry.heightSteps.toInt_lt
  cases hs : s.tilt with
  | none =>
    refine ⟨0, s.geometry.heightSteps, by decide, by omega, by omega, ?_⟩
    intro moves none
    exact absurd none (Option.not_mem_none moves)
  | some moves =>
    obtain ⟨down, up⟩ := h.profiles moves hs
    rw [← h.geometry_eq] at down up
    have offset := down.offset
    have offset' := up.offset
    have travel := up.travel
    have low := room moves hs
    have lowered : (x - moves.down.offsetSteps).toInt =
        x.toInt - moves.down.offsetSteps.toInt := Width.toInt_sub (by omega) (by omega)
    have raised : (s.geometry.heightSteps - moves.up.offsetSteps).toInt =
        s.geometry.heightSteps.toInt - moves.up.offsetSteps.toInt :=
      Width.toInt_sub (by omega) (by omega)
    refine ⟨x - moves.down.offsetSteps, s.geometry.heightSteps - moves.up.offsetSteps, ?_, by omega,
      by omega, ?_⟩
    · intro least
      have least_value : (Int32.minValue).toInt = -0x80000000 := rfl
      rw [least, least_value] at lowered
      omega
    · intro others same
      cases same
      exact ⟨down, up, lowered, raised⟩

theorem Resolved.healthy_turns {table : MovingProfileTable} {params : LayerParams}
    {geometry : TiltGeometry} {nextLayerNm : Int32} {s : Setup}
    (h : s.Resolved table params geometry nextLayerNm) {startNs : Nat} {x y : Int32} {b : Bench}
    (room : ∀ moves ∈ s.tilt, -0x80000000 < x.toInt - moves.down.offsetSteps.toInt)
    (phase : Phase) (rests : Bench.Rests startNs ⟨x, y, 0⟩ b) :
    ∃ turns last b', (Script.separation s).Ends turns ∧
      (∀ x ∈ turns, ∀ axis, x.command ≠ .home axis) ∧
      Bench.machine.Performs phase b turns last b' ∧
      Bench.Rests startNs
        ⟨if s.tilt.isSome then s.geometry.heightSteps else x, s.nextLayerNm, s.pausesMs⟩ b' := by
  obtain ⟨p, q, least, low, high, first⟩ := h.readings room
  have covered : Bench.Covers (Turn.Nominal s p q) startNs ⟨x, y, 0⟩ (s.nominal p q) _ :=
    Bench.covers_nominal fun moves hm => by
      obtain ⟨down, up, lowered, raised⟩ := first moves hm
      exact ⟨down, up, least, lowered, raised⟩
  obtain ⟨turns, last, b', issued, answers, performs, ended⟩ := covered phase b rests
  have issues := Script.issues_separation h least (by omega) high
  rw [← issued] at issues
  exact ⟨turns, last, b', issues.ends fun x hx => (answers x hx).1,
    fun x hx => (answers x hx).2, performs, ended⟩

end Setup

namespace Separator

/-- On a bench that nothing hinders every accepted layer is separated: the tower ends at the next
layer, a tilt at the exposure position without ever being homed, and the time reported is the sum of
the pauses. -/
theorem healthy_layer {sep : Separator} {area : Float32} {nextLayerNm : Int32} {s : Setup} {b : Bench}
    (accepted : Setup.resolve sep.table (sep.exposure.select area) sep.geometry nextLayerNm = .ok s)
    (tilt : b.tilt.Unhindered) (clear : b.tilt.stall = false) (tower : b.tower.Unhindered)
    (room : ∀ moves ∈ s.tilt,
      -0x80000000 < b.tilt.position.toInt - moves.down.offsetSteps.toInt)
    (unasked : ∀ n, b.abort n = false) (timed : b.shownTimes = [])
    (lasts : b.clock.nowNs.toNat + s.pausesMs * SimClock.nsPerMs < 0x10000000000000000) :
    ∃ report b', sep.separateLayer Bench.machine area nextLayerNm b =
        (.ok report, { sep with phase := .idle }, b') ∧
      b'.tower.position = nextLayerNm ∧
      (s.tilt.isSome → b'.tilt.position = sep.geometry.heightSteps ∧
        ∀ axis answer, .sent (.home axis) answer ∉
          sep.occurrences Bench.machine area nextLayerNm b) ∧
      (s.tilt.isNone → b'.tilt = b.tilt) ∧
      report.fill = sep.exposure.fillFor area ∧ report.stallRecoveries = 0 ∧
      (report.hopped ↔ 0 < (sep.exposure.select area).towerHopHeightNm) ∧
      report.elapsedMs.toNat = s.pausesMs := by
  have resolved := Setup.resolved_of_eq_ok accepted
  have rests : Bench.Rests b.clock.nowNs.toNat ⟨b.tilt.position, b.tower.position, 0⟩ b := by
    refine ⟨tilt, clear, tower, unasked, timed, rfl, rfl, ?_⟩
    have range := b.clock.nowNs.toNat_lt
    simp only [Nat.zero_mul, Nat.add_zero]
    omega
  obtain ⟨turns, last, final, ends, unhomed, performs, ended⟩ :=
    resolved.healthy_turns room sep.phase rests
  have performs' : Bench.machine.Performs sep.phase (Bench.machine.now b).2 turns last final := by
    rw [rests.now]
    exact performs
  refine ⟨_, _, separateLayer_of_performs accepted ends performs', ?_⟩
  rw [rests.now, ended.now]
  simp only
  refine ⟨ended.towerAt.trans resolved.next_eq, ?_, ?_, rfl, ?_, ?_, ?_⟩
  · intro some
    have there := ended.tiltAt
    simp only [some, if_true] at there
    rw [there, resolved.geometry_eq]
    refine ⟨rfl, fun axis answer seen => ?_⟩
    obtain ⟨x, hx, same⟩ := (sent_mem_occurrences_iff accepted ends performs').mp seen
    injection same with homed
    exact unhomed x hx axis homed
  · intro none
    exact Bench.tilt_of_performs performs fun x hx =>
      (ends.within (Script.within_of_no_tilt (Option.isNone_iff_eq_none.mp none)) x hx).2
  · have none_freed := Script.countP_frees_eq_zero fun x hx => unhomed x hx .tilt
    rw [reportOf, none_freed]
    rfl
  · have hops := resolved.hops_iff
    rw [resolved.params_eq] at hops
    exact hops
  · have shows : final.clock.nowNs.toNat =
        b.clock.nowNs.toNat + s.pausesMs * SimClock.nsPerMs := by
      rw [ended.clockAt]
      simp only
      omega
    have passed := SimClock.toNat_nowMs_add shows
    have range := final.clock.nowMs.toNat_lt
    rw [reportOf, passed, Nat.add_sub_cancel_left, UInt64.toNat_ofNat_of_lt']
    exact Nat.lt_of_le_of_lt (Nat.le_add_left _ _) (passed ▸ range)

/- A tilt somewhere below its bottom stop, with a fault that is past. -/
def restingBench : Bench where
  tilt := { position := -40, fault := some (2, .driverFault), calls := 3 }
  tower := { position := 900, stall := true }
  clock := { nowNs := 1500 }

theorem healthy_layer_sample : ∃ report b',
    sample.separateLayer Bench.machine 1 50000 restingBench =
      (.ok report, { sample with phase := .idle }, b') ∧
    b'.tower.position = 50000 ∧ b'.tilt.position = 4928 ∧ report.elapsedMs.toNat = 4000 := by
  have faultless : ∀ number error,
      some (2, AxisError.driverFault) = some (number, error) → number < 3 := by
    intro number error same
    cases same
    decide
  obtain ⟨report, b', separated, tower, tilt, _, _, _, _, elapsed⟩ :=
    healthy_layer (b := restingBench) (accepted_sample 1) ⟨⟨rfl, rfl⟩, rfl, faultless⟩ rfl
      ⟨⟨rfl, rfl⟩, rfl, nofun⟩ (by decide) (fun _ => rfl) rfl (by decide)
  exact ⟨report, b', separated, tower, (tilt rfl).1, elapsed⟩

end Separator
end LayerSeparation
