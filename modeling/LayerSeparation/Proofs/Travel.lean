import LayerSeparation.Proofs.Accepted
import LayerSeparation.Proofs.Failure
import LayerSeparation.Proofs.Landing
import LayerSeparation.Proofs.Session

/-! The travel of the tilt over many layers. Between two layers the tilt stands at the exposure position,
or at the bottom stop after a layer that was not carried out. From the one every move of a layer ends
between the stops; from the other the first move down is refused. -/
namespace LayerSeparation

/-- A layer that comes to its end leaves the tilt where `done` says; one that does not, where it `rests`,
and not for a move beyond the stops. -/
def Landing.resting (rests done : Int32 → Prop) : Landing
  | .ok (), q => done q
  | .error e, q => rests q ∧ ∀ phase, e ≠ .axisCommandFailure .tilt phase .outOfBounds

def Landing.barred (p : Int32) : Landing := fun r q => (q = 0 ∨ q = p) ∧
  (r = .error (.axisCommandFailure .tilt .tiltDownInitial .outOfBounds) ∨
    ∃ phase, (phase = .settleAfterExposure ∨ phase = .tiltDownInitial) ∧ r = .error (.cancelled phase))

namespace Script
variable {safe : Int32 → Int32} {rests done mid : Int32 → Prop} {rest freed clear : Script}
  {p target : Int32} {phase : Phase}

theorem lands_ask {c : Command} {next : c.Answer → Script} {q : Int32} (own : c.axis ≠ some .tower)
    (calm : rests (safe p)) (brings : c.bringsTilt p = q) (there : BetweenStops q)
    (onward : ∀ a, c.Expects p a → (next a).Lands safe (.resting rests done) q) :
    (ask phase c next).Lands safe (.resting rests done) p :=
  lands_onward own ⟨calm, nofun⟩ brings there onward

theorem lands_tower {c : Command} {next : c.Answer → Script} (tower : c.axis = some .tower)
    (calm : rests (safe p)) (still : rests p) (inside : BetweenStops p)
    (onward : ∀ a, (next a).Lands safe (.resting rests done) p) :
    (ask phase c next).Lands safe (.resting rests done) p := by
  refine ⟨⟨calm, nofun⟩, fun _ e => ⟨still, nofun⟩, ?_⟩
  rw [Command.bringsTilt_of_tower tower, if_pos inside]
  exact fun a _ => onward a

theorem lands_pause {ms : UInt32} (calm : rests (safe p)) (inside : BetweenStops p)
    (onward : rest.Lands safe (.resting rests done) p) :
    (pause phase ms rest).Lands safe (.resting rests done) p := by
  refine pause_induct (Q := fun t => t.Lands safe (.resting rests done) p) ?_ ?_
  · exact lands_ask nofun calm rfl inside fun _ _ => onward
  · exact onward

theorem Lands.onward {t : Script} (h : t.Lands safe (.resting rests mid) p)
    (later : ∀ q, mid q → rest.Lands safe (.resting rests done) q) :
    (t.andThen rest).Lands safe (.resting rests done) p :=
  h.andThen later fun _ _ failed => failed

/-- Parts that lead to a target one after another never leave the way to it. -/
theorem lands_split {steps : List SplitStep} (calm : ∀ q, rests (safe q)) (inside : BetweenStops p)
    (there : BetweenStops target) (sided : Sided (steps.filterMap SplitStep.length?))
    (reached : target.toInt = p.toInt + total (steps.filterMap SplitStep.length?))
    (onward : rest.Lands safe (.resting rests done) target) :
    (steps.foldr (splitStep phase) rest).Lands safe (.resting rests done) p := by
  induction steps generalizing p with
  | nil =>
    have same : target = p := Int32.toInt_inj.mp (by simpa [total] using reached)
    rw [← same]
    exact onward
  | cons step steps ih =>
    cases step with
    | wait ms => exact lands_ask nofun (calm p) rfl inside fun _ _ => ih inside sided reached
    | move n =>
      have lengths : (SplitStep.move n :: steps).filterMap SplitStep.length? =
        n.toInt :: steps.filterMap SplitStep.length? := rfl
      rw [lengths] at sided reached
      rw [total_cons] at reached
      obtain ⟨later, way⟩ := sided.of_cons
      obtain ⟨low, high⟩ := betweenStops_iff.mp inside
      obtain ⟨low', high'⟩ := betweenStops_iff.mp there
      obtain ⟨word, between⟩ :=
        betweenStops_ofInt (n := p.toInt + n.toInt) (by omega) (by omega)
      have moved : (Command.moveRelative .tilt n).bringsTilt p = Int32.ofInt (p.toInt + n.toInt) :=
        Width.sumInt32_eq word
      exact lands_ask nofun (calm p) moved between fun _ _ => ih between later (by omega)

theorem lands_cycles {profile : MovingProfile} (calm : ∀ q, rests (safe q)) (inside : BetweenStops p)
    (there : BetweenStops target) (onward : rest.Lands safe (.resting rests done) target) :
    (cycles phase target profile rest).Lands safe (.resting rests done) p := by
  refine lands_ask nofun (calm p) rfl inside fun x same => ?_
  have here : x = p := same
  rw [here]
  obtain ⟨low, high⟩ := betweenStops_iff.mp inside
  obtain ⟨low', high'⟩ := betweenStops_iff.mp there
  cases hd : Width.difference? target p with
  | none =>
    have far := Width.int32?_eq_none_iff.mp hd
    omega
  | some distance =>
    have length := Width.difference?_eq_some_iff.mp hd
    have lengths := (split_exact distance profile.cycles profile.delayMs).2
    have whole : total (shares distance.toInt (max profile.cycles.toNat 1)) = distance.toInt :=
      total_shares _ _
    have reached : target.toInt = p.toInt + distance.toInt := by omega
    refine lands_split calm inside there ?_ ?_ onward
    · rw [lengths]
      exact sided_shares _ _
    · rw [lengths, whole]
      exact reached

theorem lands_free (calm : ∀ q, rests (safe q)) (still : rests p)
    (onward : rest.Lands safe (.resting rests done) 0) (budget : HomingBudget) :
    (free phase rest budget).Lands safe (.resting rests done) p := by
  apply free_induct (Q := fun t => t.Lands safe (.resting rests done) p)
  · exact fun n => ⟨still, nofun⟩
  · intro next found _
    refine lands_ask nofun (calm p) rfl betweenStops_zero fun homed same => ?_
    have freed : homed = true := same
    rw [freed, found]
    exact onward

theorem lands_check {freeing : Phase} {profile : MovingProfile} (calm : ∀ q, rests (safe q))
    (still : rests p) (inside : BetweenStops p) (freed_lands : freed.Lands safe (.resting rests done) 0)
    (clear_lands : clear.Lands safe (.resting rests done) p) :
    (check phase freeing target profile freed clear).Lands safe (.resting rests done) p := by
  refine lands_ask nofun (calm p) rfl inside fun flag _ => ?_
  refine lands_ask nofun (calm p) rfl inside fun x _ => ?_
  split
  · exact clear_lands
  · exact lands_free calm still freed_lands _

theorem lands_wayDown {profile : MovingProfile} (calm : ∀ q, rests (safe q)) (bottom : rests 0)
    (inside : BetweenStops p) (forward : 0 ≤ profile.offsetSteps.toInt)
    (room : profile.offsetSteps.toInt ≤ p.toInt) :
    (wayDown profile).Lands safe (.resting rests (· = 0)) p := by
  have onward : ∀ q, BetweenStops q → (pause .tiltDownOffsetWait profile.offsetDelayMs <|
      setTiltCurve .tiltDownFinish profile.finishCurve <|
      cycles .tiltDownCycles 0 profile .done).Lands safe (.resting rests (· = 0)) q := fun q inside =>
    lands_pause (calm q) inside <| lands_ask nofun (calm q) rfl inside fun _ _ =>
      lands_cycles calm inside betweenStops_zero rfl
  have descent : (descend profile).Lands safe (.resting rests (· = 0)) p := by
    refine lands_ask nofun (calm p) rfl inside fun _ _ => ?_
    split
    · have back := Width.toInt_neg_of_nonneg forward
      obtain ⟨low, high⟩ := betweenStops_iff.mp inside
      obtain ⟨word, between⟩ :=
        betweenStops_ofInt (n := p.toInt - profile.offsetSteps.toInt) (by omega) (by omega)
      have moved : (Command.moveRelative .tilt (-profile.offsetSteps)).bringsTilt p =
          Int32.ofInt (p.toInt - profile.offsetSteps.toInt) :=
        Width.sumInt32_eq (by rw [word, back]; rfl)
      exact lands_ask nofun (calm p) moved between fun _ _ => onward _ between
    · exact onward p inside
  refine descent.onward fun q zero => ?_
  rw [zero]
  exact lands_check calm bottom betweenStops_zero rfl rfl

theorem lands_wayUp {geometry : TiltGeometry} {profile : MovingProfile} (calm : ∀ q, rests (safe q))
    (top : rests geometry.heightSteps) (inside : BetweenStops p)
    (there : BetweenStops geometry.heightSteps) (forward : 0 ≤ profile.offsetSteps.toInt)
    (room : profile.offsetSteps.toInt ≤ geometry.heightSteps.toInt) :
    (wayUp geometry profile).Lands safe (.resting rests (· = geometry.heightSteps)) p := by
  have ascent : (ascend geometry profile).Lands safe (.resting rests (· = geometry.heightSteps)) p := by
    refine lands_ask nofun (calm p) rfl inside fun _ _ => ?_
    obtain ⟨low, high⟩ := betweenStops_iff.mp there
    cases hd : Width.difference? geometry.heightSteps profile.offsetSteps with
    | none =>
      have far := Width.int32?_eq_none_iff.mp hd
      omega
    | some position =>
      have first := Width.difference?_eq_some_iff.mp hd
      have between : BetweenStops position := betweenStops_iff.mpr (by omega)
      exact lands_ask nofun (calm p) rfl between fun _ _ => lands_pause (calm _) between <|
        lands_ask nofun (calm _) rfl between fun _ _ => lands_cycles calm between there rfl
  refine ascent.onward fun q same => ?_
  rw [same]
  exact lands_check calm top there (lands_ask nofun (calm 0) rfl there fun _ _ => rfl) rfl

/- The tower moves where the tilt may rest. -/
theorem lands_towerRaise (s : Setup) (calm : rests (safe p)) (still : rests p) (inside : BetweenStops p) :
    (towerRaise s .done).Lands safe (.resting rests (· = p)) p := by
  refine lands_tower rfl calm still inside fun _ => ?_
  split
  · exact lands_tower rfl calm still inside fun _ => rfl
  · exact lands_tower rfl calm still inside fun _ => rfl

theorem lands_towerLower (s : Setup) (calm : rests (safe p)) (still : rests p) (inside : BetweenStops p) :
    (towerLower s .done).Lands safe (.resting rests (· = p)) p := by
  unfold towerLower
  split
  · exact lands_tower rfl calm still inside fun _ => rfl
  · exact rfl

theorem lands_settle {ms : UInt32} (calm : rests (safe p)) (inside : BetweenStops p) :
    (pause phase ms .done).Lands safe (.resting rests (· = p)) p :=
  lands_pause calm inside rfl

theorem lands_separation {s : Setup} {moves : TiltMoves} (tilt : s.tilt = some moves)
    (inside : BetweenStops p) (there : BetweenStops s.geometry.heightSteps)
    (down : moves.down.InTravel s.geometry) (up : moves.up.InTravel s.geometry)
    (room : moves.down.offsetSteps.toInt ≤ p.toInt) :
    (separation s).Lands s.safePosition
      (.resting (fun q => q = 0 ∨ q = s.geometry.heightSteps) (· = s.geometry.heightSteps)) p := by
  have calm : ∀ q, s.safePosition q = 0 ∨ s.safePosition q = s.geometry.heightSteps := by
    intro q
    rw [Setup.safePosition, tilt]
    exact .inl rfl
  have top : s.geometry.heightSteps = 0 ∨ s.geometry.heightSteps = s.geometry.heightSteps := .inr rfl
  rw [separation_eq]
  simp only [withTilt, tilt]
  refine (lands_settle (calm p) inside).onward fun _ here => ?_
  rw [here]
  refine (lands_wayDown calm (.inl rfl) inside down.offset.1 room).onward fun _ bottom => ?_
  rw [bottom]
  refine (lands_towerRaise s (calm 0) (.inl rfl) betweenStops_zero).onward fun _ still => ?_
  rw [still]
  refine (lands_wayUp calm top betweenStops_zero there up.offset.1 up.travel).onward fun _ risen => ?_
  rw [risen]
  refine (lands_towerLower s (calm _) top there).onward fun _ still => ?_
  rw [still]
  exact lands_settle (calm _) there

theorem lands_of_no_tilt {s : Setup} (level : s.tilt = none) (inside : BetweenStops p) :
    (separation s).Lands s.safePosition (.resting (· = p) (· = p)) p := by
  have calm : s.safePosition p = p := by
    rw [Setup.safePosition, level]
    rfl
  rw [separation_eq]
  simp only [withTilt, level, andThen]
  have raise : (towerRaise s .done).Lands s.safePosition (.resting (· = p) (· = p)) p :=
    lands_towerRaise s calm rfl inside
  have lower : (towerLower s .done).Lands s.safePosition (.resting (· = p) (· = p)) p :=
    lands_towerLower s calm rfl inside
  refine (lands_settle calm inside).onward fun _ here => ?_
  rw [here]
  refine raise.onward fun _ here => ?_
  rw [here]
  refine lower.onward fun _ here => ?_
  rw [here]
  exact lands_settle calm inside

theorem lands_of_low {s : Setup} {moves : TiltMoves} (tilt : s.tilt = some moves)
    (inside : BetweenStops p) (down : moves.down.InTravel s.geometry)
    (low : p.toInt < moves.down.offsetSteps.toInt) :
    (separation s).Lands s.safePosition (.barred p) p := by
  have bottom : s.safePosition p = 0 := by
    rw [Setup.safePosition, tilt]
    rfl
  obtain ⟨least, most⟩ := down.offset
  have above := inside.1
  have zero : (0 : Int32).toInt = 0 := rfl
  have moves_down : 0 < moves.down.offsetSteps := by
    rw [Int32.lt_iff_toInt_lt, zero]
    omega
  have back := Width.toInt_neg_of_nonneg least
  have beyond : ¬ BetweenStops (Width.sumInt32 p (-moves.down.offsetSteps)) := by
    rintro ⟨inside, _⟩
    rw [Width.sumInt32, Width.toInt_clampInt32, back] at inside
    omega
  have stopped : ∀ phase, phase = .settleAfterExposure ∨ phase = .tiltDownInitial →
      Landing.barred p (.error (.cancelled phase)) (s.safePosition p) := by
    intro phase early
    rw [bottom]
    exact ⟨.inl rfl, .inr ⟨phase, early, rfl⟩⟩
  have first : ∀ rest, (tiltDown moves.down rest).Lands s.safePosition (.barred p) p := by
    intro rest
    rw [tiltDown, if_pos moves_down]
    exact lands_onward (by rintro ⟨⟩) (stopped _ (.inr rfl)) rfl inside fun _ _ =>
      lands_refused (by rintro ⟨⟩) (stopped _ (.inr rfl)) beyond ⟨.inr rfl, .inl rfl⟩
  rw [separation]
  simp only [tilt]
  apply pause_induct (Q := fun t => t.Lands s.safePosition (.barred p) p)
  · exact lands_onward (by rintro ⟨⟩) (stopped _ (.inl rfl)) rfl inside fun _ _ => first _
  · exact first _

end Script

namespace Separator
variable {sep : Separator} {b : Bench} {p : Int32} {area : Float32} {nextLayerNm : Int32}

/- The clock, which is read last, is no matter of the tilt. -/
theorem tilt_of_ran {s : Setup}
    (accepted : Setup.resolve sep.table (sep.exposure.select area) sep.geometry nextLayerNm = .ok s) :
    (sep.separateLayer Bench.machine area nextLayerNm b).2.2.tilt =
      (sep.ran s Bench.machine b).2.world.tilt := by
  rw [ExposureProfile.select] at accepted
  unfold separateLayer ran
  simp only [accepted]
  cases ((Script.separation s).execute Bench.machine (s.makeSafe Bench.machine)
    ⟨sep.phase, 0, (Bench.machine.now b).2⟩).1 with
  | error e => rfl
  | ok done => exact (Bench.now_axes _).1

theorem ends_of_lands {s : Setup} {ends : Landing}
    (accepted : Setup.resolve sep.table (sep.exposure.select area) sep.geometry nextLayerNm = .ok s)
    (inside : BetweenStops p) (roams : b.tilt.Roams p)
    (lands : (Script.separation s).Lands s.safePosition ends p) :
    ∃ q, ends (sep.ran s Bench.machine b).1 q ∧
      (sep.separateLayer Bench.machine area nextLayerNm b).2.2.tilt.Roams q := by
  rw [← (Bench.now_axes b).1] at roams
  obtain ⟨q, _, ended, there⟩ := Bench.execute_lands (e := ⟨sep.phase, 0, (Bench.machine.now b).2⟩)
    (fun w q => Bench.makeSafe_roams s) inside roams lands
  rw [tilt_of_ran accepted]
  exact ⟨q, ended, there⟩

theorem result_of_resting {s : Setup} {rests done : Int32 → Prop} {q : Int32}
    (accepted : Setup.resolve sep.table (sep.exposure.select area) sep.geometry nextLayerNm = .ok s)
    (ended : Landing.resting rests done (sep.ran s Bench.machine b).1 q) :
    (rests q ∨ done q) ∧
      (∀ report, (sep.separateLayer Bench.machine area nextLayerNm b).1 = .ok report → done q) ∧
      ∀ phase, (sep.separateLayer Bench.machine area nextLayerNm b).1 ≠
        .error (.axisCommandFailure .tilt phase .outOfBounds) := by
  obtain ⟨ok_iff, error_iff⟩ := result_of_ran Bench.machine b accepted
  cases ran : (sep.ran s Bench.machine b).1 with
  | ok done =>
    rw [ran] at ended ok_iff
    obtain ⟨report, separated⟩ := ok_iff.mpr rfl
    rw [separated]
    exact ⟨.inr ended, fun _ _ => ended, nofun⟩
  | error e =>
    rw [ran] at ended error_iff
    rw [(error_iff e).mpr rfl]
    refine ⟨.inl ended.1, nofun, fun phase same => ?_⟩
    exact ended.2 phase (Except.error.inj same)

structure Travels (sep : Separator) (area : Float32) (nextLayerNm : Int32) (p q : Int32)
    (result : Except SeparationError SeparationReport) : Prop where
  stands : q = sep.geometry.heightSteps ∨ q = 0
  separated : ∀ report, result = .ok report → q = sep.geometry.heightSteps ∨ q = p
  outOfBounds : ∀ phase, result = .error (.axisCommandFailure .tilt phase .outOfBounds) →
    phase = .tiltDownInitial ∧ ∃ s moves,
      Setup.resolve sep.table (sep.exposure.select area) sep.geometry nextLayerNm = .ok s ∧
      s.tilt = some moves ∧ p.toInt < moves.down.offsetSteps.toInt
  barred : ∀ s moves,
    Setup.resolve sep.table (sep.exposure.select area) sep.geometry nextLayerNm = .ok s →
    s.tilt = some moves → p.toInt < moves.down.offsetSteps.toInt →
    result = .error (.axisCommandFailure .tilt .tiltDownInitial .outOfBounds) ∨
      ∃ phase, (phase = .settleAfterExposure ∨ phase = .tiltDownInitial) ∧
        result = .error (.cancelled phase)

theorem travels_of_refused {e : ProfileError} (roams : b.tilt.Roams p)
    (stands : p = sep.geometry.heightSteps ∨ p = 0)
    (refused : Setup.resolve sep.table (sep.exposure.select area) sep.geometry nextLayerNm = .error e) :
    (sep.separateLayer Bench.machine area nextLayerNm b).2.2.tilt.Roams p ∧
      sep.Travels area nextLayerNm p p (sep.separateLayer Bench.machine area nextLayerNm b).1 := by
  have result : (sep.separateLayer Bench.machine area nextLayerNm b).1 = _ :=
    (separateLayer_of_error refused).1
  have still : (sep.separateLayer Bench.machine area nextLayerNm b).2.2.tilt = b.tilt := by
    rw [ExposureProfile.select] at refused
    unfold separateLayer
    simp only [refused]
    exact (Bench.now_axes b).1
  refine ⟨by rwa [still], stands, fun _ _ => .inr rfl, ?_, ?_⟩
  · intro phase failed
    rw [result, SeparationError.ofProfileError] at failed
    split at failed <;> cases failed
  · intro s moves accepted
    rw [refused] at accepted
    cases accepted

section
variable {s : Setup} {moves : TiltMoves}
  (accepted : Setup.resolve sep.table (sep.exposure.select area) sep.geometry nextLayerNm = .ok s)
  (roams : b.tilt.Roams p) (inside : BetweenStops p)
include accepted roams inside

/-- From high enough a position no move of a layer leads beyond the stops. -/
theorem travels_of_room (tilt : s.tilt = some moves)
    (room : moves.down.offsetSteps.toInt ≤ p.toInt) :
    ∃ q, (sep.separateLayer Bench.machine area nextLayerNm b).2.2.tilt.Roams q ∧
      sep.Travels area nextLayerNm p q (sep.separateLayer Bench.machine area nextLayerNm b).1 := by
  have of := Setup.resolved_of_eq_ok accepted
  obtain ⟨down, up⟩ := of.profiles moves tilt
  have there : BetweenStops sep.geometry.heightSteps :=
    ⟨Int.le_trans (by decide) of.height.1, of.height.2⟩
  have same := of.geometry_eq
  rw [← same] at down up there
  obtain ⟨q, ended, there⟩ := ends_of_lands accepted inside roams
    (Script.lands_separation tilt inside there down up room)
  obtain ⟨here, separated, passable⟩ := result_of_resting accepted ended
  rw [same] at here separated
  refine ⟨q, there, ?_, fun report ok => .inl (separated report ok),
    fun phase out => absurd out (passable phase), ?_⟩
  · rcases here with (bottom | top) | top
    · exact .inr bottom
    · exact .inl top
    · exact .inl top
  · intro s' moves' accepted' tilt' low
    rw [accepted] at accepted'
    cases accepted'
    rw [tilt] at tilt'
    cases tilt'
    exact absurd low (Int.not_lt.mpr room)

variable (stands : p = sep.geometry.heightSteps ∨ p = 0)
include stands

theorem travels_of_no_tilt (level : s.tilt = none) :
    (sep.separateLayer Bench.machine area nextLayerNm b).2.2.tilt.Roams p ∧
      sep.Travels area nextLayerNm p p (sep.separateLayer Bench.machine area nextLayerNm b).1 := by
  obtain ⟨q, ended, there⟩ :=
    ends_of_lands accepted inside roams (Script.lands_of_no_tilt level inside)
  obtain ⟨here, _, passable⟩ := result_of_resting accepted ended
  have same : q = p := here.elim id id
  rw [same] at there
  refine ⟨there, stands, fun _ _ => .inr rfl, fun phase failed => absurd failed (passable phase), ?_⟩
  intro s' moves accepted' tilt
  rw [accepted] at accepted'
  cases accepted'
  rw [level] at tilt
  cases tilt

theorem travels_of_low (tilt : s.tilt = some moves)
    (low : p.toInt < moves.down.offsetSteps.toInt) :
    ∃ q, (sep.separateLayer Bench.machine area nextLayerNm b).2.2.tilt.Roams q ∧
      sep.Travels area nextLayerNm p q (sep.separateLayer Bench.machine area nextLayerNm b).1 := by
  have of := Setup.resolved_of_eq_ok accepted
  have down := (of.profiles moves tilt).1
  rw [← of.geometry_eq] at down
  obtain ⟨q, ⟨here, ended⟩, there⟩ :=
    ends_of_lands accepted inside roams (Script.lands_of_low tilt inside down low)
  obtain ⟨_, error_iff⟩ := result_of_ran Bench.machine b accepted
  have failed : (sep.separateLayer Bench.machine area nextLayerNm b).1 =
      .error (.axisCommandFailure .tilt .tiltDownInitial .outOfBounds) ∨
      ∃ phase, (phase = .settleAfterExposure ∨ phase = .tiltDownInitial) ∧
        (sep.separateLayer Bench.machine area nextLayerNm b).1 = .error (.cancelled phase) := by
    rcases ended with refused | ⟨phase, early, cancelled⟩
    · exact .inl ((error_iff _).mpr refused)
    · exact .inr ⟨phase, early, (error_iff _).mpr cancelled⟩
  refine ⟨q, there, ?_, ?_, ?_, fun _ _ _ _ _ => failed⟩
  · rcases here with rfl | rfl
    · exact .inr rfl
    · exact stands
  · intro report separated
    rcases failed with refused | ⟨_, _, cancelled⟩
    · rw [refused] at separated
      cases separated
    · rw [cancelled] at separated
      cases separated
  · intro phase out
    refine ⟨?_, s, moves, accepted, tilt, low⟩
    rcases failed with refused | ⟨_, _, cancelled⟩
    · rw [refused] at out
      cases out
      rfl
    · rw [cancelled] at out
      cases out

end

theorem layer_travels (area : Float32) (nextLayerNm : Int32) (roams : b.tilt.Roams p)
    (stands : p = sep.geometry.heightSteps ∨ p = 0) :
    ∃ q, (sep.separateLayer Bench.machine area nextLayerNm b).2.2.tilt.Roams q ∧
      sep.Travels area nextLayerNm p q (sep.separateLayer Bench.machine area nextLayerNm b).1 := by
  cases resolved : Setup.resolve sep.table (sep.exposure.select area) sep.geometry nextLayerNm with
  | error e => exact ⟨p, travels_of_refused roams stands resolved⟩
  | ok s =>
    have height := (Setup.resolved_of_eq_ok resolved).height
    have inside : BetweenStops p := by
      rcases stands with rfl | rfl
      · exact ⟨Int.le_trans (by decide) height.1, height.2⟩
      · exact betweenStops_zero
    cases tilt : s.tilt with
    | none => exact ⟨p, travels_of_no_tilt resolved roams inside stands tilt⟩
    | some moves =>
      by_cases low : p.toInt < moves.down.offsetSteps.toInt
      · exact travels_of_low resolved roams inside stands tilt low
      · exact travels_of_room resolved roams inside tilt (Int.not_lt.mp low)

theorem carryOutAnew_travels (layers : List Layer) (roams : b.tilt.Roams p)
    (stands : p = sep.geometry.heightSteps ∨ p = 0) :
    ∃ q, (sep.carryOutAnew Bench.machine layers b).2.tilt.Roams q ∧
      (q = sep.geometry.heightSteps ∨ q = 0) ∧
      ((∀ run ∈ (sep.carryOutAnew Bench.machine layers b).1, ∃ report, run.result = .ok report) →
        q = sep.geometry.heightSteps ∨ q = p) := by
  induction layers generalizing b p with
  | nil => exact ⟨p, roams, stands, fun _ => .inr rfl⟩
  | cons l layers ih =>
    obtain ⟨q, roams', travels⟩ := layer_travels l.area l.nextLayerNm roams stands
    obtain ⟨q', roams'', stands'', separated⟩ := ih roams' travels.stands
    simp only [carryOutAnew]
    refine ⟨q', roams'', stands'', fun all => ?_⟩
    obtain ⟨⟨report, first⟩, later⟩ := List.forall_mem_cons.mp all
    rcases separated later with top | rfl
    · exact .inl top
    · exact travels.separated report first

/-- Where the tilt stands before a layer, and what comes of it. It stands at the exposure position unless a
layer before was not carried out; then it may stand at the bottom stop. From there a layer whose way down
has a first move ends with that move out of bounds, unless it is cancelled before, and no layer ends out of
bounds in any other way. -/
theorem travel_law (table : MovingProfileTable) (exposure : ExposureProfile) (geometry : TiltGeometry)
    (b : Bench) (log : List Occurrence) (roams : b.tilt.Roams geometry.heightSteps)
    (before : List Layer) (l : Layer) :
    let earlier := (new table exposure geometry).carryOut Bench.machine before (b, log)
    let stands := earlier.2.2.1.tilt.position
    let result := (earlier.2.1.separateLayer Bench.machine.recorded l.area l.nextLayerNm earlier.2.2).1
    (stands = geometry.heightSteps ∨
      stands = 0 ∧ ∃ run ∈ earlier.1, ∀ report, run.result ≠ .ok report) ∧
    (∀ phase, result = .error (.axisCommandFailure .tilt phase .outOfBounds) →
      phase = .tiltDownInitial ∧ stands = 0 ∧ ∃ s moves,
        Setup.resolve table (exposure.select l.area) geometry l.nextLayerNm = .ok s ∧
        s.tilt = some moves ∧ 0 < moves.down.offsetSteps.toInt) ∧
    (∀ s moves, Setup.resolve table (exposure.select l.area) geometry l.nextLayerNm = .ok s →
      s.tilt = some moves → stands = 0 → 0 < moves.down.offsetSteps.toInt →
      result = .error (.axisCommandFailure .tilt .tiltDownInitial .outOfBounds) ∨
        ∃ phase, (phase = .settleAfterExposure ∨ phase = .tiltDownInitial) ∧
          result = .error (.cancelled phase)) := by
  have session : (new table exposure geometry).carryOut Bench.machine before (b, log) = _ :=
    carryOut_eq rfl before b log
  have top : geometry.heightSteps = (new table exposure geometry).geometry.heightSteps := rfl
  obtain ⟨q, roams', stands, separated⟩ := carryOutAnew_travels before roams (.inl top)
  obtain ⟨q', _, travels⟩ := layer_travels l.area l.nextLayerNm roams' stands
  dsimp only
  rw [session]
  dsimp only
  rw [separateLayer_behind, roams'.position]
  refine ⟨?_, ?_, ?_⟩
  · rcases stands with high | low
    · exact .inl high
    · by_cases all : ∀ run ∈ ((new table exposure geometry).carryOutAnew Bench.machine before b).1,
        ∃ report, run.result = .ok report
      · exact .inl ((separated all).elim id id)
      · simp only [not_forall, not_exists] at all
        obtain ⟨run, seen, failed⟩ := all
        exact .inr ⟨low, run, seen, failed⟩
  · intro phase out
    obtain ⟨first, s, moves, accepted, tilt, low⟩ := travels.outOfBounds phase out
    have room := ((Setup.resolved_of_eq_ok accepted).profiles moves tilt).1.travel
    rcases stands with high | zero
    · rw [high] at low
      exact absurd low (Int.not_lt.mpr room)
    · rw [zero] at low
      exact ⟨first, zero, s, moves, accepted, tilt, low⟩
  · intro s moves accepted tilt zero low
    apply travels.barred s moves accepted tilt
    rw [zero]
    exact low

/- The abort signal asks at its first reading and never again. -/
def stoppedBench : Bench where
  tilt := { position := 4928, bounds := some (0, 6016) }
  tower := { position := 0 }
  abort := fun n => n = 0

theorem travel_law_sample :
    stoppedBench.tilt.Roams 4928 ∧
    let earlier := sample.carryOut Bench.machine [⟨1, 50000⟩] (stoppedBench, [])
    let result := (earlier.2.1.separateLayer Bench.machine.recorded 1 50000 earlier.2.2).1
    earlier.2.2.1.tilt.position = 0 ∧
      (result = .error (.axisCommandFailure .tilt .tiltDownInitial .outOfBounds) ∨
        ∃ phase, (phase = .settleAfterExposure ∨ phase = .tiltDownInitial) ∧
          result = .error (.cancelled phase)) := by
  have roams : stoppedBench.tilt.Roams 4928 := ⟨⟨rfl, rfl⟩, rfl, nofun, nofun, rfl⟩
  have homed :
      (sample.carryOut Bench.machine [⟨1, 50000⟩] (stoppedBench, [])).2.2.1.tilt.position = 0 := by
    simp only [carryOut, separateLayer]
    cases sample.exposure.fillFor 1 with
    | below => decide +kernel
    | above => decide +kernel
  obtain ⟨_, _, barred⟩ := travel_law sample.table sample.exposure sample.geometry stoppedBench [] roams
    [⟨1, 50000⟩] ⟨1, 50000⟩
  exact ⟨roams, homed, barred _ _ (accepted_sample 1) rfl homed (by decide)⟩

theorem outOfBounds_after_cancelled :
    stoppedBench.tilt.Roams sample.geometry.heightSteps ∧
    (sample.carryOut Bench.machine [⟨1, 50000⟩, ⟨1, 50000⟩] (stoppedBench, [])).1.map LayerRun.result =
      [.error (.cancelled .settleAfterExposure),
        .error (.axisCommandFailure .tilt .tiltDownInitial .outOfBounds)] := by
  refine ⟨⟨⟨rfl, rfl⟩, rfl, nofun, nofun, rfl⟩, ?_⟩
  simp only [carryOut, separateLayer]
  cases sample.exposure.fillFor 1 with
  | below => decide +kernel
  | above => decide +kernel

end Separator
end LayerSeparation
