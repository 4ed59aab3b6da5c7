import LayerSeparation.Proofs.Admission

/-! The checks that come before a separation. They are one list of ranges, gone through in order: inputs are
accepted if every value lies in its range, and otherwise the first that does not is reported. What is turned down
reaches no driver. Profiles that the parameters do not refer to are not on the list. -/
namespace LayerSeparation

structure RangeCheck where
  field : String
  value : Int
  lo : Int
  hi : Int

namespace RangeCheck

def Holds (c : RangeCheck) : Prop := c.lo ≤ c.value ∧ c.value ≤ c.hi

instance (c : RangeCheck) : Decidable c.Holds := inferInstanceAs (Decidable (_ ∧ _))

def error (c : RangeCheck) : ProfileError := .outOfRange c.field c.value

def firstFailed (cs : List RangeCheck) : Option RangeCheck := cs.find? fun c => ¬ c.Holds

def verdict (cs : List RangeCheck) : Except ProfileError Unit :=
  match firstFailed cs with
  | some c => .error c.error
  | none => .ok ()

variable {c : RangeCheck} {cs ds : List RangeCheck} {e : ProfileError}

theorem firstFailed_eq_none_iff : firstFailed cs = none ↔ ∀ c ∈ cs, c.Holds := by
  simp [firstFailed]

theorem verdict_eq_error_iff : verdict cs = .error e ↔ ∃ c, firstFailed cs = some c ∧ e = c.error := by
  unfold verdict
  cases firstFailed cs with
  | none => simp
  | some c => simp [eq_comm]

theorem verdict_eq_ok_iff : verdict cs = .ok () ↔ ∀ c ∈ cs, c.Holds := by
  rw [← firstFailed_eq_none_iff, verdict]
  cases firstFailed cs <;> simp

theorem verdict_nil : verdict [] = pure () := rfl

theorem verdict_cons (c : RangeCheck) (cs : List RangeCheck) :
    verdict (c :: cs) = checkRange c.field c.value c.lo c.hi >>= fun _ => verdict cs := by
  unfold verdict firstFailed
  rw [List.find?_cons]
  by_cases holds : c.Holds
  · have passes : checkRange c.field c.value c.lo c.hi = .ok () := checkRange_eq_ok_iff.mpr holds
    rw [passes]
    simp only [holds, not_true_eq_false, decide_false]
    rfl
  · have fails : checkRange c.field c.value c.lo c.hi = .error c.error :=
      checkRange_eq_error_iff.mpr ⟨by unfold Holds at holds; omega, rfl⟩
    rw [fails]
    simp only [holds, not_false_eq_true, decide_true]
    rfl

theorem verdict_append (cs ds : List RangeCheck) : verdict (cs ++ ds) = verdict cs >>= fun _ => verdict ds := by
  induction cs with
  | nil => rfl
  | cons c cs ih => rw [List.cons_append, verdict_cons, verdict_cons, ih, bind_assoc]

end RangeCheck

open RangeCheck

/-- The second check of the first stretch is against the travel of the machine. -/
def MovingProfile.checks (p : MovingProfile) (g : TiltGeometry) : List RangeCheck :=
  [⟨"offset_steps", p.offsetSteps.toInt, 0, 10000⟩, ⟨"offset_delay_ms", p.offsetDelayMs.toNat, 0, 20000⟩,
    ⟨"cycles", p.cycles.toNat, 0, 10⟩, ⟨"delay_ms", p.delayMs.toNat, 0, 20000⟩,
    ⟨"offset_steps", p.offsetSteps.toInt, 0, g.heightSteps.toInt⟩]

theorem MovingProfile.validateFor_eq (p : MovingProfile) (g : TiltGeometry) :
    p.validateFor g = verdict (p.checks g) := by
  simp only [validateFor, validate, checks, verdict_cons, verdict_nil, bind_assoc, bind_pure_unit,
    maxOffsetSteps, maxPauseMs, maxCycles]

theorem MovingProfile.forall_mem_checks_iff (p : MovingProfile) (g : TiltGeometry) :
    (∀ c ∈ p.checks g, c.Holds) ↔ p.InTravel g := by
  rw [← verdict_eq_ok_iff, ← validateFor_eq, validateFor_eq_ok_iff]

def LayerParams.checks (p : LayerParams) : List RangeCheck :=
  [⟨"delay_before_exposure_ms", p.delayBeforeExposureMs.toNat, 0, 30000⟩,
    ⟨"delay_after_exposure_ms", p.delayAfterExposureMs.toNat, 0, 30000⟩,
    ⟨"tower_hop_height_nm", p.towerHopHeightNm.toNat, 0, 100000000⟩] ++
  p.tilt.toList.map fun sequence => ⟨"moves_time_ms", sequence.movesTimeMs.toNat, 0, 600000⟩

theorem LayerParams.validate_eq (p : LayerParams) : p.validate = verdict p.checks := by
  unfold validate checks
  rw [verdict_append]
  cases p.tilt with
  | none =>
    simp only [verdict_cons, verdict_nil, bind_assoc, maxSettleMs, maxHopNm]
    rfl
  | some sequence =>
    simp only [Option.toList_some, List.map_cons, List.map_nil, verdict_cons, verdict_nil, bind_assoc,
      bind_pure_unit, maxSettleMs, maxHopNm, maxMovesTimeMs]

theorem LayerParams.forall_mem_checks_iff (p : LayerParams) : (∀ c ∈ p.checks, c.Holds) ↔
    (p.delayBeforeExposureMs.toNat ≤ 30000 ∧ p.delayAfterExposureMs.toNat ≤ 30000 ∧
      p.towerHopHeightNm.toNat ≤ 100000000) ∧
    ∀ sequence, p.tilt = some sequence → sequence.movesTimeMs.toNat ≤ 600000 := by
  rw [checks, List.forall_mem_append, List.forall_mem_map]
  refine and_congr ?_ (forall_congr' fun sequence => ?_)
  · simp only [List.mem_cons, List.not_mem_nil, or_false, forall_eq_or_imp, forall_eq, Holds]
    omega
  · rw [Option.mem_toList]
    refine imp_congr_right fun _ => ?_
    simp only [Holds]
    omega

namespace Setup
variable {table : MovingProfileTable} {params : LayerParams} {geometry : TiltGeometry}
  {nextLayerNm : Int32} {e : ProfileError}

def checks (table : MovingProfileTable) (params : LayerParams) (geometry : TiltGeometry) : List RangeCheck :=
  ⟨"tilt_height_steps", geometry.heightSteps.toInt, 1, 6016⟩ :: (params.checks ++
    params.tilt.toList.flatMap fun sequence =>
      (table.moving sequence.tiltDown).checks geometry ++ (table.moving sequence.tiltUp).checks geometry)

def made (table : MovingProfileTable) (params : LayerParams) (geometry : TiltGeometry)
    (nextLayerNm : Int32) : Setup where
  params
  tilt := params.tilt.map fun sequence => ⟨table.moving sequence.tiltDown, table.moving sequence.tiltUp⟩
  geometry
  nextLayerNm
  hopNm := Int32.ofInt params.towerHopHeightNm.toNat

theorem resolveTilt_eq (table : MovingProfileTable) (geometry : TiltGeometry) (tilt : Option TiltSequence) :
    resolveTilt table geometry tilt =
      verdict (tilt.toList.flatMap fun sequence =>
        (table.moving sequence.tiltDown).checks geometry ++ (table.moving sequence.tiltUp).checks geometry)
      >>= fun _ => .ok (tilt.map fun sequence =>
        ⟨table.moving sequence.tiltDown, table.moving sequence.tiltUp⟩) := by
  cases tilt with
  | none => rfl
  | some sequence =>
    rw [Option.toList_some, List.flatMap_singleton, verdict_append, ← MovingProfile.validateFor_eq,
      ← MovingProfile.validateFor_eq, bind_assoc]
    simp only [resolveTilt, profileFor_tilt]
    rfl

/-- To resolve is to go through the checks. A hop that is in range is a word. -/
theorem resolve_eq (table : MovingProfileTable) (params : LayerParams) (geometry : TiltGeometry)
    (nextLayerNm : Int32) : resolve table params geometry nextLayerNm =
      verdict (checks table params geometry) >>= fun _ => .ok (made table params geometry nextLayerNm) := by
  have height : geometry.validate = checkRange "tilt_height_steps" geometry.heightSteps.toInt 1 6016 := rfl
  rw [checks, verdict_cons, verdict_append, ← LayerParams.validate_eq, ← height, bind_assoc, bind_assoc]
  cases ranges : params.validate with
  | error e =>
    have stops {β : Type} (f : Unit → Except ProfileError β) : (.error e >>= f) = .error e := rfl
    unfold resolve
    rw [ranges]
    exact bind_congr fun _ => (stops _).trans (stops _).symm
  | ok u =>
    have near := hop_of_validate ranges
    have word : Width.int32? params.towerHopHeightNm.toNat = some (Int32.ofInt params.towerHopHeightNm.toNat) :=
      if_pos (by omega)
    unfold made
    generalize Int32.ofInt params.towerHopHeightNm.toNat = hopNm at word
    unfold resolve
    rw [ranges, word, resolveTilt_eq]
    cases geometry.validate with
    | error e => rfl
    | ok u =>
      generalize verdict (params.tilt.toList.flatMap _) = tilt
      cases tilt <;> rfl

def SameReferred (table table' : MovingProfileTable) (params : LayerParams) : Prop :=
  ∀ sequence, params.tilt = some sequence →
    table'.moving sequence.tiltDown = table.moving sequence.tiltDown ∧
      table'.moving sequence.tiltUp = table.moving sequence.tiltUp

theorem checks_congr {table' : MovingProfileTable} (alike : SameReferred table table' params) :
    checks table' params geometry = checks table params geometry := by
  unfold checks
  cases tilt : params.tilt with
  | none => rw [Option.toList_none, List.flatMap_nil, List.flatMap_nil]
  | some sequence =>
    obtain ⟨down, up⟩ := alike sequence tilt
    rw [Option.toList_some, List.flatMap_singleton, List.flatMap_singleton, down, up]

theorem made_congr {table' : MovingProfileTable} (alike : SameReferred table table' params) :
    made table' params geometry nextLayerNm = made table params geometry nextLayerNm := by
  unfold made
  cases tilt : params.tilt with
  | none => rw [Option.map_none, Option.map_none]
  | some sequence =>
    obtain ⟨down, up⟩ := alike sequence tilt
    rw [Option.map_some, Option.map_some, down, up]

structure Acceptable (table : MovingProfileTable) (params : LayerParams) (geometry : TiltGeometry) : Prop where
  height : 1 ≤ geometry.heightSteps.toInt ∧ geometry.heightSteps.toInt ≤ 6016
  before : params.delayBeforeExposureMs.toNat ≤ 30000
  after : params.delayAfterExposureMs.toNat ≤ 30000
  hop : params.towerHopHeightNm.toNat ≤ 100000000
  movesTime : ∀ sequence, params.tilt = some sequence → sequence.movesTimeMs.toNat ≤ 600000
  profiles : ∀ sequence, params.tilt = some sequence →
    (table.moving sequence.tiltDown).InTravel geometry ∧ (table.moving sequence.tiltUp).InTravel geometry

theorem acceptable_iff : Acceptable table params geometry ↔ ∀ c ∈ checks table params geometry, c.Holds := by
  have params_iff := params.forall_mem_checks_iff
  have profile_iff := fun id => (table.moving id).forall_mem_checks_iff geometry
  have height_iff : Holds ⟨"tilt_height_steps", geometry.heightSteps.toInt, 1, 6016⟩ ↔
      1 ≤ geometry.heightSteps.toInt ∧ geometry.heightSteps.toInt ≤ 6016 := Iff.rfl
  rw [checks, List.forall_mem_cons, List.forall_mem_append, List.forall_mem_flatMap, height_iff, params_iff]
  simp only [List.forall_mem_append, profile_iff, Option.mem_toList]
  constructor
  · rintro ⟨height, before, after, hop, movesTime, profiles⟩
    exact ⟨height, ⟨⟨before, after, hop⟩, movesTime⟩, profiles⟩
  · rintro ⟨height, ⟨⟨before, after, hop⟩, movesTime⟩, profiles⟩
    exact ⟨height, before, after, hop, movesTime, profiles⟩

structure Validation (table : MovingProfileTable) (params : LayerParams) (geometry : TiltGeometry)
    (nextLayerNm : Int32) : Prop where
  accepted_iff : (∃ s, resolve table params geometry nextLayerNm = .ok s) ↔ Acceptable table params geometry
  refused_iff : ∀ e, resolve table params geometry nextLayerNm = .error e ↔
    ∃ c, firstFailed (checks table params geometry) = some c ∧ e = .outOfRange c.field c.value
  unreferenced : ∀ table', SameReferred table table' params →
      resolve table' params geometry nextLayerNm = resolve table params geometry nextLayerNm
  /-- A layer that is turned down leaves all as it was. Nothing is asked of the machine but the time. -/
  untouched : ∀ (σ : Type) (m : Machine σ) (world : σ) (exposure : ExposureProfile) (area : Float32)
    (phase : Phase) e, exposure.select area = params →
      resolve table params geometry nextLayerNm = .error e →
        let sep : Separator := ⟨table, exposure, geometry, phase⟩
        sep.separateLayer m area nextLayerNm world = (.error (.invalidProfile e), sep, (m.now world).2) ∧
          (SeparationError.invalidProfile e).phase = .idle ∧ sep.occurrences m area nextLayerNm world = []

/-- Validation, for all inputs and every machine. -/
theorem validation (table : MovingProfileTable) (params : LayerParams) (geometry : TiltGeometry)
    (nextLayerNm : Int32) : Validation table params geometry nextLayerNm := by
  have refused_iff : ∀ e, resolve table params geometry nextLayerNm = .error e ↔
      ∃ c, firstFailed (checks table params geometry) = some c ∧ e = .outOfRange c.field c.value := by
    intro e
    rw [resolve_eq, bind_eq_error_iff, verdict_eq_error_iff]
    simp only [reduceCtorEq, and_false, exists_false, or_false]
    rfl
  constructor
  · rw [acceptable_iff, ← verdict_eq_ok_iff, resolve_eq]
    constructor
    · rintro ⟨s, accepted⟩
      exact (bind_eq_ok_iff.mp accepted).elim fun _ h => h.1
    · intro passed
      exact ⟨_, bind_eq_ok_iff.mpr ⟨(), passed, rfl⟩⟩
  · exact refused_iff
  · intro table' alike
    rw [resolve_eq, resolve_eq, checks_congr alike, made_congr alike]
  · rintro σ m world exposure area phase e rfl refused
    obtain ⟨c, -, rfl⟩ := (refused_iff e).mp refused
    have inputs : resolve (Separator.mk table exposure geometry phase).table
        ((Separator.mk table exposure geometry phase).exposure.select area)
        (Separator.mk table exposure geometry phase).geometry nextLayerNm = .error c.error := refused
    exact ⟨Separator.separateLayer_refused inputs, rfl, (Separator.separateLayer_of_error inputs).2⟩

/- The sample, and what is reported if it is for a tilt that does not rise and has a settle time too long. -/
theorem validation_sample :
    Acceptable .factory sampleParams .factory ∧
      resolve .factory { sampleParams with delayBeforeExposureMs := 30001 } ⟨0⟩ 50000 =
        .error (.outOfRange "tilt_height_steps" 0) := by
  constructor
  · exact (validation _ _ _ 50000).accepted_iff.mp ⟨sample, resolve_sample⟩
  · exact ((validation _ _ _ _).refused_iff _).mpr ⟨_, rfl, rfl⟩

end Setup
end LayerSeparation
