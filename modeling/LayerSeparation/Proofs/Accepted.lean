import LayerSeparation.Separation.Separator

/-! What holds of a setup that was accepted: it is made of the inputs it was resolved from, and every
value of it is in range. Profiles that the sequence does not refer to are not looked at. -/
namespace LayerSeparation

theorem bind_eq_ok_iff {ε α β : Type} {x : Except ε α} {f : α → Except ε β} {b : β} :
    x >>= f = .ok b ↔ ∃ a, x = .ok a ∧ f a = .ok b := by
  cases x with
  | error e => exact ⟨nofun, fun ⟨_, h, _⟩ => nomatch h⟩
  | ok a => exact ⟨fun h => ⟨a, rfl, h⟩, fun ⟨_, h, h'⟩ => by cases h; exact h'⟩

theorem bind_eq_error_iff {ε α β : Type} {x : Except ε α} {f : α → Except ε β} {e : ε} :
    x >>= f = .error e ↔ x = .error e ∨ ∃ a, x = .ok a ∧ f a = .error e := by
  cases x with
  | error e' =>
    constructor
    · exact fun h => .inl (congrArg _ (Except.error.inj h))
    · rintro (h | ⟨_, h, _⟩)
      · exact congrArg _ (Except.error.inj h)
      · cases h
  | ok a =>
    constructor
    · exact fun h => .inr ⟨a, rfl, h⟩
    · rintro (h | ⟨_, h, h'⟩)
      · cases h
      · cases h
        exact h'

theorem exists_ok_of_any {ε α : Type} {x : Except ε α} {P : α → Prop} [DecidablePred P]
    (h : x.toOption.any (fun a => decide (P a)) = true) : ∃ a, x = .ok a ∧ P a := by
  cases x with
  | error e => cases h
  | ok a => exact ⟨a, rfl, of_decide_eq_true h⟩

theorem isOk_iff {ε α : Type} {x : Except ε α} : x.isOk = true ↔ ∃ a, x = .ok a := by
  cases x with
  | error e => exact ⟨nofun, nofun⟩
  | ok a => exact ⟨fun _ => ⟨a, rfl⟩, fun _ => rfl⟩

theorem checkRange_eq_ok_iff {field : String} {value lo hi : Int} {u : Unit} :
    checkRange field value lo hi = .ok u ↔ lo ≤ value ∧ value ≤ hi := by
  unfold checkRange
  split
  · constructor
    · nofun
    · omega
  · constructor
    · omega
    · exact fun _ => rfl

theorem checkRange_eq_error_iff {field : String} {value lo hi : Int} {e : ProfileError} :
    checkRange field value lo hi = .error e ↔
      (value < lo ∨ hi < value) ∧ e = .outOfRange field value := by
  unfold checkRange
  split
  · next out => simp [out, eq_comm]
  · next within => simp [within]

structure MovingProfile.InTravel (p : MovingProfile) (g : TiltGeometry) : Prop where
  offset : 0 ≤ p.offsetSteps.toInt ∧ p.offsetSteps.toInt ≤ 10000
  travel : p.offsetSteps.toInt ≤ g.heightSteps.toInt
  offsetDelay : p.offsetDelayMs.toNat ≤ 20000
  cycles : p.cycles.toNat ≤ 10
  delay : p.delayMs.toNat ≤ 20000

theorem MovingProfile.validateFor_eq_ok_iff {p : MovingProfile} {g : TiltGeometry} {u : Unit} :
    p.validateFor g = .ok u ↔ p.InTravel g := by
  unfold validateFor validate
  simp only [bind_eq_ok_iff, checkRange_eq_ok_iff, maxOffsetSteps, maxPauseMs, maxCycles]
  constructor
  · rintro ⟨_, ⟨_, ho, _, hd, _, hc, hp⟩, ht⟩
    exact ⟨ho, ht.2, by omega, by omega, by omega⟩
  · rintro ⟨ho, ht, hd, hc, hp⟩
    exact ⟨(), ⟨(), ho, (), ⟨by omega, by omega⟩, (), ⟨by omega, by omega⟩, by omega, by omega⟩,
      ho.1, ht⟩

theorem LayerParams.settle_of_validate {p : LayerParams} {u : Unit} (h : p.validate = .ok u) :
    p.delayBeforeExposureMs.toNat ≤ 30000 ∧ p.delayAfterExposureMs.toNat ≤ 30000 := by
  simp only [validate, bind_eq_ok_iff, checkRange_eq_ok_iff, maxSettleMs] at h
  obtain ⟨_, before, _, after, _⟩ := h
  omega

theorem profileFor_tilt (table : MovingProfileTable) (id : MovingProfileId) :
    table.profileFor .tilt id = .ok (table.moving id) := if_pos rfl

namespace Setup

structure Resolved (table : MovingProfileTable) (params : LayerParams) (geometry : TiltGeometry)
    (nextLayerNm : Int32) (s : Setup) : Prop where
  params_eq : s.params = params
  geometry_eq : s.geometry = geometry
  next_eq : s.nextLayerNm = nextLayerNm
  tilt_eq : s.tilt = params.tilt.map fun sequence =>
    ⟨table.moving sequence.tiltDown, table.moving sequence.tiltUp⟩
  height : 1 ≤ geometry.heightSteps.toInt ∧ geometry.heightSteps.toInt ≤ 6016
  hop : s.hopNm.toInt = params.towerHopHeightNm.toNat
  before : params.delayBeforeExposureMs.toNat ≤ 30000
  after : params.delayAfterExposureMs.toNat ≤ 30000
  profiles : ∀ moves, s.tilt = some moves → moves.down.InTravel geometry ∧ moves.up.InTravel geometry

theorem resolveTilt_eq_ok {table : MovingProfileTable} {geometry : TiltGeometry}
    {sequence : Option TiltSequence} {tilt : Option TiltMoves}
    (h : resolveTilt table geometry sequence = .ok tilt) :
    tilt = sequence.map (fun sequence =>
      ⟨table.moving sequence.tiltDown, table.moving sequence.tiltUp⟩) ∧
    ∀ moves, tilt = some moves → moves.down.InTravel geometry ∧ moves.up.InTravel geometry := by
  cases sequence with
  | none =>
    simp only [resolveTilt, Except.ok.injEq] at h
    subst h
    refine ⟨rfl, ?_⟩
    intro moves hm
    exact absurd hm (Option.some_ne_none _).symm
  | some sequence =>
    simp only [resolveTilt, profileFor_tilt, bind_eq_ok_iff, MovingProfile.validateFor_eq_ok_iff,
      Except.ok.injEq, exists_eq_left'] at h
    obtain ⟨_, down_ok, _, up_ok, h⟩ := h
    simp only [pure, Except.pure, Except.ok.injEq] at h
    subst h
    refine ⟨rfl, ?_⟩
    intro moves hm
    simp only [Option.some.injEq] at hm
    subst hm
    exact ⟨down_ok, up_ok⟩

theorem resolved_of_eq_ok {table : MovingProfileTable} {params : LayerParams}
    {geometry : TiltGeometry} {nextLayerNm : Int32} {s : Setup}
    (h : resolve table params geometry nextLayerNm = .ok s) :
    Resolved table params geometry nextLayerNm s := by
  unfold resolve at h
  obtain ⟨_, height, h⟩ := bind_eq_ok_iff.mp h
  obtain ⟨_, params_ok, h⟩ := bind_eq_ok_iff.mp h
  obtain ⟨before, after⟩ := LayerParams.settle_of_validate params_ok
  cases hw : Width.int32? params.towerHopHeightNm.toNat with
  | none => simp only [hw, bind_eq_ok_iff, reduceCtorEq, false_and, exists_false] at h
  | some hop =>
    simp only [hw, bind_eq_ok_iff, pure, Except.pure, Except.ok.injEq, exists_eq_left'] at h
    obtain ⟨tilt, htilt, h⟩ := h
    subst h
    obtain ⟨tilt_eq, profiles⟩ := resolveTilt_eq_ok htilt
    exact ⟨rfl, rfl, rfl, tilt_eq, checkRange_eq_ok_iff.mp height,
      Width.int32?_eq_some_iff.mp hw, before, after, profiles⟩

/- A setup in which nothing is left out: tilt, hop and both settle times. -/
def sampleParams : LayerParams :=
  ⟨1000, 2000, 5000000, .layer, some ⟨.tiltDownLargeFill, .tiltUpLargeFill, 5000⟩⟩

def sample : Setup where
  params := sampleParams
  tilt := some ⟨MovingProfileId.tiltDownLargeFill.factoryProfile,
    MovingProfileId.tiltUpLargeFill.factoryProfile⟩
  geometry := .factory
  nextLayerNm := 50000
  hopNm := 5000000

theorem resolve_sample : resolve .factory sampleParams .factory 50000 = .ok sample := rfl

end Setup

namespace Separator

/- The same parameters for every area. -/
def sample : Separator where
  table := .factory
  exposure := ⟨0, Setup.sampleParams, Setup.sampleParams⟩

theorem select_sample (area : Float32) : sample.exposure.select area = Setup.sampleParams := by
  unfold ExposureProfile.select
  cases sample.exposure.fillFor area <;> rfl

theorem accepted_sample (area : Float32) :
    Setup.resolve sample.table (sample.exposure.select area) sample.geometry 50000 = .ok .sample := by
  rw [select_sample]
  exact Setup.resolve_sample

end Separator
end LayerSeparation
