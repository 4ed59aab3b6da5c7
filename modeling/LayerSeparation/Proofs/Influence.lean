import LayerSeparation.Proofs.InPlace
import LayerSeparation.Proofs.Outcome

/-! What a layer depends on. Of the configuration it reads one parameter set, the moving profiles which that
set refers to, and with a tilt the geometry; the expected duration of the tilt moves is reported and has no
other use. Two separators that agree in this much carry out a layer in the same way on every machine. -/
namespace LayerSeparation
variable {σ : Type}

def TiltSequence.unadvised (s : TiltSequence) : TiltSequence := { s with movesTimeMs := 0 }

namespace LayerParams

def unadvised (p : LayerParams) : LayerParams := { p with tilt := p.tilt.map TiltSequence.unadvised }

def AdviceInRange (p : LayerParams) : Prop :=
  ∀ sequence ∈ p.tilt, sequence.movesTimeMs.toNat ≤ 600000

instance (p : LayerParams) : Decidable p.AdviceInRange :=
  inferInstanceAs (Decidable (∀ sequence ∈ p.tilt, sequence.movesTimeMs.toNat ≤ 600000))

theorem validate_unadvised {p : LayerParams} (h : p.AdviceInRange) :
    p.unadvised.validate = p.validate := by
  unfold validate unadvised
  dsimp only
  cases hs : p.tilt with
  | none => rfl
  | some sequence =>
    have advised : checkRange "moves_time_ms" sequence.movesTimeMs.toNat 0 maxMovesTimeMs = .ok () :=
      checkRange_eq_ok_iff.mpr ⟨Int.natCast_nonneg _, Int.ofNat_le.mpr (h sequence hs)⟩
    simp only [Option.map_some, advised]
    rfl

theorem validate_eq_of_unadvised {p p' : LayerParams} (h : p.AdviceInRange) (h' : p'.AdviceInRange)
    (same : p.unadvised = p'.unadvised) : p.validate = p'.validate := by
  rw [← validate_unadvised h, ← validate_unadvised h', same]

end LayerParams

def SeparationReport.unadvised (r : SeparationReport) : SeparationReport := { r with movesTimeMs := 0 }

namespace Setup

/-- Two setups that differ at most in what a separation does not read. -/
structure Alike (s s' : Setup) : Prop where
  params : s.params.unadvised = s'.params.unadvised
  tilt : s.tilt = s'.tilt
  geometry : s.tilt ≠ none → s.geometry = s'.geometry
  next : s.nextLayerNm = s'.nextLayerNm
  hop : s.hopNm = s'.hopNm

namespace Alike
variable {s s' : Setup}

theorem hops_eq (h : s.Alike s') : s.hops = s'.hops := by
  unfold hops
  rw [h.hop]

theorem separation_eq (h : s.Alike s') : Script.separation s = Script.separation s' := by
  have before : s.params.delayBeforeExposureMs = s'.params.delayBeforeExposureMs :=
    (congrArg LayerParams.delayBeforeExposureMs h.params :)
  have after : s.params.delayAfterExposureMs = s'.params.delayAfterExposureMs :=
    (congrArg LayerParams.delayAfterExposureMs h.params :)
  have curve : s.params.towerCurve = s'.params.towerCurve :=
    (congrArg LayerParams.towerCurve h.params :)
  unfold Script.separation Script.towerRaise Script.towerLower
  rw [before, after, curve, h.hops_eq, h.next, h.hop]
  cases hs : s.tilt with
  | none => rw [← h.tilt, hs]
  | some moves => rw [← h.tilt, hs, h.geometry (by rw [hs]; nofun)]

theorem makeSafe_eq (h : s.Alike s') (m : Machine σ) : s.makeSafe m = s'.makeSafe m := by
  funext w
  unfold makeSafe
  rw [h.tilt]

end Alike

inductive Agree : Except ProfileError Setup → Except ProfileError Setup → Prop where
  | error (e : ProfileError) : Agree (.error e) (.error e)
  | ok {s s' : Setup} (alike : s.Alike s') : Agree (.ok s) (.ok s')

end Setup

/-- Two configurations that a layer cannot tell apart. -/
structure Separator.Interchangeable (sep sep' : Separator) (area area' : Float32) : Prop where
  phase : sep.phase = sep'.phase
  fill : sep.exposure.fillFor area = sep'.exposure.fillFor area'
  params : (sep.exposure.select area).unadvised = (sep'.exposure.select area').unadvised
  advice : (sep.exposure.select area).AdviceInRange ∧ (sep'.exposure.select area').AdviceInRange
  profiles : ∀ sequence ∈ (sep.exposure.select area).tilt,
    sep.table.moving sequence.tiltDown = sep'.table.moving sequence.tiltDown ∧
      sep.table.moving sequence.tiltUp = sep'.table.moving sequence.tiltUp
  /-- Without a tilt it is enough that both geometries are in range. -/
  geometry : sep.geometry = sep'.geometry ∨ (sep.exposure.select area).tilt = none ∧
    sep.geometry.validate = .ok () ∧ sep'.geometry.validate = .ok ()

namespace Setup
variable {table table' : MovingProfileTable} {geometry geometry' : TiltGeometry} {p p' : LayerParams}

theorem resolveTilt_congr (params : p.unadvised = p'.unadvised)
    (profiles : ∀ sequence ∈ p.tilt,
      table.moving sequence.tiltDown = table'.moving sequence.tiltDown ∧
        table.moving sequence.tiltUp = table'.moving sequence.tiltUp)
    (travel : p.tilt ≠ none → geometry = geometry') :
    resolveTilt table geometry p.tilt = resolveTilt table' geometry' p'.tilt := by
  have tilt : p.tilt.map TiltSequence.unadvised = p'.tilt.map TiltSequence.unadvised :=
    (congrArg LayerParams.tilt params :)
  cases hs : p.tilt with
  | none =>
    rw [hs, Option.map_none, eq_comm, Option.map_eq_none_iff] at tilt
    rw [tilt]
    rfl
  | some sequence =>
    rw [hs, Option.map_some, eq_comm, Option.map_eq_some_iff] at tilt
    obtain ⟨sequence', hs', same⟩ := tilt
    have down : sequence'.tiltDown = sequence.tiltDown := (congrArg TiltSequence.tiltDown same :)
    have up : sequence'.tiltUp = sequence.tiltUp := (congrArg TiltSequence.tiltUp same :)
    obtain ⟨down_eq, up_eq⟩ := profiles sequence hs
    have used : p.tilt ≠ none := Option.ne_none_iff_exists'.mpr ⟨sequence, hs⟩
    rw [hs']
    simp only [resolveTilt, profileFor_tilt, down, up, down_eq, up_eq, travel used]

theorem resolve_agree (params : p.unadvised = p'.unadvised) (ranges : p.validate = p'.validate)
    (height : geometry.validate = geometry'.validate)
    (tilt : resolveTilt table geometry p.tilt = resolveTilt table' geometry' p'.tilt)
    (travel : p.tilt ≠ none → geometry = geometry') (nextLayerNm : Int32) :
    Agree (resolve table p geometry nextLayerNm) (resolve table' p' geometry' nextLayerNm) := by
  have hop : p.towerHopHeightNm = p'.towerHopHeightNm :=
    (congrArg LayerParams.towerHopHeightNm params :)
  unfold resolve
  rw [height, ranges, hop, tilt]
  cases geometry'.validate with
  | error e => exact .error e
  | ok =>
    cases p'.validate with
    | error e => exact .error e
    | ok =>
      cases Width.int32? p'.towerHopHeightNm.toNat with
      | none => exact .error _
      | some hopNm =>
        cases resolved : resolveTilt table' geometry' p'.tilt with
        | error e => exact .error e
        | ok moves =>
          refine .ok ⟨params, rfl, fun used => travel fun none => used ?_, rfl, rfl⟩
          rw [resolved, none] at tilt
          exact (Except.ok.inj tilt).symm

end Setup

namespace Separator
variable {sep sep' : Separator} {area area' : Float32}

theorem Interchangeable.resolve (h : sep.Interchangeable sep' area area') (nextLayerNm : Int32) :
    Setup.Agree
      (Setup.resolve sep.table (sep.exposure.select area) sep.geometry nextLayerNm)
      (Setup.resolve sep'.table (sep'.exposure.select area') sep'.geometry nextLayerNm) := by
  have ranges := LayerParams.validate_eq_of_unadvised h.advice.1 h.advice.2 h.params
  have height : sep.geometry.validate = sep'.geometry.validate := by
    rcases h.geometry with same | ⟨_, valid, valid'⟩
    · rw [same]
    · rw [valid, valid']
  have travel : (sep.exposure.select area).tilt ≠ none → sep.geometry = sep'.geometry := fun used =>
    h.geometry.resolve_right fun unused => used unused.1
  exact Setup.resolve_agree h.params ranges height (Setup.resolveTilt_congr h.params h.profiles travel)
    travel nextLayerNm

theorem Interchangeable.separateLayer (h : sep.Interchangeable sep' area area') (m : Machine σ)
    (nextLayerNm : Int32) (world : σ) :
    let layer := sep.separateLayer m area nextLayerNm world
    let layer' := sep'.separateLayer m area' nextLayerNm world
    layer.1.map SeparationReport.unadvised = layer'.1.map SeparationReport.unadvised ∧
      layer.2.1.phase = layer'.2.1.phase ∧ layer.2.2 = layer'.2.2 := by
  have agree := h.resolve nextLayerNm
  unfold ExposureProfile.select at agree
  generalize resolved : Setup.resolve sep.table (sep.exposure.params (sep.exposure.fillFor area))
    sep.geometry nextLayerNm = result at agree
  generalize resolved' : Setup.resolve sep'.table (sep'.exposure.params (sep'.exposure.fillFor area'))
    sep'.geometry nextLayerNm = result' at agree
  cases agree with
  | error e =>
    simp only [Separator.separateLayer, resolved, resolved']
    exact ⟨trivial, h.phase, trivial⟩
  | @ok s s' alike =>
    simp only [Separator.separateLayer, resolved, resolved', alike.separation_eq, alike.makeSafe_eq, h.phase]
    cases ((Script.separation s').execute m (s'.makeSafe m) ⟨sep'.phase, 0, (m.now world).2⟩).1 with
    | error e => exact ⟨rfl, rfl, rfl⟩
    | ok done =>
      refine ⟨?_, rfl, rfl⟩
      simp only [Except.map, SeparationReport.unadvised, h.fill, alike.hops_eq]

end Separator

/-- What neither the abort signal, nor a command of the script, nor the way to a safe position can break
holds at the end of an execution, however it ends. -/
theorem Script.execute_preserves {m : Machine σ} {makeSafe : σ → σ} {I : σ → Prop} {t : Script}
    {e : Execution σ} (polls : ∀ w, I w → I (m.abortRequested w).2)
    (steps : t.Within fun _ c => ∀ w, I w → I (m.perform c w).2) (safely : ∀ w, I w → I (makeSafe w))
    (start : I e.world) : I (t.execute m makeSafe e).2.world := by
  induction t generalizing e with
  | done => exact start
  | fail error => exact start
  | recovered rest ih => exact ih (e := { e with recoveries := e.recoveries + 1 }) steps start
  | ask phase c next ih =>
    obtain ⟨sent, later⟩ := steps
    have entered : I (m.poll e.phase phase e.world).2 := by
      unfold Machine.poll
      split
      · exact start
      · exact polls _ start
    rw [execute, Execution.enter_eq]
    cases hp : m.poll e.phase phase e.world with
    | mk asked polled =>
      rw [hp] at entered
      cases asked with
      | true => exact safely _ entered
      | false =>
        have performed := sent polled entered
        cases hc : m.perform c polled with
        | mk answer world =>
          rw [hc] at performed
          cases answer with
          | error error =>
            simp only [hc]
            exact performed
          | ok a =>
            simp only [hc]
            exact ih a (e := ⟨phase, e.recoveries, world⟩) (later a) performed

def Occurrence.Spares (axis : Axis) : Occurrence → Prop
  | .sent c _ => c.axis ≠ some axis
  | .polled _ => True

namespace Separator
variable {sep sep' : Separator} {area area' : Float32}

/-- Without a tilt in the parameter set no call goes to the tilt, not even when the layer is cancelled. -/
theorem spares_of_no_tilt (unused : (sep.exposure.select area).tilt = none) (m : Machine σ)
    (nextLayerNm : Int32) (world : σ) :
    ∀ o ∈ sep.occurrences m area nextLayerNm world, o.Spares .tilt := by
  cases accepted : Setup.resolve sep.table (sep.exposure.select area) sep.geometry nextLayerNm with
  | error e =>
    rw [(separateLayer_of_error accepted).2]
    exact List.forall_mem_nil _
  | ok s =>
    have none : s.tilt = none := by
      rw [(Setup.resolved_of_eq_ok accepted).tilt_eq, unused]
      rfl
    have one {o : Occurrence} {w : σ × List Occurrence} (kept : ∀ o ∈ w.2, o.Spares .tilt)
        (spared : o.Spares .tilt) : ∀ o' ∈ w.2 ++ [o], o'.Spares .tilt :=
      List.forall_mem_append.mpr ⟨kept, List.forall_mem_singleton.mpr spared⟩
    have steps : (Script.separation s).Within fun _ c => ∀ w : σ × List Occurrence,
        (∀ o ∈ w.2, o.Spares .tilt) → ∀ o ∈ (m.recorded.perform c w).2.2, o.Spares .tilt := by
      refine (Script.within_of_no_tilt none).mono fun _ c spared w kept => ?_
      rw [Machine.perform_recorded]
      exact one kept spared.2
    have safely : ∀ w : σ × List Occurrence, (∀ o ∈ w.2, o.Spares .tilt) →
        ∀ o ∈ (s.makeSafe m.recorded w).2, o.Spares .tilt := by
      intro w kept
      unfold Setup.makeSafe
      rw [none]
      exact kept
    rw [occurrences_of_ran m world accepted]
    exact Script.execute_preserves (I := fun w : σ × List Occurrence => ∀ o ∈ w.2, o.Spares .tilt)
      (fun _ kept => one kept trivial) steps safely (List.forall_mem_nil _)

/-- The rest of the configuration has no part in a layer. Curves, moving profiles that the selected set does
not refer to, the threshold, the set that is not selected and the expected duration may be anything that
leaves the layer with the same choice, and without a tilt so may the table and the geometry, if that is in
range. On every machine the calls, the waits, the readings of the abort signal and the errors are the
same. -/
theorem layer_of_interchangeable (same : sep.Interchangeable sep' area area') (m : Machine σ)
    (nextLayerNm : Int32) (world : σ) :
    let layer := sep.separateLayer m area nextLayerNm world
    let layer' := sep'.separateLayer m area' nextLayerNm world
    sep.occurrences m area nextLayerNm world = sep'.occurrences m area' nextLayerNm world ∧
      layer.1.map SeparationReport.unadvised = layer'.1.map SeparationReport.unadvised ∧
      layer.2.1.phase = layer'.2.1.phase ∧ layer.2.2 = layer'.2.2 ∧
      ((sep.exposure.select area).tilt = none →
        ∀ o ∈ sep.occurrences m area nextLayerNm world, o.Spares .tilt) := by
  obtain ⟨result, phase, left⟩ := same.separateLayer m nextLayerNm world
  obtain ⟨_, _, recorded⟩ := same.separateLayer m.recorded nextLayerNm (world, [])
  exact ⟨congrArg Prod.snd recorded, result, phase, left,
    fun unused => spares_of_no_tilt unused m nextLayerNm world⟩

/-- The sample with other curves, another moving profile and another parameter set for small layers, both
out of range, another threshold and another duration. -/
def alteredSample : Separator where
  table := ⟨⟨fun _ => { current := 20 }⟩, .unset, fun id =>
    if id = .tiltUpSmallFill then { id.factoryProfile with offsetSteps := -1 } else id.factoryProfile⟩
  exposure := ⟨0.5, { Setup.sampleParams with delayAfterExposureMs := 40000 },
    { Setup.sampleParams with tilt := some ⟨.tiltDownLargeFill, .tiltUpLargeFill, 7⟩ }⟩

def towerSample : Separator where
  table := .factory
  exposure := ⟨0, Setup.sampleParams, { Setup.sampleParams with tilt := none }⟩

def alteredTowerSample : Separator :=
  { towerSample with table := alteredSample.table, geometry := ⟨1⟩ }

theorem layer_of_interchangeable_samples :
    alteredSample.exposure.below.validate = .error (.outOfRange "delay_after_exposure_ms" 40000) ∧
      sample.occurrences Bench.machine 1 50000 stuckBench =
        alteredSample.occurrences Bench.machine 2 50000 stuckBench ∧
      towerSample.occurrences Bench.machine 1 50000 stuckBench =
        alteredTowerSample.occurrences Bench.machine 1 50000 stuckBench ∧
      ∀ o ∈ towerSample.occurrences Bench.machine 1 50000 stuckBench, o.Spares .tilt := by
  have altered : sample.Interchangeable alteredSample 1 2 := by
    constructor
    case phase => rfl
    case geometry => exact .inl rfl
    all_goals decide +kernel
  have tower : towerSample.Interchangeable alteredTowerSample 1 1 := by
    constructor
    case phase => rfl
    case geometry => exact .inr ⟨by decide +kernel, rfl, rfl⟩
    all_goals decide +kernel
  obtain ⟨calls, _⟩ := layer_of_interchangeable altered Bench.machine 50000 stuckBench
  obtain ⟨towerCalls, _, _, _, spared⟩ := layer_of_interchangeable tower Bench.machine 50000 stuckBench
  exact ⟨rfl, calls, towerCalls, spared (by decide +kernel)⟩

end Separator
end LayerSeparation
