import LayerSeparation.Proofs.Outcome

/-! Layers one after another. A separator that carries out layer after layer does with each of them what a
new separator would do with the machine as it was left, whatever became of the layers before. -/
namespace LayerSeparation
variable {σ : Type}

structure Layer where
  area : Float32
  nextLayerNm : Int32

/-- What shows of a layer: the phase of the separator before and after it, the result, and the commands
and readings of the abort signal with what they were answered. -/
structure LayerRun where
  before : Phase
  result : Except SeparationError SeparationReport
  calls : List Occurrence
  after : Phase

namespace Separator

def new (table : MovingProfileTable) (exposure : ExposureProfile) (geometry : TiltGeometry) :
    Separator := { table, exposure, geometry }

/-- One separator carries out all the layers. There is one record, and what a layer adds to it are the
calls of that layer. -/
def carryOut (m : Machine σ) : Separator → List Layer → σ × List Occurrence →
    List LayerRun × Separator × σ × List Occurrence
  | sep, [], s => ([], sep, s)
  | sep, l :: layers, s =>
    let (result, sep', s') := sep.separateLayer m.recorded l.area l.nextLayerNm s
    let (runs, last) := carryOut m sep' layers s'
    (⟨sep.phase, result, s'.2.drop s.2.length, sep'.phase⟩ :: runs, last)

/-- Every layer is carried out by a separator of its own, with the state that the layer before left. -/
def carryOutAnew (m : Machine σ) (fresh : Separator) : List Layer → σ → List LayerRun × σ
  | [], w => ([], w)
  | l :: layers, w =>
    let (result, used, w') := fresh.separateLayer m l.area l.nextLayerNm w
    let (runs, last) := carryOutAnew m fresh layers w'
    (⟨fresh.phase, result, fresh.occurrences m l.area l.nextLayerNm w, used.phase⟩ :: runs, last)

end Separator

theorem Machine.recorded_behind (m : Machine σ) (log : List Occurrence) :
    m.recorded.Image m.recorded fun s => (s.1, log ++ s.2) where
  perform c s := by
    simp only [perform_recorded, record, List.append_assoc]
  now _ := rfl
  abort s := by
    simp only [recorded, List.append_assoc]

namespace Separator
variable {sep : Separator} {m : Machine σ}

theorem separateLayer_behind (sep : Separator) (m : Machine σ) (area : Float32) (nextLayerNm : Int32)
    (w : σ) (log : List Occurrence) :
    sep.separateLayer m.recorded area nextLayerNm (w, log) =
      ((sep.separateLayer m area nextLayerNm w).1, (sep.separateLayer m area nextLayerNm w).2.1,
        (sep.separateLayer m area nextLayerNm w).2.2,
        log ++ sep.occurrences m area nextLayerNm w) := by
  have behind := (m.recorded_behind log).separateLayer sep area nextLayerNm (w, [])
  obtain ⟨result, after, world⟩ := separateLayer_recorded sep m area nextLayerNm (w, [])
  simp only [List.append_nil] at behind
  rw [behind, result, after, world, occurrences]

/-- A separator that is idle carries out a list of layers as new ones do, and is idle again. -/
theorem carryOut_eq (idle : sep.phase = .idle) (layers : List Layer) (w : σ) (log : List Occurrence) :
    sep.carryOut m layers (w, log) =
      ((sep.carryOutAnew m layers w).1, sep, (sep.carryOutAnew m layers w).2,
        log ++ (sep.carryOutAnew m layers w).1.flatMap LayerRun.calls) := by
  induction layers generalizing w log with
  | nil => simp [carryOut, carryOutAnew]
  | cons l layers ih =>
    have kept : (sep.separateLayer m l.area l.nextLayerNm w).2.1 = sep := separateLayer_idle idle
    simp only [carryOut, carryOutAnew, separateLayer_behind, kept, ih, List.drop_left, List.flatMap_cons,
      List.append_assoc]

theorem idle_of_mem_carryOutAnew (idle : sep.phase = .idle) {layers : List Layer} {w : σ} :
    ∀ run ∈ (sep.carryOutAnew m layers w).1, run.before = .idle ∧ run.after = .idle := by
  induction layers generalizing w with
  | nil => exact List.forall_mem_nil _
  | cons l layers ih =>
    have kept : (sep.separateLayer m l.area l.nextLayerNm w).2.1 = sep := separateLayer_idle idle
    simp only [carryOutAnew, kept]
    exact List.forall_mem_cons.mpr ⟨⟨idle, idle⟩, ih⟩

/-- Layers do not depend on one another but through the machine: whatever the results of the layers
before, a separator is idle between two layers, and each layer has the result and makes the calls that
it has and makes on a separator just made. -/
theorem layers_independent (table : MovingProfileTable) (exposure : ExposureProfile)
    (geometry : TiltGeometry) (m : Machine σ) (layers : List Layer) (w : σ) (log : List Occurrence) :
    let fresh := new table exposure geometry
    let anew := fresh.carryOutAnew m layers w
    fresh.carryOut m layers (w, log) =
        (anew.1, fresh, anew.2, log ++ anew.1.flatMap LayerRun.calls) ∧
      ∀ run ∈ anew.1, run.before = .idle ∧ run.after = .idle :=
  ⟨carryOut_eq rfl layers w log, idle_of_mem_carryOutAnew rfl⟩

end Separator
end LayerSeparation
