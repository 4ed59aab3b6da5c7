import LayerSeparation.Proofs.Failure
import LayerSeparation.Proofs.Outcome
import LayerSeparation.Simulation.Bench

/-! A layer that is carried out and the plan that is fed the very answers it got. Both go the same way
for every machine that is not asked to stop: the same commands in the same order, and the same end. -/
namespace LayerSeparation
variable {σ : Type}

def Occurrence.command? : Occurrence → Option Command
  | .sent c _ => some c
  | .polled _ => none

/-- What a plan is fed after a call; a refused call has no answer. -/
def Occurrence.feedback? : Occurrence → Option Feedback
  | .sent c (.ok a) => some (c.feedback a)
  | .sent _ (.error _) | .polled _ => none

def Event.command? : Event → Option Command
  | .issued _ c => some c
  | .fed _ | .done | .failed _ => none

/-- The run of the plan that is fed the answers recorded. -/
def Setup.planned (s : Setup) (log : List Occurrence) : List Event :=
  (Plan.ofSetup s).events (.none :: log.filterMap Occurrence.feedback?)

structure Follows (s : Setup) (result : Except SeparationError SeparationReport)
    (log : List Occurrence) : Prop where
  commands : log.filterMap Occurrence.command? = (s.planned log).filterMap Event.command?
  ok_iff : (∃ report, result = .ok report) ↔ .done ∈ s.planned log
  error_iff : ∀ e, result = .error e ↔ .failed e ∈ s.planned log ∨
    ∃ phase c axis error, .sent c (.error error) ∈ log ∧
      (s.planned log).getLast? = some (.issued phase c) ∧ c.axis = some axis ∧
      e = .axisCommandFailure axis phase error
  /-- A call that is refused is the one the plan has just asked for. It is the last, and the result tells
  its axis, its phase and its error. -/
  refused : ∀ before c error after, log = before ++ .sent c (.error error) :: after →
    after = [] ∧ ∃ phase axis, (s.planned log).getLast? = some (.issued phase c) ∧
      c.axis = some axis ∧ result = .error (.axisCommandFailure axis phase error)
  answered : ∀ axis phase, .failed (.axisCommandFailure axis phase .invalidResponse) ∉ s.planned log

structure Addressed (m : Machine σ) : Prop where
  tilt : ∀ c, c.axis = some .tilt → ∀ m' : Machine σ, m'.tilt = m.tilt → m'.perform c = m.perform c
  tower : ∀ c, c.axis = some .tower → ∀ m' : Machine σ, m'.tower = m.tower →
    m'.perform c = m.perform c
  delay : ∀ c, c.axis = none → ∀ m' : Machine σ, m'.wait = m.wait → m'.perform c = m.perform c

theorem addressed (m : Machine σ) : Addressed m := by
  constructor
  · intro c h m' same
    cases c with
    | setTiltCurve curve => simp only [Machine.perform, same]
    | setTowerCurve curve => cases h
    | wait ms => cases h
    | _ =>
      cases h
      simp only [Machine.perform, same]
  · intro c h m' same
    cases c with
    | setTiltCurve curve => cases h
    | setTowerCurve curve => simp only [Machine.perform, same]
    | wait ms => cases h
    | _ =>
      cases h
      simp only [Machine.perform, same]
  · intro c h m' same
    cases c with
    | wait ms => simp only [Machine.perform, same]
    | _ => cases h

theorem axis_of_refused {m : Machine σ} {c : Command} {world world' : σ} {error : AxisError}
    (h : m.perform c world = (.error error, world')) : ∃ axis, c.axis = some axis := by
  cases c with
  | wait ms =>
    injection h with refused
    cases refused
  | _ => exact ⟨_, rfl⟩

section
variable {s : Setup} {turns : List Turn} {u : Script} {log : List Occurrence} {e : Event}

/- In a record of turns every call has its answer. -/
theorem answered_of_turns (start : Phase) (turns : List Turn) (c : Command) (error : AxisError) :
    .sent c (.error error) ∉ watched start (turns.map Turn.call) := by
  intro h
  rcases mem_of_mem_watched h with h | ⟨x, hx, same⟩
  · cases h
  · obtain ⟨turn, _, rfl⟩ := List.mem_map.mp hx
    cases same

theorem filterMap_call {α : Type} {g : Occurrence → Option α} {f : Turn → α}
    (sent : ∀ x : Turn, g x.occurrence = some (f x)) (turns : List Turn) :
    (turns.map Turn.call).filterMap (fun x => g x.2) = turns.map f := by
  rw [List.filterMap_map, ← List.filterMap_eq_map]
  exact List.filterMap_congr fun x _ => sent x

theorem commands_called (turns : List Turn) :
    (turns.map Turn.call).filterMap (fun x => x.2.command?) = turns.map Turn.command :=
  filterMap_call (g := Occurrence.command?) (fun _ => rfl) turns

theorem feedback_called (turns : List Turn) :
    (turns.map Turn.call).filterMap (fun x => x.2.feedback?) =
      turns.map fun x => x.command.feedback x.answer :=
  filterMap_call (g := Occurrence.feedback?) (fun _ => rfl) turns

theorem planned_along (path : (Script.separation s).Leads turns u)
    (answers : log.filterMap Occurrence.feedback? = turns.map fun x => x.command.feedback x.answer) :
    s.planned log = history turns ++ [u.shown] := by
  have first : (Plan.ofSetup s).next .none = (Plan.ofSetup s).resume (.separation s) := rfl
  have rest := Plan.events_of_leads (Plan.ofSetup s) path
  rw [Setup.planned, answers, Plan.events, first, Plan.resume_shown, rest]
  rfl

theorem filterMap_command_history (turns : List Turn) :
    (history turns).filterMap Event.command? = turns.map Turn.command := by
  have fed : ∀ f run, (Event.fed f :: run).filterMap Event.command? =
      run.filterMap Event.command? := fun _ _ => rfl
  have issued : ∀ phase c run, (Event.issued phase c :: run).filterMap Event.command? =
      c :: run.filterMap Event.command? := fun _ _ _ => rfl
  rw [history, fed]
  induction turns with
  | nil => rfl
  | cons x turns ih =>
    rw [List.flatMap_cons, Turn.events, List.cons_append, List.cons_append, List.nil_append, issued,
      fed, ih]
    rfl

theorem mem_history_shown_iff (done : ∀ phase c, e ≠ .issued phase c) (fed : ∀ f, e ≠ .fed f) :
    e ∈ history turns ++ [u.shown] ↔ u.shown = e := by
  have early : e ∉ history turns := by
    intro h
    simp only [history, Turn.events, List.mem_cons, List.mem_flatMap, List.not_mem_nil,
      or_false] at h
    rcases h with h | ⟨x, _, h | h⟩
    · exact fed _ h
    · exact done _ _ h
    · exact fed _ h
  rw [List.mem_append, List.mem_singleton]
  constructor
  · rintro (h | h)
    · exact absurd h early
    · exact h.symm
  · exact fun h => .inr h.symm

/-- No path comes to an error that stands for feedback of the wrong kind. -/
theorem not_invalidResponse (sound : Sound s) (path : (Script.separation s).Leads turns u)
    (axis : Axis) (phase : Phase) :
    u.shown ≠ .failed (.axisCommandFailure axis phase .invalidResponse) := by
  intro shown
  have ended := path.trans (Script.leads_of_shown_failed shown)
  obtain ⟨moves, way, _, _, _, _, fails⟩ := Script.fails_of_separation sound.reach ended
  cases fails

variable {result : Except SeparationError SeparationReport} {start : Phase}

theorem follows_of_ended (sound : Sound s) (path : (Script.separation s).Leads turns u)
    (ended : (u = .done ∧ ∃ report, result = .ok report) ∨ ∃ e, u = .fail e ∧ result = .error e) :
    Follows s result (watched start (turns.map Turn.call)) := by
  have planned : s.planned (watched start (turns.map Turn.call)) = history turns ++ [u.shown] := by
    apply planned_along path
    rw [filterMap_watched rfl, feedback_called]
  have done : .done ∈ history turns ++ [u.shown] ↔ u.shown = .done :=
    mem_history_shown_iff nofun nofun
  have failed : ∀ e, .failed e ∈ history turns ++ [u.shown] ↔ u.shown = .failed e :=
    fun e => mem_history_shown_iff nofun nofun
  constructor
  · rw [planned, List.filterMap_append, filterMap_command_history, filterMap_watched rfl,
      commands_called]
    rcases ended with ⟨rfl, _⟩ | ⟨e, rfl, _⟩ <;> simp [Script.shown, Event.command?]
  · rw [planned, done]
    rcases ended with ⟨rfl, report, rfl⟩ | ⟨e, rfl, rfl⟩ <;> simp [Script.shown]
  · intro e
    rw [planned, failed]
    rcases ended with ⟨rfl, report, rfl⟩ | ⟨e', rfl, rfl⟩ <;>
      simp [Script.shown, answered_of_turns]
  · intro before c error after split
    have refused := answered_of_turns start turns c error
    rw [split] at refused
    simp at refused
  · intro axis phase
    rw [planned, failed]
    exact not_invalidResponse sound path axis phase

/- Where the last call was refused and every other one was answered, nothing was refused before. -/
theorem refused_last {last phase : Phase} {c c' : Command} {error error' : AxisError}
    {before after : List Occurrence}
    (split : watched start (turns.map Turn.call) ++ watched last [(phase, .sent c (.error error))] =
      before ++ .sent c' (.error error') :: after) :
    after = [] ∧ Occurrence.sent c' (.error error') = .sent c (.error error) := by
  have answered :
      .sent c' (.error error') ∉ watched start (turns.map Turn.call) ++ entry last phase := by
    intro h
    rcases List.mem_append.mp h with h | h
    · exact answered_of_turns start turns c' error' h
    · unfold entry at h
      split at h
      · cases h
      · cases List.mem_singleton.mp h
  have split_last : watched last [(phase, .sent c (.error error))] =
    entry last phase ++ [.sent c (.error error)] := rfl
  rw [split_last, ← List.append_assoc] at split
  rcases List.eq_nil_or_concat after with rfl | ⟨init, o, rfl⟩
  · have same := (List.append_inj' split rfl).2
    exact ⟨rfl, (List.singleton_inj.mp same).symm⟩
  · rw [List.concat_eq_append, ← List.cons_append, ← List.append_assoc] at split
    rw [(List.append_inj' split rfl).1] at answered
    simp at answered

theorem follows_of_refused {last phase : Phase} {c : Command} {next : c.Answer → Script}
    {axis : Axis} {error : AxisError} (path : (Script.separation s).Leads turns (.ask phase c next))
    (addressed : c.axis = some axis) :
    Follows s (.error (.axisCommandFailure axis phase error))
      (watched start (turns.map Turn.call) ++ watched last [(phase, .sent c (.error error))]) := by
  have planned : s.planned (watched start (turns.map Turn.call) ++
      watched last [(phase, .sent c (.error error))]) = history turns ++ [.issued phase c] := by
    apply planned_along path
    rw [List.filterMap_append, filterMap_watched rfl, filterMap_watched rfl, feedback_called]
    simp [Occurrence.feedback?]
  have asked : (history turns ++ [Event.issued phase c]).getLast? = some (.issued phase c) :=
    List.getLast?_concat
  have done : .done ∈ history turns ++ [(Script.ask phase c next).shown] ↔ _ :=
    mem_history_shown_iff nofun nofun
  have failed : ∀ e, .failed e ∈ history turns ++ [(Script.ask phase c next).shown] ↔ _ :=
    fun e => mem_history_shown_iff nofun nofun
  simp only [Script.shown] at done failed
  constructor
  · rw [planned, List.filterMap_append, List.filterMap_append, filterMap_command_history,
      filterMap_watched rfl, filterMap_watched rfl, commands_called]
    rfl
  · rw [planned, done]
    simp
  · intro e
    rw [planned, failed, asked]
    constructor
    · intro same
      have called : Occurrence.sent c (.error error) ∈
          watched last [(phase, .sent c (.error error))] :=
        List.mem_append_right _ List.mem_cons_self
      exact .inr ⟨phase, c, axis, error, List.mem_append_right _ called, rfl, addressed,
        (Except.error.inj same).symm⟩
    · rintro (ended | ⟨phase', c', axis', error', called, shown, addressed', rfl⟩)
      · cases ended
      · obtain ⟨before, after, split⟩ := List.append_of_mem called
        cases (refused_last split).2
        cases shown
        rw [addressed] at addressed'
        cases addressed'
        rfl
  · intro before c' error' after split
    obtain ⟨rfl, same⟩ := refused_last split
    cases same
    exact ⟨rfl, phase, axis, by rw [planned, asked], addressed, rfl⟩
  · intro axis' phase'
    rw [planned, failed]
    rintro ⟨⟩

end

namespace Separator
variable {sep : Separator} {m : Machine σ} {area : Float32} {nextLayerNm : Int32} {world : σ}
  {s : Setup}

theorem follows_of_unasked (quiet : ∀ w, (m.abortRequested w).1 = false)
    (accepted : Setup.resolve sep.table (sep.exposure.select area) sep.geometry nextLayerNm = .ok s) :
    Follows s (sep.separateLayer m area nextLayerNm world).1
      (sep.occurrences m area nextLayerNm world) := by
  have sound := Plan.sound_of_resolved (Setup.resolved_of_eq_ok accepted)
  obtain ⟨ok_iff, error_iff⟩ := result_of_ran m world accepted
  have record := occurrences_of_ran m world accepted
  obtain ⟨turns, u, last, final, path, performs, outcome⟩ := ran_outcome sep s m world
  obtain ⟨r, went⟩ := ran_recorded_along path performs
  rw [went] at record
  rw [record]
  generalize (sep.ran s m world).1 = ended at ok_iff error_iff outcome
  generalize (sep.ran s m world).2.world = stop at outcome
  cases outcome with
  | done => exact follows_of_ended sound path (.inl ⟨rfl, ok_iff.mpr rfl⟩)
  | failed e => exact follows_of_ended sound path (.inr ⟨e, rfl, (error_iff e).mpr rfl⟩)
  | cancelled asked =>
    unfold Machine.poll at asked
    split at asked
    · cases asked
    · rw [Prod.ext_iff, quiet] at asked
      cases asked.1
  | @refused phase c next polled _ error unasked no =>
    obtain ⟨axis, addressed⟩ := axis_of_refused no
    have result := (error_iff _).mpr rfl
    rw [addressed, Option.getD_some] at result
    rw [result, Script.record_refused unasked no]
    exact follows_of_refused path addressed

/-- A layer on a machine that is not asked to stop goes as the plan does that is fed its answers, and
every command goes to the part it addresses. Inputs that are turned down cause no command at all. -/
theorem refinement_law (sep : Separator) (m : Machine σ) (area : Float32) (nextLayerNm : Int32)
    (world : σ) (quiet : ∀ w, (m.abortRequested w).1 = false) :
    Addressed m ∧
    (∀ s, Setup.resolve sep.table (sep.exposure.select area) sep.geometry nextLayerNm = .ok s →
      Follows s (sep.separateLayer m area nextLayerNm world).1
        (sep.occurrences m area nextLayerNm world)) ∧
    ∀ e, Setup.resolve sep.table (sep.exposure.select area) sep.geometry nextLayerNm = .error e →
      (sep.separateLayer m area nextLayerNm world).1 = .error (.ofProfileError e) ∧
        sep.occurrences m area nextLayerNm world = [] :=
  ⟨addressed m, fun _ accepted => follows_of_unasked quiet accepted,
    fun _ refused => separateLayer_of_error refused⟩

/- A machine that is never asked to stop, and a tilt whose third call fails. -/
def patientMachine : Machine Bench := { Bench.machine with abortRequested := fun b => (false, b) }

def faultyBench : Bench where
  tilt := { position := 4928, fault := some (2, .driverFault) }
  tower := { position := 0 }

theorem refinement_law_sample :
    (∀ b, (patientMachine.abortRequested b).1 = false) ∧
      Follows .sample (sample.separateLayer patientMachine 1 50000 faultyBench).1
        (sample.occurrences patientMachine 1 50000 faultyBench) := by
  have quiet : ∀ b, (patientMachine.abortRequested b).1 = false := fun _ => rfl
  exact ⟨quiet, (refinement_law sample patientMachine 1 50000 faultyBench quiet).2.1 _ (accepted_sample 1)⟩

end Separator
end LayerSeparation
