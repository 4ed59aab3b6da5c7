import LayerSeparation.Proofs.Log

/-! How an execution goes and how it ends, for an arbitrary machine. It performs the turns of a path and
then comes to the end of the script, to an error of the script, to an abort request or to a call that is
refused. In each case the whole record of the layer is known. -/
namespace LayerSeparation
variable {σ : Type} {m : Machine σ} {makeSafe : σ → σ}

/-- What becomes of a script that the machine has come to, with the last phase and the state there. -/
inductive Machine.Outcome (m : Machine σ) (makeSafe : σ → σ) (last : Phase) (final : σ) :
    Script → Except SeparationError Unit → σ → Prop where
  | done : m.Outcome makeSafe last final .done (.ok ()) final
  | failed (e : SeparationError) : m.Outcome makeSafe last final (.fail e) (.error e) final
  | cancelled {phase : Phase} {c : Command} {next : c.Answer → Script} {polled : σ}
      (asked : m.poll last phase final = (true, polled)) :
      m.Outcome makeSafe last final (.ask phase c next) (.error (.cancelled phase)) (makeSafe polled)
  | refused {phase : Phase} {c : Command} {next : c.Answer → Script} {polled world : σ}
      {error : AxisError} (unasked : m.poll last phase final = (false, polled))
      (no : m.perform c polled = (.error error, world)) :
      m.Outcome makeSafe last final (.ask phase c next)
        (.error (.axisCommandFailure (c.axis.getD .tilt) phase error)) world

namespace Script
variable {t u : Script} {turns : List Turn} {last : Phase} {final : σ} {e : Execution σ}

theorem execute_outcome (m : Machine σ) (makeSafe : σ → σ) (t : Script) (e : Execution σ) :
    ∃ turns u last final, t.Leads turns u ∧ m.Performs e.phase e.world turns last final ∧
      m.Outcome makeSafe last final u (t.execute m makeSafe e).1 (t.execute m makeSafe e).2.world := by
  induction t generalizing e with
  | done => exact ⟨[], .done, e.phase, e.world, .refl _, .refl _ _, .done⟩
  | fail error => exact ⟨[], .fail error, e.phase, e.world, .refl _, .refl _ _, .failed error⟩
  | recovered rest ih =>
    obtain ⟨turns, u, last, final, path, performs, outcome⟩ :=
      ih { e with recoveries := e.recoveries + 1 }
    exact ⟨turns, u, last, final, .recovered path, performs, outcome⟩
  | ask phase c next ih =>
    rw [execute, Execution.enter_eq]
    cases hp : m.poll e.phase phase e.world with
    | mk asked polled =>
      cases asked with
      | true => exact ⟨[], _, e.phase, e.world, .refl _, .refl _ _, .cancelled hp⟩
      | false =>
        cases hc : m.perform c polled with
        | mk answer performed =>
          cases answer with
          | error error =>
            simp only [hc]
            exact ⟨[], _, e.phase, e.world, .refl _, .refl _ _, .refused hp hc⟩
          | ok a =>
            simp only [hc]
            obtain ⟨turns, u, last, final, path, performs, outcome⟩ :=
              ih a ⟨phase, e.recoveries, performed⟩
            exact ⟨⟨phase, c, a⟩ :: turns, u, last, final, .ask a path, .turn hp hc performs, outcome⟩

theorem execute_along (makeSafe : σ → σ) (path : t.Leads turns u)
    (h : m.Performs e.phase e.world turns last final) :
    ∃ r, t.execute m makeSafe e = u.execute m makeSafe ⟨last, r, final⟩ := by
  induction path generalizing e with
  | refl t =>
    cases h
    exact ⟨e.recoveries, rfl⟩
  | recovered path ih => exact ih (e := { e with recoveries := e.recoveries + 1 }) h
  | @ask phase c next turns u a path ih =>
    cases h with
    | @turn _ _ _ polled performed _ _ _ unasked answered rest =>
      obtain ⟨r, same⟩ := ih (e := ⟨phase, e.recoveries, performed⟩) rest
      refine ⟨r, ?_⟩
      rw [execute, Execution.enter_eq, unasked, ← same]
      simp only [answered]

theorem record_refused {phase : Phase} {c : Command} {next : c.Answer → Script} {polled world : σ}
    {recordedSafe : σ × List Occurrence → σ × List Occurrence} {r : UInt8} {log : List Occurrence}
    {error : AxisError} (unasked : m.poll last phase final = (false, polled))
    (no : m.perform c polled = (.error error, world)) :
    ((ask phase c next).execute m.recorded recordedSafe ⟨last, r, final, log⟩).2.world.2 =
      log ++ watched last [(phase, .sent c (.error error))] := by
  rw [execute, Execution.enter_eq, Machine.poll_recorded]
  simp only [unasked, Machine.perform_recorded, Machine.record, no, List.append_assoc]
  rfl

end Script

namespace Separator
variable {sep : Separator} {area : Float32} {nextLayerNm : Int32} {world : σ} {s : Setup}
  {turns : List Turn} {u : Script} {last : Phase} {final : σ}

def ran (sep : Separator) (s : Setup) (m : Machine σ) (world : σ) :
    Except SeparationError Unit × Execution σ :=
  (Script.separation s).execute m (s.makeSafe m) ⟨sep.phase, 0, (m.now world).2⟩

theorem ran_outcome (sep : Separator) (s : Setup) (m : Machine σ) (world : σ) :
    ∃ turns u last final, (Script.separation s).Leads turns u ∧
      m.Performs sep.phase (m.now world).2 turns last final ∧
      m.Outcome (s.makeSafe m) last final u (sep.ran s m world).1 (sep.ran s m world).2.world :=
  Script.execute_outcome m (s.makeSafe m) (.separation s) ⟨sep.phase, 0, (m.now world).2⟩

theorem result_of_ran (m : Machine σ) (world : σ)
    (accepted : Setup.resolve sep.table (sep.exposure.select area) sep.geometry nextLayerNm = .ok s) :
    ((∃ report, (sep.separateLayer m area nextLayerNm world).1 = .ok report) ↔
      (sep.ran s m world).1 = .ok ()) ∧
    ∀ e, (sep.separateLayer m area nextLayerNm world).1 = .error e ↔
      (sep.ran s m world).1 = .error e := by
  rw [ExposureProfile.select] at accepted
  unfold separateLayer ran
  simp only [accepted]
  cases ((Script.separation s).execute m (s.makeSafe m) ⟨sep.phase, 0, (m.now world).2⟩).1 with
  | error e => simp
  | ok done => simp

theorem occurrences_of_ran (m : Machine σ) (world : σ)
    (accepted : Setup.resolve sep.table (sep.exposure.select area) sep.geometry nextLayerNm = .ok s) :
    sep.occurrences m area nextLayerNm world =
      (sep.ran s m.recorded (world, [])).2.world.2 := by
  rw [ExposureProfile.select] at accepted
  unfold occurrences separateLayer ran
  simp only [accepted]
  cases ((Script.separation s).execute m.recorded (s.makeSafe m.recorded)
    ⟨sep.phase, 0, (m.recorded.now (world, [])).2⟩).1 with
  | error e => rfl
  | ok done => rfl

theorem separateLayer_of_ran {e : SeparationError} {stop : Execution σ}
    (accepted : Setup.resolve sep.table (sep.exposure.select area) sep.geometry nextLayerNm = .ok s)
    (failed : sep.ran s m world = (.error e, stop)) :
    sep.separateLayer m area nextLayerNm world = (.error e, { sep with phase := .idle }, stop.world) := by
  rw [ExposureProfile.select] at accepted
  rw [ran] at failed
  unfold separateLayer
  simp only [accepted, failed]

theorem separateLayer_refused {e : ProfileError}
    (refused : Setup.resolve sep.table (sep.exposure.select area) sep.geometry nextLayerNm =
      .error e) :
    sep.separateLayer m area nextLayerNm world = (.error (.ofProfileError e), sep, (m.now world).2) := by
  rw [ExposureProfile.select] at refused
  simp only [separateLayer, refused]

theorem separateLayer_of_error {e : ProfileError}
    (refused : Setup.resolve sep.table (sep.exposure.select area) sep.geometry nextLayerNm =
      .error e) :
    (sep.separateLayer m area nextLayerNm world).1 = .error (.ofProfileError e) ∧
      sep.occurrences m area nextLayerNm world = [] := by
  refine ⟨congrArg Prod.fst (separateLayer_refused refused), ?_⟩
  rw [occurrences, separateLayer_refused refused]
  rfl

theorem separateLayer_idle (idle : sep.phase = .idle) :
    (sep.separateLayer m area nextLayerNm world).2.1 = sep := by
  have same : { sep with phase := .idle } = sep := by rw [← idle]
  unfold separateLayer
  dsimp only
  split
  · rfl
  · split
    · exact same
    · exact same

theorem ran_along (path : (Script.separation s).Leads turns u)
    (h : m.Performs sep.phase (m.now world).2 turns last final) :
    ∃ r, sep.ran s m world = u.execute m (s.makeSafe m) ⟨last, r, final⟩ :=
  Script.execute_along (s.makeSafe m) (e := ⟨sep.phase, 0, (m.now world).2⟩) path h

theorem ran_recorded_along (path : (Script.separation s).Leads turns u)
    (h : m.Performs sep.phase (m.now world).2 turns last final) :
    ∃ r, sep.ran s m.recorded (world, []) =
      u.execute m.recorded (s.makeSafe m.recorded)
        ⟨last, r, final, watched sep.phase (turns.map Turn.call)⟩ :=
  ran_along path (h.recorded [])

theorem layer_of_failed {e : SeparationError}
    (accepted : Setup.resolve sep.table (sep.exposure.select area) sep.geometry nextLayerNm = .ok s)
    (path : (Script.separation s).Leads turns (.fail e))
    (h : m.Performs sep.phase (m.now world).2 turns last final) :
    sep.separateLayer m area nextLayerNm world = (.error e, { sep with phase := .idle }, final) ∧
      sep.occurrences m area nextLayerNm world = watched sep.phase (turns.map Turn.call) := by
  obtain ⟨r, went⟩ := ran_along path h
  obtain ⟨r', recorded⟩ := ran_recorded_along path h
  constructor
  · exact separateLayer_of_ran accepted went
  · rw [occurrences_of_ran m world accepted, recorded]
    rfl

theorem layer_of_refused {phase : Phase} {c : Command} {next : c.Answer → Script}
    {polled stop : σ} {error : AxisError}
    (accepted : Setup.resolve sep.table (sep.exposure.select area) sep.geometry nextLayerNm = .ok s)
    (path : (Script.separation s).Leads turns (.ask phase c next))
    (h : m.Performs sep.phase (m.now world).2 turns last final)
    (unasked : m.poll last phase final = (false, polled))
    (no : m.perform c polled = (.error error, stop)) :
    sep.separateLayer m area nextLayerNm world =
        (.error (.axisCommandFailure (c.axis.getD .tilt) phase error), { sep with phase := .idle },
          stop) ∧
      sep.occurrences m area nextLayerNm world =
        watched sep.phase (turns.map Turn.call) ++ watched last [(phase, .sent c (.error error))] := by
  obtain ⟨r, went⟩ := ran_along path h
  obtain ⟨r', recorded⟩ := ran_recorded_along path h
  constructor
  · rw [Script.execute, Execution.enter_eq, unasked] at went
    simp only [no] at went
    exact separateLayer_of_ran accepted went
  · rw [occurrences_of_ran m world accepted, recorded, Script.record_refused unasked no]

end Separator
end LayerSeparation
