import LayerSeparation.Proofs.Execution
import LayerSeparation.Proofs.Progress
import LayerSeparation.Separation.Executor

/-! A sequencer that is driven on a machine, and the script that is carried out on it. Whatever the machine
answers, both send the same commands, read the abort signal at the same moments and come to the same end. -/
namespace LayerSeparation
variable {σ : Type} {m : Machine σ} {s : Setup} {last : Phase} {world : σ}

structure Executor.Alike (s : Setup) (run : Except SeparationError Unit × Executor σ)
    (ran : Except SeparationError Unit × Execution σ) : Prop where
  result : run.1 = ran.1
  phase : run.2.phase = ran.2.phase
  recoveries : run.2.plan.recoveries = ran.2.recoveries
  world : run.2.world = ran.2.world
  setup : run.2.plan.setup = s

namespace Machine
open Sequencer

section
variable {q r : Sequencer} {f : Feedback} {c : Command} {polled performed : σ}

theorem run_of_cancelled (h : q.next f = (.command c, r)) (asked : m.poll last r.phase world = (true, polled)) :
    m.run q f last world = (.error (.cancelled r.phase), ⟨r, r.phase, r.setup.makeSafe m polled⟩) := by
  unfold poll at asked
  rw [run_of_command h, asked]
  rfl

theorem run_of_refused {error : AxisError} (h : q.next f = (.command c, r))
    (unasked : m.poll last r.phase world = (false, polled))
    (refused : m.perform c polled = (.error error, performed)) :
    m.run q f last world =
      (.error (.axisCommandFailure (c.axis.getD .tilt) r.phase error), ⟨r, r.phase, performed⟩) := by
  unfold poll at unasked
  rw [run_of_command h, unasked]
  simp [dispatch, refused]

theorem run_of_answered {a : c.Answer} (h : q.next f = (.command c, r))
    (unasked : m.poll last r.phase world = (false, polled))
    (answered : m.perform c polled = (.ok a, performed)) :
    m.run q f last world = m.run r (c.feedback a) r.phase performed := by
  unfold poll at unasked
  rw [run_of_command h, unasked]
  simp [dispatch, answered]

end

section
variable {before : List Feedback} {f : Feedback} {p : Plan} {shown : Step × Plan}

theorem agrees_of_next (ahead : ((Plan.ofSetup s).after before).next f = shown) :
    ((ofSetup s).after before).next f = (shown.1, (ofSetup s).after (before ++ [f])) ∧
      Agrees shown.2 ((ofSetup s).after (before ++ [f])) ∧
      ((ofSetup s).after (before ++ [f])).setup = s := by
  obtain ⟨k, frees, few⟩ := Plan.frees_after s before
  obtain ⟨same, agrees⟩ := (agrees_after s before).2.next frees few f
  rw [ahead] at same agrees
  have last : (ofSetup s).after (before ++ [f]) = (((ofSetup s).after before).next f).2 :=
    Sequencer.after_append (ofSetup s) before [f]
  have setup := (after_climbs (tilted_ofSetup s) (before ++ [f])).2.1
  exact ⟨Prod.ext same.symm last.symm, last ▸ agrees, setup⟩

/- An answer takes the plan to the script that follows it. -/
theorem resume_of_answer {phase : Phase} {c : Command} {next : c.Answer → Script}
    (ahead : ((Plan.ofSetup s).after before).next f = p.resume (.ask phase c next)) (a : c.Answer) :
    ((Plan.ofSetup s).after (before ++ [f])).next (c.feedback a) =
        ((Plan.ofSetup s).after (before ++ [f])).resume (next a) ∧
      ((Plan.ofSetup s).after (before ++ [f])).recoveries = p.recoveries := by
  have last : (Plan.ofSetup s).after (before ++ [f]) = (p.resume (.ask phase c next)).2 :=
    (Plan.after_append (.ofSetup s) before [f]).trans (congrArg Prod.snd ahead)
  rw [last]
  exact ⟨Plan.next_of_accept (Plan.accept_awaiting_iff.mpr ⟨a, rfl, rfl⟩), rfl⟩

/-- From wherever the sequencer stands, the loop does what the execution of the script ahead does. -/
theorem run_alike (t : Script) (ahead : ((Plan.ofSetup s).after before).next f = p.resume t) :
    Executor.Alike s (m.run ((ofSetup s).after before) f last world)
      (t.execute m (s.makeSafe m) ⟨last, p.recoveries, world⟩) := by
  -- over the script; what was fed so far leads the plan and the sequencer to it
  induction t generalizing before f p last world with
  | done =>
    obtain ⟨stepped, agrees, setup⟩ := agrees_of_next ahead
    rw [run_of_done stepped]
    exact ⟨rfl, rfl, agrees.recoveries.symm, rfl, setup⟩
  | fail e =>
    obtain ⟨stepped, agrees, setup⟩ := agrees_of_next ahead
    rw [run_of_failed stepped]
    exact ⟨rfl, rfl, agrees.recoveries.symm, rfl, setup⟩
  | recovered rest ih => exact ih (p := { p with recoveries := p.recoveries + 1 }) ahead
  | ask phase c next ih =>
    obtain ⟨stepped, agrees, setup⟩ := agrees_of_next ahead
    have here : phase = ((ofSetup s).after (before ++ [f])).phase := agrees.phase
    have counted : p.recoveries = ((ofSetup s).after (before ++ [f])).recoveries := agrees.recoveries
    rw [Script.execute, Execution.enter_eq]
    cases polling : m.poll last phase world with
    | mk abort polled =>
      rw [here] at polling
      cases abort with
      | true =>
        rw [run_of_cancelled stepped polling, setup, ← here]
        exact ⟨rfl, rfl, counted.symm, rfl, setup⟩
      | false =>
        cases performing : m.perform c polled with
        | mk answer performed =>
          cases answer with
          | error error =>
            rw [run_of_refused stepped polling performing, ← here]
            simp only [performing]
            exact ⟨rfl, rfl, counted.symm, rfl, setup⟩
          | ok a =>
            obtain ⟨later, kept⟩ := resume_of_answer ahead a
            rw [run_of_answered stepped polling performing, ← here, ← kept]
            simp only [performing]
            exact ih a later

end

theorem run_alike_execute (m : Machine σ) (s : Setup) (last : Phase) (world : σ) :
    Executor.Alike s (m.run (ofSetup s) .none last world)
      ((Script.separation s).execute m (s.makeSafe m) ⟨last, 0, world⟩) := by
  have ahead : ((Plan.ofSetup s).after []).next .none = (Plan.ofSetup s).resume (.separation s) := rfl
  exact run_alike (.separation s) ahead

end Machine

namespace Separator

/-- A layer that is separated with the sequencer is the layer that its script is carried out for. -/
theorem executeLayer_eq_separateLayer (sep : Separator) (m : Machine σ) (area : Float32) (nextLayerNm : Int32)
    (world : σ) : sep.executeLayer m area nextLayerNm world = sep.separateLayer m area nextLayerNm world := by
  unfold executeLayer separateLayer
  dsimp only
  cases Setup.resolve sep.table (sep.exposure.params (sep.exposure.fillFor area)) sep.geometry nextLayerNm with
  | error e => rfl
  | ok s =>
    obtain ⟨result, -, recoveries, stop, setup⟩ := m.run_alike_execute s sep.phase (m.now world).2
    cases ended : ((Script.separation s).execute m (s.makeSafe m) ⟨sep.phase, 0, (m.now world).2⟩).1 with
    | error e => simp only [result, ended, stop]
    | ok done => simp only [result, ended, recoveries, stop, setup]

end Separator
end LayerSeparation
