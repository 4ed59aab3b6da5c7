import LayerSeparation.Proofs.Run

/-! Where a plan stands after a run of arbitrary feedback. What it shows depends on the script it takes
up and on nothing else, and its phase, its axis and the path behind it can be read off what was seen.
One step keeps that, so it holds after every run. -/
namespace LayerSeparation

namespace Script

def shown : Script → Event
  | .done => .done
  | .fail e => .failed e
  | .recovered rest => rest.shown
  | .ask phase c _ => .issued phase c

section
variable {t u v : Script} {turns : List Turn}

theorem Leads.snoc {phase : Phase} {c : Command} {next : c.Answer → Script}
    (h : t.Leads turns (.ask phase c next)) (a : c.Answer) :
    t.Leads (turns ++ [⟨phase, c, a⟩]) (next a) :=
  h.trans (.ask a (.refl _))

theorem Leads.shown_of_nil (h : t.Leads [] u) : u.shown = t.shown := by
  induction t with
  | done => rw [(leads_done_iff.mp h).2]
  | fail e => rw [(leads_fail_iff.mp h).2]
  | recovered t ih =>
    cases h with
    | refl => rfl
    | recovered h => exact ih h
  | ask phase c next ih =>
    cases h with
    | refl => rfl

/- The answers decide what is shown after them. -/
theorem Leads.shown_unique (h : t.Leads turns u) (h' : t.Leads turns v) : u.shown = v.shown := by
  induction h with
  | refl t => exact h'.shown_of_nil.symm
  | recovered h ih =>
    cases h' with
    | refl => exact h.shown_of_nil
    | recovered h' => exact ih h'
  | ask a h ih =>
    cases h' with
    | ask _ h' => exact ih h'

theorem leads_of_shown_failed {e : SeparationError} (h : t.shown = .failed e) :
    t.Leads [] (.fail e) := by
  induction t with
  | done => cases h
  | fail e' =>
    cases h
    exact .refl _
  | recovered t ih => exact .recovered (ih h)
  | ask phase c next ih => cases h

theorem Leads.split {first second : List Turn} (h : t.Leads (first ++ second) u) :
    ∃ v, t.Leads first v ∧ v.Leads second u := by
  induction t generalizing first with
  | done =>
    obtain ⟨none, rfl⟩ := leads_done_iff.mp h
    obtain ⟨rfl, rfl⟩ := List.append_eq_nil_iff.mp none
    exact ⟨.done, .refl _, .refl _⟩
  | fail e =>
    obtain ⟨none, rfl⟩ := leads_fail_iff.mp h
    obtain ⟨rfl, rfl⟩ := List.append_eq_nil_iff.mp none
    exact ⟨.fail e, .refl _, .refl _⟩
  | recovered t ih =>
    cases first with
    | nil => exact ⟨.recovered t, .refl _, h⟩
    | cons x first =>
      cases h with
      | recovered h =>
        obtain ⟨v, hv, hu⟩ := ih h
        exact ⟨v, .recovered hv, hu⟩
  | ask phase c next ih =>
    cases first with
    | nil => exact ⟨_, .refl _, h⟩
    | cons x first =>
      cases h with
      | ask a h =>
        obtain ⟨v, hv, hu⟩ := ih a h
        exact ⟨v, .ask a hv, hu⟩

end

end Script

namespace Event

def phase : Event → Phase
  | .fed _ => .idle
  | .issued phase _ => phase
  | .done => .done
  | .failed e => e.phase

def axis? : Event → Option Axis
  | .issued _ c => c.axis
  | .fed _ | .done | .failed _ => none

end Event

/- What a run tells about its last step and about the last command that addressed an axis. -/
def phaseAfter (run : List Event) : Phase := (run.getLast?.map Event.phase).getD .idle

def axisAfter (run : List Event) : Axis := (run.filterMap Event.axis?).getLast?.getD .tilt

theorem phaseAfter_step (run : List Event) (f : Feedback) (e : Event) :
    phaseAfter (run ++ [.fed f, e]) = e.phase := by
  simp [phaseAfter]

theorem axisAfter_step (run : List Event) (f : Feedback) (e : Event) :
    axisAfter (run ++ [.fed f, e]) = e.axis?.getD (axisAfter run) := by
  have fed : Event.axis? (.fed f) = none := rfl
  cases h : e.axis? with
  | none => simp [axisAfter, h, fed]
  | some axis => simp [axisAfter, h]

theorem history_snoc (turns : List Turn) (x : Turn) :
    history (turns ++ [x]) =
      history turns ++ [.issued x.phase x.command, .fed (x.command.feedback x.answer)] := by
  simp [history, Turn.events]

theorem getLast?_step (run : List Event) (f : Feedback) (e : Event) :
    (run ++ [.fed f, e]).getLast? = some e := by
  simp

namespace Plan

def after : Plan → List Feedback → Plan
  | p, [] => p
  | p, f :: fs => (p.next f).2.after fs

def answers (p : Plan) (f : Feedback) : Event := (p.next f).1.event (p.next f).2.phase

theorem after_append (p : Plan) (fs gs : List Feedback) :
    p.after (fs ++ gs) = (p.after fs).after gs := by
  induction fs generalizing p with
  | nil => rfl
  | cons f fs ih => exact ih _

theorem resume_shown (p : Plan) (t : Script) :
    (p.resume t).1.event (p.resume t).2.phase = t.shown := by
  induction t generalizing p with
  | done => rfl
  | fail e => rfl
  | recovered t ih => exact ih _
  | ask phase c next ih => rfl

theorem resume_phase (p : Plan) (t : Script) : (p.resume t).2.phase = t.shown.phase := by
  induction t generalizing p with
  | done => rfl
  | fail e => rfl
  | recovered t ih => exact ih _
  | ask phase c next ih => rfl

theorem resume_lastAxis (p : Plan) (t : Script) :
    (p.resume t).2.lastAxis = t.shown.axis?.getD p.lastAxis := by
  induction t generalizing p with
  | done => rfl
  | fail e => rfl
  | recovered t ih => exact ih _
  | ask phase c next ih => rfl

theorem next_of_unaccepted {p : Plan} {f : Feedback} (h : p.stage.accept f = none)
    (sound : ∀ e, p.stage ≠ .failed e) : p.next f = p.reject := by
  unfold next
  cases hs : p.stage with
  | ready t =>
    rw [hs] at h
    have other : f ≠ .none := by
      intro same
      simp [Stage.accept, same] at h
    simp only [if_neg other]
  | awaiting c next =>
    rw [hs] at h
    have none : f.answer? c = none := Option.map_eq_none_iff.mp h
    simp only [none]
  | failed e => exact absurd hs (sound e)

/-- The stages that a plan can be in after a run, with the path that led there. -/
inductive Stands (s : Setup) : List Event → Stage → Prop where
  | fresh : Stands s [] (.ready (.separation s))
  | awaiting {turns : List Turn} {phase : Phase} {c : Command} {next : c.Answer → Script}
      (path : (Script.separation s).Leads turns (.ask phase c next)) :
      Stands s (history turns ++ [.issued phase c]) (.awaiting c next)
  | finished {run : List Event} (last : run.getLast? = some .done) : Stands s run (.ready .done)
  | failed {run : List Event} {e : SeparationError} (last : run.getLast? = some (.failed e)) :
      Stands s run (.failed e)

structure Reached (s : Setup) (run : List Event) (p : Plan) : Prop where
  stage : Stands s run p.stage
  phase : p.phase = phaseAfter run
  axis : p.lastAxis = axisAfter run

section
variable {s : Setup} {run : List Event} {p : Plan} {f : Feedback}

theorem stands_resume {turns : List Turn} {t : Script} (p : Plan)
    (path : (Script.separation s).Leads turns t) :
    Stands s (history turns ++ [t.shown]) (p.resume t).2.stage := by
  induction t generalizing p with
  | done => exact .finished (by simp [Script.shown])
  | fail e => exact .failed (by simp [Script.shown])
  | recovered t ih =>
    have behind := path.trans (.recovered (.refl t))
    rw [List.append_nil] at behind
    exact ih _ behind
  | ask phase c next ih => exact .awaiting path

/- Whatever script is taken up, what is shown of it tells the phase and the axis. -/
theorem Reached.resume {t : Script} (h : Reached s run p)
    (stage : Stands s (run ++ [.fed f, t.shown]) (p.resume t).2.stage) :
    Reached s (run ++ [.fed f, t.shown]) (p.resume t).2 := by
  refine ⟨stage, ?_, ?_⟩
  · rw [resume_phase, phaseAfter_step]
  · rw [resume_lastAxis, axisAfter_step, h.axis]

/- What is taken up lies at the end of a path whose answers are all that was fed, unless the plan had
ended already. -/
theorem Stands.takes {stage : Stage} {t : Script} (h : Stands s run stage)
    (accepted : stage.accept f = some t) :
    (∃ turns, run ++ [.fed f] = history turns ∧ (Script.separation s).Leads turns t) ∨ t = .done := by
  cases h with
  | fresh =>
    obtain ⟨rfl, rfl⟩ := accept_ready_iff.mp accepted
    exact .inl ⟨[], rfl, .refl _⟩
  | @awaiting turns phase c next path =>
    obtain ⟨a, rfl, rfl⟩ := accept_awaiting_iff.mp accepted
    refine .inl ⟨turns ++ [⟨phase, c, a⟩], ?_, path.snoc a⟩
    rw [history_snoc, List.append_assoc]
    rfl
  | finished last =>
    obtain ⟨_, rfl⟩ := accept_ready_iff.mp accepted
    exact .inr rfl
  | failed last => cases accepted

theorem Stands.resume {t : Script} (h : Stands s run p.stage)
    (accepted : p.stage.accept f = some t) :
    Stands s (run ++ [.fed f, t.shown]) (p.resume t).2.stage := by
  rcases h.takes accepted with ⟨turns, seen, path⟩ | rfl
  · have longer := stands_resume p path
    rw [← seen, List.append_assoc] at longer
    exact longer
  · exact .finished (getLast?_step _ _ _)

theorem Reached.next (h : Reached s run p) (f : Feedback) :
    Reached s (run ++ [.fed f, p.answers f]) (p.next f).2 := by
  cases accepted : p.stage.accept f with
  | some t =>
    have step := next_of_accept accepted
    rw [answers, step, resume_shown]
    exact h.resume (h.stage.resume accepted)
  | none =>
    by_cases failed : ∃ e, p.stage = .failed e
    · obtain ⟨e, hs⟩ := failed
      have stays : p.next f = (.failed e, p) := by
        unfold Plan.next
        rw [hs]
      have last : run.getLast? = some (.failed e) := by
        have stands := h.stage
        rw [hs] at stands
        cases stands with
        | failed last => exact last
      have phase := h.phase
      rw [phaseAfter, last] at phase
      rw [answers, stays]
      refine ⟨?_, ?_, ?_⟩
      · rw [hs]
        exact .failed (getLast?_step _ _ _)
      · rw [phaseAfter_step]
        exact phase
      · rw [axisAfter_step]
        exact h.axis
    · have step := next_of_unaccepted accepted (not_exists.mp failed)
      rw [answers, step]
      refine ⟨.failed (getLast?_step _ _ _), ?_, ?_⟩
      · rw [phaseAfter_step]
        rfl
      · rw [axisAfter_step]
        exact h.axis

theorem Reached.after (h : Reached s run p) (fs : List Feedback) :
    Reached s (run ++ p.events fs) (p.after fs) := by
  induction fs generalizing run p with
  | nil =>
    rw [events, List.append_nil]
    exact h
  | cons f fs ih =>
    have rest := ih (h.next f)
    rw [List.append_assoc] at rest
    exact rest

theorem reached (s : Setup) (fs : List Feedback) :
    Reached s ((ofSetup s).events fs) ((ofSetup s).after fs) := by
  have start : Reached s [] (ofSetup s) := ⟨.fresh, rfl, rfl⟩
  exact start.after fs

/- A run that ends in a command stands right before its answer. -/
theorem Stands.of_issued {phase : Phase} {c : Command} {stage : Stage} (h : Stands s run stage)
    (last : run.getLast? = some (.issued phase c)) :
    ∃ turns next, stage = .awaiting c next ∧ run = history turns ++ [.issued phase c] ∧
      (Script.separation s).Leads turns (.ask phase c next) := by
  cases h with
  | fresh => cases last
  | awaiting path =>
    rw [List.getLast?_concat] at last
    cases last
    exact ⟨_, _, rfl, rfl, path⟩
  | finished other =>
    rw [other] at last
    cases last
  | failed other =>
    rw [other] at last
    cases last

end

theorem events_of_leads {t u : Script} {turns : List Turn} (p : Plan) (h : t.Leads turns u) :
    t.shown :: (p.resume t).2.events (turns.map fun x => x.command.feedback x.answer) =
      turns.flatMap Turn.events ++ [u.shown] := by
  induction h generalizing p with
  | refl t => rfl
  | recovered h ih => exact ih _
  | @ask phase c next turns u a h ih =>
    have accepted : (Stage.awaiting c next).accept (c.feedback a) = some (next a) :=
      accept_awaiting_iff.mpr ⟨a, rfl, rfl⟩
    have step : (p.resume (.ask phase c next)).2.next (c.feedback a) = _ := next_of_accept accepted
    rw [List.map_cons, events, step, resume_shown, ih]
    rfl

end Plan
end LayerSeparation
