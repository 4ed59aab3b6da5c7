import LayerSeparation.Proofs.Path
import LayerSeparation.Separation.Plan

/-! What is seen of a plan while it is driven: the feedback that goes in and what comes out. The
feedback is arbitrary, in kind and in value. Whatever it is, a command comes out only at the end of
a path through the script whose answers are the feedback so far, and so does the end. -/
namespace LayerSeparation

/-- One thing that passes between a plan and whoever drives it. -/
inductive Event where
  | fed (f : Feedback)
  | issued (phase : Phase) (c : Command)
  | done
  | failed (e : SeparationError)
  deriving DecidableEq, Repr

def Step.event (phase : Phase) : Step → Event
  | .command c => .issued phase c
  | .done => .done
  | .failed e => .failed e

def Plan.events (p : Plan) : List Feedback → List Event
  | [] => []
  | f :: fs => .fed f :: (p.next f).1.event (p.next f).2.phase :: (p.next f).2.events fs

def outgoing (run : List Event) : List Event :=
  run.filter fun
    | .fed _ => false
    | _ => true

theorem answer?_eq_some_iff {f : Feedback} {c : Command} {a : c.Answer} :
    f.answer? c = some a ↔ f = c.feedback a := by
  cases c <;> cases f <;> simp [Feedback.answer?, Command.feedback]

def Turn.events (x : Turn) : List Event :=
  [.issued x.phase x.command, .fed (x.command.feedback x.answer)]

def history (turns : List Turn) : List Event := .fed .none :: turns.flatMap Turn.events

theorem mem_history_iff {phase : Phase} {c : Command} {turns : List Turn} :
    .issued phase c ∈ history turns ↔ ∃ x ∈ turns, x.phase = phase ∧ x.command = c := by
  simp [history, Turn.events, eq_comm]

theorem infix_history {xs turns : List Turn} (h : xs <:+: turns) :
    xs.flatMap Turn.events <:+: history turns := by
  obtain ⟨first, last, rfl⟩ := h
  exact ⟨.fed .none :: first.flatMap Turn.events, last.flatMap Turn.events, by simp [history]⟩

namespace Plan

/-- The script that is taken up after some feedback, unless it is of the wrong kind. -/
def Stage.accept : Stage → Feedback → Option Script
  | .ready t, f => if f = .none then some t else none
  | .awaiting c next, f => (f.answer? c).map next
  | .failed _, _ => none

theorem accept_awaiting_iff {c : Command} {next : c.Answer → Script} {f : Feedback} {t : Script} :
    (Stage.awaiting c next).accept f = some t ↔ ∃ a, f = c.feedback a ∧ next a = t := by
  simp [Stage.accept, answer?_eq_some_iff]

theorem accept_ready_iff {t u : Script} {f : Feedback} :
    (Stage.ready t).accept f = some u ↔ f = .none ∧ t = u := by
  simp [Stage.accept]

theorem next_of_accept {p : Plan} {f : Feedback} {t : Script} (h : p.stage.accept f = some t) :
    p.next f = p.resume t := by
  unfold next
  cases hs : p.stage with
  | ready script =>
    rw [hs] at h
    obtain ⟨rfl, rfl⟩ := accept_ready_iff.mp h
    rfl
  | awaiting c next =>
    rw [hs] at h
    obtain ⟨a, rfl, rfl⟩ := accept_awaiting_iff.mp h
    have ha : (c.feedback a).answer? c = some a := answer?_eq_some_iff.mpr rfl
    simp only [ha]
  | failed e =>
    rw [hs] at h
    cases h

theorem next_of_not_accept {p : Plan} {f : Feedback} (h : p.stage.accept f = none) :
    ∃ e, (p.next f).1 = .failed e ∧ (p.next f).2.stage = .failed e := by
  unfold next
  cases hs : p.stage with
  | ready script =>
    rw [hs] at h
    simp only [Stage.accept] at h
    split at h
    · cases h
    · next hf => simp only [if_neg hf]; exact ⟨_, rfl, rfl⟩
  | awaiting c next =>
    rw [hs] at h
    have ha : f.answer? c = none := Option.map_eq_none_iff.mp h
    simp only [ha]
    exact ⟨_, rfl, rfl⟩
  | failed e => exact ⟨e, rfl, hs⟩

/-- All that one step can do: issue the command that the script comes to, end with it, or fail. -/
theorem next_cases (p : Plan) (f : Feedback) :
    (∃ t phase c next, p.stage.accept f = some t ∧ t.Leads [] (.ask phase c next) ∧
      (p.next f).1.event (p.next f).2.phase = .issued phase c ∧
      (p.next f).2.stage = .awaiting c next) ∨
    (∃ t, p.stage.accept f = some t ∧ t.Ends [] ∧
      (p.next f).1.event (p.next f).2.phase = .done ∧ (p.next f).2.stage = .ready .done) ∨
    ∃ e, (p.next f).1.event (p.next f).2.phase = .failed e ∧ (p.next f).2.stage = .failed e := by
  cases h : p.stage.accept f with
  | none =>
    obtain ⟨e, he, hs⟩ := next_of_not_accept h
    exact .inr (.inr ⟨e, by rw [he]; rfl, hs⟩)
  | some t =>
    rw [next_of_accept h]
    clear h
    suffices hr : (∃ phase c next, t.Leads [] (.ask phase c next) ∧
          (p.resume t).1.event (p.resume t).2.phase = .issued phase c ∧
          (p.resume t).2.stage = .awaiting c next) ∨
        (t.Ends [] ∧ (p.resume t).1.event (p.resume t).2.phase = .done ∧
          (p.resume t).2.stage = .ready .done) ∨
        ∃ e, (p.resume t).1.event (p.resume t).2.phase = .failed e ∧
          (p.resume t).2.stage = .failed e by
      rcases hr with ⟨phase, c, next, hr⟩ | hr | hr
      · exact .inl ⟨t, phase, c, next, rfl, hr⟩
      · exact .inr (.inl ⟨t, rfl, hr⟩)
      · exact .inr (.inr hr)
    induction t generalizing p with
    | done => exact .inr (.inl ⟨.refl _, rfl, rfl⟩)
    | fail e => exact .inr (.inr ⟨e, rfl, rfl⟩)
    | recovered t ih =>
      rcases ih { p with recoveries := p.recoveries + 1 } with ⟨phase, c, next, hl, hr⟩ | ⟨hl, hr⟩ | hr
      · exact .inl ⟨phase, c, next, .recovered hl, hr⟩
      · exact .inr (.inl ⟨.recovered hl, hr⟩)
      · exact .inr (.inr hr)
    | ask phase c next => exact .inl ⟨phase, c, next, .refl _, rfl, rfl⟩

theorem prefix_of_mem {e : Event} {run : List Event} (h : e ∈ run) : ∃ before, before ++ [e] <+: run := by
  obtain ⟨before, behind, rfl⟩ := List.append_of_mem h
  exact ⟨before, behind, by simp⟩

theorem prefix_pair {x y e : Event} {before more : List Event}
    (h : before ++ [e] <+: x :: y :: more) :
    (before = [] ∧ e = x) ∨ (before = [x] ∧ e = y) ∨
      ∃ rest, before = x :: y :: rest ∧ rest ++ [e] <+: more := by
  cases before with
  | nil => exact .inl ⟨rfl, (List.cons_prefix_cons.mp h).1⟩
  | cons b rest =>
    obtain ⟨rfl, tail⟩ := List.cons_prefix_cons.mp h
    cases rest with
    | nil => exact .inr (.inl ⟨rfl, (List.cons_prefix_cons.mp tail).1⟩)
    | cons b' rest =>
      obtain ⟨rfl, last⟩ := List.cons_prefix_cons.mp tail
      exact .inr (.inr ⟨rest, rfl, last⟩)

inductive Shown : Script → Event → Prop where
  | ask (phase : Phase) (c : Command) (next : c.Answer → Script) :
      Shown (.ask phase c next) (.issued phase c)
  | done : Shown .done .done

/- Before a command and before the end lies a path to it. The end is shown again whenever it is asked
for, so more may lie before it than the path. -/
theorem path_of_event {p : Plan} {fs : List Feedback} {before : List Event} {e : Event}
    (h : before ++ [e] <+: p.events fs) (fed : ∀ f, e ≠ .fed f) (failed : ∀ x, e ≠ .failed x) :
    ∃ f t turns u, p.stage.accept f = some t ∧ t.Leads turns u ∧ Shown u e ∧
      .fed f :: turns.flatMap Turn.events <+: before ∧
      (e ≠ .done → before = .fed f :: turns.flatMap Turn.events) := by
  induction fs generalizing p before with
  | nil => simp [events] at h
  | cons f fs ih =>
    rw [events] at h
    rcases prefix_pair h with ⟨rfl, he⟩ | ⟨rfl, rfl⟩ | ⟨rest, rfl, hr⟩
    · exact absurd he (fed f)
    · rcases next_cases p f with ⟨t, q, d, next, ha, hl, hd, _⟩ | ⟨t, ha, hl, hd, _⟩ | ⟨x, hd, _⟩
      · rw [hd]
        exact ⟨f, t, [], _, ha, hl, .ask q d next, List.prefix_rfl, fun _ => rfl⟩
      · rw [hd]
        exact ⟨f, t, [], _, ha, hl, .done, List.prefix_rfl, fun _ => rfl⟩
      · exact absurd hd (failed x)
    · obtain ⟨g, v, turns, u, hv, hp, hu, hb, heq⟩ := ih hr
      rcases next_cases p f with ⟨t, q, d, next, ha, hl, hd, hs⟩ | ⟨t, ha, hl, hd, hs⟩ | ⟨x, hd, hs⟩
      · rw [hs] at hv
        obtain ⟨a, rfl, rfl⟩ := accept_awaiting_iff.mp hv
        rw [hd]
        refine ⟨f, t, ⟨q, d, a⟩ :: turns, u, ha, hl.trans (.ask a hp), hu, ?_, ?_⟩
        · obtain ⟨tail, rfl⟩ := hb
          exact ⟨tail, rfl⟩
        · intro hn
          rw [heq hn]
          rfl
      · -- the plan had ended already, and nothing but the end is shown from then on
        rw [hs] at hv
        obtain ⟨rfl, rfl⟩ := accept_ready_iff.mp hv
        obtain ⟨rfl, rfl⟩ := Script.leads_done_iff.mp hp
        cases hu
        exact ⟨f, t, [], _, ha, hl, .done, ⟨_, rfl⟩, fun hn => absurd rfl hn⟩
      · rw [hs] at hv
        cases hv

theorem path_of_issued {s : Setup} {fs : List Feedback} {before : List Event} {phase : Phase}
    {c : Command} (h : before ++ [.issued phase c] <+: (ofSetup s).events fs) :
    ∃ turns, before = history turns ∧ (Script.separation s).Asks turns phase c := by
  obtain ⟨f, t, turns, u, ha, hp, hu, _, heq⟩ := path_of_event h nofun nofun
  obtain ⟨rfl, rfl⟩ := accept_ready_iff.mp ha
  cases hu with
  | ask _ _ next => exact ⟨turns, heq nofun, next, hp⟩

theorem path_of_done {s : Setup} {fs : List Feedback} {before : List Event}
    (h : before ++ [.done] <+: (ofSetup s).events fs) :
    ∃ turns, history turns <+: before ∧ (Script.separation s).Ends turns := by
  obtain ⟨f, t, turns, u, ha, hp, hu, hb, _⟩ := path_of_event h nofun nofun
  obtain ⟨rfl, rfl⟩ := accept_ready_iff.mp ha
  cases hu with
  | done => exact ⟨turns, hb, hp⟩

end Plan
end LayerSeparation
