import LayerSeparation.Proofs.Order
import LayerSeparation.Proofs.Refinement

/-! Requests to stop. The abort signal is a sequence of answers, one for each reading, and a layer is
compared with the same layer that is never asked to stop. The calls of both are the same up to the phase
on whose entry the first positive answer is read. After it nothing but homings of the tilt is sent. -/
namespace LayerSeparation
variable {σ : Type}

def Event.issuedIn? : Event → Option Phase
  | .issued phase _ => some phase
  | .fed _ | .done | .failed _ => none

/-- The machine with an abort signal that gives the answers of a sequence in turn. -/
def Machine.signalled (m : Machine σ) (signal : Nat → Bool) : Machine (σ × Nat) where
  tilt := m.tilt.within Prod.fst fun w s => (w, s.2)
  tower := m.tower.within Prod.fst fun w s => (w, s.2)
  wait := fun ms s => (m.wait ms s.1, s.2)
  now := fun s => ((m.now s.1).1, (m.now s.1).2, s.2)
  abortRequested := fun s => (signal s.2, s.1, s.2 + 1)

def Machine.unasked (m : Machine σ) : Machine σ :=
  { m with abortRequested := fun w => (false, w) }

def Setup.calls (s : Setup) (log : List Occurrence) : List (Phase × Occurrence) :=
  ((s.planned log).filterMap Event.issuedIn?).zip (log.filter Occurrence.isSent)

/-- The record of calls when the signal is read right before the first call of every phase and does not
ask to stop. The phases `seen` were entered before. -/
def polling : List Phase → List (Phase × Occurrence) → List Occurrence
  | _, [] => []
  | seen, (phase, o) :: calls =>
    (if phase ∈ seen then [] else [.polled false]) ++ o :: polling (phase :: seen) calls

def readings (log : List Occurrence) : Nat := log.countP fun o => !o.isSent

/- The signal does not ask when it is read `n` times after the first `k`. -/
def Quiet (signal : Nat → Bool) (k n : Nat) : Prop := ∀ i < n, signal (k + i) = false

def foundBy : Except AxisError Bool → Bool
  | .ok found => found
  | .error _ => false

/-- How many homings make the tilt safe when they are answered like that: as many as it takes to find
the stop, but no more than the way down has attempts and at least one. -/
def Setup.homingsDue (s : Setup) (answers : List (Except AxisError Bool)) : Nat :=
  match s.tilt with
  | none => 0
  | some moves => min (answers.findIdx foundBy + 1) (max 1 moves.down.homingCycles.toNat)

structure Cancels (s : Setup) (calls : List (Phase × Occurrence))
    (run : (Nat → Bool) → Except SeparationError SeparationReport × List Occurrence) : Prop where
  quiet : (run fun _ => false).2 = polling [] calls
  unasked : ∀ signal, (∀ i < readings (polling [] calls), signal i = false) →
    run signal = run fun _ => false
  entered : ∀ i < readings (polling [] calls), ∃ before phase o after,
    calls = before ++ (phase, o) :: after ∧ phase ∉ before.map Prod.fst ∧
      readings (polling [] before) = i
  asked : ∀ signal before phase o after, calls = before ++ (phase, o) :: after →
    phase ∉ before.map Prod.fst → (∀ i < readings (polling [] before), signal i = false) →
    signal (readings (polling [] before)) = true →
    (run signal).1 = .error (.cancelled phase) ∧
      ∃ answers, answers.length = s.homingsDue answers ∧ (run signal).2 = polling [] before ++
        .polled true :: answers.map fun answer => .sent (.home .tilt) answer

section
variable {seen : List Phase} {entered phase : Phase} {o : Occurrence}
  {calls : List (Phase × Occurrence)}

/- Among phases in order a phase that was entered before is the one entered last. -/
theorem polling_eq_watched (order : (entered :: calls.map Prod.fst).Pairwise (· ≤ ·))
    (past : ∀ q ∈ seen, q ≤ entered) (here : entered ∈ seen ∨ ∀ x ∈ calls, x.1 ≠ entered) :
    polling seen calls = watched entered calls := by
  induction calls generalizing seen entered with
  | nil => rfl
  | cons x calls ih =>
    obtain ⟨phase, o⟩ := x
    obtain ⟨least, later⟩ := List.pairwise_cons.mp order
    have low : entered ≤ phase := least phase List.mem_cons_self
    have entered_iff : phase ∈ seen ↔ phase = entered := by
      constructor
      · exact fun h => Phase.le_antisymm (past phase h) low
      · rintro rfl
        rcases here with h | h
        · exact h
        · exact absurd rfl (h _ List.mem_cons_self)
    have rest : polling (phase :: seen) calls = watched phase calls := by
      apply ih later
      · intro q hq
        rcases List.mem_cons.mp hq with rfl | hq
        · exact Nat.le_refl _
        · exact Nat.le_trans (past q hq) low
      · exact .inl List.mem_cons_self
    rw [polling, watched, entry, rest]
    simp only [entered_iff]

theorem Quiet.split {signal : Nat → Bool} {k a b : Nat} (h : Quiet signal k (a + b)) :
    Quiet signal k a ∧ Quiet signal (k + a) b := by
  refine ⟨fun i hi => h i (Nat.lt_add_right b hi), fun i hi => ?_⟩
  rw [Nat.add_assoc]
  exact h (a + i) (Nat.add_lt_add_left hi a)

theorem quiet_zero_iff {signal : Nat → Bool} {n : Nat} :
    Quiet signal 0 n ↔ ∀ i < n, signal i = false := by
  simp [Quiet]

theorem readings_append (log log' : List Occurrence) :
    readings (log ++ log') = readings log + readings log' := List.countP_append

theorem readings_watched_cons (sent : o.isSent = true) :
    readings (watched entered ((phase, o) :: calls)) =
      readings (entry entered phase) + readings (watched phase calls) := by
  have silent : readings (o :: watched phase calls) = readings (watched phase calls) := by
    simp [readings, sent]
  rw [watched, readings_append, silent]

theorem readings_polling_cons (sent : o.isSent = true) :
    readings (polling seen ((phase, o) :: calls)) =
      (if phase ∈ seen then 0 else 1) + readings (polling (phase :: seen) calls) := by
  have silent : readings (o :: polling (phase :: seen) calls) =
      readings (polling (phase :: seen) calls) := by
    simp [readings, sent]
  rw [polling, readings_append, silent]
  split <;> rfl

/- Every reading belongs to the first call of a phase. -/
theorem entered_of_reading (sent : ∀ x ∈ calls, x.2.isSent = true) {i : Nat}
    (h : i < readings (polling seen calls)) :
    ∃ before phase o after, calls = before ++ (phase, o) :: after ∧ phase ∉ seen ∧
      phase ∉ before.map Prod.fst ∧ readings (polling seen before) = i := by
  induction calls generalizing seen i with
  | nil => cases h
  | cons x calls ih =>
    obtain ⟨phase, o⟩ := x
    obtain ⟨call, others⟩ := List.forall_mem_cons.mp sent
    rw [readings_polling_cons call] at h
    -- the reading is the one before this call, or it is made later and counted from there
    have later : ∀ j, j < readings (polling (phase :: seen) calls) →
        i = (if phase ∈ seen then 0 else 1) + j →
        ∃ before q o' after, (phase, o) :: calls = before ++ (q, o') :: after ∧ q ∉ seen ∧
          q ∉ before.map Prod.fst ∧ readings (polling seen before) = i := by
      intro j hj index
      obtain ⟨before, q, o', after, rfl, new, first, same⟩ := ih others hj
      simp only [List.mem_cons, not_or] at new
      refine ⟨(phase, o) :: before, q, o', after, rfl, new.2, ?_, ?_⟩
      · simp only [List.map_cons, List.mem_cons, not_or]
        exact ⟨new.1, first⟩
      · rw [readings_polling_cons call, same, index]
    by_cases known : phase ∈ seen
    · rw [if_pos known] at h later
      exact later i (by omega) (by omega)
    · rw [if_neg known] at h later
      cases i with
      | zero => exact ⟨[], phase, o, calls, rfl, known, List.not_mem_nil, rfl⟩
      | succ i => exact later i (by omega) (by omega)

end

namespace Machine

theorem perform_signalled (m : Machine σ) (signal : Nat → Bool) (c : Command) (s : σ × Nat) :
    (m.signalled signal).perform c s = ((m.perform c s.1).1, (m.perform c s.1).2, s.2) := by
  cases c with
  | setTiltCurve curve => rfl
  | setTowerCurve curve => rfl
  | moveRelative axis steps => cases axis <;> rfl
  | moveAbsolute axis position => cases axis <;> rfl
  | readPosition axis => cases axis <;> rfl
  | queryStall axis => cases axis <;> rfl
  | home axis => cases axis <;> rfl
  | wait ms => rfl

theorem perform_unasked (m : Machine σ) (c : Command) : m.unasked.perform c = m.perform c := by
  cases h : c.axis with
  | none => exact (addressed m).delay c h m.unasked rfl
  | some axis =>
    cases axis with
    | tilt => exact (addressed m).tilt c h m.unasked rfl
    | tower => exact (addressed m).tower c h m.unasked rfl

theorem poll_unasked (m : Machine σ) (entered phase : Phase) (world : σ) :
    m.unasked.poll entered phase world = (false, world) := by
  unfold poll
  split <;> rfl

theorem attemptHoming_eq (m : Machine σ) (world : σ) :
    m.attemptHoming world = (foundBy (m.tilt.home world).1, (m.tilt.home world).2) := by
  unfold attemptHoming
  cases m.tilt.home world with
  | mk answer next => cases answer <;> rfl

/- Each homing that misses takes one of the attempts that are left. -/
theorem homings_recorded (m : Machine σ) (budget : HomingBudget) (s : σ × List Occurrence)
    (left : budget.attempts.toNat < budget.allowed.toNat) :
    ∃ answers : List (Except AxisError Bool),
      answers.length = min (answers.findIdx foundBy + 1)
        (budget.allowed.toNat - budget.attempts.toNat) ∧
      (m.recorded.homeWithin budget s).2 =
        s.2 ++ answers.map fun answer => .sent (.home .tilt) answer := by
  have allowed : ∀ b : HomingBudget, b.spend.allowed = b.allowed := fun _ => rfl
  have attempt : ∀ s, m.recorded.attemptHoming s = (foundBy (m.tilt.home s.1).1,
      (m.tilt.home s.1).2, s.2 ++ [.sent (.home .tilt) (m.tilt.home s.1).1]) := by
    intro s
    rw [attemptHoming_recorded, attemptHoming_eq]
  fun_induction m.recorded.homeWithin budget s with
  | case1 budget s rest hr ih =>
    simp only [attempt] at hr ih ⊢
    obtain ⟨missed, more, rfl⟩ := HomingBudget.record_retry_iff.mp hr
    have spent := budget.toNat_attempts_spend
    have bound := budget.allowed.toNat_lt
    rw [HomingBudget.isExhausted_iff, allowed] at more
    obtain ⟨answers, count, record⟩ := ih (by rw [allowed]; omega)
    refine ⟨(m.tilt.home s.1).1 :: answers, ?_, ?_⟩
    · rw [List.findIdx_cons, missed, List.length_cons, count, allowed]
      simp only [cond_false]
      omega
    · rw [record, List.map_cons, List.append_assoc]
      rfl
  | case2 budget s attempts rest hr =>
    simp only [attempt] at hr ⊢
    have found := HomingBudget.homed_of_record_recovered hr
    refine ⟨[(m.tilt.home s.1).1], ?_, rfl⟩
    rw [List.findIdx_cons, found, List.length_singleton]
    simp only [cond_true]
    omega
  | case3 budget s attempts rest hr =>
    simp only [attempt] at hr ⊢
    obtain ⟨missed, spent, _, _⟩ := HomingBudget.record_exhausted_iff.mp hr
    rw [HomingBudget.isExhausted_iff, allowed, budget.toNat_attempts_spend] at spent
    refine ⟨[(m.tilt.home s.1).1], ?_, rfl⟩
    rw [List.findIdx_cons, missed, List.length_singleton]
    simp only [cond_false]
    omega

end Machine

theorem Setup.makeSafe_recorded (s : Setup) (m : Machine σ) (w : σ × List Occurrence) :
    ∃ answers, answers.length = s.homingsDue answers ∧ (s.makeSafe m.recorded w).2 =
      w.2 ++ answers.map fun answer => .sent (.home .tilt) answer := by
  unfold makeSafe homingsDue
  cases s.tilt with
  | none => exact ⟨[], rfl, (List.append_nil _).symm⟩
  | some moves =>
    dsimp only
    have attempts := toNat_moves moves.down.homingCycles
    have fresh : (0 : UInt8).toNat = 0 := rfl
    obtain ⟨answers, count, record⟩ := m.homings_recorded
      ⟨if moves.down.homingCycles = 0 then 1 else moves.down.homingCycles, 0⟩ w
      (by dsimp only; omega)
    refine ⟨answers, ?_, record⟩
    dsimp only at count
    rw [attempts, fresh] at count
    omega

namespace Script
variable {t : Script}

def calls (m : Machine σ) : Script → σ → List (Phase × Occurrence)
  | .done, _ | .fail _, _ => []
  | .recovered rest, w => rest.calls m w
  | .ask phase c next, w => (phase, .sent c (m.perform c w).1) ::
    match m.perform c w with
    | (.ok a, w) => (next a).calls m w
    | (.error _, _) => []

theorem sent_of_mem_calls (m : Machine σ) (w : σ) : ∀ x ∈ t.calls m w, x.2.isSent = true := by
  induction t generalizing w with
  | done => exact List.forall_mem_nil _
  | fail e => exact List.forall_mem_nil _
  | recovered t ih => exact ih w
  | ask phase c next ih =>
    rw [calls, List.forall_mem_cons]
    refine ⟨rfl, ?_⟩
    cases m.perform c w with
    | mk answer performed =>
      cases answer with
      | error error => exact List.forall_mem_nil _
      | ok a => exact ih a performed

theorem calls_ordered {lo hi : Phase} (h : t.Spans lo hi) (m : Machine σ) (w : σ) :
    (lo :: (t.calls m w).map Prod.fst).Pairwise (· ≤ ·) := by
  induction t generalizing lo w with
  | done => exact List.pairwise_singleton _ _
  | fail e => exact List.pairwise_singleton _ _
  | recovered t ih => exact ih h w
  | ask phase c next ih =>
    obtain ⟨⟨low, high⟩, later⟩ := h
    have first : ∀ qs, (phase :: qs).Pairwise (· ≤ ·) → (lo :: phase :: qs).Pairwise (· ≤ ·) := by
      intro qs order
      refine List.pairwise_cons.mpr ⟨?_, order⟩
      intro q hq
      rcases List.mem_cons.mp hq with rfl | hq
      · exact low
      · exact Nat.le_trans low ((List.pairwise_cons.mp order).1 q hq)
    rw [calls, List.map_cons]
    apply first
    cases m.perform c w with
    | mk answer performed =>
      cases answer with
      | error error => exact List.pairwise_singleton _ _
      | ok a => exact ih a (later a) performed

theorem lt_of_mem_calls {lo hi entered : Phase} (h : t.Spans lo hi) (start : entered < lo)
    {m : Machine σ} {w : σ} : ∀ x ∈ t.calls m w, entered < x.1 := by
  intro x hx
  have least := (List.pairwise_cons.mp (calls_ordered h m w)).1
  exact Nat.lt_of_lt_of_le start (least x.1 (List.mem_map_of_mem hx))

/- The phases of the calls come in order, so none is entered a second time. -/
theorem polling_calls {lo hi entered : Phase} (h : t.Spans lo hi) (start : entered < lo)
    (m : Machine σ) (w : σ) {calls : List (Phase × Occurrence)} (part : calls <+: t.calls m w) :
    polling [] calls = watched entered calls := by
  have past : ∀ x ∈ calls, entered < x.1 := fun x hx =>
    lt_of_mem_calls h start x (part.subset hx)
  have order := (calls_ordered h m w).sublist ((part.sublist.map Prod.fst).cons_cons lo)
  apply polling_eq_watched
  · refine List.pairwise_cons.mpr ⟨?_, (List.pairwise_cons.mp order).2⟩
    intro q hq
    obtain ⟨x, hx, rfl⟩ := List.mem_map.mp hq
    exact Nat.le_of_lt (past x hx)
  · nofun
  · refine .inr fun x hx same => ?_
    have after := past x hx
    rw [same] at after
    exact Nat.lt_irrefl _ after

/- The plan that is fed the answers issues the calls in their phases. -/
theorem issued_calls (p : Plan) (m : Machine σ) (w : σ) :
    (t.shown :: (p.resume t).2.events ((t.calls m w).filterMap fun x => x.2.feedback?)).filterMap
      Event.issuedIn? = (t.calls m w).map Prod.fst := by
  induction t generalizing p w with
  | done => rfl
  | fail e => rfl
  | recovered t ih => exact ih _ w
  | ask phase c next ih =>
    rw [calls]
    cases m.perform c w with
    | mk answer performed =>
      cases answer with
      | error error => rfl
      | ok a =>
        have accepted : (Plan.Stage.awaiting c next).accept (c.feedback a) = some (next a) :=
          Plan.accept_awaiting_iff.mpr ⟨a, rfl, rfl⟩
        have step : (p.resume (.ask phase c next)).2.next (c.feedback a) = _ :=
          Plan.next_of_accept accepted
        have answered : ∀ rest, ((phase, Occurrence.sent c (.ok a)) :: rest).filterMap
            (fun x => x.2.feedback?) = c.feedback a :: rest.filterMap fun x => x.2.feedback? :=
          fun _ => rfl
        dsimp only
        rw [answered, Plan.events, step, Plan.resume_shown]
        exact congrArg (phase :: ·) (ih a _ performed)

end Script

def Execution.logged (e : Execution σ) (k : Nat) (log : List Occurrence) :
    Execution ((σ × Nat) × List Occurrence) :=
  ⟨e.phase, e.recoveries, (e.world, k), log⟩

section
variable {m : Machine σ} {signal : Nat → Bool} {w : σ} {k : Nat} {log : List Occurrence}
  {entered phase : Phase}

theorem poll_quiet (quiet : Quiet signal k (readings (entry entered phase))) :
    (m.signalled signal).recorded.poll entered phase ((w, k), log) =
      (false, (w, k + readings (entry entered phase)), log ++ entry entered phase) := by
  unfold Machine.poll entry at *
  split
  · rw [List.append_nil]
    rfl
  · next new =>
    have unasked := quiet 0
    rw [if_neg new] at unasked
    have answer : signal k = false := unasked (Nat.lt_succ_self 0)
    have reading : (m.signalled signal).recorded.abortRequested ((w, k), log) =
      (signal k, (w, k + 1), log ++ [.polled (signal k)]) := rfl
    rw [reading, answer]
    rfl

theorem perform_logged (c : Command) :
    (m.signalled signal).recorded.perform c ((w, k), log) =
      ((m.perform c w).1, ((m.perform c w).2, k), log ++ [.sent c (m.perform c w).1]) := by
  rw [Machine.perform_recorded, Machine.record]
  simp only [Machine.perform_signalled]

variable {safe : (σ × Nat) × List Occurrence → (σ × Nat) × List Occurrence} {e : Execution σ}

/- One call that is not preceded by a request to stop. -/
theorem execute_ask {c : Command} {next : c.Answer → Script}
    (quiet : Quiet signal k (readings (entry e.phase phase))) :
    (Script.ask phase c next).execute (m.signalled signal).recorded safe (e.logged k log) =
      match m.perform c e.world with
      | (.ok a, w) => (next a).execute (m.signalled signal).recorded safe
          (Execution.logged ⟨phase, e.recoveries, w⟩ (k + readings (entry e.phase phase))
            (log ++ entry e.phase phase ++ [.sent c (.ok a)]))
      | (.error error, w) => (.error (.axisCommandFailure (c.axis.getD .tilt) phase error),
          Execution.logged ⟨phase, e.recoveries, w⟩ (k + readings (entry e.phase phase))
            (log ++ entry e.phase phase ++ [.sent c (.error error)])) := by
  rw [Script.execute, Execution.enter_eq]
  simp only [Execution.logged, poll_quiet quiet, perform_logged]
  cases m.perform c e.world with
  | mk answer performed => cases answer <;> rfl

variable {t : Script}

/-- As long as the signal does not ask, an execution goes as it does without a signal. -/
theorem execute_unasked (safe : (σ × Nat) × List Occurrence → (σ × Nat) × List Occurrence)
    (safe' : σ → σ) (log : List Occurrence)
    (quiet : Quiet signal k (readings (watched e.phase (t.calls m e.world)))) :
    t.execute (m.signalled signal).recorded safe (e.logged k log) =
      ((t.execute m.unasked safe' e).1, (t.execute m.unasked safe' e).2.logged
        (k + readings (watched e.phase (t.calls m e.world)))
        (log ++ watched e.phase (t.calls m e.world))) := by
  induction t generalizing e k log with
  | done =>
    rw [Script.calls, watched, List.append_nil]
    rfl
  | fail error =>
    rw [Script.calls, watched, List.append_nil]
    rfl
  | recovered t ih => exact ih (e := { e with recoveries := e.recoveries + 1 }) log quiet
  | ask phase c next ih =>
    rw [Script.calls, readings_watched_cons rfl] at quiet
    obtain ⟨here, later⟩ := quiet.split
    rw [Script.calls, readings_watched_cons rfl, watched, execute_ask here, Script.execute,
      Execution.enter_eq, Machine.poll_unasked]
    simp only [Machine.perform_unasked]
    cases hc : m.perform c e.world with
    | mk answer performed =>
      rw [hc] at later
      cases answer with
      | error error =>
        simp only [watched, List.append_assoc]
        rfl
      | ok a =>
        have rest := ih a (e := ⟨phase, e.recoveries, performed⟩)
          (log ++ entry e.phase phase ++ [.sent c (.ok a)]) later
        dsimp only at rest ⊢
        rw [rest, Nat.add_assoc]
        simp only [List.append_assoc, List.singleton_append]

/-- At the first positive answer the calls so far are on record, and the tilt is made safe. -/
theorem execute_asked (safe : (σ × Nat) × List Occurrence → (σ × Nat) × List Occurrence)
    (log : List Occurrence) {before after : List (Phase × Occurrence)} {o : Occurrence}
    (split : t.calls m e.world = before ++ (phase, o) :: after)
    (new : phase ∉ e.phase :: before.map Prod.fst)
    (quiet : Quiet signal k (readings (watched e.phase before)))
    (asks : signal (k + readings (watched e.phase before)) = true) :
    ∃ r w' k', t.execute (m.signalled signal).recorded safe (e.logged k log) =
      (.error (.cancelled phase),
        ⟨phase, r, safe ((w', k'), log ++ watched e.phase before ++ [.polled true])⟩) := by
  induction t generalizing e k log before with
  | done => simp [Script.calls] at split
  | fail error => simp [Script.calls] at split
  | recovered t ih => exact ih (e := { e with recoveries := e.recoveries + 1 }) log split new quiet asks
  | ask q c next ih =>
    rw [Script.calls] at split
    cases before with
    | nil =>
      cases split
      have other : phase ≠ e.phase := by
        rintro rfl
        exact new List.mem_cons_self
      have answer : signal k = true := asks
      have polled : (m.signalled signal).recorded.poll e.phase phase ((e.world, k), log) =
          (true, (e.world, k + 1), log ++ [.polled true]) := by
        rw [Machine.poll, if_neg other, ← answer]
        rfl
      refine ⟨e.recoveries, e.world, k + 1, ?_⟩
      rw [Script.execute, Execution.enter_eq, watched, List.append_nil]
      simp only [Execution.logged, polled]
    | cons x before =>
      obtain ⟨rfl, rest⟩ := List.cons_eq_cons.mp split
      rw [readings_watched_cons rfl] at quiet asks
      obtain ⟨here, later⟩ := quiet.split
      rw [execute_ask here, watched]
      cases hc : m.perform c e.world with
      | mk answer performed =>
        rw [hc] at rest
        cases answer with
        | error error => simp at rest
        | ok a =>
          rw [← Nat.add_assoc] at asks
          obtain ⟨r, w', k', same⟩ := ih a (e := ⟨q, e.recoveries, performed⟩)
            (log ++ entry e.phase q ++ [.sent c (.ok a)]) rest
            (fun known => new (List.mem_cons_of_mem _ known)) later asks
          refine ⟨r, w', k', ?_⟩
          dsimp only at same ⊢
          rw [same]
          simp only [List.append_assoc, List.cons_append, List.nil_append]

end

/- The calls can be read off the record. -/
theorem Setup.calls_watched (s : Setup) (entered : Phase) (m : Machine σ) (w : σ) :
    s.calls (watched entered ((Script.separation s).calls m w)) =
      (Script.separation s).calls m w := by
  have first : (Plan.ofSetup s).next .none = (Plan.ofSetup s).resume (.separation s) := rfl
  have fed : ∀ f run, (Event.fed f :: run).filterMap Event.issuedIn? =
    run.filterMap Event.issuedIn? := fun _ _ => rfl
  have issued := Script.issued_calls (t := .separation s) (.ofSetup s) m w
  symm
  apply List.zip_of_prod
  · rw [planned, Plan.events, first, Plan.resume_shown, filterMap_watched rfl, fed]
    exact issued.symm
  · exact (filter_watched (Script.sent_of_mem_calls m w)).symm

namespace Separator
variable {sep : Separator} {m : Machine σ} {area : Float32} {nextLayerNm : Int32} {world : σ}
  {s : Setup} {signal : Nat → Bool}

def underSignal (sep : Separator) (m : Machine σ) (area : Float32) (nextLayerNm : Int32) (world : σ)
    (signal : Nat → Bool) : Except SeparationError SeparationReport × List Occurrence :=
  ((sep.separateLayer (m.signalled signal) area nextLayerNm (world, 0)).1,
    sep.occurrences (m.signalled signal) area nextLayerNm (world, 0))

theorem underSignal_unasked (m : Machine σ) (world : σ)
    (accepted : Setup.resolve sep.table (sep.exposure.select area) sep.geometry nextLayerNm = .ok s)
    (quiet : ∀ i < readings (watched sep.phase ((Script.separation s).calls m (m.now world).2)),
      signal i = false) :
    sep.underSignal m area nextLayerNm world signal =
      ((sep.separateLayer m.unasked area nextLayerNm world).1,
        watched sep.phase ((Script.separation s).calls m (m.now world).2)) := by
  have ran := execute_unasked (s.makeSafe (m.signalled signal).recorded) (s.makeSafe m.unasked) []
    (e := ⟨sep.phase, 0, (m.now world).2⟩) (quiet_zero_iff.mpr quiet)
  have start : sep.ran s (m.signalled signal).recorded ((world, 0), []) = _ := ran
  have record : sep.occurrences (m.signalled signal) area nextLayerNm (world, 0) =
      watched sep.phase ((Script.separation s).calls m (m.now world).2) := by
    rw [occurrences_of_ran _ _ accepted, start]
    rfl
  have result := (separateLayer_recorded sep (m.signalled signal) area nextLayerNm ((world, 0), [])).1
  have read : ∀ w, (m.signalled signal).recorded.now w =
    ((m.now w.1.1).1, ((m.now w.1.1).2, w.1.2), w.2) := fun _ => rfl
  have read_unasked : m.unasked.now = m.now := rfl
  rw [underSignal, record, ← result]
  rw [ExposureProfile.select] at accepted
  unfold separateLayer
  simp only [Execution.logged] at ran
  simp only [accepted, read, read_unasked, ran]
  cases ((Script.separation s).execute m.unasked (s.makeSafe m.unasked)
    ⟨sep.phase, 0, (m.now world).2⟩).1 with
  | error e => rfl
  | ok done => rfl

theorem underSignal_asked {before after : List (Phase × Occurrence)} {phase : Phase} {o : Occurrence}
    (accepted : Setup.resolve sep.table (sep.exposure.select area) sep.geometry nextLayerNm = .ok s)
    (split : (Script.separation s).calls m (m.now world).2 = before ++ (phase, o) :: after)
    (new : phase ∉ sep.phase :: before.map Prod.fst)
    (quiet : ∀ i < readings (watched sep.phase before), signal i = false)
    (asks : signal (readings (watched sep.phase before)) = true) :
    (sep.underSignal m area nextLayerNm world signal).1 = .error (.cancelled phase) ∧
      ∃ answers, answers.length = s.homingsDue answers ∧
        (sep.underSignal m area nextLayerNm world signal).2 = watched sep.phase before ++
          .polled true :: answers.map fun answer => .sent (.home .tilt) answer := by
  rw [← Nat.zero_add (readings _)] at asks
  obtain ⟨r, w', k', ran⟩ := execute_asked (s.makeSafe (m.signalled signal).recorded) []
    (e := ⟨sep.phase, 0, (m.now world).2⟩) split new (quiet_zero_iff.mpr quiet) asks
  obtain ⟨answers, count, record⟩ := s.makeSafe_recorded (m.signalled signal)
    ((w', k'), watched sep.phase before ++ [.polled true])
  have start : sep.ran s (m.signalled signal).recorded ((world, 0), []) = _ := ran
  constructor
  · rw [underSignal, ← (separateLayer_recorded sep (m.signalled signal) area nextLayerNm
      ((world, 0), [])).1, (result_of_ran _ _ accepted).2, start]
  · refine ⟨answers, count, ?_⟩
    rw [underSignal, occurrences_of_ran _ _ accepted, start]
    dsimp only [List.nil_append]
    rw [record, List.append_assoc]
    rfl

/-- For every machine and every abort signal, the signal is read once in each phase that sends a command,
and a request to stop leaves the calls before it and the homings of the tilt. A layer leaves the
separator idle, as it found it. -/
theorem cancellation_law (sep : Separator) (m : Machine σ) (area : Float32) (nextLayerNm : Int32)
    (world : σ) (idle : sep.phase = .idle)
    (accepted : Setup.resolve sep.table (sep.exposure.select area) sep.geometry nextLayerNm = .ok s) :
    Cancels s (s.calls (sep.underSignal m area nextLayerNm world fun _ => false).2)
        (sep.underSignal m area nextLayerNm world) ∧
      ∀ signal, (sep.separateLayer (m.signalled signal) area nextLayerNm (world, 0)).2.1 = sep := by
  have start : sep.phase < Phase.settleAfterExposure := by
    rw [idle]
    decide
  have ordered : ∀ calls, calls <+: (Script.separation s).calls m (m.now world).2 →
      polling [] calls = watched sep.phase calls := fun _ part =>
    Script.polling_calls (Script.spans_separation s) start m (m.now world).2 part
  have whole := ordered _ List.prefix_rfl
  have quiet : sep.underSignal m area nextLayerNm world (fun _ => false) = _ :=
    underSignal_unasked m world accepted fun _ _ => rfl
  have record : s.calls (sep.underSignal m area nextLayerNm world fun _ => false).2 =
      (Script.separation s).calls m (m.now world).2 := by
    rw [quiet]
    exact s.calls_watched sep.phase m (m.now world).2
  refine ⟨?_, fun signal => separateLayer_idle idle⟩
  rw [record]
  constructor
  · rw [quiet, whole]
  · intro signal unasked
    rw [whole] at unasked
    rw [quiet, underSignal_unasked m world accepted unasked]
  · intro i hi
    obtain ⟨before, phase, o, after, split, _, new, index⟩ :=
      entered_of_reading (Script.sent_of_mem_calls m (m.now world).2) hi
    exact ⟨before, phase, o, after, split, new, index⟩
  · intro signal before phase o after split new unasked asks
    have part := ordered before ⟨_, split.symm⟩
    have entered : sep.phase < phase := by
      apply Script.lt_of_mem_calls (Script.spans_separation s) start (phase, o)
      rw [split]
      exact List.mem_append_right _ List.mem_cons_self
    have fresh : phase ∉ sep.phase :: before.map Prod.fst := by
      rw [List.mem_cons]
      rintro (rfl | again)
      · exact Nat.lt_irrefl _ entered
      · exact new again
    rw [part] at unasked asks ⊢
    exact underSignal_asked accepted split fresh unasked asks

theorem cancellation_law_sample :
    sample.phase = .idle ∧
      Cancels .sample (Setup.sample.calls
          (sample.underSignal Bench.machine 1 50000 faultyBench fun _ => false).2)
        (sample.underSignal Bench.machine 1 50000 faultyBench) := by
  exact ⟨rfl, (cancellation_law sample Bench.machine 1 50000 faultyBench rfl (accepted_sample 1)).1⟩

end Separator
end LayerSeparation
