import LayerSeparation.Proofs.Image

/-! A record of what a machine was asked. The recorded machine answers as the machine does, so a layer
goes the same way on both. Commands are recorded with their answers, readings of the abort signal with
what was read; readings of the clock are not recorded. -/
namespace LayerSeparation
variable {σ : Type}

inductive Occurrence where
  | sent (c : Command) (answer : Except AxisError c.Answer)
  | polled (asked : Bool)

namespace Occurrence

def isSent : Occurrence → Bool
  | .sent .. => true
  | .polled _ => false

def frees : Occurrence → Bool
  | .sent (.home .tilt) (.ok found) => found
  | _ => false

end Occurrence

def Turn.occurrence (x : Turn) : Occurrence := .sent x.command (.ok x.answer)

theorem Turn.frees_occurrence (x : Turn) : x.occurrence.frees = x.frees := by
  obtain ⟨phase, c, a⟩ := x
  cases c with
  | home axis => cases axis <;> rfl
  | _ => rfl

/- What is recorded before a call when the call before it belongs to the phase entered. -/
def entry (entered phase : Phase) : List Occurrence :=
  if phase = entered then [] else [.polled false]

def watched : Phase → List (Phase × Occurrence) → List Occurrence
  | _, [] => []
  | entered, (phase, o) :: calls => entry entered phase ++ o :: watched phase calls

theorem filterMap_entry {α : Type} {g : Occurrence → Option α} (polled : g (.polled false) = none)
    (entered phase : Phase) : (entry entered phase).filterMap g = [] := by
  unfold entry
  split
  · rfl
  · exact List.filterMap_cons_none polled

theorem filterMap_watched {α : Type} {g : Occurrence → Option α} (polled : g (.polled false) = none)
    (entered : Phase) (calls : List (Phase × Occurrence)) :
    (watched entered calls).filterMap g = calls.filterMap fun x => g x.2 := by
  induction calls generalizing entered with
  | nil => rfl
  | cons x calls ih =>
    obtain ⟨phase, o⟩ := x
    rw [watched, List.filterMap_append, filterMap_entry polled, List.filterMap_cons,
      List.filterMap_cons, ih]
    rfl

theorem filter_watched {entered : Phase} {calls : List (Phase × Occurrence)}
    (sent : ∀ x ∈ calls, x.2.isSent = true) :
    (watched entered calls).filter Occurrence.isSent = calls.map Prod.snd := by
  rw [← List.filterMap_eq_filter, filterMap_watched rfl]
  induction calls with
  | nil => rfl
  | cons x calls ih =>
    obtain ⟨call, others⟩ := List.forall_mem_cons.mp sent
    simp [call, ih others]

theorem mem_of_mem_watched {entered : Phase} {calls : List (Phase × Occurrence)} {o : Occurrence}
    (h : o ∈ watched entered calls) : o = .polled false ∨ ∃ x ∈ calls, x.2 = o := by
  induction calls generalizing entered with
  | nil => cases h
  | cons x calls ih =>
    obtain ⟨phase, o'⟩ := x
    rw [watched, List.mem_append, List.mem_cons] at h
    rcases h with h | rfl | h
    · unfold entry at h
      split at h
      · cases h
      · exact .inl (List.mem_singleton.mp h)
    · exact .inr ⟨_, List.mem_cons_self, rfl⟩
    · rcases ih h with h | ⟨x, hx, same⟩
      · exact .inl h
      · exact .inr ⟨x, List.mem_cons_of_mem _ hx, same⟩

def Turn.call (x : Turn) : Phase × Occurrence := (x.phase, x.occurrence)

namespace Machine

def record (m : Machine σ) (c : Command) (s : σ × List Occurrence) :
    Except AxisError c.Answer × σ × List Occurrence :=
  let (answer, world) := m.perform c s.1
  (answer, world, s.2 ++ [.sent c answer])

def recorded (m : Machine σ) : Machine (σ × List Occurrence) where
  tilt := {
    setCurve := fun curve => m.record (.setTiltCurve curve)
    moveRelative := fun steps => m.record (.moveRelative .tilt steps)
    moveAbsolute := fun position => m.record (.moveAbsolute .tilt position)
    position := m.record (.readPosition .tilt)
    queryStall := m.record (.queryStall .tilt)
    home := m.record (.home .tilt) }
  tower := {
    setCurve := fun curve => m.record (.setTowerCurve curve)
    moveRelative := fun steps => m.record (.moveRelative .tower steps)
    moveAbsolute := fun position => m.record (.moveAbsolute .tower position)
    position := m.record (.readPosition .tower)
    queryStall := m.record (.queryStall .tower)
    home := m.record (.home .tower) }
  wait := fun ms s => (m.record (.wait ms) s).2
  now := fun s => ((m.now s.1).1, (m.now s.1).2, s.2)
  abortRequested := fun s =>
    ((m.abortRequested s.1).1, (m.abortRequested s.1).2, s.2 ++ [.polled (m.abortRequested s.1).1])

theorem perform_recorded (m : Machine σ) (c : Command) : m.recorded.perform c = m.record c := by
  cases c with
  | setTiltCurve curve => rfl
  | setTowerCurve curve => rfl
  | moveRelative axis steps => cases axis <;> rfl
  | moveAbsolute axis position => cases axis <;> rfl
  | readPosition axis => cases axis <;> rfl
  | queryStall axis => cases axis <;> rfl
  | home axis => cases axis <;> rfl
  | wait ms => rfl

variable {m : Machine σ}

theorem poll_recorded (phase entered : Phase) (s : σ × List Occurrence) :
    m.recorded.poll phase entered s = ((m.poll phase entered s.1).1, (m.poll phase entered s.1).2,
      s.2 ++ if entered = phase then [] else [.polled (m.poll phase entered s.1).1]) := by
  unfold poll
  split
  · rw [List.append_nil]
  · rfl

/-- What is recorded of turns is what they show, whatever was recorded before. -/
theorem Performs.recorded {phase last : Phase} {world final : σ} {turns : List Turn}
    (h : m.Performs phase world turns last final) (log : List Occurrence) :
    m.recorded.Performs phase (world, log) turns last
      (final, log ++ watched phase (turns.map Turn.call)) := by
  induction h generalizing log with
  | refl phase world =>
    rw [List.map_nil, watched, List.append_nil]
    exact .refl _ _
  | @turn phase last world polled performed final x turns unasked answered rest ih =>
    have entered := poll_recorded (m := m) phase x.phase (world, log)
    rw [List.map_cons, Turn.call, watched, entry]
    simp only [unasked] at entered
    generalize (if x.phase = phase then [] else [.polled false] : List Occurrence) = polls
      at entered ⊢
    have sent := congrFun (perform_recorded m x.command) (polled, log ++ polls)
    rw [record] at sent
    simp only [answered] at sent
    have later := ih (log ++ polls ++ [x.occurrence])
    have order : log ++ polls ++ [x.occurrence] ++ watched x.phase (turns.map Turn.call) =
        log ++ (polls ++ x.occurrence :: watched x.phase (turns.map Turn.call)) := by simp
    rw [order] at later
    exact .turn entered sent later

theorem attemptHoming_recorded (s : σ × List Occurrence) :
    m.recorded.attemptHoming s = ((m.attemptHoming s.1).1, (m.attemptHoming s.1).2,
      s.2 ++ [.sent (.home .tilt) (m.tilt.home s.1).1]) := by
  have same : m.recorded.tilt.home s = m.record (.home .tilt) s := rfl
  rw [attemptHoming, attemptHoming, same, record]
  simp only [perform]
  cases m.tilt.home s.1 with
  | mk answer world => cases answer <;> rfl

theorem recorded_image (m : Machine σ) : m.recorded.Image m Prod.fst where
  perform c s := by
    rw [perform_recorded]
    rfl
  now _ := rfl
  abort _ := rfl

end Machine

namespace Separator

/-- A layer goes the same way whether it is recorded or not. -/
theorem separateLayer_recorded (sep : Separator) (m : Machine σ) (area : Float32)
    (nextLayerNm : Int32) (s : σ × List Occurrence) :
    (sep.separateLayer m.recorded area nextLayerNm s).1 =
        (sep.separateLayer m area nextLayerNm s.1).1 ∧
      (sep.separateLayer m.recorded area nextLayerNm s).2.1 =
        (sep.separateLayer m area nextLayerNm s.1).2.1 ∧
      (sep.separateLayer m.recorded area nextLayerNm s).2.2.1 =
        (sep.separateLayer m area nextLayerNm s.1).2.2 := by
  rw [(Machine.recorded_image m).separateLayer sep area nextLayerNm s]
  exact ⟨rfl, rfl, rfl⟩

def occurrences (sep : Separator) (m : Machine σ) (area : Float32) (nextLayerNm : Int32)
    (world : σ) : List Occurrence :=
  (sep.separateLayer m.recorded area nextLayerNm (world, [])).2.2.2

theorem occurrences_of_performs {sep : Separator} {m : Machine σ} {area : Float32}
    {nextLayerNm : Int32} {world final : σ} {s : Setup} {turns : List Turn} {last : Phase}
    (accepted : Setup.resolve sep.table (sep.exposure.select area) sep.geometry nextLayerNm = .ok s)
    (ends : (Script.separation s).Ends turns)
    (h : m.Performs sep.phase (m.now world).2 turns last final) :
    sep.occurrences m area nextLayerNm world = watched sep.phase (turns.map Turn.call) := by
  rw [occurrences, separateLayer_of_performs accepted ends (h.recorded [])]
  rfl

theorem sent_of_performs {sep : Separator} {m : Machine σ} {area : Float32} {nextLayerNm : Int32}
    {world final : σ} {s : Setup} {turns : List Turn} {last : Phase}
    (accepted : Setup.resolve sep.table (sep.exposure.select area) sep.geometry nextLayerNm = .ok s)
    (ends : (Script.separation s).Ends turns)
    (h : m.Performs sep.phase (m.now world).2 turns last final) :
    (sep.occurrences m area nextLayerNm world).filter Occurrence.isSent =
      turns.map Turn.occurrence := by
  have sent : ∀ x ∈ turns.map Turn.call, x.2.isSent = true := by
    intro x hx
    obtain ⟨turn, _, rfl⟩ := List.mem_map.mp hx
    rfl
  rw [occurrences_of_performs accepted ends h, filter_watched sent, List.map_map]
  rfl

theorem sent_mem_occurrences_iff {sep : Separator} {m : Machine σ} {area : Float32}
    {nextLayerNm : Int32} {world final : σ} {s : Setup} {turns : List Turn} {last : Phase}
    (accepted : Setup.resolve sep.table (sep.exposure.select area) sep.geometry nextLayerNm = .ok s)
    (ends : (Script.separation s).Ends turns)
    (h : m.Performs sep.phase (m.now world).2 turns last final) {c : Command}
    {answer : Except AxisError c.Answer} :
    .sent c answer ∈ sep.occurrences m area nextLayerNm world ↔
      ∃ x ∈ turns, x.occurrence = .sent c answer := by
  rw [← List.mem_map, ← sent_of_performs accepted ends h, List.mem_filter]
  exact ⟨fun seen => ⟨seen, rfl⟩, And.left⟩

theorem countP_frees_of_performs {sep : Separator} {m : Machine σ} {area : Float32}
    {nextLayerNm : Int32} {world final : σ} {s : Setup} {turns : List Turn} {last : Phase}
    (accepted : Setup.resolve sep.table (sep.exposure.select area) sep.geometry nextLayerNm = .ok s)
    (ends : (Script.separation s).Ends turns)
    (h : m.Performs sep.phase (m.now world).2 turns last final) :
    (sep.occurrences m area nextLayerNm world).countP Occurrence.frees =
      turns.countP Turn.frees := by
  have sent_of_frees : ∀ o : Occurrence, o.frees = true → o.isSent = true := by
    intro o ho
    cases o with
    | sent c answer => rfl
    | polled asked => cases ho
  have onlySent : ∀ os : List Occurrence, os.countP Occurrence.frees =
      (os.filter Occurrence.isSent).countP Occurrence.frees := by
    intro os
    rw [List.countP_filter]
    apply List.countP_congr
    intro o _
    constructor
    · intro ho
      simp [ho, sent_of_frees o ho]
    · intro ho
      simp only [Bool.and_eq_true] at ho
      exact ho.1
  rw [onlySent, sent_of_performs accepted ends h, List.countP_map]
  apply List.countP_congr
  intro x _
  rw [Function.comp_apply, Turn.frees_occurrence]

end Separator
end LayerSeparation
