import LayerSeparation.Proofs.Execution

/-! Machines of which one is the image of another. If the calls of one machine go on images of states as
the calls of the other go on the states, then so does every layer. -/
namespace LayerSeparation
variable {σ τ : Type}

def Execution.map (f : σ → τ) (e : Execution σ) : Execution τ := ⟨e.phase, e.recoveries, f e.world⟩

namespace Machine

/-- The calls of `n` on images are the images of the calls of `m`, with the same answers. -/
structure Image (m : Machine σ) (n : Machine τ) (f : σ → τ) : Prop where
  perform : ∀ c w, n.perform c (f w) = ((m.perform c w).1, f (m.perform c w).2)
  now : ∀ w, n.now (f w) = ((m.now w).1, f (m.now w).2)
  abort : ∀ w, n.abortRequested (f w) = ((m.abortRequested w).1, f (m.abortRequested w).2)

namespace Image
variable {m : Machine σ} {n : Machine τ} {f : σ → τ}

theorem poll (h : m.Image n f) (phase entered : Phase) (w : σ) :
    n.poll phase entered (f w) = ((m.poll phase entered w).1, f (m.poll phase entered w).2) := by
  unfold Machine.poll
  split
  · rfl
  · exact h.abort w

theorem attemptHoming (h : m.Image n f) (w : σ) :
    n.attemptHoming (f w) = ((m.attemptHoming w).1, f (m.attemptHoming w).2) := by
  have home : n.tilt.home (f w) = ((m.tilt.home w).1, f (m.tilt.home w).2) := h.perform (.home .tilt) w
  unfold Machine.attemptHoming
  rw [home]
  cases m.tilt.home w with
  | mk answer next => cases answer <;> rfl

theorem homeWithin (h : m.Image n f) (budget : HomingBudget) (w : σ) :
    n.homeWithin budget (f w) = f (m.homeWithin budget w) := by
  fun_induction m.homeWithin budget w with
  | case1 budget w left hr ih =>
    rw [homeWithin_eq, h.attemptHoming, hr]
    exact ih
  | case2 budget w attempts left hr => rw [homeWithin_eq, h.attemptHoming, hr]
  | case3 budget w attempts left hr => rw [homeWithin_eq, h.attemptHoming, hr]

theorem makeSafe (h : m.Image n f) (s : Setup) (w : σ) :
    s.makeSafe n (f w) = f (s.makeSafe m w) := by
  unfold Setup.makeSafe
  cases s.tilt with
  | none => rfl
  | some moves => exact h.homeWithin _ w

theorem execute (h : m.Image n f) {safe : σ → σ} {safe' : τ → τ}
    (safely : ∀ w, safe' (f w) = f (safe w)) (t : Script) (e : Execution σ) :
    t.execute n safe' (e.map f) = ((t.execute m safe e).1, (t.execute m safe e).2.map f) := by
  induction t generalizing e with
  | done => rfl
  | fail error => rfl
  | recovered rest ih => exact ih { e with recoveries := e.recoveries + 1 }
  | ask phase c next ih =>
    have entered := h.poll e.phase phase e.world
    rw [Script.execute, Script.execute, Execution.enter_eq, Execution.enter_eq, Execution.map, entered]
    cases m.poll e.phase phase e.world with
    | mk asked polled =>
      cases asked with
      | true => simp only [safely, Execution.map]
      | false =>
        simp only [h.perform]
        cases m.perform c polled with
        | mk answer performed =>
          cases answer with
          | error error => rfl
          | ok a => exact ih a ⟨phase, e.recoveries, performed⟩

theorem separateLayer (h : m.Image n f) (sep : Separator) (area : Float32) (nextLayerNm : Int32)
    (w : σ) : sep.separateLayer n area nextLayerNm (f w) =
      ((sep.separateLayer m area nextLayerNm w).1, (sep.separateLayer m area nextLayerNm w).2.1,
        f (sep.separateLayer m area nextLayerNm w).2.2) := by
  unfold Separator.separateLayer
  simp only [h.now]
  cases Setup.resolve sep.table (sep.exposure.params (sep.exposure.fillFor area)) sep.geometry
    nextLayerNm with
  | error e => rfl
  | ok setup =>
    have ran := h.execute (h.makeSafe setup) (.separation setup) ⟨sep.phase, 0, (m.now w).2⟩
    simp only [Execution.map] at ran
    simp only [ran]
    cases ((Script.separation setup).execute m (setup.makeSafe m) ⟨sep.phase, 0, (m.now w).2⟩).1 with
    | error e => rfl
    | ok u => simp only [h.now]

end Image
end Machine
end LayerSeparation
