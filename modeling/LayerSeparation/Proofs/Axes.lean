import LayerSeparation.Proofs.Execution
import LayerSeparation.Simulation.Bench

/-! What calls do to the simulated axes of a bench. Only a call that succeeds tells anything, and a
command is felt by no axis but the one it addresses. -/
namespace LayerSeparation

theorem AxisDriver.within_eq {C σ τ : Type} (d : AxisDriver C τ) (get : σ → τ) (set : τ → σ → σ) :
    d.within get set = {
      setCurve := fun curve s => ((d.setCurve curve (get s)).1, set (d.setCurve curve (get s)).2 s)
      moveRelative := fun n s => ((d.moveRelative n (get s)).1, set (d.moveRelative n (get s)).2 s)
      moveAbsolute := fun p s => ((d.moveAbsolute p (get s)).1, set (d.moveAbsolute p (get s)).2 s)
      position := fun s => ((d.position (get s)).1, set (d.position (get s)).2 s)
      queryStall := fun s => ((d.queryStall (get s)).1, set (d.queryStall (get s)).2 s)
      home := fun s => ((d.home (get s)).1, set (d.home (get s)).2 s) } := rfl

namespace SimAxis
variable {C : Type} {a a' : SimAxis C}

def counted (a : SimAxis C) (call : Option (AxisCall C)) : SimAxis C :=
  { a with
    calls := a.calls + 1
    trace := (a.trace ++ call.toList).take traceLength }

theorem record_eq (a : SimAxis C) (call : Option (AxisCall C)) :
    (a.record call).2 = a.counted call := by
  unfold record counted
  cases a.fault <;> rfl

theorem call_ok {α : Type} {c : Option (AxisCall C)}
    {effect : SimAxis C → Except AxisError α × SimAxis C} {x : α}
    (h : a.call c effect = (.ok x, a')) : effect (a.counted c) = (.ok x, a') := by
  have same := record_eq a c
  unfold call at h
  cases hr : a.record c with
  | mk answer recorded =>
    rw [hr] at same h
    cases answer with
    | error e =>
      injection h with error_ok
      cases error_ok
    | ok u =>
      rw [← same]
      exact h

theorem call_spared {α : Type} {c : Option (AxisCall C)}
    {effect : SimAxis C → Except AxisError α × SimAxis C}
    (spared : ∀ error, a.fault ≠ some (a.calls, error)) : a.call c effect = effect (a.counted c) := by
  have recorded : a.record c = (.ok (), a.counted c) := by
    unfold record counted
    cases hf : a.fault with
    | none => rfl
    | some fault =>
      obtain ⟨number, error⟩ := fault
      have other : number ≠ a.calls := by
        rintro rfl
        exact spared error hf
      simp only [if_neg other]
  rw [call, recorded]

theorem call_failed {α : Type} {c : Option (AxisCall C)}
    {effect : SimAxis C → Except AxisError α × SimAxis C} {error : AxisError}
    (due : a.fault = some (a.calls, error)) : a.call c effect = (.error error, a.counted c) := by
  have recorded : a.record c = (.error error, a.counted c) := by
    unfold record counted
    simp only [due, if_true]
  rw [call, recorded]

/- What neither counting nor the effect can break, a call does not break. -/
theorem call_preserves {I : SimAxis C → Prop} {α : Type} {c : Option (AxisCall C)}
    {effect : SimAxis C → Except AxisError α × SimAxis C} (start : I a)
    (counts : ∀ a c, I a → I (a.counted c)) (acts : ∀ a, I a → I (effect a).2) :
    I (a.call c effect).2 := by
  have same := record_eq a c
  have kept := counts a c start
  unfold call
  cases hr : a.record c with
  | mk answer recorded =>
    rw [hr] at same
    rw [← same] at kept
    cases answer with
    | error e => exact kept
    | ok u => exact acts _ kept

structure Unlimited (a : SimAxis C) : Prop where
  obstruction : a.obstruction = none
  ceiling : a.ceiling = none

theorem Unlimited.counted (h : a.Unlimited) (call : Option (AxisCall C)) :
    (a.counted call).Unlimited := ⟨h.obstruction, h.ceiling⟩

theorem Unlimited.reach (h : a.Unlimited) (target : Int32) : a.reach target = (target, false) := by
  unfold SimAxis.reach
  rw [h.obstruction, h.ceiling]
  rfl

theorem Unlimited.moveTo (h : a.Unlimited) (target : Int32) : (a.moveTo target).2.Unlimited := by
  unfold SimAxis.moveTo
  split
  · exact ⟨h.obstruction, h.ceiling⟩
  · exact h

/- No call brings a limit; homing may take one away. -/
theorem Unlimited.call {α : Type} {c : Option (AxisCall C)}
    {effect : SimAxis C → Except AxisError α × SimAxis C} (h : a.Unlimited)
    (acts : ∀ a : SimAxis C, a.Unlimited → (effect a).2.Unlimited) :
    (a.call c effect).2.Unlimited := call_preserves h (fun _ c h => h.counted c) acts

theorem Unlimited.setCurve (h : a.Unlimited) (curve : C) : (a.setCurve curve).2.Unlimited :=
  h.call fun _ h => ⟨h.obstruction, h.ceiling⟩

theorem Unlimited.moveRelative (h : a.Unlimited) (steps : Int32) :
    (a.moveRelative steps).2.Unlimited := h.call fun _ h => h.moveTo _

theorem Unlimited.moveAbsolute (h : a.Unlimited) (position : Int32) :
    (a.moveAbsolute position).2.Unlimited := h.call fun _ h => h.moveTo _

theorem Unlimited.readPosition (h : a.Unlimited) : a.readPosition.2.Unlimited := h.call fun _ h => h

theorem Unlimited.queryStall (h : a.Unlimited) : a.queryStall.2.Unlimited :=
  h.call fun _ h => ⟨h.obstruction, h.ceiling⟩

theorem Unlimited.home (h : a.Unlimited) : a.home.2.Unlimited := by
  refine h.call fun a h => ?_
  dsimp only
  split
  · exact ⟨rfl, rfl⟩
  · exact ⟨h.obstruction, h.ceiling⟩

theorem Unlimited.moveTo_ok (h : a.Unlimited) {target : Int32} {u : Unit}
    (moved : a.moveTo target = (.ok u, a')) : a' = { a with position := target } := by
  unfold SimAxis.moveTo at moved
  split at moved
  · rw [h.reach] at moved
    injection moved with _ same
    rw [← same]
    simp
  · injection moved with error_ok
    cases error_ok

theorem Unlimited.moveAbsolute_ok (h : a.Unlimited) {target : Int32} {u : Unit}
    (moved : a.moveAbsolute target = (.ok u, a')) : a'.position = target ∧ a'.stall = a.stall := by
  have ended := (h.counted _).moveTo_ok (call_ok moved)
  rw [ended]
  exact ⟨rfl, rfl⟩

theorem queryStall_ok {flag : Bool} (h : a.queryStall = (.ok flag, a')) :
    a'.stall = false ∧ flag = a.stall ∧ a'.position = a.position := by
  have read := call_ok h
  injection read with answer after
  rw [← after]
  exact ⟨rfl, (Except.ok.inj answer).symm, rfl⟩

theorem readPosition_ok {p : Int32} (h : a.readPosition = (.ok p, a')) :
    p = a.position ∧ a'.position = a.position ∧ a'.stall = a.stall := by
  have read := call_ok h
  injection read with answer after
  rw [← after]
  exact ⟨(Except.ok.inj answer).symm, rfl, rfl⟩

/-- A homing that finds the stop leaves nothing that could block the axis. -/
theorem home_ok (h : a.home = (.ok true, a')) : a'.Unlimited ∧ a'.stall = false := by
  have homed := call_ok h
  dsimp only at homed
  split at homed
  · injection homed with _ after
    rw [← after]
    exact ⟨⟨rfl, rfl⟩, rfl⟩
  · injection homed with answer
    injection answer with missed
    cases missed

end SimAxis

namespace Bench
variable {b b' : Bench} {phase last : Phase} {turns : List Turn}

def onTilt {α : Type} (call : SimAxis TiltCurve → Except AxisError α × SimAxis TiltCurve)
    (b : Bench) : Except AxisError α × Bench := ((call b.tilt).1, { b with tilt := (call b.tilt).2 })

def onTower {α : Type} (call : SimAxis TowerCurve → Except AxisError α × SimAxis TowerCurve)
    (b : Bench) : Except AxisError α × Bench :=
  ((call b.tower).1, { b with tower := (call b.tower).2 })

theorem machine_tilt : machine.tilt = {
    setCurve := fun curve => onTilt (SimAxis.setCurve curve)
    moveRelative := fun steps => onTilt (SimAxis.moveRelative steps)
    moveAbsolute := fun position => onTilt (SimAxis.moveAbsolute position)
    position := onTilt SimAxis.readPosition
    queryStall := onTilt SimAxis.queryStall
    home := onTilt SimAxis.home } :=
  AxisDriver.within_eq SimAxis.driver Bench.tilt fun tilt b => { b with tilt }

theorem machine_tower : machine.tower = {
    setCurve := fun curve => onTower (SimAxis.setCurve curve)
    moveRelative := fun steps => onTower (SimAxis.moveRelative steps)
    moveAbsolute := fun position => onTower (SimAxis.moveAbsolute position)
    position := onTower SimAxis.readPosition
    queryStall := onTower SimAxis.queryStall
    home := onTower SimAxis.home } :=
  AxisDriver.within_eq SimAxis.driver Bench.tower fun tower b => { b with tower }

theorem onTilt_ok {α : Type} {call : SimAxis TiltCurve → Except AxisError α × SimAxis TiltCurve}
    {answer : Except AxisError α} (h : b.onTilt call = (answer, b')) :
    call b.tilt = (answer, b'.tilt) := by
  injection h with same after
  rw [← same, ← after]

theorem onTower_ok {α : Type} {call : SimAxis TowerCurve → Except AxisError α × SimAxis TowerCurve}
    {answer : Except AxisError α} (h : b.onTower call = (answer, b')) :
    call b.tower = (answer, b'.tower) := by
  injection h with same after
  rw [← same, ← after]

/-- What a command can be to a bench: a call of the axis it addresses, or a matter of the clock. No
call of the tower brings it a limit. -/
inductive Felt : (c : Command) → (Bench → Except AxisError c.Answer × Bench) → Prop where
  | tilt {c : Command} (call : SimAxis TiltCurve → Except AxisError c.Answer × SimAxis TiltCurve)
      (addressed : c.axis = some .tilt) : Felt c (onTilt call)
  | tower {c : Command} (call : SimAxis TowerCurve → Except AxisError c.Answer × SimAxis TowerCurve)
      (addressed : c.axis = some .tower) (kept : ∀ a, a.Unlimited → (call a).2.Unlimited) :
      Felt c (onTower call)
  | clock {c : Command} (answer : Except AxisError c.Answer) (call : SimClock → SimClock)
      (unaddressed : c.axis = none) : Felt c fun b => (answer, { b with clock := call b.clock })

theorem felt_perform (c : Command) : Felt c (machine.perform c) := by
  cases c with
  | setTiltCurve curve =>
    rw [Machine.perform, machine_tilt]
    exact .tilt _ rfl
  | setTowerCurve curve =>
    rw [Machine.perform, machine_tower]
    exact .tower _ rfl fun _ h => h.setCurve curve
  | moveRelative axis steps =>
    cases axis with
    | tilt =>
      rw [Machine.perform, machine_tilt]
      exact .tilt _ rfl
    | tower =>
      rw [Machine.perform, machine_tower]
      exact .tower _ rfl fun _ h => h.moveRelative steps
  | moveAbsolute axis position =>
    cases axis with
    | tilt =>
      rw [Machine.perform, machine_tilt]
      exact .tilt _ rfl
    | tower =>
      rw [Machine.perform, machine_tower]
      exact .tower _ rfl fun _ h => h.moveAbsolute position
  | readPosition axis =>
    cases axis with
    | tilt =>
      rw [Machine.perform, machine_tilt]
      exact .tilt _ rfl
    | tower =>
      rw [Machine.perform, machine_tower]
      exact .tower _ rfl fun _ h => h.readPosition
  | queryStall axis =>
    cases axis with
    | tilt =>
      rw [Machine.perform, machine_tilt]
      exact .tilt _ rfl
    | tower =>
      rw [Machine.perform, machine_tower]
      exact .tower _ rfl fun _ h => h.queryStall
  | home axis =>
    cases axis with
    | tilt =>
      rw [Machine.perform, machine_tilt]
      exact .tilt _ rfl
    | tower =>
      rw [Machine.perform, machine_tower]
      exact .tower _ rfl fun _ h => h.home
  | wait ms => exact .clock (c := .wait ms) (.ok ()) (fun clock => clock.delayMs ms) rfl

theorem Felt.spares_tilt {c : Command} {f : Bench → Except AxisError c.Answer × Bench}
    (h : Felt c f) (spared : c.axis ≠ some .tilt) (b : Bench) : (f b).2.tilt = b.tilt := by
  cases h with
  | tilt call addressed => exact absurd addressed spared
  | tower call addressed kept => rfl
  | clock answer call unaddressed => rfl

theorem Felt.spares_tower {c : Command} {f : Bench → Except AxisError c.Answer × Bench}
    (h : Felt c f) (spared : c.axis ≠ some .tower) (b : Bench) : (f b).2.tower = b.tower := by
  cases h with
  | tilt call addressed => rfl
  | tower call addressed kept => exact absurd addressed spared
  | clock answer call unaddressed => rfl

theorem Felt.unlimited {c : Command} {f : Bench → Except AxisError c.Answer × Bench}
    (h : Felt c f) {b : Bench} (start : b.tower.Unlimited) : (f b).2.tower.Unlimited := by
  cases h with
  | tilt call addressed => exact start
  | tower call addressed kept => exact kept _ start
  | clock answer call unaddressed => exact start

/- The clock is read without the axes. -/
theorem now_axes (b : Bench) :
    (machine.now b).2.tilt = b.tilt ∧ (machine.now b).2.tower = b.tower := by
  have same : machine.now b = b.now := rfl
  rw [same, now]
  split <;> exact ⟨rfl, rfl⟩

theorem tilt_of_performs (h : machine.Performs phase b turns last b')
    (spared : ∀ x ∈ turns, x.command.axis ≠ some .tilt) : b'.tilt = b.tilt := by
  refine h.preserves (I := fun w : Bench => w.tilt = b.tilt) (fun _ hw => hw) ?_ rfl
  intro x hx w hw
  rw [(felt_perform x.command).spares_tilt (spared x hx), hw]

theorem tower_of_performs (h : machine.Performs phase b turns last b')
    (spared : ∀ x ∈ turns, x.command.axis ≠ some .tower) : b'.tower = b.tower := by
  refine h.preserves (I := fun w : Bench => w.tower = b.tower) (fun _ hw => hw) ?_ rfl
  intro x hx w hw
  rw [(felt_perform x.command).spares_tower (spared x hx), hw]

theorem unlimited_of_performs (h : machine.Performs phase b turns last b')
    (start : b.tower.Unlimited) : b'.tower.Unlimited :=
  h.preserves (I := fun w : Bench => w.tower.Unlimited) (fun _ hw => hw)
    (fun x _ _ hw => (felt_perform x.command).unlimited hw) start

theorem performs_cons {x : Turn} (h : machine.Performs phase b (x :: turns) last b') :
    ∃ polled performed, polled.tilt = b.tilt ∧ polled.tower = b.tower ∧
      machine.perform x.command polled = (.ok x.answer, performed) ∧
      machine.Performs x.phase performed turns last b' := by
  cases h with
  | @turn _ _ _ polled performed _ _ _ unasked answered rest =>
    have felt : polled.tilt = b.tilt ∧ polled.tower = b.tower := by
      unfold Machine.poll at unasked
      split at unasked
      · injection unasked with _ same
        rw [← same]
        exact ⟨rfl, rfl⟩
      · injection unasked with _ same
        rw [← same]
        exact ⟨rfl, rfl⟩
    exact ⟨polled, performed, felt.1, felt.2, answered, rest⟩

end Bench
end LayerSeparation
