import LayerSeparation.Simulation.Axis
import LayerSeparation.Simulation.Clock

/-! A test bench: two simulated axes, a simulated clock that is also the delay source, and an abort
signal given by its answers. -/
namespace LayerSeparation

/-- A driver of a part is a driver of the whole. -/
def AxisDriver.within {C σ τ : Type} (d : AxisDriver C τ) (get : σ → τ) (set : τ → σ → σ) :
    AxisDriver C σ :=
  let lift {α : Type} (f : τ → Except AxisError α × τ) (s : σ) : Except AxisError α × σ :=
    let (answer, part) := f (get s)
    (answer, set part s)
  { setCurve := fun curve => lift (d.setCurve curve)
    moveRelative := fun steps => lift (d.moveRelative steps)
    moveAbsolute := fun position => lift (d.moveAbsolute position)
    position := lift d.position
    queryStall := lift d.queryStall
    home := lift d.home }

structure Bench where
  tilt : SimAxis TiltCurve
  tower : SimAxis TowerCurve
  clock : SimClock := {}
  /-- Answer of the abort signal to its n-th reading, counted from zero. -/
  abort : Nat → Bool := fun _ => false
  polls : Nat := 0
  /-- Times the clock shows instead of its own; the last one stays. -/
  shownTimes : List UInt64 := []

namespace Bench

def now (b : Bench) : UInt64 × Bench :=
  match b.shownTimes with
  | [] => (b.clock.nowMs, b)
  | [t] => (t, b)
  | t :: rest => (t, { b with shownTimes := rest })

def abortRequested (b : Bench) : Bool × Bench := (b.abort b.polls, { b with polls := b.polls + 1 })

def machine : Machine Bench where
  tilt := SimAxis.driver.within Bench.tilt fun tilt b => { b with tilt }
  tower := SimAxis.driver.within Bench.tower fun tower b => { b with tower }
  wait := fun ms b => { b with clock := b.clock.delayMs ms }
  now := now
  abortRequested := abortRequested

end Bench
end LayerSeparation
