import LayerSeparation.Simulation.Axis

/-! What can be done to a simulated axis: the calls of its driver, and what is arranged from outside. Operations
come in any order. Only a call can fail, and only a call has something to tell. -/
namespace LayerSeparation

inductive AxisOperation (C : Type) where
  | call (c : AxisCall C)
  | readPosition
  | obstructAt (position : Int32)
  | obstructAbove (position : Int32)
  | setPosition (position : Int32)
  | injectStall
  | scriptHoming (results : List Bool)
  | failCall (number : Nat) (error : AxisError)
  | clearTrace
  deriving DecidableEq, Repr

namespace SimAxis
variable {C : Type}

def reported {α : Type} (feedback : α → Feedback) (answered : Except AxisError α × SimAxis C) :
    Except AxisError Feedback × SimAxis C := (answered.1.map feedback, answered.2)

def perform (a : SimAxis C) : AxisOperation C → Except AxisError Feedback × SimAxis C
  | .call (.setCurve curve) => reported (fun _ => .none) (a.setCurve curve)
  | .call (.moveRelative steps) => reported (fun _ => .none) (a.moveRelative steps)
  | .call (.moveAbsolute position) => reported (fun _ => .none) (a.moveAbsolute position)
  | .call .queryStall => reported .stall a.queryStall
  | .call .home => reported .homed a.home
  | .readPosition => reported .position a.readPosition
  | .obstructAt position => (.ok .none, a.obstructAt position)
  | .obstructAbove position => (.ok .none, a.obstructAbove position)
  | .setPosition position => (.ok .none, a.setPosition position)
  | .injectStall => (.ok .none, a.injectStall)
  | .scriptHoming results => (.ok .none, a.scriptHoming results)
  | .failCall number error => (.ok .none, a.failCall number error)
  | .clearTrace => (.ok .none, a.clearTrace)

def after (a : SimAxis C) : List (AxisOperation C) → SimAxis C
  | [] => a
  | operation :: rest => (a.perform operation).2.after rest

end SimAxis

structure AxisEvent (C : Type) where
  before : SimAxis C
  operation : AxisOperation C
  answer : Except AxisError Feedback

namespace SimAxis
variable {C : Type}

def event (a : SimAxis C) (operation : AxisOperation C) : AxisEvent C :=
  ⟨a, operation, (a.perform operation).1⟩

def events (a : SimAxis C) : List (AxisOperation C) → List (AxisEvent C)
  | [] => []
  | operation :: rest => a.event operation :: (a.perform operation).2.events rest

end SimAxis
end LayerSeparation
