import LayerSeparation.Separation.Script

/-! A separation taken one step at a time. Each step takes the feedback for the command before it.
Feedback of the wrong kind fails the plan, a failed plan stays failed, and a finished plan stays
finished as long as it is given no feedback. -/
namespace LayerSeparation

inductive Step where
  | command (c : Command)
  | done
  | failed (e : SeparationError)
  deriving DecidableEq, Repr

inductive Plan.Stage where
  | ready (script : Script)
  | awaiting (command : Command) (next : command.Answer → Script)
  | failed (e : SeparationError)

structure Plan where
  stage : Plan.Stage
  phase : Phase := .idle
  lastAxis : Axis := .tilt
  recoveries : UInt8 := 0

namespace Plan

def ofSetup (s : Setup) : Plan := { stage := .ready (.separation s) }

def resume (p : Plan) : Script → Step × Plan
  | .done => (.done, { p with stage := .ready .done, phase := .done })
  | .fail e => (.failed e, { p with stage := .failed e, phase := e.phase })
  | .recovered rest => { p with recoveries := p.recoveries + 1 }.resume rest
  | .ask phase command next =>
    (.command command,
      { p with stage := .awaiting command next, phase, lastAxis := command.axis.getD p.lastAxis })

def reject (p : Plan) : Step × Plan :=
  let e := SeparationError.axisCommandFailure p.lastAxis p.phase .invalidResponse
  (.failed e, { p with stage := .failed e })

def next (p : Plan) (feedback : Feedback) : Step × Plan :=
  match p.stage with
  | .failed e => (.failed e, p)
  | .ready script => if feedback = .none then p.resume script else p.reject
  | .awaiting command next =>
    match feedback.answer? command with
    | some answer => p.resume (next answer)
    | none => p.reject

end Plan
end LayerSeparation
