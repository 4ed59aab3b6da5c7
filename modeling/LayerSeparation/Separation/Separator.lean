import LayerSeparation.Separation.Machine
import LayerSeparation.Separation.Script

/-! Carrying out separations on a machine. The abort signal is read when a command belongs to another
phase than the one before it, and at no other time; a cancelled separation homes the tilt within the
budget of the way down and does nothing else. -/
namespace LayerSeparation

structure Execution (σ : Type) where
  phase : Phase
  recoveries : UInt8
  world : σ

/-- Homes the tilt once. An error counts as a failed attempt. -/
def Machine.attemptHoming {σ : Type} (m : Machine σ) (world : σ) : Bool × σ :=
  match m.tilt.home world with
  | (.ok found, world) => (found, world)
  | (.error _, world) => (false, world)

def Machine.homeWithin {σ : Type} (m : Machine σ) (budget : HomingBudget) (world : σ) : σ :=
  match _h : budget.record (m.attemptHoming world).1 with
  | (.retry, left) => m.homeWithin left (m.attemptHoming world).2
  | (.recovered _, _) | (.exhausted _, _) => (m.attemptHoming world).2
termination_by budget.remaining.toNat
decreasing_by exact HomingBudget.remaining_lt_of_record_retry _h

theorem Machine.homeWithin_eq {σ : Type} (m : Machine σ) (budget : HomingBudget) (world : σ) :
    m.homeWithin budget world =
      match budget.record (m.attemptHoming world).1 with
      | (.retry, left) => m.homeWithin left (m.attemptHoming world).2
      | (.recovered _, _) | (.exhausted _, _) => (m.attemptHoming world).2 := by
  rw [homeWithin]
  split <;> simp_all

/-- Brings the tilt to a safe position after an abort request. At least one attempt is made; without
a tilt nothing is sent. -/
def Setup.makeSafe {σ : Type} (s : Setup) (m : Machine σ) (world : σ) : σ :=
  match s.tilt with
  | some moves =>
    let attempts := moves.down.homingCycles
    m.homeWithin { allowed := if attempts = 0 then 1 else attempts } world
  | none => world

def Execution.enter {σ : Type} (e : Execution σ) (m : Machine σ) (phase : Phase) :
    Bool × Execution σ :=
  if phase = e.phase then (false, e)
  else
    let (abort, world) := m.abortRequested e.world
    (abort, { e with phase, world })

def Script.execute {σ : Type} (m : Machine σ) (makeSafe : σ → σ) :
    Script → Execution σ → Except SeparationError Unit × Execution σ
  | .done, e => (.ok (), { e with phase := .done })
  | .fail error, e => (.error error, e)
  | .recovered rest, e => rest.execute m makeSafe { e with recoveries := e.recoveries + 1 }
  | .ask phase command next, e =>
    match e.enter m phase with
    | (true, e) => (.error (.cancelled phase), { e with world := makeSafe e.world })
    | (false, e) =>
      match m.perform command e.world with
      | (.ok answer, world) => (next answer).execute m makeSafe { e with world }
      | (.error error, world) =>
        (.error (.axisCommandFailure (command.axis.getD .tilt) phase error), { e with world })

structure SeparationReport where
  elapsedMs : UInt64
  fill : Fill
  stallRecoveries : UInt8
  movesTimeMs : UInt32
  hopped : Bool
  deriving DecidableEq, Repr

structure Separator where
  table : MovingProfileTable
  exposure : ExposureProfile
  geometry : TiltGeometry := .factory
  /-- Phase of the separation that is running, idle between layers. -/
  phase : Phase := .idle

namespace Separator
variable {σ : Type}

/-- Separates the layer just exposed, whose cured area is `area` square millimetres, and brings the
tower to the next layer. The clock is read at the start, and again only after a success. -/
def separateLayer (sep : Separator) (m : Machine σ) (area : Float32) (nextLayerNm : Int32)
    (world : σ) : Except SeparationError SeparationReport × Separator × σ :=
  let (start, world) := m.now world
  let fill := sep.exposure.fillFor area
  let params := sep.exposure.params fill
  match Setup.resolve sep.table params sep.geometry nextLayerNm with
  | .error e => (.error (.ofProfileError e), sep, world)
  | .ok setup =>
    let (result, ran) :=
      (Script.separation setup).execute m (setup.makeSafe m) ⟨sep.phase, 0, world⟩
    let idle := { sep with phase := .idle }
    match result with
    | .error e => (.error e, idle, ran.world)
    | .ok () =>
      let (stop, world) := m.now ran.world
      let report : SeparationReport := {
        elapsedMs := UInt64.ofNat (stop.toNat - start.toNat)
        fill
        stallRecoveries := ran.recoveries
        movesTimeMs := (params.tilt.map (·.movesTimeMs)).getD 0
        hopped := setup.hops }
      (.ok report, idle, world)

end Separator
end LayerSeparation
