import LayerSeparation.Separation.Command

/-! The machine that carries out commands: two axis drivers, a delay source, a clock and an abort
signal over one state. Each part is an arbitrary state machine; no law is assumed of any answer, and
parts may share their state. -/
namespace LayerSeparation

/-- A driver of one axis. A call changes the state whether it succeeds or not. -/
structure AxisDriver (C σ : Type) where
  setCurve : C → σ → Except AxisError Unit × σ
  moveRelative : Int32 → σ → Except AxisError Unit × σ
  moveAbsolute : Int32 → σ → Except AxisError Unit × σ
  position : σ → Except AxisError Int32 × σ
  queryStall : σ → Except AxisError Bool × σ
  home : σ → Except AxisError Bool × σ

structure Machine (σ : Type) where
  tilt : AxisDriver TiltCurve σ
  tower : AxisDriver TowerCurve σ
  wait : UInt32 → σ → σ
  /-- Milliseconds since some fixed moment. -/
  now : σ → UInt64 × σ
  abortRequested : σ → Bool × σ

def Machine.perform {σ : Type} (m : Machine σ) : (c : Command) → σ → Except AxisError c.Answer × σ
  | .setTiltCurve curve => m.tilt.setCurve curve
  | .setTowerCurve curve => m.tower.setCurve curve
  | .moveRelative .tilt steps => m.tilt.moveRelative steps
  | .moveRelative .tower steps => m.tower.moveRelative steps
  | .moveAbsolute .tilt position => m.tilt.moveAbsolute position
  | .moveAbsolute .tower position => m.tower.moveAbsolute position
  | .readPosition .tilt => m.tilt.position
  | .readPosition .tower => m.tower.position
  | .queryStall .tilt => m.tilt.queryStall
  | .queryStall .tower => m.tower.queryStall
  | .home .tilt => m.tilt.home
  | .home .tower => m.tower.home
  | .wait ms => fun s => (.ok (), m.wait ms s)

end LayerSeparation
