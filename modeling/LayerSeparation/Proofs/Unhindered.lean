import LayerSeparation.Proofs.Axes

/-! Axes that nothing hinders: no bounds, no limits and no fault that is still to come. On such an axis
every call succeeds, every move ends at its target, and nothing comes to hinder it. -/
namespace LayerSeparation
namespace SimAxis
variable {C : Type} {a : SimAxis C}

structure Unhindered (a : SimAxis C) : Prop extends Unlimited a where
  bounds : a.bounds = none
  faultless : ∀ number error, a.fault = some (number, error) → number < a.calls

theorem Unhindered.call (h : a.Unhindered) {α : Type} (c : Option (AxisCall C))
    (effect : SimAxis C → Except AxisError α × SimAxis C) :
    a.call c effect = effect (a.counted c) :=
  call_spared fun error hf => Nat.lt_irrefl _ (h.faultless a.calls error hf)

theorem Unhindered.counted (h : a.Unhindered) (c : Option (AxisCall C)) :
    (a.counted c).Unhindered := by
  refine ⟨h.toUnlimited.counted c, h.bounds, fun number error hf => ?_⟩
  have past := h.faultless number error hf
  exact Nat.lt_succ_of_lt past

theorem Unhindered.placed (h : a.Unhindered) (target : Int32) :
    Unhindered { a with position := target } :=
  ⟨⟨h.obstruction, h.ceiling⟩, h.bounds, h.faultless⟩

theorem Unhindered.moveTo (h : a.Unhindered) (target : Int32) :
    a.moveTo target = (.ok (), { a with position := target }) := by
  have inside : a.inBounds target = true := by
    rw [inBounds, h.bounds]
  rw [SimAxis.moveTo, if_pos inside, h.reach]
  simp

theorem Unhindered.moveAbsolute (h : a.Unhindered) (target : Int32) :
    a.moveAbsolute target =
      (.ok (), { a.counted (some (.moveAbsolute target)) with position := target }) := by
  rw [SimAxis.moveAbsolute, h.call, (h.counted _).moveTo]

theorem Unhindered.moveRelative (h : a.Unhindered) (steps : Int32) :
    a.moveRelative steps = (.ok (), { a.counted (some (.moveRelative steps)) with
      position := Width.sumInt32 a.position steps }) := by
  rw [SimAxis.moveRelative, h.call, (h.counted _).moveTo]
  rfl

theorem Unhindered.setCurve (h : a.Unhindered) (curve : C) :
    a.setCurve curve =
      (.ok (), { a.counted (some (.setCurve curve)) with curve := some curve }) := by
  rw [SimAxis.setCurve, h.call]

theorem Unhindered.readPosition (h : a.Unhindered) :
    a.readPosition = (.ok a.position, a.counted none) := by
  rw [SimAxis.readPosition, h.call]
  rfl

theorem Unhindered.queryStall (h : a.Unhindered) :
    a.queryStall = (.ok a.stall, { a.counted (some .queryStall) with stall := false }) := by
  rw [SimAxis.queryStall, h.call]
  rfl

end SimAxis

/-- Where a bench stands: the positions of its axes and the time waited so far. -/
structure Stand where
  tilt : Int32
  tower : Int32
  waitedMs : Nat

/-- The bench stands there, nothing hinders it, its tilt has not stalled and it is not asked to
stop. -/
structure Bench.Rests (startNs : Nat) (stand : Stand) (b : Bench) : Prop where
  tilt : b.tilt.Unhindered
  clear : b.tilt.stall = false
  tower : b.tower.Unhindered
  unasked : ∀ n, b.abort n = false
  timed : b.shownTimes = []
  tiltAt : b.tilt.position = stand.tilt
  towerAt : b.tower.position = stand.tower
  clockAt : b.clock.nowNs.toNat =
    min (startNs + stand.waitedMs * SimClock.nsPerMs) 0xffffffffffffffff

namespace Bench.Rests
variable {startNs : Nat} {stand : Stand} {b : Bench}

theorem poll (h : Rests startNs stand b) (phase entered : Phase) :
    ∃ polled, machine.poll phase entered b = (false, polled) ∧ Rests startNs stand polled := by
  unfold Machine.poll
  split
  · exact ⟨b, rfl, h⟩
  · have asked : machine.abortRequested b = (b.abort b.polls, { b with polls := b.polls + 1 }) := rfl
    refine ⟨{ b with polls := b.polls + 1 }, by rw [asked, h.unasked], ?_⟩
    exact ⟨h.tilt, h.clear, h.tower, h.unasked, h.timed, h.tiltAt, h.towerAt, h.clockAt⟩

/- The clock shows its own time, and reading it changes nothing. -/
theorem now (h : Rests startNs stand b) : machine.now b = (b.clock.nowMs, b) := by
  have same : machine.now b = b.now := rfl
  rw [same, Bench.now, h.timed]

theorem withTilt (h : Rests startNs stand b) {a : SimAxis TiltCurve} (ready : a.Unhindered)
    (clear : a.stall = false) : Rests startNs { stand with tilt := a.position } { b with tilt := a } :=
  ⟨ready, clear, h.tower, h.unasked, h.timed, rfl, h.towerAt, h.clockAt⟩

theorem withTower (h : Rests startNs stand b) {a : SimAxis TowerCurve} (ready : a.Unhindered) :
    Rests startNs { stand with tower := a.position } { b with tower := a } :=
  ⟨h.tilt, h.clear, ready, h.unasked, h.timed, h.tiltAt, rfl, h.clockAt⟩

theorem withClock (h : Rests startNs stand b) {clock : SimClock} {ms : Nat}
    (shows : clock.nowNs.toNat = min (startNs + ms * SimClock.nsPerMs) 0xffffffffffffffff) :
    Rests startNs { stand with waitedMs := ms } { b with clock } :=
  ⟨h.tilt, h.clear, h.tower, h.unasked, h.timed, h.tiltAt, h.towerAt, shows⟩

/- What each command does to a bench at rest. -/
theorem moveTilt (h : Rests startNs stand b) (target : Int32) :
    ∃ moved, machine.perform (.moveAbsolute .tilt target) b = (.ok (), moved) ∧
      Rests startNs { stand with tilt := target } moved := by
  rw [Machine.perform, machine_tilt]
  simp only [onTilt, h.tilt.moveAbsolute]
  exact ⟨_, rfl, h.withTilt ((h.tilt.counted _).placed target) h.clear⟩

theorem shiftTilt (h : Rests startNs stand b) {steps target : Int32}
    (exact_sum : target.toInt = stand.tilt.toInt + steps.toInt) :
    ∃ moved, machine.perform (.moveRelative .tilt steps) b = (.ok (), moved) ∧
      Rests startNs { stand with tilt := target } moved := by
  have there : Width.sumInt32 b.tilt.position steps = target := by
    rw [h.tiltAt]
    exact Width.sumInt32_eq exact_sum
  rw [Machine.perform, machine_tilt]
  simp only [onTilt, h.tilt.moveRelative, there]
  exact ⟨_, rfl, h.withTilt ((h.tilt.counted _).placed target) h.clear⟩

theorem setTiltCurve (h : Rests startNs stand b) (curve : TiltCurve) :
    ∃ set, machine.perform (.setTiltCurve curve) b = (.ok (), set) ∧ Rests startNs stand set := by
  rw [Machine.perform, machine_tilt]
  simp only [onTilt, h.tilt.setCurve]
  have ready := h.tilt.counted (some (.setCurve curve))
  refine ⟨_, rfl, ?_⟩
  exact ⟨⟨⟨ready.obstruction, ready.ceiling⟩, ready.bounds, ready.faultless⟩, h.clear, h.tower,
    h.unasked, h.timed, h.tiltAt, h.towerAt, h.clockAt⟩

theorem readTilt (h : Rests startNs stand b) :
    ∃ read, machine.perform (.readPosition .tilt) b = (.ok stand.tilt, read) ∧
      Rests startNs stand read := by
  rw [Machine.perform, machine_tilt]
  simp only [onTilt, h.tilt.readPosition, h.tiltAt]
  exact ⟨_, rfl, h.tilt.counted _, h.clear, h.tower, h.unasked, h.timed, h.tiltAt, h.towerAt,
    h.clockAt⟩

theorem queryTilt (h : Rests startNs stand b) :
    ∃ queried, machine.perform (.queryStall .tilt) b = (.ok false, queried) ∧
      Rests startNs stand queried := by
  rw [Machine.perform, machine_tilt]
  simp only [onTilt, h.tilt.queryStall, h.clear]
  have ready := h.tilt.counted (some .queryStall)
  refine ⟨_, rfl, ?_⟩
  exact ⟨⟨⟨ready.obstruction, ready.ceiling⟩, ready.bounds, ready.faultless⟩, rfl, h.tower,
    h.unasked, h.timed, h.tiltAt, h.towerAt, h.clockAt⟩

theorem setTowerCurve (h : Rests startNs stand b) (curve : TowerCurve) :
    ∃ set, machine.perform (.setTowerCurve curve) b = (.ok (), set) ∧ Rests startNs stand set := by
  rw [Machine.perform, machine_tower]
  simp only [onTower, h.tower.setCurve]
  have ready := h.tower.counted (some (.setCurve curve))
  refine ⟨_, rfl, ?_⟩
  exact ⟨h.tilt, h.clear, ⟨⟨ready.obstruction, ready.ceiling⟩, ready.bounds, ready.faultless⟩,
    h.unasked, h.timed, h.tiltAt, h.towerAt, h.clockAt⟩

theorem moveTower (h : Rests startNs stand b) (target : Int32) :
    ∃ moved, machine.perform (.moveAbsolute .tower target) b = (.ok (), moved) ∧
      Rests startNs { stand with tower := target } moved := by
  rw [Machine.perform, machine_tower]
  simp only [onTower, h.tower.moveAbsolute]
  exact ⟨_, rfl, h.withTower ((h.tower.counted _).placed target)⟩

theorem shiftTower (h : Rests startNs stand b) (steps : Int32) :
    ∃ moved, machine.perform (.moveRelative .tower steps) b = (.ok (), moved) ∧
      Rests startNs { stand with tower := Width.sumInt32 stand.tower steps } moved := by
  rw [Machine.perform, machine_tower]
  simp only [onTower, h.tower.moveRelative, h.towerAt]
  exact ⟨_, rfl, h.withTower ((h.tower.counted _).placed _)⟩

theorem wait (h : Rests startNs stand b) (ms : UInt32) :
    ∃ waited, machine.perform (.wait ms) b = (.ok (), waited) ∧
      Rests startNs { stand with waitedMs := stand.waitedMs + ms.toNat } waited := by
  have waits : machine.perform (.wait ms) b =
      (.ok (), { b with clock := b.clock.delayMs ms }) := rfl
  have passed : (b.clock.delayMs ms).nowNs =
      Width.sumUInt64 b.clock.nowNs (ms.toNat * SimClock.nsPerMs) := rfl
  have before := h.clockAt
  have sum : (stand.waitedMs + ms.toNat) * SimClock.nsPerMs =
      stand.waitedMs * SimClock.nsPerMs + ms.toNat * SimClock.nsPerMs := Nat.add_mul _ _ _
  refine ⟨_, waits, h.withClock ?_⟩
  rw [passed, Width.toNat_sumUInt64, sum]
  omega

end Bench.Rests
end LayerSeparation
