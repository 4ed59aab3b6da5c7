import LayerSeparation.Proofs.Motion

/-! Limits and the direction of travel. An obstruction stands in the way down and a ceiling in the way up, as long
as the axis has not passed them. A limit that it has passed holds it back in both directions, since the target
of a move is compared with the limit and the way to it is not. -/
namespace LayerSeparation

variable {C : Type}

namespace SimAxis

def Unopposed (a : SimAxis C) (target : Int32) : Prop :=
  a.ceiling = none ∧ a.position ≤ target ∨ a.obstruction = none ∧ target ≤ a.position

/-- An obstruction blocks only the way down and a ceiling only the way up: a move the other way that is carried
out ends at its target and raises no stall. -/
def OneWay (a : SimAxis C) : Prop :=
  ∀ operation target f, operation.target? a = some target → (a.perform operation).1 = .ok f →
    a.Unopposed target → (a.perform operation).2.position = target ∧ (a.perform operation).2.stall = a.stall

structure Standing.Clear (s : Standing) : Prop where
  above : ∀ limit, s.obstruction = some limit → limit ≤ s.position
  below : ∀ limit, s.ceiling = some limit → s.position ≤ limit

end SimAxis

/-- A limit is put where the axis has passed it, or the axis is put beyond a limit. -/
def AxisEvent.Passes (e : AxisEvent C) : Prop :=
  match e.operation with
  | .obstructAt limit => e.before.position < limit
  | .obstructAbove limit => limit < e.before.position
  | .setPosition position => e.before.Beyond position
  | _ => False

namespace SimAxis
variable {a : SimAxis C} {operation : AxisOperation C} {target : Int32} {f : Feedback}

/-- Only an axis that has passed the limit can be held back, and it is held where it stands. -/
theorem held_of_unopposed (aimed : operation.target? a = some target) (done : (a.perform operation).1 = .ok f)
    (unopposed : a.Unopposed target) (beyond : a.Beyond target) :
    (a.perform operation).2.position = a.position ∧ ¬ a.standing.Clear := by
  rw [(reached_of_moved aimed done).1]
  rcases reach_cases a target with ⟨free, _⟩ | ⟨limit, there, low, ended⟩ | ⟨limit, there, high, ended⟩
  · exact absurd beyond free
  · rcases unopposed with ⟨_, upward⟩ | ⟨absent, _⟩
    · have passed : a.position < limit := Std.lt_of_le_of_lt upward low
      refine ⟨?_, fun clear => Int32.not_lt.mpr (clear.above limit there) passed⟩
      rw [ended]
      dsimp only
      rw [Std.min_eq_if, if_pos (Int32.le_of_lt passed)]
    · cases absent.symm.trans there
  · rcases unopposed with ⟨absent, _⟩ | ⟨_, downward⟩
    · cases absent.symm.trans there
    · have passed : limit < a.position := Std.lt_of_lt_of_le high downward
      refine ⟨?_, fun clear => Int32.not_lt.mpr (clear.below limit there) passed⟩
      rw [ended]
      dsimp only
      rw [Width.max_eq_if, if_neg (Int32.not_le.mpr passed)]

theorem Standing.Clear.oneWay (clear : a.standing.Clear) : a.OneWay := by
  intro operation target f aimed done unopposed
  have free : ¬ a.Beyond target := fun beyond => (held_of_unopposed aimed done unopposed beyond).2 clear
  exact (moves_onWay aimed done).2.2 free

theorem Acts.clear {answer : Except AxisError Feedback} {s : Standing} (h : Acts a operation answer s)
    (start : a.standing.Clear) (unpassed : ¬ AxisEvent.Passes ⟨a, operation, answer⟩) : s.Clear := by
  cases h with
  | moved aimed inside =>
    have unplaced : ∀ p, operation ≠ .setPosition p := by
      rintro p rfl
      cases aimed
    constructor
    · intro limit there
      have unlimited : ∀ p, operation ≠ .obstructAt p := by
        rintro p rfl
        cases aimed
      exact ((Acts.moved aimed inside).above unplaced unlimited nofun ⟨there, start.above limit there⟩).above
    · intro limit there
      have unlimited : ∀ p, operation ≠ .obstructAbove p := by
        rintro p rfl
        cases aimed
      exact ((Acts.moved aimed inside).below unplaced unlimited nofun ⟨there, start.below limit there⟩).below
  | homed => exact ⟨nofun, nofun⟩
  | obstructed p =>
    refine ⟨?_, start.below⟩
    rintro _ ⟨⟩
    exact Int32.not_lt.mp unpassed
  | covered p =>
    refine ⟨start.above, ?_⟩
    rintro _ ⟨⟩
    exact Int32.not_lt.mp unpassed
  | placed p =>
    constructor
    · exact fun limit there => Int32.not_lt.mp fun low => unpassed (.inl ⟨limit, there, low⟩)
    · exact fun limit there => Int32.not_lt.mp fun high => unpassed (.inr ⟨limit, there, high⟩)
  | _ => exact ⟨start.above, start.below⟩

theorem clear_after {operations : List (AxisOperation C)} (start : a.standing.Clear)
    (unpassed : ∀ e ∈ a.events operations, ¬ e.Passes) : (a.after operations).standing.Clear := by
  refine after_preserves (I := fun b => b.standing.Clear) start fun e he clear => ?_
  obtain ⟨-, answered⟩ := operation_mem_of_mem_events he
  refine (acts e.before e.operation).clear clear ?_
  rw [← answered]
  exact unpassed e he

structure OneWayLaw (a : SimAxis C) : Prop where
  unopposed : ∀ operation target f, operation.target? a = some target → (a.perform operation).1 = .ok f →
    a.Unopposed target →
    ¬ a.Beyond target ∧ (a.perform operation).2.position = target ∧ (a.perform operation).2.stall = a.stall ∨
    a.Beyond target ∧ (a.perform operation).2.position = a.position ∧ (a.perform operation).2.stall = true ∧
      ¬ a.standing.Clear
  clear : ∀ operations, a.standing.Clear → (∀ e ∈ a.events operations, ¬ e.Passes) →
    (a.after operations).standing.Clear ∧ (a.after operations).OneWay

/-- A move on a side without a limit is held back only by the other limit, where the axis has passed it. Limits
have one direction as long as none is passed by hand. -/
theorem one_way_law (a : SimAxis C) : a.OneWayLaw where
  unopposed operation target f aimed done unopposed := by
    obtain ⟨-, stalls, arrives⟩ := moves_onWay aimed done
    by_cases beyond : a.Beyond target
    · obtain ⟨held, passed⟩ := held_of_unopposed aimed done unopposed beyond
      exact .inr ⟨beyond, held, stalls beyond, passed⟩
    · exact .inl ⟨beyond, arrives beyond⟩
  clear operations start unpassed := by
    have clear := clear_after start unpassed
    exact ⟨clear, clear.oneWay⟩

def passedAxis : SimAxis TiltCurve := SimAxis.after { position := 0 } [.obstructAt 300]

/-- The obstruction blocks the way up to a target below it, and a stall is raised. -/
theorem upward_move_held : passedAxis.inBounds 100 = true ∧ passedAxis.Unopposed 100 ∧
    (passedAxis.perform (.call (.moveAbsolute 100))).1 = .ok .none ∧
    (passedAxis.perform (.call (.moveAbsolute 100))).2.position = 0 ∧
    (passedAxis.perform (.call (.moveAbsolute 100))).2.stall = true ∧ ¬ passedAxis.OneWay := by
  have upward : passedAxis.Unopposed 100 := .inl ⟨rfl, by decide⟩
  refine ⟨rfl, upward, rfl, rfl, rfl, fun oneWay => ?_⟩
  have arrived := (oneWay (.call (.moveAbsolute 100)) 100 .none rfl rfl upward).1
  exact absurd arrived (by decide)

end SimAxis
end LayerSeparation
