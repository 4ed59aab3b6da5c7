import LayerSeparation.Proofs.Axes
import LayerSeparation.Simulation.Operation

/-! Moves of a simulated axis, whatever is done to it and in whatever order. A move ends between its start and
its target, and short of the target only if that lies beyond a limit; then the stall flag tells so. From this
follow the places that an axis cannot leave, and what its stall flag means when it is read. -/
namespace LayerSeparation

theorem Width.max_eq_if (p q : Int32) : max p q = if p ≤ q then q else p := rfl

variable {C : Type}

/-- Where a move leads if nothing stops it; other operations lead nowhere. -/
def AxisOperation.target? (a : SimAxis C) : AxisOperation C → Option Int32
  | .call (.moveRelative steps) => some (Width.sumInt32 a.position steps)
  | .call (.moveAbsolute position) => some position
  | _ => none

def Feedback.Clears : Feedback → Prop
  | .stall _ => True
  | .homed found => found = true
  | .none | .position _ => False

namespace SimAxis

def Beyond (a : SimAxis C) (target : Int32) : Prop :=
  (∃ limit, a.obstruction = some limit ∧ target < limit) ∨ ∃ limit, a.ceiling = some limit ∧ limit < target

structure Standing where
  position : Int32
  bounds : Option (Int32 × Int32)
  obstruction : Option Int32
  ceiling : Option Int32
  stall : Bool

structure Standing.Bounded (lo hi : Int32) (s : Standing) : Prop where
  bounds : s.bounds = some (lo, hi)
  low : lo ≤ s.position
  high : s.position ≤ hi

structure Standing.Above (limit : Int32) (s : Standing) : Prop where
  obstruction : s.obstruction = some limit
  above : limit ≤ s.position

structure Standing.Below (limit : Int32) (s : Standing) : Prop where
  ceiling : s.ceiling = some limit
  below : s.position ≤ limit

def standing (a : SimAxis C) : Standing := ⟨a.position, a.bounds, a.obstruction, a.ceiling, a.stall⟩

/-- All that an operation can do to where the axis stands. -/
inductive Acts (a : SimAxis C) : AxisOperation C → Except AxisError Feedback → Standing → Prop where
  | refused {operation : AxisOperation C} (error : AxisError) (uninjected : operation ≠ .injectStall) :
      Acts a operation (.error error) a.standing
  | still {operation : AxisOperation C} {f : Feedback} (unaimed : operation.target? a = none)
      (uninjected : operation ≠ .injectStall) (uncleared : ¬ f.Clears) : Acts a operation (.ok f) a.standing
  | moved {operation : AxisOperation C} {target : Int32} (aimed : operation.target? a = some target)
      (inside : a.inBounds target = true) : Acts a operation (.ok .none)
        { a.standing with position := (a.reach target).1, stall := a.stall || (a.reach target).2 }
  | queried : Acts a (.call .queryStall) (.ok (.stall a.stall)) { a.standing with stall := false }
  | homed : Acts a (.call .home) (.ok (.homed true))
      { a.standing with position := 0, obstruction := none, ceiling := none, stall := false }
  | obstructed (limit : Int32) :
      Acts a (.obstructAt limit) (.ok .none) { a.standing with obstruction := some limit }
  | covered (limit : Int32) : Acts a (.obstructAbove limit) (.ok .none) { a.standing with ceiling := some limit }
  | placed (position : Int32) : Acts a (.setPosition position) (.ok .none) { a.standing with position }
  | injected : Acts a .injectStall (.ok .none) { a.standing with stall := true }

variable {a : SimAxis C}

theorem call_cases {α : Type} (a : SimAxis C) (c : Option (AxisCall C))
    (effect : SimAxis C → Except AxisError α × SimAxis C) :
    (∃ error, a.call c effect = (.error error, a.counted c)) ∨ a.call c effect = effect (a.counted c) := by
  by_cases due : ∃ error, a.fault = some (a.calls, error)
  · obtain ⟨error, due⟩ := due
    exact .inl ⟨error, call_failed due⟩
  · exact .inr (call_spared (not_exists.mp due))

theorem acts_call {α : Type} {operation : AxisOperation C} {c : Option (AxisCall C)} {feedback : α → Feedback}
    {effect : SimAxis C → Except AxisError α × SimAxis C} (uninjected : operation ≠ .injectStall)
    (acts : Acts a operation (reported feedback (effect (a.counted c))).1 (effect (a.counted c)).2.standing) :
    Acts a operation (reported feedback (a.call c effect)).1 (reported feedback (a.call c effect)).2.standing := by
  rcases call_cases a c effect with ⟨error, refused⟩ | spared
  · rw [refused]
    exact .refused error uninjected
  · rw [spared]
    exact acts

theorem acts_move {operation : AxisOperation C} {target : Int32} (c : Option (AxisCall C))
    (uninjected : operation ≠ .injectStall) (aimed : operation.target? a = some target) :
    Acts a operation (reported (fun _ => .none) ((a.counted c).moveTo target)).1
      ((a.counted c).moveTo target).2.standing := by
  unfold moveTo
  split
  · next inside => exact .moved aimed inside
  · exact .refused .outOfBounds uninjected

theorem acts (a : SimAxis C) (operation : AxisOperation C) :
    Acts a operation (a.perform operation).1 (a.perform operation).2.standing := by
  cases operation with
  | call c =>
    cases c with
    | setCurve curve => exact acts_call nofun (.still rfl nofun id)
    | moveRelative steps => exact acts_call nofun (acts_move _ nofun rfl)
    | moveAbsolute position => exact acts_call nofun (acts_move _ nofun rfl)
    | queryStall => exact acts_call nofun .queried
    | home =>
      refine acts_call nofun ?_
      dsimp only
      split
      · exact .homed
      · exact .still rfl nofun nofun
  | readPosition => exact acts_call nofun (.still rfl nofun id)
  | obstructAt limit => exact .obstructed limit
  | obstructAbove limit => exact .covered limit
  | setPosition position => exact .placed position
  | injectStall => exact .injected
  | scriptHoming results => exact .still rfl nofun id
  | failCall number error => exact .still rfl nofun id
  | clearTrace => exact .still rfl nofun id

theorem after_preserves {I : SimAxis C → Prop} {operations : List (AxisOperation C)} (start : I a)
    (keeps : ∀ e ∈ a.events operations, I e.before → I (e.before.perform e.operation).2) :
    I (a.after operations) := by
  induction operations generalizing a with
  | nil => exact start
  | cons operation rest ih =>
    obtain ⟨first, later⟩ := List.forall_mem_cons.mp keeps
    exact ih (first start) later

theorem reach_cases (a : SimAxis C) (target : Int32) :
    (¬ a.Beyond target ∧ a.reach target = (target, false)) ∨
    (∃ limit, a.obstruction = some limit ∧ target < limit ∧ a.reach target = (min a.position limit, true)) ∨
    ∃ limit, a.ceiling = some limit ∧ limit < target ∧ a.reach target = (max a.position limit, true) := by
  unfold reach Beyond
  cases below : a.obstruction.filter (target < ·) with
  | some limit =>
    obtain ⟨there, low⟩ := Option.filter_eq_some_iff.mp below
    exact .inr (.inl ⟨limit, there, of_decide_eq_true low, rfl⟩)
  | none =>
    cases above : a.ceiling.filter (· < target) with
    | some limit =>
      obtain ⟨there, high⟩ := Option.filter_eq_some_iff.mp above
      exact .inr (.inr ⟨limit, there, of_decide_eq_true high, rfl⟩)
    | none =>
      refine .inl ⟨?_, rfl⟩
      rintro (⟨limit, there, low⟩ | ⟨limit, there, high⟩)
      · exact Option.filter_eq_none_iff.mp below limit there (decide_eq_true low)
      · exact Option.filter_eq_none_iff.mp above limit there (decide_eq_true high)

theorem reach_stalls_iff (a : SimAxis C) (target : Int32) : (a.reach target).2 = true ↔ a.Beyond target := by
  rcases reach_cases a target with ⟨free, ended⟩ | ⟨limit, there, low, ended⟩ | ⟨limit, there, high, ended⟩
  · simp [free, ended]
  · have beyond : a.Beyond target := .inl ⟨limit, there, low⟩
    simp [beyond, ended]
  · have beyond : a.Beyond target := .inr ⟨limit, there, high⟩
    simp [beyond, ended]

theorem reach_of_not_beyond {target : Int32} (free : ¬ a.Beyond target) : a.reach target = (target, false) := by
  rcases reach_cases a target with ⟨_, ended⟩ | ⟨limit, there, low, _⟩ | ⟨limit, there, high, _⟩
  · exact ended
  · exact absurd (.inl ⟨limit, there, low⟩) free
  · exact absurd (.inr ⟨limit, there, high⟩) free

theorem reached_of_moved {operation : AxisOperation C} {target : Int32} {f : Feedback}
    (aimed : operation.target? a = some target) (done : (a.perform operation).1 = .ok f) :
    (a.perform operation).2.position = (a.reach target).1 ∧
      (a.perform operation).2.stall = (a.stall || (a.reach target).2) := by
  have acted := acts a operation
  rw [done] at acted
  have stands : (a.perform operation).2.standing =
      { a.standing with position := (a.reach target).1, stall := a.stall || (a.reach target).2 } := by
    generalize (a.perform operation).2.standing = s at acted
    cases acted with
    | still unaimed =>
      rw [unaimed] at aimed
      cases aimed
    | moved aimed' inside =>
      cases aimed.symm.trans aimed'
      rfl
    | _ => cases aimed
  exact ⟨congrArg Standing.position stands, congrArg Standing.stall stands⟩

def OnWay (start target p : Int32) : Prop := start ≤ p ∧ p ≤ target ∨ target ≤ p ∧ p ≤ start

theorem reach_onWay (a : SimAxis C) (target : Int32) : OnWay a.position target (a.reach target).1 := by
  unfold OnWay
  rcases reach_cases a target with ⟨_, free⟩ | ⟨limit, _, low, stopped⟩ | ⟨limit, _, high, stopped⟩
  · rw [free]
    exact (Int32.le_total a.position target).imp (⟨·, Int32.le_refl _⟩) (⟨Int32.le_refl _, ·⟩)
  · rw [stopped]
    dsimp only
    rw [Std.min_eq_if]
    split <;> grind
  · rw [stopped]
    dsimp only
    rw [Width.max_eq_if]
    split <;> grind

namespace Acts
variable {operation : AxisOperation C} {answer : Except AxisError Feedback} {s : Standing} {limit : Int32}

/-- Homing goes to zero, which is why that has to lie within the bounds. -/
theorem bounded {lo hi : Int32} (h : Acts a operation answer s) (low : lo ≤ 0) (high : 0 ≤ hi)
    (unplaced : ∀ p, operation ≠ .setPosition p) (start : a.standing.Bounded lo hi) : s.Bounded lo hi := by
  cases h with
  | @moved _ target aimed inside =>
    have way := reach_onWay a target
    have bounds : a.bounds = some (lo, hi) := start.bounds
    have position : lo ≤ a.position ∧ a.position ≤ hi := ⟨start.low, start.high⟩
    rw [inBounds, bounds, Bool.and_eq_true, decide_eq_true_eq, decide_eq_true_eq] at inside
    unfold OnWay at way
    exact ⟨bounds, by dsimp only; grind, by dsimp only; grind⟩
  | homed => exact ⟨start.bounds, low, high⟩
  | placed p => exact absurd rfl (unplaced p)
  | _ => exact ⟨start.bounds, start.low, start.high⟩

theorem above (h : Acts a operation answer s) (unplaced : ∀ p, operation ≠ .setPosition p)
    (unlimited : ∀ p, operation ≠ .obstructAt p) (unhomed : answer ≠ .ok (.homed true))
    (start : a.standing.Above limit) : s.Above limit := by
  cases h with
  | @moved _ target aimed inside =>
    have there : a.obstruction = some limit := start.obstruction
    have stood : limit ≤ a.position := start.above
    refine ⟨there, ?_⟩
    rcases reach_cases a target with ⟨free, ended⟩ | ⟨limit', same, low, ended⟩ | ⟨_, _, _, ended⟩
    · rw [ended]
      exact Int32.not_lt.mp fun low => free (.inl ⟨limit, there, low⟩)
    · cases there.symm.trans same
      rw [ended]
      exact Std.le_min_iff.mpr ⟨stood, Int32.le_refl _⟩
    · rw [ended]
      dsimp only
      rw [Width.max_eq_if]
      split <;> grind
  | homed => exact absurd rfl unhomed
  | obstructed p => exact absurd rfl (unlimited p)
  | placed p => exact absurd rfl (unplaced p)
  | _ => exact ⟨start.obstruction, start.above⟩

theorem below (h : Acts a operation answer s) (unplaced : ∀ p, operation ≠ .setPosition p)
    (unlimited : ∀ p, operation ≠ .obstructAbove p) (unhomed : answer ≠ .ok (.homed true))
    (start : a.standing.Below limit) : s.Below limit := by
  cases h with
  | @moved _ target aimed inside =>
    have there : a.ceiling = some limit := start.ceiling
    have stood : a.position ≤ limit := start.below
    refine ⟨there, ?_⟩
    rcases reach_cases a target with ⟨free, ended⟩ | ⟨_, _, _, ended⟩ | ⟨limit', same, high, ended⟩
    · rw [ended]
      exact Int32.not_lt.mp fun high => free (.inr ⟨limit, there, high⟩)
    · rw [ended]
      exact Int32.le_trans Std.min_le_left stood
    · cases there.symm.trans same
      rw [ended]
      dsimp only
      rw [Width.max_eq_if, if_pos stood]
      exact Int32.le_refl _
  | homed => exact absurd rfl unhomed
  | covered p => exact absurd rfl (unlimited p)
  | placed p => exact absurd rfl (unplaced p)
  | _ => exact ⟨start.ceiling, start.below⟩

end Acts

end SimAxis

namespace AxisEvent

def Clears (e : AxisEvent C) : Prop := ∃ f, e.answer = .ok f ∧ f.Clears

end AxisEvent

namespace SimAxis
variable {a : SimAxis C}

theorem operation_mem_of_mem_events {operations : List (AxisOperation C)} {e : AxisEvent C}
    (h : e ∈ a.events operations) :
    e.operation ∈ operations ∧ e.answer = (e.before.perform e.operation).1 := by
  induction operations generalizing a with
  | nil => cases h
  | cons operation rest ih =>
    rcases List.mem_cons.mp h with rfl | later
    · exact ⟨List.mem_cons_self, rfl⟩
    · exact (ih later).imp_left (List.mem_cons_of_mem _)

theorem moves_onWay {operation : AxisOperation C} {target : Int32} {f : Feedback}
    (aimed : operation.target? a = some target) (done : (a.perform operation).1 = .ok f) :
    OnWay a.position target (a.perform operation).2.position ∧
    (a.Beyond target → (a.perform operation).2.stall = true) ∧
    (¬ a.Beyond target →
      (a.perform operation).2.position = target ∧ (a.perform operation).2.stall = a.stall) := by
  obtain ⟨position, stall⟩ := reached_of_moved aimed done
  rw [position, stall]
  refine ⟨reach_onWay a target, fun beyond => ?_, fun free => ?_⟩
  · rw [(reach_stalls_iff a target).mpr beyond, Bool.or_true]
  · rw [reach_of_not_beyond free, Bool.or_false]
    exact ⟨rfl, rfl⟩

end SimAxis
end LayerSeparation
