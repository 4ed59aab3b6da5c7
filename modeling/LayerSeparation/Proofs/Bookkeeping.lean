import LayerSeparation.Proofs.BoundedRecord
import LayerSeparation.Proofs.Motion

/-! What a simulated axis keeps count of: its calls, the fault that is arranged, the calls on record and the homing
results that are queued. Each is told by the operations alone, in whatever order they come, and a call that fails
touches nothing but the count and the record. -/
namespace LayerSeparation

variable {C : Type}

namespace AxisOperation

def isCall : AxisOperation C → Bool
  | .call _ | .readPosition => true
  | _ => false

def recorded? : AxisOperation C → Option (AxisCall C)
  | .call c => some c
  | _ => none

def clears : AxisOperation C → Bool
  | .clearTrace => true
  | _ => false

def arranged? : AxisOperation C → Option (Nat × AxisError)
  | .failCall number error => some (number, error)
  | _ => none

variable {operation : AxisOperation C}

theorem of_isCall (call : operation.isCall = true) : operation.arranged? = none ∧ operation.clears = false ∧
    ∀ results, operation ≠ .scriptHoming results := by
  cases operation with
  | call c => exact ⟨rfl, rfl, nofun⟩
  | readPosition => exact ⟨rfl, rfl, nofun⟩
  | _ => cases call

theorem recorded?_of_not_isCall (uncalled : operation.isCall = false) : operation.recorded? = none := by
  cases operation with
  | call c => cases uncalled
  | _ => rfl

end AxisOperation

/-- Calls of the driver, those that failed included. -/
def callCount (operations : List (AxisOperation C)) : Nat := operations.countP AxisOperation.isCall

def latestFault (operations : List (AxisOperation C)) : Option (Nat × AxisError) :=
  (operations.filterMap AxisOperation.arranged?).getLast?

def traceOf (operations : List (AxisOperation C)) : List (AxisCall C) :=
  boundedRecord SimAxis.traceLength AxisOperation.clears AxisOperation.recorded? operations

/-- All homing results that were ever queued, and how many of them were given out. -/
structure HomingQueue where
  queued : List Bool := []
  given : Nat := 0
  given_le : given ≤ queued.length := by decide
  few : queued.length ≤ given + SimAxis.homingsLength := by decide

namespace HomingQueue

def pending (q : HomingQueue) : List Bool := q.queued.drop q.given

def push (q : HomingQueue) (result : Bool) : HomingQueue :=
  if room : q.queued.length < q.given + SimAxis.homingsLength then {
    queued := q.queued ++ [result]
    given := q.given
    given_le := by
      have := q.given_le
      rw [List.length_append]
      omega
    few := by
      rw [List.length_append, List.length_singleton]
      omega }
  else q

def next (q : HomingQueue) : Bool := q.queued[q.given]?.getD true

def give (q : HomingQueue) : HomingQueue :=
  if more : q.given < q.queued.length then {
    queued := q.queued
    given := q.given + 1
    given_le := more
    few := by
      have := q.few
      omega }
  else q

theorem length_pending_le (q : HomingQueue) : q.pending.length ≤ SimAxis.homingsLength := by
  have few := q.few
  rw [pending, List.length_drop]
  omega

theorem next_eq (q : HomingQueue) : q.next = q.pending.head?.getD true := by
  rw [next, pending, List.head?_drop]

theorem pending_give (q : HomingQueue) : q.give.pending = q.pending.tail := by
  unfold give
  split
  · exact (List.tail_drop).symm
  · next none =>
    have all : q.pending = [] := List.drop_eq_nil_of_le (Nat.le_of_not_lt none)
    rw [all, List.tail_nil]

theorem pending_push (q : HomingQueue) (result : Bool) :
    (q.push result).pending = (q.pending ++ [result]).take SimAxis.homingsLength := by
  have most := q.length_pending_le
  have count : q.pending.length = q.queued.length - q.given := List.length_drop
  have given := q.given_le
  unfold push
  split
  · next room =>
    have fits : (q.pending ++ [result]).length ≤ SimAxis.homingsLength := by
      rw [List.length_append, List.length_singleton]
      omega
    rw [List.take_of_length_le fits]
    exact List.drop_append_of_le_length given
  · next full =>
    have filled : q.pending.length = SimAxis.homingsLength := by omega
    rw [← filled, List.take_left]

theorem pending_foldl_push (q : HomingQueue) (results : List Bool) :
    (results.foldl push q).pending = (q.pending ++ results).take SimAxis.homingsLength := by
  induction results generalizing q with
  | nil =>
    rw [List.append_nil, List.take_of_length_le q.length_pending_le]
    rfl
  | cons result rest ih =>
    rw [List.foldl_cons, ih, pending_push, take_take_append, List.append_assoc, List.singleton_append]

end HomingQueue

def AxisEvent.queue (q : HomingQueue) (e : AxisEvent C) : HomingQueue :=
  match e.operation, e.answer with
  | .scriptHoming results, _ => results.foldl HomingQueue.push q
  | .call .home, .ok _ => q.give
  | _, _ => q

def homingQueue (events : List (AxisEvent C)) : HomingQueue := events.foldl AxisEvent.queue {}

namespace SimAxis

def Leaves (a : SimAxis C) (operation : AxisOperation C) : Prop :=
  ∃ target, operation.target? a = some target ∧ a.inBounds target = false

structure Books (C : Type) where
  calls : Nat
  fault : Option (Nat × AxisError)
  trace : List (AxisCall C)
  homings : List Bool

def books (a : SimAxis C) : Books C := ⟨a.calls, a.fault, a.trace, a.homings⟩

def Spared (a : SimAxis C) : Prop := ∀ error, a.fault ≠ some (a.calls, error)

/-- All that an operation can do to what the axis keeps count of. Where a call fails, this is all that it does to
the axis. -/
inductive Enters (a : SimAxis C) : AxisOperation C → Except AxisError Feedback → SimAxis C → Prop where
  | faulted {operation : AxisOperation C} {error : AxisError} (call : operation.isCall = true)
      (due : a.fault = some (a.calls, error)) : Enters a operation (.error error) (a.counted operation.recorded?)
  | refused {operation : AxisOperation C} (call : operation.isCall = true) (spared : a.Spared)
      (leaves : a.Leaves operation) : Enters a operation (.error .outOfBounds) (a.counted operation.recorded?)
  | answered {operation : AxisOperation C} {f : Feedback} {b : SimAxis C} (call : operation.isCall = true)
      (spared : a.Spared) (stays : ¬ a.Leaves operation) (unhomed : operation ≠ .call .home)
      (same : b.books = (a.counted operation.recorded?).books) : Enters a operation (.ok f) b
  | homed {found : Bool} {b : SimAxis C} (spared : a.Spared) (next : a.homings.head?.getD true = found)
      (same : b.books = { (a.counted (some .home)).books with homings := a.homings.tail }) :
      Enters a (.call .home) (.ok (.homed found)) b
  | scripted (results : List Bool) : Enters a (.scriptHoming results) (.ok .none) (a.scriptHoming results)
  | arranged (number : Nat) (error : AxisError) :
      Enters a (.failCall number error) (.ok .none) (a.failCall number error)
  | cleared : Enters a .clearTrace (.ok .none) a.clearTrace
  | unseen {operation : AxisOperation C} {b : SimAxis C} (uncalled : operation.isCall = false)
      (unscripted : ∀ results, operation ≠ .scriptHoming results) (unarranged : operation.arranged? = none)
      (uncleared : operation.clears = false) (same : b.books = a.books) : Enters a operation (.ok .none) b

variable {a : SimAxis C} {operation : AxisOperation C}

theorem enters_call {α : Type} {c : Option (AxisCall C)} {feedback : α → Feedback}
    {effect : SimAxis C → Except AxisError α × SimAxis C} (call : operation.isCall = true)
    (noted : operation.recorded? = c)
    (carried : a.Spared →
      Enters a operation (reported feedback (effect (a.counted c))).1 (effect (a.counted c)).2) :
    Enters a operation (reported feedback (a.call c effect)).1 (reported feedback (a.call c effect)).2 := by
  by_cases due : ∃ error, a.fault = some (a.calls, error)
  · obtain ⟨error, due⟩ := due
    rw [call_failed due, ← noted]
    exact .faulted call due
  · have spared : a.Spared := not_exists.mp due
    rw [call_spared spared]
    exact carried spared

theorem enters_move {c : AxisCall C} {target : Int32} (aimed : (AxisOperation.call c).target? a = some target)
    (unhomed : c ≠ .home) (spared : a.Spared) : Enters a (.call c)
      (reported (fun _ => .none) ((a.counted (some c)).moveTo target)).1 ((a.counted (some c)).moveTo target).2 := by
  unfold moveTo
  split
  · next inside =>
    have stays : ¬ a.Leaves (.call c) := by
      rintro ⟨target', aimed', outside⟩
      cases aimed.symm.trans aimed'
      exact absurd inside (ne_true_of_eq_false outside)
    exact .answered rfl spared stays (fun same => unhomed (AxisOperation.call.inj same)) rfl
  · next outside =>
    exact .refused rfl spared ⟨target, aimed, eq_false_of_ne_true outside⟩

theorem not_leaves (unaimed : operation.target? a = none) : ¬ a.Leaves operation := by
  rintro ⟨target, aimed, -⟩
  cases unaimed.symm.trans aimed

theorem enters (a : SimAxis C) (operation : AxisOperation C) :
    Enters a operation (a.perform operation).1 (a.perform operation).2 := by
  cases operation with
  | call c =>
    cases c with
    | setCurve curve =>
      exact enters_call rfl rfl fun spared => .answered rfl spared (not_leaves rfl) nofun rfl
    | moveRelative steps => exact enters_call rfl rfl (enters_move rfl nofun)
    | moveAbsolute position => exact enters_call rfl rfl (enters_move rfl nofun)
    | queryStall =>
      exact enters_call rfl rfl fun spared => .answered rfl spared (not_leaves rfl) nofun rfl
    | home =>
      refine enters_call rfl rfl fun spared => ?_
      dsimp only
      split
      · next found => exact .homed spared found rfl
      · next missed => exact .homed spared (eq_false_of_ne_true missed) rfl
  | readPosition => exact enters_call rfl rfl fun spared => .answered rfl spared (not_leaves rfl) nofun rfl
  | scriptHoming results => exact .scripted results
  | failCall number error => exact .arranged number error
  | clearTrace => exact .cleared
  | obstructAt limit => exact .unseen rfl nofun rfl rfl rfl
  | obstructAbove limit => exact .unseen rfl nofun rfl rfl rfl
  | setPosition position => exact .unseen rfl nofun rfl rfl rfl
  | injectStall => exact .unseen rfl nofun rfl rfl rfl

def booksOf (operations : List (AxisOperation C)) (q : HomingQueue) : Books C :=
  ⟨callCount operations, latestFault operations, traceOf operations, q.pending⟩

section
variable {operations : List (AxisOperation C)} {q : HomingQueue}

theorem callCount_call (call : operation.isCall = true) :
    callCount (operations ++ [operation]) = callCount operations + 1 := by
  rw [callCount, List.countP_append, List.countP_singleton, if_pos call, callCount]

theorem callCount_other (uncalled : operation.isCall = false) :
    callCount (operations ++ [operation]) = callCount operations := by
  rw [callCount, List.countP_append, List.countP_singleton, uncalled]
  rfl

theorem latestFault_other (unarranged : operation.arranged? = none) :
    latestFault (operations ++ [operation]) = latestFault operations := by
  rw [latestFault, List.filterMap_append, List.filterMap_cons_none unarranged, List.filterMap_nil, List.append_nil,
    latestFault]

theorem latestFault_arranged (number : Nat) (error : AxisError) :
    latestFault (operations ++ [.failCall number error]) = some (number, error) := by
  have arranged : (AxisOperation.failCall (C := C) number error).arranged? = some (number, error) := rfl
  rw [latestFault, List.filterMap_append, List.filterMap_cons_some arranged, List.filterMap_nil,
    List.getLast?_concat]

theorem traceOf_call (call : operation.isCall = true) : traceOf (operations ++ [operation]) =
    (traceOf operations ++ operation.recorded?.toList).take traceLength := by
  obtain ⟨-, uncleared, -⟩ := AxisOperation.of_isCall call
  cases entry : operation.recorded? with
  | none =>
    rw [Option.toList_none, List.append_nil, traceOf, boundedRecord_skip uncleared entry]
    exact (List.take_of_length_le length_boundedRecord_le).symm
  | some c => exact boundedRecord_entry uncleared entry

theorem books_counted (operation : AxisOperation C) (h : a.books = booksOf operations q)
    (call : operation.isCall = true) :
    (a.counted operation.recorded?).books = booksOf (operations ++ [operation]) q := by
  obtain ⟨unarranged, -, -⟩ := AxisOperation.of_isCall call
  have counted : (a.counted operation.recorded?).books = { a.books with
      calls := a.books.calls + 1
      trace := (a.books.trace ++ operation.recorded?.toList).take traceLength } := rfl
  rw [counted, h, booksOf, booksOf, callCount_call call, latestFault_other unarranged, traceOf_call call]

theorem books_other (operation : AxisOperation C) (h : a.books = booksOf operations q)
    (uncalled : operation.isCall = false) (unarranged : operation.arranged? = none)
    (uncleared : operation.clears = false) : a.books = booksOf (operations ++ [operation]) q := by
  have unrecorded := AxisOperation.recorded?_of_not_isCall uncalled
  rw [h, booksOf, booksOf, callCount_other uncalled, latestFault_other unarranged, traceOf, traceOf,
    boundedRecord_skip uncleared unrecorded]

theorem queue_untouched {answer : Except AxisError Feedback}
    (unscripted : ∀ results, operation ≠ .scriptHoming results)
    (ungiven : operation = .call .home → ∃ error, answer = .error error) :
    AxisEvent.queue q ⟨a, operation, answer⟩ = q := by
  unfold AxisEvent.queue
  split
  · next results same => exact absurd same (unscripted results)
  · next f home given =>
    obtain ⟨error, failed⟩ := ungiven home
    cases given.symm.trans failed
  · rfl

theorem books_perform (h : a.books = booksOf operations q) (operation : AxisOperation C) :
    (a.perform operation).2.books = booksOf (operations ++ [operation]) (AxisEvent.queue q (a.event operation)) := by
  have entered := enters a operation
  unfold event
  generalize (a.perform operation).1 = answer at entered ⊢
  generalize (a.perform operation).2 = b at entered ⊢
  cases entered with
  | faulted call due =>
    rw [queue_untouched (AxisOperation.of_isCall call).2.2 fun _ => ⟨_, rfl⟩]
    exact books_counted _ h call
  | refused call spared leaves =>
    rw [queue_untouched (AxisOperation.of_isCall call).2.2 fun _ => ⟨_, rfl⟩]
    exact books_counted _ h call
  | answered call spared stays unhomed same =>
    rw [queue_untouched (AxisOperation.of_isCall call).2.2 fun home => absurd home unhomed, same]
    exact books_counted _ h call
  | homed spared next same =>
    have homings : a.homings = q.pending := congrArg Books.homings h
    have counted := books_counted (.call .home) h rfl
    rw [homings, ← q.pending_give] at same
    exact same.trans (congrArg (fun books => { books with homings := q.give.pending }) counted)
  | scripted results =>
    have homings : a.homings = q.pending := congrArg Books.homings h
    have queued : (a.homings ++ results).take homingsLength = (results.foldl HomingQueue.push q).pending := by
      rw [homings, HomingQueue.pending_foldl_push]
    have same : (a.scriptHoming results).books =
        { a.books with homings := (results.foldl HomingQueue.push q).pending } := by
      rw [← queued]
      rfl
    have others := books_other (.scriptHoming results) h rfl rfl rfl
    exact same.trans
      (congrArg (fun books => { books with homings := (results.foldl HomingQueue.push q).pending }) others)
  | arranged number error =>
    have untouched : AxisEvent.queue q ⟨a, .failCall number error, .ok .none⟩ = q := rfl
    have kept : traceOf (operations ++ [.failCall number error]) = traceOf operations := boundedRecord_skip rfl rfl
    rw [untouched, booksOf, latestFault_arranged, callCount_other rfl, kept]
    exact congrArg (fun books => { books with fault := some (number, error) }) h
  | cleared =>
    have untouched : AxisEvent.queue q ⟨a, .clearTrace, .ok .none⟩ = q := rfl
    have emptied : traceOf (operations ++ [.clearTrace]) = [] := boundedRecord_clear rfl
    rw [untouched, booksOf, latestFault_other rfl, callCount_other rfl, emptied]
    exact congrArg (fun books => { books with trace := [] }) h
  | unseen uncalled unscripted unarranged uncleared same =>
    have unhomed : operation ≠ .call .home := by
      rintro rfl
      cases uncalled
    rw [queue_untouched unscripted fun home => absurd home unhomed, same]
    exact books_other _ h uncalled unarranged uncleared

end

theorem after_concat (a : SimAxis C) (operations : List (AxisOperation C)) (operation : AxisOperation C) :
    a.after (operations ++ [operation]) = ((a.after operations).perform operation).2 := by
  induction operations generalizing a with
  | nil => rfl
  | cons first rest ih => exact ih _

theorem events_concat (a : SimAxis C) (operations : List (AxisOperation C)) (operation : AxisOperation C) :
    a.events (operations ++ [operation]) = a.events operations ++ [(a.after operations).event operation] := by
  induction operations generalizing a with
  | nil => rfl
  | cons first rest ih => exact congrArg _ (ih _)

def made (position : Int32) (bounds : Option (Int32 × Int32)) : SimAxis C := { position, bounds }

theorem books_after (position : Int32) (bounds : Option (Int32 × Int32)) (operations : List (AxisOperation C)) :
    ((made position bounds).after operations).books =
      booksOf operations (homingQueue ((made position bounds).events operations)) := by
  -- runs grow at their end: what an operation enters depends on all that came before it
  induction operations using List.reverseRecOn with
  | nil => rfl
  | append_singleton operations operation ih =>
    rw [after_concat, events_concat, homingQueue, List.foldl_concat, ← homingQueue]
    exact books_perform ih operation

structure Bookkeeping (operations : List (AxisOperation C)) (q : HomingQueue) (a : SimAxis C) : Prop where
  calls : a.calls = callCount operations
  /-- The call whose number the latest arrangement names fails with its error. -/
  faulted : ∀ operation error, operation.isCall = true →
    latestFault operations = some (callCount operations, error) → (a.perform operation).1 = .error error
  spared : ∀ operation error, operation.isCall = true →
    (∀ e, latestFault operations ≠ some (callCount operations, e)) →
    ((a.perform operation).1 = .error error ↔ error = .outOfBounds ∧ a.Leaves operation)
  failed : ∀ operation error, (a.perform operation).1 = .error error → operation.isCall = true ∧
    (a.perform operation).2 = { a with
      calls := callCount operations + 1
      trace := (traceOf operations ++ operation.recorded?.toList).take traceLength }
  trace : a.trace = traceOf operations
  motions : a.motionCount = (traceOf operations).countP AxisCall.isMotion
  pending : a.homings = q.pending
  homed : ∀ f, (a.perform (.call .home)).1 = .ok f → f = .homed q.next

theorem failed_of_enters {answer : Except AxisError Feedback} {b : SimAxis C} {error : AxisError}
    (entered : Enters a operation answer b) (failed : answer = .error error) :
    operation.isCall = true ∧ b = a.counted operation.recorded? := by
  cases entered with
  | faulted call due => exact ⟨call, rfl⟩
  | refused call spared leaves => exact ⟨call, rfl⟩
  | _ => cases failed

theorem error_iff_of_spared {answer : Except AxisError Feedback} {b : SimAxis C} {error : AxisError}
    (entered : Enters a operation answer b) (call : operation.isCall = true) (spared : a.Spared) :
    answer = .error error ↔ error = .outOfBounds ∧ a.Leaves operation := by
  cases entered with
  | faulted _ due => exact absurd due (spared _)
  | refused _ _ leaves =>
    constructor
    · intro same
      exact ⟨(Except.error.inj same).symm, leaves⟩
    · rintro ⟨rfl, -⟩
      rfl
  | answered _ _ stays => exact ⟨nofun, fun h => absurd h.2 stays⟩
  | homed => exact ⟨nofun, fun h => absurd h.2 (not_leaves rfl)⟩
  | unseen uncalled => exact absurd call (ne_true_of_eq_false uncalled)
  | _ => cases call

theorem error_of_due {answer : Except AxisError Feedback} {b : SimAxis C} {error : AxisError}
    (entered : Enters a operation answer b) (call : operation.isCall = true)
    (due : a.fault = some (a.calls, error)) : answer = .error error := by
  cases entered with
  | faulted _ due' =>
    cases due.symm.trans due'
    rfl
  | refused _ spared | answered _ spared | homed spared => exact absurd due (spared error)
  | unseen uncalled => exact absurd call (ne_true_of_eq_false uncalled)
  | _ => cases call

theorem homed_of_enters {answer : Except AxisError Feedback} {b : SimAxis C} {f : Feedback}
    (entered : Enters a (.call .home) answer b) (done : answer = .ok f) :
    f = .homed (a.homings.head?.getD true) := by
  cases entered with
  | answered _ _ _ unhomed => exact absurd rfl unhomed
  | homed _ next =>
    rw [next]
    exact (Except.ok.inj done).symm
  | unseen uncalled => cases uncalled
  | _ => cases done

/-- An axis keeps its books, whatever is done to it since it was made. -/
theorem bookkeeping_law (position : Int32) (bounds : Option (Int32 × Int32))
    (operations : List (AxisOperation C)) :
    Bookkeeping operations (homingQueue ((made position bounds).events operations))
      ((made position bounds).after operations) := by
  have books := books_after position bounds operations
  generalize (made position bounds).after operations = a at books
  generalize homingQueue ((made position bounds).events operations) = q at books
  have calls : a.calls = callCount operations := congrArg Books.calls books
  have fault : a.fault = latestFault operations := congrArg Books.fault books
  have trace : a.trace = traceOf operations := congrArg Books.trace books
  have pending : a.homings = q.pending := congrArg Books.homings books
  constructor
  case calls => exact calls
  case trace => exact trace
  case pending => exact pending
  case motions => rw [motionCount, trace]
  case faulted =>
    intro operation error call due
    rw [← fault, ← calls] at due
    exact error_of_due (enters a operation) call due
  case spared =>
    intro operation error call spared
    rw [← fault, ← calls] at spared
    exact error_iff_of_spared (enters a operation) call spared
  case failed =>
    intro operation error failed
    obtain ⟨call, same⟩ := failed_of_enters (enters a operation) failed
    rw [same, counted, calls, trace]
    exact ⟨call, rfl⟩
  case homed =>
    intro f done
    rw [q.next_eq, ← pending]
    exact homed_of_enters (enters a _) done

end SimAxis
end LayerSeparation
