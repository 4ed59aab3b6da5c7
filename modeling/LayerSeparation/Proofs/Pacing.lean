import LayerSeparation.Proofs.Failure
import LayerSeparation.Tilt.Pacer

/-! The steps of a split. Counted off in words they are those that the split holds from the start: nothing
leaves its word, and after the last step there is none, however often one is asked for. What the steps are is
read off the parts of the whole distance, which are numbers without a range. -/
namespace LayerSeparation

open Width (int32? uint8?)

theorem Width.int32?_of_fit {n : Int} (h : -0x80000000 ≤ n ∧ n < 0x80000000) :
    int32? n = some (Int32.ofInt n) := if_pos h

theorem getElem?_shares (d : Int) {parts : Nat} (positive : 0 < parts) (i : Nat) :
    (shares d parts)[i]? = if i + 1 < parts then some (d.tdiv parts)
      else if i + 1 = parts then some (d - d.tdiv parts * ((parts : Int) - 1)) else none := by
  have count : ((parts - 1 : Nat) : Int) = (parts : Int) - 1 := by omega
  rw [shares, List.getElem?_append, List.length_replicate, List.getElem?_replicate, count]
  split
  · next first => rw [if_pos (by omega)]
  · next later =>
    rw [if_neg (show ¬ i + 1 < parts by omega)]
    split
    · next last => rw [show i - (parts - 1) = 0 by omega]; rfl
    · next past => exact List.getElem?_eq_none (by simp; omega)

def spread (delayMs : UInt32) (moves : List SplitStep) : List SplitStep :=
  if delayMs = 0 then moves else moves.intersperse (.wait delayMs)

def answers (steps : List SplitStep) (n : Nat) : List (Option SplitStep) :=
  (steps.take n).map some ++ List.replicate (n - steps.length) none

theorem answers_nil (n : Nat) : answers [] (n + 1) = none :: answers [] n := by
  simp [answers, List.replicate_succ]

theorem answers_cons (step : SplitStep) (steps : List SplitStep) (n : Nat) :
    answers (step :: steps) (n + 1) = some step :: answers steps n := by
  simp [answers]

theorem spread_cons (delayMs : UInt32) (m : SplitStep) (moves : List SplitStep) :
    spread delayMs (m :: moves) =
      m :: ((if moves ≠ [] ∧ delayMs ≠ 0 then [.wait delayMs] else []) ++ spread delayMs moves) := by
  unfold spread
  by_cases none : delayMs = 0
  · simp [none]
  · cases moves with
    | nil => simp [none]
    | cons k moves => simp [none]

theorem spread_singleton (delayMs : UInt32) (m : SplitStep) : spread delayMs [m] = [m] := by
  unfold spread
  split <;> rfl

namespace Pacer

/-- The counters fit together, and the quotient is the one that is counted with. -/
structure Fits (s : Pacer) : Prop where
  positive : 0 < s.moves.toNat
  quotient : s.perMove.toInt = s.distance.toInt.tdiv s.moves.toNat
  issued : s.issued.toNat ≤ s.moves.toNat
  waiting : s.waitPending = true → s.issued.toNat < s.moves.toNat

def parts (s : Pacer) : List SplitStep :=
  (shares s.distance.toInt s.moves.toNat).map fun n => .move (Int32.ofInt n)

def due (s : Pacer) : List SplitStep :=
  (if s.waitPending then [.wait s.delayMs] else []) ++ spread s.delayMs (s.parts.drop s.issued.toNat)

variable {s : Pacer}

theorem Fits.length_parts (h : s.Fits) : s.parts.length = s.moves.toNat := by
  rw [parts, List.length_map, length_shares _ h.positive]

/-- The length of a move is that of the part at its place, and none of the words on the way is exceeded. -/
theorem Fits.moveLen? (h : s.Fits) {index : UInt8} (before : index.toNat < s.moves.toNat) :
    ∃ w, s.moveLen? index = some w ∧ s.parts[index.toNat]? = some (.move w) := by
  have few := s.moves.toNat_lt
  have fit := workings_fit s.distance h.positive few
  simp only [workings, List.forall_mem_cons] at fit
  obtain ⟨_, others, covered, last, _⟩ := fit
  have following : uint8? (index.toNat + 1) = some (UInt8.ofNat (index.toNat + 1)) := if_pos (by omega)
  have value : (UInt8.ofNat (index.toNat + 1)).toNat = index.toNat + 1 := UInt8.toNat_ofNat_of_lt' (by
    simp only [UInt8.size]; omega)
  rw [parts, List.getElem?_map, getElem?_shares _ h.positive]
  unfold Pacer.moveLen?
  rw [following, Option.bind_eq_bind, Option.bind_some]
  by_cases final : index.toNat + 1 = s.moves.toNat
  · have isLast : UInt8.ofNat (index.toNat + 1) = s.moves := UInt8.toNat_inj.mp (value.trans final)
    have exactly {n : Int} (fits : -0x80000000 ≤ n ∧ n < 0x80000000) : (Int32.ofInt n).toInt = n :=
      Int32.toInt_ofInt_of_le fits.1 fits.2
    rw [if_pos isLast, if_neg (by omega), if_pos final]
    simp only [Option.bind_eq_bind, Width.int32?_of_fit others, Option.bind_some, exactly others, h.quotient,
      Width.int32?_of_fit covered, exactly covered, Width.int32?_of_fit last]
    exact ⟨_, rfl, rfl⟩
  · have isInner : UInt8.ofNat (index.toNat + 1) ≠ s.moves := fun e => final (value ▸ congrArg UInt8.toNat e)
    rw [if_neg isInner, if_pos (by omega), ← h.quotient, Option.map_some, Int32.ofInt_toInt]
    exact ⟨_, rfl, rfl⟩

theorem due_of_waiting (waiting : s.waitPending = true) :
    s.due = .wait s.delayMs :: ({ s with waitPending := false } : Pacer).due := by
  simp [due, waiting, parts]

theorem due_of_not_waiting (waiting : s.waitPending ≠ true) :
    s.due = spread s.delayMs (s.parts.drop s.issued.toNat) := by
  simp [due, waiting]

theorem Fits.due_of_finished (h : s.Fits) (waiting : s.waitPending ≠ true) (finished : s.moves ≤ s.issued) :
    s.due = [] := by
  have none : s.parts.drop s.issued.toNat = [] :=
    List.drop_eq_nil_of_le (h.length_parts.trans_le (UInt8.le_iff_toNat_le.mp finished))
  rw [due_of_not_waiting waiting, none]
  unfold spread
  split <;> rfl

theorem Fits.next?_of_issue (h : s.Fits) (waiting : s.waitPending ≠ true) (before : ¬ s.moves ≤ s.issued) :
    ∃ w t, s.next? = some (some (.move w), t) ∧ t.Fits ∧ s.due = .move w :: t.due := by
  have left : s.issued.toNat < s.moves.toNat := Nat.lt_of_not_le fun e => before (UInt8.le_iff_toNat_le.mpr e)
  obtain ⟨w, len, part⟩ := h.moveLen? left
  obtain ⟨inside, part⟩ := List.getElem?_eq_some_iff.mp part
  have few := s.moves.toNat_lt
  have counted : uint8? (s.issued.toNat + 1) = some (UInt8.ofNat (s.issued.toNat + 1)) := if_pos (by omega)
  have value : (UInt8.ofNat (s.issued.toNat + 1)).toNat = s.issued.toNat + 1 :=
    UInt8.toNat_ofNat_of_lt' (by simp only [UInt8.size]; omega)
  generalize UInt8.ofNat (s.issued.toNat + 1) = issued at counted value
  have more : s.parts.drop (s.issued.toNat + 1) ≠ [] ↔ issued < s.moves := by
    rw [ne_eq, List.drop_eq_nil_iff, h.length_parts, UInt8.lt_iff_toNat_lt, value]
    omega
  refine ⟨w, { s with issued, waitPending := issued < s.moves && 0 < s.delayMs }, ?_,
    ⟨h.positive, h.quotient, value.trans_le left, ?_⟩, ?_⟩
  · rw [Pacer.next?, if_neg waiting, if_neg before, len, counted]
    rfl
  · intro pause
    exact UInt8.lt_iff_toNat_lt.mp (of_decide_eq_true (Bool.and_eq_true_iff.mp pause).1)
  · rw [due_of_not_waiting waiting, List.drop_eq_getElem_cons inside, part, spread_cons]
    simp only [due, value, UInt32.pos_iff_ne_zero, Bool.and_eq_true, decide_eq_true_eq, ← more]
    rfl

/-- One call gives the first of the steps that are still to come and leaves the others. -/
theorem Fits.next? (h : s.Fits) : match s.due with
    | [] => s.next? = some (none, s)
    | step :: rest => ∃ t, s.next? = some (some step, t) ∧ t.Fits ∧ t.due = rest := by
  by_cases waiting : s.waitPending = true
  · rw [due_of_waiting waiting]
    have fits : Fits { s with waitPending := false } :=
      ⟨h.positive, h.quotient, h.issued, fun waits => absurd waits Bool.false_ne_true⟩
    refine ⟨{ s with waitPending := false }, ?_, fits, rfl⟩
    rw [Pacer.next?, if_pos waiting]
  by_cases finished : s.moves ≤ s.issued
  · rw [h.due_of_finished waiting finished]
    show s.next? = _
    rw [Pacer.next?, if_neg waiting, if_pos finished]
  · obtain ⟨w, t, call, fits, due⟩ := h.next?_of_issue waiting finished
    rw [due]
    exact ⟨t, call, fits, rfl⟩

theorem next?_eq_none_iff {s t : Pacer} :
    s.next? = some (none, t) ↔ s.isFinished = true ∧ t = s := by
  unfold isFinished Pacer.next?
  by_cases waiting : s.waitPending = true
  · simp [waiting]
  · by_cases finished : s.moves ≤ s.issued
    · simp [waiting, finished, eq_comm]
    · cases s.moveLen? s.issued <;> cases uint8? (s.issued.toNat + 1) <;> simp [waiting, finished]

theorem Fits.isFinished_iff (h : s.Fits) : s.isFinished = true ↔ s.due = [] := by
  have call := h.next?
  have last := next?_eq_none_iff (s := s) (t := s)
  cases due : s.due with
  | nil =>
    rw [due] at call
    simpa [call] using last
  | cons step rest =>
    rw [due] at call
    obtain ⟨t, call, -⟩ := call
    simpa [call] using last

theorem Fits.calls? (h : s.Fits) (n : Nat) :
    ∃ t, s.calls? n = some (answers s.due n, t) ∧ t.Fits ∧ t.due = s.due.drop n := by
  induction n generalizing s with
  | zero => exact ⟨s, by simp [Pacer.calls?, answers], h, rfl⟩
  | succ n ih =>
    have call := h.next?
    cases due : s.due with
    | nil =>
      rw [due] at call
      obtain ⟨t, later, fits, left⟩ := ih h
      rw [due] at later left
      rw [List.drop_nil] at left
      refine ⟨t, ?_, fits, left.trans List.drop_nil.symm⟩
      simp [Pacer.calls?, call, later, answers_nil]
    | cons step rest =>
      rw [due] at call
      obtain ⟨u, call, fits, left⟩ := call
      obtain ⟨t, later, fits, left'⟩ := ih fits
      rw [left] at later left'
      refine ⟨t, ?_, fits, left'⟩
      simp [Pacer.calls?, call, later, answers_cons]

theorem fits_of_new? (distance : Int32) (cycles : UInt8) (delayMs : UInt32) :
    ∃ s, new? distance cycles delayMs = some s ∧ s.Fits ∧
      s.due = (CycleSplit.new distance cycles delayMs).pending := by
  have few := cycles.toNat_lt
  have positive : 0 < max cycles.toNat 1 := by omega
  have fit := workings_fit distance positive (by omega)
  have count := toNat_moves cycles
  simp only [workings, List.forall_mem_cons, ← count] at fit
  simp only [new?, quotient?, if_neg (show ((if cycles = 0 then 1 else cycles).toNat : Int) ≠ 0 by omega),
    Width.int32?_of_fit fit.1]
  refine ⟨_, rfl, ⟨?_, ?_, Nat.zero_le _, fun waits => absurd waits Bool.false_ne_true⟩, ?_⟩
  · exact positive.trans_eq count.symm
  · exact Int32.toInt_ofInt_of_le fit.1.1 fit.1.2
  · rw [due_of_not_waiting Bool.false_ne_true]
    show spread _ _ = spread _ _
    by_cases zero : cycles = 0
    · -- a single move has no pause next to it, with or without a delay
      rw [parts, if_pos zero]
      exact (spread_singleton _ _).trans (spread_singleton delayMs _).symm
    · simp only [if_neg zero]
      rfl

end Pacer
namespace CycleSplit

def calls : Nat → CycleSplit → List (Option SplitStep) × CycleSplit
  | 0, s => ([], s)
  | n + 1, s =>
    match s.next with
    | none => let (steps, t) := calls n s; (none :: steps, t)
    | some (step, t) => let (steps, u) := calls n t; (some step :: steps, u)

theorem calls_eq (n : Nat) (s : CycleSplit) :
    s.calls n = (answers s.pending n, { s with pending := s.pending.drop n }) := by
  induction n generalizing s with
  | zero => simp [calls, answers]
  | succ n ih =>
    cases due : s.pending with
    | nil =>
      have call : s.next = none := by rw [next, due]
      rw [calls, call, ih s, due]
      simp [answers_nil]
    | cons step rest =>
      have call : s.next = some (step, { s with pending := rest }) := by rw [next, due]
      rw [calls, call]
      simp [ih { s with pending := rest }, answers_cons]

end CycleSplit

def lengths (steps : List SplitStep) : List Int := steps.filterMap SplitStep.length?

/-- What the steps of a split are. The whole distance is covered exactly, without a turn on the way; pauses
stand between moves only. -/
structure Divides (distance : Int32) (cycles : UInt8) (delayMs : UInt32) (steps : List SplitStep) :
    Prop where
  count : (lengths steps).length = max cycles.toNat 1
  whole : total (lengths steps) = distance.toInt
  inner : ∀ i, i + 1 < max cycles.toNat 1 →
    (lengths steps)[i]? = some (distance.toInt.tdiv (max cycles.toNat 1 : Nat))
  last : ∃ n, (lengths steps)[max cycles.toNat 1 - 1]? = some n ∧
    (n - distance.toInt.tdiv (max cycles.toNat 1 : Nat)).natAbs < max cycles.toNat 1
  sided : Sided (lengths steps)
  between : ∀ k, let sum := total ((lengths steps).take k)
    0 ≤ sum ∧ sum ≤ distance.toInt ∨ distance.toInt ≤ sum ∧ sum ≤ 0
  pauses : if 2 ≤ cycles.toNat ∧ 0 < delayMs then
      steps.length = 2 * max cycles.toNat 1 - 1 ∧ ∀ i, i < steps.length →
        if i % 2 = 0 then ∃ n, steps[i]? = some (.move n) else steps[i]? = some (.wait delayMs)
    else ∀ step ∈ steps, ∃ n, step = .move n

theorem total_append (ns ms : List Int) : total (ns ++ ms) = total ns + total ms := by
  induction ns with
  | nil => exact (Int.zero_add _).symm
  | cons n ns ih => rw [List.cons_append, total_cons, total_cons, ih, Int.add_assoc]

/-- On a way without a turn no place lies outside its two ends. -/
theorem Sided.between {ns : List Int} (h : Sided ns) (k : Nat) :
    0 ≤ total (ns.take k) ∧ total (ns.take k) ≤ total ns ∨
      total ns ≤ total (ns.take k) ∧ total (ns.take k) ≤ 0 := by
  have whole := total_append (ns.take k) (ns.drop k)
  rw [List.take_append_drop] at whole
  rcases h with up | down
  · have before : 0 ≤ total (ns.take k) := total_nonneg fun n hn => up n (List.mem_of_mem_take hn)
    have after : 0 ≤ total (ns.drop k) := total_nonneg fun n hn => up n (List.mem_of_mem_drop hn)
    omega
  · have before : total (ns.take k) ≤ 0 := total_nonpos fun n hn => down n (List.mem_of_mem_take hn)
    have after : total (ns.drop k) ≤ 0 := total_nonpos fun n hn => down n (List.mem_of_mem_drop hn)
    omega

theorem natAbs_remainder_lt (d : Int) {parts : Nat} (positive : 0 < parts) :
    (d - d.tdiv parts * ((parts : Int) - 1) - d.tdiv parts).natAbs < parts := by
  have whole := Int.tdiv_mul_add_tmod d parts
  have rest : d - d.tdiv parts * ((parts : Int) - 1) - d.tdiv parts = d.tmod parts := by
    rw [Int.mul_sub]
    omega
  rw [rest, Int.natAbs_tmod, Int.natAbs_natCast]
  exact Nat.mod_lt _ positive

theorem pauses_pending (distance : Int32) (cycles : UInt8) (delayMs : UInt32) :
    let steps := (CycleSplit.new distance cycles delayMs).pending
    if 2 ≤ cycles.toNat ∧ 0 < delayMs then
      steps.length = 2 * max cycles.toNat 1 - 1 ∧ ∀ i, i < steps.length →
        if i % 2 = 0 then ∃ n, steps[i]? = some (.move n) else steps[i]? = some (.wait delayMs)
    else ∀ step ∈ steps, ∃ n, step = .move n := by
  have positive : 0 < max cycles.toNat 1 := by omega
  simp only [CycleSplit.new, toNat_moves]
  split
  · next paused =>
    rw [if_neg (UInt32.pos_iff_ne_zero.mp paused.2), List.length_intersperse, List.length_map,
      length_shares _ positive]
    refine ⟨rfl, fun i before => ?_⟩
    rw [List.getElem?_intersperse]
    by_cases even : i % 2 = 0
    · have inside : i / 2 < (shares distance.toInt (max cycles.toNat 1)).length := by
        rw [length_shares _ positive]
        omega
      rw [if_pos even, if_pos even, List.getElem?_map, List.getElem?_eq_getElem inside]
      exact ⟨_, rfl⟩
    · rw [if_neg even, if_neg even, List.length_map, length_shares _ positive, if_pos before]
  · next unpaused =>
    intro step member
    have move : step ∈ (shares distance.toInt (max cycles.toNat 1)).map fun n => .move (Int32.ofInt n) := by
      split at member
      · exact member
      · next delayed =>
        -- with a delay there are not two cycles, and a single part stays alone
        have one : max cycles.toNat 1 = 1 := by
          have few : ¬ 2 ≤ cycles.toNat := fun many => unpaused ⟨many, UInt32.pos_iff_ne_zero.mpr delayed⟩
          omega
        rw [one] at member ⊢
        exact member
    obtain ⟨n, -, rfl⟩ := List.mem_map.mp move
    exact ⟨_, rfl⟩

theorem divides_pending (distance : Int32) (cycles : UInt8) (delayMs : UInt32) :
    Divides distance cycles delayMs (CycleSplit.new distance cycles delayMs).pending := by
  have lengths_eq : lengths (CycleSplit.new distance cycles delayMs).pending =
      shares distance.toInt (max cycles.toNat 1) := (split_exact distance cycles delayMs).2
  have positive : 0 < max cycles.toNat 1 := by omega
  have whole : total (shares distance.toInt (max cycles.toNat 1)) = distance.toInt := total_shares _ _
  exact {
    count := by rw [lengths_eq, length_shares _ positive]
    whole := by rw [lengths_eq, whole]
    inner := fun i h => by rw [lengths_eq, getElem?_shares _ positive, if_pos h]
    last := by
      rw [lengths_eq, getElem?_shares _ positive, if_neg (by omega), if_pos (by omega)]
      exact ⟨_, rfl, natAbs_remainder_lt _ positive⟩
    sided := by
      rw [lengths_eq]
      exact sided_shares _ _
    between := fun k => by
      have inside := (sided_shares distance.toInt (max cycles.toNat 1)).between k
      rwa [whole, ← lengths_eq] at inside
    pauses := pauses_pending distance cycles delayMs }

/-- However often a split is asked for its next step, it gives its steps in order and then nothing, and it
is finished exactly when it gives nothing. The count in words never leaves them and is always at the same
step as the split that holds its steps. -/
theorem split_law (distance : Int32) (cycles : UInt8) (delayMs : UInt32) :
    ∃ s steps, Pacer.new? distance cycles delayMs = some s ∧ Divides distance cycles delayMs steps ∧
      ∀ n, ∃ t, s.calls? n = some (answers steps n, t) ∧ (t.isFinished = true ↔ steps.length ≤ n) ∧
        (∀ u, t.next? = some (none, u) ↔ t.isFinished = true ∧ u = t) ∧
        ((CycleSplit.new distance cycles delayMs).calls n).1 = answers steps n ∧
        ((CycleSplit.new distance cycles delayMs).calls n).2.isFinished = t.isFinished := by
  obtain ⟨s, counted, fits, due⟩ := Pacer.fits_of_new? distance cycles delayMs
  refine ⟨s, s.due, counted, due ▸ divides_pending distance cycles delayMs, fun n => ?_⟩
  obtain ⟨t, calls, fits', left⟩ := fits.calls? n
  have finished : t.isFinished = true ↔ s.due.length ≤ n := by
    rw [fits'.isFinished_iff, left, List.drop_eq_nil_iff]
  refine ⟨t, calls, finished, fun u => Pacer.next?_eq_none_iff, ?_, ?_⟩
  · rw [CycleSplit.calls_eq, due]
  · rw [CycleSplit.calls_eq, Bool.eq_iff_iff, finished, CycleSplit.isFinished, List.isEmpty_iff,
      List.drop_eq_nil_iff, due]

end LayerSeparation
