import LayerSeparation.Tilt.Split

/-! The parts of a split all point the way of the whole, so a tilt that covers them one after another
never turns back and never passes its target. -/
namespace LayerSeparation

def total (ns : List Int) : Int := ns.foldr (· + ·) 0

theorem total_cons (n : Int) (ns : List Int) : total (n :: ns) = n + total ns := rfl

def Sided (ns : List Int) : Prop := (∀ n ∈ ns, 0 ≤ n) ∨ ∀ n ∈ ns, n ≤ 0

theorem total_nonneg {ns : List Int} (h : ∀ n ∈ ns, 0 ≤ n) : 0 ≤ total ns := by
  induction ns with
  | nil => exact Int.le_refl 0
  | cons n ns ih =>
    have first := h n List.mem_cons_self
    have rest := ih fun k hk => h k (List.mem_cons_of_mem n hk)
    rw [total_cons]
    omega

theorem total_nonpos {ns : List Int} (h : ∀ n ∈ ns, n ≤ 0) : total ns ≤ 0 := by
  induction ns with
  | nil => exact Int.le_refl 0
  | cons n ns ih =>
    have first := h n List.mem_cons_self
    have rest := ih fun k hk => h k (List.mem_cons_of_mem n hk)
    rw [total_cons]
    omega

theorem Sided.of_cons {n : Int} {ns : List Int} (h : Sided (n :: ns)) :
    Sided ns ∧ ((0 ≤ n ∧ 0 ≤ total ns) ∨ (n ≤ 0 ∧ total ns ≤ 0)) := by
  rcases h with up | down
  · have rest : ∀ k ∈ ns, 0 ≤ k := fun k hk => up k (List.mem_cons_of_mem n hk)
    exact ⟨.inl rest, .inl ⟨up n List.mem_cons_self, total_nonneg rest⟩⟩
  · have rest : ∀ k ∈ ns, k ≤ 0 := fun k hk => down k (List.mem_cons_of_mem n hk)
    exact ⟨.inr rest, .inr ⟨down n List.mem_cons_self, total_nonpos rest⟩⟩

theorem shares_neg (d : Int) (parts : Nat) : shares (-d) parts = (shares d parts).map (- ·) := by
  simp only [shares, Int.neg_tdiv, List.map_append, List.map_replicate, List.map_cons, List.map_nil,
    Int.neg_mul]
  congr 2
  omega

theorem share_bounds {d : Int} (h : 0 ≤ d) (k : Nat) :
    0 ≤ d.tdiv ((k + 1 : Nat) : Int) ∧ 0 ≤ d.tdiv ((k + 1 : Nat) : Int) * k ∧
      d.tdiv ((k + 1 : Nat) : Int) * k + d.tdiv ((k + 1 : Nat) : Int) ≤ d := by
  have whole := Int.tdiv_mul_add_tmod d ((k + 1 : Nat) : Int)
  have left := Int.tmod_nonneg (a := d) ((k + 1 : Nat) : Int) h
  have each : 0 ≤ d.tdiv ((k + 1 : Nat) : Int) := Int.tdiv_nonneg h (Int.natCast_nonneg _)
  generalize d.tdiv ((k + 1 : Nat) : Int) = share at *
  rw [Int.natCast_add, Int.mul_add, Int.natCast_one, Int.mul_one] at whole
  rw [Int.natCast_add, Int.natCast_one] at left
  exact ⟨each, Int.mul_nonneg each (Int.natCast_nonneg k), by omega⟩

theorem shares_nonneg {d : Int} {parts : Nat} (h : 0 ≤ d) : ∀ n ∈ shares d parts, 0 ≤ n := by
  intro n hn
  simp only [shares, List.mem_append, List.mem_replicate, List.mem_singleton] at hn
  rcases hn with ⟨_, rfl⟩ | rfl
  · exact Int.tdiv_nonneg h (Int.natCast_nonneg parts)
  · cases parts with
    | zero => simpa using h
    | succ k =>
      obtain ⟨each, most, all⟩ := share_bounds h k
      rw [Nat.add_sub_cancel]
      omega

theorem sided_shares (d : Int) (parts : Nat) : Sided (shares d parts) := by
  by_cases h : 0 ≤ d
  · exact .inl (shares_nonneg h)
  · have opposite : ∀ n ∈ shares (-d) parts, 0 ≤ n := shares_nonneg (by omega)
    rw [shares_neg] at opposite
    refine .inr fun n hn => ?_
    have flipped := opposite (-n) (List.mem_map_of_mem hn)
    omega

/- The whole numbers that are worked out on the way to the parts. -/
def workings (d : Int) (parts : Nat) : List Int :=
  [d.tdiv parts, (parts : Int) - 1, d.tdiv parts * ((parts : Int) - 1),
    d - d.tdiv parts * ((parts : Int) - 1)]

/-- Nothing that a split works out leaves the range of a word. -/
theorem workings_fit (d : Int32) {parts : Nat} (some : 0 < parts) (few : parts < 256) :
    ∀ n ∈ workings d.toInt parts, -0x80000000 ≤ n ∧ n < 0x80000000 := by
  obtain ⟨k, rfl⟩ := Nat.exists_eq_succ_of_ne_zero (Nat.ne_of_gt some)
  have low := d.le_toInt
  have high := d.toInt_lt
  have count : ((k + 1 : Nat) : Int) - 1 = k := by omega
  intro n hn
  simp only [workings, Nat.succ_eq_add_one, count, List.mem_cons, List.not_mem_nil, or_false] at hn
  by_cases side : 0 ≤ d.toInt
  · obtain ⟨each, most, all⟩ := share_bounds side k
    rcases hn with rfl | rfl | rfl | rfl <;> omega
  · have flipped : 0 ≤ -d.toInt := by omega
    obtain ⟨each, most, all⟩ := share_bounds flipped k
    rw [Int.neg_tdiv] at each most all
    rw [Int.neg_mul] at most all
    rcases hn with rfl | rfl | rfl | rfl <;> omega

theorem mem_workings_of_share {d n : Int} {parts : Nat} (some : 0 < parts) (h : n ∈ shares d parts) :
    n ∈ workings d parts := by
  have count : ((parts - 1 : Nat) : Int) = (parts : Int) - 1 := by omega
  simp only [shares, List.mem_append, List.mem_replicate, List.mem_singleton] at h
  rw [count] at h
  rcases h with ⟨_, rfl⟩ | rfl <;> simp [workings]

/- Pauses between the parts are left out of a list of what is not a pause. -/
theorem filterMap_intersperse {α β : Type} {g : α → Option β} {sep : α} (h : g sep = none)
    (l : List α) : (l.intersperse sep).filterMap g = l.filterMap g := by
  induction l with
  | nil => rfl
  | cons x l ih =>
    cases l with
    | nil => rfl
    | cons y l =>
      have rest : ((x :: y :: l).intersperse sep).filterMap g =
          (x :: sep :: (y :: l).intersperse sep).filterMap g := rfl
      rw [rest, List.filterMap_cons, List.filterMap_cons_none h, ih]
      rfl

end LayerSeparation
