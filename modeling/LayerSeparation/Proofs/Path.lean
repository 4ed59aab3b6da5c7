import LayerSeparation.Separation.Script

/-! Paths through a script. A path lists the commands that were sent, each with its phase and the
answer it got. Scripts are put end to end by `andThen`, and a path through the whole is a path
through the first or a complete one followed by a path through the second. No driver and no plan
occurs here. -/
namespace LayerSeparation

structure Turn where
  phase : Phase
  command : Command
  answer : command.Answer

namespace Script

/-- The answers of the turns, taken one after another, lead from one script to another. -/
inductive Leads : Script → List Turn → Script → Prop where
  | refl (t : Script) : Leads t [] t
  | recovered {rest u : Script} {turns : List Turn} :
      Leads rest turns u → Leads (.recovered rest) turns u
  | ask {phase : Phase} {c : Command} {next : c.Answer → Script} {turns : List Turn} {u : Script}
      (a : c.Answer) : Leads (next a) turns u → Leads (.ask phase c next) (⟨phase, c, a⟩ :: turns) u

/- A path stops before a command or at the end of the script. -/
def Asks (t : Script) (turns : List Turn) (phase : Phase) (c : Command) : Prop :=
  ∃ next, Leads t turns (.ask phase c next)

def Ends (t : Script) (turns : List Turn) : Prop := Leads t turns .done

theorem leads_done_iff {turns : List Turn} {u : Script} :
    Leads .done turns u ↔ turns = [] ∧ u = .done := by
  constructor
  · intro h
    cases h
    exact ⟨rfl, rfl⟩
  · rintro ⟨rfl, rfl⟩
    exact .refl _

theorem leads_fail_iff {e : SeparationError} {turns : List Turn} {u : Script} :
    Leads (.fail e) turns u ↔ turns = [] ∧ u = .fail e := by
  constructor
  · intro h
    cases h
    exact ⟨rfl, rfl⟩
  · rintro ⟨rfl, rfl⟩
    exact .refl _

theorem leads_ask_iff {phase : Phase} {c : Command} {next : c.Answer → Script} {turns : List Turn}
    {u : Script} : Leads (.ask phase c next) turns u ↔
      (turns = [] ∧ u = .ask phase c next) ∨
        ∃ a rest, turns = ⟨phase, c, a⟩ :: rest ∧ Leads (next a) rest u := by
  constructor
  · intro h
    cases h with
    | refl => exact .inl ⟨rfl, rfl⟩
    | ask a h => exact .inr ⟨a, _, rfl, h⟩
  · rintro (⟨rfl, rfl⟩ | ⟨a, rest, rfl, h⟩)
    · exact .refl _
    · exact .ask a h

theorem ends_done_iff {turns : List Turn} : Ends .done turns ↔ turns = [] := by
  simp [Ends, leads_done_iff]

theorem not_ends_fail {e : SeparationError} {turns : List Turn} : ¬ Ends (.fail e) turns := by
  intro h
  cases h

theorem ends_recovered_iff {rest : Script} {turns : List Turn} :
    Ends (.recovered rest) turns ↔ Ends rest turns := by
  constructor
  · intro h
    cases h with
    | recovered h => exact h
  · exact .recovered

theorem ends_ask_iff {phase : Phase} {c : Command} {next : c.Answer → Script} {turns : List Turn} :
    Ends (.ask phase c next) turns ↔
      ∃ a rest, turns = ⟨phase, c, a⟩ :: rest ∧ Ends (next a) rest := by
  simp [Ends, leads_ask_iff]

/-- The second script in place of every successful end of the first. -/
def andThen : Script → Script → Script
  | .done, rest => rest
  | .fail e, _ => .fail e
  | .recovered t, rest => .recovered (t.andThen rest)
  | .ask phase c next, rest => .ask phase c fun a => (next a).andThen rest

theorem andThen_assoc (t u v : Script) : (t.andThen u).andThen v = t.andThen (u.andThen v) := by
  induction t with
  | done => rfl
  | fail e => rfl
  | recovered t ih => rw [andThen, andThen, andThen, ih]
  | ask phase c next ih =>
    rw [andThen, andThen, andThen]
    exact congrArg _ (funext ih)

theorem Leads.andThen {t u rest : Script} {turns : List Turn} (h : Leads t turns u) :
    Leads (t.andThen rest) turns (u.andThen rest) := by
  induction h with
  | refl => exact .refl _
  | recovered _ ih => exact .recovered ih
  | ask a _ ih => exact .ask a ih

theorem Leads.trans {t u v : Script} {first second : List Turn} (h : Leads t first u)
    (h' : Leads u second v) : Leads t (first ++ second) v := by
  induction h with
  | refl => exact h'
  | recovered _ ih => exact .recovered (ih h')
  | ask a _ ih => exact .ask a (ih h')

theorem Leads.of_andThen {t rest u : Script} {turns : List Turn} (h : Leads (t.andThen rest) turns u) :
    (∃ v, v ≠ .done ∧ Leads t turns v ∧ u = v.andThen rest) ∨
      ∃ first second, turns = first ++ second ∧ Ends t first ∧ Leads rest second u := by
  induction t generalizing turns with
  | done => exact .inr ⟨[], turns, rfl, .refl _, h⟩
  | fail e =>
    obtain ⟨rfl, rfl⟩ := leads_fail_iff.mp h
    exact .inl ⟨.fail e, nofun, .refl _, rfl⟩
  | recovered t ih =>
    cases h with
    | refl => exact .inl ⟨.recovered t, nofun, .refl _, rfl⟩
    | recovered h =>
      rcases ih h with ⟨v, hv, hl, hu⟩ | ⟨first, second, hs, he, hl⟩
      · exact .inl ⟨v, hv, .recovered hl, hu⟩
      · exact .inr ⟨first, second, hs, .recovered he, hl⟩
  | ask phase c next ih =>
    cases h with
    | refl => exact .inl ⟨.ask phase c next, nofun, .refl _, rfl⟩
    | ask a h =>
      rcases ih a h with ⟨v, hv, hl, hu⟩ | ⟨first, second, rfl, he, hl⟩
      · exact .inl ⟨v, hv, .ask a hl, hu⟩
      · exact .inr ⟨⟨phase, c, a⟩ :: first, second, rfl, .ask a he, hl⟩

theorem ends_andThen_iff {t rest : Script} {turns : List Turn} :
    Ends (t.andThen rest) turns ↔
      ∃ first second, turns = first ++ second ∧ Ends t first ∧ Ends rest second := by
  constructor
  · intro h
    rcases Leads.of_andThen h with ⟨v, hv, _, hu⟩ | h
    · cases v with
      | done => exact absurd rfl hv
      | fail e => cases hu
      | recovered t => cases hu
      | ask phase c next => cases hu
    · exact h
  · rintro ⟨first, second, rfl, h, h'⟩
    exact (Leads.andThen h).trans h'

theorem asks_andThen_iff {t rest : Script} {turns : List Turn} {phase : Phase} {c : Command} :
    Asks (t.andThen rest) turns phase c ↔ Asks t turns phase c ∨
      ∃ first second, turns = first ++ second ∧ Ends t first ∧ Asks rest second phase c := by
  constructor
  · rintro ⟨next, h⟩
    rcases Leads.of_andThen h with ⟨v, hv, hl, hu⟩ | ⟨first, second, hs, he, hl⟩
    · cases v with
      | done => exact absurd rfl hv
      | fail e => cases hu
      | recovered t => cases hu
      | ask phase c next =>
        cases hu
        exact .inl ⟨next, hl⟩
    · exact .inr ⟨first, second, hs, he, next, hl⟩
  · rintro (⟨next, h⟩ | ⟨first, second, rfl, he, next, hl⟩)
    · exact ⟨_, h.andThen⟩
    · exact ⟨next, (Leads.andThen he).trans hl⟩

/-- Every command that the script may send satisfies `R`, whatever is answered. -/
def Within (R : Phase → Command → Prop) : Script → Prop
  | .done | .fail _ => True
  | .recovered rest => rest.Within R
  | .ask phase c next => R phase c ∧ ∀ a, (next a).Within R

theorem Within.mono {R S : Phase → Command → Prop} (h : ∀ phase c, R phase c → S phase c)
    {t : Script} (ht : t.Within R) : t.Within S := by
  induction t with
  | done => trivial
  | fail e => trivial
  | recovered rest ih => exact ih ht
  | ask phase c next ih => exact ⟨h phase c ht.1, fun a => ih a (ht.2 a)⟩

theorem within_andThen {R : Phase → Command → Prop} {t rest : Script} (ht : t.Within R)
    (hr : rest.Within R) : (t.andThen rest).Within R := by
  induction t with
  | done => exact hr
  | fail e => trivial
  | recovered t ih => exact ih ht
  | ask phase c next ih => exact ⟨ht.1, fun a => ih a (ht.2 a)⟩

theorem Leads.within {R : Phase → Command → Prop} {t u : Script} {turns : List Turn}
    (h : Leads t turns u) (ht : t.Within R) :
    (∀ x ∈ turns, R x.phase x.command) ∧ u.Within R := by
  induction h with
  | refl => exact ⟨by simp, ht⟩
  | recovered _ ih => exact ih ht
  | ask a _ ih =>
    obtain ⟨hx, hu⟩ := ih (ht.2 a)
    exact ⟨List.forall_mem_cons.mpr ⟨ht.1, hx⟩, hu⟩

theorem Asks.within {R : Phase → Command → Prop} {t : Script} {turns : List Turn} {phase : Phase}
    {c : Command} (h : Asks t turns phase c) (ht : t.Within R) :
    (∀ x ∈ turns, R x.phase x.command) ∧ R phase c := by
  obtain ⟨next, hl⟩ := h
  exact ⟨(hl.within ht).1, (hl.within ht).2.1⟩

theorem Ends.within {R : Phase → Command → Prop} {t : Script} {turns : List Turn}
    (h : Ends t turns) (ht : t.Within R) : ∀ x ∈ turns, R x.phase x.command :=
  (Leads.within h ht).1

end Script
end LayerSeparation
