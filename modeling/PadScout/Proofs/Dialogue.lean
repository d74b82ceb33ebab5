import PadScout.Dialogue

/-! # Runs of dialogues

What a dialogue can come to, step by step: a question may be answered in any way, and
remarks leave no trace in the exchanges.  The answers decide the result (`runs_unique`).
Given how every question is answered, `execute` finds one of the runs (`runs_execute`), so
each dialogue can be carried out.
-/
namespace PadScout
namespace Dialogue

variable {I : Interface} {α β : Type} {es : List (Exchange I)}

@[simp] theorem runs_done_iff {a b : α} :
    Runs (done a : Dialogue I α) es b ↔ es = [] ∧ b = a := by
  constructor
  · intro h
    cases h
    exact ⟨rfl, rfl⟩
  · rintro ⟨rfl, rfl⟩
    exact .done b

@[simp] theorem runs_ask_iff {q : I.Question} {next : I.Answer q → Dialogue I α} {a : α} :
    Runs (ask q next) es a ↔ ∃ x rest, es = ⟨q, x⟩ :: rest ∧ Runs (next x) rest a := by
  constructor
  · intro h
    cases h with
    | ask _ _ x rest _ h => exact ⟨x, rest, rfl, h⟩
  · rintro ⟨x, rest, rfl, h⟩
    exact .ask q next x rest a h

@[simp] theorem runs_remark_iff {j : Journal} {d : Dialogue I α} {a : α} :
    Runs (remark j d) es a ↔ Runs d es a := by
  constructor
  · intro h
    cases h with
    | remark _ _ _ _ h => exact h
  · exact .remark j d es a

/-! ## Asking nothing -/

/-- **A dialogue that asks nothing** can only come to one result. -/
def Silent (d : Dialogue I α) (a : α) : Prop := ∀ es b, Runs d es b ↔ es = [] ∧ b = a

theorem silent_done (a : α) : (done a : Dialogue I α).Silent a := fun _ _ => runs_done_iff

theorem Silent.remark {d : Dialogue I α} {a : α} (h : d.Silent a) (j : Journal) :
    (Dialogue.remark j d).Silent a := fun es b => runs_remark_iff.trans (h es b)

theorem Silent.bind {d : Dialogue I α} {a : α} {f : α → Dialogue I β} (h : d.Silent a) (b : β) :
    Runs (d >>= f) es b ↔ Runs (f a) es b := by
  rw [runs_bind]
  constructor
  · rintro ⟨before, after, c, rfl, hd, hf⟩
    obtain ⟨rfl, rfl⟩ := (h before c).1 hd
    exact hf
  · intro hf
    exact ⟨[], es, a, rfl, (h [] a).2 ⟨rfl, rfl⟩, hf⟩

theorem silent_say (j : Journal) : (say j : Dialogue I Unit).Silent () := (silent_done ()).remark j

/-! ## Exchanges -/

/-- **Answers decide the result.** -/
theorem runs_unique {d : Dialogue I α} {a b : α} (h : Runs d es a) (h' : Runs d es b) : a = b := by
  induction h with
  | done a => exact (runs_done_iff.1 h').2.symm
  | ask q next x rest a _ ih =>
    obtain ⟨y, others, heq, h'⟩ := runs_ask_iff.1 h'
    cases heq
    exact ih h'
  | remark j d rest a _ ih => exact ih (runs_remark_iff.1 h')

/-- Every question that a dialogue may ask is of some sort. -/
def Asks (sort : I.Question → Prop) (d : Dialogue I α) : Prop :=
  ∀ es a, Runs d es a → ∀ e ∈ es, sort e.question

section Asks
variable {sort : I.Question → Prop}

theorem asks_done (a : α) : Asks sort (done a : Dialogue I α) := by
  intro es b h e he
  rw [(runs_done_iff.1 h).1] at he
  cases he

theorem Asks.ask {q : I.Question} {next : I.Answer q → Dialogue I α} (hq : sort q)
    (h : ∀ x, Asks sort (next x)) : Asks sort (.ask q next) := by
  intro es b hruns e he
  obtain ⟨x, rest, rfl, hrest⟩ := runs_ask_iff.1 hruns
  rcases List.mem_cons.1 he with rfl | he
  · exact hq
  · exact h x rest b hrest e he

theorem Asks.remark {d : Dialogue I α} (h : Asks sort d) (j : Journal) :
    Asks sort (.remark j d) := fun es b hruns => h es b (runs_remark_iff.1 hruns)

theorem Asks.bind {d : Dialogue I α} {f : α → Dialogue I β} (h : Asks sort d)
    (hf : ∀ a, Asks sort (f a)) : Asks sort (d >>= f) := by
  intro es b hruns e he
  obtain ⟨before, after, a, rfl, hd, hafter⟩ := runs_bind.1 hruns
  rcases List.mem_append.1 he with he | he
  · exact h before a hd e he
  · exact hf a after b hafter e he

end Asks

/-! ## Given answers -/

/-- The exchanges and the result of a dialogue whose questions are answered in a given
way. -/
def execute (answer : (q : I.Question) → I.Answer q) : Dialogue I α → List (Exchange I) × α
  | done a => ([], a)
  | ask q next =>
    let rest := execute answer (next (answer q))
    (⟨q, answer q⟩ :: rest.1, rest.2)
  | remark _ d => execute answer d

/-- **Every way to answer gives a run.** -/
theorem runs_execute (answer : (q : I.Question) → I.Answer q) (d : Dialogue I α) :
    Runs d (execute answer d).1 (execute answer d).2 := by
  induction d with
  | done a => exact .done a
  | ask q next ih => exact .ask q next (answer q) _ _ (ih (answer q))
  | remark j d ih => exact .remark j d _ _ ih

/-- The exchanges of such a run have the answers that were given. -/
theorem answer_of_mem_execute {answer : (q : I.Question) → I.Answer q} {d : Dialogue I α}
    {e : Exchange I} (h : e ∈ (execute answer d).1) : e.answer = answer e.question := by
  induction d with
  | done a => cases h
  | ask q next ih =>
    rcases List.mem_cons.1 h with rfl | h
    · rfl
    · exact ih (answer q) h
  | remark j d ih => exact ih h

end Dialogue
end PadScout
