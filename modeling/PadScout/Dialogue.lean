import PadScout.Journal

/-! # Dialogues

Parts of the library that depend on the world around them do not act on it.  They
are *dialogues*: they ask a question, go on according to the answer, make remarks
on the way, and end with a result.  What can be asked, and what counts as an
answer, is an `Interface`; a dialogue itself is finite whatever it is told.

Who answers is left open.  `Dialogue.interpret` carries a dialogue out in any
monad that can answer its questions: the operating system, a table in memory,
another dialogue.  `Dialogue.Runs` says what can happen if nothing is known about
the answers: it relates a dialogue to the exchanges it may have and the results
that they lead to.
-/
namespace PadScout

/-- What can be asked, and what is answered to it. -/
structure Interface where
  Question : Type
  Answer : Question → Type

/-- A computation that asks questions. -/
inductive Dialogue (I : Interface) (α : Type) where
  | done (result : α)
  | ask (question : I.Question) (next : I.Answer question → Dialogue I α)
  | remark (journal : Journal) (next : Dialogue I α)

namespace Dialogue

variable {I : Interface} {α β γ : Type}

/-- Goes on with the result of a dialogue. -/
def bind : Dialogue I α → (α → Dialogue I β) → Dialogue I β
  | done a, f => f a
  | ask q next, f => ask q fun x => (next x).bind f
  | remark j next, f => remark j (next.bind f)

instance : Monad (Dialogue I) where
  pure := done
  bind := bind

/-- The dialogue of one question. -/
def question (q : I.Question) : Dialogue I (I.Answer q) := ask q done

/-- The dialogue of a journal. -/
def say (j : Journal) : Dialogue I Unit := remark j (done ())

/-- The dialogue of one remark. -/
def note (level : Level) (origin : Origin) (message : Unit → String) : Dialogue I Unit :=
  say (.single level origin message)

@[simp] theorem pure_eq (a : α) : (pure a : Dialogue I α) = done a := rfl

@[simp] theorem done_bind (a : α) (f : α → Dialogue I β) : (done a >>= f) = f a := rfl

@[simp] theorem ask_bind (q : I.Question) (next : I.Answer q → Dialogue I α)
    (f : α → Dialogue I β) : (ask q next >>= f) = ask q fun x => next x >>= f := rfl

@[simp] theorem remark_bind (j : Journal) (d : Dialogue I α) (f : α → Dialogue I β) :
    (remark j d >>= f) = remark j (d >>= f) := rfl

theorem bind_done (d : Dialogue I α) : d >>= done = d := by
  induction d with
  | done => rfl
  | ask q next ih => simp only [ask_bind, ih]
  | remark j d ih => simp only [remark_bind, ih]

theorem bind_bind (d : Dialogue I α) (f : α → Dialogue I β) (g : β → Dialogue I γ) :
    d >>= f >>= g = d >>= fun a => f a >>= g := by
  induction d with
  | done => rfl
  | ask q next ih => simp only [ask_bind, ih]
  | remark j d ih => simp only [remark_bind, ih]

instance : LawfulMonad (Dialogue I) :=
  LawfulMonad.mk' (Dialogue I) (fun d => bind_done d) (fun a f => done_bind a f)
    (fun d f g => bind_bind d f g)

/-! ## Carrying out -/

/-- **Carries a dialogue out**, given how questions are answered and what becomes
of remarks. -/
@[specialize] def interpret {m : Type → Type} [Monad m] (answer : (q : I.Question) → m (I.Answer q))
    (hear : Journal → m Unit) : Dialogue I α → m α
  | done a => pure a
  | ask q next => answer q >>= fun x => interpret answer hear (next x)
  | remark j next => hear j >>= fun _ => interpret answer hear next

/-! ## All that can happen -/

/-- A question and the answer to it. -/
structure Exchange (I : Interface) where
  question : I.Question
  answer : I.Answer question

/-- **What a dialogue can come to**: the exchanges that it may have, in order, and
the result. -/
inductive Runs : Dialogue I α → List (Exchange I) → α → Prop where
  | done (a : α) : Runs (done a) [] a
  | ask (q : I.Question) (next : I.Answer q → Dialogue I α) (x : I.Answer q)
      (exchanges : List (Exchange I)) (a : α) :
      Runs (next x) exchanges a → Runs (ask q next) (⟨q, x⟩ :: exchanges) a
  | remark (j : Journal) (d : Dialogue I α) (exchanges : List (Exchange I)) (a : α) :
      Runs d exchanges a → Runs (remark j d) exchanges a

theorem runs_bind {d : Dialogue I α} {f : α → Dialogue I β} {es : List (Exchange I)} {b : β} :
    Runs (d >>= f) es b ↔ ∃ before after a, es = before ++ after ∧ Runs d before a ∧
      Runs (f a) after b := by
  induction d generalizing es with
  | done a =>
    rw [done_bind]
    constructor
    · exact fun h => ⟨[], es, a, rfl, .done a, h⟩
    · rintro ⟨before, after, a, rfl, h, k⟩
      cases h
      exact k
  | ask q next ih =>
    rw [ask_bind]
    constructor
    · rintro (_ | ⟨_, _, x, rest, _, h⟩)
      obtain ⟨before, after, a, rfl, h, k⟩ := (ih x).1 h
      exact ⟨⟨q, x⟩ :: before, after, a, rfl, .ask q next x before a h, k⟩
    · rintro ⟨before, after, a, rfl, h, k⟩
      cases h with
      | ask _ _ x rest _ h => exact .ask q _ x _ b ((ih x).2 ⟨rest, after, a, rfl, h, k⟩)
  | remark j d ih =>
    rw [remark_bind]
    constructor
    · rintro (_ | _ | ⟨_, _, _, _, h⟩)
      obtain ⟨before, after, a, rfl, h, k⟩ := ih.1 h
      exact ⟨before, after, a, rfl, .remark j d before a h, k⟩
    · rintro ⟨before, after, a, rfl, h, k⟩
      cases h with
      | remark _ _ _ _ h => exact .remark j _ _ b (ih.2 ⟨before, after, a, rfl, h, k⟩)

end Dialogue

end PadScout
