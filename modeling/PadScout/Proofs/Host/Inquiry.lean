import Mathlib.Algebra.Group.Nat.Defs
import PadScout.Host.Question
import PadScout.Proofs.Dialogue

/-! # Runs of inquiries

An inquiry about memory is one question (`runs_readWord`, `runs_readWords`,
`runs_capture`): whatever is answered becomes the result, with its bytes put together to
words.
-/
namespace PadScout

/-- **Each word takes four bytes**, as long as a machine can hold all of them. -/
theorem byteCount_eq {words : Nat} (h : 4 * words < 2 ^ 63) : byteCount words = 4 * words := by
  rw [byteCount, UInt64.toNat_mul, UInt64.toNat_ofNat']
  change words % 2 ^ 64 * 4 % 2 ^ 64 = 4 * words
  omega

/-- The word that four bytes hold, least significant byte first. -/
def Bytes.word (bytes : Bytes 4) : UInt32 :=
  wordOfBytes (bytes.val.get 0 (by have := bytes.property; omega))
    (bytes.val.get 1 (by have := bytes.property; omega))
    (bytes.val.get 2 (by have := bytes.property; omega))
    (bytes.val.get 3 (by have := bytes.property; omega))

/-- The words that bytes hold, in order. -/
def Bytes.words {n : Nat} (bytes : Bytes n) : Array UInt32 := wordsOfBytes bytes.val

theorem Bytes.size_words {count : Nat} (b : Bytes (4 * count)) : b.words.size = count := by
  rw [words, wordsOfBytes, Array.size_ofFn, b.property]
  omega

namespace Inquiry

open Dialogue (Exchange Runs)

variable {H α : Type} {es : List (Exchange (hostInterface H))}

/-- A question about processes and the answer to it. -/
def exchange (q : Question H) (x : q.Answer) : Exchange (hostInterface H) := ⟨q, x⟩

/-- An inquiry goes on with the answer, whatever it is. -/
theorem runs_ask_bind {q : Question H} {f : q.Answer → Inquiry H α} {a : α} :
    Runs (ask q >>= f) es a ↔ ∃ x rest, es = exchange q x :: rest ∧ Runs (f x) rest a := by
  change Runs (Dialogue.ask _ f) es a ↔ _
  exact Dialogue.runs_ask_iff

theorem asks_ask_bind {sort : (hostInterface H).Question → Prop} {q : Question H}
    {f : q.Answer → Inquiry H α} (hq : sort q) (h : ∀ x, Dialogue.Asks sort (f x)) :
    Dialogue.Asks sort (ask q >>= f) :=
  Dialogue.Asks.ask hq h

/-- An inquiry of a single question. -/
theorem runs_ask_of_silent {q : Question H} {f : q.Answer → Inquiry H α} {result : q.Answer → α}
    (hf : ∀ x, (f x).Silent (result x)) {a : α} :
    Runs (ask q >>= f) es a ↔ ∃ x, es = [exchange q x] ∧ a = result x := by
  rw [runs_ask_bind]
  constructor
  · rintro ⟨x, rest, rfl, h⟩
    obtain ⟨rfl, rfl⟩ := (hf x rest a).1 h
    exact ⟨x, rfl, rfl⟩
  · rintro ⟨x, rfl, rfl⟩
    exact ⟨x, [], rfl, (hf x [] _).2 ⟨rfl, rfl⟩⟩

/-- What asks no further question after an inquiry of a single question is such an inquiry. -/
theorem runs_bind_of_silent {β : Type} (q : Question H) {d : Inquiry H β} {read : q.Answer → β}
    (hd : ∀ es b, Runs d es b ↔ ∃ x, es = [exchange q x] ∧ b = read x) {f : β → Inquiry H α}
    {result : q.Answer → α} (hf : ∀ x, (f (read x)).Silent (result x)) {a : α} :
    Runs (d >>= f) es a ↔ ∃ x, es = [exchange q x] ∧ a = result x := by
  rw [Dialogue.runs_bind]
  constructor
  · rintro ⟨before, after, b, rfl, hbefore, hafter⟩
    obtain ⟨x, rfl, rfl⟩ := (hd before b).1 hbefore
    obtain ⟨rfl, rfl⟩ := (hf x after a).1 hafter
    exact ⟨x, rfl, rfl⟩
  · rintro ⟨x, rfl, rfl⟩
    exact ⟨[exchange q x], [], read x, rfl, (hd _ _).2 ⟨x, rfl, rfl⟩, (hf x [] _).2 ⟨rfl, rfl⟩⟩

/-- Given how questions are answered, an inquiry comes to what it comes to then. -/
theorem exists_runs_of_execute {answer : (q : Question H) → q.Answer} {d : Inquiry H α} {a : α}
    (h : (Dialogue.execute answer d).2 = a) : ∃ es, Runs d es a := by
  subst h
  exact ⟨_, Dialogue.runs_execute answer d⟩

section Memory
variable {process : H} {address : Address}

theorem runs_readWord {result : Except MemoryError UInt32} :
    Runs (readWord process address) es result ↔ ∃ x : Except MemoryError (Bytes 4),
      es = [exchange (.read process address 4) x] ∧ result = x.map Bytes.word := by
  refine runs_ask_of_silent fun x => ?_
  cases x <;> exact Dialogue.silent_done _

/-- Words are read by asking for their bytes, of which there are as many as are multiplied out. -/
theorem runs_readWords {count n : Nat} (hn : byteCount count = n)
    {result : Except MemoryError (Array UInt32)} :
    Runs (readWords process address count) es result ↔
      ∃ x : Except MemoryError (Bytes n),
        es = [exchange (.read process address n) x] ∧ result = x.map Bytes.words := by
  subst hn
  refine runs_ask_of_silent fun x => ?_
  cases x <;> exact Dialogue.silent_done _

/-- **Memory is captured by a single read.** -/
theorem runs_capture {words n : Nat} (hn : byteCount words = n)
    {result : Except MemoryError Image} :
    Runs (capture process address words) es result ↔
      ∃ x : Except MemoryError (Bytes n),
        es = [exchange (.read process address n) x] ∧
        result = x.map fun bytes => ⟨bytes.words⟩ := by
  unfold capture
  refine runs_bind_of_silent (.read process address n) (fun _ _ => runs_readWords hn) fun x => ?_
  cases x <;> exact Dialogue.silent_done _

end Memory

end Inquiry
end PadScout
