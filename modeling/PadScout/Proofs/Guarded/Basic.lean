import Mathlib.Algebra.Group.Int.Defs
import Mathlib.Algebra.Group.Nat.Defs
import PadScout.Discovery.Report

/-! # Guarded computations

Some operations have no result for some operands: there is no element behind the end of an
array, no quotient by zero, no sum beyond the greatest number.  Elsewhere in the library
each of them has one all the same, as is usual in mathematics.  A `Guarded` computation says
so instead: it breaks off with the first such operation, and the `Panic` tells which it was.

The operations below are those that may break off, each with the condition under which it
does not, and the loops that are made of them.  An `Attempt` is a guarded computation that
may also fail in the ordinary way, as the stages of discovery do; `Attempt.Agrees` compares
it with a report.
-/
namespace PadScout

/-- Why a computation breaks off. -/
inductive Panic where
  /-- There is no element at the index. -/
  | index (i size : Nat)
  /-- The range ends before it starts. -/
  | range (low high : Nat)
  /-- The shift is by as many bits as a word has, or more. -/
  | shift (amount : Nat)
  /-- The number does not fit. -/
  | overflow (value : Int)
  /-- The divisor is zero. -/
  | division
deriving DecidableEq

/-- A computation that may break off. -/
abbrev Guarded (α : Type) : Type := Except Panic α

namespace Guarded

variable {α β : Type}

@[simp] theorem ok_bind (a : α) (f : α → Guarded β) : ((.ok a : Guarded α) >>= f) = f a := rfl

@[simp] theorem pure_eq (a : α) : (pure a : Guarded α) = .ok a := rfl

/-! ## Elements -/

/-- The element at an index. -/
def index (a : Array α) (i : Nat) : Guarded α :=
  match a[i]? with
  | some x => .ok x
  | none => .error (.index i a.size)

theorem index_eq {a : Array α} {i : Nat} {x : α} (h : a[i]? = some x) : index a i = .ok x := by
  rw [index, h]

/-- Puts an element in place of the one at an index. -/
def replace {n : Nat} (v : Vector α n) (i : Nat) (x : α) : Guarded (Vector α n) :=
  if h : i < n then .ok (v.set i x h) else .error (.index i n)

theorem replace_eq {n : Nat} (v : Vector α n) {i : Nat} (x : α) (h : i < n) :
    replace v i x = .ok (v.set i x h) := dif_pos h

theorem index_vector {n : Nat} (v : Vector α n) {i : Nat} (h : i < n) :
    index v.toArray i = .ok v[i] :=
  index_eq (Array.getElem?_eq_getElem (v.size_toArray.symm ▸ h))

/-- The elements from one index to another, both included. -/
def slice (a : Array α) (first last : Nat) : Guarded (List α) :=
  if a.size ≤ last then .error (.index last a.size)
  else if last < first then .error (.range first last)
  else .ok (a.extract first (last + 1)).toList

theorem slice_eq {a : Array α} {first last : Nat} (hle : first ≤ last) (hlt : last < a.size) :
    slice a first last = .ok (a.extract first (last + 1)).toList := by
  rw [slice, if_neg (Nat.not_le.2 hlt), if_neg (Nat.not_lt.2 hle)]

/-- The members from one number to another, both included, of an ascending list. -/
def between (l : List Nat) (low high : Nat) : Guarded (List Nat) :=
  if low ≤ high then .ok (l.filter fun a => low ≤ a ∧ a ≤ high) else .error (.range low high)

theorem between_eq (l : List Nat) {low high : Nat} (h : low ≤ high) :
    between l low high = .ok (l.filter fun a => low ≤ a ∧ a ≤ high) := if_pos h

/-! ## Numbers -/

/-- A result that stands for a number with limits. -/
def fitting (low high value : Int) (result : α) : Guarded α :=
  if low ≤ value ∧ value < high then .ok result else .error (.overflow value)

theorem fitting_eq {low high value : Int} (result : α) (hlow : low ≤ value) (hhigh : value < high) :
    fitting low high value result = .ok result := if_pos ⟨hlow, hhigh⟩

/-- The sum of two indices. -/
def plus (a b : Nat) : Guarded Nat := fitting 0 (2 ^ 64) (a + b) (a + b)

theorem plus_eq {a b : Nat} (h : a + b < 2 ^ 64) : plus a b = .ok (a + b) :=
  fitting_eq _ (by omega) (by omega)

/-- The difference of two indices. -/
def minus (a b : Nat) : Guarded Nat := fitting 0 (2 ^ 64) (a - b) (a - b)

theorem minus_eq {a b : Nat} (hle : b ≤ a) (h : a < 2 ^ 64) : minus a b = .ok (a - b) :=
  fitting_eq _ (by omega) (by omega)

/-- A number of 64 bits with a sign. -/
def signed (value : Int) : Guarded Int := fitting (-2 ^ 63) (2 ^ 63) value value

theorem signed_eq {value : Int} (hlow : -2 ^ 63 ≤ value) (hhigh : value < 2 ^ 63) :
    signed value = .ok value := fitting_eq _ hlow hhigh

/-- A shift of a word. -/
def shifting (shift : UInt32 → UInt32 → UInt32) (w amount : UInt32) : Guarded UInt32 :=
  if amount < 32 then .ok (shift w amount) else .error (.shift amount.toNat)

theorem shifting_eq (shift : UInt32 → UInt32 → UInt32) (w : UInt32) {amount : UInt32}
    (h : amount < 32) : shifting shift w amount = .ok (shift w amount) := if_pos h

/-- A result of a division.  The quotient of the least number and minus one is no reason to
break off: it wraps around. -/
def dividing (divisor : UInt32) (result : α) : Guarded α :=
  if divisor = 0 then .error .division else .ok result

theorem dividing_eq {divisor : UInt32} (result : α) (h : divisor ≠ 0) :
    dividing divisor result = .ok result := if_neg h

/-! ## Loops -/

theorem mapM_eq {f : α → Guarded β} {g : α → β} {l : List α} (h : ∀ a ∈ l, f a = .ok (g a)) :
    l.mapM f = .ok (l.map g) := by
  induction l with
  | nil => rfl
  | cons a l ih =>
    rw [List.mapM_cons, h a List.mem_cons_self, ok_bind,
      ih fun b hb => h b (List.mem_cons_of_mem a hb)]
    rfl

theorem foldlM_eq {f : β → α → Guarded β} {g : β → α → β} {l : List α} {b : β}
    (h : ∀ b, ∀ a ∈ l, f b a = .ok (g b a)) : l.foldlM f b = .ok (l.foldl g b) := by
  induction l generalizing b with
  | nil => rfl
  | cons a l ih =>
    rw [List.foldlM_cons, h b a List.mem_cons_self, ok_bind]
    exact ih fun b c hc => h b c (List.mem_cons_of_mem a hc)

/-- Looks for the greatest number that passes a test, as `Ascending.greatest?` does. -/
def greatest? (test : Nat → Guarded Bool) (low : Nat) : Nat → Guarded (Option Nat)
  | 0 => .ok none
  | n + 1 =>
    if n < low then .ok none
    else do if ← test n then return some n else greatest? test low n

theorem greatest?_eq {f : Nat → Guarded Bool} {test : Nat → Bool} {low n : Nat}
    (h : ∀ i < n, f i = .ok (test i)) :
    greatest? f low n = .ok (Ascending.greatest? test low n) := by
  induction n with
  | zero => rfl
  | succ n ih =>
    rw [greatest?, Ascending.greatest?]
    split
    · rfl
    · rw [h n n.lt_succ_self, ok_bind, ih fun i hi => h i (Nat.lt_succ_of_lt hi)]
      cases test n <;> rfl

end Guarded

/-! ## Attempts -/

/-- A guarded computation that may fail as discovery does. -/
abbrev Attempt (α : Type) : Type := ExceptT DiscoveryError (Except Panic) α

namespace Attempt

variable {α β : Type}

/-- **Nothing breaks off, and the outcome is that of a report.** -/
def Agrees (a : Attempt α) (r : Report α) : Prop := a.run = .ok r.outcome

/-- An attempt that fails. -/
def fail (e : DiscoveryError) : Attempt α := ExceptT.mk (.ok (.error e))

/-- An attempt with a given outcome. -/
def ofOutcome (outcome : Except DiscoveryError α) : Attempt α := ExceptT.mk (.ok outcome)

/-- **Chains agree if their links do.** -/
theorem Agrees.bind {a : Attempt α} {r : Report α} {f : α → Attempt β} {next : α → Report β}
    (h : a.Agrees r) (hf : ∀ x, r.outcome = .ok x → (f x).Agrees (next x)) :
    (a >>= f).Agrees (r >>= next) := by
  unfold Agrees at *
  rw [ExceptT.run_bind, h, Report.outcome_bind]
  cases hr : r.outcome with
  | ok x => exact hf x hr
  | error e => rfl

/-- A guarded operation has the result of a report. -/
theorem agrees_lift {a : Guarded α} {b : α} {r : Report α} (h : a = .ok b)
    (hr : r.outcome = .ok b) : Agrees (liftM a) r := by
  unfold Agrees
  rw [h, hr]
  rfl

/-- A guarded operation has its result, and the report goes on without it. -/
theorem agrees_lift_bind {a : Guarded β} {b : β} {f : β → Attempt α} {r : Report α}
    (h : a = .ok b) (hf : (f b).Agrees r) : Agrees ((liftM a : Attempt β) >>= f) r := by
  subst h
  exact hf

/-- A remark has no part in the outcome. -/
theorem Agrees.debug_bind {a : Attempt α} {r : Unit → Report α} (message : Unit → String)
    (h : a.Agrees (r ())) : a.Agrees (Report.debug message >>= r) := by
  unfold Agrees at *
  rw [h, Report.outcome_bind, Report.outcome_debug]

/-- So has a remark on the result. -/
theorem Agrees.bind_debug {a : Attempt α} {r : Report α} (message : α → Unit → String)
    (h : a.Agrees r) : a.Agrees (r >>= fun x => Report.debug (message x) >>= fun _ => pure x) := by
  unfold Agrees at *
  rw [h, Report.outcome_bind]
  cases r.outcome <;> rfl

end Attempt
end PadScout
