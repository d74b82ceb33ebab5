/-! # Ascending lists

Finite sets of numbers are kept as strictly ascending lists.  `insert` puts a
number into its place unless it is there already, and `ofList` collects the
members of any list, so that neither order nor repetition in it matters.
The other two functions search an initial segment of the natural numbers:
`below` lists, in ascending order, the numbers that pass a test, and
`greatest?` finds the last one in a range.
-/
namespace PadScout
namespace Ascending

section Sets
variable {α : Type} [LT α] [DecidableLT α]

/-- Puts a number into its place, unless it is there already. -/
def insert (a : α) : List α → List α
  | [] => [a]
  | b :: bs => if a < b then a :: b :: bs else if b < a then b :: insert a bs else b :: bs

/-- The members of a list, each once and in ascending order. -/
def ofList : List α → List α
  | [] => []
  | a :: as => insert a (ofList as)

end Sets

/-- Continues `below` downwards from `n`, in front of what was found above. -/
def belowOnto (test : Nat → Bool) : Nat → List Nat → List Nat
  | 0, found => found
  | n + 1, found => belowOnto test n (if test n then n :: found else found)

/-- The numbers less than `n` that pass a test, in ascending order. -/
def below (test : Nat → Bool) (n : Nat) : List Nat := belowOnto test n []

/-- The greatest number that passes a test, at least `low` and less than the
second argument. -/
def greatest? (test : Nat → Bool) (low : Nat) : Nat → Option Nat
  | 0 => none
  | n + 1 => if n < low then none else if test n then some n else greatest? test low n

/-! ## Members and order -/

section Sets
variable {α : Type} [LT α] [DecidableLT α]

theorem eq_or_mem_of_mem_insert {a x : α} {l : List α} (h : x ∈ insert a l) : x = a ∨ x ∈ l := by
  induction l with
  | nil => simpa [insert] using h
  | cons b bs ih =>
    rw [insert] at h
    split at h
    · exact List.mem_cons.1 h
    · split at h
      · rcases List.mem_cons.1 h with rfl | h
        · exact Or.inr List.mem_cons_self
        · exact (ih h).imp_right (List.mem_cons_of_mem b)
      · exact Or.inr h

theorem mem_insert (trichotomy : ∀ a b : α, ¬ a < b → ¬ b < a → a = b) {a x : α} {l : List α} :
    x ∈ insert a l ↔ x = a ∨ x ∈ l := by
  refine ⟨eq_or_mem_of_mem_insert, fun h => ?_⟩
  induction l with
  | nil => simpa [insert] using h
  | cons b bs ih =>
    rw [insert]
    split
    · exact List.mem_cons.2 h
    · split
      · rcases h with h | h
        · exact List.mem_cons_of_mem b (ih (Or.inl h))
        · rcases List.mem_cons.1 h with rfl | h
          · exact List.mem_cons_self
          · exact List.mem_cons_of_mem b (ih (Or.inr h))
      · rename_i h1 h2
        rcases h with rfl | h
        · exact trichotomy x b h1 h2 ▸ List.mem_cons_self
        · exact h

theorem pairwise_insert (trans : ∀ a b c : α, a < b → b < c → a < c) {a : α} {l : List α}
    (h : l.Pairwise (· < ·)) : (insert a l).Pairwise (· < ·) := by
  induction l with
  | nil => simp [insert]
  | cons b bs ih =>
    rw [insert]
    have hb := List.pairwise_cons.1 h
    split
    · rename_i hab
      refine List.pairwise_cons.2 ⟨fun x hx => ?_, h⟩
      rcases List.mem_cons.1 hx with rfl | hx
      · exact hab
      · exact trans _ _ _ hab (hb.1 x hx)
    · split
      · rename_i hba
        refine List.pairwise_cons.2 ⟨fun x hx => ?_, ih hb.2⟩
        rcases eq_or_mem_of_mem_insert hx with rfl | hx
        · exact hba
        · exact hb.1 x hx
      · exact h

theorem pairwise_ofList (trans : ∀ a b c : α, a < b → b < c → a < c) (l : List α) :
    (ofList l).Pairwise (· < ·) := by
  induction l with
  | nil => simp [ofList]
  | cons a as ih => exact pairwise_insert trans ih

theorem mem_ofList (trichotomy : ∀ a b : α, ¬ a < b → ¬ b < a → a = b) {x : α} {l : List α} :
    x ∈ ofList l ↔ x ∈ l := by
  induction l with
  | nil => simp [ofList]
  | cons a as ih => rw [ofList, mem_insert trichotomy, ih, List.mem_cons]

end Sets

/-! ## What the searches find -/

theorem belowOnto_eq (test : Nat → Bool) (n : Nat) (found : List Nat) :
    belowOnto test n found = (List.range n).filter test ++ found := by
  induction n generalizing found with
  | zero => simp [belowOnto]
  | succ n ih =>
    rw [belowOnto, ih, List.range_succ, List.filter_append]
    by_cases h : test n = true <;> simp [h]

theorem below_eq (test : Nat → Bool) (n : Nat) : below test n = (List.range n).filter test := by
  simp [below, belowOnto_eq]

theorem mem_below {test : Nat → Bool} {n i : Nat} : i ∈ below test n ↔ i < n ∧ test i = true := by
  simp [below_eq]

theorem pairwise_below (test : Nat → Bool) (n : Nat) : (below test n).Pairwise (· < ·) := by
  rw [below_eq]
  exact List.Pairwise.filter _ List.pairwise_lt_range

theorem greatest?_eq_some_iff {test : Nat → Bool} {low n i : Nat} :
    greatest? test low n = some i ↔
      low ≤ i ∧ i < n ∧ test i = true ∧ ∀ j, i < j → j < n → test j = false := by
  induction n with
  | zero => simp [greatest?]
  | succ n ih =>
    rw [greatest?]
    split
    · constructor
      · intro h; cases h
      · intro ⟨h1, h2, _⟩; omega
    · split
      · rename_i h
        constructor
        · intro e
          cases e
          exact ⟨by omega, by omega, h, fun j h1 h2 => by omega⟩
        · intro ⟨h1, h2, h3, h4⟩
          by_cases e : i = n
          · rw [e]
          · have := h4 n (by omega) (by omega)
            simp [h] at this
      · rename_i h
        rw [ih]
        constructor
        · intro ⟨h1, h2, h3, h4⟩
          refine ⟨h1, by omega, h3, fun j hj hn => ?_⟩
          by_cases e : j = n
          · rw [e]; simpa using h
          · exact h4 j hj (by omega)
        · intro ⟨h1, h2, h3, h4⟩
          refine ⟨h1, ?_, h3, fun j hj hn => h4 j hj (by omega)⟩
          by_cases e : i = n
          · rw [e] at h3; exact absurd h3 h
          · omega

end Ascending
end PadScout
