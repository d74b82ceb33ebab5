import PadScout.Proofs.Text.Hex

/-! # Words of a text

Blanks, commas and brackets divide a text into words (`Words.split`).  A numeral is a word, and
numerals that are the same word show the same number, in decimal and in hexadecimal digits, with a
mark, padding or a sign.
-/
namespace PadScout
namespace Words

/-- What may stand between words. -/
def isPunctuation (c : Char) : Bool := c == ' ' || c == ',' || c == '(' || c == ')'

/-- **The words of a text.** -/
def split (cs : List Char) : List (List Char) :=
  (cs.splitOnP isPunctuation).filter fun w => !w.isEmpty

/-- A text that is one word. -/
def IsWord (cs : List Char) : Prop := cs ≠ [] ∧ ∀ c ∈ cs, isPunctuation c = false

instance (cs : List Char) : Decidable (IsWord cs) :=
  decidable_of_iff (cs.isEmpty = false ∧ (cs.all fun c => !isPunctuation c) = true) (by
    simp [IsWord])

@[simp] theorem split_nil : split [] = [] := rfl

theorem split_of_isWord {w : List Char} (hw : IsWord w) : split w = [w] := by
  rw [split, List.splitOnP_eq_singleton hw.2]
  simp [hw.1]

theorem split_append_cons (cs rest : List Char) {c : Char} (hc : isPunctuation c = true) :
    split (cs ++ c :: rest) = split cs ++ split rest := by
  rw [split, List.splitOnP_append_cons _ _ hc, List.filter_append]
  rfl

/-- Punctuation at the start is no word. -/
theorem split_cons {c : Char} (hc : isPunctuation c = true) (rest : List Char) :
    split (c :: rest) = split rest :=
  split_append_cons [] rest hc

/-- **A word ends where punctuation follows.** -/
theorem split_word_cons {w : List Char} (hw : IsWord w) {c : Char} (hc : isPunctuation c = true)
    (rest : List Char) : split (w ++ c :: rest) = w :: split rest := by
  rw [split_append_cons w rest hc, split_of_isWord hw]
  rfl

theorem isWord_cons {c : Char} {cs : List Char} (hc : isPunctuation c = false)
    (h : ∀ d ∈ cs, isPunctuation d = false) : IsWord (c :: cs) :=
  ⟨List.cons_ne_nil c cs, List.forall_mem_cons.2 ⟨hc, h⟩⟩

end Words

open Words

/-! ## Decimal numerals -/

namespace Decimal

theorem toList_text (n : Nat) : (text n).toList = digits n := String.toList_ofList

theorem isWord_text (n : Nat) : IsWord (text n).toList := by
  rw [toList_text]
  refine ⟨by simp [digits], fun c hc => ?_⟩
  have hdigit : c.isDigit = true := Nat.isDigit_of_mem_toDigits (by decide) (by decide) hc
  rw [← Bool.not_eq_true]
  intro hpunctuation
  simp only [isPunctuation, Bool.or_eq_true, beq_iff_eq] at hpunctuation
  rcases hpunctuation with ((rfl | rfl) | rfl) | rfl <;> exact absurd hdigit (by decide)

/-- **A decimal numeral tells its number.** -/
theorem text_inj {m n : Nat} : text m = text n ↔ m = n := by
  refine ⟨fun h => ?_, congrArg text⟩
  have hdigits : digits m = digits n := by rw [← toList_text, h, toList_text]
  have hvalue := congrArg (Nat.ofDigitChars 10 · 0) hdigits
  simpa only [digits, Nat.ofDigitChars_toDigits (show 1 < 10 by decide) (Nat.le_refl 10)] using hvalue

end Decimal

/-! ## Hexadecimal numerals -/

namespace Hex

theorem isPunctuation_of_mem_padded {width n : Nat} {c : Char} (hc : c ∈ padded width n) :
    isPunctuation c = false := by
  have hdigit := isSome_digit?_of_mem_padded hc
  rw [← Bool.not_eq_true]
  intro hpunctuation
  simp only [isPunctuation, Bool.or_eq_true, beq_iff_eq] at hpunctuation
  rcases hpunctuation with ((rfl | rfl) | rfl) | rfl <;> exact absurd hdigit (by decide)

theorem toList_markedWide (width n : Nat) :
    (markedWide width n).toList = '0' :: 'x' :: padded width n := String.toList_ofList

/-- Without a width there is no padding. -/
theorem marked_eq_markedWide (n : Nat) : marked n = markedWide 0 n := by
  rw [marked, markedWide, padded, Nat.zero_sub]
  rfl

theorem isWord_markedWide (width n : Nat) : IsWord (markedWide width n).toList := by
  rw [toList_markedWide]
  refine isWord_cons (by decide) (List.forall_mem_cons.2 ⟨by decide, fun c hc => ?_⟩)
  exact isPunctuation_of_mem_padded hc

/-- **A hexadecimal numeral tells its number.** -/
theorem markedWide_inj {width m n : Nat} : markedWide width m = markedWide width n ↔ m = n := by
  refine ⟨fun h => ?_, congrArg (markedWide width)⟩
  have hdigits := congrArg String.toList h
  rw [toList_markedWide, toList_markedWide, List.cons_inj_right, List.cons_inj_right] at hdigits
  have hvalue := congrArg (ofDigitsFrom? 0) hdigits
  rwa [ofDigitsFrom?_padded, ofDigitsFrom?_padded, Option.some_inj] at hvalue

theorem toList_signed (n : Int) :
    (signed n).toList = (if n < 0 then ['-'] else []) ++ (markedWide 0 n.natAbs).toList := by
  rw [signed, marked_eq_markedWide]
  split
  · rw [String.toList_append, show "-".toList = ['-'] from rfl]
  · rw [List.nil_append]

theorem isWord_signed (n : Int) : IsWord (signed n).toList := by
  have hword := isWord_markedWide 0 n.natAbs
  rw [toList_signed]
  split
  · exact isWord_cons (by decide) hword.2
  · rwa [List.nil_append]

/-- **A numeral with a sign tells its number.** -/
theorem signed_inj {m n : Int} : signed m = signed n ↔ m = n := by
  refine ⟨fun h => ?_, congrArg signed⟩
  have hchars := congrArg String.toList h
  simp only [toList_signed] at hchars
  have hvalue : ∀ {a b : Nat}, (markedWide 0 a).toList = (markedWide 0 b).toList → a = b :=
    fun heq => markedWide_inj.1 (String.toList_inj.1 heq)
  -- the mark begins with a digit, so only one of two equal texts cannot have a sign
  split at hchars <;> split at hchars
  · have := hvalue (List.append_cancel_left hchars)
    omega
  · rw [toList_markedWide, toList_markedWide] at hchars
    cases hchars
  · rw [toList_markedWide, toList_markedWide] at hchars
    cases hchars
  · have := hvalue (List.append_cancel_left hchars)
    omega

end Hex
end PadScout
