import PadScout.Text.Numeral

/-! # Hexadecimal numbers read back

The digits of a number are read back as that number (`ofDigits?_padded`), with any number of
zeros before them, and so they are as a numeral below a limit (`Numeral.hex?_padded`).
-/
namespace PadScout
namespace Hex

theorem digit?_digitChar {d : Nat} (h : d < 16) : digit? d.digitChar = some d :=
  (by decide : ∀ d < 16, digit? (Nat.digitChar d) = some d) d h

theorem ofDigitsFrom?_append (acc : Nat) (cs ds : List Char) :
    ofDigitsFrom? acc (cs ++ ds) = (ofDigitsFrom? acc cs).bind fun n => ofDigitsFrom? n ds := by
  induction cs generalizing acc with
  | nil => rfl
  | cons c cs ih =>
    rw [List.cons_append, ofDigitsFrom?, ofDigitsFrom?, Option.bind_assoc]
    exact congrArg _ (funext fun d => ih _)

theorem ofDigitsFrom?_replicate_zero (k : Nat) : ofDigitsFrom? 0 (List.replicate k '0') = some 0 := by
  induction k with
  | zero => rfl
  | succ k ih => exact ih

theorem ofDigitsFrom?_digits (n : Nat) : ofDigitsFrom? 0 (digits n) = some n := by
  unfold digits
  induction n using Nat.base_induction 16 (by decide) with
  | single d hd => simp [Nat.toDigits_of_lt_base hd, ofDigitsFrom?, digit?_digitChar hd]
  | digit n d hd hn ih =>
    rw [← Nat.toDigits_append_toDigits (by decide) hn hd, ofDigitsFrom?_append, ih,
      Nat.toDigits_of_lt_base hd]
    simp [ofDigitsFrom?, digit?_digitChar hd]

theorem padded_ne_nil (width n : Nat) : padded width n ≠ [] := by
  simp [padded, digits]

theorem ofDigitsFrom?_padded (width n : Nat) : ofDigitsFrom? 0 (padded width n) = some n := by
  rw [padded, ofDigitsFrom?_append, ofDigitsFrom?_replicate_zero]
  exact ofDigitsFrom?_digits n

/-- **Digits are read back** as the number that they show. -/
theorem ofDigits?_padded (width n : Nat) : ofDigits? (padded width n) = some n := by
  have hfrom := ofDigitsFrom?_padded width n
  cases hdigits : padded width n with
  | nil => exact absurd hdigits (padded_ne_nil width n)
  | cons c cs =>
    rw [hdigits] at hfrom
    exact hfrom

theorem isSome_digit?_of_mem {acc n : Nat} {cs : List Char} (h : ofDigitsFrom? acc cs = some n)
    {c : Char} (hc : c ∈ cs) : (digit? c).isSome := by
  induction cs generalizing acc with
  | nil => cases hc
  | cons b cs ih =>
    obtain ⟨d, hd, hrest⟩ := Option.bind_eq_some_iff.1 h
    rcases List.mem_cons.1 hc with rfl | hc
    · rw [hd]
      rfl
    · exact ih hrest hc

/-- Nothing but digits is written. -/
theorem isSome_digit?_of_mem_padded {width n : Nat} {c : Char} (hc : c ∈ padded width n) :
    (digit? c).isSome := by
  have h := ofDigits?_padded width n
  cases hdigits : padded width n with
  | nil => exact absurd hdigits (padded_ne_nil width n)
  | cons b cs =>
    rw [hdigits] at h hc
    exact isSome_digit?_of_mem h hc

end Hex

namespace Numeral

theorem hex?_padded {limit n : Nat} (h : n < limit) (width : Nat) :
    hex? limit (Hex.padded width n) = some n := by
  have hplus : withoutPlus (Hex.padded width n) = Hex.padded width n := by
    unfold withoutPlus
    split
    · rename_i rest heq
      have hmem : '+' ∈ Hex.padded width n := by
        rw [heq]
        exact List.mem_cons_self
      exact absurd (Hex.isSome_digit?_of_mem_padded hmem) (by decide)
    · rfl
  rw [hex?, hplus, Hex.ofDigits?_padded]
  simp [below, h]

end Numeral
end PadScout
