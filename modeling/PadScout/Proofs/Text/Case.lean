import Mathlib.Data.List.Infix
import PadScout.Text.Case

/-! # Texts in lower case

A character that lowering brings about is not lowered any further (`lowerChar_of_mem_lower`).
This rests on the table of lower-case forms: the forms of one range lie outside of every other
range, or between the characters that it moves (`LowerRange.not_covers_image`).

The two ways to put a text into lower case part over the capitals beyond ASCII.  A character is
`Alike` if they agree on it.  A text of such characters has the same lower case alone as
anywhere inside another text (`asciiLower_infix_lower`), and no other text has its `asciiLower`
inside anything that is in lower case (`alike_of_asciiLower_infix_lower`).
-/
namespace PadScout

/-! ## The table -/

namespace Letter
namespace LowerRange

variable {r other : LowerRange} {n : Nat}

/-- The range moves the character. -/
def Covers (r : LowerRange) (n : Nat) : Prop :=
  r.first ≤ n ∧ n ≤ r.last ∧ (n - r.first) % r.step = 0

instance (r : LowerRange) (n : Nat) : Decidable (r.Covers n) :=
  inferInstanceAs (Decidable (_ ∧ _ ∧ _))

/-- The lower-case form of a character of the range. -/
def image (r : LowerRange) (n : Nat) : Nat := (n + r.shift).toNat

/-- The forms of a range lie outside of another range, or between its characters. -/
def misses (r other : LowerRange) : Bool :=
  other.last.blt (r.image r.first) || (r.image r.last).blt other.first ||
    other.step == 2 && (r.step == 2 || r.first == r.last) &&
      (r.image r.first + other.first) % 2 == 1

/-- The forms of a range are none of the capitals that are not in the table. -/
def missesCapitals (r : LowerRange) : Bool :=
  0 < r.image r.first && (r.image r.last < 'A'.toNat || 'Z'.toNat < r.image r.first) &&
    (r.image r.last < '\u0130'.toNat || '\u0130'.toNat < r.image r.first)

/-- The first form is not the null character, so that no subtraction is cut off. -/
theorem image_of_covers (hpos : 0 < r.image r.first) (hn : r.Covers n) :
    r.image n = r.image r.first + (n - r.first) ∧ r.image n + (r.last - n) = r.image r.last := by
  obtain ⟨hfirst, hlast, -⟩ := hn
  unfold image at *
  omega

theorem not_covers_of_misses (h : r.misses other = true) (hpos : 0 < r.image r.first)
    (hn : r.Covers n) : ¬ other.Covers (r.image n) := by
  obtain ⟨himage, hrest⟩ := image_of_covers hpos hn
  obtain ⟨hfirst, hlast, hstep⟩ := hn
  rintro ⟨hfirst', hlast', hstep'⟩
  simp only [misses, Bool.or_eq_true, Bool.and_eq_true, beq_iff_eq, Nat.blt_eq] at h
  rcases h with (hbehind | hbefore) | ⟨⟨htwo, hparity⟩, hodd⟩
  · omega
  · omega
  · rw [htwo] at hstep'
    -- both characters are an even distance from the first of their range
    rcases hparity with hparity | hparity
    · rw [hparity] at hstep
      omega
    · omega

theorem misses_of_mem (hr : r ∈ lowerRanges) (hother : other ∈ lowerRanges) :
    r.misses other = true := by
  have htable : (lowerRanges.toList.all fun r => lowerRanges.toList.all r.misses) = true := by
    decide +kernel
  exact List.all_eq_true.1 (List.all_eq_true.1 htable r (Array.mem_toList_iff.2 hr)) other
    (Array.mem_toList_iff.2 hother)

theorem missesCapitals_of_mem (hr : r ∈ lowerRanges) : r.missesCapitals = true := by
  have htable : lowerRanges.toList.all missesCapitals = true := by decide +kernel
  exact List.all_eq_true.1 htable r (Array.mem_toList_iff.2 hr)

/-- **No lower-case form has another one**, by the table. -/
theorem not_covers_image (hr : r ∈ lowerRanges) (hother : other ∈ lowerRanges)
    (hn : r.Covers n) : ¬ other.Covers (r.image n) := by
  have hpos : 0 < r.image r.first := by
    have h := missesCapitals_of_mem hr
    simp only [missesCapitals, Bool.and_eq_true, decide_eq_true_eq] at h
    exact h.1.1
  exact not_covers_of_misses (misses_of_mem hr hother) hpos hn

/-- No lower-case form is one of the capitals that are not in the table. -/
theorem image_ne (hr : r ∈ lowerRanges) (hn : r.Covers n) :
    ¬ ('A'.toNat ≤ r.image n ∧ r.image n ≤ 'Z'.toNat) ∧ r.image n ≠ '\u0130'.toNat := by
  have h := missesCapitals_of_mem hr
  simp only [missesCapitals, Bool.and_eq_true, Bool.or_eq_true, decide_eq_true_eq] at h
  obtain ⟨⟨hpos, hascii⟩, hdotted⟩ := h
  obtain ⟨himage, hrest⟩ := image_of_covers hpos hn
  omega

end LowerRange
end Letter

namespace Case

open Letter (lowerRanges LowerRange)

variable {c d : Char} {s : List Char}

/-! ## One character -/

theorem asciiLowerChar_of_not (h : ¬ ('A'.toNat ≤ c.toNat ∧ c.toNat ≤ 'Z'.toNat)) :
    asciiLowerChar c = c := if_neg h

theorem asciiLowerChar_of_beyond (h : ¬ c.toNat < 0x80) : asciiLowerChar c = c :=
  asciiLowerChar_of_not fun hc => h (Nat.lt_of_le_of_lt hc.2 (by decide))

theorem lowerChar_of_ascii (h : c.toNat < 0x80) : lowerChar c = [asciiLowerChar c] := if_pos h

/-- Beyond ASCII the table decides. -/
theorem lowerChar_of_beyond (hc : ¬ c.toNat < 0x80) (hdotted : c ≠ '\u0130') :
    lowerChar c = match lowerRanges.find? fun r => decide (r.Covers c.toNat) with
      | some r => [Char.ofNat (r.image c.toNat)]
      | none => [c] := by
  have hcovers : (fun r : LowerRange => r.first ≤ c.toNat && c.toNat ≤ r.last &&
      (c.toNat - r.first) % r.step == 0) = fun r => decide (r.Covers c.toNat) := by
    funext r
    rw [Bool.eq_iff_iff, decide_eq_true_eq, LowerRange.Covers, Bool.and_eq_true, Bool.and_eq_true,
      decide_eq_true_eq, decide_eq_true_eq, beq_iff_eq, and_assoc]
  rw [lowerChar, if_neg hc, if_neg hdotted, hcovers]
  -- what the search finds makes no difference, and it need not be run
  generalize lowerRanges.find? (fun r => decide (r.Covers c.toNat)) = found
  cases found with
  | none => rfl
  | some r => rfl

/-- The characters that are their own lower-case form. -/
theorem lowerChar_eq_self (hascii : ¬ ('A'.toNat ≤ c.toNat ∧ c.toNat ≤ 'Z'.toNat))
    (hdotted : c.toNat ≠ '\u0130'.toNat) (htable : ∀ r ∈ lowerRanges, ¬ r.Covers c.toNat) :
    lowerChar c = [c] := by
  by_cases hc : c.toNat < 0x80
  · rw [lowerChar_of_ascii hc, asciiLowerChar_of_not hascii]
  · have hfind : (lowerRanges.find? fun r => decide (r.Covers c.toNat)) = none :=
      Array.find?_eq_none.2 fun r hr hcovers => htable r hr (of_decide_eq_true hcovers)
    rw [lowerChar_of_beyond hc fun h => hdotted (congrArg Char.toNat h), hfind]

/-- Where the lower-case form of a character comes from. -/
theorem lowerChar_cases (c : Char) : c.toNat < 0x80 ∨ c = '\u0130' ∨
    (∃ r ∈ lowerRanges, r.Covers c.toNat ∧ lowerChar c = [Char.ofNat (r.image c.toNat)]) ∨
    lowerChar c = [c] := by
  by_cases hc : c.toNat < 0x80
  · exact Or.inl hc
  by_cases hdotted : c = '\u0130'
  · exact Or.inr (Or.inl hdotted)
  refine Or.inr (Or.inr ?_)
  have hlower := lowerChar_of_beyond hc hdotted
  rcases hfind : lowerRanges.find? fun r => decide (r.Covers c.toNat) with - | r
  · rw [hfind] at hlower
    exact Or.inr hlower
  · rw [hfind] at hlower
    have hcovers := Array.find?_some hfind
    rw [decide_eq_true_eq] at hcovers
    exact Or.inl ⟨r, Array.mem_of_find?_eq_some hfind, hcovers, hlower⟩

theorem lowerChar_asciiLowerChar (h : c.toNat < 0x80) :
    lowerChar (asciiLowerChar c) = [asciiLowerChar c] := by
  have hall : ∀ n < 0x80, lowerChar (asciiLowerChar (Char.ofNat n)) =
      [asciiLowerChar (Char.ofNat n)] := by decide
  have hc := hall c.toNat h
  rwa [Char.ofNat_toNat] at hc

/-- The forms that do not come from the table: of a capital I with a dot, and of a sigma. -/
theorem lowerChar_of_mem_special (h : c ∈ ['i', '\u0307', 'ς', 'σ']) : lowerChar c = [c] := by
  have htable : ['i', '\u0307', 'ς', 'σ'].all (fun c =>
      decide (¬ ('A'.toNat ≤ c.toNat ∧ c.toNat ≤ 'Z'.toNat) ∧ c.toNat ≠ '\u0130'.toNat) &&
        lowerRanges.toList.all fun r => decide (¬ r.Covers c.toNat)) = true := by
    decide +kernel
  have hc := List.all_eq_true.1 htable c h
  rw [Bool.and_eq_true, decide_eq_true_eq] at hc
  obtain ⟨⟨hascii, hdotted⟩, hcovers⟩ := hc
  refine lowerChar_eq_self hascii hdotted fun r hr => ?_
  exact of_decide_eq_true (List.all_eq_true.1 hcovers r (Array.mem_toList_iff.2 hr))

/-- A form that the table gives; what is no character comes out as the null character. -/
theorem lowerChar_image {r : LowerRange} {n : Nat} (hr : r ∈ lowerRanges) (hn : r.Covers n) :
    lowerChar (Char.ofNat (r.image n)) = [Char.ofNat (r.image n)] := by
  by_cases hvalid : (r.image n).isValidChar
  · have himage : (Char.ofNat (r.image n)).toNat = r.image n := by
      rw [Char.ofNat, dif_pos hvalid]
      rfl
    have hne := LowerRange.image_ne hr hn
    rw [← himage] at hne
    refine lowerChar_eq_self hne.1 hne.2 fun other hother => ?_
    rw [himage]
    exact LowerRange.not_covers_image hr hother hn
  · rw [Char.ofNat, dif_neg hvalid]
    decide

/-- **A lower-case form is its own lower-case form.** -/
theorem lowerChar_of_mem_lowerChar (h : d ∈ lowerChar c) : lowerChar d = [d] := by
  rcases lowerChar_cases c with hc | rfl | ⟨r, hr, hcovers, hlower⟩ | hlower
  · rw [lowerChar_of_ascii hc, List.mem_singleton] at h
    rw [h, lowerChar_asciiLowerChar hc]
  · have hd : d ∈ ['i', '\u0307'] := h
    exact lowerChar_of_mem_special (List.mem_append_left ['ς', 'σ'] hd)
  · rw [hlower, List.mem_singleton] at h
    rw [h]
    exact lowerChar_image hr hcovers
  · rw [hlower, List.mem_singleton] at h
    rwa [h]

/-- Both ways to lower a text change the character alike. -/
def Alike (c : Char) : Prop := lowerChar c = [asciiLowerChar c]

instance : DecidablePred Alike :=
  fun c => inferInstanceAs (Decidable (lowerChar c = [asciiLowerChar c]))

/-- The letters A to Z are lowered alike, and otherwise the characters that have no other
lower-case form. -/
theorem alike_iff : Alike c ↔ c.toNat < 0x80 ∨ lowerChar c = [c] := by
  by_cases hc : c.toNat < 0x80
  · exact iff_of_true (lowerChar_of_ascii hc) (Or.inl hc)
  · rw [Alike, asciiLowerChar_of_beyond hc]
    exact (or_iff_right hc).symm

theorem alike_of_lowerChar_asciiLowerChar (h : lowerChar (asciiLowerChar c) = [asciiLowerChar c]) :
    Alike c := by
  by_cases hc : c.toNat < 0x80
  · exact lowerChar_of_ascii hc
  · rw [asciiLowerChar_of_beyond hc] at h
    exact alike_iff.2 (Or.inr h)

/-- A capital sigma is not lowered alike, wherever it stands. -/
theorem ne_sigma_of_alike (h : Alike c) : c ≠ 'Σ' := by
  rintro rfl
  have hsmall : lowerChar 'Σ' = ['σ'] := by
    rw [lowerChar, ← Array.find?_toList]
    decide +kernel
  rw [Alike, hsmall] at h
  exact absurd h (by decide)

/-! ## A whole text -/

/-- The lower case of a text begins with that of its first part. -/
theorem lowerAfter_append (before s t : List Char) : ∃ start,
    lowerAfter before (s ++ t) = start ++ lowerAfter (s.reverse ++ before) t := by
  induction s generalizing before with
  | nil => exact ⟨[], rfl⟩
  | cons c s ih =>
    obtain ⟨start, hstart⟩ := ih (c :: before)
    rw [List.cons_append, lowerAfter, hstart, List.reverse_cons, List.append_assoc s.reverse,
      ← List.append_assoc]
    exact ⟨_, rfl⟩

/-- Characters that are lowered alike do not depend on what stands around them. -/
theorem lowerAfter_append_of_alike {before t : List Char} (h : ∀ c ∈ s, Alike c) :
    lowerAfter before (s ++ t) = asciiLower s ++ lowerAfter (s.reverse ++ before) t := by
  induction s generalizing before with
  | nil => rfl
  | cons c s ih =>
    have hc := h c List.mem_cons_self
    rw [List.cons_append, lowerAfter, if_neg (ne_sigma_of_alike hc), hc,
      ih fun d hd => h d (List.mem_cons_of_mem c hd), List.reverse_cons, List.append_assoc]
    rfl

/-- **A text that is lowered alike** has one lower case, inside any other text. -/
theorem asciiLower_infix_lower {text : List Char} (halike : ∀ c ∈ s, Alike c)
    (h : s <:+: text) : asciiLower s <:+: lower text := by
  obtain ⟨start, rest, rfl⟩ := h
  rw [List.append_assoc, lower]
  obtain ⟨lowered, hlowered⟩ := lowerAfter_append [] start (s ++ rest)
  rw [hlowered, lowerAfter_append_of_alike halike, ← List.append_assoc]
  exact List.infix_append _ _ _

theorem lowerChar_of_mem_lowerAfter {before : List Char} (h : d ∈ lowerAfter before s) :
    lowerChar d = [d] := by
  induction s generalizing before with
  | nil => cases h
  | cons c s ih =>
    rcases List.mem_append.1 h with h | h
    · by_cases hc : c = 'Σ'
      · rw [if_pos hc] at h
        have hd : d ∈ ['ς', 'σ'] := by
          split at h
          · exact List.mem_cons.2 (Or.inl (List.mem_singleton.1 h))
          · exact List.mem_cons_of_mem _ h
        exact lowerChar_of_mem_special (List.mem_append_right ['i', '\u0307'] hd)
      · rw [if_neg hc] at h
        exact lowerChar_of_mem_lowerChar h
    · exact ih h

/-- **What is in lower case stays as it is.** -/
theorem lowerChar_of_mem_lower (h : d ∈ lower s) : lowerChar d = [d] :=
  lowerChar_of_mem_lowerAfter h

/-- Only a text that is lowered alike is found in a text in lower case. -/
theorem alike_of_asciiLower_infix_lower {text : List Char} (h : asciiLower s <:+: lower text)
    (hc : c ∈ s) : Alike c := by
  have hmem : asciiLowerChar c ∈ lower text := List.IsInfix.mem (List.mem_map_of_mem hc) h
  exact alike_of_lowerChar_asciiLowerChar (lowerChar_of_mem_lower hmem)

end Case
end PadScout
