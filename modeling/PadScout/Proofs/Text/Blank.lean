import Mathlib.Data.List.TakeWhile
import PadScout.Text.Blank

/-! # The words of spaced text

The words of a text follow from one equation (`words_eq`): a text that does not begin with a
blank is its first word, and the words of what stands behind.  So words that are written with
blanks between them are read back one by one (`words_append_gap`).
-/
namespace PadScout
namespace Blank

/-- Whether a character may stand in a word. -/
def isInk (c : Char) : Bool := !isBlank c

/-- A text that is one word: not empty, and without blanks. -/
structure IsWord (s : List Char) : Prop where
  nonempty : s ≠ []
  ink : ∀ c ∈ s, isInk c = true

/-- A run of blanks that parts two words. -/
structure IsGap (s : List Char) : Prop where
  nonempty : s ≠ []
  blank : ∀ c ∈ s, isBlank c = true

instance (s : List Char) : Decidable (IsWord s) :=
  decidable_of_iff (s ≠ [] ∧ s.all isInk = true)
    ⟨fun h => ⟨h.1, List.all_eq_true.1 h.2⟩, fun h => ⟨h.nonempty, List.all_eq_true.2 h.ink⟩⟩

instance (s : List Char) : Decidable (IsGap s) :=
  decidable_of_iff (s ≠ [] ∧ s.all isBlank = true)
    ⟨fun h => ⟨h.1, List.all_eq_true.1 h.2⟩, fun h => ⟨h.nonempty, List.all_eq_true.2 h.blank⟩⟩

theorem wordsAfter_eq (word s : List Char) : wordsAfter word s =
    close ((s.takeWhile isInk).reverse ++ word) (words (s.dropWhile isInk)) := by
  induction s generalizing word with
  | nil => rfl
  | cons c s ih =>
    cases hc : isBlank c with
    | true => simp [wordsAfter, words, isInk, hc, close]
    | false => simp [wordsAfter, isInk, hc, ih]

/-- **The first word** of a text that does not begin with a blank, and the words behind. -/
theorem words_eq {c : Char} {s : List Char} (hc : isBlank c = false) :
    words (c :: s) = (c :: s).takeWhile isInk :: words ((c :: s).dropWhile isInk) := by
  rw [words, wordsAfter_eq, close]
  simp [isInk, hc]

theorem words_cons_blank {c : Char} {s : List Char} (hc : isBlank c = true) :
    words (c :: s) = words s := by
  simp [words, wordsAfter, hc, close]

/-- Blanks before a text do not count. -/
theorem words_append_of_blank {blanks s : List Char} (h : ∀ c ∈ blanks, isBlank c = true) :
    words (blanks ++ s) = words s := by
  induction blanks with
  | nil => rfl
  | cons c blanks ih =>
    rw [List.cons_append, words_cons_blank (h c List.mem_cons_self)]
    exact ih fun b hb => h b (List.mem_cons_of_mem _ hb)

theorem words_of_blank {blanks : List Char} (h : ∀ c ∈ blanks, isBlank c = true) :
    words blanks = [] := by
  rw [← List.append_nil blanks, words_append_of_blank h]
  rfl

/-- A word ends where a blank, or nothing, stands behind it. -/
theorem words_append {word rest : List Char} (hword : IsWord word)
    (hrest : ∀ c ∈ rest.head?, isBlank c = true) : words (word ++ rest) = word :: words rest := by
  have htake : (word ++ rest).takeWhile isInk = word ∧ (word ++ rest).dropWhile isInk = rest := by
    rw [List.takeWhile_append_of_pos hword.ink, List.dropWhile_append_of_pos hword.ink]
    cases rest with
    | nil => simp
    | cons b rest => simp [isInk, hrest b rfl]
  obtain ⟨c, others, rfl⟩ := List.exists_cons_of_ne_nil hword.nonempty
  have hc : isBlank c = false := by simpa [isInk] using hword.ink c List.mem_cons_self
  rw [List.cons_append, words_eq hc, ← List.cons_append, htake.1, htake.2]

/-- **A word and a gap** before a text are read as that word before the words of the text. -/
theorem words_append_gap {word gap s : List Char} (hword : IsWord word) (hgap : IsGap gap) :
    words (word ++ (gap ++ s)) = word :: words s := by
  rw [words_append hword, words_append_of_blank hgap.blank]
  obtain ⟨b, rest, rfl⟩ := List.exists_cons_of_ne_nil hgap.nonempty
  intro c hc
  cases hc
  exact hgap.blank b List.mem_cons_self

/-- A last word, with any blanks behind it. -/
theorem words_append_blanks {word blanks : List Char} (hword : IsWord word)
    (h : ∀ c ∈ blanks, isBlank c = true) : words (word ++ blanks) = [word] := by
  rw [words_append hword fun c hc => h c (List.mem_of_mem_head? hc), words_of_blank h]

/-- A text is its own first word just when there is no blank in it. -/
theorem takeWhile_isInk_eq_iff {s : List Char} :
    s.takeWhile isInk = s ↔ ∀ c ∈ s, isBlank c = false := by
  rw [List.takeWhile_eq_self_iff]
  simp [isInk]

end Blank
end PadScout
