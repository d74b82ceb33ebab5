import Mathlib.Data.List.Sort
import PadScout.Proofs.Pattern.Entries
import PadScout.Proofs.Word

/-! # Looking for patterns

A slot asks something of each bit of a word (`Slot.Admits`), a match is a row of words that are
admitted by the slots, and a search lists the matches in ascending order.

Long images may be searched in parts.  A `Division` cuts the row of indices that are tried into
pieces, each piece is searched by itself, and the results are put together in the order of the
pieces.  However the row is divided, the matches come out as in a search from end to end
(`Division.collect_eq`, `Pattern.divided_eq`), so neither the length of an image nor the number of
those that search it shows in the result.

From each match in turn a signature leads to the words at its distances.  What it lists are the
sums that are not negative, in the order of the matches and of the distances
(`Signature.map_entries`).
-/
namespace PadScout

/-! ## Slots -/

/-- **A word that a slot admits**, bit by bit: outside of the mask it is the value of the slot,
which has no bits inside, and inside it has some bit, unless the mask is empty. -/
structure Slot.Admits (s : Slot) (w : UInt32) : Prop where
  fixed : ∀ b < 32, Word.bit s.value b = (!Word.bit s.mask b && Word.bit w b)
  free : s.mask = 0 ∨ ∃ b < 32, Word.bit s.mask b = true ∧ Word.bit w b = true

theorem Word.ne_zero_iff {w : UInt32} : w ≠ 0 ↔ ∃ b < 32, bit w b = true := by
  constructor
  · intro hw
    by_contra hnone
    refine hw (ext ?_)
    intro b hb
    rw [bit_zero, ← Bool.not_eq_true]
    exact fun hbit => hnone ⟨b, hb, hbit⟩
  · rintro ⟨b, -, hbit⟩ rfl
    rw [bit_zero] at hbit
    cases hbit

theorem Slot.fits_iff_admits {s : Slot} {w : UInt32} : s.fits w = true ↔ s.Admits w := by
  have hfixed : w &&& ~~~s.mask = s.value ↔
      ∀ b < 32, Word.bit s.value b = (!Word.bit s.mask b && Word.bit w b) := by
    constructor
    · rintro h b hb
      rw [← h, Word.bit_and, Word.bit_not, decide_eq_true hb, Bool.true_and, Bool.and_comm]
    · intro h
      refine Word.ext ?_
      intro b hb
      rw [h b hb, Word.bit_and, Word.bit_not, decide_eq_true hb, Bool.true_and, Bool.and_comm]
  have hfree : w &&& s.mask ≠ 0 ↔
      ∃ b < 32, Word.bit s.mask b = true ∧ Word.bit w b = true := by
    simp only [Word.ne_zero_iff, Word.bit_and, Bool.and_eq_true, and_comm]
  rw [fits_iff, hfixed, hfree]
  constructor
  · rintro ⟨hvalue, hmask⟩
    exact ⟨hvalue, hmask⟩
  · rintro ⟨hvalue, hmask⟩
    exact ⟨hvalue, hmask⟩

/-! ## Searching in parts -/

/-- A way to divide a row of indices: not at all, or before some index, and then each part in its
own way. -/
inductive Division where
  | whole
  | cut (index : Nat) (left right : Division)

namespace Division

/-- The numbers from `low` on and less than `high` that pass a test.  Each piece of the division
is gone through by itself, and the results are put together in order. -/
def collect (test : Nat → Bool) : Division → Nat → Nat → List Nat
  | whole, low, high => (List.range' low (high - low)).filter test
  | cut index left right, low, high =>
    -- a cut that lies outside leaves one part without indices
    let middle := max low (min index high)
    left.collect test low middle ++ right.collect test middle high

/-- **The division does not show in the result.** -/
theorem collect_eq (test : Nat → Bool) (d : Division) {low high : Nat} (h : low ≤ high) :
    d.collect test low high = (List.range' low (high - low)).filter test := by
  induction d generalizing low high with
  | whole => rfl
  | cut index left right ihleft ihright =>
    have hlow : low ≤ max low (min index high) := Nat.le_max_left _ _
    have hhigh : max low (min index high) ≤ high := by omega
    rw [collect]
    generalize max low (min index high) = middle at hlow hhigh
    have hrow : List.range' low (high - low) =
        List.range' low (middle - low) ++ List.range' middle (high - middle) := by
      have happend : List.range' low (middle - low) ++ List.range' (low + (middle - low))
          (high - middle) = List.range' low (middle - low + (high - middle)) := List.range'_append_1
      rw [show low + (middle - low) = middle by omega,
        show middle - low + (high - middle) = high - low by omega] at happend
      exact happend.symm
    rw [ihleft hlow, ihright hhigh, hrow, List.filter_append]

end Division

namespace Pattern

/-- Images of this many words or more are searched in parts. -/
def divisionThreshold : Nat := 0x4000

/-- The matches of a pattern, found in parts if the image is long. -/
def divided (p : Pattern) (m : Image) (d : Division) : List Nat :=
  if p.isEmpty ∨ m.size < p.length then []
  else
    let tried := m.size - p.length + 1
    if m.size < divisionThreshold then (List.range tried).filter (p.matchesAt m)
    else d.collect (p.matchesAt m) 0 tried

/-- **Short and long images** are searched with one result. -/
theorem divided_eq (p : Pattern) (m : Image) (d : Division) :
    p.divided m d = p.occurrences m := by
  rw [divided, occurrences, Ascending.below_eq]
  split
  · rfl
  · dsimp only
    split
    · rfl
    · rw [d.collect_eq _ (Nat.zero_le _), Nat.sub_zero, List.range_eq_range']

/-- A match, slot by slot. -/
theorem mem_occurrences_iff_admits {p : Pattern} {m : Image} {i : Nat} :
    i ∈ p.occurrences m ↔ 0 < p.length ∧ i + p.length ≤ m.size ∧
      ∀ j < p.length, ∃ s w, p.slots[j]? = some s ∧ m.get? (i + j) = some w ∧ s.Admits w := by
  rw [mem_occurrences_iff, MatchesAt]
  simp only [← Slot.fits_iff, Slot.fits_iff_admits]
  refine and_congr List.length_pos_iff.symm (and_congr_right ?_)
  intro _
  constructor
  · intro h j hj
    obtain ⟨w, hw, hadmits⟩ := h j _ (List.getElem?_eq_getElem hj)
    exact ⟨_, w, List.getElem?_eq_getElem hj, hw, hadmits⟩
  · intro h j s hs
    obtain ⟨t, w, ht, hw, hadmits⟩ := h j (List.getElem?_eq_some_iff.1 hs).1
    obtain rfl : t = s := Option.some.inj (ht.symm.trans hs)
    exact ⟨w, hw, hadmits⟩

end Pattern

/-! ## Entries -/

namespace Signature

/-- The sums of an index and the distances, as far as they are not negative. -/
theorem map_entriesFor {s : Signature} {i : Nat}
    (h : ∀ d ∈ s.entryOffsets, (i : Int) + d < indexLimit) :
    (s.entriesFor i).map (fun t : Nat => (t : Int)) =
      (s.entryOffsets.map fun d => (i : Int) + d).filter fun v => 0 ≤ v := by
  rw [entriesFor]
  generalize s.entryOffsets = offsets at h
  induction offsets with
  | nil => rfl
  | cons d offsets ih =>
    have hlimit := h d List.mem_cons_self
    have hrest := ih fun e he => h e (List.mem_cons_of_mem d he)
    by_cases hd : 0 ≤ (i : Int) + d
    · have hentry : entryAt? i d = some ((i : Int) + d).toNat := if_pos ⟨hd, hlimit⟩
      rw [List.filterMap_cons_some hentry, List.map_cons, List.map_cons, List.filter_cons,
        if_pos (decide_eq_true hd), hrest, Int.toNat_of_nonneg hd]
    · have hentry : entryAt? i d = none := if_neg fun hboth => hd hboth.1
      rw [List.filterMap_cons_none hentry, List.map_cons, List.filter_cons,
        if_neg (mt of_decide_eq_true hd), hrest]

/-- **The entries are listed in order**, match by match and distance by distance. -/
theorem map_entries {s : Signature} {m : Image} (hsize : m.size ≤ 0x8000000000000000)
    (hoffsets : ∀ d ∈ s.entryOffsets, d < 0x8000000000000000) :
    (s.entries m).map (fun t : Nat => (t : Int)) = (s.pattern.occurrences m).flatMap fun i : Nat =>
      (s.entryOffsets.map fun d => (i : Int) + d).filter fun v => 0 ≤ v := by
  rw [entries, List.map_flatMap]
  refine List.flatMap_congr ?_
  intro i hi
  refine map_entriesFor ?_
  intro d hd
  -- a match lies in the image, so no sum is too great
  obtain ⟨hlength, hinside, -⟩ := Pattern.mem_occurrences_iff_admits.1 hi
  have hbound := hoffsets d hd
  rw [indexLimit]
  omega

/-- **What a search lists**, in any image and for any signature.  The matches of its pattern come
in ascending order, each of them once: all indices behind which words of the image are admitted
by the slots, one by one.  It is the same if the search is divided.  The entries are the sums of
the matches and the distances that are not negative, in this order. -/
theorem occurrences_and_entries (s : Signature) (m : Image) :
    (s.pattern.occurrences m).Pairwise (· < ·) ∧
    (∀ i, i ∈ s.pattern.occurrences m ↔
      0 < s.pattern.length ∧ i + s.pattern.length ≤ m.size ∧ ∀ j < s.pattern.length,
        ∃ slot w, s.pattern.slots[j]? = some slot ∧ m.get? (i + j) = some w ∧ slot.Admits w) ∧
    (∀ d, s.pattern.divided m d = s.pattern.occurrences m) ∧
    (m.size ≤ 0x8000000000000000 → (∀ d ∈ s.entryOffsets, d < 0x8000000000000000) →
      (s.entries m).map (fun t : Nat => (t : Int)) =
        (s.pattern.occurrences m).flatMap fun i : Nat =>
          (s.entryOffsets.map fun d => (i : Int) + d).filter fun v => 0 ≤ v) := by
  refine ⟨s.pattern.pairwise_occurrences m, ?_, s.pattern.divided_eq m, map_entries⟩
  intro i
  exact Pattern.mem_occurrences_iff_admits

/-- Two words of one form in a row, entered at the first of them or one word before. -/
def pair : Signature where
  name := "pair"
  pattern := ⟨[⟨0x24, 0x03FFF800⟩, ⟨0x24, 0x03FFF800⟩]⟩
  entryOffsets := [0, -1]

/-- Three such words, and one that has nothing under the mask. -/
def triple : Image := ⟨#[0x01014824, 0x02339024, 0x01014824, 0x00000024]⟩

/-- The matches overlap, and nothing is entered before the first word. -/
theorem occurrences_and_entries_triple :
    triple.size ≤ 0x8000000000000000 ∧ (∀ d ∈ pair.entryOffsets, d < 0x8000000000000000) ∧
      pair.pattern.occurrences triple = [0, 1] ∧
      (pair.entries triple).map (fun t : Nat => (t : Int)) = [0, 1, 0] := by
  have hsize : triple.size ≤ 0x8000000000000000 := by decide
  have hoffsets : ∀ d ∈ pair.entryOffsets, d < 0x8000000000000000 := by decide
  have hmatches : pair.pattern.occurrences triple = [0, 1] := by decide +kernel
  obtain ⟨-, -, -, hentries⟩ := occurrences_and_entries pair triple
  refine ⟨hsize, hoffsets, hmatches, ?_⟩
  rw [hentries hsize hoffsets, hmatches]
  rfl

end Signature
end PadScout
