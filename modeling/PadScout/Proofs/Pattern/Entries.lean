import Mathlib.Algebra.Group.Nat.Defs
import PadScout.Pattern.Routine

/-! # Where routines may be entered

The search for a pattern finds its matches, all of them and nothing else
(`Pattern.mem_occurrences_iff`).  A signature leads from each match to the words at its
distances (`Signature.mem_entries_iff`), so the possible entries of a routine are told by
the words of the image alone (`Routine.mem_entries_iff`).  No routine is entered behind the
start of a match, hence all entries lie in the image.
-/
namespace PadScout

/-! ## Matches -/

theorem Slot.fits_iff {s : Slot} {w : UInt32} :
    s.fits w = true ↔ w &&& ~~~ s.mask = s.value ∧ (s.mask = 0 ∨ w &&& s.mask ≠ 0) := by
  rw [fits, Bool.and_eq_true, Bool.or_eq_true, beq_iff_eq, beq_iff_eq, bne_iff_ne]

namespace Pattern

theorem fitsFrom_iff {m : Image} {slots : List Slot} {start : Nat} :
    fitsFrom m slots start = true ↔
      ∀ j s, slots[j]? = some s → ∃ w, m.get? (start + j) = some w ∧ s.fits w = true := by
  induction slots generalizing start with
  | nil => simp [fitsFrom]
  | cons first slots ih =>
    rw [fitsFrom, Bool.and_eq_true, Option.any_eq_true, ih]
    constructor
    · rintro ⟨hfirst, hslots⟩ j s hs
      cases j with
      | zero =>
        obtain rfl := Option.some.inj hs
        exact hfirst
      | succ j =>
        have hnext := hslots j s hs
        rwa [Nat.add_assoc, Nat.add_comm 1 j] at hnext
    · intro h
      refine ⟨h 0 first rfl, fun j s hs => ?_⟩
      have hnext := h (j + 1) s hs
      rwa [Nat.add_comm j 1, ← Nat.add_assoc] at hnext

theorem matchesAt_iff {p : Pattern} {m : Image} {start : Nat} :
    p.matchesAt m start = true ↔ p.MatchesAt m start := by
  rw [matchesAt, Bool.and_eq_true, decide_eq_true_eq, fitsFrom_iff]
  simp only [Slot.fits_iff, MatchesAt]

/-- **The search finds the matches**, except that an empty pattern has none. -/
theorem mem_occurrences_iff {p : Pattern} {m : Image} {start : Nat} :
    start ∈ p.occurrences m ↔ p.slots ≠ [] ∧ p.MatchesAt m start := by
  have hempty : p.isEmpty = true ↔ p.slots = [] := List.isEmpty_iff
  rw [occurrences]
  constructor
  · intro h
    split at h
    · cases h
    · next hsearch =>
      rw [not_or, hempty] at hsearch
      exact ⟨hsearch.1, matchesAt_iff.1 (Ascending.mem_below.1 h).2⟩
  · rintro ⟨hslots, hmatch⟩
    have hinside := hmatch.1
    rw [if_neg (not_or.2 ⟨mt hempty.1 hslots, by omega⟩)]
    exact Ascending.mem_below.2 ⟨by omega, matchesAt_iff.2 hmatch⟩

theorem pairwise_occurrences (p : Pattern) (m : Image) :
    (p.occurrences m).Pairwise (· < ·) := by
  rw [occurrences]
  split
  · exact .nil
  · exact Ascending.pairwise_below _ _

end Pattern

/-! ## Entries -/

namespace Signature

theorem entryAt?_eq_some_iff {start t : Nat} {distance : Int} :
    entryAt? start distance = some t ↔ (t : Int) = start + distance ∧ (t : Int) < indexLimit := by
  rw [entryAt?]
  split
  · next h =>
    rw [Option.some_inj]
    omega
  · next h =>
    constructor
    · intro hnone
      cases hnone
    · omega

/-- **The possible entries** are the words at the distances of the signature from a match. -/
theorem mem_entries_iff {s : Signature} {m : Image} {t : Nat} :
    t ∈ s.entries m ↔ ∃ start, (s.pattern.slots ≠ [] ∧ s.pattern.MatchesAt m start) ∧
      ∃ d ∈ s.entryOffsets, (t : Int) = start + d ∧ (t : Int) < indexLimit := by
  simp only [entries, entriesFor, List.mem_flatMap, List.mem_filterMap,
    Pattern.mem_occurrences_iff, entryAt?_eq_some_iff]

end Signature

namespace Routine

/-- **The routine may be entered at word `t`**: the word lies at one of the distances of its
signature from a match of its pattern. -/
def EnteredAt (r : Routine) (m : Image) (t : Nat) : Prop :=
  ∃ start, r.signature.pattern.MatchesAt m start ∧
    ∃ d ∈ r.signature.entryOffsets, (t : Int) = start + d

theorem slots_ne_nil (r : Routine) : r.signature.pattern.slots ≠ [] := by
  cases r <;> decide

theorem entryOffset_nonpos (r : Routine) : ∀ d ∈ r.signature.entryOffsets, d ≤ 0 := by
  cases r <;> decide

theorem lt_size_of_enteredAt {r : Routine} {m : Image} {t : Nat} (h : r.EnteredAt m t) :
    t < m.size := by
  obtain ⟨start, hmatch, d, hd, ht⟩ := h
  have hinside := hmatch.1
  have hlength : 0 < r.signature.pattern.length := List.length_pos_iff.2 r.slots_ne_nil
  have hbefore := r.entryOffset_nonpos d hd
  omega

theorem mem_entries_iff {r : Routine} {m : Image} {t : Nat} (hsize : m.size < 2 ^ 64) :
    t ∈ r.signature.entries m ↔ r.EnteredAt m t := by
  rw [Signature.mem_entries_iff]
  constructor
  · rintro ⟨start, ⟨-, hmatch⟩, d, hd, ht, -⟩
    exact ⟨start, hmatch, d, hd, ht⟩
  · intro h
    have hlt := lt_size_of_enteredAt h
    obtain ⟨start, hmatch, d, hd, ht⟩ := h
    have hlimit : (t : Int) < Signature.indexLimit := by
      rw [Signature.indexLimit]
      omega
    exact ⟨start, ⟨r.slots_ne_nil, hmatch⟩, d, hd, ht, hlimit⟩

end Routine
end PadScout
