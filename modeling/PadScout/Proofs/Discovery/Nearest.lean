import Mathlib.Algebra.Order.Group.Unbundled.Int
import Mathlib.Data.List.MinMax
import PadScout.Discovery.Stages

/-! # The nearest word

`nearestTo` goes through its candidates in order and keeps the best one so far.  So it finds the
first of those at the least distance (`nearestTo_eq_argmin`): what it returns is at least as near
as every candidate and strictly nearer than those before it, in whatever order they come
(`nearestTo_eq_some_iff`, `nearestTo_split`).  Of an ascending list it is the smallest of the
nearest words (`nearest_of_pairwise`).
-/
namespace PadScout
namespace Discovery

/-- The distance of two words is that of the numbers. -/
theorem distance_eq_natAbs (a b : UInt32) : distance a b = (a.toNat - b.toNat : Int).natAbs := by
  unfold distance
  omega

/-- **The word nearest to another one** among those with a property; the smaller one if
there are two. -/
structure Nearest (status : UInt32) (among : UInt32 → Prop) (w : UInt32) : Prop where
  mem : among w
  least : ∀ v, among v → distance status w ≤ distance status v
  smaller : ∀ v, among v → distance status v = distance status w → w ≤ v

section Candidates
variable {status w : UInt32} {candidates : List UInt32}

theorem nearestTo_concat (status : UInt32) (candidates : List UInt32) (v : UInt32) :
    nearestTo status (candidates ++ [v]) = nearer status (nearestTo status candidates) v := by
  simp [nearestTo, List.foldl_append]

/-- The choice is that of the first candidate at the least distance. -/
theorem nearestTo_eq_argmin (status : UInt32) (candidates : List UInt32) :
    nearestTo status candidates = candidates.argmin (distance status) := by
  induction candidates using List.reverseRecOn with
  | nil => rfl
  | append_singleton candidates v ih =>
    rw [nearestTo_concat, List.argmin_concat, ih]
    cases candidates.argmin (distance status) with
    | none => rfl
    | some best => rfl

theorem nearestTo_eq_none_iff : nearestTo status candidates = none ↔ candidates = [] := by
  rw [nearestTo_eq_argmin, List.argmin_eq_none]

/-- There is a nearest candidate unless there is none at all. -/
theorem exists_nearestTo (status : UInt32) (h : candidates ≠ []) :
    ∃ w, nearestTo status candidates = some w :=
  Option.ne_none_iff_exists'.1 (mt nearestTo_eq_none_iff.1 h)

/-- **The nearest candidate** is the one that no other is nearer than and that all before it
are farther than. -/
theorem nearestTo_eq_some_iff : nearestTo status candidates = some w ↔
    w ∈ candidates ∧ (∀ v ∈ candidates, distance status w ≤ distance status v) ∧
      ∀ v ∈ candidates.take (candidates.idxOf w), distance status w < distance status v := by
  rw [nearestTo_eq_argmin, List.argmin_eq_some_iff]
  refine and_congr_right fun _ => and_congr_right fun _ => ?_
  constructor
  · intro hfirst v hv
    have hmem : v ∈ candidates := List.mem_of_mem_take hv
    have hbefore : candidates.idxOf v < candidates.idxOf w :=
      (List.mem_take_iff_idxOf_lt hmem).1 hv
    by_contra hle
    exact absurd (hfirst v hmem (Nat.le_of_not_lt hle)) (Nat.not_le.2 hbefore)
  · intro hbefore v hv hle
    by_contra hlt
    have hfarther := hbefore v ((List.mem_take_iff_idxOf_lt hv).2 (Nat.lt_of_not_le hlt))
    exact absurd hle (Nat.not_le.2 hfarther)

/-- **The first of the nearest candidates** is chosen: those before it are farther away. -/
theorem nearestTo_split (h : nearestTo status candidates = some w) :
    ∃ before after, candidates = before ++ w :: after ∧
      (∀ v ∈ before, distance status w < distance status v) ∧
      ∀ v ∈ after, distance status w ≤ distance status v := by
  obtain ⟨hmem, hleast, hbefore⟩ := nearestTo_eq_some_iff.1 h
  have hindex := List.idxOf_lt_length_of_mem hmem
  have hsplit : candidates =
      candidates.take (candidates.idxOf w) ++ w :: candidates.drop (candidates.idxOf w + 1) := by
    have hdrop := List.drop_eq_getElem_cons hindex
    rw [List.getElem_idxOf hindex] at hdrop
    rw [← hdrop, List.take_append_drop]
  exact ⟨_, _, hsplit, hbefore, fun v hv => hleast v (List.mem_of_mem_drop hv)⟩

/-- **Among ascending candidates** the nearest one is found, and of two the smaller. -/
theorem nearest_of_pairwise (hascending : candidates.Pairwise (· < ·))
    (h : nearestTo status candidates = some w) : Nearest status (· ∈ candidates) w := by
  obtain ⟨hmem, hleast, -⟩ := nearestTo_eq_some_iff.1 h
  obtain ⟨before, after, hsplit, hbefore, -⟩ := nearestTo_split h
  refine ⟨hmem, hleast, fun v hv heq => ?_⟩
  rw [hsplit] at hv hascending
  rcases List.mem_append.1 hv with hv | hv
  · have hfarther := hbefore v hv
    omega
  · rcases List.mem_cons.1 hv with rfl | hv
    · exact UInt32.le_refl _
    · have hlt := (List.pairwise_cons.1 (List.pairwise_append.1 hascending).2.1).1 v hv
      exact UInt32.le_of_lt hlt

/-! ## Any order -/

/-- Distances are those of the integers. -/
theorem abs_sub_eq_distance (a b : UInt32) :
    |(a.toNat : Int) - b.toNat| = (distance a b : Int) := by
  rw [distance_eq_natAbs, Int.natCast_natAbs]

/-- **The nearest of any candidates**: there is one unless there are no candidates, and it is
the one candidate that no other is nearer than and that all before it are farther than.  Of
ascending candidates at the same distance it is the smaller. -/
theorem nearestTo_settled (status : UInt32) (candidates : List UInt32) :
    (nearestTo status candidates = none ↔ candidates = []) ∧
    (∀ r, nearestTo status candidates = some r ↔
      r ∈ candidates ∧
      (∀ v ∈ candidates,
        |(status.toNat : Int) - r.toNat| ≤ |(status.toNat : Int) - v.toNat|) ∧
      ∀ v ∈ candidates.take (candidates.idxOf r),
        |(status.toNat : Int) - r.toNat| < |(status.toNat : Int) - v.toNat|) ∧
    (candidates.Pairwise (· < ·) → ∀ r, nearestTo status candidates = some r →
      ∀ v ∈ candidates, |(status.toNat : Int) - v.toNat| = |(status.toNat : Int) - r.toNat| →
        r ≤ v) := by
  simp only [abs_sub_eq_distance, Int.ofNat_le, Int.ofNat_lt, Int.ofNat_inj]
  refine ⟨?_, fun r => ?_, fun hascending r hr v hv heq => ?_⟩
  · exact nearestTo_eq_none_iff
  · exact nearestTo_eq_some_iff
  · exact (nearest_of_pairwise hascending hr).smaller v hv heq

-- at the same distance it is the order that decides
example : nearestTo 100 [90, 110] = some 90 ∧ nearestTo 100 [110, 90] = some 110 := by decide

end Candidates

end Discovery
end PadScout
