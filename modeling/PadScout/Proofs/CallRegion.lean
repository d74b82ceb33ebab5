import Mathlib.Data.List.Sort
import Mathlib.Data.Set.Card
import PadScout.Proofs.CallSite

/-! # Stretches of code and what they call

A set of call sites is asked for its members in a range, or for the first of them
(`CallSites.mem_between`, `CallSites.first?_eq_some_iff`).  A range that ends before it starts
is empty, but the start is looked at all the same (`CallSites.selects_range`).

The number of routines that a stretch of code calls is the number of targets of the `jal`s in
it, however often each of them is called and whatever the other words are
(`distinctCalls_eq_ncard`).  So a longer stretch calls no fewer routines, and no more than its
two parts together (`distinctCalls_of_range`).
-/
namespace PadScout

open Mips (decode)

/-! ## Sites in a range -/

theorem head?_eq_some_iff_of_pairwise {l : List Nat} (h : l.Pairwise (· < ·)) {a : Nat} :
    l.head? = some a ↔ a ∈ l ∧ ∀ b ∈ l, a ≤ b := by
  cases l with
  | nil => simp
  | cons first l =>
    have hfirst := (List.pairwise_cons.1 h).1
    rw [List.head?_cons, Option.some_inj]
    constructor
    · rintro rfl
      refine ⟨List.mem_cons_self, fun b hb => ?_⟩
      rcases List.mem_cons.1 hb with rfl | hb
      · exact Nat.le_refl _
      · exact Nat.le_of_lt (hfirst b hb)
    · rintro ⟨ha, hleast⟩
      have hle := hleast first List.mem_cons_self
      rcases List.mem_cons.1 ha with rfl | ha
      · rfl
      · exact absurd (hfirst a ha) (Nat.not_lt.2 hle)

/-- Two members in ascending order, and no other. -/
theorem eq_pair_iff_of_pairwise {l : List Nat} (h : l.Pairwise (· < ·)) {a b : Nat} :
    l = [a, b] ↔ a < b ∧ ∀ x, x ∈ l ↔ x = a ∨ x = b := by
  constructor
  · rintro rfl
    exact ⟨List.rel_of_pairwise_cons h List.mem_cons_self, fun x => by simp⟩
  · rintro ⟨hab, hmem⟩
    have hpair : [a, b].Pairwise (· < ·) := List.pairwise_pair.2 hab
    exact h.eq_of_mem_iff hpair fun x => by simp [hmem x]

namespace CallSites

variable {s : CallSites} {low high site : Nat}

/-- A set of call sites is told by its members. -/
theorem eq_of_mem_iff {s t : CallSites} (h : ∀ site, site ∈ s.toList ↔ site ∈ t.toList) :
    s = t := by
  obtain ⟨l, hl⟩ := s
  obtain ⟨l', hl'⟩ := t
  obtain rfl : l = l' := hl.eq_of_mem_iff hl' h
  rfl

theorem mem_between : site ∈ s.between low high ↔
    site ∈ s.toList ∧ low ≤ site ∧ site ≤ max high low := by
  rw [between, List.mem_filter, decide_eq_true_eq]

theorem pairwise_between (s : CallSites) (low high : Nat) :
    (s.between low high).Pairwise (· < ·) := s.ascending.filter _

/-- **The first site of a range** is the least. -/
theorem first?_eq_some_iff : s.first? low high = some site ↔
    (site ∈ s.toList ∧ low ≤ site ∧ site ≤ max high low) ∧
      ∀ other ∈ s.toList, low ≤ other → site ≤ other := by
  rw [first?, head?_eq_some_iff_of_pairwise (s.pairwise_between low high), mem_between]
  constructor
  · rintro ⟨hsite, hleast⟩
    refine ⟨hsite, fun other hother hlow => ?_⟩
    -- the sites behind the range are greater than those in it
    by_cases hhigh : other ≤ max high low
    · exact hleast other (mem_between.2 ⟨hother, hlow, hhigh⟩)
    · exact Nat.le_of_lt (Nat.lt_of_le_of_lt hsite.2.2 (Nat.lt_of_not_le hhigh))
  · rintro ⟨hsite, hleast⟩
    exact ⟨hsite, fun other hother =>
      hleast other (mem_between.1 hother).1 (mem_between.1 hother).2.1⟩

theorem isNone_first?_iff : (s.first? low high).isNone = true ↔
    ∀ site ∈ s.toList, low ≤ site → ¬ site ≤ max high low := by
  rw [Option.isNone_iff_eq_none, first?, List.head?_eq_none_iff, List.eq_nil_iff_forall_not_mem]
  simp only [mem_between, not_and]

/-- **The sites from `low` to `high` are those in a set of indices**: all of them are listed in
ascending order, and the first of them is the least, if there is one. -/
structure Selects (s : CallSites) (low high : Nat) (range : Set Nat) : Prop where
  ascending : (s.between low high).Pairwise (· < ·)
  members : ∀ site, site ∈ s.between low high ↔ site ∈ s.toList ∧ site ∈ range
  first : ∀ site, s.first? low high = some site ↔
    IsLeast {other | other ∈ s.toList ∧ other ∈ range} site
  vacant : s.first? low high = none ↔ ∀ site ∈ s.toList, site ∉ range

/-- The order and the first site are settled with the members. -/
theorem selects_iff {range : Set Nat} : s.Selects low high range ↔
    ∀ site, site ∈ s.between low high ↔ site ∈ s.toList ∧ site ∈ range := by
  constructor
  · intro h
    exact h.members
  · intro h
    refine ⟨s.pairwise_between low high, h, ?_, ?_⟩
    · intro site
      rw [first?, head?_eq_some_iff_of_pairwise (s.pairwise_between low high)]
      simp only [h]
      exact Iff.rfl
    · rw [first?, List.head?_eq_none_iff, List.eq_nil_iff_forall_not_mem]
      simp only [h, not_and]

theorem mem_between_iff_mem_insert : site ∈ s.between low high ↔
    site ∈ s.toList ∧ site ∈ insert low (Set.Icc low high) := by
  rw [mem_between, Set.mem_insert_iff, Set.mem_Icc]
  refine and_congr_right ?_
  intro _
  omega

/-- **What is looked at is the range and its start.**  That is the range alone unless the range
ends before it starts and its start is a site. -/
theorem selects_range (s : CallSites) (low high : Nat) :
    s.Selects low high (insert low (Set.Icc low high)) ∧
    (s.Selects low high (Set.Icc low high) ↔ low ≤ high ∨ low ∉ s.toList) := by
  constructor
  · exact selects_iff.2 fun site => mem_between_iff_mem_insert
  · rw [selects_iff]
    simp only [mem_between_iff_mem_insert, Set.mem_insert_iff, Set.mem_Icc]
    constructor
    · intro h
      by_cases hlow : low ∈ s.toList
      · obtain ⟨-, -, hle⟩ := (h low).1 ⟨hlow, .inl rfl⟩
        exact .inl hle
      · exact .inr hlow
    · intro h site
      refine and_congr_right ?_
      intro hsite
      rcases h with hle | hlow
      · omega
      · -- the start is no site, so it is not this one
        have hne : site ≠ low := by
          rintro rfl
          exact hlow hsite
        simp only [hne, false_or]

/-- A range that ends before it starts still yields the site at its start. -/
theorem not_selects_inverted : (ofList [4, 10]).between 10 4 = [10] ∧
    (ofList [4, 10]).first? 10 4 = some 10 ∧
    ¬ (ofList [4, 10]).Selects 10 4 (Set.Icc 10 4) := by
  refine ⟨by decide, by decide, ?_⟩
  intro h
  obtain ⟨-, -, hle⟩ := (h.members 10).1 (by decide)
  exact absurd hle (by decide)

end CallSites

/-- **Neither order nor repetition matters** among routines in reach of calls. -/
theorem callSitesTo_congr (m : Image) {routines others : List Nat}
    (hlt : ∀ t ∈ routines, t < 0x4000000) (h : ∀ t, t ∈ others ↔ t ∈ routines) :
    callSitesTo m others = callSitesTo m routines := by
  obtain ⟨sites, hsites, hmem⟩ := callSitesTo_of_lt m hlt
  obtain ⟨sites', hsites', hmem'⟩ := callSitesTo_of_lt m fun t ht => hlt t ((h t).1 ht)
  have heq : sites' = sites := CallSites.eq_of_mem_iff fun site => by
    rw [hmem, hmem']
    simp only [h]
  rw [hsites, hsites', heq]

/-! ## Targets of calls -/

/-- The word at an index is a `jal` to an address. -/
def Image.LinksTo (m : Image) (k : Nat) (target : UInt32) : Prop :=
  ∃ w, m.get? k = some w ∧ decode w = .ok (.jal target)

/-- The targets of the `jal`s from word `start` to word `stop`, both included. -/
def Image.callees (m : Image) (start stop : Nat) : Set UInt32 :=
  {target | ∃ k, start ≤ k ∧ k ≤ stop ∧ m.LinksTo k target}

theorem calledTarget?_eq_some_iff_decode {w target : UInt32} :
    calledTarget? w = some target ↔ decode w = .ok (.jal target) := by
  constructor
  · intro h
    exact decode_of_encode_jal (calledTarget?_eq_some_iff.1 h)
  · intro h
    rw [calledTarget?, h]
    rfl

/-- The call of a word, by the kind and the target of what it decodes to. -/
theorem calledTarget?_eq_some_iff_kind {w target : UInt32} : calledTarget? w = some target ↔
    ∃ i, decode w = .ok i ∧ i.kind = .jal ∧ i.target = some target := by
  constructor
  · intro h
    exact ⟨.jal target, calledTarget?_eq_some_iff_decode.1 h, rfl, rfl⟩
  · rintro ⟨i, hi, hkind, htarget⟩
    rw [calledTarget?, hi]
    dsimp only
    rw [if_pos hkind, htarget]

theorem Image.mem_extract_iff {m : Image} {start stop : Nat} {w : UInt32} :
    w ∈ (m.words.extract start (stop + 1)).toList ↔
      ∃ k, start ≤ k ∧ k ≤ stop ∧ m.get? k = some w := by
  rw [List.mem_iff_getElem?]
  simp only [Array.getElem?_toList, Array.getElem?_extract]
  constructor
  · rintro ⟨i, hi⟩
    split at hi
    · next hlt => exact ⟨start + i, by omega, by omega, hi⟩
    · cases hi
  · rintro ⟨k, hstart, hstop, hw⟩
    have hlt : k < m.words.size := (Array.getElem?_eq_some_iff.1 hw).1
    refine ⟨k - start, ?_⟩
    rw [if_pos (by omega), Nat.add_sub_cancel' hstart]
    exact hw

theorem mem_calledTargets_iff {m : Image} {start stop : Nat} {target : UInt32} :
    target ∈ calledTargets m start stop ↔ target ∈ m.callees start stop := by
  have htrichotomy : ∀ a b : UInt32, ¬ a < b → ¬ b < a → a = b := fun a b hab hba =>
    UInt32.le_antisymm (UInt32.not_lt.1 hba) (UInt32.not_lt.1 hab)
  rw [calledTargets, Ascending.mem_ofList htrichotomy, List.mem_filterMap]
  constructor
  · rintro ⟨w, hw, htarget⟩
    obtain ⟨k, hstart, hstop, hk⟩ := Image.mem_extract_iff.1 hw
    exact ⟨k, hstart, hstop, w, hk, calledTarget?_eq_some_iff_decode.1 htarget⟩
  · rintro ⟨k, hstart, hstop, w, hk, htarget⟩
    exact ⟨w, Image.mem_extract_iff.2 ⟨k, hstart, hstop, hk⟩,
      calledTarget?_eq_some_iff_decode.2 htarget⟩

theorem pairwise_calledTargets (m : Image) (start stop : Nat) :
    (calledTargets m start stop).Pairwise (· < ·) :=
  Ascending.pairwise_ofList (fun _ _ _ => UInt32.lt_trans) _

/-- **The number of routines that are called** is that of the targets. -/
theorem distinctCalls_eq_ncard (m : Image) (start stop : Nat) :
    distinctCalls m start stop = (m.callees start stop).ncard := by
  -- the list of the targets has each of them once
  have hset : m.callees start stop = ((calledTargets m start stop).toFinset : Set UInt32) := by
    ext target
    rw [Finset.mem_coe, List.mem_toFinset, mem_calledTargets_iff]
  have hnodup : (calledTargets m start stop).Nodup :=
    (pairwise_calledTargets m start stop).imp UInt32.ne_of_lt
  rw [hset, Set.ncard_coe_finset, List.toFinset_card_of_nodup hnodup]
  rfl

/-! ## Longer and shorter stretches -/

theorem Image.linksTo_iff {m : Image} {k : Nat} {target : UInt32} : m.LinksTo k target ↔
    ∃ w i, m.get? k = some w ∧ decode w = .ok i ∧ i.kind = .jal ∧ i.target = some target := by
  simp only [LinksTo, ← calledTarget?_eq_some_iff_decode, calledTarget?_eq_some_iff_kind,
    exists_and_left]

theorem Image.finite_callees (m : Image) (start stop : Nat) : (m.callees start stop).Finite := by
  refine (calledTargets m start stop).finite_toSet.subset ?_
  intro target htarget
  exact mem_calledTargets_iff.2 htarget

theorem Image.callees_subset (m : Image) {start stop start' stop' : Nat} (hstart : start' ≤ start)
    (hstop : stop ≤ stop') : m.callees start stop ⊆ m.callees start' stop' := by
  rintro target ⟨k, hlow, hhigh, hlinks⟩
  exact ⟨k, hstart.trans hlow, hhigh.trans hstop, hlinks⟩

/-- A call in a stretch is in one of its two parts, wherever it is divided. -/
theorem Image.callees_subset_union (m : Image) (start middle stop : Nat) :
    m.callees start stop ⊆ m.callees start middle ∪ m.callees (middle + 1) stop := by
  rintro target ⟨k, hlow, hhigh, hlinks⟩
  by_cases hk : k ≤ middle
  · exact .inl ⟨k, hlow, hk, hlinks⟩
  · exact .inr ⟨k, by omega, hhigh, hlinks⟩

/-- The words from one index to another, both included, if they are in the image.  There are
none if the range ends just before it starts, and no such range if it ends earlier. -/
def Image.span? (m : Image) (first last : Nat) : Option (List UInt32) :=
  if first ≤ last + 1 ∧ last + 1 ≤ m.size then some (m.words.extract first (last + 1)).toList
  else none

/-- **The range may be cut off at the last word**; if there are no such words, nothing is
called. -/
theorem distinctCalls_eq_span? (m : Image) (start stop : Nat) :
    distinctCalls m start stop = (m.span? start (min stop (m.size - 1))).elim 0 fun ws =>
      (Ascending.ofList (ws.filterMap calledTarget?)).length := by
  have hsize : m.words.size = m.size := rfl
  rw [distinctCalls, calledTargets, Image.span?]
  by_cases hrange : start ≤ min stop (m.size - 1) + 1 ∧ min stop (m.size - 1) + 1 ≤ m.size
  · rw [if_pos hrange]
    -- what is cut off lies behind the image
    have hextract : m.words.extract start (stop + 1) =
        m.words.extract start (min stop (m.size - 1) + 1) := by
      apply Array.ext_getElem?
      intro i
      simp only [Array.getElem?_extract]
      congr 1
      apply propext
      omega
    rw [hextract]
    rfl
  · rw [if_neg hrange]
    have hempty : m.words.extract start (stop + 1) = #[] := by
      apply Array.extract_eq_empty_of_le
      omega
    rw [hempty]
    rfl

/-- **How many routines a stretch of code calls**, in any image and whatever its ends are.  It is
the number of targets of the calls in it, also if the stretch is cut off at the last word of the
image first.  A longer stretch calls at least as many, and the two parts of a stretch together do
so too. -/
theorem distinctCalls_of_range (m : Image) (start stop : Nat) :
    distinctCalls m start stop =
      {target | ∃ k w i, start ≤ k ∧ k ≤ stop ∧ k < m.size ∧ m.get? k = some w ∧
        decode w = .ok i ∧ i.kind = .jal ∧ i.target = some target}.ncard ∧
    distinctCalls m start stop = ((m.span? start (min stop (m.size - 1))).elim 0 fun ws =>
      (Ascending.ofList (ws.filterMap calledTarget?)).length) ∧
    (∀ start' stop', start' ≤ start → stop ≤ stop' →
      distinctCalls m start stop ≤ distinctCalls m start' stop') ∧
    ∀ middle, distinctCalls m start stop ≤
      distinctCalls m start middle + distinctCalls m (middle + 1) stop := by
  refine ⟨?_, distinctCalls_eq_span? m start stop, ?_⟩
  · rw [distinctCalls_eq_ncard]
    congr 1
    ext target
    constructor
    · rintro ⟨k, hlow, hhigh, hlinks⟩
      obtain ⟨w, i, hw, hi⟩ := Image.linksTo_iff.1 hlinks
      exact ⟨k, w, i, hlow, hhigh, (Array.getElem?_eq_some_iff.1 hw).1, hw, hi⟩
    · rintro ⟨k, w, i, hlow, hhigh, -, hw, hi⟩
      exact ⟨k, hlow, hhigh, Image.linksTo_iff.2 ⟨w, i, hw, hi⟩⟩
  · simp only [distinctCalls_eq_ncard]
    constructor
    · intro start' stop' hstart hstop
      exact Set.ncard_le_ncard (m.callees_subset hstart hstop) (m.finite_callees start' stop')
    · intro middle
      have hfinite := (m.finite_callees start middle).union (m.finite_callees (middle + 1) stop)
      calc (m.callees start stop).ncard
          ≤ (m.callees start middle ∪ m.callees (middle + 1) stop).ncard :=
            Set.ncard_le_ncard (m.callees_subset_union start middle stop) hfinite
        _ ≤ (m.callees start middle).ncard + (m.callees (middle + 1) stop).ncard :=
            Set.ncard_union_le _ _

-- a word that does not decode is passed over, and a target that is called twice counts once
example : distinctCalls ⟨#[0x0C000010, 0, 0x0C000010, 0x46000000, 0x0C000020]⟩ 0 4 = 2 := by
  decide +kernel

end PadScout
