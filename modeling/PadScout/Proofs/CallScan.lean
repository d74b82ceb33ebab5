import PadScout.Proofs.CallRegion
import PadScout.Proofs.Pattern.Entries

/-! # Three ways to look for calls

The calls to some routines are found in one pass that compares each word of the image with the
words of all these calls.  The same sites come out if one looks for the word of each call by
itself, or for the pattern that consists of this word (`Pattern.occurrences_literal`), and they
are the sites whose word decodes to a call of one of the routines.  `CallSites.Lists` says all
this of a set of call sites.

The pass fails just if some routine lies beyond the reach of calls, and then there is no word to
look for (`callTo_of_ge`).
-/
namespace PadScout

open Mips

/-! ## Words and patterns of one word -/

theorem Image.mem_indicesOf_iff {m : Image} {i : Nat} {w : UInt32} :
    i ∈ m.indicesOf w ↔ m.get? i = some w := by
  rw [indicesOf, indicesWhere, Ascending.mem_below, Option.any_eq_true]
  constructor
  · rintro ⟨-, v, hv, heq⟩
    rw [hv, eq_of_beq heq]
  · intro hw
    exact ⟨(Array.getElem?_eq_some_iff.1 hw).1, w, hw, beq_self_eq_true w⟩

theorem Slot.fits_literal_iff {v w : UInt32} : (Slot.literal v).fits w = true ↔ w = v := by
  have hall : w &&& ~~~ 0 = w := UInt32.and_neg_one
  rw [Slot.fits_iff]
  change w &&& ~~~ 0 = v ∧ (0 = 0 ∨ _) ↔ _
  rw [hall]
  exact and_iff_left (.inl rfl)

namespace Pattern

/-- **The pattern of one word** is found where the word is. -/
theorem occurrences_literal (m : Image) (w : UInt32) :
    (literal [w]).occurrences m = m.indicesOf w := by
  refine (pairwise_occurrences _ m).eq_of_mem_iff (Ascending.pairwise_below _ _) fun i => ?_
  have hmatches : (literal [w]).MatchesAt m i ↔ m.get? i = some w := by
    rw [← matchesAt_iff, matchesAt, Bool.and_eq_true, decide_eq_true_eq]
    change i + 1 ≤ m.size ∧ ((m.get? i).any (Slot.literal w).fits && true) = true ↔ _
    rw [Bool.and_true, Option.any_eq_true]
    constructor
    · rintro ⟨-, v, hv, hfits⟩
      rw [hv, Slot.fits_literal_iff.1 hfits]
    · intro hw
      exact ⟨(Array.getElem?_eq_some_iff.1 hw).1, w, hw, Slot.fits_literal_iff.2 rfl⟩
  rw [mem_occurrences_iff, hmatches]
  exact (and_iff_right (List.cons_ne_nil _ _)).trans Image.mem_indicesOf_iff.symm

end Pattern

/-! ## Words of calls -/

/-- What a call of a routine is, by what its word decodes to. -/
theorem Image.calls_iff {m : Image} {site routine : Nat} : m.Calls site routine ↔
    ∃ w i target, m.get? site = some w ∧ decode w = .ok i ∧ i.kind = .jal ∧
      i.target = some target ∧ target.toNat = 4 * routine := by
  constructor
  · rintro ⟨w, target, hw, hcalled, htarget⟩
    obtain ⟨i, hi, hkind, hcalled⟩ := calledTarget?_eq_some_iff_kind.1 hcalled
    exact ⟨w, i, target, hw, hi, hkind, hcalled, htarget⟩
  · rintro ⟨w, i, target, hw, hi, hkind, hcalled, htarget⟩
    exact ⟨w, target, hw, calledTarget?_eq_some_iff_kind.2 ⟨i, hi, hkind, hcalled⟩, htarget⟩

/-- Beyond the reach of calls there is no word for a call, also where the address cannot be
written down. -/
theorem callTo_of_ge {index : Nat} (h : 0x4000000 ≤ index) :
    callTo index = .error (.encode (.outOfRange .jal .target (callTarget index).toNat)) := by
  have hlarge : 0x10000000 ≤ (callTarget index).toNat := by
    rw [callTarget]
    by_cases hfits : 4 * index < UInt32.size
    · rw [if_pos hfits, UInt32.toNat_ofNat_of_lt' hfits]
      omega
    · rw [if_neg hfits]
      decide
  have hjump : ¬ jumpFits (callTarget index) = true := by
    intro hjump
    rw [jumpFits, Bool.and_eq_true, decide_eq_true_eq, UInt32.lt_iff_toNat_lt] at hjump
    exact absurd hjump.2 (Nat.not_lt.2 hlarge)
  have hoperand : (Instruction.jal (callTarget index)).operand .target =
      .error (.outOfRange .jal .target (callTarget index).toNat) := if_neg hjump
  have hencode : (Instruction.jal (callTarget index)).encode =
      .error (.outOfRange .jal .target (callTarget index).toNat) := by
    rw [Instruction.encode]
    change (Instruction.jal (callTarget index)).pack [.target] _ = _
    rw [Instruction.pack, hoperand]
  rw [callTo, hencode]

theorem exists_error_callsTo {routines : List Nat} {t : Nat} (ht : t ∈ routines)
    (hfar : 0x4000000 ≤ t) : ∃ e, callsTo routines = .error e := by
  induction routines with
  | nil => cases ht
  | cons first routines ih =>
    rw [callsTo]
    cases hfirst : callTo first with
    | error e => exact ⟨e, rfl⟩
    | ok w =>
      rcases List.mem_cons.1 ht with rfl | ht
      · rw [callTo_of_ge hfar] at hfirst
        cases hfirst
      · obtain ⟨e, he⟩ := ih ht
        rw [he]
        exact ⟨e, rfl⟩

/-! ## The calls of some routines -/

section
variable {m : Image} {routines : List Nat} {sites : CallSites}

/-- **The search fails** just if some routine is out of reach. -/
theorem exists_error_callSitesTo_iff :
    (∃ e, callSitesTo m routines = .error e) ↔ ∃ t ∈ routines, 0x4000000 ≤ t := by
  constructor
  · rintro ⟨e, he⟩
    by_contra hnear
    have hlt : ∀ t ∈ routines, t < 0x4000000 := fun t ht =>
      Nat.lt_of_not_le fun hfar => hnear ⟨t, ht, hfar⟩
    obtain ⟨sites, hsites, -⟩ := callSitesTo_of_lt m hlt
    rw [hsites] at he
    cases he
  · rintro ⟨t, ht, hfar⟩
    obtain ⟨e, he⟩ := exists_error_callsTo ht hfar
    rw [callSitesTo, he]
    exact ⟨e, rfl⟩

theorem lt_of_callSitesTo (h : callSitesTo m routines = .ok sites) :
    ∀ t ∈ routines, t < 0x4000000 := by
  intro t ht
  refine Nat.lt_of_not_le fun hfar => ?_
  obtain ⟨e, he⟩ := exists_error_callSitesTo_iff.2 ⟨t, ht, hfar⟩
  rw [h] at he
  cases he

theorem mem_of_callSitesTo (h : callSitesTo m routines = .ok sites) {site : Nat} :
    site ∈ sites.toList ↔ ∃ t ∈ routines, m.Calls site t := by
  obtain ⟨sites', hsites', hmem⟩ := callSitesTo_of_lt m (lt_of_callSitesTo h)
  rw [h] at hsites'
  cases hsites'
  exact hmem site

/-- A routine in reach is called where the word of a call to it is. -/
theorem calls_iff_indicesOf {site t : Nat} (ht : t < 0x4000000) :
    m.Calls site t ↔ ∃ w, callTo t = .ok w ∧ site ∈ m.indicesOf w := by
  simp only [callTo_eq_ok_iff ht, Image.mem_indicesOf_iff]
  constructor
  · rintro ⟨w, target, hw, hcalled, htarget⟩
    exact ⟨w, ⟨target, hcalled, htarget⟩, hw⟩
  · rintro ⟨w, ⟨target, hcalled, htarget⟩, hw⟩
    exact ⟨w, target, hw, hcalled, htarget⟩

end

/-- **A set of call sites lists the calls of some routines**, however one looks for them. -/
structure CallSites.Lists (s : CallSites) (m : Image) (routines : List Nat) : Prop where
  /-- By decoding each word. -/
  decoded : ∀ site, site ∈ s.toList ↔ ∃ t ∈ routines, ∃ w i target, m.get? site = some w ∧
    decode w = .ok i ∧ i.kind = .jal ∧ i.target = some target ∧ target.toNat = 4 * t
  /-- By looking for the word of a call to each routine. -/
  scanned : ∀ site, site ∈ s.toList ↔
    ∃ t ∈ routines, ∃ w, callTo t = .ok w ∧ site ∈ m.indicesOf w
  /-- By looking for the pattern of such a word. -/
  matched : ∀ site, site ∈ s.toList ↔
    ∃ t ∈ routines, ∃ w, callTo t = .ok w ∧ site ∈ (Pattern.literal [w]).occurrences m

/-- **The calls of any routines**: the search fails just if one of them is out of reach, and
otherwise lists the calls.  Neither order nor repetition of the routines matters. -/
theorem callSitesTo_settled (m : Image) (routines : List Nat) :
    ((∃ e, callSitesTo m routines = .error e) ↔ ∃ t ∈ routines, 0x4000000 ≤ t) ∧
    (∀ sites, callSitesTo m routines = .ok sites → sites.Lists m routines) ∧
    ∀ others, (∀ t, t ∈ others ↔ t ∈ routines) →
      ∀ sites, callSitesTo m others = .ok sites ↔ callSitesTo m routines = .ok sites := by
  refine ⟨exists_error_callSitesTo_iff, fun sites hsites => ?_, fun others hothers sites => ?_⟩
  · have hscanned : ∀ site, site ∈ sites.toList ↔
        ∃ t ∈ routines, ∃ w, callTo t = .ok w ∧ site ∈ m.indicesOf w := by
      intro site
      rw [mem_of_callSitesTo hsites]
      exact exists_congr fun t => and_congr_right fun ht =>
        calls_iff_indicesOf (lt_of_callSitesTo hsites t ht)
    refine ⟨fun site => ?_, hscanned, fun site => ?_⟩
    · simp only [mem_of_callSitesTo hsites, Image.calls_iff]
    · simp only [hscanned, Pattern.occurrences_literal]
  · constructor
    · intro hsites
      rw [← hsites]
      exact callSitesTo_congr m (lt_of_callSitesTo hsites) fun t => (hothers t).symm
    · intro hsites
      rw [← hsites]
      exact callSitesTo_congr m (lt_of_callSitesTo hsites) hothers

-- two calls and a jump
example : (callSitesTo ⟨#[0x0C000020, 0, 0x0C000030, 0x08000020]⟩ [0x30, 0x20, 0x30]).toOption.map
    CallSites.toList = some [0, 2] := by decide +kernel

end PadScout
