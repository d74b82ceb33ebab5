import PadScout.Proofs.Mips.Blank
import PadScout.Proofs.Pattern.Entries

/-! # The code behind the patterns

Each pattern is the code of a routine with blanks for the operands that vary from game to game
(`Routine.listing`): the values and masks of its slots are what the instructions of the listing
make of them (`Routine.slots_listing`).  Hence a slot fits just the words that decode to such an
instruction with something in the blanks, and a match is a row of words that decode to the listing
(`Routine.matchesAt_iff_completes`).

No two listings agree in their first two lines (`Routine.exists_apart`), so whatever matches at a
place, it is one routine only.
-/
namespace PadScout

open Mips
open Mips.Instruction (ofKind)

/-! ## Slots of instructions -/

namespace Mips.Instruction

/-- The slot of an instruction: what is given is fixed, the blanks are variable. -/
def slot (t : Instruction) : Except EncodeError Slot :=
  match t.outline with
  | .ok v => .ok ⟨v, t.blankMask⟩
  | .error e => .error e

variable {i t t' : Instruction} {s : Slot} {w : UInt32}

theorem slot_eq_ok_iff : t.slot = .ok s ↔ t.outline = .ok s.value ∧ t.blankMask = s.mask := by
  rw [slot]
  cases t.outline with
  | error e => simp
  | ok v => exact ⟨by rintro ⟨⟩; exact ⟨rfl, rfl⟩, by rintro ⟨⟨⟩, hmask⟩; rw [hmask]⟩

/-- **A slot fits the words of its instruction**, with whatever is in the blanks. -/
theorem fits_slot_iff (hkind : t.kind ≠ .sll) (hs : t.slot = .ok s) :
    s.fits w = true ↔ ∃ i, decode w = .ok i ∧ i.Completes t := by
  obtain ⟨hvalue, hmask⟩ := slot_eq_ok_iff.1 hs
  rw [exists_completes_iff hkind hvalue, Slot.fits_iff, hmask]

/-- Two instructions with blanks that nothing completes both. -/
def Apart (t t' : Instruction) : Prop :=
  t.kind ≠ t'.kind ∨ ∃ f ∈ t.given, f ∈ t'.given ∧ t.operand f ≠ t'.operand f

instance (t t' : Instruction) : Decidable (Apart t t') := inferInstanceAs (Decidable (_ ∨ _))

theorem Apart.not_completes (h : t.Apart t') (hi : i.Completes t) : ¬ i.Completes t' := by
  intro hi'
  rcases h with hkind | ⟨f, hf, hf', hoperand⟩
  · exact hkind (hi.kind.symm.trans hi'.kind)
  · apply hoperand
    rw [← operand_congr hi.kind (hi.given f hf), operand_congr hi'.kind (hi'.given f hf')]

end Mips.Instruction

/-! ## Listings -/

namespace Routine

/-- `mfc0 _, Status` and `mtc0 _, Status`. -/
def statusLine (k : Kind) : Instruction := { ofKind k with system := some (.ofBits 12) }

/-- `addiu _, _, n`. -/
def addLine (n : Int16) : Instruction := { ofKind .addiu with imm := some n }

/-- `cache op, n(_)`. -/
def cacheLine (op : UInt32) (n : Int16) : Instruction :=
  { ofKind .cache with cache := some (.ofBits op), imm := some n }

/-- `beq _, zero, n` and `bne _, zero, n`. -/
def branchLine (k : Kind) (n : Int32) : Instruction :=
  { ofKind k with rt := some .zero, offset := some n }

/-- The loop over the whole cache. -/
def indexLoopListing : List Instruction :=
  [{ ofKind .lui with imm := some (-0x8000) }, ofKind .addu, addLine (-0x10), cacheLine 0b00001 0,
   ofKind .sltu, branchLine .bne (-0xC), addLine 0x10, .jr .ra, .nop]

/-- **The code of a routine**, as far as it is fixed. -/
def listing : Routine → List Instruction
  | getCount => [{ ofKind .mfc0 with rt := some (.ofBits 2), system := some (.ofBits 9) }, .jr .ra, .nop]
  | disableInterrupts =>
    [statusLine .mfc0, { ofKind .addiu with rs := some .zero, imm := some (-2) }, ofKind .and,
     statusLine .mtc0, { ofKind .andi with rt := some (.ofBits 2), imm := some 1 }]
  | restoreInterrupts =>
    [statusLine .mfc0, { ofKind .or with rt := some .a0 }, statusLine .mtc0, .nop, .nop, .jr .ra,
     .nop]
  | writebackCache =>
    [ofKind .subu, cacheLine 0b11001 0, ofKind .sltu, branchLine .bne (-0xC), addLine 0x10,
     .jr .ra, .nop] ++ indexLoopListing
  | invalidateCache =>
    [ofKind .subu, cacheLine 0b10101 0, ofKind .sltu, branchLine .beq 0x38, .nop, addLine 0x10,
     { ofKind .andi with imm := some 0xF }, branchLine .beq 0x18, .nop, ofKind .subu,
     cacheLine 0b10101 0x10, ofKind .sltu, branchLine .bne 0x14, .nop, cacheLine 0b10001 0,
     ofKind .sltu, branchLine .bne (-0xC), addLine 0x10, .jr .ra, .nop] ++ indexLoopListing
  | gpSetup =>
    [{ ofKind .lui with rt := some .gp }, .jr .ra,
     { ofKind .addiu with rs := some .gp, rt := some .gp }]

/-- **The slots of a pattern are those of its listing.** -/
theorem slots_listing (r : Routine) :
    r.listing.map Instruction.slot = r.signature.pattern.slots.map .ok := by
  cases r <;> decide

theorem kind_ne_sll (r : Routine) : ∀ t ∈ r.listing, t.kind ≠ .sll := by
  cases r <;> decide

/-- **Two routines differ in their first or second line.** -/
theorem exists_apart {r r' : Routine} (h : r ≠ r') :
    ∃ j < 2, ∃ t ∈ r.listing[j]?, ∃ t' ∈ r'.listing[j]?, t.Apart t' := by
  revert h
  cases r <;> cases r' <;> decide

section Matches
variable {r r' : Routine} {m m' : Image} {start start' j : Nat}

/-- Each line of the listing has its slot. -/
theorem exists_slot {t : Instruction} (ht : r.listing[j]? = some t) :
    ∃ s, r.signature.pattern.slots[j]? = some s ∧ t.slot = .ok s := by
  have hj := congrArg (·[j]?) r.slots_listing
  simp only [List.getElem?_map, ht, Option.map_some] at hj
  obtain ⟨s, hs, hslot⟩ := Option.map_eq_some_iff.1 hj.symm
  exact ⟨s, hs, hslot.symm⟩

/-- Each slot has its line of the listing. -/
theorem exists_line {s : Slot} (hs : r.signature.pattern.slots[j]? = some s) :
    ∃ t, r.listing[j]? = some t ∧ t.slot = .ok s := by
  have hj := congrArg (·[j]?) r.slots_listing
  simp only [List.getElem?_map, hs, Option.map_some] at hj
  exact Option.map_eq_some_iff.1 hj

theorem length_listing (r : Routine) : r.listing.length = r.signature.pattern.length := by
  have hlength := congrArg List.length r.slots_listing
  rwa [List.length_map, List.length_map] at hlength

/-- **A match is a row of words that decode to the listing.** -/
theorem matchesAt_iff_completes : r.signature.pattern.matchesAt m start = true ↔
    start + r.listing.length ≤ m.size ∧ ∀ j t, r.listing[j]? = some t →
      ∃ w i, m.get? (start + j) = some w ∧ decode w = .ok i ∧ i.Completes t := by
  rw [Pattern.matchesAt, Bool.and_eq_true, decide_eq_true_eq, Pattern.fitsFrom_iff, length_listing]
  refine and_congr_right fun _ => ⟨fun h j t ht => ?_, fun h j s hs => ?_⟩
  · obtain ⟨s, hs, hslot⟩ := exists_slot ht
    obtain ⟨w, hw, hfits⟩ := h j s hs
    have hkind := r.kind_ne_sll t (List.mem_of_getElem? ht)
    obtain ⟨i, hi, hcompletes⟩ := (Instruction.fits_slot_iff hkind hslot).1 hfits
    exact ⟨w, i, hw, hi, hcompletes⟩
  · obtain ⟨t, ht, hslot⟩ := exists_line hs
    obtain ⟨w, i, hw, hi, hcompletes⟩ := h j t ht
    have hkind := r.kind_ne_sll t (List.mem_of_getElem? ht)
    exact ⟨w, hw, (Instruction.fits_slot_iff hkind hslot).2 ⟨i, hi, hcompletes⟩⟩

/-- The mask of a slot consists of the fields of the blanks. -/
theorem mask_and_mask_of_slot {t : Instruction} {s : Slot} (hslot : t.slot = .ok s) {f : Field}
    (hf : f ∈ t.kind.layout.fields) : f.mask &&& s.mask = if t.has f then 0 else f.mask := by
  rw [← (Instruction.slot_eq_ok_iff.1 hslot).2]
  cases hhas : t.has f with
  | true => exact Instruction.mask_and_blankMask (Instruction.mem_given.2 ⟨hf, hhas⟩)
  | false => exact Instruction.mask_and_blankMask_of_mem (Instruction.mem_blanks.2 ⟨hf, hhas⟩)

/-- **Two matches differ in the masked operands only.** -/
theorem sameAt_of_matchesAt (h : r.signature.pattern.matchesAt m start = true)
    (h' : r.signature.pattern.matchesAt m' start' = true) {s : Slot}
    (hs : r.signature.pattern.slots[j]? = some s) :
    ∃ w i w' i', m.get? (start + j) = some w ∧ decode w = .ok i ∧
      m'.get? (start' + j) = some w' ∧ decode w' = .ok i' ∧ i.kind = i'.kind ∧
      ∀ f ∈ i.kind.layout.fields, f.mask &&& s.mask = 0 → i.SameAt i' f := by
  obtain ⟨t, ht, hslot⟩ := exists_line hs
  obtain ⟨w, i, hw, hi, hcompletes⟩ := (matchesAt_iff_completes.1 h).2 j t ht
  obtain ⟨w', i', hw', hi', hcompletes'⟩ := (matchesAt_iff_completes.1 h').2 j t ht
  refine ⟨w, i, w', i', hw, hi, hw', hi', hcompletes.kind.trans hcompletes'.kind.symm,
    fun f hf hunmasked => ?_⟩
  rw [hcompletes.kind] at hf
  have hgiven : f ∈ t.given := by
    refine Instruction.mem_given.2 ⟨hf, ?_⟩
    rw [mask_and_mask_of_slot hslot hf] at hunmasked
    by_contra hlacks
    rw [if_neg hlacks] at hunmasked
    exact f.mask_ne_zero hunmasked
  exact (hcompletes.given f hgiven).trans (hcompletes'.given f hgiven).symm

/-- **No place matches two patterns.** -/
theorem eq_of_matchesAt (h : r.signature.pattern.matchesAt m start = true)
    (h' : r'.signature.pattern.matchesAt m start = true) : r' = r := by
  by_contra hne
  obtain ⟨j, -, t', ht', t, ht, hapart⟩ := exists_apart hne
  obtain ⟨w, i, hw, hi, hcompletes⟩ := (matchesAt_iff_completes.1 h).2 j t ht
  obtain ⟨w', i', hw', hi', hcompletes'⟩ := (matchesAt_iff_completes.1 h').2 j t' ht'
  obtain rfl := Option.some.inj (hw.symm.trans hw')
  obtain rfl := Except.ok.inj (hi.symm.trans hi')
  exact hapart.not_completes hcompletes' hcompletes

end Matches

/-- **Patterns match code.**  A pattern matches at a place just if the words from there on decode,
one by one, to the instructions of the listing with something in the blanks.  The masked bits are
the fields of the blanks, whole and nothing beside them.  So any two matches, in whatever images,
show the same kinds of instructions with the same operands in all fields that are not masked.
Where the pattern of one routine matches, that of no other does. -/
theorem matches_listing (r : Routine) (m : Image) (start : Nat) :
    (r.signature.pattern.matchesAt m start = true ↔
      start + r.listing.length ≤ m.size ∧ ∀ j t, r.listing[j]? = some t →
        ∃ w i, m.get? (start + j) = some w ∧ decode w = .ok i ∧ i.Completes t) ∧
    (r.listing.length = r.signature.pattern.length ∧
      ∀ (j : Nat) (s : Slot) (t : Instruction), r.signature.pattern.slots[j]? = some s →
        r.listing[j]? = some t →
        s.mask &&& ~~~t.kind.operandMask = 0 ∧
        ∀ f ∈ t.kind.layout.fields, f.mask &&& s.mask = if t.has f then 0 else f.mask) ∧
    (∀ m' start', r.signature.pattern.matchesAt m start = true →
      r.signature.pattern.matchesAt m' start' = true →
      ∀ (j : Nat) (s : Slot), r.signature.pattern.slots[j]? = some s →
        ∃ w i w' i', m.get? (start + j) = some w ∧ decode w = .ok i ∧
          m'.get? (start' + j) = some w' ∧ decode w' = .ok i' ∧ i.kind = i'.kind ∧
          ∀ f ∈ i.kind.layout.fields, f.mask &&& s.mask = 0 → i.SameAt i' f) ∧
    ∀ r' : Routine, r.signature.pattern.matchesAt m start = true →
      r'.signature.pattern.matchesAt m start = true → r' = r := by
  refine ⟨matchesAt_iff_completes, ⟨r.length_listing, fun j s t hs ht => ?_⟩,
    fun m' start' h h' j s => sameAt_of_matchesAt h h', fun r' => eq_of_matchesAt⟩
  obtain ⟨t', ht', hslot⟩ := exists_line hs
  obtain rfl := Option.some.inj (ht.symm.trans ht')
  refine ⟨?_, fun f => mask_and_mask_of_slot hslot⟩
  rw [← (Instruction.slot_eq_ok_iff.1 hslot).2]
  exact t.blankMask_and_not_operandMask

/-- The global pointer is set up behind a word that does nothing. -/
theorem matches_listing_gpSetup :
    let m : Image := ⟨#[0, 0x3C1C8010, 0x03E00008, 0x279C8010]⟩
    gpSetup.signature.pattern.matchesAt m 1 = true ∧
      (∃ i, decode 0x279C8010 = .ok i ∧
        i.Completes { ofKind .addiu with rs := some .gp, rt := some .gp }) ∧
      ∀ r' : Routine, r'.signature.pattern.matchesAt m 1 = true → r' = gpSetup := by
  intro m
  have hmatch : gpSetup.signature.pattern.matchesAt m 1 = true := by decide
  obtain ⟨hlines, -, -, honly⟩ := matches_listing gpSetup m 1
  obtain ⟨w, i, hw, hi, hcompletes⟩ := (hlines.1 hmatch).2 2 _ rfl
  obtain rfl := Option.some.inj hw
  exact ⟨hmatch, ⟨i, hi, hcompletes⟩, fun r' => honly r' hmatch⟩

end Routine
end PadScout
