import PadScout.Proofs.Mips.Acceptance

/-! # Instructions with blanks

An instruction that lacks some operands of its layout stands for all instructions that have
anything in these places, its blanks (`Instruction.Completes`).  What is given leaves its mark in
the word: the words that decode to such an instruction are those that agree, outside of the fields
of the blanks, with the word that has zeros there (`Instruction.exists_completes_iff`).
-/
namespace PadScout
namespace Mips
namespace Instruction

/-- The fields of the layout whose operands are there. -/
def given (t : Instruction) : List Field := t.kind.layout.fields.filter fun f => t.has f

/-- The fields of the layout whose operands are missing. -/
def blanks (t : Instruction) : List Field := t.kind.layout.fields.filter fun f => !t.has f

/-- The bits of the blanks. -/
def blankMask (t : Instruction) : UInt32 := t.blanks.foldl (fun m f => m ||| f.mask) 0

/-- The word with the operands that are given, and zeros in the blanks. -/
def outline (t : Instruction) : Except EncodeError UInt32 := t.pack t.given t.kind.selector

/-- **An instruction with operands in the blanks** of another one.  Not all of them may be
zero. -/
structure Completes (i t : Instruction) : Prop where
  kind : i.kind = t.kind
  given : ∀ f ∈ t.given, i.SameAt t f
  filled : t.blanks = [] ∨ ∃ f ∈ t.blanks, i.operand f ≠ .ok 0

variable {i j t : Instruction} {v w : UInt32} {f : Field}

theorem mem_given : f ∈ t.given ↔ f ∈ t.kind.layout.fields ∧ t.has f = true := by
  rw [given, List.mem_filter]

theorem mem_blanks : f ∈ t.blanks ↔ f ∈ t.kind.layout.fields ∧ t.has f = false := by
  rw [blanks, List.mem_filter, Bool.not_eq_true']

/-! ## The fields of the blanks -/

theorem bit_blankMask {b : Nat} : Word.bit t.blankMask b = true ↔
    ∃ f ∈ t.blanks, f.low.toNat ≤ b ∧ b < f.low.toNat + f.width.toNat := by
  rw [blankMask, Kind.bit_foldl_mask, Word.bit_zero]
  simp

/-- The fields that are given are apart from the blanks. -/
theorem mask_and_blankMask (h : f ∈ t.given) : f.mask &&& t.blankMask = 0 := by
  obtain ⟨hf, hhas⟩ := mem_given.1 h
  rw [Word.and_eq_zero_iff]
  intro b hbit
  rw [Bool.eq_false_iff, ne_eq, bit_blankMask]
  rintro ⟨g, hg, hin⟩
  obtain ⟨hg, hlacks⟩ := mem_blanks.1 hg
  have hne : f ≠ g := by
    rintro rfl
    rw [hhas] at hlacks
    cases hlacks
  have hapart := Word.and_eq_zero_iff.1 (t.kind.layout.mask_and_mask hf hg hne) b hbit
  rw [g.bit_mask, decide_eq_true hin] at hapart
  cases hapart

/-- The blanks are whole fields. -/
theorem mask_and_blankMask_of_mem (h : f ∈ t.blanks) : f.mask &&& t.blankMask = f.mask := by
  apply Word.ext
  intro b _
  rw [Word.bit_and]
  by_cases hin : f.low.toNat ≤ b ∧ b < f.low.toNat + f.width.toNat
  · rw [bit_blankMask.2 ⟨f, h, hin⟩, Bool.and_true]
  · rw [f.bit_mask, decide_eq_false hin, Bool.false_and]

/-- The blanks are fields of the layout and nothing else. -/
theorem blankMask_and_not_operandMask (t : Instruction) :
    t.blankMask &&& ~~~t.kind.operandMask = 0 := by
  rw [Word.and_eq_zero_iff]
  intro b hb
  obtain ⟨f, hf, hin⟩ := bit_blankMask.1 hb
  rw [Word.bit_not, (t.kind.bit_operandMask b).2 ⟨f, (mem_blanks.1 hf).1, hin⟩, Bool.not_true,
    Bool.and_false]

theorem extract_eq_zero_iff : f.extract w = 0 ↔ w &&& f.mask = 0 := by
  rw [← f.extract_shiftLeft]
  constructor
  · intro h
    rw [h, UInt32.zero_shiftLeft]
  · intro h
    have hmask : w &&& f.mask = (0 : UInt32) <<< f.low := by
      rw [← f.extract_shiftLeft, h, UInt32.zero_shiftLeft]
    exact Field.extract_eq_of_and_mask (Nat.two_pow_pos _) hmask

/-- A word is apart from the blanks if it is from the field of each of them. -/
theorem and_blankMask_eq_zero_iff : w &&& t.blankMask = 0 ↔ ∀ f ∈ t.blanks, f.extract w = 0 := by
  simp only [extract_eq_zero_iff, Word.and_eq_zero_iff]
  constructor
  · intro h f hf b hw
    have hblank := h b hw
    rw [f.bit_mask, decide_eq_false_iff_not]
    intro hin
    rw [bit_blankMask.2 ⟨f, hf, hin⟩] at hblank
    cases hblank
  · intro h b hw
    rw [Bool.eq_false_iff, ne_eq, bit_blankMask]
    rintro ⟨f, hf, hin⟩
    have hbit := h f hf b hw
    rw [f.bit_mask, decide_eq_true hin] at hbit
    cases hbit

theorem blankMask_eq_zero_iff : t.blankMask = 0 ↔ t.blanks = [] := by
  constructor
  · intro h
    rw [List.eq_nil_iff_forall_not_mem]
    intro f hf
    have hmask := mask_and_blankMask_of_mem hf
    rw [h, UInt32.and_zero] at hmask
    exact f.mask_ne_zero hmask.symm
  · intro h
    rw [blankMask, h]
    rfl

/-! ## Words -/

theorem SameAt.symm (h : i.SameAt j f) : j.SameAt i f := by
  cases f <;> exact Eq.symm h

theorem SameAt.trans {k : Instruction} (hij : i.SameAt j f) (hjk : j.SameAt k f) :
    i.SameAt k f := by
  cases f <;> exact Eq.trans hij hjk

/-- Operands with the same bits are the same. -/
theorem sameAt_of_operand (hi : i.operand f = .ok (f.extract w))
    (hj : j.operand f = .ok (f.extract w)) : i.SameAt j f := by
  have hsame := sameAt_takeOver i i f
  rw [← readField_eq_takeOver hi, readField_eq_takeOver hj] at hsame
  exact hsame.symm.trans (sameAt_takeOver j i f)

/-- A word carries what is given, beside the selector and whatever is in the blanks. -/
def CarriedBy (t : Instruction) (w : UInt32) : Prop :=
  Canonical t.kind w ∧ ∀ f ∈ t.given, t.operand f = .ok (f.extract w)

/-- **Words that decode to an instruction with the given operands.**  The shift that is `nop`
when nothing is shifted is left aside. -/
theorem exists_decode_iff_carriedBy (hkind : t.kind ≠ .sll) :
    (∃ i, decode w = .ok i ∧ i.kind = t.kind ∧ ∀ f ∈ t.given, i.SameAt t f) ↔ t.CarriedBy w := by
  constructor
  · rintro ⟨i, hi, hk, hsame⟩
    have hencode := (has_and_encode_of_decode hi).2
    refine ⟨hk ▸ canonical_of_encode hencode, fun f hf => ?_⟩
    rw [← operand_congr hk (hsame f hf)]
    exact operand_of_encode hencode f (hk ▸ (mem_given.1 hf).1)
  · rintro ⟨hcanonical, hoperands⟩
    have hencode := (Kind.encode_ofFields_eq_iff t.kind w).2 hcanonical
    have htrimmed := ofFields_eq_trimmed hencode
    rw [kind_ofFields] at htrimmed
    refine ⟨ofFields t.kind w, decode_eq_of_encode hencode ?_ htrimmed.symm,
      kind_ofFields t.kind w, fun f hf => ?_⟩
    · rwa [kind_ofFields]
    · exact sameAt_of_operand (operand_ofFields (mem_given.1 hf).1 w) (hoperands f hf)

theorem carriedBy_outline (hv : t.outline = .ok v) : t.CarriedBy v ∧ v &&& t.blankMask = 0 := by
  have hsub : t.given ⊆ t.kind.layout.fields := List.filter_subset_self _
  have hselector : ∀ m, (∀ f ∈ t.given, f.mask &&& m = 0) → v &&& m = t.kind.selector &&& m :=
    fun m hm => and_of_pack hv hm
  refine ⟨⟨?_, ?_⟩, ?_⟩
  · rw [Canonical, hselector _ fun f hf => t.kind.mask_and_not_operandMask (hsub hf)]
    have hown := Word.not_and_of_apart t.kind.operandMask_and_selector
    rwa [UInt32.and_comm] at hown
  · exact operand_of_pack hv (t.kind.layout.pairwise_fields.filter _)
      fun f hf => t.kind.selector_and_mask f (hsub hf)
  · rw [hselector _ fun f hf => mask_and_blankMask hf, and_blankMask_eq_zero_iff]
    intro f hf
    exact extract_eq_zero_iff.2 (t.kind.selector_and_mask f (mem_blanks.1 hf).1)

/-- What is given determines a word outside of the blanks. -/
theorem CarriedBy.and_not_blankMask_eq (hv : t.CarriedBy v) (hw : t.CarriedBy w) :
    v &&& ~~~t.blankMask = w &&& ~~~t.blankMask := by
  apply Word.ext
  intro b hb
  rw [Word.bit_and, Word.bit_and, Word.bit_not, decide_eq_true hb, Bool.true_and]
  cases hblank : Word.bit t.blankMask b with
  | true => rw [Bool.not_true, Bool.and_false, Bool.and_false]
  | false =>
    rw [Bool.not_false, Bool.and_true, Bool.and_true]
    cases hoperand : Word.bit t.kind.operandMask b with
    | false =>
      have hboth := congrArg (Word.bit · b) (Eq.trans hv.1 (Eq.symm hw.1))
      simpa [hb, hoperand] using hboth
    | true =>
      obtain ⟨f, hf, hin⟩ := (t.kind.bit_operandMask b).1 hoperand
      have hgiven : f ∈ t.given := by
        refine mem_given.2 ⟨hf, ?_⟩
        by_contra hlacks
        rw [Bool.not_eq_true] at hlacks
        rw [bit_blankMask.2 ⟨f, mem_blanks.2 ⟨hf, hlacks⟩, hin⟩] at hblank
        cases hblank
      have hextract := Except.ok.inj ((hv.2 f hgiven).symm.trans (hw.2 f hgiven))
      have hmask := congrArg (· <<< f.low) hextract
      simp only [f.extract_shiftLeft] at hmask
      have hbit := congrArg (Word.bit · b) hmask
      simpa [f.bit_mask, hin] using hbit

/-- A word that agrees outside of the blanks with one that carries what is given carries it
as well. -/
theorem CarriedBy.congr (hv : t.CarriedBy v)
    (h : w &&& ~~~t.blankMask = v &&& ~~~t.blankMask) : t.CarriedBy w := by
  constructor
  · have houtside := Word.not_and_of_apart t.blankMask_and_not_operandMask
    exact (Word.and_congr_within h houtside).trans hv.1
  · intro f hf
    have houtside : ~~~t.blankMask &&& f.mask = f.mask := by
      apply Word.not_and_of_apart
      rw [UInt32.and_comm, mask_and_blankMask hf]
    rw [Family.extract_congr (Word.and_congr_within h houtside)]
    exact hv.2 f hf

/-- **An instruction with blanks in words**: a word decodes to an instruction that completes it if
it agrees with the outline outside of the blanks and, if there are blanks, has some bit in them. -/
theorem exists_completes_iff (hkind : t.kind ≠ .sll) (hv : t.outline = .ok v) :
    (∃ i, decode w = .ok i ∧ i.Completes t) ↔
      w &&& ~~~t.blankMask = v ∧ (t.blankMask = 0 ∨ w &&& t.blankMask ≠ 0) := by
  obtain ⟨hcarried, hclear⟩ := carriedBy_outline hv
  have hself : v &&& ~~~t.blankMask = v := by
    have hparts := Word.and_not_or_and v t.blankMask
    rwa [hclear, UInt32.or_zero] at hparts
  have hcarries : t.CarriedBy w ↔ w &&& ~~~t.blankMask = v := by
    constructor
    · intro hw
      rw [hw.and_not_blankMask_eq hcarried, hself]
    · intro hw
      exact hcarried.congr (by rw [hw, hself])
  have hfilled : ∀ i, decode w = .ok i → i.kind = t.kind →
      ((∃ f ∈ t.blanks, i.operand f ≠ .ok 0) ↔ w &&& t.blankMask ≠ 0) := by
    intro i hi hk
    rw [ne_eq, and_blankMask_eq_zero_iff]
    push Not
    refine exists_congr fun f => and_congr_right fun hf => ?_
    have hfield : f ∈ i.kind.layout.fields := hk ▸ (mem_blanks.1 hf).1
    rw [operand_of_encode (has_and_encode_of_decode hi).2 f hfield, ne_eq, Except.ok.injEq]
  rw [← hcarries, ← exists_decode_iff_carriedBy hkind, blankMask_eq_zero_iff]
  constructor
  · rintro ⟨i, hi, hk, hgiven, hblanks⟩
    exact ⟨⟨i, hi, hk, hgiven⟩, hblanks.imp_right (hfilled i hi hk).1⟩
  · rintro ⟨⟨i, hi, hk, hgiven⟩, hblanks⟩
    exact ⟨i, hi, hk, hgiven, hblanks.imp_right (hfilled i hi hk).2⟩

end Instruction
end Mips
end PadScout
