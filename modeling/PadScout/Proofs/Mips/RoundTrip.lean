import Mathlib.Data.List.Basic
import PadScout.Proofs.Mips.Selection

/-! # Encoding undone by decoding

A word that encodes an instruction decodes to the normal form of the instruction
(`decode_encode_normal`).  The selector and the operands are found again in the word,
because fields tile it, and what is read off the fields is the instruction without the
operands that its kind ignores (`ofFields_eq_trimmed`).  The one word with two readings
is zero, which is always read as `nop`.
-/
namespace PadScout
namespace Mips
namespace Instruction

/-- The instruction without the operands that its kind ignores. -/
def trimmed (i : Instruction) : Instruction :=
  { kind := i.kind
    rs := kept i.kind .rs i.rs
    rt := kept i.kind .rt i.rt
    rd := kept i.kind .rd i.rd
    shift := kept i.kind .shift i.shift
    imm := kept i.kind .imm i.imm
    offset := kept i.kind .offset i.offset
    target := kept i.kind .target i.target
    system := kept i.kind .system i.system
    cache := kept i.kind .cache i.cache }

/-- The shift that has the word of `nop`. -/
def idleShift : Instruction :=
  { ofKind .sll with rt := some .zero, rd := some .zero, shift := some 0 }

theorem normal_eq (i : Instruction) :
    i.normal = if i.trimmed = idleShift then nop else i.trimmed := rfl

/-- Only a shift may be another form of `nop`. -/
theorem normal_eq_trimmed {i : Instruction} (h : i.kind ≠ .sll) : i.normal = i.trimmed := by
  rw [normal_eq, if_neg]
  intro htrimmed
  exact h (congrArg kind htrimmed)

/-- Taking over the operands of a layout, one by one, is dropping the others. -/
theorem foldl_takeOver (i : Instruction) :
    i.kind.layout.fields.foldl i.takeOver (ofKind i.kind) = i.trimmed := by
  unfold trimmed kept
  generalize i.kind.layout = l
  cases l <;> rfl

/-! ## What a word keeps of its instruction -/

section Encoded
variable {i : Instruction} {w : UInt32}

theorem and_familyMask_of_encode (h : i.encode = .ok w) :
    w &&& i.kind.family.mask = i.kind.selector := by
  rw [and_of_pack h i.kind.mask_and_familyMask, i.kind.selector_and_familyMask]

theorem operand_of_encode (h : i.encode = .ok w) :
    ∀ f ∈ i.kind.layout.fields, i.operand f = .ok (f.extract w) :=
  operand_of_pack h i.kind.layout.pairwise_fields i.kind.selector_and_mask

/-- **The fields of the word hold the operands of the instruction.** -/
theorem ofFields_eq_trimmed (h : i.encode = .ok w) : ofFields i.kind w = i.trimmed := by
  rw [← foldl_takeOver, ofFields]
  exact List.foldl_ext _ _ _ fun j f hf => readField_eq_takeOver (operand_of_encode h f hf) j

/-- Nothing that encoding needs is dropped. -/
theorem encode_trimmed (h : i.encode = .ok w) : i.trimmed.encode = .ok w := by
  rw [← ofFields_eq_trimmed h, encode, kind_ofFields]
  refine Eq.trans (pack_congr (fun f hf => ?_) _) h
  rw [operand_ofFields hf, operand_of_encode h f hf]

theorem kind_eq_of_encode_zero (h : i.encode = .ok 0) : i.kind = .nop ∨ i.kind = .sll := by
  have hselector := and_familyMask_of_encode h
  rw [UInt32.zero_and] at hselector
  revert hselector
  cases i.kind <;> decide

/-- **The normal form is read off the word**, and is `nop` for the word zero. -/
theorem normal_eq_of_encode (h : i.encode = .ok w) :
    i.normal = if w = 0 then nop else ofFields i.kind w := by
  rw [normal_eq, ofFields_eq_trimmed h]
  by_cases hw : w = 0
  · subst hw
    rw [if_pos rfl]
    have hread := ofFields_eq_trimmed h
    rcases kind_eq_of_encode_zero h with hk | hk
    · rw [hk, show ofFields .nop 0 = nop from rfl] at hread
      rw [← hread, ite_self]
    · rw [hk, show ofFields .sll 0 = idleShift from rfl] at hread
      rw [← hread, if_pos rfl]
  · rw [if_neg hw, if_neg]
    intro htrimmed
    have hzero := encode_trimmed h
    rw [htrimmed, show idleShift.encode = .ok 0 from rfl] at hzero
    exact hw (Except.ok.inj hzero).symm

/-- Every word of an instruction decodes. -/
theorem decode_of_encode (h : i.encode = .ok w) : decode w = .ok i.normal := by
  rw [normal_eq_of_encode h, decode]
  by_cases hw : w = 0
  · rw [if_pos hw, if_pos hw]
  · have hk : i.kind ≠ .nop := by
      intro hk
      have hselector := and_familyMask_of_encode h
      rw [hk] at hselector
      change w &&& 0xFFFFFFFF = 0 at hselector
      exact hw (by rwa [show (0xFFFFFFFF : UInt32) = -1 by decide, UInt32.and_neg_one] at hselector)
    have hkind : Kind.ofWord w = .ok i.kind :=
      Kind.ofWord_eq_ok_iff.2 (Kind.ofWord?_of_and hk (and_familyMask_of_encode h))
    have hagain : (ofFields i.kind w).encode.toOption = some w := by
      rw [ofFields_eq_trimmed h, encode_trimmed h]
      rfl
    rw [if_neg hw, if_neg hw, hkind]
    exact if_pos hagain

/-- An instruction without other operands than its kind has is found again. -/
theorem decode_eq_of_encode (h : i.encode = .ok w) (hkind : i.kind ≠ .sll)
    (htrimmed : i.trimmed = i) : decode w = .ok i := by
  have hdecode := decode_of_encode h
  rwa [normal_eq_trimmed hkind, htrimmed] at hdecode

end Encoded

end Instruction

/-- **Decoding undoes encoding.**  The word of an instruction decodes to its normal form,
so that instructions with one word have one normal form. -/
theorem decode_encode_normal (i : Instruction) (w : UInt32) (h : i.encode = .ok w) :
    decode w = .ok i.normal ∧ ∀ j : Instruction, j.encode = .ok w → j.normal = i.normal := by
  have hi := Instruction.decode_of_encode h
  refine ⟨hi, fun j hj => ?_⟩
  have hboth := (Instruction.decode_of_encode hj).symm.trans hi
  exact Except.ok.inj hboth

/-- A stack allocation with operands that it ignores, and the same without them. -/
theorem decode_encode_normal_stackProlog :
    ({ Instruction.addiu .sp .sp (-0x18) with rd := some .ra, shift := some 99 } :
        Instruction).encode = .ok 0x27BDFFE8 ∧
      decode 0x27BDFFE8 = .ok (Instruction.addiu .sp .sp (-0x18)) ∧
      (Instruction.addiu .sp .sp (-0x18)).normal = Instruction.addiu .sp .sp (-0x18) := by
  have hword : ({ Instruction.addiu .sp .sp (-0x18) with rd := some .ra, shift := some 99 } :
      Instruction).encode = .ok 0x27BDFFE8 := by decide
  obtain ⟨hdecode, hsame⟩ := decode_encode_normal _ _ hword
  refine ⟨hword, ?_, ?_⟩
  · rw [hdecode]
    decide
  · rw [hsame (Instruction.addiu .sp .sp (-0x18)) (by decide)]
    decide

end Mips
end PadScout
