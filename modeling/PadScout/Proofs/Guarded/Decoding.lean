import PadScout.Proofs.CallSite
import PadScout.Proofs.Guarded.Basic

/-! # Decoding, guarded

A register is found in the table of all registers, by the number in its field, and its name
in the table of names.  The numbers in question have five bits, so nothing breaks off:
`decode_eq`, `spell_eq`.  A shift amount that is decoded has five bits as well
(`shift_le_of_decode`).
-/
namespace PadScout

open Mips

namespace Mips

theorem Register.getElem?_all (r : Register) : Register.all.toArray[r.index.val]? = some r := by
  have hlt := r.index.isLt
  rw [Register.all]
  simp

/-- **A shift amount that is decoded is less than a word is long.** -/
theorem shift_le_of_decode {w : UInt32} {i : Instruction} {n : UInt8} (h : decode w = .ok i)
    (hn : i.shift = some n) : n ≤ 31 := by
  obtain ⟨hhas, hencode⟩ := has_and_encode_of_decode h
  have hfield : .shift ∈ i.kind.layout.fields := (hhas .shift).1 (by rw [Instruction.has, hn]; rfl)
  obtain ⟨k, hk, hle, -⟩ :=
    Instruction.operand_eq_ok_iff.1 (Instruction.operand_of_encode hencode .shift hfield)
  rw [hn] at hk
  cases hk
  exact hle

end Mips

namespace Guarded

/-! ## Registers -/

/-- The register of a number. -/
def register (bits : UInt32) : Guarded Register := index Register.all.toArray (bits &&& 0x1F).toNat

theorem register_eq (bits : UInt32) : register bits = .ok (.ofBits bits) := by
  have hnumber : (bits &&& 0x1F).toNat = (Register.ofBits bits).index.val :=
    Word.toNat_and_low (k := 5) (by decide) bits
  rw [register, hnumber]
  exact index_eq (Register.ofBits bits).getElem?_all

/-- The name of a register. -/
def name (r : Register) : Guarded String := index Register.names.toArray r.index.val

theorem name_eq (r : Register) : name r = .ok r.name := index_vector Register.names r.index.isLt

/-! ## Words -/

/-- Reads the operand of one field off a word. -/
def readField (w : UInt32) (i : Instruction) : Field → Guarded Instruction
  | .rs => do return { i with rs := some (← register (Field.rs.extract w)) }
  | .rt => do return { i with rt := some (← register (Field.rt.extract w)) }
  | .rd => do return { i with rd := some (← register (Field.rd.extract w)) }
  | f => .ok (i.readField w f)

theorem readField_eq (w : UInt32) (i : Instruction) (f : Field) :
    readField w i f = .ok (i.readField w f) := by
  cases f with
  | rs => rw [readField, register_eq]; rfl
  | rt => rw [readField, register_eq]; rfl
  | rd => rw [readField, register_eq]; rfl
  | _ => rfl

/-- The instruction of a word. -/
def decode (w : UInt32) : Guarded (Except DecodeError Instruction) :=
  if w = 0 then .ok (.ok .nop)
  else
    match Kind.ofWord w with
    | .error e => .ok (.error e)
    | .ok k => do
      let i ← k.layout.fields.foldlM (readField w) (.ofKind k)
      return if i.encode.toOption = some w then .ok i else .error (.nonCanonical w)

theorem decode_eq (w : UInt32) : decode w = .ok (Mips.decode w) := by
  rw [decode, Mips.decode]
  split
  · rfl
  · cases Kind.ofWord w with
    | error e => rfl
    | ok k =>
      dsimp only
      rw [foldlM_eq fun i f _ => readField_eq w i f]
      rfl

/-- The target of a word that is a call. -/
def calledTarget? (w : UInt32) : Guarded (Option UInt32) := do
  match ← decode w with
  | .ok i => return if i.kind = .jal then i.target else none
  | .error _ => return none

theorem calledTarget?_eq (w : UInt32) : calledTarget? w = .ok (PadScout.calledTarget? w) := by
  rw [calledTarget?, decode_eq, ok_bind, PadScout.calledTarget?]
  cases Mips.decode w <;> rfl

/-! ## Texts -/

/-- The magnitude of a number of 64 bits with a sign, which is written after the sign. -/
def magnitude (v : Int) : Guarded Int := if v < 0 then signed (-v) else .ok v

theorem magnitude_eq {v : Int} (h : -2 ^ 63 < v) : magnitude v = .ok v.natAbs := by
  rw [magnitude]
  split
  · rw [signed_eq (by omega) (by omega)]
    congr
    omega
  · congr
    omega

theorem magnitude_elim_eq {α : Type} {f : α → Int} (h : ∀ a, -2 ^ 63 < f a) (operand : Option α) :
    magnitude (operand.elim 0 f) = .ok (operand.elim 0 f).natAbs := by
  refine magnitude_eq ?_
  cases operand with
  | none => exact (by decide : (-2 ^ 63 : Int) < 0)
  | some a => exact h a

/-- The assembly text of an instruction, with the names of its registers and the magnitudes
of its operands with a sign. -/
def spell (i : Instruction) : Guarded String := do
  let _ ← ([i.rs, i.rt, i.rd].filterMap id).mapM name
  let _ ← magnitude (i.imm.elim 0 Int16.toInt)
  let _ ← magnitude (i.offset.elim 0 Int32.toInt)
  return i.text

theorem spell_eq (i : Instruction) : spell i = .ok i.text := by
  have himm : ∀ n : Int16, -2 ^ 63 < n.toInt := fun n => by
    have := n.le_toInt
    omega
  have hoffset : ∀ n : Int32, -2 ^ 63 < n.toInt := fun n => by
    have := n.le_toInt
    omega
  rw [spell, mapM_eq fun r _ => name_eq r, ok_bind, magnitude_elim_eq himm, ok_bind,
    magnitude_elim_eq hoffset]
  rfl

end Guarded
end PadScout
