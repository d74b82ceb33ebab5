import PadScout.Proofs.Mips.Field

/-! # Operands and their bits

Each operand is turned into the bits of its field and read back from them.  Both ways
lose nothing: an operand that fits is what its bits say (`readField_eq_takeOver`), and
bits that are read off a word make an operand that gives them again
(`operand_readField_self`).  Registers and immediates always fit; the amount of a
shift, the distance of a branch and the target of a jump have limits, and within them
the shifts by two and the sign extension are undone exactly.
-/
namespace PadScout
namespace Mips

/-! ## Numbers in five bits -/

theorem lowFive_ofNat (n : Fin 32) : lowFive (UInt32.ofNat n.val) = n := by
  have := n.isLt
  apply Fin.ext
  simp only [lowFive, UInt32.toNat_ofNat', Fin.ofNat]
  omega

theorem ofNat_lowFive {bits : UInt32} (h : bits.toNat < 2 ^ 5) :
    UInt32.ofNat (lowFive bits).val = bits := by
  have := bits.toNat_lt
  apply UInt32.toNat_inj.1
  simp only [lowFive, UInt32.toNat_ofNat', Fin.ofNat]
  omega

theorem toNat_ofNat_lt (n : Fin 32) : (UInt32.ofNat n.val).toNat < 2 ^ 5 := by
  have := n.isLt
  simp only [UInt32.toNat_ofNat']
  omega

@[simp] theorem Register.ofBits_bits (r : Register) : ofBits r.bits = r :=
  congrArg Register.mk (lowFive_ofNat r.index)

@[simp] theorem SystemRegister.ofBits_bits (r : SystemRegister) : ofBits r.bits = r :=
  congrArg SystemRegister.mk (lowFive_ofNat r.index)

@[simp] theorem CacheOp.ofBits_bits (op : CacheOp) : ofBits op.bits = op :=
  congrArg CacheOp.mk (lowFive_ofNat op.index)

theorem shift_of_bits {bits : UInt32} (h : bits.toNat < 2 ^ 5) :
    bits.toUInt8 ≤ 31 ∧ bits.toUInt8.toUInt32 = bits := by
  constructor
  · rw [UInt8.le_iff_toNat_le]
    simp
    omega
  · apply UInt32.toNat_inj.1
    simp
    omega

/-! ## Signed halves and branch distances -/

theorem imm_of_bits {bits : UInt32} (h : bits.toNat < 2 ^ 16) :
    bits.toUInt16.toInt16.toUInt16.toUInt32 = bits := by
  apply UInt32.toNat_inj.1
  simp
  omega

/-- The sign of a half stands in its highest bit. -/
theorem toInt_half {bits : UInt32} (h : bits.toNat < 2 ^ 16) :
    bits.toUInt16.toInt16.toInt =
      if bits.toNat < 0x8000 then (bits.toNat : Int) else bits.toNat - 0x10000 := by
  have hnat : bits.toUInt16.toInt16.toBitVec.toNat = bits.toNat := by
    change bits.toNat % 2 ^ 16 = _
    omega
  rw [Int16.toInt, BitVec.toInt_eq_toNat_cond, hnat]
  split <;> split <;> omega

theorem toInt_word (n : Int32) :
    n.toInt = if n.toUInt32.toNat < 0x80000000 then (n.toUInt32.toNat : Int)
      else n.toUInt32.toNat - 0x100000000 := by
  have h : n.toInt = if 2 * n.toUInt32.toNat < 2 ^ 32 then (n.toUInt32.toNat : Int)
      else n.toUInt32.toNat - (2 ^ 32 : Nat) := BitVec.toInt_eq_toNat_cond n.toBitVec
  rw [h]
  split <;> split <;> omega

/-- A half, four times as large, never leaves the signed words. -/
theorem toInt_distance (bits : UInt32) :
    (bits.toUInt16.toInt16.toInt32 <<< 2).toInt = 4 * bits.toUInt16.toInt16.toInt := by
  have hlt := bits.toUInt16.toInt16.toInt_lt
  have hle := bits.toUInt16.toInt16.le_toInt
  have hext : bits.toUInt16.toInt16.toInt32.toInt = bits.toUInt16.toInt16.toInt :=
    Int16.toInt_toInt32 _
  change (bits.toUInt16.toInt16.toInt32.toBitVec <<< 2).toInt = _
  rw [BitVec.shiftLeft_eq_mul_twoPow, BitVec.toInt_mul]
  change (bits.toUInt16.toInt16.toInt32.toInt * 4).bmod _ = _
  rw [hext, Int.bmod_eq_of_le] <;> omega

theorem toNat_distanceBits (n : Int32) :
    ((n.toUInt32 >>> 2) &&& 0xFFFF).toNat = n.toUInt32.toNat / 4 % 0x10000 := by
  rw [UInt32.toNat_and, UInt32.toNat_shiftRight, Nat.shiftRight_eq_div_pow,
    show (0xFFFF : UInt32).toNat = 2 ^ 16 - 1 by decide, Nat.and_two_pow_sub_one_eq_mod]
  rfl

/-- A distance that a branch can hold is read back from its bits. -/
theorem distance_of_branchFits {n : Int32} (h : branchFits n.toInt = true) :
    ((n.toUInt32 >>> 2) &&& 0xFFFF).toUInt16.toInt16.toInt32 <<< 2 = n := by
  simp only [branchFits, Bool.and_eq_true, beq_iff_eq, decide_eq_true_eq] at h
  have hn := toInt_word n
  have hlt := n.toUInt32.toNat_lt
  have hbits := toNat_distanceBits n
  apply Int32.toInt_inj.1
  rw [toInt_distance, toInt_half (by omega), hbits]
  split at hn <;> split <;> omega

/-- The distance that is read off any sixteen bits can be held, by these bits. -/
theorem branchFits_distance {bits : UInt32} (h : bits.toNat < 2 ^ 16) :
    branchFits (bits.toUInt16.toInt16.toInt32 <<< 2).toInt = true ∧
      ((bits.toUInt16.toInt16.toInt32 <<< 2).toUInt32 >>> 2) &&& 0xFFFF = bits := by
  have hv := toInt_distance bits
  rw [toInt_half h] at hv
  have hn := toInt_word (bits.toUInt16.toInt16.toInt32 <<< 2)
  have hlt := (bits.toUInt16.toInt16.toInt32 <<< 2).toUInt32.toNat_lt
  constructor
  · simp only [branchFits, Bool.and_eq_true, beq_iff_eq, decide_eq_true_eq]
    split at hv <;> omega
  · apply UInt32.toNat_inj.1
    rw [toNat_distanceBits]
    split at hv <;> split at hn <;> omega

/-! ## Jump targets -/

theorem target_of_jumpFits {t : UInt32} (h : jumpFits t = true) : t >>> 2 <<< 2 = t := by
  simp only [jumpFits, Bool.and_eq_true, beq_iff_eq, decide_eq_true_eq] at h
  obtain ⟨hmod, hlt⟩ := h
  have hmod := congrArg UInt32.toNat hmod
  rw [UInt32.lt_iff_toNat_lt] at hlt
  apply UInt32.toNat_inj.1
  simp at hmod hlt ⊢
  rw [Nat.shiftRight_eq_div_pow, Nat.shiftLeft_eq]
  omega

theorem toNat_shiftRight_two (t : UInt32) : (t >>> 2).toNat = t.toNat / 4 := by
  rw [UInt32.toNat_shiftRight, Nat.shiftRight_eq_div_pow]
  rfl

theorem jumpFits_target {bits : UInt32} (h : bits.toNat < 2 ^ 26) :
    jumpFits (bits <<< 2) = true ∧ bits <<< 2 >>> 2 = bits := by
  have hshift : (bits <<< 2).toNat = 4 * bits.toNat := by
    simp [Nat.shiftLeft_eq]
    omega
  simp only [jumpFits, Bool.and_eq_true, beq_iff_eq, decide_eq_true_eq]
  refine ⟨⟨?_, ?_⟩, ?_⟩
  · apply UInt32.toNat_inj.1
    simp [hshift]
  · rw [UInt32.lt_iff_toNat_lt, hshift]
    simp
    omega
  · apply UInt32.toNat_inj.1
    rw [toNat_shiftRight_two, hshift]
    omega

/-! ## Reading and writing one field -/

namespace Instruction

/-- What the operand of a field is, for it to fill the field with some bits. -/
def Fills (i : Instruction) (bits : UInt32) : Field → Prop
  | .rs => ∃ r, i.rs = some r ∧ r.bits = bits
  | .rt => ∃ r, i.rt = some r ∧ r.bits = bits
  | .rd => ∃ r, i.rd = some r ∧ r.bits = bits
  | .shift => ∃ n, i.shift = some n ∧ n ≤ 31 ∧ n.toUInt32 = bits
  | .imm => ∃ n, i.imm = some n ∧ n.toUInt16.toUInt32 = bits
  | .offset => ∃ n, i.offset = some n ∧ branchFits n.toInt = true ∧
      (n.toUInt32 >>> 2) &&& 0xFFFF = bits
  | .target => ∃ t, i.target = some t ∧ jumpFits t = true ∧ t >>> 2 = bits
  | .system => ∃ r, i.system = some r ∧ r.bits = bits
  | .cache => ∃ op, i.cache = some op ∧ op.bits = bits

theorem operand_eq_ok_iff {i : Instruction} {f : Field} {bits : UInt32} :
    i.operand f = .ok bits ↔ i.Fills bits f := by
  obtain ⟨kind, rs, rt, rd, shift, imm, offset, target, system, cache⟩ := i
  cases f with
  | rs => cases rs <;> simp [operand, Fills]
  | rt => cases rt <;> simp [operand, Fills]
  | rd => cases rd <;> simp [operand, Fills]
  | shift =>
    cases shift with
    | none => simp [operand, Fills]
    | some n => by_cases h : n ≤ 31 <;> simp [operand, Fills, h]
  | imm => cases imm <;> simp [operand, Fills]
  | offset =>
    cases offset with
    | none => simp [operand, Fills]
    | some n => by_cases h : branchFits n.toInt = true <;> simp [operand, Fills, h]
  | target =>
    cases target with
    | none => simp [operand, Fills]
    | some t => by_cases h : jumpFits t = true <;> simp [operand, Fills, h]
  | system => cases system <;> simp [operand, Fills]
  | cache => cases cache <;> simp [operand, Fills]

/-- **Operands stay within their fields.** -/
theorem operand_lt {i : Instruction} {f : Field} {bits : UInt32} (h : i.operand f = .ok bits) :
    bits.toNat < 2 ^ f.width.toNat := by
  have hfills := operand_eq_ok_iff.1 h
  cases f with
  | rs | rt | rd | system | cache =>
    obtain ⟨r, -, rfl⟩ := hfills
    exact toNat_ofNat_lt r.index
  | shift =>
    obtain ⟨n, -, hn, rfl⟩ := hfills
    rw [UInt8.le_iff_toNat_le] at hn
    rw [UInt8.toNat_toUInt32]
    exact Nat.lt_succ_of_le hn
  | imm =>
    obtain ⟨n, -, rfl⟩ := hfills
    rw [UInt16.toNat_toUInt32]
    exact n.toUInt16.toNat_lt
  | offset =>
    obtain ⟨n, -, -, rfl⟩ := hfills
    rw [toNat_distanceBits]
    exact Nat.mod_lt _ (by decide)
  | target =>
    obtain ⟨t, -, ht, rfl⟩ := hfills
    simp only [jumpFits, Bool.and_eq_true, decide_eq_true_eq] at ht
    have hlt := UInt32.lt_iff_toNat_lt.1 ht.2
    rw [toNat_shiftRight_two]
    change t.toNat < 0x10000000 at hlt
    change t.toNat / 4 < 2 ^ 26
    omega

/-- The operand that is read off a word gives the bits that it was read from. -/
theorem operand_readField_self (w : UInt32) (i : Instruction) (f : Field) :
    (readField w i f).operand f = .ok (f.extract w) := by
  have hlt := f.extract_lt w
  apply operand_eq_ok_iff.2
  cases f with
  | rs | rt | rd | system | cache => exact ⟨_, rfl, (ofNat_lowFive hlt)⟩
  | shift => exact ⟨_, rfl, (shift_of_bits hlt).1, (shift_of_bits hlt).2⟩
  | imm => exact ⟨_, rfl, (imm_of_bits hlt)⟩
  | offset => exact ⟨_, rfl, (branchFits_distance hlt).1, (branchFits_distance hlt).2⟩
  | target => exact ⟨_, rfl, (jumpFits_target hlt).1, (jumpFits_target hlt).2⟩

theorem operand_readField_of_ne (w : UInt32) (i : Instruction) {f g : Field} (h : g ≠ f) :
    (readField w i g).operand f = i.operand f := by
  cases f <;> cases g <;> first | rfl | exact absurd rfl h

theorem has_readField (w : UInt32) (i : Instruction) (f g : Field) :
    (readField w i g).has f = (decide (f = g) || i.has f) := by
  cases f <;> cases g <;> rfl

@[simp] theorem kind_readField (w : UInt32) (i : Instruction) (f : Field) :
    (readField w i f).kind = i.kind := by
  cases f <;> rfl

/-- Takes one operand over from an instruction. -/
def takeOver (i j : Instruction) : Field → Instruction
  | .rs => { j with rs := i.rs }
  | .rt => { j with rt := i.rt }
  | .rd => { j with rd := i.rd }
  | .shift => { j with shift := i.shift }
  | .imm => { j with imm := i.imm }
  | .offset => { j with offset := i.offset }
  | .target => { j with target := i.target }
  | .system => { j with system := i.system }
  | .cache => { j with cache := i.cache }

/-- **An operand is read back from its bits.** -/
theorem readField_eq_takeOver {i : Instruction} {f : Field} {w : UInt32}
    (h : i.operand f = .ok (f.extract w)) (j : Instruction) :
    readField w j f = i.takeOver j f := by
  have hfills := operand_eq_ok_iff.1 h
  cases f with
  | rs | rt | rd | system | cache =>
    obtain ⟨r, hr, hbits⟩ := hfills
    simp only [readField, takeOver, hr, ← hbits, Register.ofBits_bits, SystemRegister.ofBits_bits,
      CacheOp.ofBits_bits]
  | shift =>
    obtain ⟨n, hn, -, hbits⟩ := hfills
    simp only [readField, takeOver, hn, ← hbits, UInt8.toUInt8_toUInt32]
  | imm =>
    obtain ⟨n, hn, hbits⟩ := hfills
    simp only [readField, takeOver, hn, ← hbits, UInt16.toUInt16_toUInt32, Int16.toInt16_toUInt16]
  | offset =>
    obtain ⟨n, hn, hfits, hbits⟩ := hfills
    simp only [readField, takeOver, hn, ← hbits, distance_of_branchFits hfits]
  | target =>
    obtain ⟨t, ht, hfits, hbits⟩ := hfills
    simp only [readField, takeOver, ht, ← hbits, target_of_jumpFits hfits]

end Instruction

end Mips
end PadScout
