import PadScout.Proofs.Machine.Frame
import PadScout.Proofs.Number

/-! # What the machine computes

What a kind computes is a number, given the numbers that its operands are
(`Mips.Kind.number?`, `Mips.Kind.product?`).  The machine computes with words and converts
between signed and unsigned ones of several sizes, and comes to the same number modulo
`2 ^ 32`, or modulo `2 ^ 64` for a product (`Machine.effect_of_number`,
`Machine.effect_of_product`).  A division with a divisor other than zero leaves quotient and
remainder.  The number is then in the register that the instruction names for its result
(`Machine.get_apply_result`).  All of this is `Machine.Computes`.
-/
namespace PadScout

open Mips Word

/-! ## The numbers -/

/-- The immediate operand as a number; zero if it is missing. -/
def Mips.Instruction.immediate (i : Instruction) : Int := (i.imm.getD 0).toInt

/-- The amount of a shift as a number; zero if it is missing. -/
def Mips.Instruction.amount (i : Instruction) : Nat := (i.shift.getD 0).toNat

/-- **The number that a kind computes** from the operands `a` and `b`, the immediate `n` and
the amount `s` of a shift, if it computes one. -/
def Mips.Kind.number? (k : Kind) (a b : UInt32) (n : Int) (s : Nat) : Option Int :=
  -- the immediate without its sign
  let half : Nat := (n % 2 ^ 16).toNat
  match k with
  | .add | .addu => some (a.toNat + b.toNat)
  | .sub | .subu => some (a.toNat - b.toNat)
  | .addi | .addiu => some (a.toNat + n)
  | .and => some (a.toNat &&& b.toNat : Nat)
  | .or => some (a.toNat ||| b.toNat : Nat)
  | .xor => some (a.toNat ^^^ b.toNat : Nat)
  | .nor => some (2 ^ 32 - 1 - (a.toNat ||| b.toNat) : Nat)
  | .andi => some (a.toNat &&& half : Nat)
  | .ori => some (a.toNat ||| half : Nat)
  | .xori => some (a.toNat ^^^ half : Nat)
  | .slt => some (if signed a < signed b then 1 else 0)
  | .slti => some (if signed a < n then 1 else 0)
  | .sltu => some (if a.toNat < b.toNat then 1 else 0)
  -- the immediate is extended with its sign first
  | .sltiu => some (if (a.toNat : Int) < n % 2 ^ 32 then 1 else 0)
  | .lui => some (n * 2 ^ 16)
  | .sll => some (b.toNat * 2 ^ s)
  | .sllv => some (b.toNat * 2 ^ (a.toNat % 32))
  | .srl => some (b.toNat / 2 ^ s : Nat)
  | .srlv => some (b.toNat / 2 ^ (a.toNat % 32) : Nat)
  -- both round down
  | .sra => some ((signed b).fdiv (2 ^ s))
  | .srav => some ((signed b).fdiv (2 ^ (a.toNat % 32)))
  | _ => none

/-- The product that a kind computes. -/
def Mips.Kind.product? (k : Kind) (a b : UInt32) : Option Int :=
  match k with
  | .mult => some (signed a * signed b)
  | .multu => some (a.toNat * b.toNat)
  | _ => none

namespace Mips.Instruction

theorem standsFor_immSigned (i : Instruction) : StandsFor i.immSigned i.immediate := by
  rw [immSigned, immediate]
  cases i.imm with
  | none => rfl
  | some n =>
    have h := standsFor_toUInt32 n.toInt32
    rwa [Int16.toInt_toInt32] at h

theorem toInt_immSigned (i : Instruction) : i.immSigned.toInt32.toInt = i.immediate := by
  rw [immSigned, immediate]
  cases i.imm with
  | none => rfl
  | some n => exact Int16.toInt_toInt32 n

theorem toNat_immUnsigned (i : Instruction) :
    i.immUnsigned.toNat = (i.immediate % 2 ^ 16).toNat := by
  rw [immUnsigned, immediate]
  cases i.imm with
  | none => rfl
  | some n =>
    have hlt := n.toUInt16.toNat_lt
    have hn : n.toInt = (n.toUInt16.toNat : Int).bmod (2 ^ 16) := BitVec.toInt_eq_toNat_bmod _
    have hmod : n.toInt % 2 ^ 16 = n.toUInt16.toNat % 2 ^ 16 := by
      rw [hn]
      exact Int.bmod_emod
    show n.toUInt16.toUInt32.toNat = (n.toInt % 2 ^ 16).toNat
    rw [UInt16.toNat_toUInt32, hmod]
    omega

/-- The immediate that is not signed, moved into the upper half. -/
theorem standsFor_upper (i : Instruction) :
    StandsFor (i.immUnsigned <<< 16) (i.immediate * 2 ^ 16) := by
  have himm := i.toNat_immUnsigned
  unfold StandsFor
  rw [UInt32.toNat_shiftLeft, Nat.shiftLeft_eq, himm]
  change ((_ * 2 ^ 16 % 2 ^ 32 : Nat) : Int) = _
  omega

/-- The amount of a shift, as the machine takes it. -/
theorem toNat_amount (i : Instruction) :
    (match i.shift with
      | some n => n.toUInt32
      | none => (0 : UInt32)).toNat = i.amount := by
  rw [amount]
  cases i.shift with
  | none => rfl
  | some n => exact UInt8.toNat_toUInt32 n

theorem amount_lt {i : Instruction} (h : ∀ n, i.shift = some n → n ≤ 31) : i.amount < 32 := by
  rw [amount]
  cases hshift : i.shift with
  | none => decide
  | some n =>
    have hn := UInt8.le_iff_toNat_le.1 (h n hshift)
    exact Nat.lt_succ_of_le hn

end Mips.Instruction

namespace Machine

theorem standsFor_shiftSigned {s : UInt32} {n : Nat} (hs : s.toNat = n) (hn : n < 32)
    (w : UInt32) : StandsFor (shiftSigned w s) ((signed w).fdiv (2 ^ n)) := by
  rw [← toInt_toInt32 w, ← toInt_shiftRight hs hn]
  exact standsFor_toUInt32 (w.toInt32 >>> s.toInt32)

theorem standsFor_flag {p q : Prop} [Decidable p] [Decidable q] (h : p ↔ q) :
    StandsFor (flag p) (if q then 1 else 0) := by
  by_cases hp : p
  · rw [if_pos (h.1 hp), decide_eq_true hp]
    rfl
  · rw [if_neg (mt h.2 hp), decide_eq_false hp]
    rfl

section
variable {m : Machine} {i : Instruction}

/-- **The machine computes the number of the kind**, and leaves it where the result goes. -/
theorem effect_of_number (h : ∀ n, i.shift = some n → n ≤ 31) :
    ∀ v ∈ i.kind.number? (m.operand i.rs) (m.operand i.rt) i.immediate i.amount,
      ∃ w, StandsFor w v ∧ m.effect i = .ok (result i.destination? w) := by
  have himm := i.standsFor_immSigned
  have hhalf := i.toNat_immUnsigned
  have hamount := i.toNat_amount
  have hlt := Instruction.amount_lt h
  rw [effect, Instruction.destination?]
  generalize m.operand i.rs = a
  generalize m.operand i.rt = b
  have hlow : (a &&& 0x1F).toNat = a.toNat % 32 := toNat_and_low (k := 5) (by decide) a
  have hlow_lt : a.toNat % 32 < 32 := Nat.mod_lt _ (by decide)
  cases i.kind with
  | add | addu =>
    rintro _ ⟨⟩
    exact ⟨_, (standsFor_toNat a).add (standsFor_toNat b), rfl⟩
  | sub | subu =>
    rintro _ ⟨⟩
    exact ⟨_, (standsFor_toNat a).sub (standsFor_toNat b), rfl⟩
  | addi | addiu =>
    rintro _ ⟨⟩
    exact ⟨_, (standsFor_toNat a).add himm, rfl⟩
  | and =>
    rintro _ ⟨⟩
    exact ⟨_, standsFor_of_toNat (UInt32.toNat_and a b), rfl⟩
  | or =>
    rintro _ ⟨⟩
    exact ⟨_, standsFor_of_toNat (UInt32.toNat_or a b), rfl⟩
  | xor =>
    rintro _ ⟨⟩
    exact ⟨_, standsFor_of_toNat (UInt32.toNat_xor a b), rfl⟩
  | nor =>
    rintro _ ⟨⟩
    have hnor := UInt32.toNat_not (a ||| b)
    rw [UInt32.toNat_or] at hnor
    exact ⟨_, standsFor_of_toNat hnor, rfl⟩
  | andi =>
    rintro _ ⟨⟩
    rw [← hhalf]
    exact ⟨_, standsFor_of_toNat (UInt32.toNat_and a i.immUnsigned), rfl⟩
  | ori =>
    rintro _ ⟨⟩
    rw [← hhalf]
    exact ⟨_, standsFor_of_toNat (UInt32.toNat_or a i.immUnsigned), rfl⟩
  | xori =>
    rintro _ ⟨⟩
    rw [← hhalf]
    exact ⟨_, standsFor_of_toNat (UInt32.toNat_xor a i.immUnsigned), rfl⟩
  | slt =>
    rintro _ ⟨⟩
    refine ⟨_, standsFor_flag ?_, rfl⟩
    rw [Int32.lt_iff_toInt_lt, toInt_toInt32, toInt_toInt32]
  | slti =>
    rintro _ ⟨⟩
    refine ⟨_, standsFor_flag ?_, rfl⟩
    rw [Int32.lt_iff_toInt_lt, toInt_toInt32, i.toInt_immSigned]
  | sltu =>
    rintro _ ⟨⟩
    exact ⟨_, standsFor_flag UInt32.lt_iff_toNat_lt, rfl⟩
  | sltiu =>
    rintro _ ⟨⟩
    refine ⟨_, standsFor_flag ?_, rfl⟩
    rw [UInt32.lt_iff_toNat_lt, ← Int.ofNat_lt, himm]
  | lui =>
    rintro _ ⟨⟩
    exact ⟨_, i.standsFor_upper, rfl⟩
  | sll =>
    rintro _ ⟨⟩
    exact ⟨_, (standsFor_toNat b).shiftLeft hamount hlt, rfl⟩
  | sllv =>
    rintro _ ⟨⟩
    exact ⟨_, (standsFor_toNat b).shiftLeft hlow hlow_lt, rfl⟩
  | srl =>
    rintro _ ⟨⟩
    exact ⟨_, standsFor_shiftRight hamount hlt b, rfl⟩
  | srlv =>
    rintro _ ⟨⟩
    exact ⟨_, standsFor_shiftRight hlow hlow_lt b, rfl⟩
  | sra =>
    rintro _ ⟨⟩
    exact ⟨_, standsFor_shiftSigned hamount hlt b, rfl⟩
  | srav =>
    rintro _ ⟨⟩
    exact ⟨_, standsFor_shiftSigned hlow hlow_lt b, rfl⟩
  | _ => rintro _ ⟨⟩

/-- **A product is left in the pair**, one half in each. -/
theorem effect_of_product :
    ∀ p ∈ i.kind.product? (m.operand i.rs) (m.operand i.rt),
      ∃ hi lo : UInt32, ((hi.toNat * 2 ^ 32 + lo.toNat : Nat) : Int) = p % 2 ^ 64 ∧
        m.effect i = .ok (.hiLo hi lo) := by
  rw [effect]
  generalize m.operand i.rs = a
  generalize m.operand i.rt = b
  cases i.kind with
  | mult =>
    rintro _ ⟨⟩
    refine ⟨_, _, ?_, rfl⟩
    rw [toNat_halves]
    exact toNat_signedProduct a b
  | multu =>
    rintro _ ⟨⟩
    refine ⟨_, _, ?_, rfl⟩
    rw [toNat_halves, toNat_product, Int.natCast_emod, Int.natCast_mul]
    rfl
  | _ => rintro _ ⟨⟩

theorem effect_of_divu (hkind : i.kind = .divu) (hne : m.operand i.rt ≠ 0) :
    m.effect i =
      .ok (.hiLo (m.operand i.rs % m.operand i.rt) (m.operand i.rs / m.operand i.rt)) := by
  rw [effect, hkind]
  exact if_neg hne

theorem effect_of_div (hkind : i.kind = .div) (hne : m.operand i.rt ≠ 0) :
    m.effect i =
      .ok (.hiLo ((m.operand i.rs).toInt32 % (m.operand i.rt).toInt32).toUInt32
        ((m.operand i.rs).toInt32 / (m.operand i.rt).toInt32).toUInt32) := by
  rw [effect, hkind]
  exact if_neg hne

theorem execute_of_effect_ok {e : Effect} (h : m.effect i = .ok e) :
    m.execute i = (m.apply e, .ok ()) := by
  rw [execute, h]

/-- A result is in its register afterwards; register zero takes none. -/
theorem get_apply_result {d : Option Register} {r : Register} (hd : d = some r)
    (hr : r ≠ .zero) (w : UInt32) : (m.apply (result d w)).get r = w := by
  subst hd
  exact get_set_self m hr w

end

/-- **What an instruction computes**, and where it leaves it. -/
structure Computes (m : Machine) (i : Instruction) : Prop where
  /-- The number of the kind goes to the result register, which then holds it. -/
  number : ∀ v ∈ i.kind.number? (m.operand i.rs) (m.operand i.rt) i.immediate i.amount,
    ∃ w, StandsFor w v ∧ m.execute i = (m.apply (result i.destination? w), .ok ()) ∧
      ∀ r, i.destination? = some r → r ≠ .zero → (m.execute i).1.get r = w
  /-- A product goes to the pair. -/
  product : ∀ p ∈ i.kind.product? (m.operand i.rs) (m.operand i.rt),
    ∃ hi lo : UInt32, ((hi.toNat * 2 ^ 32 + lo.toNat : Nat) : Int) = p % 2 ^ 64 ∧
      m.execute i = ({ m with hi, lo }, .ok ())
  /-- Division without signs. -/
  divu : i.kind = .divu → m.operand i.rt ≠ 0 → ∃ hi lo : UInt32,
    (m.operand i.rs).toNat = lo.toNat * (m.operand i.rt).toNat + hi.toNat ∧
      hi < m.operand i.rt ∧ m.execute i = ({ m with hi, lo }, .ok ())
  /-- Division with signs. -/
  div : i.kind = .div → m.operand i.rt ≠ 0 →
    ¬ (signed (m.operand i.rs) = - 2 ^ 31 ∧ signed (m.operand i.rt) = -1) → ∃ hi lo : UInt32,
      RoundsToZero (signed (m.operand i.rs)) (signed (m.operand i.rt)) (signed lo) (signed hi) ∧
        m.execute i = ({ m with hi, lo }, .ok ())
  /-- The one quotient that is no signed word. -/
  least : i.kind = .div → signed (m.operand i.rs) = - 2 ^ 31 → signed (m.operand i.rt) = -1 →
    ∃ lo : UInt32, signed lo = - 2 ^ 31 ∧ m.execute i = ({ m with hi := 0, lo }, .ok ())
  /-- Division by zero computes nothing. -/
  zero : i.kind = .div ∨ i.kind = .divu → m.operand i.rt = 0 →
    m.execute i = (m, .error (.divideByZero (m.pc - 4)))
  /-- All else is as it was. -/
  frame : m.Frame i (m.execute i).1

/-- **The machine computes the numbers of the instruction set.** -/
theorem computes_numbers (m : Machine) (i : Instruction) (h : ∀ n, i.shift = some n → n ≤ 31) :
    m.Computes i where
  number v hv := by
    obtain ⟨w, hw, heffect⟩ := effect_of_number h v hv
    have hexecute := execute_of_effect_ok heffect
    refine ⟨w, hw, hexecute, fun r hd hr => ?_⟩
    rw [hexecute]
    exact get_apply_result hd hr w
  product p hp := by
    obtain ⟨hi, lo, hproduct, heffect⟩ := effect_of_product p hp
    exact ⟨hi, lo, hproduct, execute_of_effect_ok heffect⟩
  divu hkind hne := by
    refine ⟨_, _, ?_, ?_, execute_of_effect_ok (effect_of_divu hkind hne)⟩
    · rw [UInt32.toNat_div, UInt32.toNat_mod, Nat.div_add_mod']
    · exact UInt32.mod_lt _ (UInt32.pos_iff_ne_zero.2 hne)
  div hkind hne hleast :=
    ⟨_, _, roundsToZero_div hne hleast, execute_of_effect_ok (effect_of_div hkind hne)⟩
  least hkind ha hb := by
    have hne : m.operand i.rt ≠ 0 := by
      intro hzero
      rw [signed_eq_zero_iff.2 hzero] at hb
      cases hb
    obtain ⟨hquotient, hremainder⟩ := signed_div_least ha hb
    refine ⟨_, hquotient, ?_⟩
    rw [execute_of_effect_ok (effect_of_div hkind hne), signed_eq_zero_iff.1 hremainder]
    rfl
  zero hkind hzero := by
    rw [execute, effect_eq_divideByZero_iff.2 ⟨hkind, hzero, rfl⟩]
  frame := frame_execute m i

/-- The least number, shifted as far as it goes, is minus one. -/
theorem computes_numbers_least_shifted :
    let i : Instruction :=
      { Instruction.ofKind .sra with rt := some .a0, rd := some .a1, shift := some 31 }
    let m := (ofImage ⟨#[]⟩).set .a0 0x80000000
    (∀ n, i.shift = some n → n ≤ 31) ∧
      ∃ w, StandsFor w (-1) ∧ m.execute i = (m.set .a1 w, .ok ()) ∧
        (m.execute i).1.get .a1 = w := by
  intro i m
  have hshift : ∀ n, i.shift = some n → n ≤ 31 := by
    rintro n ⟨⟩
    decide
  have hoperand : m.operand i.rt = 0x80000000 := get_set_self (ofImage ⟨#[]⟩) (by decide) 0x80000000
  have hnumber : (-1 : Int) ∈ i.kind.number? (m.operand i.rs) (m.operand i.rt) i.immediate
      i.amount := by
    rw [hoperand]
    decide
  obtain ⟨w, hw, hexecute, hholds⟩ := (computes_numbers m i hshift).number (-1) hnumber
  exact ⟨hshift, w, hw, hexecute, hholds .a1 rfl (by decide)⟩

end Machine
end PadScout
