import Mathlib.Algebra.Group.Int.Defs
import PadScout.Proofs.Mips.Operand

/-! # Words as numbers

A word is a number from `0` to `2 ^ 32 - 1`, or with a sign one from `- 2 ^ 31` to
`2 ^ 31 - 1` (`Word.signed`).  What a computation leaves in a word is a number modulo `2 ^ 32`
(`Word.StandsFor`), so sums, differences and shifts to the left need no more than the residues
of their operands.  Shifts to the right, comparisons and divisions depend on the reading.  A
shift to the right is a division that rounds down in either reading.

A division with signs rounds toward zero (`Word.RoundsToZero`).  The quotient fits a word
(`Word.roundsToZero_div`) unless the least number is divided by minus one
(`Word.signed_div_least`).
-/
namespace PadScout
namespace Word

/-- The number that a word is in two's complement. -/
def signed (w : UInt32) : Int := if w.toNat < 2 ^ 31 then w.toNat else w.toNat - 2 ^ 32

/-- **The word stands for the number**, modulo `2 ^ 32`. -/
def StandsFor (w : UInt32) (v : Int) : Prop := (w.toNat : Int) = v % 2 ^ 32

variable {w x s : UInt32} {u v : Int}

/-! ## Readings -/

theorem signed_bounds (w : UInt32) : - 2 ^ 31 ≤ signed w ∧ signed w < 2 ^ 31 := by
  have hlt := w.toNat_lt
  unfold signed
  split <;> omega

theorem signed_toUInt32 (n : Int32) : signed n.toUInt32 = n.toInt := (Mips.toInt_word n).symm

theorem toInt_toInt32 (w : UInt32) : w.toInt32.toInt = signed w :=
  (signed_toUInt32 w.toInt32).symm

theorem standsFor_toNat (w : UInt32) : StandsFor w w.toNat := by
  have hlt := w.toNat_lt
  unfold StandsFor
  omega

theorem standsFor_of_toNat {n : Nat} (h : w.toNat = n) : StandsFor w n := by
  rw [← h]
  exact standsFor_toNat w

/-- Both readings of a word stand for the same. -/
theorem standsFor_signed (w : UInt32) : StandsFor w (signed w) := by
  have hlt := w.toNat_lt
  unfold StandsFor signed
  split <;> omega

theorem standsFor_toUInt32 (n : Int32) : StandsFor n.toUInt32 n.toInt := by
  rw [← signed_toUInt32]
  exact standsFor_signed n.toUInt32

theorem signed_eq_zero_iff : signed w = 0 ↔ w = 0 := by
  have hlt := w.toNat_lt
  rw [← UInt32.toNat_inj]
  change _ ↔ w.toNat = 0
  unfold signed
  split <;> omega

/-! ## Sums, differences and shifts -/

theorem StandsFor.add (hw : StandsFor w v) (hx : StandsFor x u) : StandsFor (w + x) (v + u) := by
  unfold StandsFor at *
  rw [UInt32.toNat_add]
  omega

theorem StandsFor.sub (hw : StandsFor w v) (hx : StandsFor x u) : StandsFor (w - x) (v - u) := by
  have hlt := x.toNat_lt
  unfold StandsFor at *
  rw [UInt32.toNat_sub]
  omega

theorem StandsFor.shiftLeft {n : Nat} (hw : StandsFor w v) (hs : s.toNat = n) (hn : n < 32) :
    StandsFor (w <<< s) (v * 2 ^ n) := by
  unfold StandsFor at *
  rw [UInt32.toNat_shiftLeft, hs, Nat.mod_eq_of_lt hn, Nat.shiftLeft_eq, Int.natCast_emod,
    Int.natCast_mul, hw, Int.natCast_pow]
  change v % 2 ^ 32 * 2 ^ n % 2 ^ 32 = _
  rw [Int.mul_emod, Int.emod_emod, ← Int.mul_emod]

theorem standsFor_shiftRight {n : Nat} (hs : s.toNat = n) (hn : n < 32) (w : UInt32) :
    StandsFor (w >>> s) (w.toNat / 2 ^ n : Nat) := by
  refine standsFor_of_toNat ?_
  rw [UInt32.toNat_shiftRight, hs, Nat.mod_eq_of_lt hn, Nat.shiftRight_eq_div_pow]

/-- A shift that repeats the sign rounds down. -/
theorem toInt_shiftRight {n : Nat} (hs : s.toNat = n) (hn : n < 32) (k : Int32) :
    (k >>> s.toInt32).toInt = k.toInt.fdiv (2 ^ n) := by
  -- the amount is no negative number, so it is its own remainder
  have hint : s.toBitVec.toInt = n := by
    rw [← hs]
    refine BitVec.toInt_eq_toNat_of_lt ?_
    change 2 * s.toNat < 2 ^ 32
    omega
  have hsmod : s.toBitVec.smod 32 = s.toBitVec := by
    apply BitVec.toInt_inj.1
    rw [BitVec.toInt_smod, hint]
    change Int.fmod n 32 = _
    rw [Int.fmod_eq_emod_of_nonneg _ (by decide)]
    omega
  have hamount : (s.toInt32.toBitVec.smod 32).toNat = n :=
    (congrArg BitVec.toNat hsmod).trans hs
  rw [Int32.toInt, Int32.toBitVec_shiftRight, BitVec.sshiftRight_eq', hamount,
    BitVec.toInt_sshiftRight, Int.shiftRight_eq_div_pow, Int.fdiv_eq_ediv_of_nonneg]
  · rw [Int.natCast_pow]
    rfl
  · exact Int.le_of_lt (Int.pow_pos (by decide))

/-! ## Products -/

/-- The two halves of a long word. -/
theorem toNat_halves (p : UInt64) :
    (p >>> 32).toUInt32.toNat * 2 ^ 32 + p.toUInt32.toNat = p.toNat := by
  have hlt := p.toNat_lt
  rw [UInt64.toNat_toUInt32, UInt64.toNat_toUInt32, UInt64.toNat_shiftRight]
  change p.toNat >>> 32 % 2 ^ 32 * 2 ^ 32 + _ = _
  rw [Nat.shiftRight_eq_div_pow]
  omega

theorem toNat_product (a b : UInt32) :
    (a.toUInt64 * b.toUInt64).toNat = a.toNat * b.toNat % 2 ^ 64 := by
  rw [UInt64.toNat_mul, UInt32.toNat_toUInt64, UInt32.toNat_toUInt64]

theorem toNat_toUInt64 (n : Int64) : (n.toUInt64.toNat : Int) = n.toInt % 2 ^ 64 := by
  have hlt := n.toUInt64.toNat_lt
  have hn : n.toInt = (n.toUInt64.toNat : Int).bmod (2 ^ 64) := BitVec.toInt_eq_toNat_bmod _
  rw [hn]
  change _ = Int.bmod _ (2 ^ 64) % ((2 ^ 64 : Nat) : Int)
  rw [Int.bmod_emod]
  omega

theorem toNat_signedProduct (a b : UInt32) :
    ((a.toInt32.toInt64 * b.toInt32.toInt64).toUInt64.toNat : Int) =
      signed a * signed b % 2 ^ 64 := by
  rw [toNat_toUInt64, Int64.toInt_mul, Int32.toInt_toInt64, Int32.toInt_toInt64, toInt_toInt32,
    toInt_toInt32]
  exact Int.bmod_emod

/-! ## Quotients -/

/-- **Quotient and remainder of a division that rounds toward zero.** -/
structure RoundsToZero (a b q r : Int) : Prop where
  quotient : q = a.tdiv b
  sum : a = q * b + r
  size : r.natAbs < b.natAbs
  sign : r = 0 ∨ r.sign = a.sign

theorem roundsToZero_tdiv (a : Int) {b : Int} (hb : b ≠ 0) :
    RoundsToZero a b (a.tdiv b) (a.tmod b) where
  quotient := rfl
  sum := (Int.tdiv_mul_add_tmod a b).symm
  size := by
    rw [Int.natAbs_tmod]
    exact Nat.mod_lt _ (Int.natAbs_pos.2 hb)
  sign := by
    rw [Int.sign_tmod]
    by_cases hdvd : b ∣ a
    · exact .inl (Int.tmod_eq_zero_of_dvd hdvd)
    · rw [if_neg hdvd]
      exact .inr rfl

/-- The quotient fits a word, but for one. -/
theorem tdiv_bounds {a b : Int} (ha : - 2 ^ 31 ≤ a ∧ a < 2 ^ 31) (hb : b ≠ 0)
    (hleast : ¬ (a = - 2 ^ 31 ∧ b = -1)) : - 2 ^ 31 ≤ a.tdiv b ∧ a.tdiv b < 2 ^ 31 := by
  by_cases hone : b = 1
  · rw [hone, Int.tdiv_one]
    exact ha
  · by_cases hminus : b = -1
    · rw [hminus, Int.tdiv_neg, Int.tdiv_one]
      omega
    · -- a divisor of another size leaves no more than half
      have hhalf : (a.tdiv b).natAbs ≤ a.natAbs / 2 := by
        rw [Int.natAbs_tdiv]
        exact Nat.div_le_div_left (by omega) (by decide)
      omega

section
variable {a b : UInt32}

/-- **Signed words are divided as numbers.** -/
theorem roundsToZero_div (hb : b ≠ 0) (hleast : ¬ (signed a = - 2 ^ 31 ∧ signed b = -1)) :
    RoundsToZero (signed a) (signed b) (signed (a.toInt32 / b.toInt32).toUInt32)
      (signed (a.toInt32 % b.toInt32).toUInt32) := by
  have hne : signed b ≠ 0 := mt signed_eq_zero_iff.1 hb
  obtain ⟨hlow, hhigh⟩ := tdiv_bounds (signed_bounds a) hne hleast
  have hfits : ((signed a).tdiv (signed b)).bmod (2 ^ 32) = (signed a).tdiv (signed b) :=
    Int.bmod_eq_of_le (by omega) (by omega)
  rw [signed_toUInt32 (a.toInt32 / b.toInt32), signed_toUInt32 (a.toInt32 % b.toInt32),
    Int32.toInt_div, Int32.toInt_mod, toInt_toInt32, toInt_toInt32, hfits]
  exact roundsToZero_tdiv (signed a) hne

/-- The least number divided by minus one is itself again, without a remainder. -/
theorem signed_div_least (ha : signed a = - 2 ^ 31) (hb : signed b = -1) :
    signed (a.toInt32 / b.toInt32).toUInt32 = - 2 ^ 31 ∧
      signed (a.toInt32 % b.toInt32).toUInt32 = 0 := by
  rw [signed_toUInt32, signed_toUInt32, Int32.toInt_div, Int32.toInt_mod, toInt_toInt32,
    toInt_toInt32, ha, hb]
  decide

end

end Word
end PadScout
