import PadScout.Machine.AddressSpace
import PadScout.Proofs.Memory.Bytes
import PadScout.Proofs.Word

/-! # Bytes within a word

The bytes of a word, numbered from the most significant one (`laneByte`).  Joining and
masking go byte by byte, so a word that is stored under a mask replaces the bytes that the
mask covers and keeps the others (`laneByte_merge`).  The shifts that the address space
computes bring a byte or a half of a word to its place (`laneByte_shiftLeft_byteShift`,
`laneByte_shiftLeft_halfShift`) and bring it back (`toUInt8_shiftRight_byteShift`,
`toUInt16_shiftRight_halfShift`).
-/
namespace PadScout

/-- Byte `j` of a word, most significant first. -/
def laneByte (w : UInt32) (j : Nat) : UInt8 := byteOfWord w (UInt32.ofNat (3 - j))

theorem laneByte_or (v w : UInt32) (j : Nat) :
    laneByte (v ||| w) j = laneByte v j ||| laneByte w j := by
  rw [laneByte, byteOfWord, UInt32.shiftRight_or, UInt32.toUInt8_or]
  rfl

theorem laneByte_and (v w : UInt32) (j : Nat) :
    laneByte (v &&& w) j = laneByte v j &&& laneByte w j := by
  rw [laneByte, byteOfWord, UInt32.shiftRight_and, UInt32.toUInt8_and]
  rfl

theorem laneByte_zero {j : Nat} (hj : j < 4) : laneByte 0 j = 0 := by
  match j, hj with
  | 0, _ | 1, _ | 2, _ | 3, _ => rfl

theorem toNat_laneByte (w : UInt32) (j : Nat) :
    (laneByte w j).toNat = w.toNat / 2 ^ (8 * (3 - j)) % 2 ^ 8 :=
  toNat_byteOfWord w (by omega)

/-- The four bytes of a word, most significant first, make the word. -/
theorem wordOfBytes_laneByte (w : UInt32) :
    wordOfBytes (laneByte w 3) (laneByte w 2) (laneByte w 1) (laneByte w 0) = w :=
  wordOfBytes_byteOfWord w

/-- Two bytes as a half of a word. -/
def halfOfBytes (high low : UInt8) : UInt16 := high.toUInt16 <<< 8 ||| low.toUInt16

theorem toNat_halfOfBytes (high low : UInt8) :
    (halfOfBytes high low).toNat = 2 ^ 8 * high.toNat + low.toNat := by
  have hhigh := high.toNat_lt
  have hlow := low.toNat_lt
  rw [halfOfBytes, UInt16.toNat_or, UInt16.toNat_shiftLeft, UInt8.toNat_toUInt16,
    UInt8.toNat_toUInt16]
  change high.toNat <<< 8 % 2 ^ 16 ||| low.toNat = _
  rw [Nat.shiftLeft_eq, Nat.mod_eq_of_lt (by omega), ← Nat.shiftLeft_eq,
    ← Nat.shiftLeft_add_eq_or_of_lt hlow, Nat.shiftLeft_eq]
  omega

/-! ## Storing under a mask -/

/-- What a word becomes when the bits of another are stored under a mask. -/
def merge (w value mask : UInt32) : UInt32 := (w &&& ~~~mask) ||| (value &&& mask)

/-- A mask covers byte `j` of a word, or leaves it out. -/
def Covers (mask : UInt32) (j : Nat) (covered : Prop) [Decidable covered] : Prop :=
  if covered then laneByte mask j = 0xFF ∧ laneByte (~~~mask) j = 0
  else laneByte mask j = 0 ∧ laneByte (~~~mask) j = 0xFF

instance (mask : UInt32) (j : Nat) (covered : Prop) [Decidable covered] :
    Decidable (Covers mask j covered) :=
  inferInstanceAs (Decidable (if covered then _ else _))

/-- **A store under a mask takes the bytes that the mask covers and keeps the others.** -/
theorem laneByte_merge {mask : UInt32} {j : Nat} {covered : Prop} [Decidable covered]
    (h : Covers mask j covered) (w value : UInt32) :
    laneByte (merge w value mask) j = if covered then laneByte value j else laneByte w j := by
  rw [merge, laneByte_or, laneByte_and, laneByte_and]
  by_cases hcovered : covered
  · rw [Covers, if_pos hcovered] at h
    rw [if_pos hcovered, h.1, h.2, UInt8.and_zero, UInt8.zero_or]
    exact UInt8.and_neg_one
  · rw [Covers, if_neg hcovered] at h
    rw [if_neg hcovered, h.1, h.2, UInt8.and_zero, UInt8.or_zero]
    exact UInt8.and_neg_one

theorem covers_word : ∀ j : Fin 4, Covers 0xFFFFFFFF j True := by decide

theorem covers_half : ∀ (h : Fin 2) (j : Fin 4),
    Covers ((0xFFFF : UInt32) <<< (8 * UInt32.ofNat (2 - 2 * h))) j (j.val / 2 = h) := by decide

theorem covers_byte : ∀ l j : Fin 4,
    Covers ((0xFF : UInt32) <<< (8 * UInt32.ofNat (3 - l))) j (j = l) := by decide

/-! ## Shifts -/

namespace AddressSpace

theorem and_three (a : UInt32) : a &&& 3 = UInt32.ofNat (a.toNat % 4) := by
  apply UInt32.toNat_inj.1
  have hlow : (a &&& 3).toNat = a.toNat % 4 := Word.toNat_and_low (k := 2) (by decide) a
  rw [hlow, UInt32.toNat_ofNat']
  omega

theorem toNat_word_start (a : UInt32) : (a &&& ~~~3).toNat = a.toNat - a.toNat % 4 :=
  Word.toNat_and_not_low (k := 2) (by decide) a

theorem toNat_half_start (a : UInt32) : (a &&& ~~~1).toNat = a.toNat - a.toNat % 2 :=
  Word.toNat_and_not_low (k := 1) (by decide) a

/-- The byte at an address is numbered by the low two bits. -/
theorem byteShift_eq (a : UInt32) : byteShift a = 8 * UInt32.ofNat (3 - a.toNat % 4) := by
  rw [byteShift, and_three]
  have hlane : a.toNat % 4 < 4 := Nat.mod_lt _ (by decide)
  generalize a.toNat % 4 = j at hlane
  match j, hlane with
  | 0, _ | 1, _ | 2, _ | 3, _ => rfl

/-- The half of a word at an address is chosen by the second bit alone. -/
theorem halfShift_eq (a : UInt32) : halfShift a = 8 * UInt32.ofNat (2 - 2 * (a.toNat % 4 / 2)) := by
  have hand : a &&& 2 = UInt32.ofNat (a.toNat % 4) &&& 2 := by
    rw [← and_three, UInt32.and_assoc]
    rfl
  rw [halfShift, hand]
  have hlane : a.toNat % 4 < 4 := Nat.mod_lt _ (by decide)
  generalize a.toNat % 4 = j at hlane
  match j, hlane with
  | 0, _ | 1, _ | 2, _ | 3, _ => rfl

theorem covers_byteShift (a : UInt32) {j : Nat} (hj : j < 4) :
    Covers ((0xFF : UInt32) <<< byteShift a) j (j = a.toNat % 4) := by
  have h := covers_byte ⟨a.toNat % 4, Nat.mod_lt _ (by decide)⟩ ⟨j, hj⟩
  simpa only [byteShift_eq, Fin.mk.injEq] using h

theorem covers_halfShift (a : UInt32) {j : Nat} (hj : j < 4) :
    Covers ((0xFFFF : UInt32) <<< halfShift a) j (j / 2 = a.toNat % 4 / 2) := by
  have h := covers_half ⟨a.toNat % 4 / 2, by omega⟩ ⟨j, hj⟩
  simpa only [halfShift_eq] using h

theorem toUInt8_shiftRight_byteShift (w a : UInt32) :
    (w >>> byteShift a).toUInt8 = laneByte w (a.toNat % 4) := by
  rw [byteShift_eq]
  rfl

theorem laneByte_shiftLeft_byteShift (v : UInt8) (a : UInt32) :
    laneByte (v.toUInt32 <<< byteShift a) (a.toNat % 4) = v := by
  apply UInt8.toNat_inj.1
  have hv := v.toNat_lt
  have hlane : a.toNat % 4 < 4 := Nat.mod_lt _ (by decide)
  rw [byteShift_eq, toNat_laneByte, UInt32.toNat_shiftLeft, UInt8.toNat_toUInt32,
    Nat.shiftLeft_eq]
  generalize a.toNat % 4 = j at hlane
  match j, hlane with
  | 0, _ | 1, _ | 2, _ | 3, _ =>
    simp only [UInt32.reduceOfNat, UInt32.reduceMul, UInt32.reduceToNat, Nat.reduceSub,
      Nat.reduceMul, Nat.reducePow, Nat.reduceMod]
    omega

/-- The two bytes of a half, brought to the place of the half. -/
theorem laneByte_shiftLeft_halfShift (v : UInt16) (a : UInt32) :
    laneByte (v.toUInt32 <<< halfShift a) (2 * (a.toNat % 4 / 2)) = (v >>> 8).toUInt8 ∧
      laneByte (v.toUInt32 <<< halfShift a) (2 * (a.toNat % 4 / 2) + 1) = v.toUInt8 := by
  have hv := v.toNat_lt
  have hhalf : a.toNat % 4 / 2 < 2 := by omega
  refine ⟨UInt8.toNat_inj.1 ?_, UInt8.toNat_inj.1 ?_⟩
  all_goals
    rw [halfShift_eq, toNat_laneByte, UInt32.toNat_shiftLeft, UInt16.toNat_toUInt32,
      Nat.shiftLeft_eq, UInt16.toNat_toUInt8]
    generalize a.toNat % 4 / 2 = h at hhalf
    match h, hhalf with
    | 0, _ | 1, _ =>
      simp only [UInt16.toNat_shiftRight, Nat.shiftRight_eq_div_pow, UInt16.reduceToNat,
        UInt32.reduceOfNat, UInt32.reduceMul, UInt32.reduceToNat,
        Nat.reduceSub, Nat.reduceMul, Nat.reduceAdd, Nat.reducePow, Nat.reduceMod]
      omega

/-- Half of a word, from its two bytes. -/
theorem toUInt16_shiftRight_halfShift (w a : UInt32) :
    (w >>> halfShift a).toUInt16 = halfOfBytes (laneByte w (2 * (a.toNat % 4 / 2)))
      (laneByte w (2 * (a.toNat % 4 / 2) + 1)) := by
  have hhalf : a.toNat % 4 / 2 < 2 := by omega
  apply UInt16.toNat_inj.1
  rw [toNat_halfOfBytes, toNat_laneByte, toNat_laneByte, halfShift_eq,
    UInt32.toNat_toUInt16, UInt32.toNat_shiftRight, Nat.shiftRight_eq_div_pow]
  generalize a.toNat % 4 / 2 = h at hhalf
  match h, hhalf with
  | 0, _ | 1, _ =>
    simp only [UInt32.reduceOfNat, UInt32.reduceMul, UInt32.reduceToNat, Nat.reduceSub,
      Nat.reduceMul, Nat.reduceAdd, Nat.reducePow, Nat.reduceMod]
    omega

end AddressSpace
end PadScout
