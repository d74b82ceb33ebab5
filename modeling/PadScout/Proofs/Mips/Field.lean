import Mathlib.Data.List.Pairwise
import PadScout.Mips.Encoding
import PadScout.Proofs.Word

/-! # How fields tile a word

Where the fields of an instruction word lie, bit by bit, and the facts of the tables
that encoding and decoding rest on: the fields of one layout are apart from each
other (`Layout.pairwise_fields`) and from the bits that select the kind
(`Kind.selector_and_mask`, `Kind.mask_and_familyMask`), and no two kinds are selected
alike (`Kind.ofFamily?_eq_some_iff`).  Everything else is proved from these, so that
a change of the tables is a change of this module.
-/
namespace PadScout
namespace Mips

namespace Field

theorem low_lt (f : Field) : f.low.toNat < 32 := by
  cases f <;> decide

/-- No field reaches beyond the word. -/
theorem end_le (f : Field) : f.low.toNat + f.width.toNat ≤ 32 := by
  cases f <;> decide

theorem bit_ones (f : Field) (b : Nat) :
    Word.bit ((1 <<< f.width) - 1) b = decide (b < f.width.toNat) := by
  rcases Nat.lt_or_ge b 32 with hb | hb
  · revert b
    cases f <;> decide
  · have := f.end_le
    rw [Word.bit_of_ge hb, decide_eq_false (by omega)]

/-- The bits of a field are as many as it is wide, from its lowest one on. -/
theorem bit_mask (f : Field) (b : Nat) :
    Word.bit f.mask b = decide (f.low.toNat ≤ b ∧ b < f.low.toNat + f.width.toNat) := by
  have hend := f.end_le
  rw [mask, Word.bit_shiftLeft f.low_lt, bit_ones, ← Bool.decide_and, ← Bool.decide_and]
  congr 1
  apply propext
  omega

theorem mask_ne_zero (f : Field) : f.mask ≠ 0 := by
  cases f <;> decide

theorem bit_extract (f : Field) (w : UInt32) (b : Nat) :
    Word.bit (f.extract w) b = (Word.bit w (f.low.toNat + b) && decide (b < f.width.toNat)) := by
  rw [extract, Word.bit_and, Word.bit_shiftRight f.low_lt, bit_ones]

theorem extract_lt (f : Field) (w : UInt32) : (f.extract w).toNat < 2 ^ f.width.toNat := by
  have hle : (f.extract w).toNat ≤ ((1 <<< f.width) - 1 : UInt32).toNat := by
    rw [extract, UInt32.toNat_and]
    exact Nat.and_le_right
  have hones : ((1 <<< f.width) - 1 : UInt32).toNat < 2 ^ f.width.toNat := by
    cases f <;> decide
  omega

/-- What is read off a field, put back. -/
theorem extract_shiftLeft (f : Field) (w : UInt32) : f.extract w <<< f.low = w &&& f.mask := by
  apply Word.ext
  intro b hb
  rw [Word.bit_shiftLeft f.low_lt, bit_extract, Word.bit_and, bit_mask]
  by_cases hlow : f.low.toNat ≤ b
  · rw [show f.low.toNat + (b - f.low.toNat) = b by omega]
    have hiff : b - f.low.toNat < f.width.toNat ↔ b < f.low.toNat + f.width.toNat := by omega
    simp [hb, hlow, hiff]
  · simp [hlow]

/-- Bits that fit a field stay inside it. -/
theorem shiftLeft_and_mask {f : Field} {bits : UInt32} (h : bits.toNat < 2 ^ f.width.toNat) :
    bits <<< f.low &&& f.mask = bits <<< f.low := by
  apply Word.ext
  intro b hb
  rw [Word.bit_and, bit_mask, Word.bit_shiftLeft f.low_lt]
  by_cases hin : f.low.toNat ≤ b ∧ b < f.low.toNat + f.width.toNat
  · simp [hin]
  · rcases Nat.lt_or_ge b f.low.toNat with hlow | hlow
    · simp [Nat.not_le.2 hlow]
    · rw [Word.bit_of_lt_two_pow h (by omega)]
      simp

/-- Bits that fit a field are read back from it, whatever stands beside it. -/
theorem extract_eq_of_and_mask {f : Field} {bits w : UInt32}
    (h : bits.toNat < 2 ^ f.width.toNat) (hw : w &&& f.mask = bits <<< f.low) :
    f.extract w = bits := by
  apply Word.ext
  intro b hb
  rw [bit_extract]
  by_cases hin : b < f.width.toNat
  · have hend := f.end_le
    have hbit := congrArg (Word.bit · (f.low.toNat + b)) hw
    simp only [Word.bit_and, bit_mask, Word.bit_shiftLeft f.low_lt] at hbit
    rw [show f.low.toNat + b - f.low.toNat = b by omega] at hbit
    simpa [hin, show f.low.toNat + b < 32 by omega] using hbit
  · rw [Word.bit_of_lt_two_pow h (by omega)]
    simp [hin]

end Field

/-! ## The tables -/

/-- The bits by which the words of a family are told from all others. -/
def Family.mask : Family → UInt32
  | .nop => 0xFFFFFFFF
  | .immediate _ => 0xFC000000
  | .special _ => 0xFC00003F
  | .regImm _ => 0xFC1F0000
  | .system _ => 0xFFE00000

/-- **No two fields of a layout overlap.** -/
theorem Layout.pairwise_fields (l : Layout) :
    l.fields.Pairwise fun f g => f.mask &&& g.mask = 0 := by
  cases l <;> decide

theorem Layout.mask_and_mask (l : Layout) {f g : Field} (hf : f ∈ l.fields) (hg : g ∈ l.fields)
    (h : f ≠ g) : f.mask &&& g.mask = 0 := by
  have hsymm : Std.Symm fun f g : Field => f.mask &&& g.mask = 0 :=
    ⟨fun f g hfg => by rwa [UInt32.and_comm]⟩
  exact l.pairwise_fields.forall hf hg h

namespace Kind

/-- A family selects at most one kind. -/
theorem ofFamily?_family (k : Kind) : ofFamily? k.family = some k := by
  cases k <;> rfl

theorem ofFamily?_eq_some_iff {f : Family} {k : Kind} : ofFamily? f = some k ↔ f = k.family := by
  constructor
  · intro h
    have hfound := List.find?_some h
    exact (eq_of_beq hfound).symm
  · rintro rfl
    exact k.ofFamily?_family

/-- **The selecting bits are outside all fields.** -/
theorem selector_and_mask (k : Kind) : ∀ f ∈ k.layout.fields, k.selector &&& f.mask = 0 := by
  cases k <;> decide

theorem selector_and_familyMask (k : Kind) : k.selector &&& k.family.mask = k.selector := by
  cases k <;> rfl

/-- **Operands do not reach the bits that tell the family.** -/
theorem mask_and_familyMask (k : Kind) :
    ∀ f ∈ k.layout.fields, f.mask &&& k.family.mask = 0 := by
  cases k <;> decide

end Kind

end Mips
end PadScout
