import PadScout.Proofs.Mips.RoundTrip

/-! # Which words decode

The decoder accepts a word if encoding gives it back.  Here that test is told from the
bits of the word alone: a word is accepted if every set bit belongs to the selector of
its kind or to a field of the layout (`Kind.Tidy`), and what is then read off it has just
the operands of the layout (`decode_iff_tidy`).  So the accepted words are those that
encode an instruction.
-/
namespace PadScout
namespace Mips

namespace Kind

/-- Whether bit `b` of a word is a selecting bit of the kind or inside one of its
fields. -/
def Accounts (k : Kind) (b : Nat) : Prop :=
  Word.bit k.selector b = true ∨
    ∃ f ∈ k.layout.fields, f.low.toNat ≤ b ∧ b < f.low.toNat + f.width.toNat

/-- A word without stray bits. -/
def Tidy (k : Kind) (w : UInt32) : Prop := ∀ b, Word.bit w b = true → k.Accounts b

theorem bit_foldl_mask (fs : List Field) (m : UInt32) (b : Nat) :
    Word.bit (fs.foldl (fun m f => m ||| f.mask) m) b = true ↔
      Word.bit m b = true ∨
        ∃ f ∈ fs, f.low.toNat ≤ b ∧ b < f.low.toNat + f.width.toNat := by
  induction fs generalizing m with
  | nil => simp
  | cons f fs ih =>
    rw [List.foldl_cons, ih, Word.bit_or, Bool.or_eq_true, Field.bit_mask, decide_eq_true_eq]
    simp only [List.mem_cons, exists_eq_or_imp, or_assoc]

theorem bit_operandMask (k : Kind) (b : Nat) :
    Word.bit k.operandMask b = true ↔
      ∃ f ∈ k.layout.fields, f.low.toNat ≤ b ∧ b < f.low.toNat + f.width.toNat := by
  rw [operandMask, bit_foldl_mask, Word.bit_zero]
  simp

/-- Fields lie in the bits of the operands. -/
theorem mask_and_not_operandMask (k : Kind) {f : Field} (h : f ∈ k.layout.fields) :
    f.mask &&& ~~~k.operandMask = 0 := by
  rw [Word.and_eq_zero_iff]
  intro b hb
  rw [f.bit_mask, decide_eq_true_eq] at hb
  rw [Word.bit_not, (k.bit_operandMask b).2 ⟨f, h, hb⟩, Bool.not_true, Bool.and_false]

/-- No bit both selects the kind and belongs to an operand. -/
theorem operandMask_and_selector (k : Kind) : k.operandMask &&& k.selector = 0 := by
  rw [Word.and_eq_zero_iff]
  intro b hb
  obtain ⟨f, hf, hin⟩ := (k.bit_operandMask b).1 hb
  have hapart := k.selector_and_mask f hf
  rw [UInt32.and_comm, Word.and_eq_zero_iff] at hapart
  exact hapart b (by rw [f.bit_mask, decide_eq_true hin])

theorem bit_operandMask_of_selector {k : Kind} {b : Nat} (h : Word.bit k.selector b = true) :
    Word.bit k.operandMask b = false := by
  have hapart := k.operandMask_and_selector
  rw [UInt32.and_comm, Word.and_eq_zero_iff] at hapart
  exact hapart b h

/-- **Encoding gives a word back if it has no stray bits.** -/
theorem canonical_iff_tidy {k : Kind} {w : UInt32} (h : Family.ofWord? w = some k.family) :
    Canonical k w ↔ k.Tidy w := by
  have hselector := Family.and_mask_of_ofWord? h
  rw [← selector_eq_word] at hselector
  constructor
  · intro hcanonical b hb
    by_cases hmask : Word.bit k.operandMask b = true
    · exact Or.inr ((k.bit_operandMask b).1 hmask)
    · refine Or.inl ?_
      rw [← show w &&& ~~~k.operandMask = k.selector from hcanonical]
      simp [hb, hmask, Word.lt_of_bit hb]
  · intro htidy
    apply Word.ext
    intro b hb
    rw [Word.bit_and, Word.bit_not]
    by_cases hs : Word.bit k.selector b = true
    · have hw : Word.bit w b = true := by
        rw [← hselector, Word.bit_and, Bool.and_eq_true] at hs
        exact hs.1
      simp [hs, hw, hb, bit_operandMask_of_selector hs]
    · by_cases hw : Word.bit w b = true
      · have hmask := (k.bit_operandMask b).2 ((htidy b hw).resolve_left hs)
        simp [hs, hmask]
      · simp [hs, hw]

/-- The test of the decoder, without encoding. -/
theorem encode_ofFields_eq_iff (k : Kind) (w : UInt32) :
    (Instruction.ofFields k w).encode = .ok w ↔ Canonical k w := by
  rw [Instruction.encode_ofFields, Except.ok.injEq]
  constructor
  · intro h
    unfold Canonical
    apply Word.ext
    intro b hb
    have hbit := congrArg (Word.bit · b) h
    simp only [Word.bit_or, Word.bit_and] at hbit
    rw [Word.bit_and, Word.bit_not, ← hbit]
    cases hs : Word.bit k.selector b
    · cases Word.bit w b <;> cases Word.bit k.operandMask b <;> simp
    · simp [bit_operandMask_of_selector hs, hb]
  · intro h
    rw [← show w &&& ~~~k.operandMask = k.selector from h, Word.and_not_or_and]

end Kind

/-! ## The decoder, case by case -/

theorem decode_of_selected {w : UInt32} {k : Kind} (hw : w ≠ 0)
    (hk : Family.ofWord? w = some k.family) :
    decode w =
      if Canonical k w then .ok (Instruction.ofFields k w) else .error (.nonCanonical w) := by
  have htest : ((Instruction.ofFields k w).encode.toOption = some w) ↔ Canonical k w := by
    rw [← Kind.encode_ofFields_eq_iff, Instruction.encode_ofFields, Except.ok.injEq]
    exact Option.some_inj
  rw [decode, if_neg hw, Kind.ofWord_eq_ok_iff.2 hk]
  exact if_congr htest rfl rfl

theorem decode_of_unselected {w : UInt32} (hw : w ≠ 0)
    (h : ∀ k : Kind, Family.ofWord? w ≠ some k.family) :
    decode w = .error (.unselected w) := by
  rw [decode, if_neg hw, Kind.ofWord_eq_error_iff.2 ⟨h, rfl⟩]

theorem unselected_ne_nonCanonical (w : UInt32) :
    DecodeError.unselected w ≠ .nonCanonical w := by
  unfold DecodeError.unselected
  split <;> simp

/-- Any word that decodes was read field by field, or is zero. -/
theorem decode_eq_ok_iff {w : UInt32} {i : Instruction} :
    decode w = .ok i ↔ w = 0 ∧ i = .nop ∨ w ≠ 0 ∧ ∃ k : Kind,
      Family.ofWord? w = some k.family ∧ k.Tidy w ∧ i = .ofFields k w := by
  by_cases hw : w = 0
  · simp [decode, hw, eq_comm]
  by_cases hselected : ∃ k : Kind, Family.ofWord? w = some k.family
  · obtain ⟨k, hk⟩ := hselected
    have hsame : ∀ l : Kind, Family.ofWord? w = some l.family → l = k := by
      intro l hl
      have hboth := (Kind.ofWord_eq_ok_iff.2 hl).symm.trans (Kind.ofWord_eq_ok_iff.2 hk)
      exact Except.ok.inj hboth
    rw [decode_of_selected hw hk]
    constructor
    · intro h
      split at h
      · rename_i hcanonical
        cases h
        exact Or.inr ⟨hw, k, hk, (Kind.canonical_iff_tidy hk).1 hcanonical, rfl⟩
      · cases h
    · rintro (⟨h, -⟩ | ⟨-, l, hl, htidy, rfl⟩)
      · exact absurd h hw
      · obtain rfl := hsame l hl
        exact if_pos ((Kind.canonical_iff_tidy hk).2 htidy)
  · rw [decode_of_unselected hw fun k hk => hselected ⟨k, hk⟩]
    constructor
    · intro h
      cases h
    · rintro (⟨h, -⟩ | ⟨-, k, hk, -⟩)
      · exact absurd h hw
      · exact absurd ⟨k, hk⟩ hselected

theorem decode_eq_nonCanonical_iff {w : UInt32} :
    decode w = .error (.nonCanonical w) ↔ w ≠ 0 ∧ ∃ k : Kind,
      Family.ofWord? w = some k.family ∧ ¬ k.Tidy w := by
  by_cases hw : w = 0
  · simp [decode, hw]
  constructor
  · intro h
    refine ⟨hw, ?_⟩
    by_cases hselected : ∃ k : Kind, Family.ofWord? w = some k.family
    · obtain ⟨k, hk⟩ := hselected
      refine ⟨k, hk, fun htidy => ?_⟩
      rw [decode_of_selected hw hk, if_pos ((Kind.canonical_iff_tidy hk).2 htidy)] at h
      cases h
    · rw [decode_of_unselected hw fun k hk => hselected ⟨k, hk⟩] at h
      exact absurd (Except.error.inj h) (unselected_ne_nonCanonical w)
  · rintro ⟨-, k, hk, hstray⟩
    rw [decode_of_selected hw hk, if_neg fun h => hstray ((Kind.canonical_iff_tidy hk).1 h)]

/-- **What is decoded has the operands of its layout, and gives its word back.** -/
theorem has_and_encode_of_decode {w : UInt32} {i : Instruction} (h : decode w = .ok i) :
    (∀ f, i.has f = true ↔ f ∈ i.kind.layout.fields) ∧ i.encode = .ok w := by
  rcases decode_eq_ok_iff.1 h with ⟨rfl, rfl⟩ | ⟨-, k, hk, htidy, rfl⟩
  · exact ⟨by intro f; cases f <;> decide, rfl⟩
  · refine ⟨fun f => ?_, ?_⟩
    · rw [Instruction.has_ofFields, Instruction.kind_ofFields]
    · exact (Kind.encode_ofFields_eq_iff k w).2 ((Kind.canonical_iff_tidy hk).2 htidy)

/-- **The decoder accepts exactly the tidy words**: zero, which is `nop`, and the words
that select a kind and set no bit beside its selector and its fields.  A stray bit is the
error of a word with a kind; a word without a kind is told by its family.  What is
accepted has exactly the operands of its layout and is encoded as the word again, and
the word of any instruction is accepted. -/
theorem decode_iff_tidy (w : UInt32) :
    (∀ i, decode w = .ok i ↔ w = 0 ∧ i = .nop ∨ w ≠ 0 ∧ ∃ k : Kind,
      Family.ofWord? w = some k.family ∧ k.Tidy w ∧ i = .ofFields k w) ∧
    (decode w = .error (.nonCanonical w) ↔ w ≠ 0 ∧ ∃ k : Kind,
      Family.ofWord? w = some k.family ∧ ¬ k.Tidy w) ∧
    (w ≠ 0 → (∀ k : Kind, Family.ofWord? w ≠ some k.family) →
      decode w = .error (.unselected w)) ∧
    (∀ i, decode w = .ok i →
      (∀ f, i.has f = true ↔ f ∈ i.kind.layout.fields) ∧ i.encode = .ok w) ∧
    (∀ i : Instruction, i.encode = .ok w → ∃ j, decode w = .ok j) :=
  ⟨fun _ => decode_eq_ok_iff, decode_eq_nonCanonical_iff, decode_of_unselected,
    fun _ => has_and_encode_of_decode, fun i h => ⟨i.normal, Instruction.decode_of_encode h⟩⟩

/-- A return through `ra` with a stray bit in the field of a register that it lacks. -/
example : decode 0x03E00808 = .error (.nonCanonical 0x03E00808) := by decide

end Mips
end PadScout
