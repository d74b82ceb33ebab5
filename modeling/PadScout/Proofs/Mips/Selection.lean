import PadScout.Proofs.Mips.Packing

/-! # Which kind a word selects

A word names a family and a code in it (`Family.ofWord?`), and the tables have at most
one kind for that (`Kind.ofWord_eq_ok_iff`).  The family and code of a word depend on
the selecting bits alone: a word of a kind carries the selector of the kind there
(`Family.and_mask_of_ofWord?`), and a word that carries it selects the kind
(`Kind.ofWord?_of_and`).
-/
namespace PadScout
namespace Mips

/-- The family of a word, with the code that the word has in it.  The words of the
floating-point coprocessor are in no family. -/
def Family.ofWord? (w : UInt32) : Option Family :=
  if w >>> 26 = 0 then some (.special (w &&& 0x3F))
  else if w >>> 26 = 1 then some (.regImm (Field.rt.extract w))
  else if w >>> 26 = 0x10 then some (.system (Field.rs.extract w))
  else if w >>> 26 = 0x11 then none
  else some (.immediate (w >>> 26))

/-- The error for a word that selects no kind: it names the family and the code that is
missing there. -/
def DecodeError.unselected (w : UInt32) : DecodeError :=
  match Family.ofWord? w with
  | some (.special code) => .unknownFunction w code
  | some (.regImm code) => .unknownRegImm w code
  | some (.system code) => .unknownSystem w code
  | some (.immediate code) => .unknownOpcode w code
  | some .nop | none => .floatingPoint w

/-- The word of a family with its code and nothing else. -/
def Family.word : Family → UInt32
  | .nop => 0
  | .immediate opcode => opcode <<< 26
  | .special function => function
  | .regImm code => (0x04000000 : UInt32) ||| (code <<< 16)
  | .system code => (0x40000000 : UInt32) ||| (code <<< 21)

/-! ## The bits of the family -/

namespace Family

/-- The bits of the opcode. -/
def opcodeMask : UInt32 := 0xFC000000

theorem bit_opcodeMask (b : Nat) : Word.bit opcodeMask b = decide (26 ≤ b ∧ b < 32) := by
  rcases Nat.lt_or_ge b 32 with hb | hb
  · revert b
    decide
  · rw [Word.bit_of_ge hb, decide_eq_false (by omega)]

theorem opcode_shiftLeft (w : UInt32) : w >>> 26 <<< 26 = w &&& opcodeMask := by
  apply Word.ext
  intro b hb
  rw [Word.bit_shiftLeft (by decide), Word.bit_shiftRight (by decide), Word.bit_and,
    bit_opcodeMask]
  change (decide (b < 32) && decide (26 ≤ b) && Word.bit w (26 + (b - 26))) = _
  by_cases hlow : 26 ≤ b
  · simp [hb, hlow]
  · simp [hlow]

theorem opcode_congr {v w : UInt32} (h : v &&& opcodeMask = w &&& opcodeMask) :
    v >>> 26 = w >>> 26 := by
  apply Word.ext
  intro b _
  rw [Word.bit_shiftRight (by decide), Word.bit_shiftRight (by decide)]
  have hbit := congrArg (Word.bit · ((26 : UInt32).toNat + b)) h
  simp only [Word.bit_and, bit_opcodeMask] at hbit
  change (Word.bit v (26 + b) && _) = (Word.bit w (26 + b) && _) at hbit
  change Word.bit v (26 + b) = Word.bit w (26 + b)
  rcases Nat.lt_or_ge (26 + b) 32 with hb | hb
  · simpa [hb] using hbit
  · rw [Word.bit_of_ge hb, Word.bit_of_ge hb]

theorem extract_congr {f : Field} {v w : UInt32} (h : v &&& f.mask = w &&& f.mask) :
    f.extract v = f.extract w := by
  apply Field.extract_eq_of_and_mask (f.extract_lt w)
  rw [Field.extract_shiftLeft, h]

/-- The opcode counts in every family. -/
theorem mask_and_opcodeMask (f : Family) : f.mask &&& opcodeMask = opcodeMask := by
  cases f <;> simp only [mask] <;> decide

/-- A word has the word of its family in the bits of the family. -/
theorem and_mask_of_ofWord? {w : UInt32} {f : Family} (h : ofWord? w = some f) :
    w &&& f.mask = f.word := by
  have hopcode := opcode_shiftLeft w
  unfold ofWord? at h
  split at h
  · rename_i hclass
    cases h
    rw [hclass] at hopcode
    rw [mask, show (0xFC00003F : UInt32) = opcodeMask ||| 0x3F by decide, ← Word.and_or_and,
      ← hopcode, UInt32.zero_shiftLeft, UInt32.zero_or, word]
  split at h
  · rename_i hclass
    cases h
    rw [hclass] at hopcode
    rw [mask, show (0xFC1F0000 : UInt32) = opcodeMask ||| Field.rt.mask by decide,
      ← Word.and_or_and, ← hopcode, ← Field.extract_shiftLeft]
    rfl
  split at h
  · rename_i hclass
    cases h
    rw [hclass] at hopcode
    rw [mask, show (0xFFE00000 : UInt32) = opcodeMask ||| Field.rs.mask by decide,
      ← Word.and_or_and, ← hopcode, ← Field.extract_shiftLeft]
    rfl
  split at h
  · cases h
  · cases h
    exact hopcode.symm

/-- **Words that agree in the bits of a family are in it together.** -/
theorem ofWord?_congr {v w : UInt32} {f : Family} (h : v &&& f.mask = w &&& f.mask)
    (hv : ofWord? v = some f) : ofWord? w = some f := by
  have hclass := opcode_congr (Word.and_congr_within h (mask_and_opcodeMask f))
  unfold ofWord? at hv ⊢
  rw [← hclass]
  by_cases h0 : v >>> 26 = 0
  · rw [if_pos h0] at hv ⊢
    cases hv
    rw [Word.and_congr_within h (show (0xFC00003F : UInt32) &&& 0x3F = 0x3F by decide)]
  rw [if_neg h0] at hv ⊢
  by_cases h1 : v >>> 26 = 1
  · rw [if_pos h1] at hv ⊢
    cases hv
    rw [extract_congr (Word.and_congr_within h
      (show (0xFC1F0000 : UInt32) &&& Field.rt.mask = Field.rt.mask by decide))]
  rw [if_neg h1] at hv ⊢
  by_cases h2 : v >>> 26 = 0x10
  · rw [if_pos h2] at hv ⊢
    cases hv
    rw [extract_congr (Word.and_congr_within h
      (show (0xFFE00000 : UInt32) &&& Field.rs.mask = Field.rs.mask by decide))]
  rw [if_neg h2] at hv ⊢
  exact hv

end Family

/-! ## The kind of a word -/

namespace Kind

theorem selector_eq_word (k : Kind) : k.selector = k.family.word := rfl

/-- A selector selects its own kind, but for that of `nop`, which is a shift. -/
theorem ofWord?_selector {k : Kind} (h : k ≠ .nop) :
    Family.ofWord? k.selector = some k.family := by
  revert h
  cases k <;> decide

/-- **A word that carries a selector selects the kind.** -/
theorem ofWord?_of_and {k : Kind} {w : UInt32} (hk : k ≠ .nop)
    (h : w &&& k.family.mask = k.selector) : Family.ofWord? w = some k.family := by
  refine Family.ofWord?_congr (v := k.selector) ?_ (ofWord?_selector hk)
  rw [selector_and_familyMask, h]

/-- The kind of a word is looked up in the tables by its family. -/
theorem ofWord_eq (w : UInt32) :
    ofWord w = match (Family.ofWord? w).bind ofFamily? with
      | some k => .ok k
      | none => .error (.unselected w) := by
  unfold ofWord DecodeError.unselected Family.ofWord?
  by_cases h0 : w >>> 26 = 0
  · simp only [h0, if_true]
    rfl
  by_cases h1 : w >>> 26 = 1
  · simp only [h1, if_true]
    rfl
  by_cases h2 : w >>> 26 = 0x10
  · simp only [h2, if_true]
    rfl
  by_cases h3 : w >>> 26 = 0x11
  · simp only [h3, if_true]
    rfl
  · simp only [h0, h1, h2, h3, if_false]
    rfl

theorem ofWord_eq_ok_iff {w : UInt32} {k : Kind} :
    ofWord w = .ok k ↔ Family.ofWord? w = some k.family := by
  rw [ofWord_eq]
  constructor
  · intro h
    split at h
    · rename_i hfound
      cases h
      obtain ⟨f, hf, hk⟩ := Option.bind_eq_some_iff.1 hfound
      rw [hf, ofFamily?_eq_some_iff.1 hk]
    · cases h
  · intro h
    rw [h, Option.bind_some, ofFamily?_family]

theorem ofWord_eq_error_iff {w : UInt32} {e : DecodeError} :
    ofWord w = .error e ↔
      (∀ k : Kind, Family.ofWord? w ≠ some k.family) ∧ e = .unselected w := by
  constructor
  · intro h
    refine ⟨fun k hk => ?_, ?_⟩
    · rw [ofWord_eq_ok_iff.2 hk] at h
      cases h
    · rw [ofWord_eq] at h
      split at h
      · cases h
      · cases h
        rfl
  · rintro ⟨hnone, rfl⟩
    cases h : ofWord w with
    | ok k => exact absurd (ofWord_eq_ok_iff.1 h) (hnone k)
    | error e =>
      rw [ofWord_eq] at h
      split at h
      · cases h
      · exact h.symm

end Kind

end Mips
end PadScout
