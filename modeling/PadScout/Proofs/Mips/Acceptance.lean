import PadScout.Proofs.Mips.Canonical
import PadScout.Proofs.Search

/-! # Which instructions have a word

An instruction has a word if every operand that its layout asks for is there and within its
limits (`Instruction.Suits`).  Operands are checked in one order for all layouts
(`Field.order`), so the first that does not suit is the one that is complained about, and the
complaint says what is wrong with it (`Instruction.Fault`).  Operands outside the layout do
not count at all.  The word that is found keeps each operand in bits of its own, from which it
is read back whatever stands in the other bits (`encode_iff_suits`).
-/
namespace PadScout
namespace Mips

/-! ## Limits -/

/-- A distance that a branch can hold: a multiple of four in eighteen signed bits. -/
def BranchDistance (d : Int) : Prop := 4 ∣ d ∧ -0x20000 ≤ d ∧ d ≤ 0x1FFFC

/-- A target that a jump can hold: a multiple of four in twenty-eight bits. -/
def JumpTarget (t : Nat) : Prop := 4 ∣ t ∧ t < 0x10000000

theorem branchFits_iff {d : Int} : branchFits d = true ↔ BranchDistance d := by
  rw [branchFits, Bool.and_eq_true, beq_iff_eq, decide_eq_true_eq, ← Int.dvd_iff_emod_eq_zero,
    BranchDistance]

theorem jumpFits_iff {t : UInt32} : jumpFits t = true ↔ JumpTarget t.toNat := by
  rw [jumpFits, Bool.and_eq_true, beq_iff_eq, decide_eq_true_eq, ← UInt32.toNat_inj,
    UInt32.toNat_mod, UInt32.lt_iff_toNat_lt, JumpTarget, Nat.dvd_iff_mod_eq_zero]
  rfl

namespace Field

/-- **The order in which operands are checked.** -/
def order : List Field := [.rs, .rt, .rd, .shift, .imm, .offset, .target, .system, .cache]

example : order.map name =
    ["rs", "rt", "rd", "shift", "imm", "offset", "target", "cop0", "cache"] := rfl

end Field

/-- Every layout keeps to the order. -/
theorem Layout.fields_eq_filter (l : Layout) :
    l.fields = Field.order.filter fun f => decide (f ∈ l.fields) := by
  cases l <;> decide

namespace Instruction

/-! ## Operands that suit -/

/-- **An operand suits its field** if it is there and within the limits of the field. -/
def Suits (i : Instruction) : Field → Prop
  | .shift => ∃ n, i.shift = some n ∧ n.toNat ≤ 31
  | .offset => ∃ d, i.offset = some d ∧ BranchDistance d.toInt
  | .target => ∃ t, i.target = some t ∧ JumpTarget t.toNat
  -- every register, immediate and cache operation can be held
  | f => i.has f = true

/-- **What is wrong with an operand**: it is missing, or it is beyond the limits of its field,
and then its value is told. -/
inductive Fault (i : Instruction) : Field → EncodeError → Prop where
  | missing (f : Field) (h : i.has f = false) : Fault i f (.missing i.kind f)
  | shift (n : UInt8) (h : i.shift = some n) (hn : 31 < n.toNat) :
      Fault i .shift (.outOfRange i.kind .shift n.toNat)
  | offset (d : Int32) (h : i.offset = some d) (hd : ¬ BranchDistance d.toInt) :
      Fault i .offset (.outOfRange i.kind .offset d.toInt)
  | target (t : UInt32) (h : i.target = some t) (ht : ¬ JumpTarget t.toNat) :
      Fault i .target (.outOfRange i.kind .target t.toNat)

/-- Two instructions have the same operand in a field. -/
def SameAt (i j : Instruction) : Field → Prop
  | .rs => i.rs = j.rs
  | .rt => i.rt = j.rt
  | .rd => i.rd = j.rd
  | .shift => i.shift = j.shift
  | .imm => i.imm = j.imm
  | .offset => i.offset = j.offset
  | .target => i.target = j.target
  | .system => i.system = j.system
  | .cache => i.cache = j.cache

section Operand
variable {i j : Instruction} {f : Field}

theorem operand_of_missing (h : i.has f = false) : i.operand f = .error (.missing i.kind f) := by
  cases f with
  | rs | rt | rd | shift | imm | offset | target | system | cache =>
    simp only [has, Option.isSome_eq_false_iff, Option.isNone_iff_eq_none] at h
    simp only [operand, h]

/-- **An operand is refused for what is wrong with it.** -/
theorem operand_eq_error_iff {e : EncodeError} : i.operand f = .error e ↔ i.Fault f e := by
  constructor
  · intro h
    cases hhas : i.has f with
    | false =>
      rw [operand_of_missing hhas] at h
      cases h
      exact .missing f hhas
    | true =>
      cases f with
      | rs | rt | rd | imm | system | cache =>
        obtain ⟨a, ha⟩ := Option.isSome_iff_exists.1 hhas
        simp [operand, ha] at h
      | shift =>
        obtain ⟨n, hn⟩ := Option.isSome_iff_exists.1 hhas
        simp only [operand, hn] at h
        split at h
        · cases h
        · next hlimit =>
          cases h
          exact .shift n hn (Nat.lt_of_not_le hlimit)
      | offset =>
        obtain ⟨d, hd⟩ := Option.isSome_iff_exists.1 hhas
        simp only [operand, hd] at h
        split at h
        · cases h
        · next hlimit =>
          cases h
          exact .offset d hd (mt branchFits_iff.2 hlimit)
      | target =>
        obtain ⟨t, ht⟩ := Option.isSome_iff_exists.1 hhas
        simp only [operand, ht] at h
        split at h
        · cases h
        · next hlimit =>
          cases h
          exact .target t ht (mt jumpFits_iff.2 hlimit)
  · intro h
    cases h with
    | missing f h => exact operand_of_missing h
    | shift n h hn =>
      simp only [operand, h]
      exact if_neg (Nat.not_le_of_lt hn)
    | offset d h hd =>
      simp only [operand, h]
      exact if_neg (mt branchFits_iff.1 hd)
    | target t h ht =>
      simp only [operand, h]
      exact if_neg (mt jumpFits_iff.1 ht)

/-- **An operand that suits fills its field.** -/
theorem exists_operand_iff : (∃ bits, i.operand f = .ok bits) ↔ i.Suits f := by
  simp only [operand_eq_ok_iff]
  cases f with
  | rs | rt | rd | imm | system | cache =>
    simp only [Suits, has, Option.isSome_iff_exists, Fills]
    constructor
    · rintro ⟨-, a, ha, -⟩
      exact ⟨a, ha⟩
    · rintro ⟨a, ha⟩
      exact ⟨_, a, ha, rfl⟩
  | shift =>
    constructor
    · rintro ⟨-, n, hn, hlimit, -⟩
      exact ⟨n, hn, hlimit⟩
    · rintro ⟨n, hn, hlimit⟩
      exact ⟨_, n, hn, hlimit, rfl⟩
  | offset =>
    constructor
    · rintro ⟨-, d, hd, hlimit, -⟩
      exact ⟨d, hd, branchFits_iff.1 hlimit⟩
    · rintro ⟨d, hd, hlimit⟩
      exact ⟨_, d, hd, branchFits_iff.2 hlimit, rfl⟩
  | target =>
    constructor
    · rintro ⟨-, t, ht, hlimit, -⟩
      exact ⟨t, ht, jumpFits_iff.1 hlimit⟩
    · rintro ⟨t, ht, hlimit⟩
      exact ⟨_, t, ht, jumpFits_iff.2 hlimit, rfl⟩

theorem operand_congr (hkind : i.kind = j.kind) (h : i.SameAt j f) : i.operand f = j.operand f := by
  cases f with
  | rs | rt | rd | shift | imm | offset | target | system | cache =>
    simp only [SameAt] at h
    simp only [operand, h, hkind]

theorem sameAt_takeOver (i j : Instruction) (f : Field) : (i.takeOver j f).SameAt i f := by
  cases f <;> rfl

end Operand

/-! ## Packing -/

section Packing
variable {i : Instruction}

/-- Packing goes through if every operand suits. -/
theorem exists_pack_iff {fs : List Field} {v : UInt32} :
    (∃ w, i.pack fs v = .ok w) ↔ ∀ f ∈ fs, i.Suits f := by
  induction fs generalizing v with
  | nil => simp [pack]
  | cons f fs ih =>
    rw [List.forall_mem_cons, ← exists_operand_iff]
    constructor
    · rintro ⟨w, hw⟩
      obtain ⟨bits, hbits, hrest⟩ := pack_cons_eq_ok hw
      exact ⟨⟨bits, hbits⟩, ih.1 ⟨w, hrest⟩⟩
    · rintro ⟨⟨bits, hbits⟩, hrest⟩
      rw [pack_cons_of_ok hbits]
      exact ih.2 hrest

/-- **Packing stops at the first operand that does not suit**, and complains about it. -/
theorem pack_eq_error_iff {fs : List Field} {v : UInt32} {e : EncodeError} :
    i.pack fs v = .error e ↔ ∃ f, FirstOf (fun f => ¬ i.Suits f) fs f ∧ i.Fault f e := by
  induction fs generalizing v with
  | nil =>
    constructor
    · intro h
      cases h
    · rintro ⟨f, hf, -⟩
      exact absurd hf.mem List.not_mem_nil
  | cons f fs ih =>
    cases hf : i.operand f with
    | ok bits =>
      have hsuits : i.Suits f := exists_operand_iff.1 ⟨bits, hf⟩
      rw [pack_cons_of_ok hf, ih]
      constructor
      · rintro ⟨g, hg, hfault⟩
        exact ⟨g, hg.cons (not_not_intro hsuits), hfault⟩
      · rintro ⟨g, hg, hfault⟩
        exact ⟨g, hg.tail (not_not_intro hsuits), hfault⟩
    | error e' =>
      have hunsuited : ¬ i.Suits f := by
        intro hsuits
        obtain ⟨bits, hbits⟩ := exists_operand_iff.2 hsuits
        rw [hf] at hbits
        cases hbits
      have hfirst : FirstOf (fun f => ¬ i.Suits f) (f :: fs) f := ⟨[], fs, rfl, hunsuited, nofun⟩
      have hpack : i.pack (f :: fs) v = .error e' := by rw [pack, hf]
      rw [hpack]
      constructor
      · intro h
        cases h
        exact ⟨f, hfirst, operand_eq_error_iff.1 hf⟩
      · rintro ⟨g, hg, hfault⟩
        obtain rfl := hfirst.unique hg
        exact congrArg Except.error
          (Except.error.inj (hf.symm.trans (operand_eq_error_iff.2 hfault)))

end Packing

/-! ## Encoding -/

section Encoded
variable {i j : Instruction} {w v : UInt32}

/-- **The complaint is about the first operand that does not suit**, in the order of fields. -/
theorem encode_eq_error_iff {e : EncodeError} : i.encode = .error e ↔ ∃ f,
    FirstOf (fun f => f ∈ i.kind.layout.fields ∧ ¬ i.Suits f) Field.order f ∧ i.Fault f e := by
  rw [encode, pack_eq_error_iff]
  refine exists_congr fun f => and_congr_left' ?_
  rw [← firstOf_filter_iff, ← i.kind.layout.fields_eq_filter]

theorem encode_congr (hkind : j.kind = i.kind) (h : ∀ f ∈ i.kind.layout.fields, j.SameAt i f) :
    j.encode = i.encode := by
  rw [encode, encode, hkind]
  exact pack_congr (fun f hf => operand_congr hkind (h f hf)) _

/-- **Each operand is read back from the bits of its field**, whatever the other bits are. -/
theorem sameAt_readField_of_encode (h : i.encode = .ok w) {f : Field}
    (hf : f ∈ i.kind.layout.fields) (hv : v &&& f.mask = w &&& f.mask) :
    (readField v j f).SameAt i f := by
  have hoperand := operand_of_encode h f hf
  rw [← Family.extract_congr hv] at hoperand
  rw [readField_eq_takeOver hoperand]
  exact sameAt_takeOver i j f

/-- Beside its operands a word has the selector of its kind, and nothing else. -/
theorem canonical_of_encode (h : i.encode = .ok w) : Canonical i.kind w := by
  rw [← Kind.encode_ofFields_eq_iff, ofFields_eq_trimmed h]
  exact encode_trimmed h

end Encoded

/-- **An instruction has a word just if the operands of its layout suit.**  Otherwise the
complaint is about the first, in the order of all fields, that does not.  Operands outside
the layout make no difference.  In the word the operands have bits of their own, apart from
each other and from those that tell the kind, and each is read back from its bits alone. -/
theorem encode_iff_suits (i : Instruction) :
    ((∃ w, i.encode = .ok w) ↔ ∀ f ∈ i.kind.layout.fields, i.Suits f) ∧
    (∀ e, i.encode = .error e ↔ ∃ f,
      FirstOf (fun f => f ∈ i.kind.layout.fields ∧ ¬ i.Suits f) Field.order f ∧ i.Fault f e) ∧
    (∀ j : Instruction, j.kind = i.kind → (∀ f ∈ i.kind.layout.fields, j.SameAt i f) →
      j.encode = i.encode) ∧
    (∀ w, i.encode = .ok w → Canonical i.kind w ∧
      ∀ f ∈ i.kind.layout.fields, ∀ v j, v &&& f.mask = w &&& f.mask →
        (readField v j f).SameAt i f) ∧
    (i.kind.layout.fields.Pairwise fun f g => f.mask &&& g.mask = 0) ∧
    ∀ f ∈ i.kind.layout.fields,
      i.kind.selector &&& f.mask = 0 ∧ f.mask &&& i.kind.family.mask = 0 := by
  exact ⟨exists_pack_iff, fun e => encode_eq_error_iff, fun j => encode_congr,
    fun w h => ⟨canonical_of_encode h, fun f hf v j => sameAt_readField_of_encode h hf⟩,
    i.kind.layout.pairwise_fields,
    fun f hf => ⟨i.kind.selector_and_mask f hf, i.kind.mask_and_familyMask f hf⟩⟩

/-- A load whose base is missing and whose target, which it ignores, is odd. -/
example : ({ Instruction.ofKind .lw with rt := some .a0, target := some 3 } :
    Instruction).encode = .error (.missing .lw .rs) := by decide

end Instruction
end Mips
end PadScout
