import PadScout.Proofs.Mips.Operand

/-! # Packing and reading fields

`Instruction.pack` stamps operands into a word one after the other, and
`Instruction.ofFields` reads them off it one after the other.  Since fields do not
overlap, no later step undoes an earlier one: what was stamped is found in its field
(`operand_of_pack`), bits outside the fields are left alone (`and_of_pack`), and every
operand that was read is still there at the end (`operand_ofFields`).
-/
namespace PadScout
namespace Mips
namespace Instruction

/-! ## Stamping -/

theorem pack_cons_of_ok {i : Instruction} {f : Field} {bits : UInt32}
    (h : i.operand f = .ok bits) (fs : List Field) (v : UInt32) :
    i.pack (f :: fs) v = i.pack fs (v ||| bits <<< f.low) := by
  rw [pack, h]

/-- If some operands are packed, then the first of them fits. -/
theorem pack_cons_eq_ok {i : Instruction} {f : Field} {fs : List Field} {v w : UInt32}
    (h : i.pack (f :: fs) v = .ok w) :
    ∃ bits, i.operand f = .ok bits ∧ i.pack fs (v ||| bits <<< f.low) = .ok w := by
  rw [pack] at h
  cases hf : i.operand f with
  | ok bits => exact ⟨bits, rfl, by rwa [hf] at h⟩
  | error e =>
    rw [hf] at h
    cases h

/-- Instructions that agree on some fields are packed alike. -/
theorem pack_congr {i j : Instruction} {fs : List Field}
    (h : ∀ f ∈ fs, i.operand f = j.operand f) (v : UInt32) : i.pack fs v = j.pack fs v := by
  induction fs generalizing v with
  | nil => rfl
  | cons f fs ih =>
    rw [pack, pack, h f List.mem_cons_self]
    cases j.operand f with
    | ok bits => exact ih (fun g hg => h g (List.mem_cons_of_mem _ hg)) _
    | error e => rfl

/-- **Packing leaves alone what is outside the fields.** -/
theorem and_of_pack {i : Instruction} {fs : List Field} {v w m : UInt32}
    (h : i.pack fs v = .ok w) (hm : ∀ f ∈ fs, f.mask &&& m = 0) : w &&& m = v &&& m := by
  induction fs generalizing v with
  | nil =>
    cases h
    rfl
  | cons f fs ih =>
    obtain ⟨bits, hf, hrest⟩ := pack_cons_eq_ok h
    have hstamp : bits <<< f.low &&& m = 0 :=
      Word.and_eq_zero_of_within (Field.shiftLeft_and_mask (operand_lt hf))
        (hm f List.mem_cons_self)
    rw [ih hrest fun g hg => hm g (List.mem_cons_of_mem _ hg), Word.or_and_of_left hstamp]

/-- **Every operand is found in its field**, if the fields were clear and are apart. -/
theorem operand_of_pack {i : Instruction} {fs : List Field} {v w : UInt32}
    (h : i.pack fs v = .ok w) (hapart : fs.Pairwise fun f g => f.mask &&& g.mask = 0)
    (hclear : ∀ f ∈ fs, v &&& f.mask = 0) : ∀ f ∈ fs, i.operand f = .ok (f.extract w) := by
  induction fs generalizing v with
  | nil => simp
  | cons f fs ih =>
    obtain ⟨bits, hf, hrest⟩ := pack_cons_eq_ok h
    obtain ⟨hhead, htail⟩ := List.pairwise_cons.1 hapart
    have hwithin := Field.shiftLeft_and_mask (operand_lt hf)
    have hown : w &&& f.mask = bits <<< f.low := by
      rw [and_of_pack hrest fun g hg => by rw [UInt32.and_comm, hhead g hg]]
      exact Word.or_and_of_right (hclear f List.mem_cons_self) hwithin
    intro g hg
    rcases List.mem_cons.1 hg with rfl | hg
    · rw [hf, Field.extract_eq_of_and_mask (operand_lt hf) hown]
    · refine ih hrest htail (fun g hg => ?_) g hg
      rw [Word.or_and_of_left (Word.and_eq_zero_of_within hwithin (hhead g hg))]
      exact hclear g (List.mem_cons_of_mem _ hg)

/-- The operands that a word holds in some fields make up its part in these fields. -/
theorem pack_eq_of_extract {i : Instruction} {fs : List Field} {w : UInt32}
    (h : ∀ f ∈ fs, i.operand f = .ok (f.extract w)) (v m : UInt32) :
    i.pack fs (v ||| (w &&& m)) = .ok (v ||| (w &&& fs.foldl (fun m f => m ||| f.mask) m)) := by
  induction fs generalizing m with
  | nil => rfl
  | cons f fs ih =>
    rw [pack_cons_of_ok (h f List.mem_cons_self), Field.extract_shiftLeft, UInt32.or_assoc,
      Word.and_or_and, ih fun g hg => h g (List.mem_cons_of_mem _ hg)]
    rfl

/-! ## Reading -/

theorem operand_foldl_readField_of_notMem (w : UInt32) {fs : List Field} {f : Field}
    (h : f ∉ fs) (i : Instruction) : (fs.foldl (readField w) i).operand f = i.operand f := by
  induction fs generalizing i with
  | nil => rfl
  | cons g fs ih =>
    rw [List.mem_cons, not_or] at h
    rw [List.foldl_cons, ih h.2, operand_readField_of_ne _ _ (Ne.symm h.1)]

theorem operand_foldl_readField (w : UInt32) {fs : List Field} {f : Field} (h : f ∈ fs)
    (i : Instruction) : (fs.foldl (readField w) i).operand f = .ok (f.extract w) := by
  induction fs generalizing i with
  | nil => simp at h
  | cons g fs ih =>
    rw [List.foldl_cons]
    by_cases hf : f ∈ fs
    · exact ih hf _
    · obtain rfl : f = g := (List.mem_cons.1 h).resolve_right hf
      rw [operand_foldl_readField_of_notMem w hf, operand_readField_self]

/-- **Reading the fields of a layout gives operands with just these bits.** -/
theorem operand_ofFields {k : Kind} {f : Field} (h : f ∈ k.layout.fields) (w : UInt32) :
    (ofFields k w).operand f = .ok (f.extract w) :=
  operand_foldl_readField w h _

theorem has_foldl_readField (w : UInt32) (fs : List Field) (i : Instruction) (f : Field) :
    (fs.foldl (readField w) i).has f = true ↔ f ∈ fs ∨ i.has f = true := by
  induction fs generalizing i with
  | nil => simp
  | cons g fs ih =>
    rw [List.foldl_cons, ih, has_readField, Bool.or_eq_true, decide_eq_true_eq, List.mem_cons]
    constructor
    · rintro (h | h | h) <;> simp [h]
    · rintro ((h | h) | h) <;> simp [h]

theorem has_ofKind (k : Kind) (f : Field) : (ofKind k).has f = false := by
  cases f <;> rfl

/-- **Reading gives the operands of the layout and no others.** -/
theorem has_ofFields (k : Kind) (w : UInt32) (f : Field) :
    (ofFields k w).has f = true ↔ f ∈ k.layout.fields := by
  rw [ofFields, has_foldl_readField, has_ofKind]
  simp

@[simp] theorem kind_ofFields (k : Kind) (w : UInt32) : (ofFields k w).kind = k := by
  have hfold : ∀ (fs : List Field) (i : Instruction),
      (fs.foldl (readField w) i).kind = i.kind := by
    intro fs
    induction fs with
    | nil => exact fun i => rfl
    | cons f fs ih => exact fun i => (ih _).trans (kind_readField w i f)
  exact hfold _ _

/-- **What was read off a word is encoded as the selector with the fields of the word.** -/
theorem encode_ofFields (k : Kind) (w : UInt32) :
    (ofFields k w).encode = .ok (k.selector ||| (w &&& k.operandMask)) := by
  have h := pack_eq_of_extract (fun f hf => operand_ofFields (k := k) hf w) k.selector 0
  rw [UInt32.and_zero, UInt32.or_zero] at h
  rw [encode, kind_ofFields]
  exact h

end Instruction
end Mips
end PadScout
