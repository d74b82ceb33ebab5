import Mathlib.Data.List.Nodup
import PadScout.Proofs.Mips.Acceptance
import PadScout.Proofs.Text.Words

/-! # Instructions told by their text

The words of an assembly text are the mnemonic and what is shown of the operands, field by field
from left to right (`split_text`).  The mnemonic tells the kind, and the words of a field tell an
operand that suits it (`sameAt_of_shown`).  Only a `sync` has an operand that is not shown, its
stage, so the text tells the word of any other instruction (`text_eq_iff`).
-/
namespace PadScout
namespace Mips

open Words

/-! ## Names -/

namespace Kind

theorem mem_all (k : Kind) : k ∈ all := by
  cases k <;> decide

theorem nodup_mnemonics : (all.map mnemonic).Nodup := by
  decide +kernel

theorem mnemonic_inj {k l : Kind} : k.mnemonic = l.mnemonic ↔ k = l :=
  ⟨List.inj_on_of_nodup_map nodup_mnemonics (mem_all k) (mem_all l), congrArg mnemonic⟩

theorem isWord_mnemonic (k : Kind) : IsWord k.mnemonic.toList := by
  cases k <;> decide

/-- A `sync` is the only kind with a field that is not shown. -/
theorem layout_eq_barrier_iff {k : Kind} : k.layout = .barrier ↔ k = .sync := by
  cases k <;> decide

end Kind

theorem Register.name_inj {r s : Register} : r.name = s.name ↔ r = s := by
  refine ⟨fun h => ?_, congrArg name⟩
  have hnames : ∀ a b : Fin 32, (Register.mk a).name = (Register.mk b).name → a = b := by
    decide +kernel
  exact congrArg Register.mk (hnames r.index s.index h)

theorem Register.isWord_name (r : Register) : IsWord r.name.toList :=
  (by decide +kernel : ∀ a : Fin 32, IsWord (Register.mk a).name.toList) r.index

theorem SystemRegister.text_inj {r s : SystemRegister} : r.text = s.text ↔ r = s := by
  refine ⟨fun h => ?_, congrArg text⟩
  have htexts : ∀ a b : Fin 32,
      (SystemRegister.mk a).text = (SystemRegister.mk b).text → a = b := by
    decide +kernel
  exact congrArg SystemRegister.mk (htexts r.index s.index h)

theorem SystemRegister.isWord_text (r : SystemRegister) : IsWord r.text.toList :=
  (by decide +kernel : ∀ a : Fin 32, IsWord (SystemRegister.mk a).text.toList) r.index

theorem CacheOp.isWord_cache (op : CacheOp) : IsWord op.cache.toList :=
  (by decide +kernel : ∀ a : Fin 32, IsWord (CacheOp.mk a).cache.toList) op.index

/-- A cache operation is told by its cache and its number together. -/
theorem CacheOp.eq_of_cache_of_operation {op op' : CacheOp} (hcache : op.cache = op'.cache)
    (hoperation : op.operation = op'.operation) : op = op' := by
  have hpairs : ∀ a b : Fin 32, (CacheOp.mk a).cache = (CacheOp.mk b).cache →
      a.val / 4 = b.val / 4 → a = b := by
    decide +kernel
  exact congrArg CacheOp.mk (hpairs op.index op'.index hcache hoperation)

/-! ## The words of a text -/

/-- **The fields that a layout shows**, from left to right. -/
def Layout.shown : Layout → List Field
  | .bare => []
  | .immediate => [.rt, .rs, .imm]
  | .upper => [.rt, .imm]
  | .branchPair => [.rs, .rt, .offset]
  | .branch => [.rs, .offset]
  | .memory => [.rt, .imm, .rs]
  | .jump => [.target]
  | .cache => [.cache, .imm, .rs]
  | .threeRegister => [.rd, .rs, .rt]
  | .twoRegister => [.rs, .rt]
  | .shift => [.rd, .rt, .shift]
  | .link => [.rd, .rs]
  | .source => [.rs]
  | .destination => [.rd]
  | .barrier => []
  | .system => [.rt, .system]

/-- All layouts but one show all their fields. -/
theorem Layout.mem_shown {l : Layout} (hl : l ≠ .barrier) {f : Field} (hf : f ∈ l.fields) :
    f ∈ l.shown := by
  revert hl hf
  cases l <;> cases f <;> decide

theorem Layout.mem_fields_of_mem_shown {l : Layout} {f : Field} (hf : f ∈ l.shown) :
    f ∈ l.fields := by
  revert hf
  cases l <;> cases f <;> decide

namespace Instruction

/-- **What is shown of the operand of a field**, in words. -/
def shown (i : Instruction) : Field → List String
  | .rs => [registerText i.rs]
  | .rt => [registerText i.rt]
  | .rd => [registerText i.rd]
  | .shift => [i.shiftText]
  | .imm => if i.kind.layout = .upper then [Hex.marked i.immUnsigned.toNat] else [i.immText]
  | .offset => [i.offsetText]
  | .target => [i.targetText]
  | .system => (i.system.map SystemRegister.text).toList
  | .cache => i.cache.toList.flatMap fun op => [op.cache, Decimal.text op.operation]

theorem isWord_registerText (r : Option Register) : IsWord (registerText r).toList := by
  cases r with
  | none => decide
  | some r => exact r.isWord_name

theorem isWord_immText (i : Instruction) : IsWord i.immText.toList := by
  rw [immText]
  split <;> exact Hex.isWord_signed _

theorem isWord_offsetText (i : Instruction) : IsWord i.offsetText.toList := by
  rw [offsetText]
  split <;> exact Hex.isWord_signed _

theorem isWord_targetText (i : Instruction) : IsWord i.targetText.toList := by
  rw [targetText]
  split <;> exact Hex.isWord_markedWide _ _

theorem isWord_shiftText (i : Instruction) : IsWord i.shiftText.toList := by
  rw [shiftText]
  split
  · exact Decimal.isWord_text _
  · decide

theorem isWord_marked (n : Nat) : IsWord (Hex.marked n).toList := by
  rw [Hex.marked_eq_markedWide]
  exact Hex.isWord_markedWide 0 n

theorem split_systemText (i : Instruction) :
    split i.systemText.toList = (i.shown .system).map String.toList := by
  rw [systemText, shown]
  cases i.system with
  | none => rfl
  | some r => exact split_of_isWord r.isWord_text

theorem split_cacheText (i : Instruction) :
    split i.cacheText.toList = (i.shown .cache).map String.toList := by
  rw [cacheText, shown]
  cases i.cache with
  | none => rfl
  | some op =>
    have htext : op.text.toList = '(' :: (op.cache.toList ++
        ',' :: ' ' :: ((Decimal.text op.operation).toList ++ [')'])) := by
      simp only [CacheOp.text, String.toList_append, List.append_assoc]
      rfl
    rw [htext, split_cons rfl, split_word_cons op.isWord_cache rfl, split_cons rfl,
      split_word_cons (Decimal.isWord_text _) rfl, split_nil]
    rfl

/-- **The words of the text** are the mnemonic and the words of the shown fields. -/
theorem split_text (i : Instruction) : split i.text.toList =
    (i.kind.mnemonic :: i.kind.layout.shown.flatMap i.shown).map String.toList := by
  have hspace : " ".toList = [' '] := rfl
  have hcomma : ", ".toList = [',', ' '] := rfl
  have hopen : "(".toList = ['('] := rfl
  have hclose : ")".toList = [')'] := rfl
  have hempty : "".toList = [] := rfl
  -- blanks, commas and brackets part the pieces, and each piece is a word or has words of its own
  have hspace' : isPunctuation ' ' = true := rfl
  have hcomma' : isPunctuation ',' = true := rfl
  have hopen' : isPunctuation '(' = true := rfl
  have hclose' : isPunctuation ')' = true := rfl
  have hmnemonic := split_of_isWord i.kind.isWord_mnemonic
  have hregister (r : Option Register) := split_of_isWord (isWord_registerText r)
  have himm := split_of_isWord i.isWord_immText
  have hupper := split_of_isWord (isWord_marked i.immUnsigned.toNat)
  have hoffset := split_of_isWord i.isWord_offsetText
  have htarget := split_of_isWord i.isWord_targetText
  have hshift := split_of_isWord i.isWord_shiftText
  rw [text, operandText, String.toList_append]
  cases hl : i.kind.layout <;>
    simp only [String.toList_append, hspace, hcomma, hopen, hclose, hempty, List.append_assoc,
      List.cons_append, List.nil_append, List.append_nil, split_append_cons, split_cons,
      split_nil, hspace', hcomma', hopen', hclose', hmnemonic, hregister, himm, hupper, hoffset,
      htarget, hshift, split_systemText, split_cacheText, Layout.shown, shown, hl, reduceCtorEq,
      if_true, if_false, List.flatMap_cons, List.flatMap_nil, List.map_cons, List.map_append,
      List.map_nil]

/-! ## Operands from their words -/

section Told
variable {i j : Instruction}

/-- The segment is above every target that a jump can hold. -/
theorem targetText_inj {t u : UInt32} (ht : JumpTarget t.toNat) (hu : JumpTarget u.toNat)
    (h : Hex.markedWord (0x80000000 ||| t) = Hex.markedWord (0x80000000 ||| u)) : t = u := by
  have hsum : ∀ v : UInt32, JumpTarget v.toNat →
      ((0x80000000 : UInt32) ||| v).toNat = 2 ^ 31 * 1 + v.toNat := by
    intro v hv
    rw [Nat.two_pow_add_eq_or_of_lt (Nat.lt_trans hv.2 (by decide)), UInt32.toNat_or]
    rfl
  have hnat := Hex.markedWide_inj.1 h
  rw [hsum t ht, hsum u hu] at hnat
  exact UInt32.toNat_inj.1 (Nat.add_left_cancel hnat)

theorem immUnsigned_inj {m n : Int16} :
    m.toUInt16.toUInt32 = n.toUInt16.toUInt32 ↔ m = n := by
  refine ⟨fun h => ?_, fun h => by rw [h]⟩
  have hhalf := congrArg UInt32.toUInt16 h
  rw [UInt16.toUInt16_toUInt32, UInt16.toUInt16_toUInt32] at hhalf
  rw [← Int16.toInt16_toUInt16 m, hhalf, Int16.toInt16_toUInt16]

/-- **Two operands that suit their field, and are shown alike, are one.** -/
theorem sameAt_of_shown (hkind : i.kind = j.kind) {f : Field} (hi : i.Suits f) (hj : j.Suits f)
    (h : i.shown f = j.shown f) : i.SameAt j f := by
  cases f with
  | rs | rt | rd =>
    obtain ⟨r, hr⟩ := Option.isSome_iff_exists.1 hi
    obtain ⟨s, hs⟩ := Option.isSome_iff_exists.1 hj
    rw [shown, shown, hr, hs] at h
    rw [SameAt, hr, hs, Register.name_inj.1 (List.singleton_inj.1 h)]
  | shift =>
    obtain ⟨m, hm, -⟩ := hi
    obtain ⟨n, hn, -⟩ := hj
    simp only [shown, shiftText, hm, hn] at h
    rw [SameAt, hm, hn, UInt8.toNat_inj.1 (Decimal.text_inj.1 (List.singleton_inj.1 h))]
  | imm =>
    obtain ⟨m, hm⟩ := Option.isSome_iff_exists.1 hi
    obtain ⟨n, hn⟩ := Option.isSome_iff_exists.1 hj
    simp only [shown, immText, immUnsigned, hm, hn, hkind] at h
    rw [SameAt, hm, hn]
    refine congrArg some ?_
    split at h
    · rw [List.singleton_inj, Hex.marked_eq_markedWide, Hex.marked_eq_markedWide,
        Hex.markedWide_inj, UInt32.toNat_inj] at h
      exact immUnsigned_inj.1 h
    · exact Int16.toInt_inj.1 (Hex.signed_inj.1 (List.singleton_inj.1 h))
  | offset =>
    obtain ⟨d, hd, -⟩ := hi
    obtain ⟨e, he, -⟩ := hj
    simp only [shown, offsetText, hd, he] at h
    rw [SameAt, hd, he, Int32.toInt_inj.1 (Hex.signed_inj.1 (List.singleton_inj.1 h))]
  | target =>
    obtain ⟨t, ht, hlimit⟩ := hi
    obtain ⟨u, hu, hlimit'⟩ := hj
    simp only [shown, targetText, ht, hu] at h
    rw [SameAt, ht, hu, targetText_inj hlimit hlimit' (List.singleton_inj.1 h)]
  | system =>
    obtain ⟨r, hr⟩ := Option.isSome_iff_exists.1 hi
    obtain ⟨s, hs⟩ := Option.isSome_iff_exists.1 hj
    rw [shown, shown, hr, hs] at h
    rw [SameAt, hr, hs, SystemRegister.text_inj.1 (List.singleton_inj.1 h)]
  | cache =>
    obtain ⟨op, hop⟩ := Option.isSome_iff_exists.1 hi
    obtain ⟨op', hop'⟩ := Option.isSome_iff_exists.1 hj
    simp only [shown, hop, hop', Option.toList_some, List.flatMap_cons, List.flatMap_nil,
      List.append_nil, List.cons.injEq, and_true] at h
    rw [SameAt, hop, hop', CacheOp.eq_of_cache_of_operation h.1 (Decimal.text_inj.1 h.2)]

/-- What is shown of a field has a number of words that depends on the field alone. -/
theorem length_shown {f : Field} (hi : i.Suits f) (hj : j.Suits f) :
    (i.shown f).length = (j.shown f).length := by
  cases f with
  | rs | rt | rd | shift | offset | target => rfl
  | imm =>
    rw [shown, shown]
    split <;> split <;> rfl
  | system | cache =>
    obtain ⟨r, hr⟩ := Option.isSome_iff_exists.1 hi
    obtain ⟨s, hs⟩ := Option.isSome_iff_exists.1 hj
    rw [shown, shown, hr, hs]
    rfl

/-- **A list of fields is told by its words**, field by field. -/
theorem forall_sameAt_of_flatMap_shown (hkind : i.kind = j.kind) {fs : List Field}
    (hi : ∀ f ∈ fs, i.Suits f) (hj : ∀ f ∈ fs, j.Suits f)
    (h : fs.flatMap i.shown = fs.flatMap j.shown) : ∀ f ∈ fs, i.SameAt j f := by
  induction fs with
  | nil => nofun
  | cons f fs ih =>
    rw [List.forall_mem_cons] at hi hj ⊢
    rw [List.flatMap_cons, List.flatMap_cons] at h
    obtain ⟨hhead, htail⟩ := List.append_inj h (length_shown hi.1 hj.1)
    exact ⟨sameAt_of_shown hkind hi.1 hj.1 hhead, ih hi.2 hj.2 htail⟩

/-- **The text tells the word**, but for the stage of a `sync`. -/
theorem encode_eq_of_text {v w : UInt32} (hi : i.encode = .ok v) (hj : j.encode = .ok w)
    (hsync : i.kind ≠ .sync) (h : i.text = j.text) : v = w := by
  have hwords : split i.text.toList = split j.text.toList := by rw [h]
  rw [split_text, split_text, List.map_inj_right fun _ _ => String.toList_inj.1, List.cons.injEq,
    Kind.mnemonic_inj] at hwords
  obtain ⟨hkind, hshown⟩ := hwords
  have hsuits := exists_pack_iff.1 ⟨v, hi⟩
  have hsuits' := exists_pack_iff.1 ⟨w, hj⟩
  rw [← hkind] at hshown hsuits'
  have hsame := forall_sameAt_of_flatMap_shown hkind
    (fun f hf => hsuits f (Layout.mem_fields_of_mem_shown hf))
    (fun f hf => hsuits' f (Layout.mem_fields_of_mem_shown hf)) hshown
  have hencode := encode_congr hkind fun f hf =>
    hsame f (Layout.mem_shown (mt Kind.layout_eq_barrier_iff.1 hsync) (by rwa [hkind]))
  rw [hi, hj] at hencode
  exact Except.ok.inj hencode

theorem text_of_sync (h : i.kind = .sync) : i.text = "sync" := by
  rw [text, operandText, h]
  rfl

end Told
end Instruction

/-- **The disassembly is unambiguous.**  Two words that decode have one text just if they are one
word or both are a `sync`, whose stage is not shown. -/
theorem text_eq_iff {v w : UInt32} {i j : Instruction} (hi : decode v = .ok i)
    (hj : decode w = .ok j) : i.text = j.text ↔ v = w ∨ i.kind = .sync ∧ j.kind = .sync := by
  have hv := (has_and_encode_of_decode hi).2
  have hw := (has_and_encode_of_decode hj).2
  constructor
  · intro h
    by_cases hsync : i.kind = .sync
    · by_cases hsync' : j.kind = .sync
      · exact Or.inr ⟨hsync, hsync'⟩
      · exact Or.inl (Instruction.encode_eq_of_text hw hv hsync' h.symm).symm
    · exact Or.inl (Instruction.encode_eq_of_text hv hw hsync h)
  · rintro (rfl | ⟨hsync, hsync'⟩)
    · rw [Except.ok.inj (hi.symm.trans hj)]
    · rw [Instruction.text_of_sync hsync, Instruction.text_of_sync hsync']

/-- Two cache operations at one address are told apart, and two stages of a `sync` are not. -/
theorem text_eq_iff_cacheOps :
    decode 0xBD190000 = .ok (.ofFields .cache 0xBD190000) ∧
      decode 0xBD150000 = .ok (.ofFields .cache 0xBD150000) ∧
      (Instruction.ofFields .cache 0xBD190000).text ≠
        (Instruction.ofFields .cache 0xBD150000).text ∧
      decode 0x0000000F = .ok (.ofFields .sync 0x0000000F) ∧
      decode 0x0000004F = .ok (.ofFields .sync 0x0000004F) ∧
      (Instruction.ofFields .sync 0x0000000F).text =
        (Instruction.ofFields .sync 0x0000004F).text := by
  have hwriteback : decode 0xBD190000 = .ok (.ofFields .cache 0xBD190000) := by decide
  have hflush : decode 0xBD150000 = .ok (.ofFields .cache 0xBD150000) := by decide
  have hsync : decode 0x0000000F = .ok (.ofFields .sync 0x0000000F) := by decide
  have hstaged : decode 0x0000004F = .ok (.ofFields .sync 0x0000004F) := by decide
  refine ⟨hwriteback, hflush, fun h => ?_, hsync, hstaged, ?_⟩
  · rcases (text_eq_iff hwriteback hflush).1 h with hword | ⟨hkind, -⟩
    · exact absurd hword (by decide)
    · exact absurd hkind (by decide)
  · exact (text_eq_iff hsync hstaged).2 (Or.inr ⟨by decide, by decide⟩)

end Mips
end PadScout
