import PadScout.Machine.Basic
import PadScout.Proofs.Machine.Lanes

/-! # The address space as a memory of bytes

A memory of bytes says what is at each address, if anything (`ByteMemory`), and words and
halves are read from it most significant byte first.  A store writes a few bytes from its
first address on (`Store.start`, `Store.bytes`), and only those that fall into the scratch
area are kept (`ByteMemory.write`).

The address space keeps words and stores under masks instead.  A store leaves the words next
to its own alone and puts its bytes into its own word (`Store.laneByte_merge`), so the bytes
of the space after a store are its bytes before with the store written to them
(`AddressSpace.bytes_after`).  By induction the same holds after any row of stores, and what
the machine then reads, stores and loads is what the memory of bytes says
(`AddressSpace.Mirrors`).
-/
namespace PadScout

open Mips

/-! ## Stores -/

/-- A value that is stored at an address. -/
inductive Store where
  | word (address value : UInt32)
  | half (address : UInt32) (value : UInt16)
  | byte (address : UInt32) (value : UInt8)

namespace Store

def address : Store → UInt32
  | word a _ | half a _ | byte a _ => a

/-- The address of the first byte. -/
def start : Store → UInt32
  | word a _ => a &&& ~~~3
  | half a _ => a &&& ~~~1
  | byte a _ => a

/-- The bytes of the value, most significant first. -/
def bytes : Store → List UInt8
  | word _ v => [(v >>> 24).toUInt8, (v >>> 16).toUInt8, (v >>> 8).toUInt8, v.toUInt8]
  | half _ v => [(v >>> 8).toUInt8, v.toUInt8]
  | byte _ v => [v]

/-- The byte that is stored at an address, if any is. -/
def byteAt? (st : Store) (x : UInt32) : Option UInt8 := st.bytes[(x - st.start).toNat]?

end Store

/-! ## Memories of bytes -/

/-- The scratch area. -/
def IsScratch (a : UInt32) : Prop := 0x81000000 ≤ a.toNat ∧ a.toNat < 0x81010000

instance (a : UInt32) : Decidable (IsScratch a) := inferInstanceAs (Decidable (_ ∧ _))

/-- The segment of the image. -/
def IsRam (a : UInt32) : Prop := 0x80000000 ≤ a.toNat ∧ a.toNat < 0x81000000

instance (a : UInt32) : Decidable (IsRam a) := inferInstanceAs (Decidable (_ ∧ _))

/-- What is at each address, if anything. -/
def ByteMemory : Type := UInt32 → Option UInt8

namespace ByteMemory

/-- The bytes of an image, most significant first within a word, and a scratch area of
zeros. -/
def ofImage (m : Image) : ByteMemory := fun a =>
  if IsRam a then (m.get? ((a.toNat - 0x80000000) / 4)).map (laneByte · (a.toNat % 4))
  else if IsScratch a then some 0
  else none

/-- Stores what falls into the scratch area. -/
def write (b : ByteMemory) (st : Store) : ByteMemory := fun a =>
  if IsScratch a then st.byteAt? a <|> b a else b a

/-- Why there is nothing at an address. -/
def fault (a : UInt32) : Fault :=
  if 0x80000000 ≤ a.toNat ∧ a.toNat < 0x82000000 then .outOfBounds a else .unmappedSegment a

def readByte (b : ByteMemory) (a : UInt32) : Except Fault UInt8 :=
  match b a with
  | some v => .ok v
  | none => .error (fault a)

/-- The two bytes around an address, most significant first. -/
def readHalf (b : ByteMemory) (a : UInt32) : Except Fault UInt16 :=
  let start := a &&& ~~~1
  match b start, b (start + 1) with
  | some high, some low => .ok (halfOfBytes high low)
  | _, _ => .error (fault a)

/-- The four bytes around an address, most significant first. -/
def readWord (b : ByteMemory) (a : UInt32) : Except Fault UInt32 :=
  let start := a &&& ~~~3
  match b start, b (start + 1), b (start + 2), b (start + 3) with
  | some b₀, some b₁, some b₂, some b₃ => .ok (wordOfBytes b₃ b₂ b₁ b₀)
  | _, _, _, _ => .error (fault a)

/-- What an instruction loads, if it is a load: bytes and halves are extended to words. -/
def load? (b : ByteMemory) (a : UInt32) : Kind → Option (Except Fault UInt32)
  | .lb => some ((fun v => ⟨v.toBitVec.signExtend 32⟩) <$> b.readByte a)
  | .lbu => some ((fun v => ⟨v.toBitVec.setWidth 32⟩) <$> b.readByte a)
  | .lh => some ((fun v => ⟨v.toBitVec.signExtend 32⟩) <$> b.readHalf a)
  | .lhu => some ((fun v => ⟨v.toBitVec.setWidth 32⟩) <$> b.readHalf a)
  | .lw | .lwu => some (b.readWord a)
  | _ => none

end ByteMemory

/-! ## The bytes of a store -/

namespace Store

/-- All bytes of a store fall into one word. -/
theorem start_within (st : Store) : st.start.toNat / 4 = st.address.toNat / 4 ∧
    st.start.toNat % 4 + st.bytes.length ≤ 4 := by
  cases st with
  | word a v =>
    rw [start, AddressSpace.toNat_word_start]
    simp only [bytes, address, List.length_cons, List.length_nil]
    omega
  | half a v =>
    rw [start, AddressSpace.toNat_half_start]
    simp only [bytes, address, List.length_cons, List.length_nil]
    omega
  | byte a v =>
    refine ⟨rfl, ?_⟩
    change a.toNat % 4 + 1 ≤ 4
    omega

/-- The words next to that of a store get nothing from it. -/
theorem byteAt?_of_ne {st : Store} {x : UInt32} (h : x.toNat / 4 ≠ st.address.toNat / 4) :
    st.byteAt? x = none := by
  obtain ⟨hstart, hlength⟩ := st.start_within
  have hx := x.toNat_lt
  have hs := st.start.toNat_lt
  rw [byteAt?, List.getElem?_eq_none_iff, UInt32.toNat_sub]
  omega

/-- The value of a store, moved to its place in the word. -/
def value : Store → UInt32
  | word _ v => v
  | half a v => v.toUInt32 <<< AddressSpace.halfShift a
  | byte a v => v.toUInt32 <<< AddressSpace.byteShift a

/-- The part of the word that a store replaces. -/
def mask : Store → UInt32
  | word _ _ => 0xFFFFFFFF
  | half a _ => (0xFFFF : UInt32) <<< AddressSpace.halfShift a
  | byte a _ => (0xFF : UInt32) <<< AddressSpace.byteShift a

/-- **A store under its mask puts its bytes into the word.** -/
theorem laneByte_merge (st : Store) {x : UInt32} (h : x.toNat / 4 = st.address.toNat / 4)
    (w : UInt32) : laneByte (merge w st.value st.mask) (x.toNat % 4) =
      (st.byteAt? x).getD (laneByte w (x.toNat % 4)) := by
  have hj : x.toNat % 4 < 4 := Nat.mod_lt _ (by decide)
  have hx := x.toNat_lt
  cases st with
  | word a v =>
    change x.toNat / 4 = a.toNat / 4 at h
    have hdist : (x - (word a v).start).toNat = x.toNat % 4 := by
      rw [UInt32.toNat_sub, start, AddressSpace.toNat_word_start]
      omega
    rw [byteAt?, hdist, mask, value, PadScout.laneByte_merge (covers_word ⟨_, hj⟩),
      if_pos trivial]
    generalize x.toNat % 4 = j at hj
    match j, hj with
    | 0, _ | 1, _ | 2, _ | 3, _ => rfl
  | half a v =>
    change x.toNat / 4 = a.toNat / 4 at h
    obtain ⟨hhigh, hlow⟩ := AddressSpace.laneByte_shiftLeft_halfShift v a
    rw [mask, value, PadScout.laneByte_merge (AddressSpace.covers_halfShift a hj), byteAt?]
    by_cases hsame : x.toNat % 4 / 2 = a.toNat % 4 / 2
    · rw [if_pos hsame]
      -- the first or the second byte of the half
      have hcases : x.toNat % 4 = 2 * (a.toNat % 4 / 2) ∧ (x - (half a v).start).toNat = 0 ∨
          x.toNat % 4 = 2 * (a.toNat % 4 / 2) + 1 ∧ (x - (half a v).start).toNat = 1 := by
        rw [UInt32.toNat_sub, start, AddressSpace.toNat_half_start]
        omega
      rcases hcases with ⟨hlane, hdist⟩ | ⟨hlane, hdist⟩
      · rw [hlane, hdist, hhigh]
        rfl
      · rw [hlane, hdist, hlow]
        rfl
    · rw [if_neg hsame, List.getElem?_eq_none]
      · rfl
      · rw [UInt32.toNat_sub, start, AddressSpace.toNat_half_start]
        simp only [bytes, List.length_cons, List.length_nil]
        omega
  | byte a v =>
    -- one byte of the word: the others are as far from it as the end of the store, or wrap
    change x.toNat / 4 = a.toNat / 4 at h
    rw [mask, value, PadScout.laneByte_merge (AddressSpace.covers_byteShift a hj), byteAt?, start]
    by_cases hsame : x.toNat % 4 = a.toNat % 4
    · obtain rfl : x = a := UInt32.toNat_inj.1 (by omega)
      rw [if_pos rfl, AddressSpace.laneByte_shiftLeft_byteShift, UInt32.sub_self]
      rfl
    · rw [if_neg hsame, List.getElem?_eq_none]
      · rfl
      · rw [UInt32.toNat_sub]
        simp only [bytes, List.length_cons, List.length_nil]
        omega

end Store

/-! ## Places -/

theorem IsScratch.not_isRam {a : UInt32} (h : IsScratch a) : ¬ IsRam a := by
  unfold IsRam
  unfold IsScratch at h
  omega

namespace AddressSpace
variable {s : AddressSpace} {a x : UInt32}

theorem wordIndex_eq (a : UInt32) : wordIndex a = a.toNat % 0x1000000 / 4 := by
  exact congrArg (· / 4) (Word.toNat_and_low (k := 24) (by decide) a)

theorem segment_eq_iff (a t : UInt32) : a >>> 24 = t ↔ a.toNat / 0x1000000 = t.toNat := by
  rw [← UInt32.toNat_inj, UInt32.toNat_shiftRight, Nat.shiftRight_eq_div_pow]
  rfl

theorem ram_segment_iff : a >>> 24 = 0x80 ↔ IsRam a := by
  rw [segment_eq_iff, IsRam]
  change a.toNat / 0x1000000 = 0x80 ↔ _
  omega

theorem scratch_segment_iff :
    a >>> 24 = 0x81 ↔ 0x81000000 ≤ a.toNat ∧ a.toNat < 0x82000000 := by
  rw [segment_eq_iff]
  change a.toNat / 0x1000000 = 0x81 ↔ _
  omega

theorem segment_of_isScratch (h : IsScratch a) : a >>> 24 = 0x81 :=
  scratch_segment_iff.2 ⟨h.1, Nat.lt_trans h.2 (by decide)⟩

theorem wordIndex_lt_iff (h : a >>> 24 = 0x81) : wordIndex a < scratchWords ↔ IsScratch a := by
  have hrange := scratch_segment_iff.1 h
  rw [wordIndex_eq, scratchWords, IsScratch]
  omega

/-- The index of an address in the scratch area. -/
def scratchIndex (h : IsScratch a) : Fin scratchWords :=
  ⟨wordIndex a, (wordIndex_lt_iff (segment_of_isScratch h)).2 h⟩

theorem place_of_isRam (h : IsRam a) : s.place a =
    if wordIndex a < s.ram.size then .ok (.ram (wordIndex a)) else .error (.outOfBounds a) := by
  rw [place, if_pos (ram_segment_iff.2 h)]

theorem place_of_isScratch (h : IsScratch a) : s.place a = .ok (.scratch (scratchIndex h)) := by
  have hsegment := segment_of_isScratch h
  rw [place, if_neg (mt ram_segment_iff.1 h.not_isRam), if_pos hsegment,
    dif_pos ((wordIndex_lt_iff hsegment).2 h)]
  rfl

theorem place_of_neither (hram : ¬ IsRam a) (hscratch : ¬ IsScratch a) :
    s.place a = .error (ByteMemory.fault a) := by
  rw [place, ByteMemory.fault, if_neg (mt ram_segment_iff.1 hram)]
  by_cases hsegment : a >>> 24 = 0x81
  · have hrange := scratch_segment_iff.1 hsegment
    rw [if_pos hsegment, dif_neg (mt (wordIndex_lt_iff hsegment).1 hscratch), if_pos (by omega)]
  · have hrange := mt scratch_segment_iff.2 hsegment
    unfold IsRam at hram
    rw [if_neg hsegment, if_neg (by omega)]

theorem fault_of_isRam (h : IsRam a) : ByteMemory.fault a = .outOfBounds a := by
  unfold IsRam at h
  rw [ByteMemory.fault, if_pos (by omega)]

/-- The word that an address falls into, if there is one. -/
def wordAt? (s : AddressSpace) (a : UInt32) : Option UInt32 :=
  if IsRam a then s.ram.get? (wordIndex a)
  else if h : IsScratch a then some s.scratch[scratchIndex h]
  else none

theorem wordAt?_of_isScratch (h : IsScratch a) : s.wordAt? a = some s.scratch[scratchIndex h] := by
  rw [wordAt?, if_neg h.not_isRam, dif_pos h]

theorem readWord_eq (s : AddressSpace) (a : UInt32) : s.readWord a =
    match s.wordAt? a with
    | some w => .ok w
    | none => .error (ByteMemory.fault a) := by
  by_cases hram : IsRam a
  · rw [wordAt?, if_pos hram, fault_of_isRam hram]
    cases hget : s.ram.get? (wordIndex a) with
    | some w =>
      have hlt : wordIndex a < s.ram.size := (Array.getElem?_eq_some_iff.1 hget).1
      simp [readWord, place_of_isRam hram, hlt, hget]
    | none =>
      have hlt : ¬ wordIndex a < s.ram.size := Nat.not_lt.2 (Array.getElem?_eq_none_iff.1 hget)
      simp [readWord, place_of_isRam hram, hlt]
  · by_cases hscratch : IsScratch a
    · rw [readWord, place_of_isScratch hscratch, wordAt?_of_isScratch hscratch]
    · rw [readWord, place_of_neither hram hscratch, wordAt?, if_neg hram, dif_neg hscratch]

/-! ## One word -/

section
variable (h : x.toNat / 4 = a.toNat / 4)
include h

theorem isRam_congr : IsRam x ↔ IsRam a := by
  unfold IsRam
  omega

theorem isScratch_congr : IsScratch x ↔ IsScratch a := by
  unfold IsScratch
  omega

theorem wordIndex_congr : wordIndex x = wordIndex a := by
  rw [wordIndex_eq, wordIndex_eq]
  omega

theorem wordAt?_congr : s.wordAt? x = s.wordAt? a := by
  by_cases hram : IsRam a
  · rw [wordAt?, wordAt?, if_pos hram, if_pos ((isRam_congr h).2 hram), wordIndex_congr h]
  · by_cases hscratch : IsScratch a
    · have hx := (isScratch_congr h).2 hscratch
      have hindex : scratchIndex hx = scratchIndex hscratch := Fin.ext (wordIndex_congr h)
      rw [wordAt?_of_isScratch hscratch, wordAt?_of_isScratch hx]
      exact congrArg (fun i : Fin scratchWords => some s.scratch[i]) hindex
    · rw [wordAt?, wordAt?, if_neg hram, if_neg (mt (isRam_congr h).1 hram), dif_neg hscratch,
        dif_neg (mt (isScratch_congr h).1 hscratch)]

end

/-- The bytes of the space. -/
def bytes (s : AddressSpace) : ByteMemory := s.byteAt?

theorem bytes_eq (s : AddressSpace) (a : UInt32) :
    s.bytes a = (s.wordAt? a).map (laneByte · (a.toNat % 4)) := by
  rw [bytes, byteAt?, readWord_eq]
  cases s.wordAt? a with
  | none => rfl
  | some w => exact congrArg some (toUInt8_shiftRight_byteShift w a)

/-! ## Stores into the space -/

/-- Carries out a store. -/
def carryOut (s : AddressSpace) : Store → Except Fault AddressSpace
  | .word a v => s.writeWord a v
  | .half a v => s.writeHalf a v
  | .byte a v => s.writeByte a v

/-- The space that a store leaves behind: the same one if the store fails. -/
def after (s : AddressSpace) (st : Store) : AddressSpace :=
  match s.carryOut st with
  | .ok s' => s'
  | .error _ => s

theorem carryOut_eq (s : AddressSpace) (st : Store) :
    s.carryOut st = s.store st.address st.value st.mask := by
  cases st <;> rfl

variable {st : Store}

theorem carryOut_of_isRam (h : IsRam st.address) : s.carryOut st =
    if wordIndex st.address < s.ram.size then .ok s else .error (.outOfBounds st.address) := by
  rw [carryOut_eq, store, place_of_isRam h]
  by_cases hlt : wordIndex st.address < s.ram.size
  · rw [if_pos hlt, if_pos hlt]
  · rw [if_neg hlt, if_neg hlt]

theorem carryOut_of_isScratch (h : IsScratch st.address) : s.carryOut st =
    .ok ⟨s.ram, s.scratch.set (scratchIndex h)
      (merge s.scratch[scratchIndex h] st.value st.mask)⟩ := by
  rw [carryOut_eq, store, place_of_isScratch h]
  rfl

theorem carryOut_of_neither (hram : ¬ IsRam st.address) (hscratch : ¬ IsScratch st.address) :
    s.carryOut st = .error (ByteMemory.fault st.address) := by
  rw [carryOut_eq, store, place_of_neither hram hscratch]

/-- Only the scratch area changes. -/
theorem after_of_not_isScratch (h : ¬ IsScratch st.address) : s.after st = s := by
  rw [after]
  by_cases hram : IsRam st.address
  · rw [carryOut_of_isRam hram]
    by_cases hlt : wordIndex st.address < s.ram.size
    · rw [if_pos hlt]
    · rw [if_neg hlt]
  · rw [carryOut_of_neither hram h]

theorem after_of_isScratch (h : IsScratch st.address) : s.after st =
    ⟨s.ram, s.scratch.set (scratchIndex h)
      (merge s.scratch[scratchIndex h] st.value st.mask)⟩ := by
  rw [after, carryOut_of_isScratch h]

@[simp] theorem ram_after (s : AddressSpace) (st : Store) : (s.after st).ram = s.ram := by
  by_cases h : IsScratch st.address
  · rw [after_of_isScratch h]
  · rw [after_of_not_isScratch h]

/-- The words next to that of a store stay. -/
theorem wordAt?_after_of_ne (h : x.toNat / 4 ≠ st.address.toNat / 4) :
    (s.after st).wordAt? x = s.wordAt? x := by
  by_cases hst : IsScratch st.address
  · by_cases hx : IsScratch x
    · have hne : (scratchIndex hst).val ≠ (scratchIndex hx).val := by
        change wordIndex st.address ≠ wordIndex x
        rw [wordIndex_eq, wordIndex_eq]
        unfold IsScratch at hst hx
        omega
      rw [wordAt?_of_isScratch hx, wordAt?_of_isScratch hx, after_of_isScratch hst]
      exact congrArg some (Vector.getElem_set_ne (scratchIndex hst).isLt (scratchIndex hx).isLt hne)
    · unfold wordAt?
      rw [ram_after, dif_neg hx, dif_neg hx]
  · rw [after_of_not_isScratch hst]

/-- The word of a store takes it up. -/
theorem wordAt?_after_of_eq (hst : IsScratch st.address) :
    (s.after st).wordAt? st.address =
      (s.wordAt? st.address).map (merge · st.value st.mask) := by
  rw [wordAt?_of_isScratch hst, wordAt?_of_isScratch hst, after_of_isScratch hst]
  exact congrArg some (Vector.getElem_set_self _)

/-- **A store changes the bytes of the space as it changes a memory of bytes.** -/
theorem bytes_after (s : AddressSpace) (st : Store) :
    (s.after st).bytes = s.bytes.write st := by
  funext x
  rw [ByteMemory.write]
  by_cases hword : x.toNat / 4 = st.address.toNat / 4
  -- the store may reach this byte if it is kept at all
  · by_cases hx : IsScratch x
    · have hst := (isScratch_congr hword).1 hx
      rw [if_pos hx, bytes_eq, bytes_eq, wordAt?_congr hword, wordAt?_after_of_eq hst,
        wordAt?_congr hword, wordAt?_of_isScratch hst, Option.map_some, Option.map_some,
        Option.map_some, st.laneByte_merge hword]
      cases st.byteAt? x <;> rfl
    · rw [if_neg hx, after_of_not_isScratch (mt (isScratch_congr hword).2 hx)]
  · rw [bytes_eq, bytes_eq, wordAt?_after_of_ne hword, Store.byteAt?_of_ne hword]
    split <;> rfl

/-- At first there is the image, and zeros. -/
theorem bytes_ofImage (m : Image) : (ofImage m).bytes = .ofImage m := by
  funext x
  rw [bytes_eq, wordAt?]
  unfold ByteMemory.ofImage
  by_cases hram : IsRam x
  · have hindex : wordIndex x = (x.toNat - 0x80000000) / 4 := by
      rw [wordIndex_eq]
      unfold IsRam at hram
      omega
    rw [if_pos hram, if_pos hram, hindex]
    rfl
  · rw [if_neg hram, if_neg hram]
    by_cases hscratch : IsScratch x
    · have hzero : (ofImage m).scratch[scratchIndex hscratch] = 0 := Vector.getElem_replicate _
      rw [dif_pos hscratch, if_pos hscratch, hzero, Option.map_some,
        laneByte_zero (Nat.mod_lt _ (by decide))]
    · rw [dif_neg hscratch, if_neg hscratch]
      rfl

/-! ## Reading -/

theorem readWord_eq_error_iff {f : Fault} : s.readWord a = .error f ↔
    f = .outOfBounds a ∧ (a >>> 24 = 0x80 ∧ s.ram.size ≤ wordIndex a ∨
      a >>> 24 = 0x81 ∧ scratchWords ≤ wordIndex a) ∨
    f = .unmappedSegment a ∧ a >>> 24 ≠ 0x80 ∧ a >>> 24 ≠ 0x81 := by
  by_cases hram : a >>> 24 = 0x80
  · have hscratch : a >>> 24 ≠ 0x81 := by
      rw [hram]
      decide
    rw [readWord, place, if_pos hram]
    by_cases hlt : wordIndex a < s.ram.size
    · have hget : s.ram.get? (wordIndex a) = some s.ram.words[wordIndex a] :=
        Array.getElem?_eq_getElem hlt
      simp [hlt, hget, hram]
    · simp [hlt, Nat.not_lt.1 hlt, hram, eq_comm]
  · by_cases hscratch : a >>> 24 = 0x81
    · rw [readWord, place, if_neg hram, if_pos hscratch]
      by_cases hlt : wordIndex a < scratchWords
      · simp [hlt, hscratch]
      · simp [hlt, Nat.not_lt.1 hlt, hscratch, eq_comm]
    · rw [readWord, place, if_neg hram, if_neg hscratch]
      simp [hram, hscratch, eq_comm]

theorem carryOut_eq_error_iff {f : Fault} :
    s.carryOut st = .error f ↔ s.readWord st.address = .error f := by
  by_cases hscratch : IsScratch st.address
  · rw [carryOut_of_isScratch hscratch, readWord_eq, wordAt?_of_isScratch hscratch]
    simp
  · by_cases hram : IsRam st.address
    · rw [carryOut_of_isRam hram, readWord_eq, wordAt?, if_pos hram, fault_of_isRam hram]
      by_cases hlt : wordIndex st.address < s.ram.size
      · rw [if_pos hlt, Image.get?, Array.getElem?_eq_getElem hlt]
        simp
      · rw [if_neg hlt, Image.get?, Array.getElem?_eq_none (Nat.not_lt.1 hlt)]
        simp
    · rw [carryOut_of_neither hram hscratch, readWord_eq, wordAt?, if_neg hram, dif_neg hscratch]
      simp

/-- The byte at some place of the word that an address falls into. -/
theorem bytes_of_word (h : x.toNat / 4 = a.toNat / 4) {j : Nat} (hj : x.toNat % 4 = j) :
    s.bytes x = (s.wordAt? a).map (laneByte · j) := by
  rw [bytes_eq, wordAt?_congr h, hj]

/-- **A word is read as its four bytes.** -/
theorem readWord_eq_readWord (s : AddressSpace) (a : UInt32) :
    s.readWord a = s.bytes.readWord a := by
  have ha := a.toNat_lt
  have hstart := toNat_word_start a
  have hbyte : ∀ k : UInt32, k.toNat < 4 →
      s.bytes ((a &&& ~~~3) + k) = (s.wordAt? a).map (laneByte · k.toNat) := by
    intro k hk
    have hadd : ((a &&& ~~~3) + k).toNat = a.toNat - a.toNat % 4 + k.toNat := by
      rw [UInt32.toNat_add, hstart]
      omega
    exact bytes_of_word (by omega) (by omega)
  have h0 := hbyte 0 (by decide)
  rw [UInt32.add_zero] at h0
  rw [ByteMemory.readWord, h0, hbyte 1 (by decide), hbyte 2 (by decide), hbyte 3 (by decide),
    readWord_eq]
  cases s.wordAt? a with
  | none => rfl
  | some w => exact congrArg Except.ok (wordOfBytes_laneByte w).symm

theorem readHalf_eq (s : AddressSpace) (a : UInt32) : s.bytes.readHalf a =
    (fun w => (w >>> halfShift a).toUInt16) <$> s.readWord a := by
  have ha := a.toNat_lt
  have hstart := toNat_half_start a
  have hadd : ((a &&& ~~~1) + 1).toNat = a.toNat - a.toNat % 2 + 1 := by
    rw [UInt32.toNat_add, hstart]
    change (_ + 1) % 2 ^ 32 = _
    omega
  have hhigh : s.bytes (a &&& ~~~1) =
      (s.wordAt? a).map (laneByte · (2 * (a.toNat % 4 / 2))) :=
    bytes_of_word (by omega) (by omega)
  have hlow : s.bytes ((a &&& ~~~1) + 1) =
      (s.wordAt? a).map (laneByte · (2 * (a.toNat % 4 / 2) + 1)) :=
    bytes_of_word (by omega) (by omega)
  rw [ByteMemory.readHalf, hhigh, hlow, readWord_eq]
  cases s.wordAt? a with
  | none => rfl
  | some w => exact congrArg Except.ok (toUInt16_shiftRight_halfShift w a).symm

theorem readByte_eq (s : AddressSpace) (a : UInt32) : s.bytes.readByte a =
    (fun w => (w >>> byteShift a).toUInt8) <$> s.readWord a := by
  rw [ByteMemory.readByte, bytes_eq, readWord_eq]
  cases s.wordAt? a with
  | none => rfl
  | some w => exact congrArg Except.ok (toUInt8_shiftRight_byteShift w a).symm

end AddressSpace

/-! ## The machine on a memory of bytes -/

namespace Machine
variable {m : Machine} {i : Instruction}

/-- What the machine becomes when a load has found a value, or has not. -/
def finishLoad (m : Machine) (i : Instruction) :
    Except Fault UInt32 → Machine × Except Fault Unit
  | .ok v => (m.apply (result i.rt v), .ok ())
  | .error f => (m, .error f)

theorem execute_of_effect {value : UInt32 → UInt32} (h : m.effect i = m.load i value) :
    m.execute i = m.finishLoad i (value <$> m.memory.readWord (m.address i)) := by
  rw [execute, h, load]
  cases m.memory.readWord (m.address i) <;> rfl

/-- **A load finds the bytes of the memory**, extended as its kind says. -/
theorem execute_of_load? {outcome : Except Fault UInt32}
    (h : m.memory.bytes.load? (m.address i) i.kind = some outcome) :
    m.execute i = m.finishLoad i outcome := by
  unfold ByteMemory.load? at h
  rw [AddressSpace.readByte_eq, AddressSpace.readHalf_eq, ← AddressSpace.readWord_eq_readWord,
    Functor.map_map, Functor.map_map, Functor.map_map, Functor.map_map] at h
  split at h
  case h_1 hkind | h_2 hkind | h_3 hkind | h_4 hkind =>
    cases h
    apply execute_of_effect
    rw [effect, hkind]
    rfl
  case h_5 hkind | h_6 hkind =>
    cases h
    have heffect : m.effect i = m.load i id := by rw [effect, hkind]
    rw [execute_of_effect heffect, id_map]
  case h_7 => cases h

end Machine

namespace AddressSpace
variable {s : AddressSpace}

/-- **What it is for an address space over an image to be a memory of bytes.** -/
structure Mirrors (s : AddressSpace) (m : Image) (b : ByteMemory) : Prop where
  /-- The bytes of the space are those of the memory. -/
  bytes : s.byteAt? = b
  /-- Words are read most significant byte first. -/
  read : ∀ a : UInt32, s.readWord a = b.readWord a
  /-- In the segment of the image stands the image. -/
  read_ram : ∀ a : UInt32, a >>> 24 = 0x80 → s.readWord a =
    match m.get? (wordIndex a) with
    | some w => .ok w
    | none => .error (.outOfBounds a)
  /-- Nothing can be read past the end of the two segments and outside of them. -/
  read_error : ∀ (a : UInt32) (f : Fault), s.readWord a = .error f ↔
    f = .outOfBounds a ∧ (a >>> 24 = 0x80 ∧ m.size ≤ wordIndex a ∨
      a >>> 24 = 0x81 ∧ scratchWords ≤ wordIndex a) ∨
    f = .unmappedSegment a ∧ a >>> 24 ≠ 0x80 ∧ a >>> 24 ≠ 0x81
  /-- A store writes its bytes. -/
  store_ok : ∀ (st : Store) (s' : AddressSpace),
    s.carryOut st = .ok s' → s'.byteAt? = b.write st
  /-- A store succeeds in the segment of the image, within the image, and has no effect. -/
  store_ram : ∀ st : Store, st.address >>> 24 = 0x80 → b.write st = b ∧ s.carryOut st =
    if wordIndex st.address < m.size then .ok s else .error (.outOfBounds st.address)
  /-- A store fails where nothing can be read, and for the same reason. -/
  store_error : ∀ (st : Store) (f : Fault),
    s.carryOut st = .error f ↔ s.readWord st.address = .error f
  /-- A store that fails has no effect. -/
  store_failed : ∀ (st : Store) (f : Fault),
    s.carryOut st = .error f → s.after st = s ∧ b.write st = b
  /-- A machine loads what the bytes say. -/
  load : ∀ (machine : Machine) (i : Instruction) (outcome : Except Fault UInt32),
    machine.memory = s → b.load? (machine.address i) i.kind = some outcome →
    machine.execute i = machine.finishLoad i outcome

theorem bytes_write_of_not_isScratch {st : Store} (h : ¬ IsScratch st.address) :
    s.bytes.write st = s.bytes := by
  rw [← bytes_after, after_of_not_isScratch h]

theorem mirrors_bytes (s : AddressSpace) : s.Mirrors s.ram s.bytes where
  bytes := rfl
  read := readWord_eq_readWord s
  read_ram a ha := by
    have hram := ram_segment_iff.1 ha
    rw [readWord_eq, wordAt?, if_pos hram, fault_of_isRam hram]
  read_error _ _ := readWord_eq_error_iff
  store_ok st s' h := by
    have hafter : s.after st = s' := by rw [after, h]
    rw [← bytes_after, hafter]
    rfl
  store_ram st hst := by
    have hram := ram_segment_iff.1 hst
    have hscratch : ¬ IsScratch st.address := fun h => h.not_isRam hram
    exact ⟨bytes_write_of_not_isScratch hscratch, carryOut_of_isRam hram⟩
  store_error _ _ := carryOut_eq_error_iff
  store_failed st f h := by
    have hscratch : ¬ IsScratch st.address := by
      intro hscratch
      rw [carryOut_of_isScratch hscratch] at h
      cases h
    exact ⟨after_of_not_isScratch hscratch, bytes_write_of_not_isScratch hscratch⟩
  load machine i outcome hmemory h := by
    subst hmemory
    exact Machine.execute_of_load? h

@[simp] theorem ram_foldl_after (s : AddressSpace) (stores : List Store) :
    (stores.foldl after s).ram = s.ram := by
  induction stores generalizing s with
  | nil => rfl
  | cons st stores ih => rw [List.foldl_cons, ih, ram_after]

theorem bytes_foldl_after (s : AddressSpace) (stores : List Store) :
    (stores.foldl after s).bytes = stores.foldl ByteMemory.write s.bytes := by
  induction stores generalizing s with
  | nil => rfl
  | cons st stores ih => rw [List.foldl_cons, List.foldl_cons, ih, bytes_after]

/-- **After any row of stores the address space is a memory of bytes**: the bytes of the image
and a scratch area of zeros, with the same stores written to them. -/
theorem mirrors_foldl (m : Image) (stores : List Store) :
    (stores.foldl after (ofImage m)).Mirrors m (stores.foldl ByteMemory.write (.ofImage m)) := by
  have h := mirrors_bytes (stores.foldl after (ofImage m))
  rwa [ram_foldl_after, bytes_foldl_after, bytes_ofImage] at h

end AddressSpace

end PadScout
