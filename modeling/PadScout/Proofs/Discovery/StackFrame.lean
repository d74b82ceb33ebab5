import Mathlib.Order.Bounds.Defs
import PadScout.Proofs.Discovery.Survivors

/-! # The search for a stack frame

The words that allocate a stack frame fill an interval: the upper half of them says
`addiu sp, sp`, and the lower half is a negative number (`FrameWord`, `frameWord_iff`).  A
search looks backwards for such a word, and what it finds is the greatest index of its window
that holds one (`findProlog_settled`).  What the other words of the window are does not
matter, not even whether they are instructions.
-/
namespace PadScout

open Mips (Instruction decode)

namespace Mips

/-! ## Adding a number to a register -/

theorem decode_eq_addiu_iff {w : UInt32} {rt rs : Register} {n : Int16} :
    decode w = .ok (.addiu rt rs n) ↔ (Instruction.addiu rt rs n).encode = .ok w := by
  constructor
  · intro h
    exact (has_and_encode_of_decode h).2
  · intro h
    exact Instruction.decode_eq_of_encode h (by decide : Kind.addiu ≠ .sll) rfl

/-- The number stands in the lower half of the word. -/
theorem encode_addiu_sp (n : Int16) :
    (Instruction.addiu .sp .sp n).encode =
      .ok ((0x27BD0000 : UInt32) ||| n.toUInt16.toUInt32 <<< 0) := by
  have hselector : Kind.addiu.selector ||| Register.sp.bits <<< Field.rs.low |||
      Register.sp.bits <<< Field.rt.low = 0x27BD0000 := by decide
  rw [← hselector]
  rfl

end Mips

namespace Discovery

/-! ## Words that allocate a frame -/

/-- The word adds a negative number to the stack pointer. -/
def FrameWord (w : UInt32) : Prop := 0x27BD8000 ≤ w ∧ w ≤ 0x27BDFFFF

theorem toNat_encode_addiu_sp (n : Int16) :
    ((0x27BD0000 : UInt32) ||| n.toUInt16.toUInt32 <<< 0).toNat =
      0x27BD0000 + n.toUInt16.toNat := by
  have hn := n.toUInt16.toNat_lt
  have hor := Nat.two_pow_add_eq_or_of_lt (i := 16) hn 0x27BD
  rw [UInt32.toNat_or, UInt32.toNat_shiftLeft, UInt16.toNat_toUInt32]
  show 0x27BD0000 ||| n.toUInt16.toNat % 2 ^ 32 = _
  rw [Nat.mod_eq_of_lt (by omega)]
  exact hor.symm

theorem lt_zero_iff_toUInt16 (n : Int16) : n < 0 ↔ 0x8000 ≤ n.toUInt16.toNat := by
  have hn := n.toUInt16.toNat_lt
  have hsign : n.toInt = if 2 * n.toUInt16.toNat < 2 ^ 16 then (n.toUInt16.toNat : Int)
      else n.toUInt16.toNat - (2 ^ 16 : Nat) := BitVec.toInt_eq_toNat_cond n.toBitVec
  rw [Int16.lt_iff_toInt_lt, hsign]
  show _ < (0 : Int) ↔ _
  split <;> omega

/-- **The words that allocate a frame** are those that decode to such an addition. -/
theorem frameWord_iff {w : UInt32} :
    FrameWord w ↔ ∃ n, decode w = .ok (.addiu .sp .sp n) ∧ n < 0 := by
  simp only [Mips.decode_eq_addiu_iff, Mips.encode_addiu_sp, Except.ok.injEq,
    lt_zero_iff_toUInt16]
  simp only [FrameWord, UInt32.le_iff_toNat_le, UInt32.reduceToNat]
  constructor
  · rintro ⟨hlow, hhigh⟩
    have hhalf : (UInt16.ofNat (w.toNat - 0x27BD0000)).toInt16.toUInt16.toNat =
        w.toNat - 0x27BD0000 := by
      rw [UInt16.toUInt16_toInt16, UInt16.toNat_ofNat', Nat.mod_eq_of_lt (by omega)]
    refine ⟨(UInt16.ofNat (w.toNat - 0x27BD0000)).toInt16, ?_, by omega⟩
    apply UInt32.toNat_inj.1
    rw [toNat_encode_addiu_sp, hhalf]
    omega
  · rintro ⟨n, rfl, hn⟩
    have hlt := n.toUInt16.toNat_lt
    rw [toNat_encode_addiu_sp]
    omega

theorem allocatesAt_iff {m : Image} {p : Nat} :
    AllocatesAt m p ↔ ∃ w, m.get? p = some w ∧ FrameWord w := by
  rw [AllocatesAt]
  simp only [frameWord_iff, exists_and_left]

/-- A word that is no instruction allocates nothing. -/
theorem not_frameWord_of_error {w : UInt32} {e : Mips.DecodeError} (h : decode w = .error e) :
    ¬ FrameWord w := by
  intro hframe
  obtain ⟨n, hn, -⟩ := frameWord_iff.1 hframe
  rw [h] at hn
  cases hn

/-! ## Windows -/

/-- **An index in the window of a search** whose word allocates a frame. -/
structure FramedWithin (m : Image) (start bound p : Nat) : Prop where
  before : p < start
  inside : p < m.size
  near : start < p + bound
  allocates : ∃ w, m.get? p = some w ∧ FrameWord w

section
variable {m : Image} {start bound p : Nat}

theorem isGreatest_iff_nearestProlog :
    IsGreatest {q | FramedWithin m start bound q} p ↔ NearestProlog m start bound p := by
  constructor
  · rintro ⟨⟨hbefore, hinside, hnear, hframe⟩, hgreatest⟩
    refine ⟨hbefore, hnear, allocatesAt_iff.2 hframe, ?_⟩
    intro q hpq hq hallocates
    obtain ⟨w, hw, hword⟩ := allocatesAt_iff.1 hallocates
    -- an index behind `p` is in the window as well
    have hle : q ≤ p := hgreatest
      ⟨hq, (Array.getElem?_eq_some_iff.1 hw).1, by omega, w, hw, hword⟩
    omega
  · rintro ⟨hbefore, hnear, hallocates, hnearest⟩
    obtain ⟨w, hw, hword⟩ := allocatesAt_iff.1 hallocates
    refine ⟨⟨hbefore, (Array.getElem?_eq_some_iff.1 hw).1, hnear, w, hw, hword⟩, ?_⟩
    rintro q ⟨hq, -, -, hframe⟩
    by_contra hlt
    exact hnearest q (by omega) hq (allocatesAt_iff.2 hframe)

theorem findProlog_eq_ok_iff_isGreatest :
    findProlog m start bound = .ok p ↔ IsGreatest {q | FramedWithin m start bound q} p :=
  findProlog_eq_ok_iff_nearest.trans isGreatest_iff_nearestProlog.symm

/-- A search that fails tells where it began and how far it went. -/
theorem eq_prologNotFound {e : DiscoveryError} (h : findProlog m start bound = .error e) :
    e = .prologNotFound start bound := by
  rw [findProlog] at h
  split at h
  · cases h
  · cases h
    rfl

/-- A window with such an index has a greatest one. -/
theorem exists_isGreatest (h : FramedWithin m start bound p) :
    ∃ q, IsGreatest {q | FramedWithin m start bound q} q := by
  classical
  have hbound : ∀ q, FramedWithin m start bound q → q ≤ start := by
    intro q hq
    exact Nat.le_of_lt hq.before
  refine ⟨Nat.findGreatest (FramedWithin m start bound) start, ?_, ?_⟩
  · exact Nat.findGreatest_spec (hbound p h) h
  · intro q hq
    exact Nat.le_findGreatest (hbound q hq) hq

theorem findProlog_eq_error_iff {e : DiscoveryError} :
    findProlog m start bound = .error e ↔
      e = .prologNotFound start bound ∧ ∀ q, ¬ FramedWithin m start bound q := by
  constructor
  · intro h
    refine ⟨eq_prologNotFound h, ?_⟩
    intro q hq
    obtain ⟨p, hp⟩ := exists_isGreatest hq
    rw [findProlog_eq_ok_iff_isGreatest.2 hp] at h
    cases h
  · rintro ⟨rfl, hnone⟩
    cases hfound : findProlog m start bound with
    | ok p => exact absurd (findProlog_eq_ok_iff_isGreatest.1 hfound).1 (hnone p)
    | error e => rw [eq_prologNotFound hfound]

/-- The search depends on the words that allocate a frame alone. -/
theorem findProlog_congr {m' : Image}
    (h : ∀ q, FramedWithin m start bound q ↔ FramedWithin m' start bound q) :
    findProlog m start bound = findProlog m' start bound := by
  have hset : {q | FramedWithin m start bound q} = {q | FramedWithin m' start bound q} :=
    Set.ext h
  cases hfound : findProlog m' start bound with
  | ok p =>
    rw [findProlog_eq_ok_iff_isGreatest, hset]
    exact findProlog_eq_ok_iff_isGreatest.1 hfound
  | error e =>
    rw [findProlog_eq_error_iff] at hfound ⊢
    exact ⟨hfound.1, fun q hq => hfound.2 q ((h q).1 hq)⟩

/-- Putting one word that allocates nothing in the place of another changes no window. -/
theorem framedWithin_set_iff {k q : Nat} {w : UInt32} (hw : ¬ FrameWord w)
    (hk : ∀ v, m.get? k = some v → ¬ FrameWord v) :
    FramedWithin (m.set k w) start bound q ↔ FramedWithin m start bound q := by
  have hframe : (∃ v, (m.set k w).get? q = some v ∧ FrameWord v) ↔
      ∃ v, m.get? q = some v ∧ FrameWord v := by
    by_cases hkq : k = q
    · subst hkq
      constructor
      · rintro ⟨v, hv, hframe⟩
        have hinside : k < m.size := by
          have hlt := (Array.getElem?_eq_some_iff.1 hv).1
          rwa [← Image.size_set m k w]
        rw [Image.get?_set_self hinside] at hv
        obtain rfl := Option.some.inj hv
        exact absurd hframe hw
      · rintro ⟨v, hv, hframe⟩
        exact absurd hframe (hk v hv)
    · rw [Image.get?_set_of_ne hkq]
  constructor
  · rintro ⟨hbefore, hinside, hnear, hallocates⟩
    exact ⟨hbefore, by rwa [Image.size_set] at hinside, hnear, hframe.1 hallocates⟩
  · rintro ⟨hbefore, hinside, hnear, hallocates⟩
    exact ⟨hbefore, by rwa [Image.size_set], hnear, hframe.2 hallocates⟩

end

/-- **The search for a stack frame**, in any image, from any word and however far.  It finds
the greatest index of its window whose word allocates a frame, and it fails if there is none.
Such a word is an addition of a negative number to the stack pointer.  A word that is no
instruction never stops the search: put in the place of any word that allocates no frame, it
changes nothing. -/
theorem findProlog_settled (m : Image) (start bound : Nat) :
    (∀ p, findProlog m start bound = .ok p ↔
      IsGreatest {q | FramedWithin m start bound q} p) ∧
    (∀ e, findProlog m start bound = .error e ↔
      e = .prologNotFound start bound ∧ ∀ q, ¬ FramedWithin m start bound q) ∧
    (∀ w, FrameWord w ↔ ∃ n, decode w = .ok (.addiu .sp .sp n) ∧ n < 0) ∧
    ∀ k w e, decode w = .error e → (∀ v, m.get? k = some v → ¬ FrameWord v) →
      findProlog (m.set k w) start bound = findProlog m start bound := by
  refine ⟨fun p => findProlog_eq_ok_iff_isGreatest, fun e => findProlog_eq_error_iff,
    fun w => frameWord_iff, ?_⟩
  intro k w e hdecode hk
  refine findProlog_congr ?_
  intro q
  exact framedWithin_set_iff (not_frameWord_of_error hdecode) hk

-- a word `bound` words away is too far, and the search may begin past the end of the image
example : findProlog ⟨#[0x27BDFFE8, 0x46000000, 0]⟩ 2 3 = .ok 0 ∧
    findProlog ⟨#[0x27BDFFE8, 0x46000000, 0]⟩ 2 2 = .error (.prologNotFound 2 2) ∧
    findProlog ⟨#[0x27BDFFE8, 0x46000000, 0]⟩ 9 10 = .ok 0 := by decide +kernel

end Discovery
end PadScout
