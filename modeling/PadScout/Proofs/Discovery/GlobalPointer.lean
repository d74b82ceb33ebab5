import Mathlib.Order.Bounds.Defs
import PadScout.Discovery.Stages
import PadScout.Proofs.CallRegion
import PadScout.Proofs.Machine.Frame
import PadScout.Proofs.Pattern.Entries

/-! # The global pointer

A game sets up the global pointer with `lui gp, hi`, a return and `addiu gp, gp, lo`.  Discovery
puts the value together from the two words that hold its halves (`Discovery.loadedValue`).  The
machine gets it by running the three words: it does not jump, so it goes on to the last of them.
Both come to the same, whatever the halves are (`Discovery.globalPointer_of_run`).

The words of a match are known but for their lower halves, so they decode to these instructions
(`Mips.decode_lui_gp`, `Mips.decode_addiu_gp`), and what the machine has become after them is the
machine before, with the register set (`Machine.after_gpSetup`).
-/
namespace PadScout

open Mips (Instruction Register Kind Field decode)

/-! ## Words that are known but for their lower half -/

namespace Mips

/-- The lower half of a word, as an immediate operand without its sign. -/
theorem toUInt32_immediate (w : UInt32) :
    w.toUInt16.toInt16.toUInt16.toUInt32 = w &&& 0xFFFF := by
  have hand : (w &&& 0xFFFF).toNat = w.toNat % 2 ^ 16 :=
    Word.toNat_and_low (k := 16) (by decide) w
  apply UInt32.toNat_inj.1
  rw [UInt16.toUInt16_toInt16, UInt16.toNat_toUInt32, UInt32.toNat_toUInt16, hand]

/-- A word is its upper half and, as an immediate operand, its lower half. -/
theorem eq_or_immediate {w high : UInt32} (h : w &&& ~~~0xFFFF = high) :
    w = high ||| w.toUInt16.toInt16.toUInt16.toUInt32 <<< 0 := by
  rw [toUInt32_immediate, UInt32.shiftLeft_zero, ← h]
  exact (Word.and_not_or_and w 0xFFFF).symm

/-- `lui gp` with any operand. -/
theorem decode_lui_gp {w : UInt32} (h : w &&& ~~~0xFFFF = 0x3C1C0000) :
    decode w = .ok (.lui .gp w.toUInt16.toInt16) := by
  have hselector : Kind.lui.selector ||| Register.gp.bits <<< Field.rt.low = 0x3C1C0000 := by
    decide
  have hencode : (Instruction.lui .gp w.toUInt16.toInt16).encode = .ok w := by
    refine Eq.trans ?_ (congrArg Except.ok (eq_or_immediate h).symm)
    rw [← hselector]
    rfl
  exact Instruction.decode_eq_of_encode hencode (by decide : Kind.lui ≠ .sll) rfl

/-- `addiu gp, gp` with any operand. -/
theorem decode_addiu_gp {w : UInt32} (h : w &&& ~~~0xFFFF = 0x279C0000) :
    decode w = .ok (.addiu .gp .gp w.toUInt16.toInt16) := by
  have hselector : Kind.addiu.selector ||| Register.gp.bits <<< Field.rs.low |||
      Register.gp.bits <<< Field.rt.low = 0x279C0000 := by
    decide
  have hencode : (Instruction.addiu .gp .gp w.toUInt16.toInt16).encode = .ok w := by
    refine Eq.trans ?_ (congrArg Except.ok (eq_or_immediate h).symm)
    rw [← hselector]
    rfl
  exact Instruction.decode_eq_of_encode hencode (by decide : Kind.addiu ≠ .sll) rfl

theorem decode_return : decode 0x03E00008 = .ok (.jr .ra) := by decide +kernel

end Mips

/-! ## The machine -/

namespace Machine
variable {m : Machine} {w : UInt32} {r s : Register} {n : Int16}

theorem withPc_set (m : Machine) (r : Register) (value pc : UInt32) :
    (m.set r value).withPc pc = (m.withPc pc).set r value := by
  unfold set
  split <;> rfl

/-- The last value counts. -/
theorem set_set (m : Machine) (r : Register) (value last : UInt32) :
    (m.set r value).set r last = m.set r last := by
  by_cases hr : r = .zero
  · rw [hr, set_zero, set_zero, set_zero]
  · simp only [set, hr, if_false, Vector.set_set]

theorem given_of_lui (h : decode w = .ok (.lui r n)) :
    m.given w = (m.withPc (m.pc + 4)).set r (n.toUInt16.toUInt32 <<< 16) := by
  rw [given, h]
  rfl

theorem given_of_addiu (h : decode w = .ok (.addiu r s n)) :
    m.given w = (m.withPc (m.pc + 4)).set r (m.get s + n.toInt32.toUInt32) := by
  rw [given, h]
  rfl

theorem given_of_pass {i : Instruction} (h : decode w = .ok i) (hpass : i.kind.role = .pass) :
    m.given w = m.withPc (m.pc + 4) := by
  rw [given, h]
  dsimp only
  rw [execute_of_pass hpass]

/-- Without a division nothing ends a course of words. -/
theorem not_dividesAt_of_forall {ws : List UInt32}
    (h : ∀ w ∈ ws, ∃ i, decode w = .ok i ∧ i.kind.role ≠ .divide) (k : Nat) :
    ¬ m.DividesAt ws k := by
  rintro ⟨w, hw, i, hi, hkind, -⟩
  obtain ⟨j, hj, hrole⟩ := h w (List.mem_of_getElem? hw)
  rw [hi] at hj
  cases hj
  exact hrole (role_eq_divide_iff.2 hkind)

/-- **After the setup** the global pointer is set, and the machine stands behind it. -/
theorem after_gpSetup {lui addiu : UInt32} (hlui : decode lui = .ok (.lui .gp lui.toUInt16.toInt16))
    (haddiu : decode addiu = .ok (.addiu .gp .gp addiu.toUInt16.toInt16)) :
    m.after [lui, 0x03E00008, addiu] = (m.withPc (m.pc + 12)).set .gp
      (Discovery.loadedValue lui addiu) := by
  -- the upper half, the return, the lower half
  have hupper := given_of_lui (m := m) hlui
  have hreturn := given_of_pass (m := m.given lui) Mips.decode_return rfl
  have hlower := given_of_addiu (m := (m.given lui).given 0x03E00008) haddiu
  have hvalue : ((m.given lui).given 0x03E00008).get .gp =
      lui.toUInt16.toInt16.toUInt16.toUInt32 <<< 16 := by
    rw [hreturn, hupper]
    exact get_set_self _ (by decide : Register.gp ≠ .zero) _
  have hpc : ((m.given lui).given 0x03E00008).pc + 4 = m.pc + 12 := by
    rw [pc_given, pc_given, UInt32.add_assoc, UInt32.add_assoc]
    rfl
  show ((m.given lui).given 0x03E00008).given addiu = _
  rw [hlower, hvalue, hpc, hreturn, hupper, withPc_set, withPc_set, set_set,
    Mips.toUInt32_immediate]
  rfl

end Machine

/-! ## Discovery -/

namespace Discovery

/-- The global pointer is set up at a word of the image. -/
def SetsUpPointer (image : Image) (site : Nat) : Prop :=
  Routine.gpSetup.signature.pattern.MatchesAt image site

/-- **The words of a setup**: two instructions with any operands, and a return between them. -/
theorem words_of_setsUpPointer {image : Image} {site : Nat} (h : SetsUpPointer image site) :
    ∃ lui addiu, image.get? site = some lui ∧ image.get? (site + 1) = some 0x03E00008 ∧
      image.get? (site + 2) = some addiu ∧ decode lui = .ok (.lui .gp lui.toUInt16.toInt16) ∧
      decode addiu = .ok (.addiu .gp .gp addiu.toUInt16.toInt16) := by
  obtain ⟨lui, hlui, hupper, -⟩ := h.2 0 ⟨0x3C1C0000, 0x0000FFFF⟩ rfl
  obtain ⟨back, hback, hreturn, -⟩ := h.2 1 ⟨0x03E00008, 0⟩ rfl
  obtain ⟨addiu, haddiu, hlower, -⟩ := h.2 2 ⟨0x279C0000, 0x0000FFFF⟩ rfl
  have hall : back &&& ~~~0 = back := UInt32.and_neg_one
  obtain rfl : back = 0x03E00008 := hall.symm.trans hreturn
  exact ⟨lui, addiu, hlui, hback, haddiu, Mips.decode_lui_gp hupper, Mips.decode_addiu_gp hlower⟩

/-- Discovery takes the first setup. -/
theorem globalPointer_of_isLeast {image : Image} {site : Nat} {lui addiu : UInt32}
    (h : IsLeast {i | SetsUpPointer image i} site) (hlui : image.get? site = some lui)
    (haddiu : image.get? (site + 2) = some addiu) :
    globalPointer image = loadedValue lui addiu := by
  have hhead : (Routine.gpSetup.signature.pattern.occurrences image).head? = some site := by
    refine (head?_eq_some_iff_of_pairwise (Pattern.pairwise_occurrences _ image)).2 ⟨?_, ?_⟩
    · exact Pattern.mem_occurrences_iff.2 ⟨Routine.gpSetup.slots_ne_nil, h.1⟩
    · intro i hi
      exact h.2 (Pattern.mem_occurrences_iff.1 hi).2
  obtain ⟨rest, hsites⟩ := List.head?_eq_some_iff.1 hhead
  rw [globalPointer, gpSetup?, hsites]
  dsimp only
  rw [hlui, haddiu]

theorem globalPointer_of_none {image : Image} (h : ∀ i, ¬ SetsUpPointer image i) :
    globalPointer image = 0 := by
  have hsites : Routine.gpSetup.signature.pattern.occurrences image = [] := by
    rw [List.eq_nil_iff_forall_not_mem]
    intro i hi
    exact h i (Pattern.mem_occurrences_iff.1 hi).2
  rw [globalPointer, gpSetup?, hsites]

/-- **The global pointer is what the machine finds**, in any image that lies in its segment.  A
machine that stands before the first setup, whatever it holds, is left by three steps with the
value in the register, and nothing else but the program counter has changed.  Without a setup
the value is zero. -/
theorem globalPointer_of_run (image : Image) (hsize : image.size ≤ 0x400000) :
    (∀ site, IsLeast {i | SetsUpPointer image i} site →
      ∀ m : Machine, m.memory.ram = image → m.pc.toNat = 0x80000000 + 4 * site →
        ∃ m', m.run 3 = (m', .ok ()) ∧ m'.get .gp = globalPointer image ∧
          (∀ r, r ≠ .gp → m'.get r = m.get r) ∧ m'.hi = m.hi ∧ m'.lo = m.lo ∧
          m'.memory = m.memory ∧ m'.pc = m.pc + 12) ∧
    ((∀ i, ¬ SetsUpPointer image i) → globalPointer image = 0) := by
  refine ⟨?_, globalPointer_of_none⟩
  intro site hsite m hram hpc
  obtain ⟨lui, addiu, hlui, hback, haddiu, hupper, hlower⟩ := words_of_setsUpPointer hsite.1
  have hinside : site + 3 ≤ image.size := hsite.1.1
  have hfaces : m.Faces image site [lui, 0x03E00008, addiu] := by
    refine ⟨hpc, hram, ?_, ?_⟩
    · intro k w hw
      match k with
      | 0 | 1 | 2 =>
        cases hw
        assumption
    · show site + 3 ≤ 0x400000
      omega
  have hsmooth : ∀ k, ¬ m.DividesAt [lui, 0x03E00008, addiu] k := by
    refine Machine.not_dividesAt_of_forall ?_
    simp only [List.forall_mem_cons]
    exact ⟨⟨_, hupper, (by decide : Kind.lui.role ≠ .divide)⟩,
      ⟨_, Mips.decode_return, (by decide : Kind.jr.role ≠ .divide)⟩,
      ⟨_, hlower, (by decide : Kind.addiu.role ≠ .divide)⟩, List.forall_mem_nil _⟩
  obtain ⟨hrun, -⟩ := hfaces.run hsmooth 0
  rw [Machine.after_gpSetup hupper hlower, ← globalPointer_of_isLeast hsite hlui haddiu] at hrun
  refine ⟨_, hrun, ?_, ?_, ?_, ?_, ?_, ?_⟩
  · exact Machine.get_set_self _ (by decide : Register.gp ≠ .zero) _
  · intro r hr
    exact Machine.get_set_of_ne _ hr.symm _
  · exact Machine.hi_set _ _ _
  · exact Machine.lo_set _ _ _
  · exact Machine.memory_set _ _ _
  · exact Machine.pc_set _ _ _

/-- A setup whose lower half is negative, behind a word that is none. -/
def lowered : Image := ⟨#[0x3C1C0000, 0x3C1C8071, 0x03E00008, 0x279CFFF0]⟩

/-- The machine that stands before the setup, with a value in every register. -/
def beforeLowered : Machine :=
  { Machine.ofImage lowered with registers := Vector.replicate 32 7, hi := 8, pc := 0x80000004 }

/-- The lower half takes away from the upper one. -/
theorem globalPointer_of_run_lowered :
    lowered.size ≤ 0x400000 ∧ IsLeast {i | SetsUpPointer lowered i} 1 ∧
      globalPointer lowered = 0x8070FFF0 ∧
      ∃ m', beforeLowered.run 3 = (m', .ok ()) ∧ m'.get .gp = 0x8070FFF0 ∧ m'.get .ra = 7 := by
  have hsites : Routine.gpSetup.signature.pattern.occurrences lowered = [1] := by decide +kernel
  have hvalue : globalPointer lowered = 0x8070FFF0 := by decide +kernel
  have hmem : ∀ i, SetsUpPointer lowered i ↔ i = 1 := by
    intro i
    rw [← List.mem_singleton, ← hsites, Pattern.mem_occurrences_iff]
    exact (and_iff_right Routine.gpSetup.slots_ne_nil).symm
  have hleast : IsLeast {i | SetsUpPointer lowered i} 1 :=
    ⟨(hmem 1).2 rfl, fun i hi => Nat.le_of_eq ((hmem i).1 hi).symm⟩
  obtain ⟨m', hrun, hgp, hkept, -⟩ := (globalPointer_of_run lowered (by decide)).1 1 hleast
    beforeLowered rfl rfl
  refine ⟨by decide, hleast, hvalue, m', hrun, hgp.trans hvalue, ?_⟩
  exact (hkept .ra (by decide)).trans (Vector.getElem_replicate _)

end Discovery
end PadScout
