import Mathlib.Data.Nat.Find
import PadScout.Proofs.Machine.Effects
import PadScout.Proofs.Machine.Probe

/-! # Straight stretches of code

The machine never jumps, so what it does with a stretch of code depends on the words of the
stretch alone, one after the other, and not on where they come from.  `Machine.given` is the
machine after one word and `Machine.after` the machine after some.  Only one thing ends such a
course: a division whose divisor is zero (`Machine.DividesAt`).

A machine faces some words if they stand in the image from the program counter on
(`Machine.Faces`).  One step takes it past the first of them, where it faces the rest
(`Faces.tail`).  By induction a run goes through all of them and takes its steps from the
machines after the first few words (`Faces.run`), unless some division by zero comes first
(`Faces.run_of_firstDivision`).
-/
namespace PadScout

open Mips

namespace Machine

/-- What the machine has become after a word of code.  The program counter has moved on, and
the instruction has been carried out, if the word is one and nothing prevents it. -/
def given (m : Machine) (w : UInt32) : Machine :=
  match decode w with
  | .ok i => ((m.withPc (m.pc + 4)).execute i).1
  | .error _ => m.withPc (m.pc + 4)

/-- What the machine has become after some words of code, one after the other. -/
def after (m : Machine) (ws : List UInt32) : Machine := ws.foldl given m

/-- The word is a division, and its divisor is zero. -/
def DividesByZero (m : Machine) (w : UInt32) : Prop :=
  ∃ i, decode w = .ok i ∧ (i.kind = .div ∨ i.kind = .divu) ∧ m.operand i.rt = 0

/-- Word `k` is a division, and when it is reached the divisor is zero. -/
def DividesAt (m : Machine) (ws : List UInt32) (k : Nat) : Prop :=
  ∃ w, ws[k]? = some w ∧ (m.after (ws.take k)).DividesByZero w

/-- Word `k` is the first to divide by zero. -/
def FirstDivision (m : Machine) (ws : List UInt32) (k : Nat) : Prop :=
  m.DividesAt ws k ∧ ∀ j < k, ¬ m.DividesAt ws j

/-- Some word is a store of a nonzero word, and when it is reached the register to store holds
this value. -/
def Stores (m : Machine) (ws : List UInt32) (value : UInt32) : Prop :=
  value ≠ 0 ∧ ∃ k w i, ws[k]? = some w ∧ decode w = .ok i ∧ i.kind = .sw ∧
    (m.after (ws.take k)).operand i.rt = value

/-! ## One word -/

section
variable {m : Machine} {w : UInt32}

theorem pc_given (m : Machine) (w : UInt32) : (m.given w).pc = m.pc + 4 := by
  rw [given]
  cases decode w with
  | ok i => exact pc_execute (m.withPc (m.pc + 4)) i
  | error e => rfl

theorem ram_given (m : Machine) (w : UInt32) : (m.given w).memory.ram = m.memory.ram := by
  rw [given]
  cases decode w with
  | ok i => exact ram_execute (m.withPc (m.pc + 4)) i
  | error e => rfl

theorem operand_withPc (m : Machine) (pc : UInt32) (r : Option Register) :
    (m.withPc pc).operand r = m.operand r := by
  cases r <;> rfl

theorem fetch_of_readWord (hw : m.memory.readWord m.pc = .ok w) :
    m.fetch = (m.withPc (m.pc + 4), .ok (decode w).toOption) := by
  rw [fetch, hw]

/-- A division by zero names the place where the machine stands. -/
theorem step_of_dividesByZero (hw : m.memory.readWord m.pc = .ok w) (h : m.DividesByZero w) :
    m.step = (m.given w, .error (.divideByZero m.pc)) := by
  obtain ⟨i, hi, hkind, hzero⟩ := h
  have heffect : (m.withPc (m.pc + 4)).effect i = .error (.divideByZero m.pc) := by
    refine effect_eq_divideByZero_iff.2 ⟨hkind, ?_, ?_⟩
    · rw [operand_withPc]
      exact hzero
    · exact (UInt32.add_sub_cancel m.pc 4).symm
  rw [step, fetch_of_readWord hw, given, hi]
  dsimp only [Except.toOption]
  rw [execute, heffect]

/-- Every other word is passed, whether it is an instruction or not and whether its access to
memory fails or not. -/
theorem step_of_not_dividesByZero (hw : m.memory.readWord m.pc = .ok w)
    (h : ¬ m.DividesByZero w) : m.step = (m.given w, .ok (decode w).toOption) := by
  rw [step, fetch_of_readWord hw, given]
  cases hi : decode w with
  | error e => rfl
  | ok i =>
    dsimp only [Except.toOption]
    rw [execute]
    cases heffect : (m.withPc (m.pc + 4)).effect i with
    | ok e => rfl
    | error f =>
      cases f with
      | divideByZero pc =>
        obtain ⟨hkind, hzero, -⟩ := effect_eq_divideByZero_iff.1 heffect
        rw [operand_withPc] at hzero
        exact absurd ⟨i, hi, hkind, hzero⟩ h
      | unmappedSegment a | outOfBounds a | fetch pc => rfl

/-- **A step stores what the register holds**, whatever becomes of the store. -/
theorem storesWord_iff (hw : m.memory.readWord m.pc = .ok w) {value : UInt32} :
    m.StoresWord value ↔
      value ≠ 0 ∧ ∃ i, decode w = .ok i ∧ i.kind = .sw ∧ m.operand i.rt = value := by
  -- a store does not divide, and it leaves the registers as they are
  have hstep : ∀ {i : Instruction}, decode w = .ok i → i.kind = .sw →
      m.step = (m.given w, .ok (some i)) ∧ (m.given w).operand i.rt = m.operand i.rt := by
    intro i hi hkind
    constructor
    · rw [step_of_not_dividesByZero hw, hi]
      · rfl
      · rintro ⟨j, hj, hdivide, -⟩
        rw [hi] at hj
        cases hj
        rw [hkind] at hdivide
        rcases hdivide with h | h
        · cases h
        · cases h
    · obtain ⟨st, -, hafter⟩ := execute_of_store (m := m.withPc (m.pc + 4)) (i := i)
        (by rw [hkind]; rfl)
      rw [given, hi]
      dsimp only
      rw [hafter]
      cases i.rt <;> rfl
  constructor
  · rintro ⟨m', i, hm', hkind, hvalue, hne⟩
    have hi : decode w = .ok i := by
      by_cases hdivide : m.DividesByZero w
      · rw [step_of_dividesByZero hw hdivide] at hm'
        cases hm'
      · rw [step_of_not_dividesByZero hw hdivide] at hm'
        have hsome : (decode w).toOption = some i := Except.ok.inj (congrArg Prod.snd hm')
        cases hdecode : decode w with
        | error e =>
          rw [hdecode] at hsome
          cases hsome
        | ok j =>
          rw [hdecode] at hsome
          exact congrArg Except.ok (Option.some.inj hsome)
    obtain ⟨hgiven, hoperand⟩ := hstep hi hkind
    rw [hgiven] at hm'
    obtain rfl := congrArg Prod.fst hm'
    exact ⟨hne, i, hi, hkind, hoperand.symm.trans hvalue⟩
  · rintro ⟨hne, i, hi, hkind, hvalue⟩
    obtain ⟨hgiven, hoperand⟩ := hstep hi hkind
    exact ⟨m.given w, i, hgiven, hkind, hoperand.trans hvalue, hne⟩

end

/-! ## Some words -/

section
variable {m : Machine} {w : UInt32} {ws : List UInt32} {k : Nat}

theorem dividesAt_zero : m.DividesAt (w :: ws) 0 ↔ m.DividesByZero w := by
  constructor
  · rintro ⟨v, hv, h⟩
    cases hv
    exact h
  · intro h
    exact ⟨w, rfl, h⟩

theorem dividesAt_succ : m.DividesAt (w :: ws) (k + 1) ↔ (m.given w).DividesAt ws k := Iff.rfl

theorem dividesAt_take {n : Nat} (h : k < n) : m.DividesAt (ws.take n) k ↔ m.DividesAt ws k := by
  rw [DividesAt, DividesAt, List.getElem?_take_of_lt h, List.take_take, Nat.min_eq_left (by omega)]

/-- Either no word divides by zero, or one is the first to do so. -/
theorem smooth_or_firstDivision (m : Machine) (ws : List UInt32) :
    (∀ k, ¬ m.DividesAt ws k) ∨ ∃ k, m.FirstDivision ws k := by
  classical
  by_cases hex : ∃ k, m.DividesAt ws k
  · exact .inr ⟨Nat.find hex, Nat.find_spec hex, fun j hj => Nat.find_min hex hj⟩
  · exact .inl (not_exists.1 hex)

theorem FirstDivision.lt_length (h : m.FirstDivision ws k) : k < ws.length := by
  obtain ⟨⟨w, hw, -⟩, -⟩ := h
  exact (List.getElem?_eq_some_iff.1 hw).1

end

/-! ## Words in the image -/

/-- **The machine faces some words**: they stand in the image from the word on at which the
machine stands, and all of them lie in the segment of the image. -/
structure Faces (m : Machine) (image : Image) (index : Nat) (ws : List UInt32) : Prop where
  pc : m.pc.toNat = 0x80000000 + 4 * index
  ram : m.memory.ram = image
  words : ∀ k w, ws[k]? = some w → image.get? (index + k) = some w
  bound : index + ws.length ≤ 0x400000

namespace Faces
variable {m : Machine} {image : Image} {index k : Nat} {w : UInt32} {ws : List UInt32}

/-- What is read where the machine stands. -/
theorem readWord (h : m.Faces image index ws) (hindex : index < 0x400000) :
    m.memory.readWord m.pc =
      match image.get? index with
      | some w => .ok w
      | none => .error (.outOfBounds m.pc) := by
  have hpc := h.pc
  have hram : IsRam m.pc := by
    unfold IsRam
    omega
  have hword : AddressSpace.wordIndex m.pc = index := by
    rw [AddressSpace.wordIndex_eq]
    omega
  rw [AddressSpace.readWord_eq, AddressSpace.wordAt?, if_pos hram, hword, h.ram]
  cases image.get? index with
  | some w => rfl
  | none => exact congrArg Except.error (AddressSpace.fault_of_isRam hram)

theorem readWord_head (h : m.Faces image index (w :: ws)) :
    m.memory.readWord m.pc = .ok w := by
  have hbound := h.bound
  rw [List.length_cons] at hbound
  have hword : image.get? index = some w := h.words 0 w rfl
  rw [h.readWord (by omega), hword]

/-- **One word on**, the machine faces the rest. -/
theorem tail (h : m.Faces image index (w :: ws)) : (m.given w).Faces image (index + 1) ws := by
  have hpc := h.pc
  have hbound := h.bound
  rw [List.length_cons] at hbound
  refine ⟨?_, ?_, ?_, ?_⟩
  · rw [pc_given, UInt32.toNat_add, hpc]
    change (0x80000000 + 4 * index + 4) % 2 ^ 32 = _
    omega
  · rw [ram_given]
    exact h.ram
  · intro k v hv
    have hword := h.words (k + 1) v hv
    rwa [Nat.add_comm k 1, ← Nat.add_assoc] at hword
  · omega

/-- Some words on, the machine faces the rest. -/
theorem drop (h : m.Faces image index ws) (hk : k ≤ ws.length) :
    (m.after (ws.take k)).Faces image (index + k) (ws.drop k) := by
  induction k generalizing m index ws with
  | zero => exact h
  | succ k ih =>
    cases ws with
    | nil => cases hk
    | cons w ws =>
      rw [Nat.add_comm k 1, ← Nat.add_assoc, Nat.add_comm 1 k]
      exact ih h.tail (Nat.le_of_succ_le_succ hk)

/-- **A run goes through all words that the machine faces** if none divides by zero, and
takes its steps one by one from the machines after the first few of them. -/
theorem run (h : m.Faces image index ws) (hsmooth : ∀ k, ¬ m.DividesAt ws k) (n : Nat) :
    Machine.run (ws.length + n) m = Machine.run n (m.after ws) ∧
      trail (ws.length + n) m =
        (List.range ws.length).map (fun k => m.after (ws.take k)) ++ trail n (m.after ws) := by
  induction ws generalizing m index with
  | nil =>
    rw [List.length_nil, Nat.zero_add]
    exact ⟨rfl, rfl⟩
  | cons w ws ih =>
    have hstep := step_of_not_dividesByZero h.readWord_head (mt dividesAt_zero.2 (hsmooth 0))
    obtain ⟨hrun, htrail⟩ := ih h.tail fun k => mt dividesAt_succ.2 (hsmooth (k + 1))
    rw [List.length_cons, Nat.add_right_comm]
    constructor
    · rw [run_succ_of_ok hstep, hrun]
      rfl
    · rw [trail_succ_of_ok hstep, htrail, List.range_succ_eq_map, List.map_cons, List.map_map]
      rfl

/-- **A run ends at the first division by zero**, and names its place. -/
theorem run_of_firstDivision (h : m.Faces image index ws) (hk : m.FirstDivision ws k) (n : Nat) :
    (∃ final, Machine.run (ws.length + n) m =
      (final, .error (.divideByZero (m.after (ws.take k)).pc))) ∧
      trail (ws.length + n) m = (List.range (k + 1)).map fun j => m.after (ws.take j) := by
  have hlt := hk.lt_length
  obtain ⟨⟨w, hw, hdivide⟩, hbefore⟩ := hk
  -- the words before the division are passed
  have hsmooth : ∀ j, ¬ m.DividesAt (ws.take k) j := by
    intro j hj
    by_cases hjk : j < k
    · exact hbefore j hjk ((dividesAt_take hjk).1 hj)
    · obtain ⟨v, hv, -⟩ := hj
      have hlength := (List.getElem?_eq_some_iff.1 hv).1
      rw [List.length_take] at hlength
      omega
  have hfaces : m.Faces image index (ws.take k) := by
    refine ⟨h.pc, h.ram, fun j v hv => h.words j v ?_, ?_⟩
    · have hjk : j < k := by
        have hlength := (List.getElem?_eq_some_iff.1 hv).1
        rw [List.length_take] at hlength
        omega
      rwa [List.getElem?_take_of_lt hjk] at hv
    · have hbound := h.bound
      rw [List.length_take]
      omega
  obtain ⟨hrun, htrail⟩ := hfaces.run hsmooth (ws.length - k - 1 + n + 1)
  have hlength : (ws.take k).length + (ws.length - k - 1 + n + 1) = ws.length + n := by
    rw [List.length_take]
    omega
  rw [hlength] at hrun htrail
  -- and then the machine stands before the division
  have hrest : (m.after (ws.take k)).Faces image (index + k) (w :: ws.drop (k + 1)) := by
    have hdrop : ws.drop k = w :: ws.drop (k + 1) := by
      rw [List.drop_eq_getElem_cons hlt, (List.getElem?_eq_some_iff.1 hw).2]
    rw [← hdrop]
    exact h.drop (Nat.le_of_lt hlt)
  have hstep := step_of_dividesByZero hrest.readWord_head hdivide
  constructor
  · rw [hrun, run_succ_of_error hstep]
    exact ⟨_, rfl⟩
  · have hlast : trail (ws.length - k - 1 + n + 1) (m.after (ws.take k)) =
        [m.after (ws.take k)] := by
      rw [trail, hstep]
    rw [htrail, hlast, List.length_take, Nat.min_eq_left (Nat.le_of_lt hlt), List.range_succ,
      List.map_append, List.map_singleton]
    refine congrArg (· ++ _) (List.map_congr_left fun j hj => ?_)
    rw [List.take_take, Nat.min_eq_left (Nat.le_of_lt (List.mem_range.1 hj))]

/-- **What a run through some words stores** is what its words store. -/
theorem storesWithin_iff (h : m.Faces image index ws) (hsmooth : ∀ k, ¬ m.DividesAt ws k)
    (value : UInt32) : m.StoresWithin ws.length value ↔ m.Stores ws value := by
  have htrail := (h.run hsmooth 0).2
  rw [Nat.add_zero, trail, List.append_nil] at htrail
  have hread : ∀ {k : Nat} {w : UInt32}, ws[k]? = some w →
      (m.after (ws.take k)).memory.readWord (m.after (ws.take k)).pc = .ok w := by
    intro k w hw
    obtain ⟨hk, hget⟩ := List.getElem?_eq_some_iff.1 hw
    have hrest := h.drop (Nat.le_of_lt hk)
    rw [List.drop_eq_getElem_cons hk, hget] at hrest
    exact hrest.readWord_head
  constructor
  · rintro ⟨s, hs, hstores⟩
    rw [htrail] at hs
    obtain ⟨k, hk, rfl⟩ := List.mem_map.1 hs
    have hw := List.getElem?_eq_getElem (List.mem_range.1 hk)
    obtain ⟨hne, i, hi, hkind, hvalue⟩ := (storesWord_iff (hread hw)).1 hstores
    exact ⟨hne, k, _, i, hw, hi, hkind, hvalue⟩
  · rintro ⟨hne, k, w, i, hw, hi, hkind, hvalue⟩
    have hk := (List.getElem?_eq_some_iff.1 hw).1
    refine ⟨m.after (ws.take k), ?_, (storesWord_iff (hread hw)).2 ⟨hne, i, hi, hkind, hvalue⟩⟩
    rw [htrail]
    exact List.mem_map.2 ⟨k, List.mem_range.2 hk, rfl⟩

end Faces

end Machine
end PadScout
