import PadScout.Proofs.Machine.ByteMemory

/-! # What instructions do

The kinds of instruction play a few roles (`Kind.role`), and the role of an instruction says
what carrying it out can come to (`Machine.Acts`, `Machine.acts`): a load takes a word from
memory, a store puts bytes there, a division fails if the divisor is zero, all others compute
with registers or pass by.  What any instruction leaves alone and how it can fail is read off
the roles.  No instruction moves the program counter or changes the image, and only divisions
divide by zero.

Machines with the same registers compute the same (`Machine.Alike`).  They may differ in their
memories and in the places where they stand, since apart from loads nothing brings a word of
memory or an address of code into a register (`Machine.Alike.execute`).
-/
namespace PadScout

open Mips

/-! ## Roles -/

/-- What an instruction works on. -/
inductive Role where
  | load | store | divide | multiply | toRd | toRt | toHi | toLo | pass
deriving DecidableEq

/-- The role of a kind.  Branches, jumps, 64-bit and unaligned accesses, the coprocessor and
the cache are passed by. -/
def Mips.Kind.role : Kind → Role
  | .lw | .lwu | .lb | .lbu | .lh | .lhu => .load
  | .sw | .sh | .sb => .store
  | .div | .divu => .divide
  | .mult | .multu => .multiply
  | .add | .addu | .sub | .subu | .and | .or | .xor | .nor | .slt | .sltu => .toRd
  | .sll | .srl | .sra | .sllv | .srlv | .srav | .mfhi | .mflo => .toRd
  | .addi | .addiu | .andi | .ori | .xori | .slti | .sltiu | .lui => .toRt
  | .mthi => .toHi
  | .mtlo => .toLo
  | _ => .pass

theorem role_eq_divide_iff {k : Kind} : k.role = .divide ↔ k = .div ∨ k = .divu := by
  cases k <;> decide

namespace Machine

/-- **What an instruction can come to**, given its role. -/
inductive Acts (m : Machine) (i : Instruction) : Role → Except Fault Effect → Prop
  | load (value : UInt32 → UInt32) : Acts m i .load (m.load i value)
  | store (st : Store) (h : st.address = m.address i) :
      Acts m i .store (storing (m.memory.carryOut st))
  | divide (quotient remainder : UInt32) :
      Acts m i .divide (m.divide (m.operand i.rt) (.hiLo remainder quotient))
  | multiply (p : UInt64) : Acts m i .multiply (.ok (product p))
  | toRd (value : UInt32) : Acts m i .toRd (.ok (result i.rd value))
  | toRt (value : UInt32) : Acts m i .toRt (.ok (result i.rt value))
  | toHi (value : UInt32) : Acts m i .toHi (.ok (.hi value))
  | toLo (value : UInt32) : Acts m i .toLo (.ok (.lo value))
  | pass : Acts m i .pass (.ok .nothing)

/-- **Every instruction plays its role.** -/
theorem acts (m : Machine) (i : Instruction) : m.Acts i i.kind.role (m.effect i) := by
  rw [effect]
  cases i.kind with
  | lw | lwu | lb | lbu | lh | lhu => exact .load _
  | sw => exact .store (.word _ _) rfl
  | sh => exact .store (.half _ _) rfl
  | sb => exact .store (.byte _ _) rfl
  | div | divu => exact .divide _ _
  | mult | multu => exact .multiply _
  | add | addu | sub | subu | and | or | xor | nor | slt | sltu => exact .toRd _
  | sll | srl | sra | sllv | srlv | srav | mfhi | mflo => exact .toRd _
  | addi | addiu | andi | ori | xori | slti | sltiu | lui => exact .toRt _
  | mthi => exact .toHi _
  | mtlo => exact .toLo _
  | _ => exact .pass

/-! ## What stays -/

theorem pc_apply (m : Machine) (e : Effect) : (m.apply e).pc = m.pc := by
  cases e with
  | register r value => exact pc_set m r value
  | nothing | hiLo hi lo | hi value | lo value | memory space => rfl

/-- No instruction moves the program counter. -/
theorem pc_execute (m : Machine) (i : Instruction) : (m.execute i).1.pc = m.pc := by
  rw [execute]
  cases m.effect i with
  | ok e => exact pc_apply m e
  | error f => rfl

theorem memory_apply_result (m : Machine) (r : Option Register) (value : UInt32) :
    (m.apply (result r value)).memory = m.memory := by
  cases r with
  | none => rfl
  | some r => exact memory_set m r value

/-- What a store becomes, whether it fails or not. -/
theorem execute_of_store {m : Machine} {i : Instruction} (h : i.kind.role = .store) :
    ∃ st : Store, st.address = m.address i ∧
      (m.execute i).1 = { m with memory := m.memory.after st } := by
  have hacts := m.acts i
  rw [h] at hacts
  rw [execute]
  generalize m.effect i = outcome at hacts
  cases hacts with
  | store st hst =>
    refine ⟨st, hst, ?_⟩
    rw [AddressSpace.after]
    cases m.memory.carryOut st with
    | ok s => rfl
    | error f => rfl

/-- Apart from stores nothing changes the memory. -/
theorem memory_execute_of_not_store {m : Machine} {i : Instruction} (h : i.kind.role ≠ .store) :
    (m.execute i).1.memory = m.memory := by
  have hacts := m.acts i
  rw [execute]
  generalize i.kind.role = role at h hacts
  generalize m.effect i = outcome at hacts
  cases hacts with
  | store st hst => exact absurd rfl h
  | load value =>
    rw [load]
    cases m.memory.readWord (m.address i) with
    | ok w => exact memory_apply_result m i.rt (value w)
    | error f => rfl
  | divide quotient remainder =>
    rw [divide]
    by_cases hzero : m.operand i.rt = 0
    · rw [if_pos hzero]
    · rw [if_neg hzero]
      rfl
  | toRd value => exact memory_apply_result m i.rd value
  | toRt value => exact memory_apply_result m i.rt value
  | multiply p | toHi value | toLo value | pass => rfl

/-- **No instruction changes the image.** -/
theorem ram_execute (m : Machine) (i : Instruction) :
    (m.execute i).1.memory.ram = m.memory.ram := by
  by_cases hstore : i.kind.role = .store
  · obtain ⟨st, -, hafter⟩ := execute_of_store (m := m) hstore
    rw [hafter]
    exact AddressSpace.ram_after m.memory st
  · rw [memory_execute_of_not_store hstore]

/-! ## Division by zero -/

theorem readWord_ne_divideByZero (s : AddressSpace) (a pc : UInt32) :
    s.readWord a ≠ .error (.divideByZero pc) := by
  intro h
  rcases AddressSpace.readWord_eq_error_iff.1 h with ⟨hfault, -⟩ | ⟨hfault, -⟩
  · cases hfault
  · cases hfault

/-- **Only divisions divide by zero**, and they name the word behind which the machine
stands. -/
theorem effect_eq_divideByZero_iff {m : Machine} {i : Instruction} {pc : UInt32} :
    m.effect i = .error (.divideByZero pc) ↔
      (i.kind = .div ∨ i.kind = .divu) ∧ m.operand i.rt = 0 ∧ pc = m.pc - 4 := by
  have hacts := m.acts i
  rw [← role_eq_divide_iff]
  generalize i.kind.role = role at hacts ⊢
  generalize m.effect i = outcome at hacts ⊢
  cases hacts with
  | divide quotient remainder =>
    rw [divide]
    by_cases hzero : m.operand i.rt = 0
    · rw [if_pos hzero]
      constructor
      · intro h
        cases h
        exact ⟨rfl, hzero, rfl⟩
      · rintro ⟨-, -, rfl⟩
        rfl
    · rw [if_neg hzero]
      constructor
      · intro h
        cases h
      · rintro ⟨-, h, -⟩
        exact absurd h hzero
  | load value =>
    constructor
    · intro h
      rw [load] at h
      cases hread : m.memory.readWord (m.address i) with
      | ok w =>
        rw [hread] at h
        cases h
      | error f =>
        rw [hread] at h
        cases h
        exact absurd hread (readWord_ne_divideByZero _ _ _)
    · rintro ⟨h, -⟩
      cases h
  | store st hst =>
    constructor
    · intro h
      cases hstore : m.memory.carryOut st with
      | ok s =>
        rw [hstore] at h
        cases h
      | error f =>
        rw [hstore] at h
        cases h
        exact absurd (AddressSpace.carryOut_eq_error_iff.1 hstore)
          (readWord_ne_divideByZero _ _ _)
    · rintro ⟨h, -⟩
      cases h
  | multiply p | toRd value | toRt value | toHi value | toLo value | pass =>
    constructor
    · intro h
      cases h
    · rintro ⟨h, -⟩
      cases h

/-! ## Machines with the same registers -/

/-- Two machines that hold the same in all registers, whatever their memories are and
wherever they stand. -/
structure Alike (m m' : Machine) : Prop where
  registers : m.registers = m'.registers
  hi : m.hi = m'.hi
  lo : m.lo = m'.lo

namespace Alike
variable {m m' : Machine} {i : Instruction}

theorem operand (h : Alike m m') (r : Option Register) : m.operand r = m'.operand r := by
  cases r with
  | none => rfl
  | some r => exact congrArg (fun v : Vector UInt32 32 => v[r.index]) h.registers

theorem set (h : Alike m m') (r : Register) (value : UInt32) :
    Alike (m.set r value) (m'.set r value) := by
  refine ⟨?_, ?_, ?_⟩
  · unfold Machine.set
    by_cases hr : r = .zero
    · rw [if_pos hr, if_pos hr]
      exact h.registers
    · rw [if_neg hr, if_neg hr]
      exact congrArg (fun v : Vector UInt32 32 => v.set r.index value) h.registers
  · rw [hi_set, hi_set]
    exact h.hi
  · rw [lo_set, lo_set]
    exact h.lo

theorem apply (h : Alike m m') (e : Effect) : Alike (m.apply e) (m'.apply e) := by
  cases e with
  | nothing => exact h
  | register r value => exact h.set r value
  | hiLo hi lo => exact ⟨h.registers, rfl, rfl⟩
  | hi value => exact ⟨h.registers, rfl, h.lo⟩
  | lo value => exact ⟨h.registers, h.hi, rfl⟩
  | memory space => exact ⟨h.registers, h.hi, h.lo⟩

/-- An instruction that only works on registers has the same effect on both. -/
theorem effect (h : Alike m m') (hload : i.kind.role ≠ .load) (hstore : i.kind.role ≠ .store)
    (hdivide : i.kind.role ≠ .divide) : m.effect i = m'.effect i := by
  rw [Machine.effect, Machine.effect, h.operand i.rs, h.operand i.rt, h.hi, h.lo]
  revert hload hstore hdivide
  cases i.kind with
  | lw | lwu | lb | lbu | lh | lhu => exact fun hload _ _ => absurd rfl hload
  | sw | sh | sb => exact fun _ hstore _ => absurd rfl hstore
  | div | divu => exact fun _ _ hdivide => absurd rfl hdivide
  | _ => exact fun _ _ _ => rfl

/-- Both divide the same numbers; only the places that they name if they fail differ. -/
theorem divide (h : Alike m m') (hdivide : i.kind = .div ∨ i.kind = .divu) :
    ∃ e, m.effect i = m.divide (m.operand i.rt) e ∧
      m'.effect i = m'.divide (m.operand i.rt) e := by
  rw [Machine.effect, Machine.effect, h.operand i.rs, h.operand i.rt]
  rcases hdivide with hkind | hkind
  · rw [hkind]
    exact ⟨_, rfl, rfl⟩
  · rw [hkind]
    exact ⟨_, rfl, rfl⟩

/-- **Machines with the same registers keep the same registers**, as long as they load
nothing. -/
theorem execute (h : Alike m m') (hload : i.kind.role ≠ .load) :
    Alike (m.execute i).1 (m'.execute i).1 := by
  by_cases hstore : i.kind.role = .store
  · -- whether the stores land does not matter
    obtain ⟨st, -, hafter⟩ := execute_of_store (m := m) hstore
    obtain ⟨st', -, hafter'⟩ := execute_of_store (m := m') hstore
    rw [hafter, hafter']
    exact ⟨h.registers, h.hi, h.lo⟩
  · by_cases hdivide : i.kind.role = .divide
    · obtain ⟨e, heffect, heffect'⟩ := h.divide (role_eq_divide_iff.1 hdivide)
      rw [Machine.execute, Machine.execute, heffect, heffect', Machine.divide, Machine.divide]
      by_cases hzero : m.operand i.rt = 0
      · rw [if_pos hzero, if_pos hzero]
        exact h
      · rw [if_neg hzero, if_neg hzero]
        exact h.apply e
    · rw [Machine.execute, Machine.execute, ← h.effect hload hstore hdivide]
      cases m.effect i with
      | ok e => exact h.apply e
      | error f => exact h

end Alike

end Machine
end PadScout
