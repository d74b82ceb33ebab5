import PadScout.Proofs.Machine.Effects

/-! # Instructions, access by access

`Machine.execute` asks for the whole effect of an instruction before it changes anything.  Here
an instruction is performed on the machine itself: it reads registers and memory, and it writes
the result, the two halves of a product or a word of the scratch area, one after the other.
`Work` is work of this kind.  A fault breaks it off in the middle, and whatever has been done
until then stays done.

Both come to the same (`Work.on_perform`), since each instruction meets its fault, if it has
one, before its first write.
-/
namespace PadScout

open Mips

/-- **Work on a machine**, one access after the other.  A fault ends it. -/
abbrev Work := ExceptT Fault (StateM Machine)

namespace Work

/-- The machine that the work leaves behind, finished or not, and what has come of it. -/
def on {α : Type} (work : Work α) (m : Machine) : Machine × Except Fault α :=
  ((work.run.run m).2, (work.run.run m).1)

/-! ## Single accesses -/

/-- Reads an operand register; zero if the operand is missing. -/
def operand (r : Option Register) : Work UInt32 := return (← get).operand r

/-- Writes a result register, if the instruction names one. -/
def put (r : Option Register) (value : UInt32) : Work Unit :=
  match r with
  | some r => modify (·.set r value)
  | none => return

def putHi (value : UInt32) : Work Unit := modify ({ · with hi := value })

def putLo (value : UInt32) : Work Unit := modify ({ · with lo := value })

/-- Reads the word that an address falls into. -/
def readWord (a : UInt32) : Work UInt32 := do
  match (← get).memory.readWord a with
  | .ok w => return w
  | .error f => throw f

/-- Stores the bits of a value under a mask; the image stays as it is. -/
def store (a value mask : UInt32) : Work Unit := do
  match (← get).memory.place a with
  | .ok (.ram _) => return
  | .ok (.scratch j) => modify fun m => { m with
      memory.scratch := m.memory.scratch.set j (merge (m.memory.scratch.get j) value mask) j.isLt }
  | .error f => throw f

/-- Compares a divisor with zero. -/
def checkDivisor (divisor : UInt32) : Work Unit := do
  if divisor = 0 then throw (.divideByZero ((← get).pc - 4))

/-! ## Instructions -/

/-- Writes the two halves of a product. -/
def putProduct (p : UInt64) : Work Unit := do
  putLo p.toUInt32
  putHi (p >>> 32).toUInt32

/-- Divides, after a look at the divisor. -/
def divide (divisor quotient remainder : UInt32) : Work Unit := do
  checkDivisor divisor
  putLo quotient
  putHi remainder

/-- Loads a word and writes what it becomes. -/
def load (i : Instruction) (a : UInt32) (value : UInt32 → UInt32) : Work Unit := do
  let w ← readWord a
  put i.rt (value w)

/-- Stores a part of a word at its position. -/
def storeAt (a shift value ones : UInt32) : Work Unit := store a (value <<< shift) (ones <<< shift)

/-- **Performs an instruction.** -/
def perform (i : Instruction) : Work Unit := do
  let rs ← operand i.rs
  let rt ← operand i.rt
  let amount : UInt32 := match i.shift with
    | some n => n.toUInt32
    | none => 0
  let a := rs + i.immSigned
  let low : UInt32 := rs &&& 0x1F
  match i.kind with
  | .add | .addu => put i.rd (rs + rt)
  | .sub | .subu => put i.rd (rs - rt)
  | .and => put i.rd (rs &&& rt)
  | .or => put i.rd (rs ||| rt)
  | .xor => put i.rd (rs ^^^ rt)
  | .nor => put i.rd (~~~ (rs ||| rt))
  | .slt => put i.rd (Machine.flag (rs.toInt32 < rt.toInt32))
  | .sltu => put i.rd (Machine.flag (rs < rt))
  | .addi | .addiu => put i.rt (rs + i.immSigned)
  | .andi => put i.rt (rs &&& i.immUnsigned)
  | .ori => put i.rt (rs ||| i.immUnsigned)
  | .xori => put i.rt (rs ^^^ i.immUnsigned)
  | .slti => put i.rt (Machine.flag (rs.toInt32 < i.immSigned.toInt32))
  | .sltiu => put i.rt (Machine.flag (rs < i.immSigned))
  | .lui => put i.rt (i.immUnsigned <<< 16)
  | .sll => put i.rd (rt <<< amount)
  | .srl => put i.rd (rt >>> amount)
  | .sra => put i.rd (Machine.shiftSigned rt amount)
  | .sllv => put i.rd (rt <<< low)
  | .srlv => put i.rd (rt >>> low)
  | .srav => put i.rd (Machine.shiftSigned rt low)
  | .mult => putProduct (rs.toInt32.toInt64 * rt.toInt32.toInt64).toUInt64
  | .multu => putProduct (rs.toUInt64 * rt.toUInt64)
  | .div => divide rt (rs.toInt32 / rt.toInt32).toUInt32 (rs.toInt32 % rt.toInt32).toUInt32
  | .divu => divide rt (rs / rt) (rs % rt)
  | .mfhi => do put i.rd (← get).hi
  | .mflo => do put i.rd (← get).lo
  | .mthi => putHi rs
  | .mtlo => putLo rs
  | .lw | .lwu => load i a id
  | .lb => load i a fun w => (w >>> AddressSpace.byteShift a).toUInt8.toInt8.toInt32.toUInt32
  | .lbu => load i a fun w => (w >>> AddressSpace.byteShift a).toUInt8.toUInt32
  | .lh => load i a fun w => (w >>> AddressSpace.halfShift a).toUInt16.toInt16.toInt32.toUInt32
  | .lhu => load i a fun w => (w >>> AddressSpace.halfShift a).toUInt16.toUInt32
  | .sw => store a rt 0xFFFFFFFF
  | .sh => storeAt a (AddressSpace.halfShift a) rt.toUInt16.toUInt32 0xFFFF
  | .sb => storeAt a (AddressSpace.byteShift a) rt.toUInt8.toUInt32 0xFF
  | _ => return

/-! ## What work comes to -/

/-- A machine that has the effect, or stays as it is if there is none. -/
def outcome (m : Machine) : Except Fault Effect → Machine × Except Fault Unit
  | .ok e => (m.apply e, .ok ())
  | .error f => (m, .error f)

theorem execute_eq_outcome (m : Machine) (i : Instruction) :
    m.execute i = outcome m (m.effect i) := by
  rw [Machine.execute]
  cases m.effect i with
  | ok e => rfl
  | error f => rfl

section
variable {α β : Type} (m : Machine)

theorem on_bind (work : Work α) (next : α → Work β) : (work >>= next).on m =
    match work.on m with
    | (m', .ok a) => (next a).on m'
    | (m', .error f) => (m', .error f) := by
  unfold on ExceptT.run StateT.run
  simp only [bind, ExceptT.bind, ExceptT.mk, StateT.bind]
  rcases work m with ⟨f | a, m'⟩
  · rfl
  · rfl

theorem on_get : (MonadState.get : Work Machine).on m = (m, .ok m) := rfl

theorem on_put (r : Option Register) (value : UInt32) :
    (put r value).on m = (m.apply (Machine.result r value), .ok ()) := by
  cases r <;> rfl

theorem on_readWord (a : UInt32) : (readWord a).on m = (m, m.memory.readWord a) := by
  rw [readWord, on_bind, on_get]
  dsimp only
  cases m.memory.readWord a with
  | ok w => rfl
  | error f => rfl

theorem on_load (i : Instruction) (value : UInt32 → UInt32) :
    (load i (m.address i) value).on m = outcome m (m.load i value) := by
  rw [load, on_bind, on_readWord, Machine.load]
  cases m.memory.readWord (m.address i) with
  | ok w => exact on_put m i.rt (value w)
  | error f => rfl

theorem on_store (a value mask : UInt32) :
    (store a value mask).on m = outcome m (Machine.storing (m.memory.store a value mask)) := by
  rw [store, on_bind, on_get, AddressSpace.store]
  dsimp only
  rcases m.memory.place a with f | j | j
  · rfl
  · rfl
  · rfl

theorem on_divide (divisor quotient remainder : UInt32) :
    (divide divisor quotient remainder).on m =
      outcome m (m.divide divisor (.hiLo remainder quotient)) := by
  rw [divide, on_bind, checkDivisor, Machine.divide]
  by_cases hzero : divisor = 0
  · rw [if_pos hzero, if_pos hzero]
    rfl
  · rw [if_neg hzero, if_neg hzero]
    rfl

/-- **An instruction that is performed access by access comes to what it is executed to.** -/
theorem on_perform (i : Instruction) : (perform i).on m = m.execute i := by
  -- the operands are read first
  have hoperand : ∀ r, (operand r).on m = (m, .ok (m.operand r)) := fun r => rfl
  rw [execute_eq_outcome, Machine.effect, perform, on_bind, hoperand]
  dsimp only
  rw [on_bind, hoperand]
  dsimp only
  cases i.kind with
  | lw | lwu | lb | lbu | lh | lhu => exact on_load m i _
  | sw => exact on_store m _ _ _
  | sh => exact on_store m _ _ _
  | sb => exact on_store m _ _ _
  | div | divu => exact on_divide m _ _ _
  | mult | multu | mthi | mtlo => rfl
  | mfhi | mflo => exact on_put m i.rd _
  | add | addu | sub | subu | and | or | xor | nor | slt | sltu => exact on_put m i.rd _
  | sll | srl | sra | sllv | srlv | srav => exact on_put m i.rd _
  | addi | addiu | andi | ori | xori | slti | sltiu | lui => exact on_put m i.rt _
  | _ => rfl

end

end Work
end PadScout
