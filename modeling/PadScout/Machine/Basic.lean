import PadScout.Journal
import PadScout.Machine.AddressSpace
import PadScout.Mips.Encoding

/-! # The machine

A machine that runs straight stretches of code: registers, the pair that
multiplication and division leave their result in, a program counter and an
address space.  It never jumps.  Every step moves the program counter on by one
word, and branches, jumps and whatever else the machine does not model are
passed over.

An instruction is carried out in two parts.  `Machine.effect` says what it does,
or why it cannot be done, and changes nothing; `Machine.apply` does it.  A step
(`Machine.step`) yields the machine after it together with its result, since a
failed step may have moved the program counter.
-/
namespace PadScout

open Mips

/-- The state of the machine. -/
structure Machine where
  registers : Vector UInt32 32
  hi : UInt32
  lo : UInt32
  pc : UInt32
  memory : AddressSpace

/-- What one instruction changes. -/
inductive Effect where
  | nothing
  | register (r : Register) (value : UInt32)
  | hiLo (hi lo : UInt32)
  | hi (value : UInt32)
  | lo (value : UInt32)
  | memory (space : AddressSpace)

namespace Machine

/-- The machine at rest, over an image. -/
def ofImage (m : Image) : Machine := ⟨Vector.replicate 32 0, 0, 0, 0, .ofImage m⟩

def get (m : Machine) (r : Register) : UInt32 := m.registers[r.index]

/-- Sets a register; register zero stays what it is. -/
def set (m : Machine) (r : Register) (value : UInt32) : Machine :=
  if r = .zero then m else { m with registers := m.registers.set r.index value }

def withPc (m : Machine) (pc : UInt32) : Machine := { m with pc }

/-- Sets registers one after the other. -/
def withRegisters (m : Machine) (seeds : List (Register × UInt32)) : Machine :=
  seeds.foldl (fun m s => m.set s.1 s.2) m

@[simp] theorem set_zero (m : Machine) (value : UInt32) : m.set .zero value = m := if_pos rfl

theorem get_set_self (m : Machine) {r : Register} (h : r ≠ .zero) (value : UInt32) :
    (m.set r value).get r = value := by
  simp [set, get, h]

theorem get_set_of_ne (m : Machine) {r s : Register} (h : r ≠ s) (value : UInt32) :
    (m.set r value).get s = m.get s := by
  have hindex : r.index.val ≠ s.index.val := by
    intro heq
    apply h
    cases r
    cases s
    exact congrArg Register.mk (Fin.ext heq)
  unfold set
  split
  · rfl
  · simp [get, Vector.getElem_set_ne _ _ hindex]

@[simp] theorem pc_set (m : Machine) (r : Register) (value : UInt32) :
    (m.set r value).pc = m.pc := by
  unfold set
  split <;> rfl

@[simp] theorem hi_set (m : Machine) (r : Register) (value : UInt32) :
    (m.set r value).hi = m.hi := by
  unfold set
  split <;> rfl

@[simp] theorem lo_set (m : Machine) (r : Register) (value : UInt32) :
    (m.set r value).lo = m.lo := by
  unfold set
  split <;> rfl

@[simp] theorem memory_set (m : Machine) (r : Register) (value : UInt32) :
    (m.set r value).memory = m.memory := by
  unfold set
  split <;> rfl

/-- Does what an effect says. -/
def apply (m : Machine) : Effect → Machine
  | .nothing => m
  | .register r value => m.set r value
  | .hiLo hi lo => { m with hi, lo }
  | .hi value => { m with hi := value }
  | .lo value => { m with lo := value }
  | .memory space => { m with memory := space }

/-! ## Effects of instructions -/

/-- The value of an operand register; zero if the operand is missing. -/
def operand (m : Machine) : Option Register → UInt32
  | some r => m.get r
  | none => 0

/-- Writes a result register, if the instruction names one. -/
def result (r : Option Register) (value : UInt32) : Effect :=
  match r with
  | some r => .register r value
  | none => .nothing

/-- The address that a load or store works on. -/
def address (m : Machine) (i : Instruction) : UInt32 := m.operand i.rs + i.immSigned

/-- One or zero. -/
def flag (b : Bool) : UInt32 := if b then 1 else 0

/-- Both halves of a product or of a quotient and remainder. -/
def product (p : UInt64) : Effect := .hiLo (p >>> 32).toUInt32 p.toUInt32

/-- The arithmetic shift, which repeats the sign. -/
def shiftSigned (w amount : UInt32) : UInt32 := (w.toInt32 >>> amount.toInt32).toUInt32

/-- The effect of a load, given how the loaded word becomes a register value. -/
def load (m : Machine) (i : Instruction) (value : UInt32 → UInt32) : Except Fault Effect :=
  match m.memory.readWord (m.address i) with
  | .ok w => .ok (result i.rt (value w))
  | .error f => .error f

/-- The effect of a store. -/
def storing : Except Fault AddressSpace → Except Fault Effect
  | .ok space => .ok (.memory space)
  | .error f => .error f

/-- A division names the instruction it stands at, one word behind the program
counter. -/
def divide (m : Machine) (divisor : UInt32) (e : Effect) : Except Fault Effect :=
  if divisor = 0 then .error (.divideByZero (m.pc - 4)) else .ok e

/-- **What an instruction does.** -/
def effect (m : Machine) (i : Instruction) : Except Fault Effect :=
  let rs := m.operand i.rs
  let rt := m.operand i.rt
  let amount : UInt32 := match i.shift with
    | some n => n.toUInt32
    | none => 0
  let a := m.address i
  let low : UInt32 := rs &&& 0x1F
  let toRd (value : UInt32) : Except Fault Effect := .ok (result i.rd value)
  let toRt (value : UInt32) : Except Fault Effect := .ok (result i.rt value)
  match i.kind with
  | .add | .addu => toRd (rs + rt)
  | .sub | .subu => toRd (rs - rt)
  | .and => toRd (rs &&& rt)
  | .or => toRd (rs ||| rt)
  | .xor => toRd (rs ^^^ rt)
  | .nor => toRd (~~~ (rs ||| rt))
  | .slt => toRd (flag (rs.toInt32 < rt.toInt32))
  | .sltu => toRd (flag (rs < rt))
  | .addi | .addiu => toRt (rs + i.immSigned)
  | .andi => toRt (rs &&& i.immUnsigned)
  | .ori => toRt (rs ||| i.immUnsigned)
  | .xori => toRt (rs ^^^ i.immUnsigned)
  | .slti => toRt (flag (rs.toInt32 < i.immSigned.toInt32))
  | .sltiu => toRt (flag (rs < i.immSigned))
  | .lui => toRt (i.immUnsigned <<< 16)
  | .sll => toRd (rt <<< amount)
  | .srl => toRd (rt >>> amount)
  | .sra => toRd (shiftSigned rt amount)
  | .sllv => toRd (rt <<< low)
  | .srlv => toRd (rt >>> low)
  | .srav => toRd (shiftSigned rt low)
  | .mult => .ok (product (rs.toInt32.toInt64 * rt.toInt32.toInt64).toUInt64)
  | .multu => .ok (product (rs.toUInt64 * rt.toUInt64))
  -- the least number divided by minus one is itself, without a remainder
  | .div => m.divide rt <|
    .hiLo (rs.toInt32 % rt.toInt32).toUInt32 (rs.toInt32 / rt.toInt32).toUInt32
  | .divu => m.divide rt (.hiLo (rs % rt) (rs / rt))
  | .mfhi => toRd m.hi
  | .mflo => toRd m.lo
  | .mthi => .ok (.hi rs)
  | .mtlo => .ok (.lo rs)
  | .lw | .lwu => m.load i id
  | .lb => m.load i fun w => (w >>> AddressSpace.byteShift a).toUInt8.toInt8.toInt32.toUInt32
  | .lbu => m.load i fun w => (w >>> AddressSpace.byteShift a).toUInt8.toUInt32
  | .lh => m.load i fun w => (w >>> AddressSpace.halfShift a).toUInt16.toInt16.toInt32.toUInt32
  | .lhu => m.load i fun w => (w >>> AddressSpace.halfShift a).toUInt16.toUInt32
  | .sw => storing (m.memory.writeWord a rt)
  | .sh => storing (m.memory.writeHalf a rt.toUInt16)
  | .sb => storing (m.memory.writeByte a rt.toUInt8)
  -- branches, jumps, 64-bit and unaligned accesses, coprocessor and cache
  | _ => .ok .nothing

/-! ## Running -/

/-- Carries out an instruction. -/
def execute (m : Machine) (i : Instruction) : Machine × Except Fault Unit :=
  match m.effect i with
  | .ok e => (m.apply e, .ok ())
  | .error f => (m, .error f)

/-- Reads the word at the program counter and moves on.  A word that does not
decode gives no instruction; one that cannot be read is a fault. -/
def fetch (m : Machine) : Machine × Except Fault (Option Instruction) :=
  match m.memory.readWord m.pc with
  | .error _ => (m, .error (.fetch m.pc))
  | .ok w => (m.withPc (m.pc + 4), .ok (decode w).toOption)

/-- Fetches an instruction and carries it out.  A load or store that faults has
no effect and is passed over; division by zero ends the run. -/
def step (m : Machine) : Machine × Except Fault (Option Instruction) :=
  match m.fetch with
  | (m, .ok (some i)) =>
    -- the program counter has already moved on
    match m.execute i with
    | (m, .error (.divideByZero pc)) => (m, .error (.divideByZero pc))
    | (m, _) => (m, .ok (some i))
  | (m, .ok none) => (m, .ok none)
  | (m, .error f) => (m, .error f)

/-- Takes a number of steps, or as many as succeed. -/
def run : Nat → Machine → Machine × Except Fault Unit
  | 0, m => (m, .ok ())
  | n + 1, m =>
    match m.step with
    | (m, .ok _) => run n m
    | (m, .error f) => (m, .error f)

/-- The machines from which the steps of a run are taken. -/
def trail : Nat → Machine → List Machine
  | 0, _ => []
  | n + 1, m =>
    m :: match m.step with
      | (m', .ok _) => trail n m'
      | (_, .error _) => []

/-! ## Remarks -/

/-- What a fetch has to say: which word it passes over. -/
def fetchEntries (m : Machine) : List Entry :=
  match m.memory.readWord m.pc with
  | .error _ => []
  | .ok w =>
    match decode w with
    | .ok _ => []
    | .error e =>
      [⟨.trace, .machine, Hex.word m.pc ++ ": " ++ Hex.word w ++ " skipped (" ++ e.message ++ ")"⟩]

/-- What a step has to say: the instruction, and the fault it passes over. -/
def stepEntries (m : Machine) : List Entry :=
  m.fetchEntries ++ match m.fetch with
    | (m', .ok (some i)) =>
      ⟨.trace, .machine, Hex.word m.pc ++ ": " ++ i.text⟩ :: match m'.effect i with
        | .ok _ => []
        | .error (.divideByZero _) => []
        | .error f => [⟨.trace, .machine, Hex.word m.pc ++ ": fault ignored (" ++ f.message ++ ")"⟩]
    | _ => []

/-- What a run has to say. -/
def runEntries (n : Nat) (m : Machine) : List Entry := (trail n m).flatMap stepEntries

end Machine

end PadScout
