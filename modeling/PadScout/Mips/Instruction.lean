import PadScout.Mips.Kind
import PadScout.Mips.Register
import PadScout.Text.Hex

/-! # Instructions

An instruction is a kind together with its operands.  Every operand is
optional: a value of `Instruction` may lack what its kind needs, or carry what
its kind ignores, and it is encoding that tells the difference
(`PadScout.Mips.Encoding`).  `Instruction.normal` throws away what the kind
ignores.

`Instruction.text` is the assembly text.  It is arranged by the layout of the
kind; a missing register is shown as a question mark.
-/
namespace PadScout
namespace Mips

/-- A kind with its operands. -/
structure Instruction where
  kind : Kind
  rs : Option Register
  rt : Option Register
  rd : Option Register
  /-- The amount of a shift, also the stage of a `sync`. -/
  shift : Option UInt8
  imm : Option Int16
  /-- The distance of a branch in bytes, counted from the delay slot. -/
  offset : Option Int32
  /-- The target of a jump in bytes, within the segment of the jump. -/
  target : Option UInt32
  system : Option SystemRegister
  cache : Option CacheOp
deriving DecidableEq

namespace Instruction

/-- A kind without operands. -/
def ofKind (k : Kind) : Instruction := ⟨k, none, none, none, none, none, none, none, none, none⟩

def nop : Instruction := ofKind .nop

def jal (target : UInt32) : Instruction := { ofKind .jal with target := some target }

def jr (rs : Register) : Instruction := { ofKind .jr with rs := some rs }

def lui (rt : Register) (imm : Int16) : Instruction :=
  { ofKind .lui with rt := some rt, imm := some imm }

def addiu (rt rs : Register) (imm : Int16) : Instruction :=
  { ofKind .addiu with rt := some rt, rs := some rs, imm := some imm }

def sw (rt : Register) (displacement : Int16) (base : Register) : Instruction :=
  { ofKind .sw with rt := some rt, rs := some base, imm := some displacement }

def lw (rt : Register) (displacement : Int16) (base : Register) : Instruction :=
  { ofKind .lw with rt := some rt, rs := some base, imm := some displacement }

/-- Whether the operand of a field is present. -/
def has (i : Instruction) : Field → Bool
  | .rs => i.rs.isSome
  | .rt => i.rt.isSome
  | .rd => i.rd.isSome
  | .shift => i.shift.isSome
  | .imm => i.imm.isSome
  | .offset => i.offset.isSome
  | .target => i.target.isSome
  | .system => i.system.isSome
  | .cache => i.cache.isSome

/-- The operand, if the kind has its field. -/
def kept {α : Type} (k : Kind) (f : Field) (operand : Option α) : Option α :=
  if f ∈ k.layout.fields then operand else none

/-- **The normal form.**  Operands outside the layout are dropped, and a shift
of the zero register by nothing into the zero register is a `nop`. -/
def normal (i : Instruction) : Instruction :=
  let j : Instruction :=
    { kind := i.kind
      rs := kept i.kind .rs i.rs
      rt := kept i.kind .rt i.rt
      rd := kept i.kind .rd i.rd
      shift := kept i.kind .shift i.shift
      imm := kept i.kind .imm i.imm
      offset := kept i.kind .offset i.offset
      target := kept i.kind .target i.target
      system := kept i.kind .system i.system
      cache := kept i.kind .cache i.cache }
  if j = { ofKind .sll with rt := some .zero, rd := some .zero, shift := some 0 } then nop else j

/-- The allocation of a stack frame, `addiu sp, sp, -n`, with which a routine
begins. -/
def isStackProlog (i : Instruction) : Bool :=
  i.kind == .addiu && i.rs == some .sp && i.rt == some .sp &&
    match i.imm with
    | some n => decide (n < 0)
    | none => false

/-- The immediate operand, extended with zeros; zero if it is missing. -/
def immUnsigned (i : Instruction) : UInt32 :=
  match i.imm with
  | some n => n.toUInt16.toUInt32
  | none => 0

/-- The immediate operand, extended with its sign; zero if it is missing. -/
def immSigned (i : Instruction) : UInt32 :=
  match i.imm with
  | some n => n.toInt32.toUInt32
  | none => 0

/-! ## Assembly text -/

/-- The text of a register operand. -/
def registerText : Option Register → String
  | some r => r.name
  | none => "?"

def immText (i : Instruction) : String :=
  match i.imm with
  | some n => Hex.signed n.toInt
  | none => Hex.signed 0

def offsetText (i : Instruction) : String :=
  match i.offset with
  | some n => Hex.signed n.toInt
  | none => Hex.signed 0

/-- A jump is shown with the address it has in the unmapped cached segment. -/
def targetText (i : Instruction) : String :=
  match i.target with
  | some t => Hex.markedWord (0x80000000 ||| t)
  | none => Hex.markedWord 0x80000000

def shiftText (i : Instruction) : String :=
  match i.shift with
  | some n => Decimal.text n.toNat
  | none => "0"

def systemText (i : Instruction) : String :=
  match i.system with
  | some r => r.text
  | none => ""

def cacheText (i : Instruction) : String :=
  match i.cache with
  | some op => op.text
  | none => ""

/-- The operands as they are written after the mnemonic. -/
def operandText (i : Instruction) : String :=
  let rs := registerText i.rs
  let rt := registerText i.rt
  let rd := registerText i.rd
  match i.kind.layout with
  | .bare => ""
  | .immediate => " " ++ rt ++ ", " ++ rs ++ ", " ++ i.immText
  | .upper => " " ++ rt ++ ", " ++ Hex.marked i.immUnsigned.toNat
  | .branchPair => " " ++ rs ++ ", " ++ rt ++ ", " ++ i.offsetText
  | .branch => " " ++ rs ++ ", " ++ i.offsetText
  | .memory => " " ++ rt ++ ", " ++ i.immText ++ "(" ++ rs ++ ")"
  | .jump => " " ++ i.targetText
  | .cache => " " ++ i.cacheText ++ ", " ++ i.immText ++ "(" ++ rs ++ ")"
  | .threeRegister => " " ++ rd ++ ", " ++ rs ++ ", " ++ rt
  | .twoRegister => " " ++ rs ++ ", " ++ rt
  | .shift => " " ++ rd ++ ", " ++ rt ++ ", " ++ i.shiftText
  | .link => " " ++ rd ++ ", " ++ rs
  | .source => " " ++ rs
  | .destination => " " ++ rd
  | .barrier => ""
  | .system => " " ++ rt ++ ", " ++ i.systemText

/-- The assembly text. -/
def text (i : Instruction) : String := i.kind.mnemonic ++ i.operandText

end Instruction

end Mips
end PadScout
