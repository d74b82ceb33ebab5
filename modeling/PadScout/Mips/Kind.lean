/-! # Kinds of instruction

Every instruction the library knows, with the facts that make up its encoding.
A word belongs to one of four families, told apart by its top six bits: plain
opcodes, the `special` family selected by the low six bits, the `regImm` family
selected by bits 16 to 20, and the `system` family (coprocessor 0) selected by
bits 21 to 25.  The all-zero word is a family of its own, `nop`.

`Kind.row` is the one table of the module: for each kind its mnemonic, its
family with the selecting code, and its operand layout.  `Kind.selector` is the
word with every operand field cleared, and `Layout.fields` says which fields
the operands of a layout fill.
-/
namespace PadScout
namespace Mips

/-- An instruction without its operands. -/
inductive Kind where
  | nop | j | jal | beq | bne | blez | bgtz | addi | addiu | slti | sltiu | andi | ori
  | xori | lui | beql | bnel | blezl | bgtzl | daddi | daddiu | ldl | ldr | lb | lh | lwl
  | lw | lbu | lhu | lwr | lwu | sb | sh | swl | sw | sdl | sdr | swr | cache | ll | lld
  | ld | sc | scd | sd | sll | srl | sra | sllv | srlv | srav | jr | jalr | sync | mfhi
  | mthi | mflo | mtlo | dsllv | dsrlv | dsrav | mult | multu | div | divu | dmult
  | dmultu | ddiv | ddivu | add | addu | sub | subu | and | or | xor | nor | slt | sltu
  | dadd | daddu | dsub | dsubu | dsll | dsrl | dsra | dsll32 | dsrl32 | dsra32 | bltz
  | bgez | bltzl | bgezl | bltzal | bgezal | bltzall | bgezall | mfc0 | mtc0
deriving DecidableEq

/-- The family of a kind, with the code that selects the kind in it. -/
inductive Family where
  | nop
  | immediate (opcode : UInt32)
  | special (function : UInt32)
  | regImm (code : UInt32)
  | system (code : UInt32)
deriving DecidableEq

/-- An operand field of an instruction word.  The order is the order in which
operands are checked and packed. -/
inductive Field where
  | rs | rt | rd | shift | imm | offset | target | system | cache
deriving DecidableEq

/-- The operand layouts: which fields a kind has, and how its assembly text is
arranged. -/
inductive Layout where
  | bare | immediate | upper | branchPair | branch | memory | jump | cache
  | threeRegister | twoRegister | shift | link | source | destination | barrier | system
deriving DecidableEq

namespace Layout

/-- The fields of a layout, in the order of packing. -/
def fields : Layout → List Field
  | bare => []
  | immediate => [.rs, .rt, .imm]
  | upper => [.rt, .imm]
  | branchPair => [.rs, .rt, .offset]
  | branch => [.rs, .offset]
  | memory => [.rs, .rt, .imm]
  | jump => [.target]
  | cache => [.rs, .imm, .cache]
  | threeRegister => [.rs, .rt, .rd]
  | twoRegister => [.rs, .rt]
  | shift => [.rt, .rd, .shift]
  | link => [.rs, .rd]
  | source => [.rs]
  | destination => [.rd]
  | barrier => [.shift]
  | system => [.rt, .system]

end Layout

namespace Kind

/-- A line of the table of kinds. -/
structure Row where
  mnemonic : String
  family : Family
  layout : Layout

/-- The table of kinds. -/
def row : Kind → Row
  | .nop => ⟨"nop", .nop, .bare⟩
  | .j => ⟨"j", .immediate 0x02, .jump⟩
  | .jal => ⟨"jal", .immediate 0x03, .jump⟩
  | .beq => ⟨"beq", .immediate 0x04, .branchPair⟩
  | .bne => ⟨"bne", .immediate 0x05, .branchPair⟩
  | .blez => ⟨"blez", .immediate 0x06, .branch⟩
  | .bgtz => ⟨"bgtz", .immediate 0x07, .branch⟩
  | .addi => ⟨"addi", .immediate 0x08, .immediate⟩
  | .addiu => ⟨"addiu", .immediate 0x09, .immediate⟩
  | .slti => ⟨"slti", .immediate 0x0a, .immediate⟩
  | .sltiu => ⟨"sltiu", .immediate 0x0b, .immediate⟩
  | .andi => ⟨"andi", .immediate 0x0c, .immediate⟩
  | .ori => ⟨"ori", .immediate 0x0d, .immediate⟩
  | .xori => ⟨"xori", .immediate 0x0e, .immediate⟩
  | .lui => ⟨"lui", .immediate 0x0f, .upper⟩
  | .beql => ⟨"beql", .immediate 0x14, .branchPair⟩
  | .bnel => ⟨"bnel", .immediate 0x15, .branchPair⟩
  | .blezl => ⟨"blezl", .immediate 0x16, .branch⟩
  | .bgtzl => ⟨"bgtzl", .immediate 0x17, .branch⟩
  | .daddi => ⟨"daddi", .immediate 0x18, .immediate⟩
  | .daddiu => ⟨"daddiu", .immediate 0x19, .immediate⟩
  | .ldl => ⟨"ldl", .immediate 0x1a, .memory⟩
  | .ldr => ⟨"ldr", .immediate 0x1b, .memory⟩
  | .lb => ⟨"lb", .immediate 0x20, .memory⟩
  | .lh => ⟨"lh", .immediate 0x21, .memory⟩
  | .lwl => ⟨"lwl", .immediate 0x22, .memory⟩
  | .lw => ⟨"lw", .immediate 0x23, .memory⟩
  | .lbu => ⟨"lbu", .immediate 0x24, .memory⟩
  | .lhu => ⟨"lhu", .immediate 0x25, .memory⟩
  | .lwr => ⟨"lwr", .immediate 0x26, .memory⟩
  | .lwu => ⟨"lwu", .immediate 0x27, .memory⟩
  | .sb => ⟨"sb", .immediate 0x28, .memory⟩
  | .sh => ⟨"sh", .immediate 0x29, .memory⟩
  | .swl => ⟨"swl", .immediate 0x2a, .memory⟩
  | .sw => ⟨"sw", .immediate 0x2b, .memory⟩
  | .sdl => ⟨"sdl", .immediate 0x2c, .memory⟩
  | .sdr => ⟨"sdr", .immediate 0x2d, .memory⟩
  | .swr => ⟨"swr", .immediate 0x2e, .memory⟩
  | .cache => ⟨"cache", .immediate 0x2f, .cache⟩
  | .ll => ⟨"ll", .immediate 0x30, .memory⟩
  | .lld => ⟨"lld", .immediate 0x34, .memory⟩
  | .ld => ⟨"ld", .immediate 0x37, .memory⟩
  | .sc => ⟨"sc", .immediate 0x38, .memory⟩
  | .scd => ⟨"scd", .immediate 0x3c, .memory⟩
  | .sd => ⟨"sd", .immediate 0x3f, .memory⟩
  | .sll => ⟨"sll", .special 0x00, .shift⟩
  | .srl => ⟨"srl", .special 0x02, .shift⟩
  | .sra => ⟨"sra", .special 0x03, .shift⟩
  | .sllv => ⟨"sllv", .special 0x04, .threeRegister⟩
  | .srlv => ⟨"srlv", .special 0x06, .threeRegister⟩
  | .srav => ⟨"srav", .special 0x07, .threeRegister⟩
  | .jr => ⟨"jr", .special 0x08, .source⟩
  | .jalr => ⟨"jalr", .special 0x09, .link⟩
  | .sync => ⟨"sync", .special 0x0f, .barrier⟩
  | .mfhi => ⟨"mfhi", .special 0x10, .destination⟩
  | .mthi => ⟨"mthi", .special 0x11, .source⟩
  | .mflo => ⟨"mflo", .special 0x12, .destination⟩
  | .mtlo => ⟨"mtlo", .special 0x13, .source⟩
  | .dsllv => ⟨"dsllv", .special 0x14, .threeRegister⟩
  | .dsrlv => ⟨"dsrlv", .special 0x16, .threeRegister⟩
  | .dsrav => ⟨"dsrav", .special 0x17, .threeRegister⟩
  | .mult => ⟨"mult", .special 0x18, .twoRegister⟩
  | .multu => ⟨"multu", .special 0x19, .twoRegister⟩
  | .div => ⟨"div", .special 0x1a, .twoRegister⟩
  | .divu => ⟨"divu", .special 0x1b, .twoRegister⟩
  | .dmult => ⟨"dmult", .special 0x1c, .twoRegister⟩
  | .dmultu => ⟨"dmultu", .special 0x1d, .twoRegister⟩
  | .ddiv => ⟨"ddiv", .special 0x1e, .twoRegister⟩
  | .ddivu => ⟨"ddivu", .special 0x1f, .twoRegister⟩
  | .add => ⟨"add", .special 0x20, .threeRegister⟩
  | .addu => ⟨"addu", .special 0x21, .threeRegister⟩
  | .sub => ⟨"sub", .special 0x22, .threeRegister⟩
  | .subu => ⟨"subu", .special 0x23, .threeRegister⟩
  | .and => ⟨"and", .special 0x24, .threeRegister⟩
  | .or => ⟨"or", .special 0x25, .threeRegister⟩
  | .xor => ⟨"xor", .special 0x26, .threeRegister⟩
  | .nor => ⟨"nor", .special 0x27, .threeRegister⟩
  | .slt => ⟨"slt", .special 0x2a, .threeRegister⟩
  | .sltu => ⟨"sltu", .special 0x2b, .threeRegister⟩
  | .dadd => ⟨"dadd", .special 0x2c, .threeRegister⟩
  | .daddu => ⟨"daddu", .special 0x2d, .threeRegister⟩
  | .dsub => ⟨"dsub", .special 0x2e, .threeRegister⟩
  | .dsubu => ⟨"dsubu", .special 0x2f, .threeRegister⟩
  | .dsll => ⟨"dsll", .special 0x38, .shift⟩
  | .dsrl => ⟨"dsrl", .special 0x3a, .shift⟩
  | .dsra => ⟨"dsra", .special 0x3b, .shift⟩
  | .dsll32 => ⟨"dsll32", .special 0x3c, .shift⟩
  | .dsrl32 => ⟨"dsrl32", .special 0x3e, .shift⟩
  | .dsra32 => ⟨"dsra32", .special 0x3f, .shift⟩
  | .bltz => ⟨"bltz", .regImm 0x00, .branch⟩
  | .bgez => ⟨"bgez", .regImm 0x01, .branch⟩
  | .bltzl => ⟨"bltzl", .regImm 0x02, .branch⟩
  | .bgezl => ⟨"bgezl", .regImm 0x03, .branch⟩
  | .bltzal => ⟨"bltzal", .regImm 0x10, .branch⟩
  | .bgezal => ⟨"bgezal", .regImm 0x11, .branch⟩
  | .bltzall => ⟨"bltzall", .regImm 0x12, .branch⟩
  | .bgezall => ⟨"bgezall", .regImm 0x13, .branch⟩
  | .mfc0 => ⟨"mfc0", .system 0x00, .system⟩
  | .mtc0 => ⟨"mtc0", .system 0x04, .system⟩

def mnemonic (k : Kind) : String := k.row.mnemonic

def family (k : Kind) : Family := k.row.family

def layout (k : Kind) : Layout := k.row.layout

/-- Every kind, family by family and in each by code. -/
def all : List Kind :=
  [.nop, .j, .jal, .beq, .bne, .blez, .bgtz, .addi, .addiu, .slti, .sltiu, .andi, .ori,
   .xori, .lui, .beql, .bnel, .blezl, .bgtzl, .daddi, .daddiu, .ldl, .ldr, .lb, .lh, .lwl,
   .lw, .lbu, .lhu, .lwr, .lwu, .sb, .sh, .swl, .sw, .sdl, .sdr, .swr, .cache, .ll, .lld,
   .ld, .sc, .scd, .sd, .sll, .srl, .sra, .sllv, .srlv, .srav, .jr, .jalr, .sync, .mfhi,
   .mthi, .mflo, .mtlo, .dsllv, .dsrlv, .dsrav, .mult, .multu, .div, .divu, .dmult,
   .dmultu, .ddiv, .ddivu, .add, .addu, .sub, .subu, .and, .or, .xor, .nor, .slt, .sltu,
   .dadd, .daddu, .dsub, .dsubu, .dsll, .dsrl, .dsra, .dsll32, .dsrl32, .dsra32, .bltz,
   .bgez, .bltzl, .bgezl, .bltzal, .bgezal, .bltzall, .bgezall, .mfc0, .mtc0]

/-- The kind that a family selects with a code. -/
def ofFamily? (f : Family) : Option Kind := all.find? fun k => k.family == f

/-- The kind of a given mnemonic. -/
def ofMnemonic? (s : String) : Option Kind := all.find? fun k => k.mnemonic == s

/-- The word of a kind with every operand field cleared. -/
def selector (k : Kind) : UInt32 :=
  match k.family with
  | .nop => 0
  | .immediate opcode => opcode <<< 26
  | .special function => function
  | .regImm code => (0x04000000 : UInt32) ||| (code <<< 16)
  | .system code => (0x40000000 : UInt32) ||| (code <<< 21)

end Kind

end Mips
end PadScout
