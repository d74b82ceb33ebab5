import PadScout.Text.Decimal

/-! # Registers

The thirty-two general registers of the processor, the registers of its system
coprocessor, and the selector of a cache operation.  All three fill a five-bit
slot of an instruction word, so each wraps a number below thirty-two and is
made from a word by its low five bits.
-/
namespace PadScout
namespace Mips

/-- The low five bits of a word. -/
def lowFive (bits : UInt32) : Fin 32 := Fin.ofNat 32 bits.toNat

/-- A general register. -/
structure Register where
  index : Fin 32
deriving DecidableEq

namespace Register

/-- The register named by the low five bits of `bits`. -/
def ofBits (bits : UInt32) : Register := ⟨lowFive bits⟩

/-- The register's number as it stands in an instruction word. -/
def bits (r : Register) : UInt32 := UInt32.ofNat r.index.val

def zero : Register := ⟨0⟩
def a0 : Register := ⟨4⟩
def a1 : Register := ⟨5⟩
def a2 : Register := ⟨6⟩
def t7 : Register := ⟨15⟩
def t8 : Register := ⟨24⟩
def gp : Register := ⟨28⟩
def sp : Register := ⟨29⟩
def ra : Register := ⟨31⟩

/-- Every register, by number. -/
def all : List Register := (List.finRange 32).map Register.mk

/-- The names of the registers under the calling convention, by number. -/
def names : Vector String 32 :=
  #v["zero", "at", "v0", "v1", "a0", "a1", "a2", "a3",
     "t0", "t1", "t2", "t3", "t4", "t5", "t6", "t7",
     "s0", "s1", "s2", "s3", "s4", "s5", "s6", "s7",
     "t8", "t9", "k0", "k1", "gp", "sp", "fp", "ra"]

def name (r : Register) : String := names.get r.index

/-- The register of a given name. -/
def ofName? (s : String) : Option Register := all.find? (·.name == s)

end Register

/-- A register of the system coprocessor. -/
structure SystemRegister where
  index : Fin 32
deriving DecidableEq

namespace SystemRegister

def ofBits (bits : UInt32) : SystemRegister := ⟨lowFive bits⟩

def bits (r : SystemRegister) : UInt32 := UInt32.ofNat r.index.val

/-- The name of a register that has one. -/
def name? (r : SystemRegister) : Option String :=
  match r.index.val with
  | 0 => some "Index"
  | 9 => some "Count"
  | 11 => some "Compare"
  | 12 => some "Status"
  | 13 => some "Cause"
  | 14 => some "EPC"
  | _ => none

/-- The name, or the number after a dollar sign. -/
def text (r : SystemRegister) : String :=
  match r.name? with
  | some name => name
  | none => "$" ++ Decimal.text r.index.val

end SystemRegister

/-- The selector of a cache operation: two bits pick the cache, three the
operation. -/
structure CacheOp where
  index : Fin 32
deriving DecidableEq

namespace CacheOp

def ofBits (bits : UInt32) : CacheOp := ⟨lowFive bits⟩

def bits (op : CacheOp) : UInt32 := UInt32.ofNat op.index.val

/-- Which of the four caches the operation works on. -/
def cache (op : CacheOp) : String :=
  match op.index.val % 4 with
  | 0 => "I"
  | 1 => "D"
  | 2 => "SI"
  | _ => "SD"

/-- Whether the operation works on the primary data cache. -/
def isDataCache (op : CacheOp) : Bool := op.index.val % 4 == 1

/-- The number of the operation on that cache. -/
def operation (op : CacheOp) : Nat := op.index.val / 4

def text (op : CacheOp) : String :=
  "(" ++ op.cache ++ ", " ++ Decimal.text op.operation ++ ")"

end CacheOp

end Mips
end PadScout
