/-! # Memory protection

What a process may do with a stretch of its memory, and what that says about
whether an emulator could keep the console's memory there.
-/
namespace PadScout

/-- The protection of a stretch of memory. -/
structure Protection where
  read : Bool := false
  write : Bool := false
  execute : Bool := false
  copyOnWrite : Bool := false
  guard : Bool := false
deriving DecidableEq

namespace Protection

/-- The protection whose flags are the low five bits of a number. -/
def ofBits (n : Nat) : Protection :=
  ⟨n.testBit 0, n.testBit 1, n.testBit 2, n.testBit 3, n.testBit 4⟩

/-- The flags as the bits of a number. -/
def bits (p : Protection) : Nat :=
  p.read.toNat + 2 * p.write.toNat + 4 * p.execute.toNat + 8 * p.copyOnWrite.toNat +
    16 * p.guard.toNat

@[simp] theorem ofBits_bits (p : Protection) : ofBits p.bits = p := by
  obtain ⟨read, write, execute, copyOnWrite, guard⟩ := p
  cases read <;> cases write <;> cases execute <;> cases copyOnWrite <;> cases guard <;> rfl

/-- Reads the permission column of a memory map, such as `rw-p`.  A letter counts
only in its own place, and a private mapping is copied on writing only if it can
be written. -/
def ofColumn (column : List Char) : Protection :=
  let letter (place : Nat) (c : Char) : Bool := column[place]? == some c
  { read := letter 0 'r'
    write := letter 1 'w'
    execute := letter 2 'x'
    copyOnWrite := letter 3 'p' && letter 1 'w' }

def canRead (p : Protection) : Bool := p.read && !p.guard

def canWrite (p : Protection) : Bool := p.write

def canExecute (p : Protection) : Bool := p.execute

/-- Whether an emulator could keep the console's memory there: it is readable,
and it is not code that is never written. -/
def mayHoldRam (p : Protection) : Bool := p.canRead && (p.canWrite || !p.canExecute)

/-- A letter for each flag that is set, and a dash for each other. -/
def text (p : Protection) : String :=
  let flag (set : Bool) (c : Char) : Char := if set then c else '-'
  String.ofList
    [flag p.read 'r', flag p.write 'w', flag p.execute 'x', flag p.copyOnWrite 'c']

end Protection

end PadScout
