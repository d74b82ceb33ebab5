import PadScout.Pattern.Signature

/-! # The routines of the console's system software

Games are linked with one library of system routines, so the same few routines
are in nearly every image.  Discovery starts from six of them: reading the
cycle counter, disabling and restoring interrupts, writing back and
invalidating the data cache, and the code that sets up the global pointer.

Registers in the patterns are variable.  The comment at a slot is the
instruction it stands for, with an underscore for each variable operand.
-/
namespace PadScout

/-- A routine that discovery starts from. -/
inductive Routine where
  | getCount | disableInterrupts | restoreInterrupts | writebackCache | invalidateCache | gpSetup
deriving DecidableEq

namespace Routine

/-- Every routine, in the order of the catalogue. -/
def all : List Routine :=
  [.getCount, .disableInterrupts, .restoreInterrupts, .writebackCache, .invalidateCache, .gpSetup]

/-- The name under which the system software exports the routine. -/
def name : Routine → String
  | getCount => "osGetCount"
  | disableInterrupts => "__osDisableInt"
  | restoreInterrupts => "__osRestoreInt"
  | writebackCache => "osWritebackDCache"
  | invalidateCache => "osInvalDCache"
  | gpSetup => "gpSetup"

/-- `mfc0 v0, Count`, `jr ra`, `nop`. -/
def getCountSlots : List Slot := [.literal 0x40024800, .literal 0x03E00008, .literal 0]

def disableSlots : List Slot :=
  [⟨0x40006000, 0x001F0000⟩,  -- mfc0 _, Status
   ⟨0x2400FFFE, 0x001F0000⟩,  -- addiu _, zero, -2
   ⟨0x00000024, 0x03FFF800⟩,  -- and _, _, _
   ⟨0x40806000, 0x001F0000⟩,  -- mtc0 _, Status
   ⟨0x30020001, 0x03E00000⟩]  -- andi v0, _, 1

def restoreSlots : List Slot :=
  [⟨0x40006000, 0x001F0000⟩,  -- mfc0 _, Status
   ⟨0x00040025, 0x03E0F800⟩,  -- or _, _, a0
   ⟨0x40806000, 0x001F0000⟩,  -- mtc0 _, Status
   ⟨0x00000000, 0⟩,
   ⟨0x00000000, 0⟩,
   ⟨0x03E00008, 0⟩,  -- jr ra
   ⟨0x00000000, 0⟩]

/-- The loop over the whole cache that both cache routines fall back to for
large ranges. -/
def indexLoopSlots : List Slot :=
  [⟨0x3C008000, 0x001F0000⟩,  -- lui _, 0x8000
   ⟨0x00000021, 0x03FFF800⟩,  -- addu _, _, _
   ⟨0x2400FFF0, 0x03FF0000⟩,  -- addiu _, _, -0x10
   ⟨0xBC010000, 0x03E00000⟩,  -- cache (D, 0), 0(_)
   ⟨0x0000002B, 0x03FFF800⟩,  -- sltu _, _, _
   ⟨0x1400FFFD, 0x03E00000⟩,  -- bne _, zero, -0xc
   ⟨0x24000010, 0x03FF0000⟩,  -- addiu _, _, 0x10
   ⟨0x03E00008, 0⟩,
   ⟨0x00000000, 0⟩]

def writebackSlots : List Slot :=
  [⟨0x00000023, 0x03FFF800⟩,  -- subu _, _, _
   ⟨0xBC190000, 0x03E00000⟩,  -- cache (D, 6), 0(_)
   ⟨0x0000002B, 0x03FFF800⟩,
   ⟨0x1400FFFD, 0x03E00000⟩,
   ⟨0x24000010, 0x03FF0000⟩,
   ⟨0x03E00008, 0⟩,
   ⟨0x00000000, 0⟩]

def invalidateSlots : List Slot :=
  [⟨0x00000023, 0x03FFF800⟩,  -- subu _, _, _
   ⟨0xBC150000, 0x03E00000⟩,  -- cache (D, 5), 0(_)
   ⟨0x0000002B, 0x03FFF800⟩,
   ⟨0x1000000E, 0x03E00000⟩,  -- beq _, zero, 0x38
   ⟨0x00000000, 0⟩,
   ⟨0x24000010, 0x03FF0000⟩,
   ⟨0x3000000F, 0x03FF0000⟩,  -- andi _, _, 0xf
   ⟨0x10000006, 0x03E00000⟩,  -- beq _, zero, 0x18
   ⟨0x00000000, 0⟩,
   ⟨0x00000023, 0x03FFF800⟩,
   ⟨0xBC150010, 0x03E00000⟩,  -- cache (D, 5), 0x10(_)
   ⟨0x0000002B, 0x03FFF800⟩,
   ⟨0x14000005, 0x03E00000⟩,
   ⟨0x00000000, 0⟩,
   ⟨0xBC110000, 0x03E00000⟩,  -- cache (D, 4), 0(_)
   ⟨0x0000002B, 0x03FFF800⟩,
   ⟨0x1400FFFD, 0x03E00000⟩,
   ⟨0x24000010, 0x03FF0000⟩,
   ⟨0x03E00008, 0⟩,
   ⟨0x00000000, 0⟩]

def gpSetupSlots : List Slot :=
  [⟨0x3C1C0000, 0x0000FFFF⟩,  -- lui gp, hi
   ⟨0x03E00008, 0⟩,
   ⟨0x279C0000, 0x0000FFFF⟩]  -- addiu gp, gp, lo

/-- What a routine is recognised by.  Some builds have a few more words in front
of the body of a routine, hence several entries. -/
def signature (r : Routine) : Signature :=
  match r with
  | getCount => ⟨r.name, ⟨getCountSlots⟩, [0]⟩
  | disableInterrupts => ⟨r.name, ⟨disableSlots⟩, [0, -4]⟩
  | restoreInterrupts => ⟨r.name, ⟨restoreSlots⟩, [0]⟩
  | writebackCache => ⟨r.name, ⟨writebackSlots ++ indexLoopSlots⟩, [-0xD]⟩
  | invalidateCache => ⟨r.name, ⟨invalidateSlots ++ indexLoopSlots⟩, [-0xE, -0xF]⟩
  | gpSetup => ⟨r.name, ⟨gpSetupSlots⟩, [0]⟩

/-- The routine of a given name. -/
def ofName? (name : String) : Option Routine := all.find? fun r => r.name == name

end Routine

end PadScout
