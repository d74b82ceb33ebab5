/-! # Phases

A session first searches for an emulator, then for the console's memory in it,
and then reads the controller input from there.  Each cycle does what belongs to
the phase.
-/
namespace PadScout

/-- What a session is doing. -/
inductive Phase where
  | searching | locating | extracting
deriving DecidableEq

namespace Phase

/-- The phase that a byte stands for; a byte without meaning stands for the
first. -/
def ofByte (b : UInt8) : Phase :=
  if b = 1 then locating else if b = 2 then extracting else searching

def byte : Phase → UInt8
  | searching => 0
  | locating => 1
  | extracting => 2

@[simp] theorem ofByte_byte (p : Phase) : ofByte p.byte = p := by
  cases p <;> rfl

def text : Phase → String
  | searching => "searching"
  | locating => "locating-ram"
  | extracting => "extracting"

end Phase

instance : Inhabited Phase := ⟨.searching⟩

end PadScout
