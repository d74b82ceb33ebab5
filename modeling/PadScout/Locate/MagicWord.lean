import PadScout.Host.Question
import PadScout.Settings

/-! # The magic word

The first instruction of the code that sets up the console's memory stands at its
start.  Only some bits of it are the same in every game, and an emulator may keep
something else in front of the memory; `MagicWord` says which bits matter, what
they are, and how far from the start the word is.
-/
namespace PadScout

/-- What tells the start of the console's memory. -/
structure MagicWord where
  value : UInt32 := 0x3C1A8000
  mask : UInt32 := 0xFFFFF000
  /-- The distance of the word from the start. -/
  offset : UInt64 := 0
deriving DecidableEq

namespace MagicWord

variable {H : Type}

/-- The magic word of a host. -/
def ofHost (s : Settings) (h : Host) : MagicWord := ⟨s.magicValue, s.magicMask, h.probeOffset⟩

/-- Whether a word has the bits that matter. -/
def fits (w : MagicWord) (word : UInt32) : Bool := word &&& w.mask == w.value

/-- **Whether memory may start at an address**: whether the word at its distance
can be read and fits. -/
def test (w : MagicWord) (process : H) (base : Address) : Inquiry H Bool :=
  match base.add? w.offset with
  -- there is no word behind the end of the space
  | none => return false
  | some address => do
    match ← Inquiry.readWord process address with
    | .ok word => return w.fits word
    | .error e =>
      Dialogue.note .trace .magic fun _ => "magic probe at " ++ address.text ++ ": " ++ e.message
      return false

end MagicWord

end PadScout
