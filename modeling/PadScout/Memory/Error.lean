import PadScout.SystemError
import PadScout.Text.Hex

/-! # Errors of memory access -/
namespace PadScout

/-- Why memory of a process, or a dump of it, cannot be had. -/
inductive MemoryError where
  | system (cause : SystemError)
  | readFailed (address : UInt64) (length : Nat)
  | processGone (pid : UInt32)
  | imageSize (bytes : Nat)
  | malformedRegion (line : String)
deriving DecidableEq

namespace MemoryError

def message : MemoryError → String
  | .system cause => "IO error: " ++ cause.message
  | .readFailed a n =>
    "Read of " ++ Decimal.text n ++ " bytes failed at address " ++ Hex.marked a.toNat
  | .processGone pid => "Process " ++ Decimal.text pid.toNat ++ " is gone"
  | .imageSize n => "Image of " ++ Decimal.text n ++ " bytes is not a whole number of words"
  | .malformedRegion line => "Malformed region entry: " ++ line

end MemoryError
end PadScout
