import PadScout.Host.Address
import PadScout.Host.Protection
import PadScout.Text.Case

/-! # Regions and modules

The memory of a process falls into regions of one protection each.  A module is
a program file or library that the process has loaded; it may span several
regions.
-/
namespace PadScout

/-- A stretch of memory of one protection. -/
structure Region where
  base : Address
  size : UInt64
  protection : Protection
  name : String := ""
deriving DecidableEq

namespace Region

/-- The address behind the last byte. -/
def stop (r : Region) : Address := r.base.plus r.size

def contains (r : Region) (a : Address) : Bool := r.base ≤ a && a < r.stop

def isReadable (r : Region) : Bool := r.protection.canRead

def text (r : Region) : String :=
  r.base.text ++ "-" ++ r.stop.text ++ " " ++ r.protection.text ++ " " ++ r.name

end Region

/-- A loaded program file or library. -/
structure Module where
  name : String
  base : Address
  size : UInt64
deriving DecidableEq

namespace Module

/-- The address behind the last byte. -/
def stop (m : Module) : Address := m.base.plus m.size

/-- The name in lower case. -/
def lowerName (m : Module) : List Char := Case.lower m.name.toList

def text (m : Module) : String :=
  m.name ++ " @ " ++ m.base.text ++ " (+" ++ Hex.marked m.size.toNat ++ ")"

end Module

end PadScout
