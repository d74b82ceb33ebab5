import PadScout.Journal
import PadScout.Text.Case

/-! # Thresholds

How much of a journal is shown.  A threshold can be asked for by the name of a
level or by how often the user asked for more.
-/
namespace PadScout

/-- How much of a journal is shown: nothing, or the remarks up to a level. -/
inductive Threshold where
  | off
  | upTo (level : Level)
deriving DecidableEq

namespace Threshold

def text : Threshold → String
  | off => "OFF"
  | upTo level => level.text

/-- The thresholds with the names that they go by. -/
def names : List (String × Threshold) :=
  [("off", off), ("error", upTo .error), ("warn", upTo .warn), ("warning", upTo .warn),
   ("info", upTo .info), ("debug", upTo .debug), ("trace", upTo .trace)]

/-- The threshold of a name; the case of A to Z does not matter. -/
def ofName? (name : String) : Option Threshold :=
  (names.find? fun row => Case.asciiEqual row.1.toList name.toList).map Prod.snd

/-- Warnings and errors are shown in any case; each request for more shows one
level more, up to the last. -/
def ofRequests : Nat → Threshold
  | 0 => upTo .warn
  | 1 => upTo .info
  | 2 => upTo .debug
  | _ => upTo .trace

/-- The remarks of a journal that are shown. -/
def shown : Threshold → Journal → List Entry
  | off, _ => []
  | upTo level, j => j.upTo level

end Threshold

end PadScout
