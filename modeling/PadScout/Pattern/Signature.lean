import PadScout.Pattern.Slot

/-! # Signatures of routines

A signature names a routine and gives a pattern from its body.  The match need
not be where the routine is entered, so the signature also lists the distances
from the match to the words where the entry may be.
-/
namespace PadScout

/-- A routine that can be recognised. -/
structure Signature where
  name : String
  pattern : Pattern
  /-- Distances in words from a match to the possible entries. -/
  entryOffsets : List Int := [0]
deriving DecidableEq

namespace Signature

/-- Word indices are below this limit. -/
def indexLimit : Int := 0x10000000000000000

/-- The word at a distance from another, if there is a word there. -/
def entryAt? (start : Nat) (distance : Int) : Option Nat :=
  if 0 ≤ start + distance ∧ start + distance < indexLimit then some (start + distance).toNat
  else none

/-- The possible entries for a match; those before the first word of memory do
not exist. -/
def entriesFor (s : Signature) (start : Nat) : List Nat :=
  s.entryOffsets.filterMap (entryAt? start)

/-- The possible entries for every match, in the order of the matches. -/
def entries (s : Signature) (m : Image) : List Nat :=
  (s.pattern.occurrences m).flatMap s.entriesFor

def text (s : Signature) : String :=
  s.name ++ " (" ++ Decimal.text s.pattern.length ++ " words)"

end Signature

end PadScout
