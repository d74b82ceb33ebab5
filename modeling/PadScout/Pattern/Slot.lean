import PadScout.Memory.Image

/-! # Masked patterns

A pattern is a sequence of slots, one for each word of the code it describes.
The bits of a slot's mask stand for an operand that may vary, and all its other
bits are fixed.  The variable bits of a matching word must not all be zero: an
operand that a compiler would have left out is taken for another instruction.

`Pattern.occurrences` lists where a pattern matches an image;
`Pattern.MatchesAt` says what a match is, word by word.
-/
namespace PadScout

/-- One word of a pattern. -/
structure Slot where
  value : UInt32
  mask : UInt32
deriving DecidableEq

namespace Slot

/-- A slot without variable bits. -/
def literal (value : UInt32) : Slot := ⟨value, 0⟩

/-- Whether a word fits the slot. -/
def fits (s : Slot) (w : UInt32) : Bool :=
  w &&& ~~~ s.mask == s.value && (s.mask == 0 || w &&& s.mask != 0)

def text (s : Slot) : String :=
  if s.mask = 0 then Hex.word s.value else Hex.word s.value ++ "/" ++ Hex.word s.mask

end Slot

/-- A sequence of slots. -/
structure Pattern where
  slots : List Slot
deriving DecidableEq

namespace Pattern

/-- The pattern that only the given words match. -/
def literal (words : List UInt32) : Pattern := ⟨words.map Slot.literal⟩

def length (p : Pattern) : Nat := p.slots.length

def isEmpty (p : Pattern) : Bool := p.slots.isEmpty

/-- Whether no slot has variable bits. -/
def isLiteral (p : Pattern) : Bool := p.slots.all fun s => s.mask == 0

/-- Whether the words of an image from `start` on fit the slots, one by one. -/
def fitsFrom (m : Image) : List Slot → Nat → Bool
  | [], _ => true
  | s :: slots, start => (m.get? start).any s.fits && fitsFrom m slots (start + 1)

/-- Whether the pattern matches at an index of the image. -/
def matchesAt (p : Pattern) (m : Image) (start : Nat) : Bool :=
  decide (start + p.length ≤ m.size) && fitsFrom m p.slots start

/-- **Every index at which the pattern matches**, ascending.  The empty pattern
has no matches. -/
def occurrences (p : Pattern) (m : Image) : List Nat :=
  if p.isEmpty ∨ m.size < p.length then []
  else Ascending.below (p.matchesAt m) (m.size - p.length + 1)

/-- A match, stated for each word: the fixed bits agree with the slot, and of
the variable bits, if there are any, one is set. -/
def MatchesAt (p : Pattern) (m : Image) (start : Nat) : Prop :=
  start + p.length ≤ m.size ∧
    ∀ j s, p.slots[j]? = some s → ∃ w, m.get? (start + j) = some w ∧
      w &&& ~~~ s.mask = s.value ∧ (s.mask = 0 ∨ w &&& s.mask ≠ 0)

def text (p : Pattern) : String := " ".intercalate (p.slots.map Slot.text)

end Pattern

end PadScout
