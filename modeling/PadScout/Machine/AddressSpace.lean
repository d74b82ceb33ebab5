import PadScout.Memory.Image

/-! # The address space of the machine

What a program sees when it runs on the machine of `PadScout.Machine.Basic`.
The top byte of an address is its segment.  Segment `0x80` holds the RAM image
and cannot be written: a store inside it is accepted and has no effect.
Segment `0x81` is a small scratch area, zero at first, where a program may keep
its stack.  There is nothing else.

Bytes within a word are numbered from the most significant one.  `byteAt?` is
the view of the whole space as bytes.
-/
namespace PadScout

/-- Why the machine cannot go on.  A word that is no instruction is no reason: the
machine passes over it. -/
inductive Fault where
  | unmappedSegment (address : UInt32)
  | outOfBounds (address : UInt32)
  | fetch (pc : UInt32)
  | divideByZero (pc : UInt32)
deriving DecidableEq

namespace Fault

def message : Fault → String
  | .unmappedSegment a => "Address " ++ Hex.markedWord a ++ " is in an unmapped segment"
  | .outOfBounds a => "Address " ++ Hex.markedWord a ++ " is past the end of its segment"
  | .fetch pc => "Instruction fetch failed at pc " ++ Hex.markedWord pc
  | .divideByZero pc => "Division by zero at pc " ++ Hex.markedWord pc

end Fault

/-- The number of words in the scratch area. -/
def scratchWords : Nat := 0x4000

/-- A RAM image and a scratch area. -/
structure AddressSpace where
  ram : Image
  scratch : Vector UInt32 scratchWords

/-- A word of the address space. -/
inductive Place where
  | ram (index : Nat)
  | scratch (index : Fin scratchWords)

namespace AddressSpace

/-- An image beside an empty scratch area. -/
def ofImage (m : Image) : AddressSpace := ⟨m, Vector.replicate scratchWords 0⟩

/-- The index of the addressed word within its segment. -/
def wordIndex (a : UInt32) : Nat := (a &&& 0x00FFFFFF).toNat / 4

/-- The word that an address falls into. -/
def place (s : AddressSpace) (a : UInt32) : Except Fault Place :=
  if a >>> 24 = 0x80 then
    if wordIndex a < s.ram.size then .ok (.ram (wordIndex a)) else .error (.outOfBounds a)
  else if a >>> 24 = 0x81 then
    if h : wordIndex a < scratchWords then .ok (.scratch ⟨wordIndex a, h⟩)
    else .error (.outOfBounds a)
  else .error (.unmappedSegment a)

/-- The word that an address falls into; the low two bits are ignored. -/
def readWord (s : AddressSpace) (a : UInt32) : Except Fault UInt32 :=
  match s.place a with
  | .error f => .error f
  | .ok (.ram i) =>
    match s.ram.get? i with
    | some w => .ok w
    | none => .error (.outOfBounds a)
  | .ok (.scratch i) => .ok s.scratch[i]

/-- Stores the bits of `value` under a mask. -/
def store (s : AddressSpace) (a value mask : UInt32) : Except Fault AddressSpace :=
  match s.place a with
  | .error f => .error f
  | .ok (.ram _) => .ok s
  | .ok (.scratch i) =>
    .ok { s with scratch := s.scratch.set i ((s.scratch[i] &&& ~~~ mask) ||| (value &&& mask)) }

/-- The position of the addressed byte in its word, most significant first. -/
def byteShift (a : UInt32) : UInt32 := 24 - 8 * (a &&& 3)

/-- The position of the addressed half of a word. -/
def halfShift (a : UInt32) : UInt32 := 16 - 8 * (a &&& 2)

def writeWord (s : AddressSpace) (a value : UInt32) : Except Fault AddressSpace :=
  s.store a value 0xFFFFFFFF

def writeHalf (s : AddressSpace) (a : UInt32) (value : UInt16) : Except Fault AddressSpace :=
  s.store a (value.toUInt32 <<< halfShift a) ((0xFFFF : UInt32) <<< halfShift a)

def writeByte (s : AddressSpace) (a : UInt32) (value : UInt8) : Except Fault AddressSpace :=
  s.store a (value.toUInt32 <<< byteShift a) ((0xFF : UInt32) <<< byteShift a)

/-- The addressed byte, if there is one. -/
def byteAt? (s : AddressSpace) (a : UInt32) : Option UInt8 :=
  match s.readWord a with
  | .ok w => some (w >>> byteShift a).toUInt8
  | .error _ => none

end AddressSpace

end PadScout
