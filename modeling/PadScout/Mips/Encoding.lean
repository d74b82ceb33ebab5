import PadScout.Mips.Instruction

/-! # Instruction words

The translation between instructions and 32-bit words.  A word is the selector
of its kind with each operand stamped into the bits of its field
(`Field.low`, `Field.width`); fields of one layout never overlap, nor do they
touch the bits that select the kind.

* `Instruction.encode` packs the operands that the layout asks for, in the
  order of `Layout.fields`.  The first one that is missing or does not fit is
  the error; operands outside the layout are ignored.
* `decode` finds the kind (`Kind.ofWord`), reads the fields of its layout
  (`Instruction.ofFields`), and accepts the word only if encoding gives it
  back, so that no bit of an accepted word is left unaccounted for.
  `Canonical` states the same condition on the bits alone.
-/
namespace PadScout
namespace Mips

namespace Field

/-- The lowest bit of a field. -/
def low : Field → UInt32
  | rs => 21
  | rt => 16
  | rd => 11
  | shift => 6
  | imm => 0
  | offset => 0
  | target => 0
  | system => 11
  | cache => 16

/-- The number of bits of a field. -/
def width : Field → UInt32
  | rs => 5
  | rt => 5
  | rd => 5
  | shift => 5
  | imm => 16
  | offset => 16
  | target => 26
  | system => 5
  | cache => 5

/-- The bits of a field within a word. -/
def mask (f : Field) : UInt32 := ((1 <<< f.width) - 1) <<< f.low

/-- What a word holds in a field. -/
def extract (f : Field) (w : UInt32) : UInt32 := (w >>> f.low) &&& ((1 <<< f.width) - 1)

/-- The name of a field in messages. -/
def name : Field → String
  | rs => "rs"
  | rt => "rt"
  | rd => "rd"
  | shift => "shift"
  | imm => "imm"
  | offset => "offset"
  | target => "target"
  | system => "cop0"
  | cache => "cache"

end Field

/-! ## Encoding -/

/-- Why an instruction has no word. -/
inductive EncodeError where
  | missing (kind : Kind) (field : Field)
  | outOfRange (kind : Kind) (field : Field) (value : Int)
deriving DecidableEq

namespace EncodeError

/-- A value is shown as the 64-bit word that holds it. -/
def message : EncodeError → String
  | .missing k f => k.mnemonic ++ " requires field " ++ f.name
  | .outOfRange k f v =>
    k.mnemonic ++ ": value " ++ Hex.marked (v % 0x10000000000000000).toNat ++ " does not fit field " ++ f.name

end EncodeError

/-- The distances that a branch can hold: multiples of four in eighteen signed
bits. -/
def branchFits (offset : Int) : Bool :=
  offset % 4 == 0 && decide (-0x20000 ≤ offset ∧ offset ≤ 0x1FFFC)

/-- The targets that a jump can hold: multiples of four in twenty-eight bits. -/
def jumpFits (target : UInt32) : Bool :=
  target % 4 == 0 && decide (target < 0x10000000)

namespace Instruction

/-- The bits that the operand of a field puts into that field. -/
def operand (i : Instruction) (f : Field) : Except EncodeError UInt32 :=
  let need {α : Type} (operand : Option α) (bits : α → Except EncodeError UInt32) :=
    match operand with
    | some a => bits a
    | none => .error (.missing i.kind f)
  match f with
  | .rs => need i.rs fun r => .ok r.bits
  | .rt => need i.rt fun r => .ok r.bits
  | .rd => need i.rd fun r => .ok r.bits
  | .shift => need i.shift fun n =>
    if n ≤ 31 then .ok n.toUInt32 else .error (.outOfRange i.kind f n.toNat)
  -- every value of an immediate fits
  | .imm => need i.imm fun n => .ok n.toUInt16.toUInt32
  | .offset => need i.offset fun n =>
    if branchFits n.toInt then .ok ((n.toUInt32 >>> 2) &&& 0xFFFF)
    else .error (.outOfRange i.kind f n.toInt)
  | .target => need i.target fun t =>
    if jumpFits t then .ok (t >>> 2) else .error (.outOfRange i.kind f t.toNat)
  | .system => need i.system fun r => .ok r.bits
  | .cache => need i.cache fun op => .ok op.bits

/-- Stamps the operands of some fields into a word. -/
def pack (i : Instruction) : List Field → UInt32 → Except EncodeError UInt32
  | [], w => .ok w
  | f :: fs, w =>
    match i.operand f with
    | .ok bits => i.pack fs (w ||| bits <<< f.low)
    | .error e => .error e

/-- **The word of an instruction.** -/
def encode (i : Instruction) : Except EncodeError UInt32 :=
  i.pack i.kind.layout.fields i.kind.selector

end Instruction

/-! ## Decoding -/

/-- Why a word is no instruction. -/
inductive DecodeError where
  | unknownOpcode (word opcode : UInt32)
  | unknownFunction (word function : UInt32)
  | unknownRegImm (word code : UInt32)
  | unknownSystem (word code : UInt32)
  | floatingPoint (word : UInt32)
  | nonCanonical (word : UInt32)
deriving DecidableEq

namespace DecodeError

/-- A selecting code, in two digits at least. -/
def codeText (code : UInt32) : String := Hex.markedWide 2 code.toNat

def message : DecodeError → String
  | .unknownOpcode w c => "Unknown opcode " ++ codeText c ++ " in word " ++ Hex.markedWord w
  | .unknownFunction w c =>
    "Unknown special function " ++ codeText c ++ " in word " ++ Hex.markedWord w
  | .unknownRegImm w c =>
    "Unknown reg-immediate selector " ++ codeText c ++ " in word " ++ Hex.markedWord w
  | .unknownSystem w c =>
    "Unsupported coprocessor-0 operation " ++ codeText c ++ " in word " ++ Hex.markedWord w
  | .floatingPoint w => "Coprocessor-1 instruction " ++ Hex.markedWord w ++ " is not modelled"
  | .nonCanonical w => "Word " ++ Hex.markedWord w ++ " has bits set outside the fields of its kind"

end DecodeError

namespace Kind

/-- The kind that a word selects. -/
def ofWord (w : UInt32) : Except DecodeError Kind :=
  let select (family : Family) (unknown : DecodeError) : Except DecodeError Kind :=
    match ofFamily? family with
    | some k => .ok k
    | none => .error unknown
  let opcode := w >>> 26
  if opcode = 0 then
    let function := w &&& 0x3F
    select (.special function) (.unknownFunction w function)
  else if opcode = 1 then
    let code := (w >>> 16) &&& 0x1F
    select (.regImm code) (.unknownRegImm w code)
  else if opcode = 0x10 then
    let code := (w >>> 21) &&& 0x1F
    select (.system code) (.unknownSystem w code)
  else if opcode = 0x11 then .error (.floatingPoint w)
  else select (.immediate opcode) (.unknownOpcode w opcode)

/-- The bits that the operands of a kind can fill. -/
def operandMask (k : Kind) : UInt32 := k.layout.fields.foldl (fun m f => m ||| f.mask) 0

end Kind

namespace Instruction

/-- Reads the operand of one field off a word. -/
def readField (w : UInt32) (i : Instruction) (f : Field) : Instruction :=
  let bits := f.extract w
  match f with
  | .rs => { i with rs := some (.ofBits bits) }
  | .rt => { i with rt := some (.ofBits bits) }
  | .rd => { i with rd := some (.ofBits bits) }
  | .shift => { i with shift := some bits.toUInt8 }
  | .imm => { i with imm := some bits.toUInt16.toInt16 }
  | .offset => { i with offset := some (bits.toUInt16.toInt16.toInt32 <<< 2) }
  | .target => { i with target := some (bits <<< 2) }
  | .system => { i with system := some (.ofBits bits) }
  | .cache => { i with cache := some (.ofBits bits) }

/-- The kind with the operands that a word holds in the fields of its layout. -/
def ofFields (k : Kind) (w : UInt32) : Instruction :=
  k.layout.fields.foldl (readField w) (ofKind k)

end Instruction

/-- A word in which every set bit belongs to the selector of the kind or to a
field of its layout. -/
def Canonical (k : Kind) (w : UInt32) : Prop := w &&& ~~~ k.operandMask = k.selector

instance (k : Kind) (w : UInt32) : Decidable (Canonical k w) := inferInstanceAs (Decidable (_ = _))

/-- **The instruction of a word.**  Zero is the canonical `nop`. -/
def decode (w : UInt32) : Except DecodeError Instruction :=
  if w = 0 then .ok .nop
  else
    match Kind.ofWord w with
    | .error e => .error e
    | .ok k =>
      let i := Instruction.ofFields k w
      -- bits outside the fields are lost on the way back
      if i.encode.toOption = some w then .ok i else .error (.nonCanonical w)

end Mips
end PadScout
