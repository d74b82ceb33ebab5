import PadScout.Text.Decimal
import PadScout.Text.Hex

/-! # Tokens of JSON

The first half of reading JSON: from characters to tokens.  The lexer looks at
one character at a time and keeps in a `Scan` what it has to remember;
`Scan.next` is the whole of it, and `tokens?` runs it over a text.

Texts are read as far as anybody may want them.  A `\u` escape may name half of
a surrogate pair, and halves that do not form a pair stand for no text at all;
such a text is a token all the same, without a value.  Numbers keep their
spelling, so that a reader can tell whole numbers from others.
-/
namespace PadScout
namespace Json

/-- A number as it is spelled: sign, whole part, and what follows it. -/
structure Numeral where
  negative : Bool
  whole : Nat
  /-- The point and the digits after it, if there are any. -/
  fraction : List Char
  /-- The letter, the sign and the digits of the exponent, if there are any. -/
  exponent : List Char
deriving DecidableEq

namespace Numeral

def ofNat (n : Nat) : Numeral := ⟨false, n, [], []⟩

/-- The value of a numeral that is nothing but digits. -/
def natural? (n : Numeral) : Option Nat :=
  if n.negative = false ∧ n.fraction = [] ∧ n.exponent = [] then some n.whole else none

end Numeral

/-- A token.  A text without a value holds an unpaired surrogate. -/
inductive Token where
  | openArray | closeArray | openObject | closeObject | comma | colon
  | null
  | bool (value : Bool)
  | number (n : Numeral)
  | text (value : Option (List Char))
deriving DecidableEq

/-! ## Texts -/

/-- Puts surrogate pairs together and makes characters of code points; `none` if
a surrogate stands alone. -/
def charsOfUnits : List Nat → Option (List Char)
  | [] => some []
  | u :: us =>
    if 0xD800 ≤ u ∧ u < 0xDC00 then
      match us with
      | [] => none
      | v :: vs =>
        if 0xDC00 ≤ v ∧ v < 0xE000 then
          (charsOfUnits vs).map (Char.ofNat (0x10000 + 0x400 * (u - 0xD800) + (v - 0xDC00)) :: ·)
        else none
    else if 0xDC00 ≤ u ∧ u < 0xE000 then none
    else (charsOfUnits us).map (Char.ofNat u :: ·)

/-- What a letter after a backslash stands for. -/
def escapeOf : Char → Option Nat
  | '"' => some 0x22
  | '\\' => some 0x5C
  | '/' => some 0x2F
  | 'b' => some 0x08
  | 'f' => some 0x0C
  | 'n' => some 0x0A
  | 'r' => some 0x0D
  | 't' => some 0x09
  | _ => none

/-! ## The lexer -/

/-- Which part of a number was read last. -/
inductive Part where
  | sign | whole | point | fraction | mark | markSign | exponent
deriving DecidableEq

/-- What the lexer remembers between two characters.  Units of a text are kept
last first. -/
inductive Scan where
  | between
  | text (units : List Nat)
  | escape (units : List Nat)
  | hex (units : List Nat) (value left : Nat)
  | word (rest : List Char) (token : Token)
  | number (part : Part) (n : Numeral)
deriving DecidableEq

/-- Whether a character may stand between tokens. -/
def isSpace (c : Char) : Bool := c == ' ' || c == '\n' || c == '\t' || c == '\r'

namespace Scan

/-- The first character of a token, or a space. -/
def begin (c : Char) : Option (Scan × List Token) :=
  if isSpace c then some (.between, [])
  else
    match c with
    | '[' => some (.between, [.openArray])
    | ']' => some (.between, [.closeArray])
    | '\x7b' => some (.between, [.openObject])
    | '\x7d' => some (.between, [.closeObject])
    | ',' => some (.between, [.comma])
    | ':' => some (.between, [.colon])
    | '"' => some (.text [], [])
    | 'n' => some (.word ['u', 'l', 'l'] .null, [])
    | 't' => some (.word ['r', 'u', 'e'] (.bool true), [])
    | 'f' => some (.word ['a', 'l', 's', 'e'] (.bool false), [])
    | '-' => some (.number .sign ⟨true, 0, [], []⟩, [])
    | c =>
      match Decimal.digit? c with
      | some d => some (.number .whole (.ofNat d), [])
      | none => none

/-- The next character of a number.  `none` in the second place says that the
character does not belong to the number any more. -/
def nextOfNumber (part : Part) (n : Numeral) (c : Char) : Option (Option Scan) :=
  let digit := Decimal.digit? c
  let fractionEnd := n.fraction ++ [c]
  let exponentEnd := n.exponent ++ [c]
  let marked : Option Scan := some (.number .mark { n with exponent := [c] })
  match part with
  | .sign =>
    match digit with
    | some d => some (some (.number .whole { n with whole := d }))
    | none => none
  | .whole =>
    match digit with
    | some d =>
      -- a whole part that starts with zero ends with it
      if n.whole = 0 then some none
      else some (some (.number .whole { n with whole := 10 * n.whole + d }))
    | none =>
      if c = '.' then some (some (.number .point { n with fraction := [c] }))
      else if c = 'e' ∨ c = 'E' then some marked
      else some none
  | .point =>
    match digit with
    | some _ => some (some (.number .fraction { n with fraction := fractionEnd }))
    | none => none
  | .fraction =>
    match digit with
    | some _ => some (some (.number .fraction { n with fraction := fractionEnd }))
    | none => if c = 'e' ∨ c = 'E' then some marked else some none
  | .mark =>
    match digit with
    | some _ => some (some (.number .exponent { n with exponent := exponentEnd }))
    | none =>
      if c = '+' ∨ c = '-' then some (some (.number .markSign { n with exponent := exponentEnd }))
      else none
  | .markSign =>
    match digit with
    | some _ => some (some (.number .exponent { n with exponent := exponentEnd }))
    | none => none
  | .exponent =>
    match digit with
    | some _ => some (some (.number .exponent { n with exponent := exponentEnd }))
    | none => some none

/-- Whether a number may end after a part. -/
def mayEnd : Part → Bool
  | .whole | .fraction | .exponent => true
  | .sign | .point | .mark | .markSign => false

/-- **One character**: what is remembered afterwards, and the tokens that are
complete.  `none` if the character cannot stand here. -/
def next (s : Scan) (c : Char) : Option (Scan × List Token) :=
  match s with
  | .between => begin c
  | .text units =>
    if c = '"' then some (.between, [.text (charsOfUnits units.reverse)])
    else if c = '\\' then some (.escape units, [])
    else if c.toNat < 0x20 then none
    else some (.text (c.toNat :: units), [])
  | .escape units =>
    if c = 'u' then some (.hex units 0 4, [])
    else
      match escapeOf c with
      | some u => some (.text (u :: units), [])
      | none => none
  | .hex units value left =>
    match Hex.digit? c with
    | none => none
    | some d =>
      if left ≤ 1 then some (.text ((16 * value + d) :: units), [])
      else some (.hex units (16 * value + d) (left - 1), [])
  | .word rest token =>
    match rest with
    | [] => none
    | e :: rest =>
      if c ≠ e then none
      else if rest = [] then some (.between, [token])
      else some (.word rest token, [])
  | .number part n =>
    match nextOfNumber part n c with
    | none => none
    | some (some s) => some (s, [])
    | some none => (begin c).map fun (s, tokens) => (s, .number n :: tokens)

/-- The tokens of a text that goes on what is remembered. -/
def run (s : Scan) : List Char → Option (List Token)
  | [] =>
    match s with
    | .between => some []
    | .number part n => if mayEnd part then some [.number n] else none
    | _ => none
  | c :: cs =>
    match s.next c with
    | none => none
    | some (s, tokens) => (run s cs).map (tokens ++ ·)

end Scan

/-- **The tokens of a text.** -/
def tokens? (text : List Char) : Option (List Token) := Scan.between.run text

end Json
end PadScout
