import PadScout.Text.Decimal
import PadScout.Text.Hex

/-! # Numerals as they are read

Where a number is read from a text, a plus sign may stand before its digits, and
the number must stay below a limit.
-/
namespace PadScout
namespace Numeral

/-- A text without a plus sign at its start. -/
def withoutPlus : List Char → List Char
  | '+' :: rest => rest
  | s => s

/-- A number that is below a limit. -/
def below (limit : Nat) (n : Nat) : Option Nat := if n < limit then some n else none

/-- A decimal number below a limit. -/
def decimal? (limit : Nat) (s : List Char) : Option Nat :=
  (Decimal.ofDigits? (withoutPlus s)).bind (below limit)

/-- A hexadecimal number below a limit. -/
def hex? (limit : Nat) (s : List Char) : Option Nat :=
  (Hex.ofDigits? (withoutPlus s)).bind (below limit)

/-- A number below a limit, hexadecimal after `0x` and decimal otherwise. -/
def marked? (limit : Nat) : List Char → Option Nat
  | '0' :: 'x' :: digits => hex? limit digits
  | '0' :: 'X' :: digits => hex? limit digits
  | digits => decimal? limit digits

end Numeral
end PadScout
