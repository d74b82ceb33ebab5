/-! # Hexadecimal text

Numbers are shown to people in lower-case hexadecimal: bare (`1f`), with the
`0x` mark (`0x1f`), or with leading zeros up to a fixed number of digits.  The
digits themselves are those of `Nat.toDigits`; this module only decides marks
and padding.  `ofDigits?` reads digits of either case back.
-/
namespace PadScout
namespace Hex

/-- The digits of `n`, without mark or padding. -/
def digits (n : Nat) : List Char := Nat.toDigits 16 n

/-- The digits of `n` with zeros in front of them, `width` in all if `n` has no
more than that. -/
def padded (width n : Nat) : List Char :=
  List.replicate (width - (digits n).length) '0' ++ digits n

/-- `1f`. -/
def bare (n : Nat) : String := String.ofList (digits n)

/-- `0x1f`. -/
def marked (n : Nat) : String := String.ofList ('0' :: 'x' :: digits n)

/-- `0000001f`, for a width of eight. -/
def wide (width n : Nat) : String := String.ofList (padded width n)

/-- `0x0000001f`, for a width of eight. -/
def markedWide (width n : Nat) : String := String.ofList ('0' :: 'x' :: padded width n)

/-- A machine word in all its eight digits. -/
def word (w : UInt32) : String := wide 8 w.toNat

/-- A machine word in all its eight digits, with the mark. -/
def markedWord (w : UInt32) : String := markedWide 8 w.toNat

/-- A signed number: the mark stands between the sign and the magnitude. -/
def signed (n : Int) : String :=
  if n < 0 then "-" ++ marked n.natAbs else marked n.natAbs

/-- The value of one hexadecimal digit. -/
def digit? (c : Char) : Option Nat :=
  if '0' ≤ c ∧ c ≤ '9' then some (c.toNat - '0'.toNat)
  else if 'a' ≤ c ∧ c ≤ 'f' then some (c.toNat - 'a'.toNat + 10)
  else if 'A' ≤ c ∧ c ≤ 'F' then some (c.toNat - 'A'.toNat + 10)
  else none

/-- The value of a run of digits that continues the value `acc`. -/
def ofDigitsFrom? (acc : Nat) : List Char → Option Nat
  | [] => some acc
  | c :: cs => (digit? c).bind fun d => ofDigitsFrom? (16 * acc + d) cs

/-- The value of a nonempty run of digits. -/
def ofDigits? : List Char → Option Nat
  | [] => none
  | c :: cs => ofDigitsFrom? 0 (c :: cs)

end Hex
end PadScout
