/-! # Decimal text

Decimal numerals as they are printed, and as they are read back from a run of
digits.  Printing never pads; reading accepts leading zeros.
-/
namespace PadScout
namespace Decimal

/-- The digits of `n`. -/
def digits (n : Nat) : List Char := Nat.toDigits 10 n

def text (n : Nat) : String := String.ofList (digits n)

/-- The value of one digit. -/
def digit? (c : Char) : Option Nat :=
  if '0' ≤ c ∧ c ≤ '9' then some (c.toNat - '0'.toNat) else none

/-- The value of a run of digits that continues the value `acc`. -/
def ofDigitsFrom? (acc : Nat) : List Char → Option Nat
  | [] => some acc
  | c :: cs => (digit? c).bind fun d => ofDigitsFrom? (10 * acc + d) cs

/-- The value of a nonempty run of digits. -/
def ofDigits? : List Char → Option Nat
  | [] => none
  | c :: cs => ofDigitsFrom? 0 (c :: cs)

end Decimal
end PadScout
