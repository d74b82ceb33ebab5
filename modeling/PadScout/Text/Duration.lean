import PadScout.Text.Decimal

/-! # Durations

Spans of time are shown in milliseconds below one second and in seconds from
there on, with two places after the point.  The number of milliseconds is a
binary floating-point number; its text is the decimal nearest to the exact
value of that number, a tie going to the even neighbour.
-/
namespace PadScout

/-- A span of time. -/
structure Duration where
  nanoseconds : Nat
deriving DecidableEq

namespace Duration

def ofMilliseconds (n : Nat) : Duration := ⟨1000000 * n⟩

/-- The quotient of two numbers, rounded to nearest; a tie goes to the even
neighbour. -/
def roundDiv (n d : Nat) : Nat :=
  let q := n / d
  let r := n % d
  if 2 * r < d then q else if d < 2 * r then q + 1 else if q % 2 = 0 then q else q + 1

/-- The exact value of a nonnegative floating-point number, times a hundred and
rounded to a whole number. -/
def hundredths (x : Float) : Nat :=
  let bits := x.toBits.toNat
  let exponent := bits / 0x10000000000000 % 0x800
  let fraction := bits % 0x10000000000000
  let mantissa := if exponent = 0 then fraction else fraction + 0x10000000000000
  let power := max exponent 1
  -- at an exponent of 1075 the mantissa counts ones
  if 1075 ≤ power then 100 * mantissa <<< (power - 1075)
  else roundDiv (100 * mantissa) (1 <<< (1075 - power))

/-- A number of hundredths with a point before its last two digits. -/
def placesText (n : Nat) : String :=
  let rest := n % 100
  Decimal.text (n / 100) ++ "." ++ (if rest < 10 then "0" else "") ++ Decimal.text rest

/-- The milliseconds of a duration: whole seconds and the rest are converted
apart. -/
def milliseconds (d : Duration) : Float :=
  let seconds := (UInt64.ofNat (d.nanoseconds / 1000000000)).toFloat
  let rest := (UInt64.ofNat (d.nanoseconds % 1000000000)).toFloat
  (seconds + rest / 1000000000.0) * 1000.0

def text (d : Duration) : String :=
  let ms := d.milliseconds
  if ms < 1000.0 then placesText (hundredths ms) ++ "ms"
  else placesText (hundredths (ms / 1000.0)) ++ "s"

end Duration

end PadScout
