import PadScout.Journal

/-! # Colours

Lines on a terminal are coloured by escape sequences, if at all.  Each kind of
text has one style.
-/
namespace PadScout
namespace CommandLine

/-- Whether to colour, from what the surroundings ask for: whether output goes to
a terminal, the values of `CLICOLOR` and `CLICOLOR_FORCE`, and whether `NO_COLOR`
is set. -/
def wantsColour (terminal : Bool) (colour force : Option String) (noColour : Bool) : Bool :=
  match force with
  | some value => if value ≠ "0" then true else !noColour && terminal && colour ≠ some "0"
  | none => !noColour && terminal && colour ≠ some "0"

/-- The kinds of text. -/
inductive Style where
  | progress | success | failure | absence | address | faint
  | level (l : Level)
deriving DecidableEq

namespace Style

/-- The codes of a style. -/
def codes : Style → String
  | progress => "34"
  | success => "32"
  | failure => "31"
  | absence => "33"
  | address => "36"
  | faint => "2"
  | level .error => "1;31"
  | level .warn => "1;33"
  | level .info => "1;32"
  | level .debug => "1;34"
  | level .trace => "1;35"

/-- A text in a style. -/
def paint (colour : Bool) (s : Style) (text : String) : String :=
  if colour then "\x1b[" ++ s.codes ++ "m" ++ text ++ "\x1b[0m" else text

end Style

end CommandLine
end PadScout
