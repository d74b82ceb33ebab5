import PadScout.Text.Hex
import PadScout.Text.Visible

/-! # Quoted text

A text between quotes in a message.  Quotes and backslashes are marked by a
backslash, and characters that cannot be shown by themselves are written by
name or by number.
-/
namespace PadScout
namespace Quoted

/-- A character inside quotes. -/
def charText (c : Char) : List Char :=
  if c = '\x00' then ['\\', '0']
  else if c = '\t' then ['\\', 't']
  else if c = '\r' then ['\\', 'r']
  else if c = '\n' then ['\\', 'n']
  else if c = '"' then ['\\', '"']
  else if c = '\\' then ['\\', '\\']
  else if Visible.isVisible c then [c]
  else ['\\', 'u', '\x7b'] ++ Hex.digits c.toNat ++ ['\x7d']

/-- A text between quotes. -/
def text (s : List Char) : String := String.ofList ('"' :: s.flatMap charText ++ ['"'])

end Quoted
end PadScout
