import PadScout.Json.Basic

/-! # Printing JSON

Values are printed for people: each element and member on a line of its own,
indented by two blanks for each level, and empty arrays and objects on one
line.  Texts are written as they are, but for quotes, backslashes and control
characters.
-/
namespace PadScout
namespace Json

/-- The four digits of a control character. -/
def controlText (c : Char) : List Char := ['\\', 'u'] ++ Hex.padded 4 c.toNat

/-- A character inside quotes. -/
def charText (c : Char) : List Char :=
  if c = '"' then ['\\', '"']
  else if c = '\\' then ['\\', '\\']
  else if c = '\x08' then ['\\', 'b']
  else if c = '\x0c' then ['\\', 'f']
  else if c = '\n' then ['\\', 'n']
  else if c = '\r' then ['\\', 'r']
  else if c = '\t' then ['\\', 't']
  else if c.toNat < 0x20 then controlText c
  else [c]

/-- A text between quotes; half a surrogate pair stands for a text without a
value. -/
def quoted : Option (List Char) → List Char
  | some s => '"' :: s.flatMap charText ++ ['"']
  | none => ['"', '\\', 'u', 'd', '8', '0', '0', '"']

namespace Numeral

/-- The spelling of a numeral. -/
def spelling (n : Numeral) : List Char :=
  (if n.negative then ['-'] else []) ++ Decimal.digits n.whole ++ n.fraction ++ n.exponent

end Numeral

/-- A new line, indented to a level. -/
def newline (level : Nat) : List Char := '\n' :: List.replicate (2 * level) ' '

mutual

/-- A value inside `level` arrays and objects. -/
def render (level : Nat) : Json → List Char
  | .null => ['n', 'u', 'l', 'l']
  | .bool true => ['t', 'r', 'u', 'e']
  | .bool false => ['f', 'a', 'l', 's', 'e']
  | .number n => n.spelling
  | .text s => quoted s
  | .array [] => ['[', ']']
  | .array (v :: vs) =>
    '[' :: newline (level + 1) ++ render (level + 1) v ++ renderElements (level + 1) vs ++
      newline level ++ [']']
  | .object [] => ['\x7b', '\x7d']
  | .object (m :: ms) =>
    '\x7b' :: newline (level + 1) ++ renderMember (level + 1) m ++ renderMembers (level + 1) ms ++
      newline level ++ ['\x7d']

/-- The elements behind the first one. -/
def renderElements (level : Nat) : List Json → List Char
  | [] => []
  | v :: vs => ',' :: newline level ++ render level v ++ renderElements level vs

/-- A name and its value. -/
def renderMember (level : Nat) : Option (List Char) × Json → List Char
  | (name, v) => quoted name ++ [':', ' '] ++ render level v

/-- The members behind the first one. -/
def renderMembers (level : Nat) : List (Option (List Char) × Json) → List Char
  | [] => []
  | m :: ms => ',' :: newline level ++ renderMember level m ++ renderMembers level ms

end

/-- **The printed form of a value.** -/
def pretty (v : Json) : String := String.ofList (render 0 v)

end Json
end PadScout
