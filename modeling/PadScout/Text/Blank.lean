/-! # Blanks and lines

Blanks are the characters with the Unicode property of white space; they
separate the words of a line.  A line ends with a line feed, and a carriage
return right before the line feed belongs to the end.
-/
namespace PadScout
namespace Blank

/-- Whether a character is white space. -/
def isBlank (c : Char) : Bool :=
  let n := c.toNat
  decide (0x09 ≤ n ∧ n ≤ 0x0D) || n == 0x20 || n == 0x85 || n == 0xA0 || n == 0x1680 ||
    decide (0x2000 ≤ n ∧ n ≤ 0x200A) || n == 0x2028 || n == 0x2029 || n == 0x202F ||
    n == 0x205F || n == 0x3000

/-- Closes the word that has been read, last character first. -/
def close (word : List Char) (rest : List (List Char)) : List (List Char) :=
  if word.isEmpty then rest else word.reverse :: rest

/-- The words of a text that goes on a word already begun. -/
def wordsAfter (word : List Char) : List Char → List (List Char)
  | [] => close word []
  | c :: cs => if isBlank c then close word (wordsAfter [] cs) else wordsAfter (c :: word) cs

/-- The words of a text: its longest runs without blanks. -/
def words (s : List Char) : List (List Char) := wordsAfter [] s

/-- A text without the blanks at its end. -/
def trimEnd (s : List Char) : List Char := (s.reverse.dropWhile isBlank).reverse

/-- Whether there is nothing but blanks. -/
def allBlank (s : List Char) : Bool := s.all isBlank

/-- The end of a line that has been read, last character first. -/
def endLine : List Char → List Char
  | '\r' :: line => line.reverse
  | line => line.reverse

/-- The lines of a text that goes on a line already begun. -/
def linesAfter (line : List Char) : List Char → List (List Char)
  | [] => if line.isEmpty then [] else [line.reverse]
  | c :: cs => if c = '\n' then endLine line :: linesAfter [] cs else linesAfter (c :: line) cs

/-- The lines of a text.  A text that ends with a line feed has no empty line
after it. -/
def lines (s : List Char) : List (List Char) := linesAfter [] s

end Blank
end PadScout
