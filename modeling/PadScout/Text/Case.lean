import PadScout.Text.Letter

/-! # Lower case

Two ways to put a text into lower case.  `Case.asciiLower` changes the letters
A to Z and nothing else.  `Case.lower` follows the Unicode standard.  There a
letter is changed by itself, with two exceptions: the capital I with a dot
becomes two characters, and a capital sigma becomes a final sigma where a word
ends, that is where a letter stands before it and none behind it, not counting
marks in between.
-/
namespace PadScout
namespace Case

/-- The letters A to Z in lower case, all else as it is. -/
def asciiLowerChar (c : Char) : Char :=
  if 'A' ≤ c ∧ c ≤ 'Z' then Char.ofNat (c.toNat + 32) else c

def asciiLower (s : List Char) : List Char := s.map asciiLowerChar

/-- Whether two texts are equal but for the case of the letters A to Z. -/
def asciiEqual (s t : List Char) : Bool := asciiLower s == asciiLower t

/-- The lower-case form of a character by itself. -/
def lowerChar (c : Char) : List Char :=
  if c.toNat < 0x80 then [asciiLowerChar c]
  -- the only letter that does not stay one character
  else if c = '\u0130' then ['i', '\u0307']
  else
    match Letter.lowerRanges.find? fun r =>
        r.first ≤ c.toNat && c.toNat ≤ r.last && (c.toNat - r.first) % r.step == 0 with
    | some r => [Char.ofNat (c.toNat + r.shift).toNat]
    | none => [c]

/-- Whether the next character, marks passed over, is a letter with case. -/
def meetsCased : List Char → Bool
  | [] => false
  | c :: cs =>
    if Letter.inRanges Letter.ignorableRanges c.toNat then meetsCased cs
    else Letter.inRanges Letter.casedRanges c.toNat

/-- Lower case of the rest of a text, given the characters before it, nearest
first. -/
def lowerAfter (before : List Char) : List Char → List Char
  | [] => []
  | c :: cs =>
    (if c = 'Σ' then
      (if meetsCased before && !meetsCased cs then ['ς'] else ['σ'])
    else lowerChar c) ++ lowerAfter (c :: before) cs

/-- A text in lower case. -/
def lower (s : List Char) : List Char := lowerAfter [] s

end Case
end PadScout
