import PadScout.Text.Hex

/-! # Dumps

Words of memory are listed in rows.  A row starts with the byte offset of its
first word and shows every word in its eight digits.
-/
namespace PadScout
namespace Dump

/-- **The row of the words from an index on.** -/
def row (index : Nat) (words : List UInt32) : String :=
  Hex.wide 8 (4 * index) ++ ":" ++ String.join (words.map fun w => " " ++ Hex.word w)

end Dump
end PadScout
