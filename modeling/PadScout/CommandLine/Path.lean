import PadScout.SystemError

/-! # Paths

A path is followed name by name.  It sets out from the root if a slash comes
first, and from the working directory otherwise.  All names but the last one lead
through directories, and so do a dot, which stays where it is, and two dots, which
lead back to the directory around.  Slashes in a row count as one.

`Path.ofString?` takes a text apart.  Whether there is anything at the end of a
path is not asked here.
-/
namespace PadScout
namespace CommandLine

/-- How a path ends. -/
inductive PathEnd where
  /-- In a name that any entry of a directory may have. -/
  | name (name : String)
  /-- In a name and a slash, which is right for a directory only. -/
  | closed (name : String)
  /-- In the directory that has been reached. -/
  | here
deriving DecidableEq

/-- A path, taken apart. -/
structure Path where
  /-- Whether it sets out from the root. -/
  fromRoot : Bool
  /-- The directories that it leads through. -/
  through : List String
  last : PathEnd
deriving DecidableEq

namespace Path

/-- The bytes of the longest path. -/
def maxBytes : Nat := 4095

/-- The bytes of the longest name in a directory. -/
def maxNameBytes : Nat := 255

/-- Whether a name does not stand for an entry of a directory. -/
def isDots (name : String) : Bool := name = "." || name = ".."

/-- The names in a path, dots among them. -/
def names (text : String) : List String := (text.splitOn "/").filter (· ≠ "")

/-- **The path of a text**, which must be neither empty nor too long. -/
def ofString? (text : String) : Except SystemError Path :=
  if text = "" then .error .noSuchFile
  else if maxBytes < text.utf8ByteSize then .error .nameTooLong
  else
    let fromRoot := text.startsWith "/"
    match (names text).getLast? with
    | none => .ok ⟨fromRoot, [], .here⟩
    | some name =>
      if isDots name then .ok ⟨fromRoot, names text, .here⟩
      else .ok ⟨fromRoot, (names text).dropLast,
        if text.endsWith "/" then .closed name else .name name⟩

end Path

end CommandLine
end PadScout
