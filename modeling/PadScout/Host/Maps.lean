import PadScout.Host.Region
import PadScout.Memory.Error
import PadScout.Text.Blank
import PadScout.Text.Numeral

/-! # Memory maps

The kernel describes the memory of a process by one line for each region: its
range, its permissions, an offset, a device, an inode and, for a mapped file,
the path, all separated by blanks.  `Mapping.ofLine?` reads such a line and
`Mapping.modules` puts the regions of each file together to modules.
-/
namespace PadScout

/-- A line of a memory map. -/
structure Mapping where
  start : UInt64
  stop : UInt64
  protection : Protection
  path : Option (List Char)
deriving DecidableEq

namespace Mapping

/-- A hexadecimal number of at most 64 bits. -/
def number? (s : List Char) : Option UInt64 := (Numeral.hex? UInt64.size s).map UInt64.ofNat

/-- Cuts a text at its first dash. -/
def cutDash : List Char → Option (List Char × List Char)
  | [] => none
  | c :: cs =>
    if c = '-' then some ([], cs)
    else
      match cutDash cs with
      | some (before, after) => some (c :: before, after)
      | none => none

/-- The two ends of a range. -/
def range? (s : List Char) : Option (UInt64 × UInt64) :=
  match cutDash s with
  | none => none
  | some (low, high) =>
    match number? low, number? high with
    | some low, some high => some (low, high)
    | _, _ => none

/-- **Reads a line of a memory map.**  The path is the sixth word. -/
def ofLine? (line : List Char) : Except MemoryError Mapping :=
  match Blank.words line with
  | range :: permissions :: rest =>
    -- offset, device and inode are passed over, whatever they are
    match range? range with
    | some (start, stop) => .ok ⟨start, stop, .ofColumn permissions, rest[3]?⟩
    | none => .error (.malformedRegion (String.ofList line))
  | _ => .error (.malformedRegion (String.ofList line))

/-- Reads lines up to the first that is malformed. -/
def ofLines? : List (List Char) → Except MemoryError (List Mapping)
  | [] => .ok []
  | line :: lines =>
    match ofLine? line with
    | .error e => .error e
    | .ok mapping =>
      match ofLines? lines with
      | .error e => .error e
      | .ok mappings => .ok (mapping :: mappings)

/-- Reads a memory map; lines without a word are passed over. -/
def ofText? (text : List Char) : Except MemoryError (List Mapping) :=
  ofLines? ((Blank.lines text).filter fun line => !Blank.allBlank line)

/-- The parts of a path between slashes. -/
def partsAfter (part : List Char) : List Char → List (List Char)
  | [] => [part.reverse]
  | c :: cs => if c = '/' then part.reverse :: partsAfter [] cs else partsAfter (c :: part) cs

/-- The name of the file that a path leads to: the last part that is not empty
and does not stand for the same directory.  A path to a parent directory leads
to no file. -/
def fileNameOf (path : List Char) : Option (List Char) :=
  match ((partsAfter [] path).filter fun part => part ≠ [] ∧ part ≠ ['.']).getLast? with
  | some name => if name = ['.', '.'] then none else some name
  | none => none

/-- The name of the mapped file.  A path in brackets stands for memory that is
no file. -/
def fileName? (m : Mapping) : Option (List Char) :=
  match m.path with
  | some ('[' :: _) => none
  | some path => fileNameOf path
  | none => none

/-- The region that a line describes. -/
def region (m : Mapping) : Region :=
  { base := ⟨m.start⟩
    size := m.stop - m.start
    protection := m.protection
    name := match m.path with
      | some path => String.ofList path
      | none => "" }

/-! ## Modules -/

/-- The span of a file in memory. -/
structure Span where
  name : List Char
  low : UInt64
  high : UInt64
deriving DecidableEq

/-- Widens the span of a file by one more range, or begins it behind the others. -/
def widen (name : List Char) (low high : UInt64) : List Span → List Span
  | [] => [⟨name, low, high⟩]
  | s :: spans =>
    if s.name = name then ⟨name, min s.low low, max s.high high⟩ :: spans
    else s :: widen name low high spans

/-- The spans of all mapped files, in the order in which they first appear. -/
def spans (mappings : List Mapping) : List Span :=
  mappings.foldl (fun spans m =>
    match m.fileName? with
    | some name => widen name m.start m.stop spans
    | none => spans) []

/-- **The modules of a memory map**: one for each file, from the lowest to the
highest address at which it is mapped. -/
def modules (mappings : List Mapping) : List Module :=
  (spans mappings).map fun s => ⟨String.ofList s.name, ⟨s.low⟩, s.high - s.low⟩

/-! ## Writing -/

/-- **The columns of a line.** -/
structure Columns where
  start : UInt64
  stop : UInt64
  permissions : List Char
  offset : List Char
  device : List Char
  inode : List Char
  /-- The path of a mapped file. -/
  path : Option (List Char)

/-- How columns are set out on a line. -/
structure Spacing where
  /-- The digits that an end of the range has at least. -/
  width : Nat
  afterRange : List Char
  afterPermissions : List Char
  afterOffset : List Char
  afterDevice : List Char
  /-- What stands before the path, or at the end of the line if there is none. -/
  afterInode : List Char

namespace Columns

/-- The column of the range. -/
def range (c : Columns) (width : Nat) : List Char :=
  Hex.padded width c.start.toNat ++ '-' :: Hex.padded width c.stop.toNat

/-- **The line** of columns. -/
def line (c : Columns) (s : Spacing) : List Char :=
  c.range s.width ++ (s.afterRange ++ (c.permissions ++ (s.afterPermissions ++
    (c.offset ++ (s.afterOffset ++ (c.device ++ (s.afterDevice ++
      (c.inode ++ (s.afterInode ++ c.path.getD [])))))))))

end Columns

end Mapping

end PadScout
