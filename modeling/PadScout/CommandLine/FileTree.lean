import PadScout.CommandLine.Path

/-! # File trees

The files of a simulated machine, each at a place, which is given by the names on
the way from the root.  Around the working directory there is what a machine
cannot do without: a few directories and devices.

A path is followed in two ways.  `FileTree.lookUp?` finds what is at its end, for
reading.  `FileTree.target?` finds where writing would go: a file that is missing
is made then, if only its directory is there.
-/
namespace PadScout
namespace CommandLine

/-- Something to read and write that keeps nothing. -/
inductive Device where
  /-- Gives nothing and takes everything. -/
  | null
  /-- Gives zeros without end and takes everything. -/
  | zero
  /-- Gives what nobody can foresee, without end, and takes everything. -/
  | random
  /-- Gives zeros without end and never has room. -/
  | full
  /-- What the program prints. -/
  | output
  /-- What the program prints as errors. -/
  | errors
deriving DecidableEq

namespace Device

/-- All that a device gives.  What has no end fits into no memory. -/
def read : Device → Except SystemError ByteArray
  | null | output | errors => .ok .empty
  | zero | random | full => .error .outOfMemory

/-- A device mapped to memory.  Only one knows how, and its size is said to be 0. -/
def map : Device → Except SystemError ByteArray
  | zero => .ok .empty
  | _ => .error .noSuchDevice

/-- The devices of a machine and their places. -/
def all : List (List String × Device) :=
  [(["dev", "null"], null), (["dev", "zero"], zero), (["dev", "full"], full),
    (["dev", "random"], random), (["dev", "urandom"], random), (["dev", "stdin"], null),
    (["dev", "stdout"], output), (["dev", "stderr"], errors)]

end Device

/-- What is at a place. -/
inductive Node where
  | directory
  | file (content : ByteArray)
  | device (d : Device)
  | nothing

/-- Where writing goes. -/
inductive Target where
  | file (place : List String)
  | device (d : Device)

/-- Files and their places. -/
structure FileTree where
  files : List (List String × ByteArray) := []

namespace FileTree

/-- The working directory. -/
def home : List String := ["tmp", "home"]

/-- Directories that are there without files in them. -/
def directories : List (List String) :=
  [home, ["bin"], ["boot"], ["dev"], ["dev", "shm"], ["etc"], ["home"], ["lib"], ["opt"], ["proc"],
    ["root"], ["run"], ["sbin"], ["srv"], ["sys"], ["usr"], ["usr", "bin"], ["usr", "lib"],
    ["var"], ["var", "tmp"]]

/-- Files under their names in the working directory. -/
def ofList (files : List (String × ByteArray)) : FileTree :=
  ⟨files.map fun f => (home ++ Path.names f.1, f.2)⟩

/-- What is at a place.  Around whatever there is, there are directories. -/
def node (t : FileTree) (place : List String) : Node :=
  match t.files.lookup place, Device.all.lookup place with
  | some content, _ => .file content
  | none, some d => .device d
  | none, none =>
    if (directories ++ t.files.map Prod.fst).any place.isPrefixOf then .directory else .nothing

/-- Changes what is at a place among files; a file that is missing is made. -/
def put (place : List String) (f : ByteArray → ByteArray) :
    List (List String × ByteArray) → List (List String × ByteArray)
  | [] => [(place, f .empty)]
  | g :: gs => if g.1 = place then (place, f g.2) :: gs else g :: put place f gs

/-- Changes the content of a file, which is made if it is missing. -/
def change (t : FileTree) (place : List String) (f : ByteArray → ByteArray) : FileTree :=
  ⟨put place f t.files⟩

/-- After a change there is a file, with what came of its content. -/
theorem lookup_put_self (place : List String) (f : ByteArray → ByteArray)
    (files : List (List String × ByteArray)) :
    (put place f files).lookup place = some (f ((files.lookup place).getD .empty)) := by
  induction files with
  | nil => simp [put]
  | cons g gs ih =>
    obtain ⟨name, content⟩ := g
    by_cases h : name = place
    · simp [put, h]
    · have hne : (place == name) = false := by simpa using fun e => h e.symm
      simp [put, List.lookup_cons, h, hne, ih]

/-- A change leaves everything else as it was. -/
theorem lookup_put_of_ne {place other : List String} (h : other ≠ place)
    (f : ByteArray → ByteArray) (files : List (List String × ByteArray)) :
    (put place f files).lookup other = files.lookup other := by
  have hne : (other == place) = false := by simpa using h
  induction files with
  | nil => simp [put, List.lookup_cons, hne]
  | cons g gs ih =>
    obtain ⟨name, content⟩ := g
    by_cases hg : name = place
    · simp [put, List.lookup_cons, hg, hne]
    · simp [put, List.lookup_cons, hg, ih]

/-- A file that was changed is there. -/
theorem node_change_self (t : FileTree) (place : List String) (f : ByteArray → ByteArray) :
    (t.change place f).node place = .file (f ((t.files.lookup place).getD .empty)) := by
  unfold node change
  rw [lookup_put_self]

/-! ## Following paths -/

/-- What a directory has under a name. -/
def find? (t : FileTree) (directory : List String) (name : String) : Except SystemError Node :=
  if Path.maxNameBytes < name.utf8ByteSize then .error .nameTooLong
  else .ok (t.node (directory ++ [name]))

/-- Goes from a directory to one beside it.  The root is around itself. -/
def enter? (t : FileTree) (directory : List String) (name : String) :
    Except SystemError (List String) :=
  if name = "." then .ok directory
  else if name = ".." then .ok directory.dropLast
  else
    match t.find? directory name with
    | .error e => .error e
    | .ok .directory => .ok (directory ++ [name])
    | .ok .nothing => .error .noSuchFile
    | .ok _ => .error .notDirectory

/-- The directory in which a path ends. -/
def follow? (t : FileTree) (p : Path) : Except SystemError (List String) :=
  p.through.foldlM t.enter? (if p.fromRoot then [] else home)

/-- **What is at the end of a path.** -/
def lookUp? (t : FileTree) (path : String) : Except SystemError Node := do
  let p ← Path.ofString? path
  let directory ← t.follow? p
  match p.last with
  | .here => return .directory
  | .closed name =>
    let _ ← t.enter? directory name
    return .directory
  | .name name =>
    match ← t.find? directory name with
    | .nothing => .error .noSuchFile
    | n => return n

/-- **Where writing to a path goes.**  What can only be a directory is refused
without a look.  Where processes are shown, nothing can be made. -/
def target? (t : FileTree) (path : String) : Except SystemError Target := do
  let p ← Path.ofString? path
  let directory ← t.follow? p
  match p.last with
  | .here | .closed _ => .error .isDirectory
  | .name name =>
    match ← t.find? directory name with
    | .directory => .error .isDirectory
    | .device d => return .device d
    | .file _ => return .file (directory ++ [name])
    | .nothing =>
      if directory = ["proc"] then .error .noSuchFile else return .file (directory ++ [name])

/-- All bytes of what is at the end of a path. -/
def read? (t : FileTree) (path : String) : Except SystemError ByteArray := do
  match ← t.lookUp? path with
  | .file content => return content
  | .device d => d.read
  | .directory => .error .isDirectory
  | .nothing => .error .noSuchFile

/-- What is at the end of a path, mapped to memory. -/
def map? (t : FileTree) (path : String) : Except SystemError ByteArray := do
  match ← t.lookUp? path with
  | .file content => return content
  | .device d => d.map
  | .directory => .error .noSuchDevice
  | .nothing => .error .noSuchFile

end FileTree

end CommandLine
end PadScout
