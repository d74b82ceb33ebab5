import PadScout.Host.Kernel
import PadScout.Host.ProcessTable

/-! # Simulated kernels

The files that a kernel would show if its processes were those of a table.  All
memory is shared between processes, and reading it does not depend on what the
process itself may do with it.
-/
namespace PadScout

namespace Block

/-- The columns that describe a block. -/
def columns (b : Block) : Mapping.Columns :=
  let flag (set : Bool) (c : Char) : Char := if set then c else '-'
  let p := b.region.protection
  { start := b.region.base.value
    stop := b.region.stop.value
    permissions := [flag p.read 'r', flag p.write 'w', flag p.execute 'x', 's']
    offset := "00000000".toList
    device := "00:01".toList
    inode := "1024".toList
    path := if b.region.name.isEmpty then none else some b.region.name.toList }

/-- One blank between two columns, and many before a path. -/
def spacing (b : Block) : Mapping.Spacing :=
  { width := 0
    afterRange := [' ']
    afterPermissions := [' ']
    afterOffset := [' ']
    afterDevice := [' ']
    afterInode := if b.columns.path.isSome then List.replicate 19 ' ' else [] }

/-- The line that describes a block. -/
def line (b : Block) : List Char := b.columns.line b.spacing

end Block

namespace Process

/-- The size of a page of memory in bytes. -/
def pageSize : Nat := 4096

/-- **An emulator**: a process that holds an image in whole pages, mapped from a
file, and nothing else. -/
def emulator (pid : Pid) (name : String) (base : Address) (file : String) (p : Protection)
    (m : Image) : Process :=
  let pages := (4 * m.size + pageSize - 1) / pageSize
  let rest := Array.replicate (pages * pageSize - 4 * m.size) (0 : UInt8)
  { pid, ownName := some name
    blocks := [⟨⟨base, UInt64.ofNat (pages * pageSize), p, file⟩, m.toBytes ++ ⟨rest⟩⟩] }

end Process

namespace ProcessTable

/-- A file of a process. -/
def processFile (t : ProcessTable) (pid : Pid) (text : Process → List Char) :
    Except SystemError ByteArray :=
  match t.find? pid with
  | some p => .ok (String.ofList (text p)).toUTF8
  | none => .error .noSuchFile

/-- **The kernel of the processes of a table.** -/
def kernel (t : ProcessTable) : Kernel Id Pid where
  entries := .ok ("self" :: t.processes.map fun p => Decimal.text p.pid.toNat)
  openMemory pid := (t.find? pid).map fun _ => pid
  pidOf := id
  isAlive pid := (t.find? pid).isSome
  nameFile pid := t.processFile pid fun p => (p.name?.getD "").toList ++ ['\n']
  mapsFile pid := t.processFile pid fun p => p.blocks.flatMap fun b => b.line ++ ['\n']
  readMemory pid address length :=
    (t.find? pid).bind fun p => p.blocks.findSome? fun b => b.read? address length
  time := ⟨0⟩

end ProcessTable
end PadScout
