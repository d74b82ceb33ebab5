import PadScout.Host.Question

/-! # Process tables

A table of processes in memory, with what each of them has mapped, that answers
every question about processes by itself.  It stands in for the operating system
where there is no emulator to attach to.  Processes can be started, killed and
removed, their memory can be changed, and questions can be made to fail.
-/
namespace PadScout

/-- Bytes that a process has mapped.  The region may claim another size than
there are bytes. -/
structure Block where
  region : Region
  bytes : ByteArray

namespace Block

/-- Where a stretch of memory starts in a block that wholly holds it. -/
def offset? (b : Block) (address : Address) (length : Nat) : Option Nat :=
  let base := b.region.base.value.toNat
  let start := address.value.toNat
  if base ≤ start ∧ start + length ≤ base + b.bytes.size then some (start - base) else none

/-- The bytes of a stretch of memory, if the block wholly holds it. -/
def read? (b : Block) (address : Address) (length : Nat) : Option (Bytes length) :=
  match b.offset? address length with
  | none => none
  | some offset =>
    let bytes := b.bytes.extract offset (offset + length)
    if h : bytes.size = length then some ⟨bytes, h⟩ else none

/-- Writes a word, if the block wholly holds it. -/
def write (b : Block) (address : Address) (word : UInt32) : Block :=
  match b.offset? address 4 with
  | none => b
  | some offset =>
    let put (bytes : ByteArray) (i : Nat) : ByteArray :=
      bytes.set! (offset + i) (byteOfWord word (UInt32.ofNat i))
    { b with bytes := [0, 1, 2, 3].foldl put b.bytes }

/-- Puts a block behind all blocks of no greater base. -/
def insert (b : Block) : List Block → List Block
  | [] => [b]
  | c :: cs => if b.region.base < c.region.base then b :: c :: cs else c :: insert b cs

end Block

/-- A process of a table. -/
structure Process where
  pid : Pid
  /-- The name that it goes by; without one, that of its first module. -/
  ownName : Option String := none
  alive : Bool := true
  openable : Bool := true
  /-- Whether it fails to say what its regions are. -/
  hidesRegions : Bool := false
  /-- Whether it fails to say what its modules are. -/
  hidesModules : Bool := false
  blocks : List Block := []
  modules : List Module := []

namespace Process

/-- What is said about something that the process hides. -/
def disclose {α : Type} (hidden : Bool) (a : α) : Except MemoryError α :=
  if hidden then .error (.malformedRegion "injected") else .ok a

def listRegions (p : Process) : Except MemoryError (List Region) :=
  disclose p.hidesRegions (p.blocks.map Block.region)

def listModules (p : Process) : Except MemoryError (List Module) :=
  disclose p.hidesModules p.modules

def name? (p : Process) : Option String :=
  match p.ownName, p.listModules with
  | some name, _ => some name
  | none, .ok (m :: _) => some m.name
  | none, _ => none

/-- The bytes of a stretch of memory, from the first readable block that wholly
holds it. -/
def read? (p : Process) (address : Address) (length : Nat) : Option (Bytes length) :=
  (p.blocks.filter fun b => b.region.isReadable).findSome? fun b => b.read? address length

def addBlock (b : Block) (p : Process) : Process := { p with blocks := p.blocks ++ [b] }

def insertBlock (b : Block) (p : Process) : Process := { p with blocks := b.insert p.blocks }

def removeBlocks (base : Address) (p : Process) : Process :=
  { p with blocks := p.blocks.filter fun b => b.region.base ≠ base }

def addModule (m : Module) (p : Process) : Process := { p with modules := p.modules ++ [m] }

/-- Writes a word to every block that wholly holds it. -/
def write (address : Address) (word : UInt32) (p : Process) : Process :=
  { p with blocks := p.blocks.map fun b => b.write address word }

end Process

/-- Processes in the order in which they were started. -/
structure ProcessTable where
  processes : List Process := []
  /-- Whether it fails to say which processes there are. -/
  hidesProcesses : Bool := false

namespace ProcessTable

/-- The first process of a number. -/
def find? (t : ProcessTable) (pid : Pid) : Option Process :=
  t.processes.find? fun p => p.pid == pid

def start (t : ProcessTable) (p : Process) : ProcessTable :=
  { t with processes := t.processes ++ [p] }

/-- Removes all processes of a number. -/
def remove (t : ProcessTable) (pid : Pid) : ProcessTable :=
  { t with processes := t.processes.filter fun p => p.pid ≠ pid }

/-- Changes the first process of a number. -/
def changeFirst (pid : Pid) (change : Process → Process) : List Process → List Process
  | [] => []
  | p :: ps => if p.pid = pid then change p :: ps else p :: changeFirst pid change ps

/-- Changes a process. -/
def change (t : ProcessTable) (pid : Pid) (f : Process → Process) : ProcessTable :=
  { t with processes := changeFirst pid f t.processes }

/-- Asks a process, if it is there. -/
def ofProcess {α : Type} (t : ProcessTable) (pid : Pid) (f : Process → Except MemoryError α) :
    Except MemoryError α :=
  match t.find? pid with
  | some p => f p
  | none => .error (.processGone pid)

def read (t : ProcessTable) (pid : Pid) (address : Address) (length : Nat) :
    Except MemoryError (Bytes length) :=
  match (t.find? pid).filter Process.alive |>.bind fun p => p.read? address length with
  | some bytes => .ok bytes
  | none => .error (.readFailed address.value length)

/-- **The answers of a table.**  A process is opened by its number. -/
def answer (t : ProcessTable) : (q : Question Pid) → q.Answer
  | .processIds =>
    if t.hidesProcesses then .error (.processGone 0)
    else .ok ((t.processes.filter Process.alive).map Process.pid)
  | .attach pid => if (t.find? pid).any fun p => p.alive && p.openable then some pid else none
  | .isAlive pid => (t.find? pid).any Process.alive
  | .nameOf pid => (t.find? pid).bind Process.name?
  | .regions pid => t.ofProcess pid Process.listRegions
  | .modules pid => t.ofProcess pid Process.listModules
  | .read pid address length => t.read pid address length
  | .time => ⟨0⟩

end ProcessTable

end PadScout
