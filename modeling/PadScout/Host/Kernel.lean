import PadScout.Host.Maps
import PadScout.Host.Question

/-! # Answers of a kernel

A kernel shows its processes in files.  There is a directory with an entry for
each process, under its number.  Among the files of a process are its name, a
description of its memory and the memory itself.  `Kernel` is what is needed of
such files, and `Kernel.answer` puts the answers to questions together from it.
-/
namespace PadScout

/-- What a kernel shows of its processes.  `H` is an open file of memory. -/
structure Kernel (m : Type → Type) (H : Type) where
  /-- The names in the directory of all processes. -/
  entries : m (Except SystemError (List String))
  /-- Opens the memory of a process. -/
  openMemory : Pid → m (Option H)
  /-- Whose memory it is. -/
  pidOf : H → Pid
  isAlive : Pid → m Bool
  /-- The file with the name of a process. -/
  nameFile : Pid → m (Except SystemError ByteArray)
  /-- The file that describes the memory of a process. -/
  mapsFile : Pid → m (Except SystemError ByteArray)
  /-- As many bytes of memory as asked for, at least one. -/
  readMemory : H → Address → (length : Nat) → m (Option (Bytes length))
  /-- How long the clock has been running. -/
  time : m Duration

namespace Kernel

/-- The number of the process that an entry stands for; other entries have other
names. -/
def pid? (entry : String) : Option Pid :=
  (Numeral.decimal? UInt32.size entry.toList).map UInt32.ofNat

/-- The numbers of the processes among some entries, ascending. -/
def pids (entries : List String) : List Pid := (entries.filterMap pid?).mergeSort (· ≤ ·)

/-- The name in a name file: what is there before the blanks at the end. -/
def name? (file : Except SystemError ByteArray) : Option String :=
  match file.bind SystemError.readText with
  | .ok text => some (String.ofList (Blank.trimEnd text.toList))
  | .error _ => none

/-- The lines of a description of memory. -/
def mappings? (file : Except SystemError ByteArray) : Except MemoryError (List Mapping) :=
  match file.bind SystemError.readText with
  | .ok text => Mapping.ofText? text.toList
  | .error cause => .error (.system cause)

/-- **The answers of a kernel.**  Nothing can be wrong with reading no bytes. -/
def answer {m : Type → Type} [Monad m] {H : Type} (k : Kernel m H) :
    (q : Question H) → m q.Answer
  | .processIds => do
    match ← k.entries with
    | .ok entries => return .ok (pids entries)
    | .error cause => return .error (.system cause)
  | .attach pid => k.openMemory pid
  | .isAlive h => k.isAlive (k.pidOf h)
  | .nameOf h => name? <$> k.nameFile (k.pidOf h)
  | .regions h => (fun file => (mappings? file).map fun l => l.map Mapping.region) <$>
      k.mapsFile (k.pidOf h)
  | .modules h => (fun file => (mappings? file).map Mapping.modules) <$> k.mapsFile (k.pidOf h)
  -- the memory itself is not asked
  | .read _ _ 0 => return .ok ⟨.empty, rfl⟩
  | .read h address (length + 1) => do
    match ← k.readMemory h address (length + 1) with
    | some bytes => return .ok bytes
    | none => return .error (.readFailed address.value (length + 1))
  | .time => k.time

end Kernel
end PadScout
