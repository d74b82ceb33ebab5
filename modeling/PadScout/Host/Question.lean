import PadScout.Dialogue
import PadScout.Host.Region
import PadScout.Memory.Image
import PadScout.Text.Duration

/-! # Questions about processes

All that the library wants to know about the processes of its host: which there
are, how they are called, whether they are alive, what their memory looks like
and what is in it.  A process is opened once, and the key that is got by opening
it goes with every further question.  What keys are is left to who answers.

Memory is read in whole: an answer holds as many bytes as were asked for, or an
error.  Words are put together from bytes here, least significant byte first.
-/
namespace PadScout

/-- The number of a process. -/
abbrev Pid := UInt32

/-- As many bytes as a number says. -/
def Bytes (n : Nat) : Type := { bytes : ByteArray // bytes.size = n }

/-- The number of bytes that words take, as it is multiplied out in 64 bits. -/
def byteCount (words : Nat) : Nat := (UInt64.ofNat words * 4).toNat

/-- A question about processes that are opened by keys from `H`. -/
inductive Question (H : Type) where
  /-- Which processes are there? -/
  | processIds
  /-- May the memory of a process be read? -/
  | attach (pid : Pid)
  | isAlive (process : H)
  /-- By which name does a process go? -/
  | nameOf (process : H)
  | regions (process : H)
  | modules (process : H)
  /-- Which bytes are there, from an address on? -/
  | read (process : H) (address : Address) (length : Nat)
  /-- How long has the clock been running? -/
  | time

/-- What is answered to a question. -/
def Question.Answer {H : Type} : Question H → Type
  | processIds => Except MemoryError (List Pid)
  | attach _ => Option H
  | isAlive _ => Bool
  | nameOf _ => Option String
  | regions _ => Except MemoryError (List Region)
  | modules _ => Except MemoryError (List Module)
  | read _ _ n => Except MemoryError (Bytes n)
  | time => Duration

/-- Questions about processes with their answers. -/
def hostInterface (H : Type) : Interface := ⟨Question H, Question.Answer⟩

/-- A dialogue about processes. -/
abbrev Inquiry (H α : Type) : Type := Dialogue (hostInterface H) α

namespace Inquiry

variable {H : Type}

/-- The inquiry of one question. -/
def ask (q : Question H) : Inquiry H q.Answer := Dialogue.ask (I := hostInterface H) q .done

/-- The word at an address. -/
def readWord (process : H) (address : Address) : Inquiry H (Except MemoryError UInt32) := do
  match ← ask (.read process address 4) with
  | .ok ⟨bytes, size⟩ =>
    return .ok (wordOfBytes (bytes.get 0 (by omega)) (bytes.get 1 (by omega))
      (bytes.get 2 (by omega)) (bytes.get 3 (by omega)))
  | .error e => return .error e

/-- As many words as asked for, from an address on. -/
def readWords (process : H) (address : Address) (count : Nat) :
    Inquiry H (Except MemoryError (Array UInt32)) := do
  match ← ask (.read process address (byteCount count)) with
  | .ok bytes => return .ok (wordsOfBytes bytes.val)
  | .error e => return .error e

/-- The main memory of the console, taken at one go. -/
def capture (process : H) (base : Address) (words : Nat) :
    Inquiry H (Except MemoryError Image) := do
  match ← readWords process base words with
  | .ok words => return .ok ⟨words⟩
  | .error e => return .error e

end Inquiry
end PadScout
