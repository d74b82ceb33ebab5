import PadScout.Locate.Strategy

/-! # Attaching

The first running process that goes by the name of a host is the emulator to
attach to.  An `Attachment` keeps the key to it, and tells by its host how to
look for the console's memory.
-/
namespace PadScout

/-- An open process that is known as an emulator. -/
structure Attachment (H : Type) where
  pid : Pid
  process : H
  host : Host

namespace Attachment

variable {H : Type}

/-- The first of some processes that can be opened and goes by the name of a
host. -/
def firstOf (s : Settings) : List Pid → Inquiry H (Option (Attachment H))
  | [] => return none
  | pid :: pids => do
    match ← Inquiry.ask (.attach pid) with
    | none => firstOf s pids
    | some process =>
      match ← Inquiry.ask (.nameOf process) with
      | none => firstOf s pids
      | some name =>
        match s.hostFor? name with
        | none => firstOf s pids
        | some host =>
          Dialogue.note .info .locator fun _ =>
            "attached to " ++ name ++ " (pid " ++ Decimal.text pid.toNat ++ ")"
          return some ⟨pid, process, host⟩

/-- **Looks for an emulator** among all processes. -/
def find (s : Settings) : Inquiry H (Except LocateError (Option (Attachment H))) := do
  match ← Inquiry.ask .processIds with
  | .error e => return .error (.memory e)
  | .ok pids => return .ok (← firstOf s pids)

/-- **Looks for the console's memory** in an emulator. -/
def locate (s : Settings) (a : Attachment H) :
    Inquiry H (Except LocateError (Option Address)) := do
  match Strategy.ofHost s a.host with
  | .error e => return .error e
  | .ok strategy =>
    match ← strategy.locate a.process with
    | .error e => return .error (.memory e)
    | .ok found =>
      Dialogue.note .debug .locator fun _ =>
        match found with
        | some base => strategy.name ++ ": RAM candidate at " ++ base.text
        | none => strategy.name ++ ": no RAM candidate in pid " ++ Decimal.text a.pid.toNat
      return .ok found

end Attachment

end PadScout
