import PadScout.Discovery.Stages
import PadScout.Locate.Attachment
import PadScout.Session.Phase

/-! # Sessions

A `Session` follows one emulator from the moment it is found to the moment it
exits.  It keeps the emulator, once it has one, and the place of the console's
memory, once discovery has found something in it.  What it has got tells what it
does next: search for an emulator, locate the memory of the one it has, or
extract the input from there.

`Session.cycle` does one step.  Only a cycle that reads the controller input has
an input to show for it; before each reading it checks that the emulator is alive
and that memory still holds the code by which the input was found, and falls back
to an earlier phase otherwise.  Other cycles count as input zero.
-/
namespace PadScout

/-- The console's memory in an emulator, with what discovery found in it. -/
structure LockedRam where
  base : Address
  finding : Finding
deriving DecidableEq

namespace LockedRam

/-- Where the window of code is by which to tell that the finding still holds. -/
def windowAddress (ram : LockedRam) : Address :=
  ram.base.plus (UInt64.ofNat ram.finding.windowOffset)

/-- Where the controller input is. -/
def inputAddress (ram : LockedRam) : Address := ram.base.plus ram.finding.inputOffset.toUInt64

end LockedRam

/-- A session with its settings. -/
structure Session (H : Type) where
  settings : Settings
  /-- The emulator that is followed. -/
  attachment? : Option (Attachment H) := none
  /-- Its memory. -/
  ram? : Option LockedRam := none

namespace Session

variable {H : Type}

def phase (s : Session H) : Phase :=
  match s.attachment?, s.ram? with
  | none, _ => .searching
  | some _, none => .locating
  | some _, some _ => .extracting

/-- Nothing is known of an emulator only while one is searched for. -/
theorem attachment?_eq_none_iff (s : Session H) : s.attachment? = none ↔ s.phase = .searching := by
  obtain ⟨settings, _ | a, _ | ram⟩ := s <;> simp [phase]

/-- The milliseconds to wait before the next cycle. -/
def interval (s : Session H) : UInt64 :=
  match s.phase with
  | .searching => s.settings.searchInterval
  | .locating => s.settings.locateInterval
  | .extracting => s.settings.extractInterval

/-- Forgets everything but the settings. -/
def reset (s : Session H) : Session H := { s with attachment? := none, ram? := none }

@[simp] theorem phase_reset (s : Session H) : s.reset.phase = .searching := rfl

@[simp] theorem attachment?_reset (s : Session H) : s.reset.attachment? = none := rfl

@[simp] theorem ram?_reset (s : Session H) : s.reset.ram? = none := rfl

/-! ## Cycles -/

/-- A remark of the session. -/
def remark (level : Level) (message : Unit → String) : Inquiry H Unit :=
  Dialogue.note level .session message

/-- Searches for an emulator. -/
def search (s : Session H) : Inquiry H (Session H) := do
  match ← Attachment.find s.settings with
  | .ok found => return { s with attachment? := found }
  | .error e =>
    remark .warn fun _ => "process enumeration failed: " ++ e.message
    return s

/-- Whether there is an emulator that is alive. -/
def isAlive (s : Session H) : Inquiry H Bool :=
  match s.attachment? with
  | some a => Inquiry.ask (.isAlive a.process)
  | none => return false

/-- Goes on only if the emulator is alive. -/
def whileAlive {α : Type} (s : Session H) (gone : α) (next : Inquiry H α) : Inquiry H α := do
  if ← s.isAlive then next
  else
    remark .info fun _ => "host process exited"
    return gone

/-- Remarks of discovery that was started at a given time and has just ended. -/
def sayDiscovery (start : Duration) (report : Report Finding) : Inquiry H Unit := do
  let stop : Duration ← Inquiry.ask .time
  Dialogue.say (Discovery.analysisJournal report ⟨stop.nanoseconds - start.nanoseconds⟩)

/-- Discovery in the memory at an address. -/
def discover (base : Address) (m : Image) : Inquiry H (Option LockedRam) := do
  let start : Duration ← Inquiry.ask .time
  let report := Discovery.analyze m
  match report.outcome with
  | .ok finding =>
    sayDiscovery start report
    remark .info fun _ => "RAM locked at " ++ base.text ++ ": " ++ finding.text
    return some ⟨base, finding⟩
  | .error e =>
    sayDiscovery start report
    remark .debug fun _ => "analysis at " ++ base.text ++ " found nothing: " ++ e.message
    return none

/-- The console's memory in a live emulator, if all goes well. -/
def lock (s : Settings) (a : Attachment H) : Inquiry H (Option LockedRam) := do
  match ← a.locate s with
  | .error e =>
    remark .warn fun _ =>
      "RAM search in pid " ++ Decimal.text a.pid.toNat ++ " failed: " ++ e.message
    return none
  | .ok none => return none
  | .ok (some base) =>
    match ← Inquiry.capture a.process base s.ramWords with
    | .error e =>
      remark .warn fun _ => "RAM capture at " ++ base.text ++ " failed: " ++ e.message
      return none
    | .ok image => discover base image

/-- Locks the memory of the emulator, if all goes well. -/
def locate (s : Session H) : Inquiry H (Session H) :=
  s.whileAlive s.reset do
    match s.attachment? with
    | none => return s
    | some a =>
      match ← lock s.settings a with
      | some ram => return { s with ram? := some ram }
      | none => return s

/-- Whether memory still holds the code by which the input was found. -/
def verify (a : Attachment H) (ram : LockedRam) : Inquiry H Bool := do
  match ← Inquiry.readWords a.process ram.windowAddress ram.finding.windowLength with
  | .error e =>
    remark .warn fun _ => "verification read failed: " ++ e.message
    return false
  | .ok live =>
    if ram.finding.verify live.toList then return true
    else
      remark .info fun _ => "verification window changed, relocating RAM"
      return false

/-- The controller input; zero if it cannot be read. -/
def readInput (a : Attachment H) (ram : LockedRam) : Inquiry H UInt32 := do
  match ← Inquiry.readWord a.process ram.inputAddress with
  | .ok input => return input
  | .error e =>
    remark .debug fun _ => "input read failed: " ++ e.message
    return 0

/-- Reads the controller input, if memory is what it was. -/
def extract (s : Session H) : Inquiry H (UInt32 × Session H) :=
  s.whileAlive (0, s.reset) do
    match s.attachment?, s.ram? with
    | some a, some ram =>
      -- beside other code the word at this place means nothing, so it is not even read
      if ← verify a ram then return (← readInput a ram, s)
      else return (0, { s with ram? := none })
    | _, _ => return (0, s)

/-- **One cycle**: the controller input and the session afterwards. -/
def cycle (s : Session H) : Inquiry H (UInt32 × Session H) :=
  match s.phase with
  | .searching => do return (0, ← s.search)
  | .locating => do return (0, ← s.locate)
  | .extracting => s.extract

end Session

end PadScout
