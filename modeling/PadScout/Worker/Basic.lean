import PadScout.Session.Basic

/-! # Workers

A `Worker` runs a session in a thread of its own and publishes what it gets: the
controller input and the phase.  Between two cycles it waits, and a shutdown cuts
the wait short.

Worker and shutdown share a flag and a lock that guards it.  The worker holds the
lock all the time but for two occasions: while it waits, and while it is in a
cycle.  `Spot` says where in this course it stands, in steps so small that
whoever reads what is published, or shuts the worker down, does so between two of
them.  `Worker.advance` is the next step of the thread itself; a wait ends by
`Worker.wake`; `Worker.shutdown` takes the lock, lowers the flag and wakes the
worker.

The input is published before the phase.  A nonzero input only comes from a cycle
that starts and ends in the last phase, so that nobody ever finds it beside
another phase.
-/
namespace PadScout

/-- Where the thread of a worker stands. -/
inductive Spot where
  /-- About to take the lock for the first time. -/
  | fresh
  /-- About to look at the flag before a wait.  Has the lock. -/
  | testing
  /-- About to let go of the lock for a wait. -/
  | parking
  /-- In a wait that a shutdown or the clock will end. -/
  | waiting
  /-- After the wait, about to take the lock again. -/
  | woken
  /-- About to look at the flag after a wait.  Has the lock. -/
  | resumed
  /-- About to let go of the lock for a cycle. -/
  | leaving
  /-- In a cycle. -/
  | cycling
  /-- After a cycle that began in a phase and got an input, about to take the
  lock. -/
  | cycled (before : Phase) (input : UInt32)
  /-- About to publish the input.  Has the lock. -/
  | storingInput (input : UInt32)
  /-- About to publish the phase.  Has the lock. -/
  | storingPhase
  /-- About to let go of the lock for good. -/
  | stopping
  /-- At the end. -/
  | stopped
deriving DecidableEq

namespace Spot

/-- Whether the worker has the lock. -/
def hasLock : Spot → Bool
  | testing | parking | resumed | leaving | storingInput _ | storingPhase | stopping => true
  | _ => false

/-- The steps that the thread makes before it waits or stops, at the most. -/
def stepsLeft : Spot → Nat
  | fresh => 3
  | testing => 2
  | parking => 1
  | waiting => 0
  | woken => 9
  | resumed => 8
  | leaving => 7
  | cycling => 6
  | cycled .. => 5
  | storingInput _ => 4
  | storingPhase => 3
  | stopping => 1
  | stopped => 0

/-- No steps are left just where the thread makes none by itself. -/
theorem stepsLeft_eq_zero_iff {spot : Spot} :
    spot.stepsLeft = 0 ↔ spot = .waiting ∨ spot = .stopped := by
  cases spot <;> simp [stepsLeft]

end Spot

/-- A session in a thread, with what is published of it. -/
structure Worker (H : Type) where
  session : Session H
  spot : Spot := .fresh
  /-- The flag that a shutdown lowers. -/
  running : Bool := true
  /-- The published input. -/
  input : UInt32 := 0
  /-- The published phase. -/
  phase : Phase := session.phase

namespace Worker

variable {H : Type}

/-- A worker that has not begun yet. -/
def start (s : Session H) : Worker H := { session := s }

/-- A remark of the worker. -/
def remark (level : Level) (message : Unit → String) : Inquiry H Unit :=
  Dialogue.note level .worker message

/-- Goes on if the flag is up, and is about to stop otherwise. -/
def goOn (w : Worker H) (next : Spot) : Inquiry H (Worker H) := do
  if w.running then return { w with spot := next }
  else
    remark .info fun _ => "poller stopped"
    return { w with spot := .stopping }

/-- **The next step of the thread.**  A thread that waits or has stopped makes no
step by itself. -/
def advance (w : Worker H) : Inquiry H (Worker H) :=
  match w.spot with
  | .fresh => do
    remark .info fun _ => "poller started"
    return { w with spot := .testing }
  | .testing => w.goOn .parking
  | .parking => return { w with spot := .waiting }
  | .waiting => return w
  | .woken => return { w with spot := .resumed }
  | .resumed => w.goOn .leaving
  | .leaving => return { w with spot := .cycling }
  | .cycling => do
    let (input, session) ← w.session.cycle
    return { w with session, spot := .cycled w.session.phase input }
  | .cycled before input => do
    -- said before anything is published
    if before ≠ w.session.phase then
      remark .debug fun _ => "state " ++ before.text ++ " -> " ++ w.session.phase.text
    return { w with spot := .storingInput input }
  | .storingInput input => return { w with input, spot := .storingPhase }
  | .storingPhase => return { w with phase := w.session.phase, spot := .testing }
  | .stopping => return { w with spot := .stopped }
  | .stopped => return w

/-- Ends a wait. -/
def wake (w : Worker H) : Worker H :=
  if w.spot = .waiting then { w with spot := .woken } else w

/-- **Asks a worker to stop**, and wakes it if it waits. -/
def shutdown (w : Worker H) : Worker H := wake { w with running := false }

@[simp] theorem session_wake (w : Worker H) : w.wake.session = w.session := by
  unfold wake
  split <;> rfl

@[simp] theorem running_wake (w : Worker H) : w.wake.running = w.running := by
  unfold wake
  split <;> rfl

@[simp] theorem input_wake (w : Worker H) : w.wake.input = w.input := by
  unfold wake
  split <;> rfl

@[simp] theorem phase_wake (w : Worker H) : w.wake.phase = w.phase := by
  unfold wake
  split <;> rfl

@[simp] theorem running_shutdown (w : Worker H) : w.shutdown.running = false := running_wake _

/-- Some steps of the thread in a row. -/
def advanceBy : Nat → Worker H → Inquiry H (Worker H)
  | 0, w => return w
  | n + 1, w => do advanceBy n (← w.advance)

/-- The steps of the thread up to its next wait, or its end. -/
def settle (w : Worker H) : Inquiry H (Worker H) := advanceBy w.spot.stepsLeft w

end Worker

end PadScout
