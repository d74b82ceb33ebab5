import PadScout.Worker.Basic

/-! # Pollers

A `Poller` runs a worker by the clock.  Each turn ends a wait, lets the worker go
on to the next one, and says when that will be over.
-/
namespace PadScout

/-- A worker that waits, with the time when it has waited long enough. -/
structure Poller (H : Type) where
  worker : Worker H
  due : Duration

namespace Poller

variable {H : Type}

/-- The time to wait before the next cycle, a millisecond at least. -/
def pause (s : Session H) : Duration := .ofMilliseconds (max 1 s.interval.toNat)

/-- Lets a worker go on to its next wait. -/
def ofWorker (w : Worker H) : Inquiry H (Poller H) := do
  let w ← w.settle
  let now : Duration ← Inquiry.ask .time
  return ⟨w, ⟨now.nanoseconds + (pause w.session).nanoseconds⟩⟩

/-- Starts a worker. -/
def start (s : Session H) : Inquiry H (Poller H) := ofWorker (.start s)

/-- **One turn**, when the time has come. -/
def turn (p : Poller H) : Inquiry H (Poller H) := ofWorker p.worker.wake

/-- Stops the worker. -/
def stop (p : Poller H) : Inquiry H (Poller H) := ofWorker p.worker.shutdown

end Poller

end PadScout
