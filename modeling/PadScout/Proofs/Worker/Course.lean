import PadScout.Proofs.Session.History
import PadScout.Worker.Poller

/-! # Courses of workers

A worker has an owner, who reads what it publishes and asks it to stop, once or more
often.  `Owned.Step` says what the thread of the worker, the clock and the owner can do to
each other.  Its steps are so small that whatever one of them could notice between two
actions of another is a state of its own: the flag is lowered in one step and the worker
woken in the next, and the lock is taken and let go in steps of their own.  Who needs the
lock makes no step while the other has it.  Reading what is published is no step, since it
changes nothing: whatever holds of every state that is reached holds when it is read.

A `Run` is any number of steps, with the events in them that others can tell apart
(`Event`): cycles begin and end, something is published, the flag is lowered, the thread
is found at its end.  A step of the thread is `Worker.advance` with whatever is answered to
the session.  `advances_of_runs` and `runs_of_advances` say place by place what that comes
to, and nothing after them looks into the program again.
-/
namespace PadScout

open Dialogue (Exchange Runs)

variable {H : Type}

/-- What the owner of a worker is at. -/
inductive Errand where
  /-- Nothing, except perhaps reading what is published. -/
  | idle
  /-- About to lower the flag.  Has the lock. -/
  | lowering
  /-- About to wake the worker.  Has the lock. -/
  | waking
  /-- About to let go of the lock.  Has it. -/
  | releasing
  /-- Waiting for the end of the thread. -/
  | joining
deriving DecidableEq

/-- Whether the owner has the lock. -/
def Errand.hasLock : Errand → Bool
  | lowering | waking | releasing => true
  | idle | joining => false

/-- A worker and how far its owner is with a shutdown. -/
structure Owned (H : Type) where
  worker : Worker H
  errand : Errand := .idle
  /-- Whether the end of the thread can still be waited for: only the first shutdown
  does. -/
  handle : Bool := true

/-- What happens in the course of a worker. -/
inductive Event (H : Type) where
  /-- The thread lets go of the lock for a cycle. -/
  | begins
  /-- A cycle is over. -/
  | ends (turn : Session.Turn H)
  /-- An input is published. -/
  | input (v : UInt32)
  /-- A phase is published. -/
  | phase (p : Phase)
  /-- A shutdown lowers the flag. -/
  | lowers
  /-- A shutdown has waited for the end of the thread. -/
  | joins

/-- Whether the thread does it. -/
def Event.isOfThread : Event H → Bool
  | lowers | joins => false
  | _ => true

namespace Spot

/-- Whether the next step of the thread takes the lock. -/
def takesLock : Spot → Bool
  | fresh | woken | cycled .. => true
  | _ => false

/-- Whether a cycle is over that has not been published in full. -/
def hasNews : Spot → Bool
  | cycled .. | storingInput _ | storingPhase => true
  | _ => false

end Spot

/-! ## Steps of the thread -/

namespace Worker

/-- What happens in a step of the thread, by the places where it starts and ends. -/
def event? (w : Worker H) (es : List (Exchange (hostInterface H))) (w' : Worker H) :
    Option (Event H) :=
  match w.spot, w'.spot with
  | .leaving, _ => some .begins
  | .cycling, .cycled _ v => some (.ends ⟨w.session, es, v, w'.session⟩)
  | .storingInput _, _ => some (.input w'.input)
  | .storingPhase, _ => some (.phase w'.phase)
  | _, _ => none

/-- **All steps of the thread**, with what happens in them. -/
inductive Advances (w : Worker H) : Option (Event H) → Worker H → Prop where
  | start : w.spot = .fresh → Advances w none { w with spot := .testing }
  | stay : w.spot = .testing → w.running = true → Advances w none { w with spot := .parking }
  | park : w.spot = .parking → Advances w none { w with spot := .waiting }
  | resume : w.spot = .woken → Advances w none { w with spot := .resumed }
  | goOn : w.spot = .resumed → w.running = true → Advances w none { w with spot := .leaving }
  | begin : w.spot = .leaving → Advances w (some .begins) { w with spot := .cycling }
  | finish {es : List (Exchange (hostInterface H))} {v : UInt32} {s : Session H} :
      w.spot = .cycling → Runs w.session.cycle es (v, s) →
      Advances w (some (.ends ⟨w.session, es, v, s⟩))
        { w with session := s, spot := .cycled w.session.phase v }
  | relock {before : Phase} {v : UInt32} : w.spot = .cycled before v →
      Advances w none { w with spot := .storingInput v }
  | publishInput {v : UInt32} : w.spot = .storingInput v →
      Advances w (some (.input v)) { w with input := v, spot := .storingPhase }
  | publishPhase : w.spot = .storingPhase →
      Advances w (some (.phase w.session.phase))
        { w with phase := w.session.phase, spot := .testing }
  | stop : w.spot = .testing ∨ w.spot = .resumed → w.running = false →
      Advances w none { w with spot := .stopping }
  | quit : w.spot = .stopping → Advances w none { w with spot := .stopped }
  | idle : w.spot = .waiting ∨ w.spot = .stopped → Advances w none w

section Advances
variable {w w' : Worker H} {es : List (Exchange (hostInterface H))} {e : Option (Event H)}

theorem silent_remark (level : Level) (message : Unit → String) :
    (remark level message : Inquiry H Unit).Silent () := Dialogue.silent_say _

/-- A remark before the next state is not an exchange. -/
theorem silent_remark_return (level : Level) (message : Unit → String) (w : Worker H) :
    (do remark level message; return w : Inquiry H (Worker H)).Silent w :=
  fun _ c => ((silent_remark level message).bind c).trans Dialogue.runs_done_iff

theorem silent_goOn (w : Worker H) (next : Spot) :
    (w.goOn next).Silent { w with spot := if w.running then next else .stopping } := by
  unfold goOn
  cases hrunning : w.running with
  | true => exact Dialogue.silent_done _
  | false => exact silent_remark_return .info (fun _ => "poller stopped") _

/-- After a cycle the thread at most makes a remark before it takes the lock. -/
theorem silent_advance_cycled {before : Phase} {v : UInt32} (h : w.spot = .cycled before v) :
    w.advance.Silent { w with spot := .storingInput v } := by
  unfold advance
  rw [h]
  dsimp only
  split
  · exact fun _ c => ((silent_remark _ _).bind c).trans Dialogue.runs_done_iff
  · exact fun _ _ => Dialogue.runs_done_iff

/-- **The program makes no other steps.** -/
theorem advances_of_runs (h : Runs w.advance es w') : Advances w (w.event? es w') w' := by
  obtain ⟨session, spot, running, input, phase⟩ := w
  cases spot with
  | fresh =>
    obtain ⟨rfl, rfl⟩ := (silent_remark_return _ _ _ es w').1 h
    exact .start rfl
  | testing =>
    obtain ⟨rfl, rfl⟩ := (silent_goOn _ _ es w').1 h
    cases running with
    | true => exact .stay rfl rfl
    | false => exact .stop (Or.inl rfl) rfl
  | parking =>
    obtain ⟨rfl, rfl⟩ := Dialogue.runs_done_iff.1 h
    exact .park rfl
  | waiting =>
    obtain ⟨rfl, rfl⟩ := Dialogue.runs_done_iff.1 h
    exact .idle (Or.inl rfl)
  | woken =>
    obtain ⟨rfl, rfl⟩ := Dialogue.runs_done_iff.1 h
    exact .resume rfl
  | resumed =>
    obtain ⟨rfl, rfl⟩ := (silent_goOn _ _ es w').1 h
    cases running with
    | true => exact .goOn rfl rfl
    | false => exact .stop (Or.inr rfl) rfl
  | leaving =>
    obtain ⟨rfl, rfl⟩ := Dialogue.runs_done_iff.1 h
    exact .begin rfl
  | cycling =>
    obtain ⟨before, after, ⟨v, s⟩, rfl, hcycle, h⟩ := Dialogue.runs_bind.1 h
    obtain ⟨rfl, rfl⟩ := Dialogue.runs_done_iff.1 h
    rw [List.append_nil]
    exact .finish rfl hcycle
  | cycled before v =>
    obtain ⟨rfl, rfl⟩ := (silent_advance_cycled rfl es w').1 h
    exact .relock rfl
  | storingInput v =>
    obtain ⟨rfl, rfl⟩ := Dialogue.runs_done_iff.1 h
    exact .publishInput rfl
  | storingPhase =>
    obtain ⟨rfl, rfl⟩ := Dialogue.runs_done_iff.1 h
    exact .publishPhase rfl
  | stopping =>
    obtain ⟨rfl, rfl⟩ := Dialogue.runs_done_iff.1 h
    exact .quit rfl
  | stopped =>
    obtain ⟨rfl, rfl⟩ := Dialogue.runs_done_iff.1 h
    exact .idle (Or.inr rfl)

/-- **The program makes all of these steps.** -/
theorem runs_of_advances (h : Advances w e w') : ∃ es, Runs w.advance es w' ∧ e = w.event? es w' := by
  obtain ⟨session, spot, running, input, phase⟩ := w
  cases h with
  | start h =>
    subst h
    exact ⟨[], (silent_remark_return _ _ _ _ _).2 ⟨rfl, rfl⟩, rfl⟩
  | stay h hrunning =>
    subst h hrunning
    exact ⟨[], (silent_goOn _ _ _ _).2 ⟨rfl, rfl⟩, rfl⟩
  | park h =>
    subst h
    exact ⟨[], .done _, rfl⟩
  | stop h hrunning =>
    subst hrunning
    rcases h with rfl | rfl
    · exact ⟨[], (silent_goOn _ _ _ _).2 ⟨rfl, rfl⟩, rfl⟩
    · exact ⟨[], (silent_goOn _ _ _ _).2 ⟨rfl, rfl⟩, rfl⟩
  | idle h =>
    rcases h with rfl | rfl
    · exact ⟨[], .done _, rfl⟩
    · exact ⟨[], .done _, rfl⟩
  | resume h =>
    subst h
    exact ⟨[], .done _, rfl⟩
  | goOn h hrunning =>
    subst h hrunning
    exact ⟨[], (silent_goOn _ _ _ _).2 ⟨rfl, rfl⟩, rfl⟩
  | begin h =>
    subst h
    exact ⟨[], .done _, rfl⟩
  | @finish es v s h hcycle =>
    subst h
    exact ⟨es, Dialogue.runs_bind.2 ⟨es, [], (v, s), (List.append_nil _).symm, hcycle, .done _⟩, rfl⟩
  | relock h =>
    subst h
    exact ⟨[], (silent_advance_cycled rfl _ _).2 ⟨rfl, rfl⟩, rfl⟩
  | publishInput h =>
    subst h
    exact ⟨[], .done _, rfl⟩
  | publishPhase h =>
    subst h
    exact ⟨[], .done _, rfl⟩
  | quit h =>
    subst h
    exact ⟨[], .done _, rfl⟩

/-- **Every step brings the thread nearer to a wait or to its end.** -/
theorem stepsLeft_of_advances (h : Advances w e w') :
    w'.spot.stepsLeft ≤ w.spot.stepsLeft - 1 := by
  cases h with
  | start hspot | park hspot | resume hspot | begin hspot | relock hspot | publishInput hspot
  | publishPhase hspot | quit hspot => simp [hspot, Spot.stepsLeft]
  | stay hspot | goOn hspot | finish hspot => simp [hspot, Spot.stepsLeft]
  | stop hspot => rcases hspot with hspot | hspot <;> simp [hspot, Spot.stepsLeft]
  | idle hspot => rw [Spot.stepsLeft_eq_zero_iff.2 hspot]

end Advances
end Worker

/-! ## Steps of all -/

namespace Owned

/-- A new worker, left alone by its owner so far. -/
def start (s : Session H) : Owned H := { worker := .start s }

/-- **All that can happen between a worker and its owner**, whatever is answered to the
session. -/
inductive Step : Owned H → Option (Event H) → Owned H → Prop where
  | thread {o : Owned H} {es : List (Exchange (hostInterface H))} {w : Worker H} :
      (o.worker.spot.takesLock = true → o.errand.hasLock = false) →
      Runs o.worker.advance es w → Step o (o.worker.event? es w) { o with worker := w }
  /-- The clock ends a wait. -/
  | clock (o : Owned H) : Step o none { o with worker := o.worker.wake }
  /-- A shutdown begins, by taking the lock. -/
  | call {o : Owned H} : o.errand = .idle → o.worker.spot.hasLock = false →
      Step o none { o with errand := .lowering }
  | lower {o : Owned H} : o.errand = .lowering →
      Step o (some .lowers)
        { o with worker := { o.worker with running := false }, errand := .waking }
  | wake {o : Owned H} : o.errand = .waking →
      Step o none { o with worker := o.worker.wake, errand := .releasing }
  | release {o : Owned H} : o.errand = .releasing →
      Step o none { o with errand := if o.handle then .joining else .idle, handle := false }
  | join {o : Owned H} : o.errand = .joining → o.worker.spot = .stopped →
      Step o (some .joins) { o with errand := .idle }

/-- **What can come of a worker and its owner**, with the events on the way. -/
inductive Run (o : Owned H) : List (Event H) → Owned H → Prop where
  | start : Run o [] o
  | step {events : List (Event H)} {o' o'' : Owned H} {e : Option (Event H)}
      (past : Run o events o') (next : Step o' e o'') : Run o (events ++ e.toList) o''

section Runs
variable {o o' : Owned H} {events : List (Event H)} {e : Option (Event H)} {w : Worker H}

theorem Run.trans {o'' : Owned H} {later : List (Event H)} (past : Run o events o')
    (future : Run o' later o'') : Run o (events ++ later) o'' := by
  induction future with
  | start =>
    rw [List.append_nil]
    exact past
  | step _ next ih =>
    rw [← List.append_assoc]
    exact ih.step next

/-- A step of the thread, while the lock is free or not needed. -/
theorem Run.advance (past : Run o events o') (h : o'.worker.Advances e w)
    (hfree : o'.worker.spot.takesLock = true → o'.errand.hasLock = false) :
    Run o (events ++ e.toList) { o' with worker := w } := by
  obtain ⟨es, hruns, rfl⟩ := Worker.runs_of_advances h
  exact past.step (.thread hfree hruns)

/-- **A shutdown that nothing comes between** does to the worker what `Worker.shutdown`
does. -/
theorem Run.shutdown (past : Run o events o') (hidle : o'.errand = .idle)
    (hfree : o'.worker.spot.hasLock = false) :
    Run o (events ++ [.lowers])
      { worker := o'.worker.shutdown, errand := if o'.handle then .joining else .idle,
        handle := false } := by
  have hlower := (past.step (.call hidle hfree)).step (.lower rfl)
  have hrelease := (hlower.step (.wake rfl)).step (.release rfl)
  simpa [Worker.shutdown] using hrelease

/-- A worker that is left alone gets to its first cycle. -/
theorem run_begins (s : Session H) :
    Run (.start s) [.begins] { worker := { Worker.start s with spot := .cycling } } := by
  have hwait := (Run.start (o := .start s)).advance (.start rfl) (fun _ => rfl)
    |>.advance (.stay rfl rfl) (fun _ => rfl) |>.advance (.park rfl) (fun _ => rfl)
  exact (hwait.step (.clock _)).advance (.resume rfl) (fun _ => rfl)
    |>.advance (.goOn rfl rfl) (fun _ => rfl) |>.advance (.begin rfl) (fun _ => rfl)

/-- A cycle comes to its end, and what it has got is published, even if a shutdown waits for
that. -/
theorem Run.finish {es : List (Exchange (hostInterface H))} {v : UInt32} {s : Session H}
    (past : Run o events o') (hspot : o'.worker.spot = .cycling)
    (hcycle : Runs o'.worker.session.cycle es (v, s)) (hfree : o'.errand.hasLock = false) :
    Run o (events ++ [.ends ⟨o'.worker.session, es, v, s⟩, .input v, .phase s.phase])
      { o' with worker := { o'.worker with
        session := s, spot := .testing, input := v, phase := s.phase } } := by
  have hends := past.advance (.finish hspot hcycle) (fun _ => hfree)
  have hinput := (hends.advance (.relock rfl) (fun _ => hfree)).advance (.publishInput rfl)
    (fun _ => hfree)
  simpa using hinput.advance (.publishPhase rfl) (fun _ => hfree)

/-- Steps of the thread in a row, with nobody to hinder it. -/
theorem Run.advanceBy {n : Nat} {es : List (Exchange (hostInterface H))} (past : Run o events o')
    (hfree : o'.errand.hasLock = false) (h : Runs (o'.worker.advanceBy n) es w) :
    (∃ later, Run o (events ++ later) { o' with worker := w }) ∧
      w.spot.stepsLeft ≤ o'.worker.spot.stepsLeft - n := by
  induction n generalizing events o' es with
  | zero =>
    obtain ⟨rfl, rfl⟩ := Dialogue.runs_done_iff.1 h
    exact ⟨⟨[], by rwa [List.append_nil]⟩, le_rfl⟩
  | succ n ih =>
    obtain ⟨first, rest, between, rfl, hfirst, hrest⟩ := Dialogue.runs_bind.1 h
    have hstep := Worker.advances_of_runs hfirst
    obtain ⟨⟨later, run⟩, hleft⟩ := ih (past.advance hstep fun _ => hfree) hfree hrest
    have hfewer := Worker.stepsLeft_of_advances hstep
    refine ⟨⟨_ ++ later, by rwa [← List.append_assoc]⟩, ?_⟩
    dsimp only at hleft
    omega

/-- **A thread that is left alone gets to a wait or to its end**, and a poller sees to that. -/
theorem Run.poll {p : Poller H} {es : List (Exchange (hostInterface H))} (past : Run o events o')
    (hfree : o'.errand.hasLock = false) (h : Runs (Poller.ofWorker o'.worker) es p) :
    (∃ later, Run o (events ++ later) { o' with worker := p.worker }) ∧
      (p.worker.spot = .waiting ∨ p.worker.spot = .stopped) := by
  obtain ⟨settling, rest, w, rfl, hsettle, htime⟩ := Dialogue.runs_bind.1 h
  obtain ⟨now, after, rfl, hdue⟩ := Inquiry.runs_ask_bind.1 htime
  obtain ⟨rfl, rfl⟩ := Dialogue.runs_done_iff.1 hdue
  obtain ⟨hrun, hleft⟩ := past.advanceBy hfree hsettle
  rw [Nat.sub_self, Nat.le_zero] at hleft
  exact ⟨hrun, Spot.stepsLeft_eq_zero_iff.1 hleft⟩

end Runs
end Owned
end PadScout
