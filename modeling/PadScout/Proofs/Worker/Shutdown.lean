import PadScout.Proofs.Worker.Course

/-! # Shutdowns of workers

A shutdown lowers the flag while the thread may be anywhere but where it has the lock.
`Coordinated` says what flag, lock and wake-up have to do with each other: the thread has the
lock from where it looks at the flag up to where it lets go of the lock, so the flag it goes
by is still up then; and a thread that waits with the flag down is about to be woken by the
shutdown that has lowered it.  Every step keeps this (`coordinated_of_step`), however many
shutdowns there are.

With the flag down the thread is left with what it has begun: `Unfinished` lists what is
still to come of the cycle under way, and every later step of the thread that others can tell
apart takes its event from the front of that list (`unfinished_of_step`).  No wait begins any
more (`waiting_of_step`), so a poller that is stopped comes to its end (`stopped_of_stop`).
-/
namespace PadScout

open Dialogue (Exchange Runs)

variable {H : Type}

/-! ## Steps of the thread -/

namespace Worker

section Advances
variable {w w' : Worker H} {e : Option (Event H)}

theorem running_of_advances (h : Advances w e w') : w'.running = w.running := by
  cases h <;> rfl

theorem isOfThread_of_advances {event : Event H} (h : Advances w e w') (he : event ∈ e) :
    event.isOfThread = true := by
  cases h <;> cases he <;> rfl

/-- The thread has the lock only if it had it before or takes it. -/
theorem hasLock_of_advances (h : Advances w e w') (hlock : w'.spot.hasLock = true) :
    w.spot.hasLock = true ∨ w.spot.takesLock = true := by
  cases h with
  | start hspot => exact Or.inr (by rw [hspot]; rfl)
  | resume hspot => exact Or.inr (by rw [hspot]; rfl)
  | relock hspot => exact Or.inr (by rw [hspot]; rfl)
  | stay hspot => exact Or.inl (by rw [hspot]; rfl)
  | goOn hspot => exact Or.inl (by rw [hspot]; rfl)
  | publishInput hspot => exact Or.inl (by rw [hspot]; rfl)
  | publishPhase hspot => exact Or.inl (by rw [hspot]; rfl)
  | stop hspot => exact Or.inl (by rcases hspot with hspot | hspot <;> rw [hspot] <;> rfl)
  | idle => exact Or.inl hlock
  | park => cases hlock
  | begin => cases hlock
  | finish => cases hlock
  | quit => cases hlock

/-- **The thread goes by the flag** when it is about to let go of the lock. -/
theorem running_of_advances_up (h : Advances w e w')
    (hspot' : w'.spot = .parking ∨ w'.spot = .leaving) : w.running = true := by
  cases h with
  | stay _ hrunning => exact hrunning
  | goOn _ hrunning => exact hrunning
  | idle hspot =>
    rcases hspot with hspot | hspot
    · rw [hspot] at hspot'
      rcases hspot' with h | h <;> cases h
    · rw [hspot] at hspot'
      rcases hspot' with h | h <;> cases h
  | _ => rcases hspot' with h | h <;> cases h

/-- A wait begins where the lock is let go of for it. -/
theorem waiting_of_advances (h : Advances w e w') (hspot' : w'.spot = .waiting) :
    w.spot = .parking ∨ w.spot = .waiting := by
  cases h with
  | park hspot => exact Or.inl hspot
  | idle => exact Or.inr hspot'
  | _ => cases hspot'

/-- **A thread that has stopped stays as it is.** -/
theorem eq_of_advances_stopped (h : Advances w e w') (hspot : w.spot = .stopped) :
    w' = w ∧ e = none := by
  cases h with
  | idle => exact ⟨rfl, rfl⟩
  | stop h =>
    rw [hspot] at h
    rcases h with h | h <;> cases h
  | _ h =>
    rw [hspot] at h
    cases h

theorem wake_spot_ne (w : Worker H) : w.wake.spot ≠ .waiting := by
  unfold wake
  split
  · simp
  · assumption

/-- Waking matters only to a thread that waits. -/
theorem wake_eq_of_ne (h : w.spot ≠ .waiting) : w.wake = w := if_neg h

end Advances
end Worker

/-! ## Flag, lock and wake-up -/

namespace Owned

/-- **What flag, lock and wake-up have to do with each other** after some events. -/
structure Coordinated (events : List (Event H)) (o : Owned H) : Prop where
  /-- The lock is never with both. -/
  exclusive : o.errand.hasLock = true → o.worker.spot.hasLock = false
  /-- The flag is up where the thread goes by it. -/
  up : o.worker.spot = .parking ∨ o.worker.spot = .leaving → o.worker.running = true
  lowered_iff : o.worker.running = false ↔ .lowers ∈ events
  /-- No wake-up is lost. -/
  woken : o.worker.spot = .waiting → o.worker.running = false → o.errand = .waking
  joined : .joins ∈ events → o.worker.spot = .stopped

section Coordinated
variable {s : Session H} {events : List (Event H)} {o o' : Owned H} {e : Option (Event H)}
  {w : Worker H}

theorem coordinated_start (s : Session H) : Coordinated [] (start s) where
  exclusive h := by cases h
  up _ := rfl
  lowered_iff := by simp [start, Worker.start]
  woken h := by cases h
  joined h := by cases h

theorem Coordinated.advance (h : Coordinated events o) (hstep : o.worker.Advances e w)
    (hfree : o.worker.spot.takesLock = true → o.errand.hasLock = false) :
    Coordinated (events ++ e.toList) { o with worker := w } := by
  have hrunning := Worker.running_of_advances hstep
  have hmem : ∀ {x : Event H}, x.isOfThread = false → (x ∈ events ++ e.toList ↔ x ∈ events) := by
    intro x hx
    have hnot : x ∉ e := fun he => by
      rw [Worker.isOfThread_of_advances hstep he] at hx
      cases hx
    rw [List.mem_append, Option.mem_toList]
    exact or_iff_left hnot
  refine ⟨fun herrand => ?_, fun hspot => ?_, ?_, fun hspot hdown => ?_, fun hjoins => ?_⟩
  · by_contra hlock
    rcases Worker.hasLock_of_advances hstep (by simpa using hlock) with hhad | htakes
    · rw [h.exclusive herrand] at hhad
      cases hhad
    · rw [hfree htakes] at herrand
      cases herrand
  · exact hrunning.trans (Worker.running_of_advances_up hstep hspot)
  · rw [hmem rfl]
    exact (congrArg (· = false) hrunning).to_iff.trans h.lowered_iff
  · have hdown : o.worker.running = false := hrunning.symm.trans hdown
    rcases Worker.waiting_of_advances hstep hspot with hparking | hwaiting
    · -- the flag was up when the thread looked at it, and the lock was not free since
      rw [h.up (Or.inl hparking)] at hdown
      cases hdown
    · exact h.woken hwaiting hdown
  · have hstopped := h.joined ((hmem rfl).1 hjoins)
    rw [(Worker.eq_of_advances_stopped hstep hstopped).1]
    exact hstopped

/-- Waking a worker, by the clock or by a shutdown, cannot do harm. -/
theorem Coordinated.wake (h : Coordinated events o) :
    Coordinated events { o with worker := o.worker.wake } := by
  by_cases hspot : o.worker.spot = .waiting
  · have hwake : o.worker.wake = { o.worker with spot := .woken } := if_pos hspot
    rw [hwake]
    exact {
      exclusive := fun _ => rfl
      up := fun hup => by rcases hup with hup | hup <;> cases hup
      lowered_iff := h.lowered_iff
      woken := fun hwaiting => by cases hwaiting
      joined := fun hjoins => by
        rw [h.joined hjoins] at hspot
        cases hspot }
  · rw [Worker.wake_eq_of_ne hspot]
    exact h

/-- **Every step keeps it.** -/
theorem coordinated_of_step (h : Coordinated events o) (hstep : Step o e o') :
    Coordinated (events ++ e.toList) o' := by
  have hquiet : ∀ {o : Owned H}, Coordinated events o → Coordinated (events ++ []) o := fun h => by
    rwa [List.append_nil]
  cases hstep with
  | thread hfree hruns => exact h.advance (Worker.advances_of_runs hruns) hfree
  | clock => exact hquiet h.wake
  | call hidle hfree =>
    refine hquiet { h with exclusive := fun _ => hfree, woken := fun hspot hdown => ?_ }
    rw [h.woken hspot hdown] at hidle
    cases hidle
  | lower herrand =>
    have hlock : o.worker.spot.hasLock = false := h.exclusive (by rw [herrand]; rfl)
    refine ⟨fun _ => hlock, fun hspot => ?_, ?_, fun _ _ => rfl, fun hjoins => ?_⟩
    · -- the thread has the lock where it goes by the flag, so it is not there
      rcases hspot with hspot | hspot
      · rw [show o.worker.spot = .parking from hspot] at hlock
        cases hlock
      · rw [show o.worker.spot = .leaving from hspot] at hlock
        cases hlock
    · exact ⟨fun _ => by simp, fun _ => rfl⟩
    · exact h.joined (by simpa using hjoins)
  | wake herrand =>
    have hwake := h.wake
    refine hquiet { hwake with
      exclusive := fun _ => hwake.exclusive (by rw [herrand]; rfl)
      woken := fun hspot _ => absurd hspot (Worker.wake_spot_ne _) }
  | release herrand =>
    refine hquiet { h with exclusive := fun hlock => ?_, woken := fun hspot hdown => ?_ }
    · dsimp only at hlock
      split at hlock <;> cases hlock
    · rw [h.woken hspot hdown] at herrand
      cases herrand
  | join herrand hstopped =>
    refine ⟨fun hlock => ?_, h.up, ?_, fun hspot => ?_, fun _ => hstopped⟩
    · cases hlock
    · simpa using h.lowered_iff
    · rw [show o.worker.spot = .waiting from hspot] at hstopped
      cases hstopped

theorem Coordinated.run {later : List (Event H)} (h : Coordinated events o)
    (run : Run o later o') : Coordinated (events ++ later) o' := by
  induction run with
  | start =>
    rw [List.append_nil]
    exact h
  | step _ next ih =>
    rw [← List.append_assoc]
    exact coordinated_of_step ih next

end Coordinated
end Owned

/-! ## The cycle under way -/

/-- Answers by which every inquiry comes to its end: nothing is there. -/
def Inquiry.nothing : (q : Question H) → q.Answer
  | .processIds => .ok []
  | .attach _ => none
  | .isAlive _ => false
  | .nameOf _ => none
  | .regions _ => .ok []
  | .modules _ => .ok []
  | .read _ address n => .error (.readFailed address.value n)
  | .time => ⟨0⟩

namespace Worker

/-- **What is still to come of the cycle under way**, in order; nothing if there is none. -/
inductive Unfinished (w : Worker H) : List (Event H) → Prop where
  | nothing : w.spot ≠ .cycling → w.spot.hasNews = false → Unfinished w []
  | all {es : List (Exchange (hostInterface H))} {v : UInt32} {s : Session H} :
      w.spot = .cycling → Runs w.session.cycle es (v, s) →
      Unfinished w [.ends ⟨w.session, es, v, s⟩, .input v, .phase s.phase]
  | both {v : UInt32} : (∃ before, w.spot = .cycled before v) ∨ w.spot = .storingInput v →
      Unfinished w [.input v, .phase w.session.phase]
  | phase : w.spot = .storingPhase → Unfinished w [.phase w.session.phase]

section Unfinished
variable {w w' : Worker H} {e : Option (Event H)} {rest : List (Event H)}

/-- A cycle under way can come to its end. -/
theorem exists_unfinished (w : Worker H) : ∃ rest, w.Unfinished rest := by
  obtain ⟨session, spot, running, input, phase⟩ := w
  cases spot with
  | cycling => exact ⟨_, .all rfl (Dialogue.runs_execute Inquiry.nothing session.cycle)⟩
  | cycled before v => exact ⟨_, .both (Or.inl ⟨before, rfl⟩)⟩
  | storingInput v => exact ⟨_, .both (Or.inr rfl)⟩
  | storingPhase => exact ⟨_, .phase rfl⟩
  | _ => exact ⟨[], .nothing (by simp) rfl⟩

/-- What is to come of a cycle is not another one. -/
theorem Unfinished.begins_not_mem (h : w.Unfinished rest) : .begins ∉ rest := by
  cases h <;> simp

theorem Unfinished.of_eq (h : w'.Unfinished rest) (hspot : w'.spot = w.spot)
    (hsession : w'.session = w.session) : w.Unfinished rest := by
  obtain ⟨session, spot, running, input, phase⟩ := w
  subst hspot hsession
  cases h with
  | nothing h hnews => exact .nothing h hnews
  | all h hcycle => exact .all h hcycle
  | both h => exact .both h
  | phase h => exact .phase h

/-- Where there is no cycle under way nothing is to come. -/
theorem Unfinished.eq_nil (h : w.Unfinished rest) (hspot : w.spot ≠ .cycling)
    (hnews : w.spot.hasNews = false) : rest = [] := by
  cases h with
  | nothing => rfl
  | all h => exact absurd h hspot
  | both h =>
    rcases h with ⟨before, h⟩ | h
    · rw [h] at hnews
      cases hnews
    · rw [h] at hnews
      cases hnews
  | phase h =>
    rw [h] at hnews
    cases hnews

/-- Moving about outside a cycle is nothing to be told apart. -/
theorem Unfinished.of_outside (h : w'.Unfinished rest) (hat' : w'.spot ≠ .cycling)
    (hnews' : w'.spot.hasNews = false) {spot : Spot} (hat : w.spot = spot) (hspot : spot ≠ .cycling)
    (hnews : spot.hasNews = false) : w.Unfinished rest := by
  rw [h.eq_nil hat' hnews']
  exact .nothing (hat ▸ hspot) (hat ▸ hnews)

theorem Unfinished.of_wake (h : w.wake.Unfinished rest) : w.Unfinished rest := by
  by_cases hspot : w.spot = .waiting
  · have hwake : w.wake.spot = .woken := by rw [wake, if_pos hspot]
    exact h.of_outside (by simp [hwake]) (by rw [hwake]; rfl) hspot (by simp) rfl
  · rwa [wake_eq_of_ne hspot] at h

/-- **Every step of the thread takes its event from the front**, except where a cycle
begins. -/
theorem Unfinished.of_advances (h : w'.Unfinished rest) (hstep : Advances w e w')
    (hbegin : w.spot ≠ .leaving) : w.Unfinished (e.toList ++ rest) := by
  cases hstep with
  | finish hspot hcycle =>
    cases h with
    | nothing _ hnews => cases hnews
    | all hspot' => cases hspot'
    | both hspot' =>
      rcases hspot' with ⟨before, hspot'⟩ | hspot'
      · cases hspot'
        exact .all hspot hcycle
      · cases hspot'
    | phase hspot' => cases hspot'
  | relock hspot =>
    cases h with
    | nothing _ hnews => cases hnews
    | all hspot' => cases hspot'
    | both hspot' =>
      rcases hspot' with ⟨before, hspot'⟩ | hspot'
      · cases hspot'
      · cases hspot'
        exact .both (Or.inl ⟨_, hspot⟩)
    | phase hspot' => cases hspot'
  | publishInput hspot =>
    cases h with
    | nothing _ hnews => cases hnews
    | all hspot' => cases hspot'
    | both hspot' => rcases hspot' with ⟨before, hspot'⟩ | hspot' <;> cases hspot'
    | phase => exact .both (Or.inr hspot)
  | publishPhase hspot =>
    obtain rfl := h.eq_nil (by simp) rfl
    exact .phase hspot
  | begin hspot => exact absurd hspot hbegin
  | idle => exact h
  | start hspot => exact h.of_outside (by simp) rfl hspot (by simp) rfl
  | stay hspot => exact h.of_outside (by simp) rfl hspot (by simp) rfl
  | park hspot => exact h.of_outside (by simp) rfl hspot (by simp) rfl
  | resume hspot => exact h.of_outside (by simp) rfl hspot (by simp) rfl
  | goOn hspot => exact h.of_outside (by simp) rfl hspot (by simp) rfl
  | stop hspot =>
    rcases hspot with hspot | hspot
    · exact h.of_outside (by simp) rfl hspot (by simp) rfl
    · exact h.of_outside (by simp) rfl hspot (by simp) rfl
  | quit hspot => exact h.of_outside (by simp) rfl hspot (by simp) rfl

end Unfinished
end Worker

namespace Owned

section Runs
variable {s : Session H} {before after : List (Event H)} {o o' : Owned H} {e : Option (Event H)}
  {rest : List (Event H)}

/-- **With the flag down every step keeps to the cycle under way.** -/
theorem unfinished_of_step (h : Coordinated before o) (hdown : o.worker.running = false)
    (hstep : Step o e o') (hrest : o'.worker.Unfinished rest) :
    o.worker.Unfinished (e.toList.filter Event.isOfThread ++ rest) := by
  cases hstep with
  | thread _ hruns =>
    have hadvances := Worker.advances_of_runs hruns
    have hbegin : o.worker.spot ≠ .leaving := fun hspot => by
      rw [h.up (Or.inr hspot)] at hdown
      cases hdown
    rw [List.filter_eq_self.2 fun x hx =>
      Worker.isOfThread_of_advances hadvances (Option.mem_toList.1 hx)]
    exact hrest.of_advances hadvances hbegin
  | clock => exact hrest.of_wake
  | call => exact hrest
  | lower => exact hrest.of_eq rfl rfl
  | wake => exact hrest.of_wake
  | release => exact hrest
  | join => exact hrest

/-- **With the flag down no wait begins.** -/
theorem waiting_of_step (h : Coordinated before o) (hdown : o.worker.running = false)
    (hstep : Step o e o') (hspot : o'.worker.spot = .waiting) : o.worker.spot = .waiting := by
  cases hstep with
  | thread _ hruns =>
    rcases Worker.waiting_of_advances (Worker.advances_of_runs hruns) hspot with hparking | hwaiting
    · rw [h.up (Or.inl hparking)] at hdown
      cases hdown
    · exact hwaiting
  | clock => exact absurd hspot (Worker.wake_spot_ne _)
  | wake => exact absurd hspot (Worker.wake_spot_ne _)
  | _ => exact hspot

/-- **Nothing is published by a thread that has stopped.** -/
theorem stopped_of_step (hstopped : o.worker.spot = .stopped) (hstep : Step o e o') :
    o'.worker.spot = .stopped ∧ o'.worker.input = o.worker.input ∧
      o'.worker.phase = o.worker.phase := by
  have hwake : o.worker.wake = o.worker := Worker.wake_eq_of_ne (by simp [hstopped])
  cases hstep with
  | thread _ hruns =>
    obtain ⟨rfl, -⟩ := Worker.eq_of_advances_stopped (Worker.advances_of_runs hruns) hstopped
    exact ⟨hstopped, rfl, rfl⟩
  | clock => exact ⟨hwake.symm ▸ hstopped, by simp, by simp⟩
  | wake => exact ⟨hwake.symm ▸ hstopped, by simp, by simp⟩
  | _ => exact ⟨hstopped, rfl, rfl⟩

/-- The flag stays down. -/
theorem running_of_run (h : Coordinated before o) (hdown : o.worker.running = false)
    (run : Run o after o') : o'.worker.running = false :=
  (h.run run).lowered_iff.2 (List.mem_append_left _ (h.lowered_iff.1 hdown))

theorem unfinished_of_run (h : Coordinated before o) (hdown : o.worker.running = false)
    (run : Run o after o') (hrest : o'.worker.Unfinished rest) :
    o.worker.Unfinished (after.filter Event.isOfThread ++ rest) := by
  induction run generalizing rest with
  | start => exact hrest
  | step past next ih =>
    rw [List.filter_append, List.append_assoc]
    exact ih (unfinished_of_step (h.run past) (running_of_run h hdown past) next hrest)

theorem waiting_of_run (h : Coordinated before o) (hdown : o.worker.running = false)
    (run : Run o after o') (hspot : o'.worker.spot = .waiting) : o.worker.spot = .waiting := by
  induction run with
  | start => exact hspot
  | step past next ih =>
    exact ih (waiting_of_step (h.run past) (running_of_run h hdown past) next hspot)

theorem stopped_of_run (hstopped : o.worker.spot = .stopped) (run : Run o after o') :
    o'.worker.spot = .stopped ∧ o'.worker.input = o.worker.input ∧
      o'.worker.phase = o.worker.phase := by
  induction run with
  | start => exact ⟨hstopped, rfl, rfl⟩
  | step _ next ih =>
    obtain ⟨hspot, hinput, hphase⟩ := ih
    obtain ⟨hspot', hinput', hphase'⟩ := stopped_of_step hspot next
    exact ⟨hspot', hinput'.trans hinput, hphase'.trans hphase⟩

/-- **A poller that is stopped comes to its end**, by a shutdown that nothing comes between:
its worker is woken if it waits, and does not wait again. -/
theorem stopped_of_stop {p p' : Poller H} {es : List (Exchange (hostInterface H))}
    (past : Run (.start s) before o) (hworker : o.worker = p.worker) (hidle : o.errand = .idle)
    (hfree : p.worker.spot.hasLock = false) (h : Runs p.stop es p') :
    p'.worker.spot = .stopped := by
  rw [← hworker] at hfree
  let lowered : Owned H :=
    { worker := o.worker.shutdown, errand := if o.handle then .joining else .idle, handle := false }
  have hlowered : Run (.start s) (before ++ [.lowers]) lowered := past.shutdown hidle hfree
  have hcoordinated := (coordinated_start s).run hlowered
  have hunlocked : lowered.errand.hasLock = false := by
    show (if o.handle then Errand.joining else .idle).hasLock = false
    split <;> rfl
  rw [Poller.stop, ← hworker] at h
  obtain ⟨⟨later, run⟩, hspot | hspot⟩ := (Run.start (o := lowered)).poll hunlocked h
  · have hwaiting := waiting_of_run hcoordinated (Worker.running_shutdown _) run hspot
    exact absurd hwaiting (Worker.wake_spot_ne _)
  · exact hspot

end Runs

/-- **A shutdown is final.**  Take a worker at any time, whatever the thread, the clock and
any number of shutdowns have done before, in any order, and whatever they do then.  The flag
is down just when a shutdown has lowered it.  From then on no cycle begins, and the thread
does nothing but finish the cycle under way, if there is one: it publishes the input and the
phase of that cycle at most, and each of them once.  The thread does not get into a wait any
more, and if it is still in one, the shutdown is about to wake it.  Once a shutdown has
waited for the end of the thread, what is published stays as it is. -/
theorem shutdown_of_run {s : Session H} {before after : List (Event H)} {o o' : Owned H}
    (past : Run (.start s) before o) (future : Run o after o') :
    (o.worker.running = false ↔ .lowers ∈ before) ∧
    (o.worker.running = false →
      .begins ∉ after ∧
      (∃ rest, o.worker.Unfinished rest ∧ after.filter Event.isOfThread <+: rest) ∧
      (o'.worker.spot = .waiting → o.worker.spot = .waiting) ∧
      (o.worker.spot = .waiting → o.errand = .waking)) ∧
    (.joins ∈ before → o'.worker.input = o.worker.input ∧ o'.worker.phase = o.worker.phase) := by
  have hcoordinated : Coordinated before o := (coordinated_start s).run past
  refine ⟨hcoordinated.lowered_iff, fun hdown => ?_, fun hjoins => ?_⟩
  · obtain ⟨last, hlast⟩ := Worker.exists_unfinished o'.worker
    have hrest := unfinished_of_run hcoordinated hdown future hlast
    refine ⟨fun hbegins => hrest.begins_not_mem ?_, ⟨_, hrest, List.prefix_append _ _⟩,
      waiting_of_run hcoordinated hdown future, fun hspot => hcoordinated.woken hspot hdown⟩
    exact List.mem_append_left _ (List.mem_filter.2 ⟨hbegins, rfl⟩)
  · exact (stopped_of_run (hcoordinated.joined hjoins) future).2

/-- The first cycle of a worker can be under way when a shutdown comes, and the shutdown
comes to its end. -/
theorem exists_run_shutdown {s s' : Session H} {es : List (Exchange (hostInterface H))} {v : UInt32}
    (hcycle : Runs s.cycle es (v, s')) : ∃ o o', Run (.start s) [.begins, .lowers] o ∧
      o.worker.spot = .cycling ∧ o.worker.running = false ∧
      Run o [.ends ⟨s, es, v, s'⟩, .input v, .phase s'.phase, .joins] o' := by
  let cycling : Owned H :=
    { worker := { Worker.start s with spot := .cycling, running := false }, errand := .joining,
      handle := false }
  have past : Run (.start s) [.begins, .lowers] cycling := (run_begins s).shutdown rfl rfl
  have hpublished := (Run.start (o := cycling)).finish rfl hcycle rfl
  have hstopped := (hpublished.advance (.stop (Or.inl rfl) rfl) (fun _ => rfl)).advance (.quit rfl)
    (fun _ => rfl)
  exact ⟨cycling, _, past, rfl, rfl, hstopped.step (.join rfl rfl)⟩

/-- A shutdown in a cycle that reads an input: the input is still published, and stays. -/
theorem shutdown_in_sample :
    ∃ (s : Session Unit) (t : Session.Turn Unit) (o o' : Owned Unit),
      Run (.start s) [.begins, .lowers] o ∧ o.worker.running = false ∧ o.worker.spot = .cycling ∧
      Run o [.ends t, .input 0x04030201, .phase .extracting, .joins] o' ∧
      (∃ rest, o.worker.Unfinished rest ∧
        [.ends t, .input 0x04030201, .phase .extracting] <+: rest) ∧
      ∀ after o'', Run o' after o'' →
        o''.worker.input = o'.worker.input ∧ o''.worker.phase = o'.worker.phase := by
  obtain ⟨read, hread⟩ := Session.Sample.runs_extract
  have hword : Session.Sample.word.word = 0x04030201 := by decide
  rw [hword] at hread
  obtain ⟨o, o', past, hspot, hdown, future⟩ := exists_run_shutdown hread
  obtain ⟨-, hfinal, -⟩ := shutdown_of_run past future
  obtain ⟨-, hrest, -, -⟩ := hfinal hdown
  refine ⟨_, ⟨_, read, _, _⟩, o, o', past, hdown, hspot, future, hrest, fun after o'' later => ?_⟩
  obtain ⟨-, -, hjoined⟩ := shutdown_of_run (past.trans future) later
  exact hjoined (by simp)

end Owned
end PadScout
