import PadScout.Session.Basic

/-! # States of sessions

A session keeps an emulator and its memory in two places, each of which may be empty.  Seen as
a whole, it is in one of three states: it knows nothing, or an emulator, or an emulator with
its memory (`Session.state`).  Memory without an emulator is in none of them, so the state is
all that a session knows just when there is no such memory (`Session.ofState_state_iff`).  That
there is none is for the cycles to see to.
-/
namespace PadScout
namespace Session

variable {H : Type}

/-- What a session knows, as a whole. -/
inductive State (H : Type) where
  | searching
  | locating (emulator : Attachment H)
  | extracting (emulator : Attachment H) (ram : LockedRam)

namespace State

def phase : State H → Phase
  | searching => .searching
  | locating _ => .locating
  | extracting .. => .extracting

/-- The state in which the memory of an emulator was locked, or was not. -/
def ofLock (a : Attachment H) : Option LockedRam → State H
  | some ram => .extracting a ram
  | none => .locating a

end State

/-- The state of a session.  Memory is looked at only beside an emulator. -/
def state (s : Session H) : State H :=
  match s.attachment? with
  | some a => .ofLock a s.ram?
  | none => .searching

/-- A session that knows just what a state says. -/
def ofState (settings : Settings) : State H → Session H
  | .searching => { settings }
  | .locating a => { settings, attachment? := some a }
  | .extracting a ram => { settings, attachment? := some a, ram? := some ram }

section
variable {s : Session H} {a : Attachment H} {ram : LockedRam}

theorem state_eq_searching_iff : s.state = .searching ↔ s.attachment? = none := by
  obtain ⟨settings, _ | a, _ | ram⟩ := s <;> simp [state, State.ofLock]

theorem state_eq_locating_iff : s.state = .locating a ↔ s.attachment? = some a ∧ s.ram? = none := by
  obtain ⟨settings, _ | b, _ | ram⟩ := s <;> simp [state, State.ofLock]

theorem state_eq_extracting_iff :
    s.state = .extracting a ram ↔ s.attachment? = some a ∧ s.ram? = some ram := by
  obtain ⟨settings, _ | b, _ | locked⟩ := s <;> simp [state, State.ofLock]

theorem phase_state (s : Session H) : s.state.phase = s.phase := by
  obtain ⟨settings, _ | a, _ | ram⟩ := s <;> rfl

@[simp] theorem state_ofState (settings : Settings) (state : State H) :
    (ofState settings state).state = state := by
  cases state <;> rfl

/-- **The state is all that a session knows** just when memory belongs to an emulator. -/
theorem ofState_state_iff :
    ofState s.settings s.state = s ↔ (s.ram?.isSome → s.attachment?.isSome) := by
  obtain ⟨settings, _ | a, _ | ram⟩ := s <;> simp [state, State.ofLock, ofState]

/-- A session that extracts knows its emulator and the memory, and nothing else. -/
theorem exists_ofState_of_extracting (hs : s.state = .extracting a ram) :
    ∃ settings, s = ofState settings (.extracting a ram) := by
  obtain ⟨ha, -⟩ := state_eq_extracting_iff.1 hs
  refine ⟨s.settings, ?_⟩
  rw [← hs]
  exact (ofState_state_iff.2 fun _ => by rw [ha]; rfl).symm

end

end Session
end PadScout
