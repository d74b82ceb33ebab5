import PadScout.Proofs.Discovery.Analysis
import PadScout.Proofs.Session.Cycle

/-! # What a session knows is of one piece

A session keeps an emulator and locked memory in two places that cycles change one at a time.
Still, memory is locked only beside an emulator, the emulator is an instance of a configured
host, and the window of a finding lies in memory (`Session.WellFormed`).  Each change that a
cycle may make keeps this (`wellFormed_reset`, `WellFormed.attach`, `WellFormed.withRam`), and
so does the cycle (`wellFormed_of_cycle`).
-/
namespace PadScout
namespace Session

open Dialogue (Exchange Runs)

variable {H : Type}

/-- **What a session knows is of one piece.** -/
structure WellFormed (settings : Settings) (s : Session H) : Prop where
  /-- Locked memory belongs to an emulator. -/
  attached : s.ram?.isSome → s.attachment?.isSome
  /-- The emulator is an instance of a host from the settings. -/
  configured : ∀ a, s.attachment? = some a → a.host ∈ settings.hosts
  /-- The window has twenty words and lies in memory. -/
  inside : ∀ ram, s.ram? = some ram →
    ram.finding.windowLength = 20 ∧ ram.finding.windowStart + 20 ≤ settings.ramWords

section
variable {settings : Settings} {s s' : Session H} {es : List (Exchange (hostInterface H))}
  {v : UInt32} {a : Attachment H}

/-- Where no emulator is known, no memory is locked. -/
theorem WellFormed.ram?_eq_none (h : WellFormed settings s) (ha : s.attachment? = none) :
    s.ram? = none := by
  cases hram : s.ram? with
  | none => rfl
  | some ram =>
    have hsome := h.attached (by rw [hram]; rfl)
    rw [ha] at hsome
    cases hsome

/-- The state is all that such a session knows. -/
theorem WellFormed.ofState_state (h : WellFormed settings s) : ofState s.settings s.state = s :=
  ofState_state_iff.2 h.attached

/-! ## Changes -/

theorem wellFormed_reset (settings : Settings) (s : Session H) : WellFormed settings s.reset :=
  ⟨nofun, nofun, nofun⟩

/-- An emulator is found where there was none. -/
theorem WellFormed.attach (h : WellFormed settings s) (hnone : s.attachment? = none)
    {found : Option (Attachment H)} (hfound : ∀ a, found = some a → a.host ∈ settings.hosts) :
    WellFormed settings { s with attachment? := found } where
  attached hram := by
    rw [h.ram?_eq_none hnone] at hram
    cases hram
  configured := hfound
  inside := h.inside

/-- Memory of the emulator is locked, or given up. -/
theorem WellFormed.withRam (h : WellFormed settings s) (ha : s.attachment? = some a)
    {found : Option LockedRam} (hfound : ∀ ram, found = some ram →
      ram.finding.windowLength = 20 ∧ ram.finding.windowStart + 20 ≤ settings.ramWords) :
    WellFormed settings { s with ram? := found } where
  attached _ := by rw [ha]; rfl
  configured := h.configured
  inside := hfound

/-- The window of a finding lies in the memory that was captured. -/
theorem inside_of_lock {found : Option LockedRam} (h : Runs (lock settings a) es found) :
    ∀ ram, found = some ram →
      ram.finding.windowLength = 20 ∧ ram.finding.windowStart + 20 ≤ settings.ramWords := by
  rintro ram rfl
  obtain ⟨-, bytes, -, -, -, -, houtcome⟩ := runs_lock_some.1 h
  have hwindow := Discovery.windowOf_of_analyze houtcome
  exact ⟨hwindow.length, bytes.size_words ▸ hwindow.inside⟩

/-- **A cycle keeps what a session knows of one piece.** -/
theorem wellFormed_of_cycle (h : WellFormed s.settings s) (run : Runs s.cycle es (v, s')) :
    WellFormed s.settings s' := by
  cases hs : s.state with
  -- only a search brings an emulator, and only a lock brings memory
  | searching =>
    obtain ⟨-, hsearch⟩ := (runs_cycle_searching hs).1 run
    rcases runs_search_iff.1 hsearch with ⟨e, -, rfl⟩ | ⟨pids, rest, found, -, hfound, rfl⟩
    · exact h
    · exact h.attach (state_eq_searching_iff.1 hs) fun a ha =>
        Attachment.host_mem_of_firstOf (ha ▸ hfound)
  | locating a =>
    obtain ⟨-, ⟨-, rfl⟩ | ⟨rest, found, -, hlock, rfl⟩⟩ := (runs_cycle_locating hs).1 run
    · exact wellFormed_reset _ s
    · exact h.withRam (state_eq_locating_iff.1 hs).1 (inside_of_lock hlock)
  | extracting a ram =>
    rcases (runs_cycle_extracting hs rfl).1 run with ⟨-, -, rfl⟩ | ⟨-, -, -, -, rfl⟩ |
      ⟨-, -, -, -, -, rfl⟩
    · exact wellFormed_reset _ s
    · exact h.withRam (state_eq_extracting_iff.1 hs).1 nofun
    · exact h

/-- A cycle leaves the settings alone. -/
theorem settings_of_cycle (run : Runs s.cycle es (v, s')) : s'.settings = s.settings := by
  cases hs : s.state with
  | searching =>
    obtain ⟨-, hsearch⟩ := (runs_cycle_searching hs).1 run
    rcases runs_search_iff.1 hsearch with ⟨e, -, rfl⟩ | ⟨pids, rest, found, -, -, rfl⟩
    · rfl
    · rfl
  | locating a =>
    obtain ⟨-, ⟨-, rfl⟩ | ⟨rest, found, -, -, rfl⟩⟩ := (runs_cycle_locating hs).1 run
    · rfl
    · rfl
  | extracting a ram =>
    rcases (runs_cycle_extracting hs rfl).1 run with ⟨-, -, rfl⟩ | ⟨-, -, -, -, rfl⟩ |
      ⟨-, -, -, -, -, rfl⟩
    · rfl
    · rfl
    · rfl

end

end Session
end PadScout
