import PadScout.Proofs.Memory.Bytes
import PadScout.Proofs.Session.WellFormed

/-! # Histories of sessions

A `History` is what has happened in a session since it was new: the cycles it went
through, in order, with whatever was answered in them.  What the session knows is of one
piece all along (`wellFormed_of_history`).  While the input is read, one cycle of the history
has locked the memory that it is read from, and no cycle since has changed anything
(`exists_lock`).  So an input that is not zero was read from memory that still held the code
which was captured with the lock (`eq_zero_or_recognised`).
-/
namespace PadScout
namespace Session

open Dialogue (Exchange Runs)
open Inquiry (exchange)

variable {H : Type}

/-- A cycle that has happened. -/
structure Turn (H : Type) where
  before : Session H
  exchanges : List (Exchange (hostInterface H))
  input : UInt32
  after : Session H

/-- **What may have happened in a session**, and what it has come to. -/
inductive History (settings : Settings) : List (Turn H) → Session H → Prop where
  | new : History settings [] { settings }
  | cycle {turns : List (Turn H)} {s s' : Session H} {es : List (Exchange (hostInterface H))}
      {v : UInt32} (past : History settings turns s) (run : Runs s.cycle es (v, s')) :
      History settings (turns ++ [⟨s, es, v, s'⟩]) s'

namespace Turn

/-- The cycle captures the memory of an emulator and locks what discovery finds there. -/
def Locks (t : Turn H) (a : Attachment H) (ram : LockedRam) : Prop :=
  t.before.state = .locating a ∧ t.after.state = .extracting a ram ∧
    ∃ bytes, exchange (.read a.process ram.base (4 * t.before.settings.ramWords)) (.ok bytes) ∈
        t.exchanges ∧
      (Discovery.analyze ⟨bytes.words⟩).outcome = .ok ram.finding

/-- The cycle leaves the session as it is, with locked memory. -/
def Keeps (t : Turn H) (a : Attachment H) (ram : LockedRam) : Prop :=
  t.before.state = .extracting a ram ∧ t.after.state = .extracting a ram

end Turn

section Step
variable {s s' : Session H} {es : List (Exchange (hostInterface H))} {v : UInt32}
  {a : Attachment H} {ram : LockedRam}

/-- **A session gets to read the input** only by reading it already or by a lock. -/
theorem keeps_or_locks_of_cycle (hs : s.ram?.isSome → s.attachment?.isSome)
    (h : Runs s.cycle es (v, s')) (hs' : s'.state = .extracting a ram) :
    Turn.Keeps ⟨s, es, v, s'⟩ a ram ∨ Turn.Locks ⟨s, es, v, s'⟩ a ram := by
  have hs'' := hs'
  obtain ⟨ha, hram⟩ := state_eq_extracting_iff.1 hs''
  cases hstate : s.state with
  | searching =>
    have hnone := state_eq_searching_iff.1 hstate
    obtain ⟨-, hsearch⟩ := (runs_cycle_searching hstate).1 h
    rcases runs_search_iff.1 hsearch with ⟨e, -, rfl⟩ | ⟨pids, rest, found, -, -, rfl⟩
    · rw [hnone] at ha
      cases ha
    · -- memory would have been locked without an emulator
      have hsome := hs (by rw [hram]; rfl)
      rw [hnone] at hsome
      cases hsome
  | locating b =>
    have hb := (state_eq_locating_iff.1 hstate).1
    obtain ⟨-, ⟨-, rfl⟩ | ⟨rest, found, rfl, hlock, rfl⟩⟩ := (runs_cycle_locating hstate).1 h
    · cases ha
    · obtain rfl : b = a := Option.some.inj (hb.symm.trans ha)
      obtain rfl : found = some ram := hram
      obtain ⟨located, bytes, start, stop, -, rfl, houtcome⟩ := runs_lock_some.1 hlock
      exact Or.inr ⟨hstate, hs', bytes, by simp, houtcome⟩
  | extracting b locked =>
    rcases (runs_cycle_extracting hstate rfl).1 h with ⟨-, -, rfl⟩ | ⟨-, -, -, -, rfl⟩ |
      ⟨-, -, -, -, -, rfl⟩
    · cases ha
    · cases hram
    · exact Or.inl ⟨hs', hs'⟩

/-- **An input that is not zero** is read in memory that is recognised just before. -/
theorem eq_zero_or_read_of_cycle (h : Runs s.cycle es (v, s')) : v = 0 ∨
    ∃ a ram, Turn.Keeps ⟨s, es, v, s'⟩ a ram ∧ ∀ n, byteCount ram.finding.windowLength = n →
      ∃ (window : Bytes n) (word : Bytes 4), es = [exchange (.isAlive a.process) true,
        exchange (.read a.process ram.windowAddress n) (.ok window),
        exchange (.read a.process ram.inputAddress 4) (.ok word)] ∧
      window.words.toList = ram.finding.window ∧ v = word.word := by
  cases hs : s.state with
  | searching => exact Or.inl ((runs_cycle_searching hs).1 h).1
  | locating b => exact Or.inl ((runs_cycle_locating hs).1 h).1
  | extracting b locked =>
    by_cases hv : v = 0
    · exact Or.inl hv
    · refine Or.inr ⟨b, locked, ⟨hs, ?_⟩, fun n hn => ?_⟩
      · rcases (runs_cycle_extracting hs rfl).1 h with ⟨-, h0, -⟩ | ⟨-, -, -, h0, -⟩ |
          ⟨-, -, -, -, -, rfl⟩
        · exact absurd h0 hv
        · exact absurd h0 hv
        · exact hs
      · rcases (runs_cycle_extracting hs hn).1 h with ⟨-, h0, -⟩ | ⟨-, -, -, h0, -⟩ |
          ⟨window, word, hes, hknown, hword, -⟩
        · exact absurd h0 hv
        · exact absurd h0 hv
        · cases window with
          | error e => cases hknown
          | ok window =>
            cases word with
            | error e => exact absurd hword hv
            | ok word =>
              exact ⟨window, word, hes, Finding.verify_eq_true_iff.1 hknown, hword⟩

end Step

section Runs
variable {settings : Settings} {turns : List (Turn H)} {s : Session H}

theorem settings_of_history (h : History settings turns s) : s.settings = settings := by
  induction h with
  | new => rfl
  | cycle _ run ih => exact (settings_of_cycle run).trans ih

theorem settings_of_mem {t : Turn H} (h : History settings turns s) (ht : t ∈ turns) :
    t.before.settings = settings := by
  induction h with
  | new => exact absurd ht List.not_mem_nil
  | cycle past _ ih =>
    rcases List.mem_append.1 ht with ht | ht
    · exact ih ht
    · rw [List.mem_singleton.1 ht]
      exact settings_of_history past

/-- **What a session knows is of one piece all along.** -/
theorem wellFormed_of_history (h : History settings turns s) : WellFormed settings s := by
  induction h with
  | new => exact wellFormed_reset settings { settings }
  | cycle past run ih =>
    have hsettings := settings_of_history past
    subst hsettings
    exact wellFormed_of_cycle ih run

/-- **Memory that the input is read from was locked** by a cycle of the history, and all
cycles since have left the lock alone. -/
theorem exists_lock {a : Attachment H} {ram : LockedRam} (h : History settings turns s)
    (hs : s.state = .extracting a ram) : ∃ older lock since, turns = older ++ lock :: since ∧
      lock.Locks a ram ∧ ∀ t ∈ since, t.Keeps a ram := by
  induction h with
  | new => cases hs
  | @cycle turns s s' es v past run ih =>
    rcases keeps_or_locks_of_cycle (wellFormed_of_history past).attached run hs with
      hkeeps | hlocks
    · obtain ⟨older, lock, since, rfl, hlock, hsince⟩ := ih hkeeps.1
      refine ⟨older, lock, since ++ [⟨s, es, v, s'⟩], by simp, hlock, fun t ht => ?_⟩
      rcases List.mem_append.1 ht with ht | ht
      · exact hsince t ht
      · rw [List.mem_singleton.1 ht]
        exact hkeeps
    · exact ⟨turns, _, [], rfl, hlocks, by simp⟩

end Runs

/-- **A reading is what it seems to be.**  Whatever has happened before and whatever is
answered in it, a cycle has input zero, or the session reads the input before and after
it in the same way, and in this cycle the emulator is alive, the window holds the twenty
words that it held in the image which was captured at the same base of the same process
when the memory was locked, and the input is the word that stands at its place. -/
theorem eq_zero_or_recognised {settings : Settings} {turns : List (Turn H)} {s s' : Session H}
    {es : List (Exchange (hostInterface H))} {v : UInt32} (h : History settings turns s)
    (run : Runs s.cycle es (v, s')) : v = 0 ∨
    ∃ a ram window word, s.state = .extracting a ram ∧ s'.state = .extracting a ram ∧
      es = [exchange (.isAlive a.process) true,
        exchange (.read a.process (ram.base.plus (UInt64.ofNat (4 * ram.finding.windowStart)))
          (4 * ram.finding.windowLength)) (.ok window),
        exchange (.read a.process (ram.base.plus ram.finding.inputOffset.toUInt64) 4)
          (.ok word)] ∧
      window.words.toList = ram.finding.window ∧ v = word.word ∧
      ∃ older lock since bytes, turns = older ++ lock :: since ∧
        lock.before.state = .locating a ∧ lock.after.state = .extracting a ram ∧
        (∀ t ∈ since, t.before.state = .extracting a ram ∧ t.after.state = .extracting a ram) ∧
        exchange (.read a.process ram.base (4 * settings.ramWords)) (.ok bytes) ∈
          lock.exchanges ∧
        (Discovery.analyze ⟨bytes.words⟩).outcome = .ok ram.finding ∧
        ram.finding.windowLength = 20 ∧
        ∀ i < 20, ram.finding.window[i]? = bytes.words[ram.finding.windowStart + i]? := by
  rcases eq_zero_or_read_of_cycle run with hv | ⟨a, ram, ⟨hs, hs'⟩, hread⟩
  · exact Or.inl hv
  · obtain ⟨older, lock, since, rfl, ⟨hbefore, hafter, bytes, hcapture, houtcome⟩, hsince⟩ :=
      exists_lock h hs
    obtain ⟨-, hlength, hwords⟩ :=
      Image.window?_eq_some_iff.1 (Discovery.window?_of_analyze houtcome)
    obtain ⟨window, word, hes, hwindow, hv⟩ := hread _ (Finding.byteCount_windowLength hlength)
    obtain rfl : lock.before.settings = settings := settings_of_mem h (by simp)
    exact Or.inr ⟨a, ram, window, word, hs, hs', hes, hwindow, hv, older, lock, since, bytes, rfl,
      hbefore, hafter, hsince, hcapture, houtcome, hlength, hwords⟩

/-! ## A small session -/

namespace Sample

def host : Host := { processName := "n64", strategy := .regionScan }

/-- Every word is magic, and memory is as small as the small memory. -/
def settings : Settings := { hosts := [host], ramSize := 528, magicValue := 0, magicMask := 0 }

/-- One process with one region that can be read and written. -/
def answer : (q : Question Unit) → q.Answer
  | .processIds => .ok [7]
  | .attach _ => some ()
  | .isAlive _ => true
  | .nameOf _ => some host.processName
  | .regions _ => .ok [{ base := ⟨0x10000⟩, size := 0x1000, protection := .ofBits 3 }]
  | .modules _ => .ok []
  | .read _ _ n => .ok ⟨⟨Array.replicate n 1⟩, by simp [ByteArray.size]⟩
  | .time => ⟨0⟩

def attachment : Attachment Unit := ⟨7, (), host⟩

def ram : LockedRam := ⟨⟨0x10000⟩, Discovery.Sample.compactFinding⟩

/-- The small memory as it is read. -/
def captured : Bytes (4 * settings.ramWords) :=
  ⟨Discovery.Sample.compact.toBytes, by
    rw [size_toBytes, show Discovery.Sample.compact.size = settings.ramWords by decide +kernel]⟩

/-- The window as it is read. -/
def window : Bytes (4 * ram.finding.windowLength) :=
  ⟨Image.toBytes ⟨Discovery.Sample.compact.words.extract 106 126⟩, by
    rw [size_toBytes, Finding.windowLength, ram, Discovery.Sample.compactFinding,
      Array.length_toList, Image.size]⟩

def word : Bytes 4 := ⟨⟨#[1, 2, 3, 4]⟩, rfl⟩

theorem runs_search : ∃ es, Runs (cycle { settings } : Inquiry Unit (UInt32 × Session Unit)) es
    (0, ofState settings (.locating attachment)) :=
  Inquiry.exists_runs_of_execute (show (Dialogue.execute answer _).2 = _ from rfl)

theorem runs_locate : ∃ es, Runs (attachment.locate settings) es (.ok (some ram.base)) :=
  Inquiry.exists_runs_of_execute (show (Dialogue.execute answer _).2 = _ from rfl)

theorem runs_lock : ∃ es, Runs (cycle (ofState settings (.locating attachment))) es
    (0, ofState settings (.extracting attachment ram)) := by
  have houtcome : (Discovery.analyze ⟨captured.words⟩).outcome = .ok ram.finding := by
    rw [Bytes.words, captured, wordsOfBytes_toBytes]
    exact Discovery.outcome_analyze_compact
  obtain ⟨located, hlocate⟩ := Sample.runs_locate
  have hlock := runs_lock_some.2 ⟨located, captured, ⟨0⟩, ⟨0⟩, hlocate, rfl, houtcome⟩
  exact ⟨_, (runs_cycle_locating rfl).2 ⟨rfl, Or.inr ⟨_, some ram, rfl, hlock, rfl⟩⟩⟩

theorem runs_extract : ∃ es, Runs (cycle (ofState settings (.extracting attachment ram))) es
    (word.word, ofState settings (.extracting attachment ram)) := by
  have hlength : ram.finding.windowLength = 20 :=
    (Discovery.windowOf_of_analyze Discovery.outcome_analyze_compact).length
  have hknown : recognises ram.finding (.ok window) = true := by
    rw [recognises, Finding.verify_eq_true_iff, Bytes.words, window, wordsOfBytes_toBytes, ram,
      Discovery.Sample.compactFinding]
  exact ⟨_, (runs_cycle_extracting rfl (Finding.byteCount_windowLength hlength)).2
    (Or.inr (Or.inr ⟨.ok window, .ok word, rfl, hknown, rfl, rfl⟩))⟩

end Sample

/-- A session that finds the small memory, locks it and reads an input. -/
theorem recognised_in_sample :
    ∃ (turns : List (Turn Unit)) (s : Session Unit) (es : List (Exchange (hostInterface Unit))),
      History Sample.settings turns s ∧ Runs s.cycle es (0x04030201, s) ∧
      s.state = .extracting Sample.attachment Sample.ram ∧
      ∃ lock ∈ turns, lock.before.state = .locating Sample.attachment ∧
        lock.after.state = .extracting Sample.attachment Sample.ram := by
  obtain ⟨searched, hsearch⟩ := Sample.runs_search
  obtain ⟨locked, hlock⟩ := Sample.runs_lock
  obtain ⟨read, hread⟩ := Sample.runs_extract
  have hpast := (History.new.cycle hsearch).cycle hlock
  rcases eq_zero_or_recognised hpast hread with hv | ⟨a, ram, -, -, hs, -, -, -, -, older, lock,
    since, -, hturns, hbefore, hafter, -⟩
  · exact absurd hv (by decide)
  · cases hs
    exact ⟨_, _, read, hpast, hread, rfl, lock, by rw [hturns]; simp, hbefore, hafter⟩

end Session
end PadScout
