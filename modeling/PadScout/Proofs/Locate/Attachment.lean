import PadScout.Locate.Attachment
import PadScout.Proofs.Host.Inquiry

/-! # What attaching can come to

A process that is attached to goes by the name of one of the hosts (`host_mem_of_firstOf`),
and the search for one begins with the question which processes there are (`runs_find`).
Looking for the console's memory never touches on whether the process is alive
(`Attachment.leavesLife_locate`).
-/
namespace PadScout

open Dialogue (Asks Exchange Runs)
open Inquiry (exchange)

variable {H : Type} {es : List (Exchange (hostInterface H))}

namespace Attachment
variable {s : Settings} {a : Attachment H}

/-- **An emulator is an instance of a host** from the settings. -/
theorem host_mem_of_firstOf {pids : List Pid} (h : Runs (firstOf s pids) es (some a)) :
    a.host ∈ s.hosts := by
  induction pids generalizing es with
  | nil => cases (Dialogue.runs_done_iff.1 h).2
  | cons pid pids ih =>
    rw [firstOf] at h
    obtain ⟨key, rest, -, h⟩ := Inquiry.runs_ask_bind.1 h
    match key, h with
    | none, h => exact ih h
    | some process, h =>
      obtain ⟨name, rest, -, h⟩ := Inquiry.runs_ask_bind.1 h
      match name, h with
      | none, h => exact ih h
      | some name, h =>
        dsimp only at h
        cases hhost : s.hostFor? name with
        | none =>
          rw [hhost] at h
          exact ih h
        | some host =>
          rw [hhost] at h
          obtain ⟨-, hresult⟩ := Dialogue.runs_done_iff.1 (Dialogue.runs_remark_iff.1 h)
          cases hresult
          exact List.mem_of_find?_eq_some hhost

/-- **A search asks which processes there are**, and goes through them if it is told. -/
theorem runs_find {result : Except LocateError (Option (Attachment H))} :
    Runs (find s) es result ↔
      (∃ e, es = [exchange .processIds (.error e)] ∧ result = .error (.memory e)) ∨
      ∃ pids rest found, es = exchange .processIds (.ok pids) :: rest ∧
        Runs (firstOf s pids) rest found ∧ result = .ok found := by
  unfold find
  rw [Inquiry.runs_ask_bind]
  constructor
  · rintro ⟨x, rest, rfl, h⟩
    match x, h with
    | .error e, h =>
      obtain ⟨rfl, rfl⟩ := Dialogue.runs_done_iff.1 h
      exact Or.inl ⟨e, rfl, rfl⟩
    | .ok pids, h =>
      obtain ⟨before, after, found, rfl, hfound, h⟩ := Dialogue.runs_bind.1 h
      obtain ⟨rfl, rfl⟩ := Dialogue.runs_done_iff.1 h
      exact Or.inr ⟨pids, before, found, by rw [List.append_nil], hfound, rfl⟩
  · rintro (⟨e, rfl, rfl⟩ | ⟨pids, rest, found, rfl, hfound, rfl⟩)
    · exact ⟨.error e, [], rfl, .done _⟩
    · exact ⟨.ok pids, rest, rfl,
        Dialogue.runs_bind.2 ⟨rest, [], found, (List.append_nil _).symm, hfound, .done _⟩⟩

end Attachment

/-! ## Looking for memory -/

/-- A question about anything but whether a process is alive. -/
def Question.LeavesLife : Question H → Prop
  | .isAlive _ => False
  | _ => True

/-- An inquiry into anything but whether a process is alive. -/
def Inquiry.LeavesLife {α : Type} (d : Inquiry H α) : Prop := Asks Question.LeavesLife d

section
variable {process : H}

theorem Inquiry.leavesLife_readWord (address : Address) :
    (Inquiry.readWord process address).LeavesLife := by
  intro es b h
  obtain ⟨x, rfl, -⟩ := Inquiry.runs_readWord.1 h
  simp [exchange, Question.LeavesLife]

theorem MagicWord.leavesLife_test (w : MagicWord) (base : Address) :
    (w.test process base).LeavesLife := by
  unfold MagicWord.test
  cases base.add? w.offset with
  | none => exact Dialogue.asks_done _
  | some address =>
    refine (Inquiry.leavesLife_readWord address).bind fun x => ?_
    cases x with
    | ok word => exact Dialogue.asks_done _
    | error e => exact (Dialogue.asks_done _).remark _

theorem Strategy.leavesLife_firstFit (w : MagicWord) (places : List Address) :
    (Strategy.firstFit w process places).LeavesLife := by
  induction places with
  | nil => exact Dialogue.asks_done _
  | cons place places ih =>
    refine (MagicWord.leavesLife_test w place).bind fun fits => ?_
    cases fits with
    | true => exact Dialogue.asks_done _
    | false => exact ih

theorem Strategy.leavesLife_locate (strategy : Strategy) :
    (strategy.locate process).LeavesLife := by
  unfold Strategy.locate
  cases strategy with
  | regionScan w =>
    refine Inquiry.asks_ask_bind trivial fun x => ?_
    cases (x : Except MemoryError (List Region)) with
    | error e => exact Dialogue.asks_done _
    | ok regions =>
      exact Asks.remark ((leavesLife_firstFit w _).bind fun _ => Dialogue.asks_done _) _
  | moduleScan w filter step =>
    refine Inquiry.asks_ask_bind trivial fun x => ?_
    cases (x : Except MemoryError (List Module)) with
    | error e => exact Dialogue.asks_done _
    | ok modules =>
      dsimp only
      cases Strategy.selectModule filter modules with
      | none => exact (Dialogue.asks_done _).remark _
      | some m =>
        dsimp only
        rw [Strategy.strideFit_eq]
        exact Asks.remark ((leavesLife_firstFit w _).bind fun _ => Dialogue.asks_done _) _

end

/-- **To look for memory is not to ask whether a process is alive.** -/
theorem Attachment.leavesLife_locate (s : Settings) (a : Attachment H) :
    (a.locate s).LeavesLife := by
  unfold Attachment.locate
  cases Strategy.ofHost s a.host with
  | error e => exact Dialogue.asks_done _
  | ok strategy =>
    refine (Strategy.leavesLife_locate strategy).bind fun x => ?_
    cases x with
    | error e => exact Dialogue.asks_done _
    | ok found => exact (Dialogue.asks_done _).remark _

end PadScout
