import PadScout.Locate.Attachment
import PadScout.Proofs.Locate.Attachment
import PadScout.Proofs.Search

/-! # Finding an emulator

What comes of looking at one process is listed by `Attachment.Checked`: a process that
cannot be opened, has no name or goes by the name of no host is passed over.  A search for
an emulator asks which processes there are and looks at them in turn (`runs_find_iff`).
-/
namespace PadScout

open Dialogue (Exchange Runs Searched firstSome)
open Inquiry (exchange)

/-- A process of this name is an instance of the host; capitals from A to Z do not count. -/
def Host.SameName (name : String) (h : Host) : Prop :=
  Case.asciiLower h.processName.toList = Case.asciiLower name.toList

theorem Host.matchesName_iff {h : Host} {name : String} :
    h.matchesName name = true ↔ h.SameName name := by
  rw [matchesName, Case.asciiEqual, beq_iff_eq, SameName]

theorem Settings.hostFor?_eq_some_iff {s : Settings} {name : String} {h : Host} :
    s.hostFor? name = some h ↔ FirstOf (Host.SameName name) s.hosts h :=
  find?_eq_some_iff_firstOf fun _ => Host.matchesName_iff

theorem Settings.hostFor?_eq_none_iff {s : Settings} {name : String} :
    s.hostFor? name = none ↔ ∀ h ∈ s.hosts, ¬ h.SameName name := by
  rw [hostFor?, List.find?_eq_none]
  simp only [Host.matchesName_iff]

namespace Attachment

variable {H : Type} {s : Settings}

/-- **What comes of looking at one process**: it is attached to if it can be opened, has a
name, and a host goes by that name; the first such host counts. -/
inductive Checked (s : Settings) (pid : Pid) :
    List (Exchange (hostInterface H)) → Option (Attachment H) → Prop where
  | closed : Checked s pid [exchange (.attach pid) none] none
  | nameless (process : H) : Checked s pid
      [exchange (.attach pid) (some process), exchange (.nameOf process) none] none
  | stranger (process : H) (name : String) (hstranger : ∀ h ∈ s.hosts, ¬ h.SameName name) :
      Checked s pid
        [exchange (.attach pid) (some process), exchange (.nameOf process) (some name)] none
  | emulator (process : H) (name : String) (host : Host)
      (hhost : FirstOf (Host.SameName name) s.hosts host) : Checked s pid
        [exchange (.attach pid) (some process), exchange (.nameOf process) (some name)]
        (some ⟨pid, process, host⟩)

/-- The second half of a look at a process, once it is open. -/
def checkName (s : Settings) (pid : Pid) (process : H) : Inquiry H (Option (Attachment H)) := do
  match ← Inquiry.ask (.nameOf process) with
  | none => return none
  | some name =>
    match s.hostFor? name with
    | none => return none
    | some host =>
      Dialogue.note .info .locator fun _ =>
        "attached to " ++ name ++ " (pid " ++ Decimal.text pid.toNat ++ ")"
      return some ⟨pid, process, host⟩

/-- A look at one process. -/
def check (s : Settings) (pid : Pid) : Inquiry H (Option (Attachment H)) := do
  match ← Inquiry.ask (.attach pid) with
  | none => return none
  | some process => checkName s pid process

theorem firstOf_eq_firstSome (pids : List Pid) :
    (firstOf s pids : Inquiry H (Option (Attachment H))) = firstSome (check s) pids := by
  induction pids with
  | nil => rfl
  | cons pid pids ih =>
    rw [firstOf, firstSome, check, Dialogue.bind_bind, ← ih]
    refine congrArg (Inquiry.ask (.attach pid) >>= ·) (funext fun key => ?_)
    cases key with
    | none => rfl
    | some process =>
      refine (congrArg (Inquiry.ask (.nameOf process) >>= ·) (funext fun name => ?_)).trans
        (Dialogue.bind_bind _ _ _).symm
      cases name with
      | none => rfl
      | some name =>
        dsimp only
        cases s.hostFor? name <;> rfl

theorem runs_checkName {pid : Pid} {process : H} {es : List (Exchange (hostInterface H))}
    {found : Option (Attachment H)} : Runs (checkName s pid process) es found ↔
      ∃ name : Option String, es = [exchange (.nameOf process) name] ∧
        found = (name.bind s.hostFor?).map fun host => ⟨pid, process, host⟩ := by
  refine Inquiry.runs_ask_of_silent fun name => ?_
  match name with
  | none => exact Dialogue.silent_done _
  | some name =>
    dsimp only [Option.bind_some]
    cases s.hostFor? name with
    | none => exact Dialogue.silent_done _
    | some host => exact (Dialogue.silent_done _).remark _

theorem runs_check {pid : Pid} {es : List (Exchange (hostInterface H))}
    {found : Option (Attachment H)} : Runs (check s pid) es found ↔ Checked s pid es found := by
  rw [check, Inquiry.runs_ask_bind]
  constructor
  · rintro ⟨key, rest, rfl, h⟩
    match key, h with
    | none, h =>
      obtain ⟨rfl, rfl⟩ := Dialogue.runs_done_iff.1 h
      exact .closed
    | some process, h =>
      obtain ⟨name, rfl, rfl⟩ := runs_checkName.1 h
      cases name with
      | none => exact .nameless process
      | some name =>
        rw [Option.bind_some]
        cases hhost : s.hostFor? name with
        | none => exact .stranger process name (Settings.hostFor?_eq_none_iff.1 hhost)
        | some host => exact .emulator process name host (Settings.hostFor?_eq_some_iff.1 hhost)
  · intro h
    cases h with
    | closed => exact ⟨none, [], rfl, .done _⟩
    | nameless process =>
      exact ⟨some process, _, rfl, runs_checkName.2 ⟨none, rfl, rfl⟩⟩
    | stranger process name hstranger =>
      refine ⟨some process, _, rfl, runs_checkName.2 ⟨some name, rfl, ?_⟩⟩
      rw [Option.bind_some, Settings.hostFor?_eq_none_iff.2 hstranger, Option.map_none]
    | emulator process name host hhost =>
      refine ⟨some process, _, rfl, runs_checkName.2 ⟨some name, rfl, ?_⟩⟩
      rw [Option.bind_some, Settings.hostFor?_eq_some_iff.2 hhost, Option.map_some]

/-- **What a search for an emulator can come to**, whatever is answered. -/
theorem runs_find_iff {es : List (Exchange (hostInterface H))}
    {result : Except LocateError (Option (Attachment H))} :
    Runs (find s) es result ↔
      (∃ e, es = [exchange .processIds (.error e)] ∧ result = .error (.memory e)) ∨
      ∃ pids rest found, es = exchange .processIds (.ok pids) :: rest ∧
        Searched (Checked s) pids rest found ∧ result = .ok found := by
  rw [runs_find]
  simp only [firstOf_eq_firstSome, Dialogue.runs_firstSome fun _ _ _ => runs_check]

end Attachment
end PadScout
