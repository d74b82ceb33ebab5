import PadScout.CommandLine.Commands
import PadScout.CommandLine.FileTree
import PadScout.Host.SimulatedKernel

/-! # Simulated surroundings

Surroundings in memory, in which commands can be run without touching anything:
a tree of files, processes of a table behind a kernel, a clock that only moves
when somebody sleeps, and all that has been written.  Output may be cut off after
a number of lines, and processes may change when a line has been printed.
-/
namespace PadScout
namespace CommandLine

/-- Simulated surroundings. -/
structure Simulation where
  files : FileTree := {}
  table : ProcessTable := {}
  clock : Duration := ⟨0⟩
  /-- The texts that were printed, the last one first. -/
  printed : List String := []
  /-- The texts among the errors, the last one first. -/
  errors : List String := []
  /-- Where log lines go. -/
  logTarget : Option Target := none
  /-- The number of lines that were printed. -/
  lines : Nat := 0
  /-- The number of lines after which all ends. -/
  lineLimit : Option Nat := none
  /-- Changes of the processes, each with the number of the line after which it
  happens. -/
  changes : List (Nat × (ProcessTable → ProcessTable)) := []

namespace Simulation

/-! ## Writing -/

/-- Makes a file that is missing, and removes what was in it. -/
def clear (s : Simulation) : Target → Simulation
  | .file place => { s with files := s.files.change place fun _ => .empty }
  | .device _ => s

/-- Makes a file that is missing. -/
def touch (s : Simulation) : Target → Simulation
  | .file place => { s with files := s.files.change place id }
  | .device _ => s

/-- Adds a text at the end. -/
def append (s : Simulation) (text : String) : Target → Except SystemError Simulation
  | .file place => .ok { s with files := s.files.change place fun held => held ++ text.toUTF8 }
  | .device .output => .ok { s with printed := text :: s.printed }
  | .device .errors => .ok { s with errors := text :: s.errors }
  | .device .full => .error .noSpace
  | .device _ => .ok s

/-- Writes a text in place of what was there. -/
def write (s : Simulation) (path text : String) : Except SystemError Simulation := do
  let target ← s.files.target? path
  (s.clear target).append text target

/-- Gets ready for log lines. -/
def openLog (s : Simulation) (path : String) : Except SystemError Simulation := do
  let target ← s.files.target? path
  return { s.touch target with logTarget := some target }

/-- Adds a log line.  Nobody hears of it if there is no room. -/
def log (s : Simulation) (line : String) : Simulation :=
  match s.logTarget with
  | none => s
  | some target => (s.append (line ++ "\n") target).toOption.getD s

/-! ## Requests -/

/-- A step that may be the last. -/
abbrev Run := OptionT (StateM Simulation)

/-- Writes, and says what came of it. -/
def attempt (f : Simulation → Except SystemError Simulation) : Run (Except SystemError Unit) := do
  match f (← get) with
  | .ok s =>
    set s
    return .ok ()
  | .error e => return .error e

/-- Prints a line, after which processes may change or all may end. -/
def print (line : String) : Run Unit := do
  let s ← get
  let lines := s.lines + 1
  let table := (s.changes.filter fun c => c.1 = lines).foldl (fun t c => c.2 t) s.table
  set { s with printed := (line ++ "\n") :: s.printed, lines, table }
  if s.lineLimit.any fun limit => limit ≤ lines then failure

/-- **The answers of simulated surroundings.** -/
def answer : (r : Request) → Run r.Answer
  | .readFile path => return (← get).files.read? path
  | .mapFile path => return (← get).files.map? path
  | .writeFile path content => attempt fun s => s.write path content
  | .openLog path => attempt fun s => s.openLog path
  | .log line => modify fun s => s.log line
  | .print line => print line
  | .printError line => modify fun s => { s with errors := (line ++ "\n") :: s.errors }
  | .sleep time =>
    modify fun s => { s with clock := ⟨s.clock.nanoseconds + time.nanoseconds⟩ }
  | .timeOfDay => return (← get).clock
  | .host .time => return (← get).clock
  | .host q => return (← get).table.kernel.answer q

/-- Runs a program.  There is no result if all ended before. -/
def run {α : Type} (p : Program α) (s : Simulation) : Option α × Simulation :=
  (p.interpret answer fun _ => pure () : Run α).run.run s

/-- Goes on with a command for some turns. -/
def follow : Nat → Option Progress × Simulation → Option UInt32 × Simulation
  | _, (none, s) => (none, s)
  | _, (some (.finished code), s) => (some code, s)
  | 0, (some (.watching _), s) => (none, s)
  | n + 1, (some (.watching w), s) => follow n (s.run w.turn)

/-- **Runs a command line**, for some turns at most.  There is no exit code if it
did not end by itself. -/
def command (s : Simulation) (turns : Nat) (colour : Bool) (args : List String) :
    Option UInt32 × Simulation :=
  follow turns (s.run (start colour args))

end Simulation

end CommandLine
end PadScout
