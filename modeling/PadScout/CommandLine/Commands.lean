import PadScout.CommandLine.Arguments
import PadScout.CommandLine.Console
import PadScout.Discovery.FindingFile
import PadScout.Memory.Dump
import PadScout.Worker.Poller

/-! # Commands

What the program does for its arguments:

* `disasm` lists words of a dump with their instructions;
* `analyze` runs discovery over a dump, and shows or saves the finding;
* `locate` attaches to an emulator once and says where its memory is;
* `watch` follows emulators and prints the controller input when it changes.

The first three are programs that end.  Watching goes on for as long as it is
wanted, so `Watch.turn` does one thing after the other: the next turn of the
poller or the next look at what it publishes, whichever comes first.  `begin`
starts any command and `Progress` says whether there is more to do.
-/
namespace PadScout
namespace CommandLine

/-- Why a command fails: the texts of the error and its causes. -/
abbrev Failure := List String

/-- A failure, together with what was being done. -/
def during (doing : String) (causes : Failure) : Failure := doing :: causes

/-! ## Files -/

/-- The settings that are asked for. -/
def loadSettings : Option String → Program (Except Failure Settings)
  | none => return .ok {}
  | some path => do
    match Settings.ofFile? (← Program.request (.readFile path)) with
    | .ok s => return .ok s
    | .error e => return .error (during ("loading " ++ path) e.causes)

/-- The image in a mapped file. -/
def imageOf (content : Except SystemError ByteArray) : Except MemoryError Image :=
  match content with
  | .ok bytes => Image.ofBytes bytes
  | .error cause => .error (.system cause)

/-- The image in a dump. -/
def loadDump (c : Console) (path : String) : Program (Except Failure Image) := do
  c.progress ("Loading dump: " ++ path)
  match imageOf (← Program.request (.mapFile path)) with
  | .ok m =>
    c.success (Decimal.text m.size ++ " words loaded")
    return .ok m
  | .error e => return .error (during ("reading " ++ path) e.causes)

/-! ## Listing -/

/-- The line of a word. -/
def wordLine (colour : Bool) (index : Nat) (w : UInt32) : String :=
  let text := match Mips.decode w with
    | .ok i => i.text
    | .error e => Style.faint.paint colour e.message
  Style.address.paint colour (Dump.row index [w]) ++ "  " ++ text

/-- Lists words from an index on. -/
def listWords (c : Console) (index : Nat) : List UInt32 → Program Unit
  | [] => return ()
  | w :: ws => do
    Program.request (.print (wordLine c.colour index w))
    listWords c (index + 1) ws

/-- **Lists words of a dump.** -/
def disasm (c : Console) (path : String) (offset count : Nat) :
    Program (Except Failure Unit) := do
  match ← loadDump c path with
  | .error causes => return .error causes
  | .ok m =>
    match m.window? offset count with
    | none =>
      return .error ["words " ++ Hex.marked offset ++ ".." ++ Hex.marked (offset + count) ++
        " are outside the dump"]
    | some words =>
      listWords c offset words
      return .ok ()

/-! ## Discovery -/

/-- Shows a finding, or saves it. -/
def showFinding (c : Console) (f : Finding) : Option String → Program (Except Failure Unit)
  | none => do
    Program.request (.print f.fileText)
    return .ok ()
  | some path => do
    match ← Program.request (.writeFile path f.fileText) with
    | .error e => return .error e.causes
    | .ok () =>
      c.success ("Result saved to: " ++ path)
      return .ok ()

/-- **Runs discovery over a dump.** -/
def analyze (c : Console) (path : String) (output : Option String) :
    Program (Except Failure Unit) := do
  match ← loadDump c path with
  | .error causes => return .error causes
  | .ok m =>
    let start ← Program.time
    let report := Discovery.analyze m
    match report.outcome with
    | .error e =>
      Program.ofInquiry (Session.sayDiscovery start report)
      return .error (during "discovery failed" e.causes)
    | .ok finding =>
      Program.ofInquiry (Session.sayDiscovery start report)
      let stop ← Program.time
      c.success ("Controller input at RAM+" ++ Hex.marked finding.inputOffset.toNat ++
        " (" ++ (Duration.mk (stop.nanoseconds - start.nanoseconds)).text ++ ")")
      showFinding c finding output

/-! ## Emulators -/

/-- **Attaches to an emulator once.** -/
def locate (c : Console) (s : Settings) : Program (Except Failure Unit) := do
  match ← Program.ofInquiry (Attachment.find s) with
  | .error e => return .error e.causes
  | .ok none => return .error ["no emulator process found"]
  | .ok (some a) =>
    c.success ("Found " ++ a.host.processName ++ " (pid " ++ Decimal.text a.pid.toNat ++ ")")
    match ← Program.ofInquiry (a.locate s) with
    | .error e => return .error e.causes
    | .ok (some base) =>
      c.success ("RAM mirror at " ++ base.text)
      return .ok ()
    | .ok none =>
      c.absence "RAM mirror not found yet"
      return .ok ()

/-- What is being watched, and what has been shown of it. -/
structure Watch where
  console : Console
  poller : Poller Pid
  /-- The time between two looks. -/
  pause : Duration
  /-- When to look next. -/
  due : Duration
  /-- When to stop looking. -/
  limit : Option Duration
  shownPhase : Phase := .searching
  shownInput : UInt32 := 0

/-- Whether a command has come to its end. -/
inductive Progress where
  | finished (code : UInt32)
  | watching (w : Watch)

namespace Watch

/-- Sleeps up to a time. -/
def sleepUntil (t : Duration) : Program Unit := do
  let now ← Program.time
  Program.request (.sleep ⟨t.nanoseconds - now.nanoseconds⟩)

/-- Says what has changed since it was shown. -/
def look (w : Watch) : Program Watch := do
  let phase := w.poller.worker.phase
  let input := w.poller.worker.input
  if phase ≠ w.shownPhase then w.console.progress phase.text
  if input ≠ w.shownInput then w.console.success (Hex.word input)
  return { w with shownPhase := phase, shownInput := input }

/-- Goes on, if the time is not over. -/
def goOn (w : Watch) : Program Progress := do
  let now ← Program.time
  if w.limit.any fun t => t.nanoseconds ≤ now.nanoseconds then
    let _ ← Program.ofInquiry w.poller.stop
    return .finished 0
  else return .watching { w with due := ⟨now.nanoseconds + w.pause.nanoseconds⟩ }

/-- What happens next. -/
def next (w : Watch) : Program Progress :=
  -- at the same time the poller goes first, so that nothing old is shown
  if w.poller.due.nanoseconds ≤ w.due.nanoseconds then do
    sleepUntil w.poller.due
    let poller ← Program.ofInquiry w.poller.turn
    return .watching { w with poller }
  else do
    sleepUntil w.due
    (← w.look).goOn

/-- **One turn of watching.** -/
def turn (w : Watch) : Program Progress := w.console.listed w.next

end Watch

/-- **Follows emulators**, for some seconds or without end. -/
def watch (c : Console) (s : Settings) (seconds : Option Nat) : Program Progress := do
  let poller ← Program.ofInquiry (Poller.start { settings := s })
  c.progress "Waiting for an emulator..."
  let now ← Program.time
  Watch.goOn
    { console := c, poller, due := now
      pause := .ofMilliseconds (max 1 s.extractInterval.toNat)
      limit := seconds.map fun n => ⟨now.nanoseconds + 1000000000 * n⟩ }

/-! ## All commands -/

/-- The end of a command that may fail. -/
def finish (c : Console) : Except Failure Unit → Program Progress
  | .ok () => return .finished 0
  | .error causes => do
    c.failures causes
    return .finished 1

/-- Runs a command. -/
def perform (c : Console) (config : Option String) (command : Command) : Program Progress := do
  match ← loadSettings config with
  | .error causes => finish c (.error causes)
  | .ok s =>
    match command with
    | .watch seconds => watch c s seconds
    | .locate => finish c (← locate c s)
    | .analyze dump output => finish c (← analyze c dump output)
    | .disasm dump offset count => finish c (← disasm c dump offset count)

/-- How the journal is shown; without an open file, not at all. -/
def openListing (colour : Bool) (o : Options) : Program Listing := do
  let shown := Threshold.ofRequests o.verbosity
  match o.envLog, o.logFile with
  | true, _ => return .among (.upTo .error)
  | false, none => return .among shown
  | false, some path =>
    match ← Program.request (.openLog path) with
    | .ok () => return .inFile shown
    | .error e =>
      Console.failure ⟨colour, .among .off⟩ ("Failed to set up logging: " ++ e.message)
      return .among .off

/-- The name and the version of the program. -/
def versionText : String := "n64-pad-locator 1.0.0"

/-- How the program is used. -/
def usageText : String :=
  "Usage: n64-pad-locator [OPTIONS] <watch|locate|analyze|disasm> [ARGUMENTS]"

/-- **Begins what the arguments ask for.** -/
def start (colour : Bool) (args : List String) : Program Progress :=
  match readArguments args with
  | .error .versionWanted => do
    Program.request (.print versionText)
    return .finished 0
  | .error .helpWanted => do
    Program.request (.print usageText)
    return .finished 0
  | .error .misused => do
    Program.request (.printError usageText)
    return .finished 2
  | .ok (options, command) => do
    let c : Console := ⟨colour, ← openListing colour options⟩
    c.listed (perform c options.config command)

end CommandLine
end PadScout
