import PadScout.CommandLine.Commands
import PadScout.Host.Kernel
import Std.Time.DateTime.Timestamp

/-! # The program

The command line on a real system.  All that is decided is decided elsewhere;
here requests are carried out one by one.  Processes are looked up in the files
that the kernel shows of them.  Their memory can only be read at places of one's
choice, which files of this system interface do not offer, so that every such
request is answered as a failed read.
-/
namespace PadScout
namespace CommandLine

/-- What a refusal of the system comes to. -/
def refusal : IO.Error → SystemError
  | .noFileOrDirectory _ code words => .refused code.toNat words
  | .permissionDenied _ code words => .refused code.toNat words
  | .inappropriateType _ code words => .refused code.toNat words
  | .alreadyExists _ code words => .refused code.toNat words
  | .invalidArgument _ code words => .refused code.toNat words
  | .resourceExhausted _ code words => .refused code.toNat words
  | .noSuchThing _ code words => .refused code.toNat words
  | .interrupted _ code words => .refused code.toNat words
  | .otherError code words => .refused code.toNat words
  | .resourceBusy code words => .refused code.toNat words
  | .resourceVanished code words => .refused code.toNat words
  | .unsupportedOperation code words => .refused code.toNat words
  | .hardwareFault code words => .refused code.toNat words
  | .unsatisfiedConstraints code words => .refused code.toNat words
  | .illegalOperation code words => .refused code.toNat words
  | .protocolError code words => .refused code.toNat words
  | .timeExpired code words => .refused code.toNat words
  | .unexpectedEof => .refused 5 "Input/output error"
  | .userError words => .refused 5 words

/-- Carries out an action that the system may refuse. -/
def attempt {α : Type} (action : IO α) : IO (Except SystemError α) := do
  match ← action.toBaseIO with
  | .ok a => return .ok a
  | .error e => return .error (refusal e)

/-- A file of a process. -/
def processFile (pid : Pid) (name : String) : IO (Except SystemError ByteArray) :=
  attempt (IO.FS.readBinFile ("/proc/" ++ Decimal.text pid.toNat ++ "/" ++ name))

/-- What the kernel of the system shows of its processes. -/
def systemKernel : Kernel IO Pid where
  entries := attempt do
    let directory := (← IO.currentDir) / "/proc"
    return (← directory.readDir).toList.map fun entry => entry.fileName
  openMemory pid := do
    match ← attempt (IO.FS.Handle.mk ("/proc/" ++ Decimal.text pid.toNat ++ "/mem") .read) with
    | .ok _ => return some pid
    | .error _ => return none
  pidOf := id
  isAlive pid := do return (← processFile pid "comm").isOk
  nameFile pid := processFile pid "comm"
  mapsFile pid := processFile pid "maps"
  readMemory _ _ _ := return none
  time := do return ⟨← IO.monoNanosNow⟩

/-- Writes a line at once. -/
def writeLine (stream : IO.FS.Stream) (line : String) : IO Unit := do
  stream.putStr (line ++ "\n")
  stream.flush

/-- **Carries out a request**, given the file for log lines. -/
def carryOut (logFile : IO.Ref (Option IO.FS.Handle)) : (r : Request) → IO r.Answer
  | .readFile path => attempt (IO.FS.readBinFile path)
  | .mapFile path => do
    match ← attempt (IO.FS.readBinFile path) with
    | .ok bytes => return .ok bytes
    | .error (.refused 21 _) => return .error .noSuchDevice
    | .error e => return .error e
  | .writeFile path content => attempt (IO.FS.writeFile path content)
  | .openLog path => attempt do
    logFile.set (some (← IO.FS.Handle.mk path .append))
  | .log line => do
    match ← logFile.get with
    | some handle =>
      handle.putStr (line ++ "\n")
      handle.flush
    | none => return ()
  | .print line => do writeLine (← IO.getStdout) line
  | .printError line => do writeLine (← IO.getStderr) line
  | .sleep time => IO.sleep (UInt32.ofNat ((time.nanoseconds + 999999) / 1000000))
  | .timeOfDay => do
    let now ← Std.Time.Timestamp.now
    return ⟨now.toNanosecondsSinceUnixEpoch.val.toNat⟩
  | .host q => systemKernel.answer q

/-- Carries out a program. -/
def carryOutProgram {α : Type} (logFile : IO.Ref (Option IO.FS.Handle)) (p : Program α) : IO α :=
  p.interpret (carryOut logFile) fun _ => return ()

/-- Goes on until there is no more to do. -/
partial def goOn (logFile : IO.Ref (Option IO.FS.Handle)) : Progress → IO UInt32
  | .finished code => return code
  | .watching w => do goOn logFile (← carryOutProgram logFile w.turn)

end CommandLine
end PadScout

/-- The entry of the program. -/
def main (args : List String) : IO UInt32 := do
  let logFile ← IO.mkRef none
  let terminal ← (← IO.getStdout).isTty
  let colour := PadScout.CommandLine.wantsColour terminal (← IO.getEnv "CLICOLOR")
    (← IO.getEnv "CLICOLOR_FORCE") (← IO.getEnv "NO_COLOR").isSome
  PadScout.CommandLine.goOn logFile
    (← PadScout.CommandLine.carryOutProgram logFile (PadScout.CommandLine.start colour args))
