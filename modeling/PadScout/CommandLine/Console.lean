import PadScout.CommandLine.Request
import PadScout.CommandLine.Style
import PadScout.Discovery.Report
import PadScout.Journal.Threshold
import PadScout.Locate.Strategy

/-! # The console

Lines for people: marked lines on what a command does, chains of causes when it
fails, and the journal.  The journal is shown among the errors, or added to a
file, where each line begins with the time.
-/
namespace PadScout

/-! ## Causes

An error is shown with the errors that it comes from.  Each stands for itself, also
where the text of one repeats that of its cause.
-/

/-- The texts of an error and of its causes. -/
def SystemError.causes (e : SystemError) : List String := [e.message]

@[inherit_doc SystemError.causes]
def MemoryError.causes (e : MemoryError) : List String :=
  e.message :: match e with
    | .system cause => cause.causes
    | _ => []

@[inherit_doc SystemError.causes]
def SettingsError.causes (e : SettingsError) : List String :=
  e.message :: match e with
    | .system cause => cause.causes
    | _ => []

@[inherit_doc SystemError.causes]
def PatternError.causes (e : PatternError) : List String :=
  e.message :: match e with
    | .encode cause => [cause.message]
    | _ => []

@[inherit_doc SystemError.causes]
def DiscoveryError.causes (e : DiscoveryError) : List String :=
  e.message :: match e with
    | .pattern cause => cause.causes
    | .probe cause => [cause.message]
    | _ => []

@[inherit_doc SystemError.causes]
def LocateError.causes (e : LocateError) : List String :=
  e.message :: match e with
    | .memory cause => cause.causes
    | _ => []

namespace CommandLine

/-- Where the journal is shown. -/
inductive Listing where
  | among (shown : Threshold)
  /-- In the file that has been opened for it. -/
  | inFile (shown : Threshold)
deriving DecidableEq

/-- How lines are written. -/
structure Console where
  colour : Bool
  listing : Listing

namespace Console

variable (c : Console)

/-- A line with a mark in front. -/
def marked (s : Style) (mark text : String) : String :=
  s.paint c.colour mark ++ " " ++ text

/-- Says what is being done. -/
def progress (text : String) : Program Unit :=
  Program.request (.print (c.marked .progress "[*]" text))

/-- Says what has been done. -/
def success (text : String) : Program Unit :=
  Program.request (.print (c.marked .success "[+]" text))

/-- Says what has not been found. -/
def absence (text : String) : Program Unit :=
  Program.request (.print (c.marked .absence "[-]" text))

/-- Says what has gone wrong. -/
def failure (text : String) : Program Unit :=
  Program.request (.printError (c.marked .failure "[!]" text))

/-- A chain of causes in one line. -/
def failures (causes : List String) : Program Unit := c.failure (": ".intercalate causes)

/-! ## The journal -/

/-- The name of a level, as wide as the widest. -/
def levelText (l : Level) : String :=
  l.text ++ String.ofList (List.replicate (5 - l.text.length) ' ')

/-- A remark as a line among the errors. -/
def entryLine (e : Entry) : String :=
  (Style.level e.level).paint c.colour (levelText e.level) ++ " " ++
    Style.faint.paint c.colour ("[" ++ e.origin.path ++ "]") ++ " " ++ e.message

/-- A time in seconds, with three places. -/
def stamp (t : Duration) : String :=
  let milliseconds := Decimal.digits (t.nanoseconds / 1000000 % 1000)
  Decimal.text (t.nanoseconds / 1000000000) ++ "." ++
    String.ofList (List.replicate (3 - milliseconds.length) '0' ++ milliseconds)

/-- A remark as a line of a file. -/
def fileLine (t : Duration) (e : Entry) : String :=
  stamp t ++ " " ++ levelText e.level ++ " [" ++ e.origin.path ++ "] " ++ e.message

/-- Writes remarks that are to be shown. -/
def list : List Entry → Program Unit
  | [] => return ()
  | e :: es => do
    match c.listing with
    | .among _ => Program.request (.printError (c.entryLine e))
    | .inFile _ =>
      let now : Duration ← Program.request .timeOfDay
      Program.request (.log (fileLine now e))
    list es

/-- Writes what is to be shown of a journal. -/
def listJournal (j : Journal) : Program Unit :=
  match c.listing with
  | .among shown => c.list (shown.shown j)
  | .inFile shown => c.list (shown.shown j)

/-- A program that writes its journal as it goes. -/
def listed {α : Type} (p : Program α) : Program α :=
  p.interpret Program.request c.listJournal

end Console

end CommandLine
end PadScout
