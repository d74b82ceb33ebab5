import PadScout.Text.Numeral

/-! # Arguments

The command line names a command, with its places (what to work on) and options.
An option has a long name and may have a letter; letters can be joined behind one
dash.  A value follows in the next argument, or in the same one after the letter
or an equals sign.  After two dashes alone, all that follows are places.

Some options are understood before the command as well as after it.  What is said
after the command then counts, and at either side an option may be given only
once, but for the one that counts how often it is given.
-/
namespace PadScout
namespace CommandLine

/-- The commands by their names. -/
inductive Verb where
  | watch | locate | analyze | disasm
deriving DecidableEq

namespace Verb

def name : Verb → String
  | watch => "watch"
  | locate => "locate"
  | analyze => "analyze"
  | disasm => "disasm"

def ofName? (s : String) : Option Verb :=
  [watch, locate, analyze, disasm].find? fun v => v.name == s

end Verb

/-- The options. -/
inductive Flag where
  | verbose | config | logFile | envLog | help | version | seconds | output
deriving DecidableEq

namespace Flag

def longName : Flag → String
  | verbose => "verbose"
  | config => "config"
  | logFile => "log-file"
  | envLog => "env-log"
  | help => "help"
  | version => "version"
  | seconds => "seconds"
  | output => "output"

def letter? : Flag → Option Char
  | verbose => some 'v'
  | config => some 'c'
  | help => some 'h'
  | version => some 'V'
  | output => some 'o'
  | _ => none

def takesValue : Flag → Bool
  | config | logFile | seconds | output => true
  | _ => false

/-- The options that are understood after a command, or before one. -/
def known : Option Verb → List Flag
  | none => [verbose, config, logFile, envLog, help, version]
  | some .watch => [verbose, config, logFile, envLog, help, seconds]
  | some .analyze => [verbose, config, logFile, envLog, help, output]
  | some _ => [verbose, config, logFile, envLog, help]

def ofLongName? (verb : Option Verb) (s : List Char) : Option Flag :=
  (known verb).find? fun f => f.longName.toList == s

def ofLetter? (verb : Option Verb) (c : Char) : Option Flag :=
  (known verb).find? fun f => f.letter? == some c

end Flag

/-- Why no command is run. -/
inductive Stop where
  /-- The arguments make no sense. -/
  | misused
  | helpWanted
  | versionWanted
deriving DecidableEq

/-- What has been given on one side of the command. -/
structure Given where
  verbosity : Nat := 0
  config : Option String := none
  logFile : Option String := none
  envLog : Bool := false
  seconds : Option Nat := none
  output : Option String := none
  dump : Option String := none
  offset : Option Nat := none
  count : Option Nat := none
deriving DecidableEq

namespace Given

/-- Gives a value that must not have been given yet. -/
def once {α : Type} (old : Option α) (new : Option α) : Except Stop (Option α) :=
  match old, new with
  | none, some a => .ok (some a)
  | _, _ => .error .misused

/-- A path has at least one character. -/
def path? (s : String) : Option String := if s.isEmpty then none else some s

/-- A number as large as memory could be. -/
def number? (s : String) : Option Nat := Numeral.decimal? UInt64.size s.toList

/-- Takes an option without a value. -/
def raise (g : Given) : Flag → Except Stop Given
  | .verbose => .ok { g with verbosity := g.verbosity + 1 }
  | .envLog => if g.envLog then .error .misused else .ok { g with envLog := true }
  | .help => .error .helpWanted
  | .version => .error .versionWanted
  | _ => .error .misused

/-- Takes an option with its value. -/
def set (g : Given) (f : Flag) (value : String) : Except Stop Given :=
  match f with
  | .config => (once g.config (path? value)).map fun v => { g with config := v }
  | .logFile => (once g.logFile (path? value)).map fun v => { g with logFile := v }
  | .output => (once g.output (path? value)).map fun v => { g with output := v }
  | .seconds => (once g.seconds (number? value)).map fun v => { g with seconds := v }
  | _ => .error .misused

/-- Takes a place of a command, the first that is still open. -/
def place (g : Given) (verb : Option Verb) (value : String) : Except Stop Given :=
  let takesDump := verb = some .analyze ∨ verb = some .disasm
  if takesDump ∧ g.dump = none then
    (once none (path? value)).map fun v => { g with dump := v }
  else if verb = some .disasm ∧ g.offset = none then
    (once none (Numeral.marked? UInt64.size value.toList)).map fun v => { g with offset := v }
  else if verb = some .disasm ∧ g.count = none then
    (once none (number? value)).map fun v => { g with count := v }
  else .error .misused

/-- Takes places up to the end. -/
def places (g : Given) (verb : Option Verb) : List String → Except Stop Given
  | [] => .ok g
  | s :: rest =>
    match g.place verb s with
    | .ok g => g.places verb rest
    | .error stop => .error stop

end Given

/-- The form of an argument. -/
inductive Shape where
  /-- Two dashes alone. -/
  | dashes
  /-- The long name of an option, perhaps with a value. -/
  | long (name : List Char) (value : Option (List Char))
  /-- Letters behind one dash. -/
  | short (letters : List Char)
  | word
deriving DecidableEq

/-- Cuts a text at its first equals sign. -/
def cutEquals : List Char → List Char × Option (List Char)
  | [] => ([], none)
  | c :: cs =>
    if c = '=' then ([], some cs)
    else
      let (before, after) := cutEquals cs
      (c :: before, after)

/-- The form of an argument.  A dash alone is a word. -/
def shape (s : String) : Shape :=
  match s.toList with
  | ['-', '-'] => .dashes
  | '-' :: '-' :: cs => .long (cutEquals cs).1 (cutEquals cs).2
  | '-' :: c :: cs => .short (c :: cs)
  | _ => .word

/-- What letters behind a dash come to: all is taken, or the last option still
needs its value. -/
inductive Cluster where
  | taken (given : Given)
  | needsValue (given : Given) (flag : Flag)

/-- Reads letters behind a dash. -/
def cluster (verb : Option Verb) (g : Given) : List Char → Except Stop Cluster
  | [] => .ok (.taken g)
  | c :: cs =>
    match Flag.ofLetter? verb c with
    | none => .error .misused
    | some f =>
      if f.takesValue then
        match cs with
        | [] => .ok (.needsValue g f)
        | '=' :: value => (g.set f (String.ofList value)).map .taken
        | value => (g.set f (String.ofList value)).map .taken
      else
        match g.raise f with
        | .ok g => cluster verb g cs
        | .error stop => .error stop

/-- What comes of asking for help in place of a command: help with all of them, or
with one that is named. -/
def helpStop : List String → Stop
  | [] => .helpWanted
  | [name] => if name = "help" ∨ Verb.ofName? name ≠ none then .helpWanted else .misused
  | _ => .misused

/-- Reads the arguments on one side of the command.  Before the command, the
command is found together with the arguments after it. -/
def side (verb : Option Verb) (g : Given) :
    List String → Except Stop (Given × Option (Verb × List String))
  | [] => .ok (g, none)
  | s :: rest =>
    match shape s with
    | .dashes => (g.places verb rest).map fun g => (g, none)
    | .long name value =>
      match Flag.ofLongName? verb name, value with
      | none, _ => .error .misused
      | some f, none =>
        if f.takesValue then
          match rest with
          | [] => .error .misused
          | value :: rest =>
            if shape value = .word then
              match g.set f value with
              | .ok g => side verb g rest
              | .error stop => .error stop
            else .error .misused
        else
          match g.raise f with
          | .ok g => side verb g rest
          | .error stop => .error stop
      | some f, some value =>
        match g.set f (String.ofList value) with
        | .ok g => side verb g rest
        | .error stop => .error stop
    | .short letters =>
      match cluster verb g letters with
      | .error stop => .error stop
      | .ok (.taken g) => side verb g rest
      | .ok (.needsValue g f) =>
        match rest with
        | [] => .error .misused
        | value :: rest =>
          if shape value = .word then
            match g.set f value with
            | .ok g => side verb g rest
            | .error stop => .error stop
          else .error .misused
    | .word =>
      match verb, Verb.ofName? s with
      | none, some found => .ok (g, some (found, rest))
      | none, none => .error (if s = "help" then helpStop rest else .misused)
      | some _, _ =>
        match g.place verb s with
        | .ok g => side verb g rest
        | .error stop => .error stop

/-! ## Commands -/

/-- A command with all that it needs. -/
inductive Command where
  | watch (seconds : Option Nat)
  | locate
  | analyze (dump : String) (output : Option String)
  | disasm (dump : String) (offset count : Nat)
deriving DecidableEq

/-- What is common to all commands. -/
structure Options where
  verbosity : Nat
  config : Option String
  logFile : Option String
  envLog : Bool
deriving DecidableEq

/-- The options of both sides; those after the command come first. -/
def Options.ofSides (before after : Given) : Options :=
  { verbosity := if after.verbosity = 0 then before.verbosity else after.verbosity
    config := after.config <|> before.config
    logFile := after.logFile <|> before.logFile
    envLog := after.envLog || before.envLog }

/-- The number of words that are listed if none is given. -/
def defaultCount : Nat := 32

/-- The command of a verb, if all that it needs is given. -/
def Command.ofGiven? (g : Given) : Verb → Option Command
  | .watch => some (.watch g.seconds)
  | .locate => some .locate
  | .analyze => g.dump.map fun dump => .analyze dump g.output
  | .disasm =>
    match g.dump, g.offset with
    | some dump, some offset => some (.disasm dump offset (g.count.getD defaultCount))
    | _, _ => none

/-- **Reads the arguments.** -/
def readArguments (args : List String) : Except Stop (Options × Command) :=
  match side none {} args with
  | .error stop => .error stop
  | .ok (_, none) => .error .misused
  | .ok (before, some (verb, rest)) =>
    match side (some verb) {} rest with
    | .error stop => .error stop
    | .ok (after, _) =>
      match Command.ofGiven? after verb with
      | some command => .ok (.ofSides before after, command)
      | none => .error .misused

end CommandLine
end PadScout
