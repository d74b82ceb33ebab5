import PadScout.Host.Question

/-! # Requests of a program

What the commands need of their surroundings: files, output, the clock, and
answers about processes.
-/
namespace PadScout
namespace CommandLine

/-- A request to the surroundings. -/
inductive Request where
  /-- All bytes of a file. -/
  | readFile (path : String)
  /-- All bytes of a file that can be mapped to memory. -/
  | mapFile (path : String)
  | writeFile (path content : String)
  /-- Opens a file to which lines are added. -/
  | openLog (path : String)
  /-- Adds a line to the open file. -/
  | log (line : String)
  | print (line : String)
  | printError (line : String)
  | sleep (time : Duration)
  /-- The time since the beginning of the year 1970. -/
  | timeOfDay
  | host (question : Question Pid)

/-- What is answered to a request. -/
def Request.Answer : Request → Type
  | readFile _ => Except SystemError ByteArray
  | mapFile _ => Except SystemError ByteArray
  | writeFile .. => Except SystemError Unit
  | openLog _ => Except SystemError Unit
  | log _ => Unit
  | print _ => Unit
  | printError _ => Unit
  | sleep _ => Unit
  | timeOfDay => Duration
  | host q => q.Answer

/-- Requests with their answers. -/
def surroundings : Interface := ⟨Request, Request.Answer⟩

/-- A part of a program. -/
abbrev Program (α : Type) : Type := Dialogue surroundings α

namespace Program

/-- The program of one request. -/
def request (r : Request) : Program r.Answer := Dialogue.ask (I := surroundings) r .done

/-- An inquiry as part of a program. -/
def ofInquiry {α : Type} (d : Inquiry Pid α) : Program α :=
  d.interpret (fun q => request (.host q)) Dialogue.say

/-- How long the clock has been running. -/
def time : Program Duration := request (.host .time)

end Program

end CommandLine
end PadScout
