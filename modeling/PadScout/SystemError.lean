import PadScout.Text.Decimal

/-! # Errors of the operating system

What the operating system says when it refuses a request for a file or for
something about a process.
-/
namespace PadScout

/-- Why a request to the operating system fails. -/
inductive SystemError where
  /-- The system refused, with a number and words of its own. -/
  | refused (code : Nat) (words : String)
  /-- A text was asked for, and there are bytes that are no text. -/
  | notText
deriving DecidableEq

namespace SystemError

def noSuchFile : SystemError := refused 2 "No such file or directory"
def noSuchDevice : SystemError := refused 19 "No such device"
def notDirectory : SystemError := refused 20 "Not a directory"
def isDirectory : SystemError := refused 21 "Is a directory"
def outOfMemory : SystemError := refused 12 "Cannot allocate memory"
def noSpace : SystemError := refused 28 "No space left on device"
def nameTooLong : SystemError := refused 36 "File name too long"

def message : SystemError → String
  | refused code words => words ++ " (os error " ++ Decimal.text code ++ ")"
  | notText => "stream did not contain valid UTF-8"

/-- Takes the bytes of a file for a text. -/
def readText (bytes : ByteArray) : Except SystemError String :=
  match String.fromUTF8? bytes with
  | some text => .ok text
  | none => .error .notText

end SystemError

end PadScout
