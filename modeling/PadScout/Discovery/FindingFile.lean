import PadScout.Discovery.Finding
import PadScout.Json.Printer
import PadScout.Json.Record

/-! # Findings in files

A finding is kept in a JSON file with the fields of `Finding`, all of which must
be there.
-/
namespace PadScout
namespace Finding

/-- The names of the fields, in order. -/
def fieldNames : List String := ["window_start", "window_words", "input_offset"]

def toJson (f : Finding) : Json :=
  .object
    (fieldNames.map (fun name => some name.toList) |>.zip
      [.ofNat f.windowStart, .array (f.window.map fun w => .ofNat w.toNat),
       .ofNat f.inputOffset.toNat])

def ofJson? (v : Json) : Option Finding :=
  match v.record? fieldNames with
  | some [start, window, offset] =>
    match Json.required (Json.natBelow? UInt64.size) start,
      Json.required (Json.list? Json.word32?) window,
      Json.required Json.word32? offset with
    | some start, some window, some offset => some ⟨start, window, offset⟩
    | _, _, _ => none
  | _ => none

/-- The text of a file that holds the finding. -/
def fileText (f : Finding) : String := f.toJson.pretty

/-- Reads the text of such a file. -/
def ofText? (text : List Char) : Option Finding := (Json.parse? text).bind ofJson?

end Finding
end PadScout
