import PadScout.Json.Token

/-! # JSON values

The second half of reading JSON: from tokens to values.  As in the lexer, one
token is looked at at a time.  A `Stage` says what may come next and keeps the
arrays and objects that are still open, innermost first, with their members
last first.  `parse?` puts both halves together.

Objects keep their members in order, with repetitions: what a repeated name
means is for the reader of the value to decide.
-/
namespace PadScout

/-- A JSON value.  Texts without a value hold an unpaired surrogate. -/
inductive Json where
  | null
  | bool (value : Bool)
  | number (n : Json.Numeral)
  | text (value : Option (List Char))
  | array (elements : List Json)
  | object (members : List (Option (List Char) × Json))

namespace Json

/-- A whole number. -/
def ofNat (n : Nat) : Json := .number (.ofNat n)

def ofString (s : String) : Json := .text (some s.toList)

/-- A member of an object. -/
abbrev Member := Option (List Char) × Json

/-- An array or object that is still open.  An object waits for the value of the
name it ends with. -/
inductive Frame where
  | array (elements : List Json)
  | object (members : List Member) (name : Option (List Char))

/-- What may come next. -/
inductive Stage where
  /-- A value. -/
  | value (frames : List Frame)
  /-- The first element of an array, or its end. -/
  | firstElement (frames : List Frame)
  /-- The first name of an object, or its end. -/
  | firstName (frames : List Frame)
  /-- One more name of an object. -/
  | nextName (members : List Member) (frames : List Frame)
  /-- The colon after a name. -/
  | colon (members : List Member) (name : Option (List Char)) (frames : List Frame)
  /-- Whatever follows a complete value. -/
  | after (v : Json) (frames : List Frame)

namespace Stage

/-- The first token of a value. -/
def begin (frames : List Frame) : Token → Option Stage
  | .openArray => some (.firstElement frames)
  | .openObject => some (.firstName frames)
  | .null => some (.after .null frames)
  | .bool b => some (.after (.bool b) frames)
  | .number n => some (.after (.number n) frames)
  | .text s => some (.after (.text s) frames)
  | _ => none

/-- **One token**: what may come after it, or `none` if it cannot stand here. -/
def next (stage : Stage) (t : Token) : Option Stage :=
  match stage with
  | .value frames => begin frames t
  | .firstElement frames =>
    if t = .closeArray then some (.after (.array []) frames)
    else begin (.array [] :: frames) t
  | .firstName frames =>
    match t with
    | .closeObject => some (.after (.object []) frames)
    | .text s => some (.colon [] s frames)
    | _ => none
  | .nextName members frames =>
    match t with
    | .text s => some (.colon members s frames)
    | _ => none
  | .colon members name frames =>
    if t = .colon then some (.value (.object members name :: frames)) else none
  | .after _ [] => none
  | .after v (.array elements :: frames) =>
    match t with
    | .comma => some (.value (.array (v :: elements) :: frames))
    | .closeArray => some (.after (.array (v :: elements).reverse) frames)
    | _ => none
  | .after v (.object members name :: frames) =>
    match t with
    | .comma => some (.nextName ((name, v) :: members) frames)
    | .closeObject => some (.after (.object ((name, v) :: members).reverse) frames)
    | _ => none

/-- The stage after some tokens. -/
def run (stage : Stage) : List Token → Option Stage
  | [] => some stage
  | t :: ts =>
    match stage.next t with
    | some stage => run stage ts
    | none => none

/-- The value that is complete, with nothing left open. -/
def result? : Stage → Option Json
  | .after v [] => some v
  | _ => none

end Stage

/-- The value that some tokens make up. -/
def ofTokens? (ts : List Token) : Option Json := ((Stage.value []).run ts).bind Stage.result?

/-- **The value that a text spells.** -/
def parse? (s : List Char) : Option Json := (tokens? s).bind ofTokens?

end Json
end PadScout
