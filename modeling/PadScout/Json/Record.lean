import PadScout.Json.Basic

/-! # Records in JSON

A record is a value with named fields in a fixed order.  It is written as an
object, and may be read from an object, where names that are no fields are
passed over and no field may occur twice, or from an array, which holds the
fields from the first on.  Either way a field may be missing at the end.  What a
missing field means is said by `required` and `optional`.
-/
namespace PadScout
namespace Json

/-- The values under a name. -/
def valuesOf (name : List Char) (members : List Member) : List Json :=
  members.filterMap fun m => if m.1 = some name then some m.2 else none

/-- The only value under a name, if there is one; a name that occurs twice makes
no record. -/
def field? (members : List Member) (name : String) : Option (Option Json) :=
  match valuesOf name.toList members with
  | [] => some none
  | [v] => some (some v)
  | _ => none

/-- All of a list, or nothing. -/
def collect {α β : Type} (f : α → Option β) : List α → Option (List β)
  | [] => some []
  | a :: as =>
    match f a with
    | none => none
    | some b => (collect f as).map (b :: ·)

/-- The elements of an array as fields, the missing ones at the end. -/
def pad : Nat → List Json → Option (List (Option Json))
  | 0, [] => some []
  | 0, _ :: _ => none
  | n + 1, [] => (pad n []).map (none :: ·)
  | n + 1, v :: vs => (pad n vs).map (some v :: ·)

/-- **The fields of a record**, in the order of their names. -/
def record? (names : List String) : Json → Option (List (Option Json))
  | .object members =>
    if members.all fun m => m.1.isSome then collect (field? members) names else none
  | .array elements => pad names.length elements
  | _ => none

/-- A field that must be there. -/
def required {α : Type} (read : Json → Option α) (field : Option Json) : Option α :=
  field.bind read

/-- A field that may be missing. -/
def optional {α : Type} (read : Json → Option α) (default : α) : Option Json → Option α
  | none => some default
  | some v => read v

/-! ## Values of fields -/

/-- A whole number below a limit. -/
def natBelow? (limit : Nat) : Json → Option Nat
  | .number n => n.natural?.bind fun k => if k < limit then some k else none
  | _ => none

def word32? (v : Json) : Option UInt32 := (natBelow? UInt32.size v).map UInt32.ofNat

def word64? (v : Json) : Option UInt64 := (natBelow? UInt64.size v).map UInt64.ofNat

def string? : Json → Option String
  | .text (some s) => some (String.ofList s)
  | _ => none

/-- A value that may be null. -/
def nullable? {α : Type} (read : Json → Option α) : Json → Option (Option α)
  | .null => some none
  | v => (read v).map some

def list? {α : Type} (read : Json → Option α) : Json → Option (List α)
  | .array vs => collect read vs
  | _ => none

/-- The name of a choice: a text, or an object that holds null under it. -/
def choice? : Json → Option String
  | .text (some s) => some (String.ofList s)
  | .object [(some s, .null)] => some (String.ofList s)
  | _ => none

end Json
end PadScout
