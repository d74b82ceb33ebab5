import PadScout.Mips.Encoding
import PadScout.Pattern.Routine

/-! # Call sites

A call is a `jal`, and the word of a `jal` to word `n` of memory is always the
same (`callTo`), so the calls to known routines are found by comparing words
(`callSitesTo`).  `CallSites` is a set of indices in ascending order.
`distinctCalls` counts the routines that a stretch of code calls.
-/
namespace PadScout

open Mips (Instruction EncodeError decode)

/-- Why a pattern or a call cannot be looked for. -/
inductive PatternError where
  | unknownSignature (name : String)
  | encode (cause : EncodeError)
deriving DecidableEq

namespace PatternError

def message : PatternError → String
  | .unknownSignature name => "Unknown signature: " ++ name
  | .encode cause => "Could not build call instruction: " ++ cause.message

end PatternError

/-- The signature of a given name. -/
def signatureNamed (name : String) : Except PatternError Signature :=
  match Routine.ofName? name with
  | some r => .ok r.signature
  | none => .error (.unknownSignature name)

/-- The byte address of a word, or the greatest address if that is too large to
be written down. -/
def callTarget (index : Nat) : UInt32 :=
  if 4 * index < UInt32.size then UInt32.ofNat (4 * index) else 0xFFFFFFFF

/-- The word of a call to word `index` of memory. -/
def callTo (index : Nat) : Except PatternError UInt32 :=
  match (Instruction.jal (callTarget index)).encode with
  | .ok w => .ok w
  | .error e => .error (.encode e)

/-- The words of calls to any of some words of memory. -/
def callsTo : List Nat → Except PatternError (List UInt32)
  | [] => .ok []
  | index :: indices =>
    match callTo index with
    | .error e => .error e
    | .ok w =>
      match callsTo indices with
      | .error e => .error e
      | .ok ws => .ok (w :: ws)

/-- A set of indices that hold calls. -/
structure CallSites where
  toList : List Nat
  ascending : toList.Pairwise (· < ·)

namespace CallSites

/-- The members of a list. -/
def ofList (sites : List Nat) : CallSites :=
  ⟨Ascending.ofList sites, Ascending.pairwise_ofList (fun _ _ _ => Nat.lt_trans) sites⟩

/-- The indices of an image whose word passes a test. -/
def ofImage (m : Image) (test : UInt32 → Bool) : CallSites :=
  ⟨m.indicesWhere test, Ascending.pairwise_below _ _⟩

def size (s : CallSites) : Nat := s.toList.length

def isEmpty (s : CallSites) : Bool := s.toList.isEmpty

def contains (s : CallSites) (site : Nat) : Bool := s.toList.contains site

/-- The sites from `low` to `high`, both included.  A range whose end lies before
its start is taken to end at its start. -/
def between (s : CallSites) (low high : Nat) : List Nat :=
  s.toList.filter fun site => low ≤ site ∧ site ≤ max high low

/-- The first site from `low` to `high`. -/
def first? (s : CallSites) (low high : Nat) : Option Nat := (s.between low high).head?

end CallSites

/-- Every call in the image to one of the given words. -/
def callSitesTo (m : Image) (targets : List Nat) : Except PatternError CallSites :=
  match callsTo targets with
  | .error e => .error e
  | .ok calls => .ok (.ofImage m calls.contains)

/-- Every call in the image to a possible entry of a signature. -/
def callSitesToSignature (m : Image) (s : Signature) : Except PatternError CallSites :=
  callSitesTo m (s.entries m)

/-- The target of a word that is a call. -/
def calledTarget? (w : UInt32) : Option UInt32 :=
  match decode w with
  | .ok i => if i.kind = .jal then i.target else none
  | .error _ => none

/-- The targets of the calls from word `start` to word `stop`, both included,
ascending; words that do not decode are passed over. -/
def calledTargets (m : Image) (start stop : Nat) : List UInt32 :=
  Ascending.ofList ((m.words.extract start (stop + 1)).toList.filterMap calledTarget?)

/-- How many routines are called from word `start` to word `stop`. -/
def distinctCalls (m : Image) (start stop : Nat) : Nat := (calledTargets m start stop).length

end PadScout
