/-! # The journal

What the library says while it works.  An `Entry` is one remark: how important
it is, which part of the library makes it, and its text.  Parts that compute
without side effects offer their remarks as functions of the same inputs;
parts that talk to a host hand them over as they go, unevaluated, so that
nobody pays for remarks that are not read.
-/
namespace PadScout

/-- How important a remark is, most important first. -/
inductive Level where
  | error | warn | info | debug | trace
deriving DecidableEq

namespace Level

/-- The rank of a level; a journal kept at a level shows every entry of no
greater rank. -/
def rank : Level → Nat
  | error => 1
  | warn => 2
  | info => 3
  | debug => 4
  | trace => 5

def text : Level → String
  | error => "ERROR"
  | warn => "WARN"
  | info => "INFO"
  | debug => "DEBUG"
  | trace => "TRACE"

end Level

/-- The part of the library that makes a remark. -/
inductive Origin where
  | machine | probe | discovery | magic | strategy | locator | session | worker | timer
deriving DecidableEq

namespace Origin

/-- The path under which a part is listed. -/
def path : Origin → String
  | machine => "interpreter::machine"
  | probe => "interpreter::probe"
  | discovery => "analysis::pipeline"
  | magic => "locator::magic"
  | strategy => "locator::strategy"
  | locator => "locator::ram_locator"
  | session => "engine::session"
  | worker => "engine::worker"
  | timer => "utils::logging"

end Origin

/-- A remark. -/
structure Entry where
  level : Level
  origin : Origin
  message : String

/-- Remarks in order, not yet evaluated. -/
def Journal : Type := Unit → List Entry

namespace Journal

/-- The remarks of a journal. -/
def entries (j : Journal) : List Entry := j ()

def empty : Journal := fun _ => []

def append (j k : Journal) : Journal := fun _ => j () ++ k ()

instance : Append Journal := ⟨append⟩

/-- A journal of one remark. -/
def single (level : Level) (origin : Origin) (message : Unit → String) : Journal :=
  fun _ => [⟨level, origin, message ()⟩]

@[simp] theorem entries_empty : empty.entries = [] := rfl

@[simp] theorem entries_append (j k : Journal) : (j ++ k).entries = j.entries ++ k.entries := rfl

@[simp] theorem entries_single (level : Level) (origin : Origin) (message : Unit → String) :
    (single level origin message).entries = [⟨level, origin, message ()⟩] := rfl

/-- The remarks of a journal that is kept at a level. -/
def upTo (level : Level) (j : Journal) : List Entry :=
  j.entries.filter fun e => e.level.rank ≤ level.rank

theorem upTo_append (level : Level) (j k : Journal) :
    (j ++ k).upTo level = j.upTo level ++ k.upTo level := by
  simp [upTo]

end Journal

end PadScout
