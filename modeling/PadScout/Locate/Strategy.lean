import PadScout.Locate.MagicWord
import PadScout.Text.Quoted

/-! # Strategies

Ways to find the console's memory in the memory of an emulator.  A region scan
looks for the magic word in every region that may hold the memory.  A module scan
takes the first module whose name contains a given text, and looks at regular
distances through it.  Both stop at the first place that passes the test; a place
that cannot be read does not pass.
-/
namespace PadScout

/-- A way to find the console's memory. -/
inductive Strategy where
  | regionScan (magic : MagicWord)
  /-- The filter is in lower case. -/
  | moduleScan (magic : MagicWord) (filter : List Char) (step : UInt64)
deriving DecidableEq

/-- Why the console's memory cannot be looked for. -/
inductive LocateError where
  | memory (cause : MemoryError)
  | missingFilter (host : String)
deriving DecidableEq

namespace LocateError

def message : LocateError → String
  | memory cause => "Memory error: " ++ cause.message
  | missingFilter host => "Host " ++ host ++ " uses module scan but names no module"

end LocateError

namespace Strategy

variable {H : Type}

def name : Strategy → String
  | regionScan _ => "region-scan"
  | moduleScan .. => "module-scan"

/-- A scan of the module whose name contains a text; the letters A to Z of the
text may be in either case. -/
def ofFilter (magic : MagicWord) (filter : String) (step : UInt64) : Strategy :=
  moduleScan magic (Case.asciiLower filter.toList) step

/-- The strategy for a host. -/
def ofHost (s : Settings) (h : Host) : Except LocateError Strategy :=
  match h.strategy, h.moduleFilter with
  | .regionScan, _ => .ok (.regionScan (.ofHost s h))
  | .moduleScan, some filter => .ok (.ofFilter (.ofHost s h) filter s.moduleScanStep)
  | .moduleScan, none => .error (.missingFilter h.processName)

/-- The first of some places that passes the test. -/
def firstFit (magic : MagicWord) (process : H) : List Address → Inquiry H (Option Address)
  | [] => return none
  | place :: places => do
    if ← magic.test process place then return some place
    else firstFit magic process places

/-- The first place of a stride that passes the test. -/
def strideFit (magic : MagicWord) (process : H) (start stop : Address) (step : UInt64) :
    Inquiry H (Option Address) :=
  if start < stop then do
    if ← magic.test process start then return some start
    else
      match _h : start.next? step with
      | some place => strideFit magic process place stop step
      | none => return none
  else return none
termination_by UInt64.size - start.value.toNat
decreasing_by
  have := Address.lt_of_next? _h
  have := place.value.toNat_lt_size
  omega

/-- Whether a text contains another. -/
def containsText (part : List Char) : List Char → Bool
  | [] => part.isEmpty
  | c :: cs => part.isPrefixOf (c :: cs) || containsText part cs

/-- The module that a filter selects. -/
def selectModule (filter : List Char) (modules : List Module) : Option Module :=
  modules.find? fun m => containsText filter m.lowerName

/-- The regions that may hold the console's memory. -/
def candidates (regions : List Region) : List Region :=
  regions.filter fun r => r.protection.mayHoldRam

/-- **Looks for the console's memory** in the memory of a process. -/
def locate (process : H) : Strategy → Inquiry H (Except MemoryError (Option Address))
  | regionScan magic => do
    match ← Inquiry.ask (.regions process) with
    | .error e => return .error e
    | .ok regions =>
      let places := candidates regions
      Dialogue.note .debug .strategy fun _ =>
        Decimal.text places.length ++ " of " ++ Decimal.text regions.length ++
          " regions may hold RAM"
      return .ok (← firstFit magic process (places.map Region.base))
  | moduleScan magic filter step => do
    match ← Inquiry.ask (.modules process) with
    | .error e => return .error e
    | .ok modules =>
      match selectModule filter modules with
      | none =>
        Dialogue.note .debug .strategy fun _ =>
          "no module matching " ++ Quoted.text filter ++ " among " ++ Decimal.text modules.length
        return .ok none
      | some m =>
        Dialogue.note .debug .strategy fun _ => "scanning " ++ m.text
        return .ok (← strideFit magic process m.base m.stop step)

/-- A stride is gone through as the list of its places would be. -/
theorem strideFit_eq (magic : MagicWord) (process : H) (start stop : Address) (step : UInt64) :
    strideFit magic process start stop step =
      firstFit magic process (Address.stride start stop step) := by
  fun_induction strideFit magic process start stop step with
  | case1 start h ih =>
    cases hnext : start.next? step with
    | some place =>
      rw [Address.stride_of_next?_eq_some h hnext, firstFit]
      congr 1
      funext hit
      split
      · rfl
      · exact ih place hnext
    | none =>
      rw [Address.stride_of_next?_eq_none h hnext, firstFit]
      rfl
  | case2 start h => rw [Address.stride_of_not_lt h, firstFit]

end Strategy

end PadScout
