import PadScout.Discovery.Finding
import PadScout.Discovery.Report
import PadScout.Text.Duration

/-! # The stages of discovery

Controllers are read through one routine of the system software, and a game
tells that routine once, at the start, where it wants the result.  Discovery
works its way to that call from routines that can be recognised by their code:

* `getTimeRoutines` finds the routine that reads the time.  It disables
  interrupts, reads the cycle counter and restores interrupts.
* `dmaStartRoutines` finds the routine that starts a transfer to the controller
  interface.  It writes back the data cache, translates an address and
  invalidates the data cache.
* `controllerInitRoutines` finds the routine that sets up the controllers.  It
  asks for the time and then starts exactly two transfers of the same buffer.
* `controllerPads` looks at the callers of that routine.  The code before the
  call stores the addresses of two blocks, and the one that is not passed as the
  status block is where the pads are read to.

`analyze` runs them all.  Sites, candidates and windows are word indices.
-/
namespace PadScout
namespace Discovery

/-! ## Limits -/

/-- How far after the first call of a pair the second must follow. -/
def pairDistance : Nat := 0x18

def getTimeBound : Nat := 0x10
def dmaBound : Nat := 0x20
def controllerInitBound : Nat := 0x20

/-- How far after the time is asked for the transfers are started. -/
def transferSpan : Nat := 0x80

/-- A routine may spill a few words before it allocates its frame, so that it is
entered up to four words before. -/
def entrySlack : Nat := 5

def transferLead : Nat := 16
def padsLead : Nat := 20

/-- The length of the window of a finding. -/
def windowWords : Nat := 20

/-- The limit of memory offsets that a transfer may use. -/
def transferLimit : UInt32 := 0x800000

/-! ## Tests of candidates -/

/-- Whether a word allocates a stack frame. -/
def isProlog (w : UInt32) : Bool :=
  match Mips.decode w with
  | .ok i => i.isStackProlog
  | .error _ => false

/-- **The nearest allocation of a stack frame** before word `start`, less than
`bound` words away. -/
def findProlog (m : Image) (start bound : Nat) : Except DiscoveryError Nat :=
  match Ascending.greatest? (fun i => (m.get? i).any isProlog) (start + 1 - bound)
      (min start m.size) with
  | some i => .ok i
  | none => .error (.prologNotFound start bound)

/-- Where a routine may be entered that allocates its frame at a given word. -/
def entryCandidates (prolog : Nat) : List Nat :=
  (List.range entrySlack).filterMap fun i => if i ≤ prolog then some (prolog - i) else none

/-- The distance between two words taken as numbers. -/
def distance (a b : UInt32) : Nat := (a.toNat - b.toNat) + (b.toNat - a.toNat)

/-- Of two candidates, a later one only wins if it is strictly nearer. -/
def nearer (status : UInt32) : Option UInt32 → UInt32 → Option UInt32
  | none, v => some v
  | some best, v => if distance status v < distance status best then some v else some best

/-- **The candidate nearest to a word**, the first of several at the same
distance. -/
def nearestTo (status : UInt32) (candidates : List UInt32) : Option UInt32 :=
  candidates.foldl (nearer status) none

/-! ## Stages -/

/-- Hexadecimal numbers in brackets. -/
def listText (l : List Nat) : String := "[" ++ ", ".intercalate (l.map Hex.bare) ++ "]"

/-- The possible entries of a routine; there must be one. -/
def entriesOf (m : Image) (r : Routine) : Report (List Nat) := do
  let entries := r.signature.entries m
  if entries.isEmpty then .fail (.signatureNotFound r)
  else
    .debug fun _ => r.name ++ ": " ++ Decimal.text entries.length ++ " entry candidates"
    return entries

/-- The calls to a routine. -/
def callsToRoutine (m : Image) (r : Routine) : Report CallSites := do
  let entries ← entriesOf m r
  let sites ← .ofSearch (callSitesTo m entries)
  .debug fun _ => r.name ++ ": " ++ Decimal.text sites.size ++ " call sites"
  return sites

/-- The end of a region that starts at a call of one routine, ends at the nearest
following call of another, and calls exactly three routines. -/
def pairedRegion (m : Image) (start : Nat) (closers : CallSites) : Report Nat :=
  match closers.first? start (start + pairDistance) with
  | none => .reject (.noClosingCall start)
  | some stop =>
    let found := distinctCalls m start stop
    -- the opening call, the closing call and one more between them
    if found = 3 then .ok stop else .fail (.callCount start stop 3 found)

/-- A result without remarks, as part of a chain. -/
def lift {α : Type} (outcome : Except DiscoveryError α) : Report α := ⟨outcome, .empty⟩

/-- A region that disables interrupts, reads the cycle counter and restores
interrupts; the routine that holds it reads the time. -/
def checkGetTime (m : Image) (counters restores : CallSites) (start : Nat) :
    Report (List Nat) := do
  let stop ← pairedRegion m start restores
  if (counters.first? start stop).isNone then .reject (.noCounterCall start stop)
  else
    let prolog ← lift (findProlog m start getTimeBound)
    return [prolog]

/-- **The routines that read the time.** -/
def getTimeRoutines (m : Image) : Report (List Nat) := do
  let counters ← callsToRoutine m .getCount
  let disables ← callsToRoutine m .disableInterrupts
  let restores ← callsToRoutine m .restoreInterrupts
  let routines ← .survivors .getTime disables.toList (checkGetTime m counters restores)
  .debug fun _ => "get-time routines: " ++ listText routines
  return routines

/-- A region that writes back and invalidates the data cache, with one more call
between. -/
def checkDmaStart (m : Image) (invalidations : CallSites) (start : Nat) : Report (List Nat) := do
  let _ ← pairedRegion m start invalidations
  let prolog ← lift (findProlog m start dmaBound)
  return entryCandidates prolog

/-- **The routines that start a transfer**, at each of their possible entries. -/
def dmaStartRoutines (m : Image) : Report (List Nat) := do
  let writebacks ← callsToRoutine m .writebackCache
  let invalidations ← callsToRoutine m .invalidateCache
  let routines ← .survivors .dmaStart writebacks.toList (checkDmaStart m invalidations)
  .debug fun _ => "dma-start candidates: " ++ listText routines
  return routines

/-- The buffer that a call passes to the routine that starts a transfer. -/
def transferBuffer (m : Image) (site : Nat) : Report UInt32 := do
  let o ← .ofProbe ⟨transferLead, []⟩ m site
  return o.get .a1

/-- A request for the time that is followed by exactly two transfers of one
buffer in memory. -/
def checkControllerInit (m : Image) (transfers : CallSites) (start : Nat) :
    Report (List Nat) := do
  match transfers.between start (start + transferSpan) with
  | [one, two] =>
    let first ← transferBuffer m one
    let second ← transferBuffer m two
    if first ≠ second then .reject (.buffersDiffer first second)
    else if !isRamAddress first transferLimit then .reject (.notRam first)
    else
      .debug fun _ =>
        "controller-init at " ++ Hex.marked start ++ " passes " ++ Hex.markedWord first ++ " to dma"
      let prolog ← lift (findProlog m start controllerInitBound)
      return entryCandidates prolog
  | calls => .fail (.callCount start (start + transferSpan) 2 calls.length)

/-- **The routines that set up the controllers**, at each of their possible
entries. -/
def controllerInitRoutines (m : Image) (getTimes dmaStarts : List Nat) : Report (List Nat) := do
  let requests ← .ofSearch (callSitesTo m getTimes)
  let transfers ← .ofSearch (callSitesTo m dmaStarts)
  .survivors .controllerInit requests.toList (checkControllerInit m transfers)

/-- The value that `lui gp, hi` and `addiu gp, gp, lo` leave, with the words of
the two instructions. -/
def loadedValue (lui addiu : UInt32) : UInt32 :=
  ((lui &&& 0xFFFF) <<< 16) + addiu.toUInt16.toInt16.toInt32.toUInt32

/-- The first place where the global pointer is set up, with the value. -/
def gpSetup? (m : Image) : Option (Nat × UInt32) :=
  match Routine.gpSetup.signature.pattern.occurrences m with
  | [] => none
  | site :: _ =>
    match m.get? site, m.get? (site + 2) with
    | some lui, some addiu => some (site, loadedValue lui addiu)
    | _, _ => none

/-- The value of the global pointer; zero if it is never set up. -/
def globalPointer (m : Image) : UInt32 :=
  match gpSetup? m with
  | some (_, gp) => gp
  | none => 0

/-- What there is to say about the global pointer. -/
def gpJournal (m : Image) : Journal :=
  .single .debug .discovery fun _ =>
    match gpSetup? m with
    | some (site, gp) =>
      "gp = " ++ Hex.markedWord gp ++ " (setup at " ++ Hex.marked site ++ ")"
    | none => "no gp setup found"

/-- The global pointer, as part of a chain. -/
def gpReport (m : Image) : Report UInt32 := ⟨.ok (globalPointer m), gpJournal m⟩

/-- A call whose preceding code stores the address that it passes as the status
block, and the address of the pads beside it. -/
def checkPads (m : Image) (gp : UInt32) (site : Nat) : Report Finding := do
  let o ← .ofProbe ⟨padsLead, [(.gp, gp)]⟩ m site
  let status := o.get .a2
  let others := o.stored.filter (· != status)
  -- the status block must be among the stores, with something beside it
  if o.stored.length < 2 then .reject (.statusNotStored status o.stored.length)
  else if !o.stored.contains status then .reject (.statusNotStored status o.stored.length)
  else
    match nearestTo status others with
    | none => .reject .noSibling
    | some pads =>
      if site < windowWords then .reject (.nearRamStart site)
      else
        match m.window? (site - windowWords) windowWords with
        | none => .reject (.windowOutside (site - windowWords))
        | some window =>
          .debug fun _ =>
            "status " ++ Hex.markedWord status ++ ", pads " ++ Hex.markedWord pads
          return ⟨site - windowWords, window, pads &&& 0x00FFFFFF⟩

/-- **The pads**, from the first caller that gives them away. -/
def controllerPads (m : Image) (inits : List Nat) (gp : UInt32) : Report Finding := do
  let callers ← .ofSearch (callSitesTo m inits)
  .firstSurvivor .controllerPads "controller-init caller at " (checkPads m gp) callers.toList

/-- **All stages in order.** -/
def analyze (m : Image) : Report Finding := do
  let getTimes ← getTimeRoutines m
  let dmaStarts ← dmaStartRoutines m
  let inits ← controllerInitRoutines m getTimes dmaStarts
  let gp ← gpReport m
  let finding ← controllerPads m inits gp
  (⟨.ok (), .single .info .discovery fun _ => "analysis found " ++ finding.text⟩ : Report Unit)
  return finding

/-- A journal between the remarks that a clock was started and stopped. -/
def timed (name : String) (elapsed : Duration) (j : Journal) : Journal :=
  .single .debug .timer (fun _ => "[TIMER] " ++ name ++ " started") ++ j ++
    .single .debug .timer fun _ => "[TIMER] " ++ name ++ " took " ++ elapsed.text

/-- The journal of `analyze`, with the time it took. -/
def analysisJournal (r : Report Finding) (elapsed : Duration) : Journal :=
  timed "analysis" elapsed r.journal

end Discovery
end PadScout
