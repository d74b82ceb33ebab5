import PadScout.Proofs.Discovery.Analysis
import PadScout.Proofs.Guarded.Candidates
import PadScout.Proofs.Pattern.Entries

/-! # Discovery, guarded

Nothing breaks off in discovery, whatever the memory holds (`analyze_run`).  The image may
have any size, if only its bytes can be counted with 64 bits.

Patterns are looked for in images that are long enough for them, and the words of the global
pointer are read at a match of its pattern, so they are there.  Every site that a search
returns lies in the image, which is what the tests of candidates rely on; a stage tries them
all, also those that are refused.
-/
namespace PadScout
namespace Guarded

open Attempt

/-! ## Searches -/

/-- Every index at which a pattern matches. -/
def occurrences (p : Pattern) (m : Image) : Guarded (List Nat) :=
  if p.isEmpty ∨ m.size < p.length then .ok []
  else do
    let last ← minus m.size p.length
    return Ascending.below (p.matchesAt m) (last + 1)

theorem occurrences_eq (p : Pattern) {m : Image} (h : m.size < 2 ^ 64) :
    occurrences p m = .ok (p.occurrences m) := by
  rw [occurrences, Pattern.occurrences]
  split
  · rfl
  · next hlong =>
    rw [not_or, Nat.not_lt] at hlong
    rw [minus_eq hlong.2 h]
    rfl

/-- The possible entries of a routine; there must be one. -/
def entriesOf (m : Image) (r : Routine) : Attempt (List Nat) := do
  let entries := (← occurrences r.signature.pattern m).flatMap r.signature.entriesFor
  if entries.isEmpty then Attempt.fail (.signatureNotFound r) else return entries

theorem entriesOf_agrees {m : Image} (h : m.size < 2 ^ 64) (r : Routine) :
    (entriesOf m r).Agrees (Discovery.entriesOf m r) := by
  refine agrees_lift_bind (occurrences_eq _ h) ?_
  unfold Discovery.entriesOf Signature.entries
  dsimp only
  split
  · rfl
  · exact Agrees.debug_bind _ rfl

/-- The calls to any of some words of memory.  The words of calls are built and compared by
operations that have a result for all operands. -/
def search (m : Image) (targets : List Nat) : Attempt CallSites :=
  ofOutcome (Report.ofSearch (callSitesTo m targets)).outcome

theorem search_agrees (m : Image) (targets : List Nat) :
    (search m targets).Agrees (.ofSearch (callSitesTo m targets)) := rfl

/-- The calls to a routine. -/
def callsToRoutine (m : Image) (r : Routine) : Attempt CallSites := do
  let entries ← entriesOf m r
  search m entries

theorem callsToRoutine_agrees {m : Image} (h : m.size < 2 ^ 64) (r : Routine) :
    (callsToRoutine m r).Agrees (Discovery.callsToRoutine m r) :=
  (entriesOf_agrees h r).bind fun entries _ =>
    (search_agrees m entries).bind_debug _

/-! ## Sites in the image -/

theorem inside_of_search {m : Image} {targets : List Nat} {sites : CallSites}
    (h : (Report.ofSearch (callSitesTo m targets)).outcome = .ok sites) : Inside m sites := by
  have hsites := Report.outcome_ofSearch_eq_ok_iff.1 h
  rw [callSitesTo] at hsites
  split at hsites
  · cases hsites
  · cases hsites
    intro site hsite
    exact (Ascending.mem_below.1 hsite).1

theorem inside_of_callsToRoutine {m : Image} {r : Routine} {sites : CallSites}
    (h : (Discovery.callsToRoutine m r).outcome = .ok sites) : Inside m sites := by
  obtain ⟨entries, -, h⟩ := Report.outcome_bind_eq_ok_iff.1 h
  obtain ⟨found, hfound, h⟩ := Report.outcome_bind_eq_ok_iff.1 h
  obtain ⟨-, -, h⟩ := Report.outcome_bind_eq_ok_iff.1 h
  cases h
  exact inside_of_search hfound

/-! ## Trying candidates -/

/-- The members that an attempt contributes. -/
def members {α : Type} (a : Attempt (List α)) : Guarded (List α) := do
  match ← a.run with
  | .ok l => return l
  | .error _ => return []

theorem members_eq {α : Type} {a : Attempt (List α)} {r : Report (List α)} (h : a.Agrees r) :
    members a = .ok r.members := by
  rw [members, show a.run = .ok r.outcome from h, ok_bind, Report.members]
  cases r.outcome <;> rfl

/-- Tries all sites in turn and collects what the attempts contribute. -/
def survivors (stage : Stage) (sites : List Nat) (attempt : Nat → Attempt (List Nat)) :
    Attempt (List Nat) := do
  let found ← (sites.mapM fun site => members (attempt site) : Guarded (List (List Nat)))
  match found.flatten with
  | [] => Attempt.fail (.noCandidate stage)
  | l => return l

theorem survivors_agrees {stage : Stage} {sites : List Nat} {attempt : Nat → Attempt (List Nat)}
    {r : Nat → Report (List Nat)} (h : ∀ site ∈ sites, (attempt site).Agrees (r site)) :
    (survivors stage sites attempt).Agrees (.survivors stage sites r) := by
  refine agrees_lift_bind (mapM_eq fun site hsite => members_eq (h site hsite)) ?_
  unfold Agrees Report.survivors
  rw [List.flatMap_def]
  cases (sites.map fun site => (r site).members).flatten <;> rfl

/-- Tries sites in turn up to the first that is accepted. -/
def firstSurvivor {α : Type} (stage : Stage) (attempt : Nat → Attempt α) : List Nat → Attempt α
  | [] => Attempt.fail (.noCandidate stage)
  | site :: sites => ExceptT.mk do
    match ← (attempt site).run with
    | .ok a => return .ok a
    | .error _ => (firstSurvivor stage attempt sites).run

theorem firstSurvivor_agrees {α : Type} {stage : Stage} {heading : String}
    {attempt : Nat → Attempt α} {r : Nat → Report α} {sites : List Nat}
    (h : ∀ site, (attempt site).Agrees (r site)) :
    (firstSurvivor stage attempt sites).Agrees (.firstSurvivor stage heading r sites) := by
  induction sites with
  | nil => rfl
  | cons site sites ih =>
    unfold Agrees at *
    rw [firstSurvivor, ExceptT.run_mk, h site, ok_bind, Report.firstSurvivor]
    cases (r site).outcome with
    | ok a => rfl
    | error e => exact ih

/-! ## Stages -/

/-- The routines that read the time. -/
def getTimeRoutines (m : Image) : Attempt (List Nat) := do
  let counters ← callsToRoutine m .getCount
  let disables ← callsToRoutine m .disableInterrupts
  let restores ← callsToRoutine m .restoreInterrupts
  survivors .getTime disables.toList (checkGetTime m counters restores)

/-- The routines that start a transfer. -/
def dmaStartRoutines (m : Image) : Attempt (List Nat) := do
  let writebacks ← callsToRoutine m .writebackCache
  let invalidations ← callsToRoutine m .invalidateCache
  survivors .dmaStart writebacks.toList (checkDmaStart m invalidations)

/-- The routines that set up the controllers. -/
def controllerInitRoutines (m : Image) (getTimes dmaStarts : List Nat) : Attempt (List Nat) := do
  let requests ← search m getTimes
  let transfers ← search m dmaStarts
  survivors .controllerInit requests.toList (checkControllerInit m transfers)

/-- The value of the global pointer. -/
def globalPointer (m : Image) : Guarded UInt32 := do
  match ← occurrences Routine.gpSetup.signature.pattern m with
  | [] => return 0
  | site :: _ =>
    let lui ← index m.words site
    let addiu ← index m.words (← plus site 2)
    return Discovery.loadedValue lui addiu

/-- The pads. -/
def controllerPads (m : Image) (inits : List Nat) (gp : UInt32) : Attempt Finding := do
  let callers ← search m inits
  firstSurvivor .controllerPads (checkPads m gp) callers.toList

/-- All stages in order; the remark on a finding shows where its window ends. -/
def analyze (m : Image) : Attempt Finding := do
  let getTimes ← getTimeRoutines m
  let dmaStarts ← dmaStartRoutines m
  let inits ← controllerInitRoutines m getTimes dmaStarts
  let gp ← globalPointer m
  let finding ← controllerPads m inits gp
  let _ ← plus finding.windowStart finding.windowLength
  return finding

theorem controllerPads_agrees (m : Image) (inits : List Nat) (gp : UInt32) :
    (controllerPads m inits gp).Agrees (Discovery.controllerPads m inits gp) :=
  (search_agrees m inits).bind fun _ _ =>
    firstSurvivor_agrees fun site => checkPads_agrees m gp site

section Stages
variable {m : Image} (hsize : 4 * m.size ≤ 2 ^ 64)

include hsize

theorem getTimeRoutines_agrees :
    (getTimeRoutines m).Agrees (Discovery.getTimeRoutines m) := by
  have hcount : m.size < 2 ^ 64 := by omega
  refine (callsToRoutine_agrees hcount .getCount).bind fun counters _ => ?_
  refine (callsToRoutine_agrees hcount .disableInterrupts).bind fun disables hdisables => ?_
  refine (callsToRoutine_agrees hcount .restoreInterrupts).bind fun restores hrestores => ?_
  have htests : ∀ start ∈ disables.toList, (checkGetTime m counters restores start).Agrees
      (Discovery.checkGetTime m counters restores start) := fun start hstart =>
    checkGetTime_agrees hsize (inside_of_callsToRoutine hdisables start hstart) counters
      (inside_of_callsToRoutine hrestores)
  exact (survivors_agrees htests).bind_debug _

theorem dmaStartRoutines_agrees :
    (dmaStartRoutines m).Agrees (Discovery.dmaStartRoutines m) := by
  have hcount : m.size < 2 ^ 64 := by omega
  refine (callsToRoutine_agrees hcount .writebackCache).bind fun writebacks hwritebacks => ?_
  refine (callsToRoutine_agrees hcount .invalidateCache).bind fun invalidations hinvalid => ?_
  have htests : ∀ start ∈ writebacks.toList, (checkDmaStart m invalidations start).Agrees
      (Discovery.checkDmaStart m invalidations start) := fun start hstart =>
    checkDmaStart_agrees hsize (inside_of_callsToRoutine hwritebacks start hstart)
      (inside_of_callsToRoutine hinvalid)
  exact (survivors_agrees htests).bind_debug _

theorem controllerInitRoutines_agrees (getTimes dmaStarts : List Nat) :
    (controllerInitRoutines m getTimes dmaStarts).Agrees
      (Discovery.controllerInitRoutines m getTimes dmaStarts) := by
  refine (search_agrees m getTimes).bind fun requests hrequests => ?_
  refine (search_agrees m dmaStarts).bind fun transfers _ => ?_
  exact survivors_agrees fun start hstart =>
    checkControllerInit_agrees hsize (inside_of_search hrequests start hstart) transfers

theorem globalPointer_eq : globalPointer m = .ok (Discovery.globalPointer m) := by
  rw [globalPointer, occurrences_eq _ (by omega), ok_bind, Discovery.globalPointer,
    Discovery.gpSetup?]
  cases hsites : Routine.gpSetup.signature.pattern.occurrences m with
  | nil => rfl
  | cons site sites =>
    -- the pattern has three words, all of them in the image
    have hmatch : Routine.gpSetup.signature.pattern.MatchesAt m site :=
      (Pattern.mem_occurrences_iff.1 (hsites ▸ List.mem_cons_self)).2
    have hinside : site + 3 ≤ m.size := hmatch.1
    obtain ⟨lui, hlui, hread⟩ := exists_index (show site < m.size by omega)
    obtain ⟨addiu, haddiu, hnext⟩ := exists_index (show site + 2 < m.size by omega)
    dsimp only
    rw [hread, ok_bind, plus_eq (by omega), ok_bind, hnext, hlui, haddiu]
    rfl

end Stages

/-- **Discovery never breaks off**, whatever words the image holds and however many, none
included, as long as its bytes can be counted with 64 bits.  No index and no range is outside
of what it is taken from, and no range ends before it starts; no shift is by as many bits as a
word has, or more; no division is by zero, and no number is greater or less than its limits
allow.  This holds of all candidates that are tried, also of those that are refused, and what
comes out in the end is what discovery returns. -/
theorem analyze_run (m : Image) (hsize : 4 * m.size ≤ 2 ^ 64) :
    (analyze m).run = .ok (Discovery.analyze m).outcome := by
  change (analyze m).Agrees (Discovery.analyze m)
  refine (getTimeRoutines_agrees hsize).bind fun getTimes hgetTimes => ?_
  refine (dmaStartRoutines_agrees hsize).bind fun dmaStarts hdmaStarts => ?_
  refine (controllerInitRoutines_agrees hsize getTimes dmaStarts).bind fun inits hinits => ?_
  have hpointer := agrees_lift (r := Discovery.gpReport m) (globalPointer_eq hsize) rfl
  refine hpointer.bind fun gp hgp => ?_
  refine (controllerPads_agrees m inits gp).bind fun finding hfinding => ?_
  obtain rfl : Discovery.globalPointer m = gp := Except.ok.inj hgp
  -- the window of a finding is inside, so its end is a number as small as the others
  have hwindow := Discovery.windowOf_of_analyze (Discovery.analyze_eq_controllerPads.2
    ⟨inits, ⟨getTimes, dmaStarts, hgetTimes, hdmaStarts, hinits⟩, hfinding⟩)
  have hinside := hwindow.inside
  have hlength := hwindow.length
  exact agrees_lift_bind (plus_eq (by omega)) rfl

/-- In the small memory discovery goes through all its stages. -/
theorem analyze_run_compact : 4 * Discovery.Sample.compact.size ≤ 2 ^ 64 ∧
    (analyze Discovery.Sample.compact).run = .ok (.ok Discovery.Sample.compactFinding) := by
  have hsize : 4 * Discovery.Sample.compact.size ≤ 2 ^ 64 := by decide +kernel
  refine ⟨hsize, ?_⟩
  rw [analyze_run Discovery.Sample.compact hsize, Discovery.outcome_analyze_compact]

end Guarded
end PadScout
