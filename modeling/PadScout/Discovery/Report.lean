import PadScout.CallSite
import PadScout.Machine.CallProbe

/-! # Reports of discovery

Discovery goes through stages, and each stage tries many candidates of which
most are refused.  `DiscoveryError` lists the causes, for a stage as well as for
a candidate, and a `Report` is the outcome of a stage or of one attempt together
with the journal of it.  Reports are chained by `do`: a failure ends the chain,
and the journal keeps what was said up to there.
-/
namespace PadScout

/-- The stages that look for candidates. -/
inductive Stage where
  | getTime | dmaStart | controllerInit | controllerPads
deriving DecidableEq

namespace Stage

def name : Stage → String
  | getTime => "get-time"
  | dmaStart => "dma-start"
  | controllerInit => "controller-init"
  | controllerPads => "controller-pads"

end Stage

/-- Why a candidate is turned away by a test of its own. -/
inductive Rejection where
  | noClosingCall (start : Nat)
  | noCounterCall (start stop : Nat)
  | buffersDiffer (first second : UInt32)
  | notRam (address : UInt32)
  | statusNotStored (status : UInt32) (stored : Nat)
  | noSibling
  | nearRamStart (site : Nat)
  | windowOutside (start : Nat)
deriving DecidableEq

namespace Rejection

def message : Rejection → String
  | noClosingCall start => "no closing call after " ++ Hex.marked start
  | noCounterCall start stop =>
    "no get-count call in [" ++ Hex.marked start ++ ", " ++ Hex.marked stop ++ "]"
  | buffersDiffer first second =>
    "dma buffers differ (" ++ Hex.markedWord first ++ " vs " ++ Hex.markedWord second ++ ")"
  | notRam address => Hex.markedWord address ++ " is not a RAM address"
  | statusNotStored status stored =>
    "status " ++ Hex.markedWord status ++ " not among " ++ Decimal.text stored ++ " stored words"
  | noSibling => "no sibling store"
  | nearRamStart site => "call at " ++ Hex.marked site ++ " too close to RAM start"
  | windowOutside start => "window at " ++ Hex.marked start ++ " out of range"

end Rejection

/-- Why discovery, or one candidate in it, fails. -/
inductive DiscoveryError where
  | signatureNotFound (routine : Routine)
  | prologNotFound (site bound : Nat)
  | noCandidate (stage : Stage)
  | callCount (start stop expected found : Nat)
  | rejected (reason : Rejection)
  | pattern (cause : PatternError)
  | probe (cause : Fault)
deriving DecidableEq

namespace DiscoveryError

def message : DiscoveryError → String
  | signatureNotFound routine => "Signature " ++ routine.name ++ " not found in RAM"
  | prologNotFound site bound =>
    "No stack prolog within " ++ Hex.marked bound ++ " words before " ++ Hex.marked site
  | noCandidate stage => "No candidate survived the " ++ stage.name ++ " stage"
  | callCount start stop expected found =>
    "Expected " ++ Decimal.text expected ++ " calls in [" ++ Hex.marked start ++ ", " ++
      Hex.marked stop ++ "], found " ++ Decimal.text found
  | rejected reason => "Candidate rejected: " ++ reason.message
  | pattern cause => "Pattern error: " ++ cause.message
  | probe cause => "Interpreter error: " ++ cause.message

end DiscoveryError

/-- An outcome with the journal of how it came about. -/
structure Report (α : Type) where
  outcome : Except DiscoveryError α
  journal : Journal

namespace Report

variable {α β : Type}

def ok (a : α) : Report α := ⟨.ok a, .empty⟩

def fail (e : DiscoveryError) : Report α := ⟨.error e, .empty⟩

def reject (reason : Rejection) : Report α := fail (.rejected reason)

/-- Goes on from a success; a failure is passed on. -/
def bind (r : Report α) (next : α → Report β) : Report β :=
  match r.outcome with
  | .ok a => ⟨(next a).outcome, r.journal ++ (next a).journal⟩
  | .error e => ⟨.error e, r.journal⟩

instance : Monad Report where
  pure := ok
  bind := bind

/-- A remark on the progress of discovery. -/
def debug (message : Unit → String) : Report Unit :=
  ⟨.ok (), .single .debug .discovery message⟩

/-- A search for calls, as part of discovery. -/
def ofSearch : Except PatternError α → Report α
  | .ok a => ok a
  | .error e => fail (.pattern e)

/-- A probe, as part of discovery. -/
def ofProbe (p : CallProbe) (m : Image) (site : Nat) : Report CallProbe.Outcome :=
  ⟨match p.run m site with
    | .ok o => .ok o
    | .error f => .error (.probe f), fun _ => p.entries m site⟩

/-- The members that an attempt contributes: none if it fails. -/
def members (r : Report (List α)) : List α :=
  match r.outcome with
  | .ok l => l
  | .error _ => []

/-- The journal of an attempt, closed by the reason if it failed. -/
def withRefusal (heading : Unit → String) (r : Report α) : Journal :=
  match r.outcome with
  | .ok _ => r.journal
  | .error e => r.journal ++ .single .debug .discovery fun _ => heading () ++ ": " ++ e.message

/-- **Tries all sites** in turn and collects what the attempts contribute; a
refused site does not keep the others from being accepted. -/
def survivors (stage : Stage) (sites : List Nat) (attempt : Nat → Report (List α)) :
    Report (List α) :=
  ⟨match sites.flatMap fun site => (attempt site).members with
    | [] => .error (.noCandidate stage)
    | l => .ok l,
   fun _ => sites.flatMap fun site =>
    ((attempt site).withRefusal fun _ =>
      stage.name ++ " candidate at " ++ Hex.marked site).entries⟩

/-- Tries sites in turn up to the first that is accepted. -/
def firstSurvivor (stage : Stage) (heading : String) (attempt : Nat → Report α) :
    List Nat → Report α
  | [] => fail (.noCandidate stage)
  | site :: sites =>
    match (attempt site).outcome with
    | .ok a => ⟨.ok a, (attempt site).journal⟩
    | .error _ =>
      let rest := firstSurvivor stage heading attempt sites
      ⟨rest.outcome,
        (attempt site).withRefusal (fun _ => heading ++ Hex.marked site) ++ rest.journal⟩

/-! ## Outcomes of chains -/

@[simp] theorem outcome_pure (a : α) : (pure a : Report α).outcome = .ok a := rfl

@[simp] theorem outcome_ok (a : α) : (ok a).outcome = .ok a := rfl

@[simp] theorem outcome_fail (e : DiscoveryError) : (fail e : Report α).outcome = .error e := rfl

@[simp] theorem outcome_reject (reason : Rejection) :
    (reject reason : Report α).outcome = .error (.rejected reason) := rfl

@[simp] theorem outcome_debug (message : Unit → String) : (debug message).outcome = .ok () := rfl

@[simp] theorem outcome_bind (r : Report α) (next : α → Report β) :
    (r >>= next).outcome = match r.outcome with
      | .ok a => (next a).outcome
      | .error e => .error e := by
  change (bind r next).outcome = _
  unfold bind
  split <;> simp_all

/-- What was said before a failure is not lost. -/
theorem journal_bind_of_error {r : Report α} {e : DiscoveryError} (h : r.outcome = .error e)
    (next : α → Report β) : (r >>= next).journal = r.journal := by
  change (bind r next).journal = _
  unfold bind
  rw [h]

theorem journal_bind_of_ok {r : Report α} {a : α} (h : r.outcome = .ok a) (next : α → Report β) :
    (r >>= next).journal = r.journal ++ (next a).journal := by
  change (bind r next).journal = _
  unfold bind
  rw [h]

end Report

end PadScout
