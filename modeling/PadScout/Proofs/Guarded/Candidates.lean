import PadScout.Proofs.CallRegion
import PadScout.Proofs.Discovery.Nearest
import PadScout.Proofs.Guarded.Machine

/-! # Candidates, guarded

The tests that discovery puts candidates to.  What they read and count lies in the image: a
candidate is a site in it, and so is the call that ends the region behind the candidate; the
range in which that call is looked for does not end before it starts.  A sum of an index and
a distance fits into 64 bits as the bytes of the image do, of which there are four for every
index.  So every test agrees with the one that is run (`checkGetTime_agrees`,
`checkDmaStart_agrees`, `checkControllerInit_agrees`, `checkPads_agrees`).
-/
namespace PadScout
namespace Guarded

open Attempt
open Discovery (pairDistance getTimeBound dmaBound controllerInitBound transferSpan
  transferLead padsLead windowWords transferLimit entryCandidates)

/-! ## Sites -/

/-- The sites from one to another.  A range whose end lies before its start is taken to end
at its start. -/
def sitesBetween (s : CallSites) (low high : Nat) : Guarded (List Nat) :=
  between s.toList low (max high low)

theorem sitesBetween_eq (s : CallSites) (low high : Nat) :
    sitesBetween s low high = .ok (s.between low high) :=
  between_eq _ (Nat.le_max_right high low)

/-- The first site from one to another. -/
def firstSite? (s : CallSites) (low high : Nat) : Guarded (Option Nat) := do
  return (← sitesBetween s low high).head?

theorem firstSite?_eq (s : CallSites) (low high : Nat) :
    firstSite? s low high = .ok (s.first? low high) := by
  rw [firstSite?, sitesBetween_eq]
  rfl

theorem exists_index {m : Image} {i : Nat} (h : i < m.size) :
    ∃ w, m.get? i = some w ∧ index m.words i = .ok w :=
  ⟨m.words[i], Array.getElem?_eq_getElem h, index_eq (Array.getElem?_eq_getElem h)⟩

/-- All sites lie in an image. -/
def Inside (m : Image) (s : CallSites) : Prop := ∀ site ∈ s.toList, site < m.size

theorem bounds_of_first? {m : Image} {s : CallSites} (h : Inside m s) {low high site : Nat}
    (hsite : s.first? low high = some site) : low ≤ site ∧ site < m.size := by
  obtain ⟨⟨hmem, hlow, -⟩, -⟩ := CallSites.first?_eq_some_iff.1 hsite
  exact ⟨hlow, h site hmem⟩

/-! ## Regions -/

/-- Whether a word allocates a stack frame. -/
def isProlog (w : UInt32) : Guarded Bool := do
  match ← decode w with
  | .ok i => return i.isStackProlog
  | .error _ => return false

theorem isProlog_eq (w : UInt32) : isProlog w = .ok (Discovery.isProlog w) := by
  rw [isProlog, decode_eq, ok_bind, Discovery.isProlog]
  cases Mips.decode w <;> rfl

/-- The nearest allocation of a stack frame before a word. -/
def findProlog (m : Image) (start bound : Nat) : Attempt Nat := do
  let above ← plus start 1
  match ← greatest? (fun i => do isProlog (← index m.words i)) (above - bound)
    (min start m.size) with
  | some i => return i
  | none => Attempt.fail (.prologNotFound start bound)

/-- How many routines are called from one word to another. -/
def distinctCalls (m : Image) (start stop : Nat) : Guarded Nat := do
  let targets ← (← slice m.words start (min stop (m.size - 1))).mapM calledTarget?
  return (Ascending.ofList (targets.filterMap id)).length

theorem distinctCalls_eq {m : Image} {start stop : Nat} (hle : start ≤ stop)
    (hlt : stop < m.size) :
    distinctCalls m start stop = .ok (PadScout.distinctCalls m start stop) := by
  have hlast : min stop (m.size - 1) = stop := by omega
  rw [distinctCalls, hlast, slice_eq hle hlt, ok_bind, mapM_eq fun w _ => calledTarget?_eq w,
    ok_bind, List.filterMap_map]
  rfl

/-- The end of a region that calls exactly three routines. -/
def pairedRegion (m : Image) (start : Nat) (closers : CallSites) : Attempt Nat := do
  match ← firstSite? closers start (← plus start pairDistance) with
  | none => Attempt.fail (.rejected (.noClosingCall start))
  | some stop =>
    let found ← distinctCalls m start stop
    if found = 3 then return stop else Attempt.fail (.callCount start stop 3 found)

section Region
variable {m : Image} (hsize : 4 * m.size ≤ 2 ^ 64) {start : Nat} (hstart : start < m.size)

include hsize hstart

theorem findProlog_agrees (bound : Nat) :
    (findProlog m start bound).Agrees (Discovery.lift (Discovery.findProlog m start bound)) := by
  have htest : ∀ i < min start m.size, (do isProlog (← index m.words i)) =
      .ok ((m.get? i).any Discovery.isProlog) := by
    intro i hi
    obtain ⟨w, hword, hread⟩ := exists_index (Nat.lt_of_lt_of_le hi (Nat.min_le_right _ _))
    rw [hread, ok_bind, isProlog_eq, hword]
    rfl
  refine agrees_lift_bind (plus_eq (by omega)) (agrees_lift_bind (greatest?_eq htest) ?_)
  rw [Discovery.findProlog]
  cases Ascending.greatest? _ _ _ <;> rfl

theorem pairedRegion_agrees {closers : CallSites} (hclosers : Inside m closers) :
    (pairedRegion m start closers).Agrees (Discovery.pairedRegion m start closers) := by
  refine agrees_lift_bind (plus_eq (by rw [pairDistance]; omega))
    (agrees_lift_bind (firstSite?_eq closers start _) ?_)
  rw [Discovery.pairedRegion]
  cases hstop : closers.first? start (start + pairDistance) with
  | none => rfl
  | some stop =>
    obtain ⟨hle, hlt⟩ := bounds_of_first? hclosers hstop
    refine agrees_lift_bind (distinctCalls_eq hle hlt) ?_
    dsimp only
    split <;> rfl

end Region

/-! ## The nearest word -/

/-- The distance between two words taken as numbers. -/
def distance (a b : UInt32) : Guarded Int := do magnitude (← signed (a.toNat - b.toNat))

theorem distance_eq (a b : UInt32) : distance a b = .ok (Discovery.distance a b) := by
  have ha := a.toNat_lt
  have hb := b.toNat_lt
  rw [distance, signed_eq (by omega) (by omega), ok_bind, magnitude_eq (by omega),
    Discovery.distance_eq_natAbs]

/-- Of two candidates, a later one only wins if it is strictly nearer. -/
def nearer (status : UInt32) : Option UInt32 → UInt32 → Guarded (Option UInt32)
  | none, v => return some v
  | some best, v => do
    let far ← distance status v
    let least ← distance status best
    return if far < least then some v else some best

theorem nearer_eq (status : UInt32) (best : Option UInt32) (v : UInt32) :
    nearer status best v = .ok (Discovery.nearer status best v) := by
  cases best with
  | none => rfl
  | some best =>
    rw [nearer, distance_eq, ok_bind, distance_eq, ok_bind, Discovery.nearer]
    simp only [Int.ofNat_lt]
    rfl

/-- The candidate nearest to a word. -/
def nearestTo (status : UInt32) (candidates : List UInt32) : Guarded (Option UInt32) :=
  candidates.foldlM (nearer status) none

theorem nearestTo_eq (status : UInt32) (candidates : List UInt32) :
    nearestTo status candidates = .ok (Discovery.nearestTo status candidates) :=
  foldlM_eq fun best v _ => nearer_eq status best v

/-! ## Probes -/

/-- A probe, as part of discovery. -/
def ofProbe (p : CallProbe) (m : Image) (site : Nat) : Attempt CallProbe.Outcome := do
  match ← probe p m site with
  | .ok o => return o
  | .error f => Attempt.fail (.probe f)

theorem ofProbe_agrees {lead : Nat} (h : lead + 2 < 2 ^ 64)
    (seeds : List (Mips.Register × UInt32)) (m : Image) (site : Nat) :
    (ofProbe ⟨lead, seeds⟩ m site).Agrees (.ofProbe ⟨lead, seeds⟩ m site) := by
  refine agrees_lift_bind (probe_eq h m site) ?_
  unfold Agrees Report.ofProbe
  cases CallProbe.run ⟨lead, seeds⟩ m site <;> rfl

/-- The buffer that a call passes to the routine that starts a transfer. -/
def transferBuffer (m : Image) (site : Nat) : Attempt UInt32 := do
  let o ← ofProbe ⟨transferLead, []⟩ m site
  registerAfter o .a1

theorem transferBuffer_agrees (m : Image) (site : Nat) :
    (transferBuffer m site).Agrees (Discovery.transferBuffer m site) :=
  (ofProbe_agrees (by decide) _ m site).bind fun o _ => agrees_lift (registerAfter_eq o .a1) rfl

/-! ## Tests -/

/-- A region that disables interrupts, reads the cycle counter and restores interrupts. -/
def checkGetTime (m : Image) (counters restores : CallSites) (start : Nat) :
    Attempt (List Nat) := do
  let stop ← pairedRegion m start restores
  if (← firstSite? counters start stop).isNone then
    Attempt.fail (.rejected (.noCounterCall start stop))
  else
    let prolog ← findProlog m start getTimeBound
    return [prolog]

/-- A region that writes back and invalidates the data cache. -/
def checkDmaStart (m : Image) (invalidations : CallSites) (start : Nat) : Attempt (List Nat) := do
  let _ ← pairedRegion m start invalidations
  let prolog ← findProlog m start dmaBound
  return entryCandidates prolog

/-- A request for the time that is followed by exactly two transfers of one buffer. -/
def checkControllerInit (m : Image) (transfers : CallSites) (start : Nat) :
    Attempt (List Nat) := do
  let calls ← sitesBetween transfers start (← plus start transferSpan)
  if calls.length ≠ 2 then
    Attempt.fail (.callCount start (← plus start transferSpan) 2 calls.length)
  else
    let first ← transferBuffer m (← (index calls.toArray 0 : Guarded Nat))
    let second ← transferBuffer m (← (index calls.toArray 1 : Guarded Nat))
    if first ≠ second then Attempt.fail (.rejected (.buffersDiffer first second))
    else if !isRamAddress first transferLimit then Attempt.fail (.rejected (.notRam first))
    else
      let prolog ← findProlog m start controllerInitBound
      return entryCandidates prolog

/-- A call whose preceding code stores the address that it passes as the status block, and
the address of the pads beside it. -/
def checkPads (m : Image) (gp : UInt32) (site : Nat) : Attempt Finding := do
  let o ← ofProbe ⟨padsLead, [(.gp, gp)]⟩ m site
  let status ← registerAfter o .a2
  if o.stored.length < 2 then
    Attempt.fail (.rejected (.statusNotStored status o.stored.length))
  else if !o.stored.contains status then
    Attempt.fail (.rejected (.statusNotStored status o.stored.length))
  else
    match ← nearestTo status (o.stored.filter (· != status)) with
    | none => Attempt.fail (.rejected .noSibling)
    | some pads =>
      if site < windowWords then Attempt.fail (.rejected (.nearRamStart site))
      else
        match m.window? (site - windowWords) windowWords with
        | none => Attempt.fail (.rejected (.windowOutside (site - windowWords)))
        | some window => return ⟨site - windowWords, window, pads &&& 0x00FFFFFF⟩

theorem checkPads_agrees (m : Image) (gp : UInt32) (site : Nat) :
    (checkPads m gp site).Agrees (Discovery.checkPads m gp site) := by
  refine (ofProbe_agrees (by decide) _ m site).bind fun o _ => ?_
  refine agrees_lift_bind (registerAfter_eq o .a2) ?_
  dsimp only
  split
  · rfl
  · split
    · rfl
    · refine agrees_lift_bind (nearestTo_eq _ _) ?_
      cases Discovery.nearestTo _ _ with
      | none => rfl
      | some pads =>
        dsimp only
        split
        · rfl
        · cases m.window? (site - windowWords) windowWords <;> rfl

section Tests
variable {m : Image} (hsize : 4 * m.size ≤ 2 ^ 64) {start : Nat} (hstart : start < m.size)

include hsize hstart

theorem checkGetTime_agrees (counters : CallSites) {restores : CallSites}
    (hrestores : Inside m restores) :
    (checkGetTime m counters restores start).Agrees
      (Discovery.checkGetTime m counters restores start) := by
  refine (pairedRegion_agrees hsize hstart hrestores).bind fun stop _ => ?_
  refine agrees_lift_bind (firstSite?_eq counters start stop) ?_
  split
  · rfl
  · exact (findProlog_agrees hsize hstart getTimeBound).bind fun prolog _ => rfl

theorem checkDmaStart_agrees {invalidations : CallSites} (h : Inside m invalidations) :
    (checkDmaStart m invalidations start).Agrees (Discovery.checkDmaStart m invalidations start) :=
  (pairedRegion_agrees hsize hstart h).bind fun _ _ =>
    (findProlog_agrees hsize hstart dmaBound).bind fun _ _ => rfl

theorem checkControllerInit_agrees (transfers : CallSites) :
    (checkControllerInit m transfers start).Agrees
      (Discovery.checkControllerInit m transfers start) := by
  have hspan : plus start transferSpan = .ok (start + transferSpan) :=
    plus_eq (by rw [transferSpan]; omega)
  refine agrees_lift_bind hspan (agrees_lift_bind (sitesBetween_eq transfers start _) ?_)
  rw [Discovery.checkControllerInit]
  match transfers.between start (start + transferSpan) with
  | [one, two] =>
    refine agrees_lift_bind (index_eq (x := one) rfl) ?_
    refine (transferBuffer_agrees m one).bind fun first _ => ?_
    refine agrees_lift_bind (index_eq (x := two) rfl) ?_
    refine (transferBuffer_agrees m two).bind fun second _ => ?_
    split
    · rfl
    · split
      · rfl
      · refine Agrees.debug_bind _ ?_
        exact (findProlog_agrees hsize hstart controllerInitBound).bind fun prolog _ => rfl
  | [] => exact agrees_lift_bind hspan rfl
  | [one] => exact agrees_lift_bind hspan rfl
  | one :: two :: three :: rest =>
    rw [if_pos (by simp)]
    exact agrees_lift_bind hspan rfl

end Tests

end Guarded
end PadScout
