import PadScout.Proofs.Discovery.Analysis
import PadScout.Proofs.Discovery.Survivors
import PadScout.Proofs.Word

/-! # Routines that set up the controllers

A request for the time tells such a routine if exactly two transfers are started soon after
it and both are passed the same buffer (`SetsUp`).  What a transfer is passed is learnt by
running the code before it (`Passes`).  Where that code fails the request does not qualify,
which is of no account for the other requests.
-/
namespace PadScout
namespace Discovery

/-- **The call at a site passes a buffer**: the run of sixteen words before the call, the call
and the word behind it completes with the buffer in `a1`. -/
def Passes (m : Image) (site : Nat) (buffer : UInt32) : Prop :=
  ∃ final : Machine, ((⟨16, []⟩ : CallProbe).start m site).run 18 = (final, .ok ()) ∧
    final.get .a1 = buffer

/-- **The call at `start` asks for the time to set up the controllers.**  The calls `one` and
`two` are the only transfers from there on up to `0x80` words away, both pass the same address
in memory, and word `p` allocates the frame of the routine. -/
structure SetsUp (m : Image) (getTimes dmaStarts : List Nat) (start p : Nat) : Prop where
  asks : ∃ t ∈ getTimes, m.Calls start t
  transfers : ∃ one two buffer, one < two ∧
    (∀ s, (start ≤ s ∧ s ≤ start + 0x80 ∧ ∃ t ∈ dmaStarts, m.Calls s t) ↔ s = one ∨ s = two) ∧
    Passes m one buffer ∧ Passes m two buffer ∧
    buffer.toNat / 2 ^ 24 = 0x80 ∧ buffer.toNat % 2 ^ 24 ≤ 0x800000
  prolog : NearestProlog m start 0x20 p

section
variable {m : Image}

theorem isRamAddress_iff {address limit : UInt32} : isRamAddress address limit = true ↔
    address.toNat / 2 ^ 24 = 0x80 ∧ address.toNat % 2 ^ 24 ≤ limit.toNat := by
  have htop : (address >>> 24).toNat = address.toNat / 2 ^ 24 := by
    rw [UInt32.toNat_shiftRight, Nat.shiftRight_eq_div_pow]
    rfl
  have hlow : (address &&& 0x00FFFFFF).toNat = address.toNat % 2 ^ 24 :=
    Word.toNat_and_low (k := 24) (by decide) address
  rw [isRamAddress, Bool.and_eq_true, beq_iff_eq, decide_eq_true_eq, UInt32.le_iff_toNat_le, hlow,
    ← UInt32.toNat_inj, htop]
  rfl

/-- The probe of a transfer reports a buffer if the code before it passes one. -/
theorem transferBuffer_eq_ok_iff {site : Nat} {buffer : UInt32} :
    (transferBuffer m site).outcome = .ok buffer ↔ Passes m site buffer := by
  rw [transferBuffer, Report.outcome_bind_eq_ok_iff]
  simp only [Report.outcome_ofProbe_eq_ok_iff]
  constructor
  · rintro ⟨o, ho, hbuffer⟩
    obtain ⟨final, hrun, hregisters, -⟩ := CallProbe.exists_of_run ho
    obtain rfl := Except.ok.inj hbuffer
    exact ⟨final, hrun, (get_eq_of_registers hregisters .a1).symm⟩
  · rintro ⟨final, hrun, rfl⟩
    obtain ⟨stored, ho, -⟩ := CallProbe.run_of_ok hrun
    exact ⟨_, ho, rfl⟩

/-- **A request is accepted** if it sets up the controllers. -/
theorem checkControllerInit_eq_ok_iff_setsUp {getTimes dmaStarts : List Nat} {transfers : CallSites}
    (htransfers : ∀ s, s ∈ transfers.toList ↔ ∃ t ∈ dmaStarts, m.Calls s t) {start : Nat}
    (hstart : ∃ t ∈ getTimes, m.Calls start t) {l : List Nat} :
    (checkControllerInit m transfers start).outcome = .ok l ↔
      ∃ p, SetsUp m getTimes dmaStarts start p ∧ l = downFrom p := by
  have hbetween : ∀ one two, transfers.between start (start + transferSpan) = [one, two] ↔
      one < two ∧ ∀ s, (start ≤ s ∧ s ≤ start + 0x80 ∧ ∃ t ∈ dmaStarts, m.Calls s t) ↔
        s = one ∨ s = two := by
    intro one two
    have hmax : max (start + transferSpan) start = start + 0x80 := Nat.max_eq_left (by omega)
    have hmem : ∀ s, s ∈ transfers.between start (start + transferSpan) ↔
        start ≤ s ∧ s ≤ start + 0x80 ∧ ∃ t ∈ dmaStarts, m.Calls s t := fun s => by
      rw [CallSites.mem_between, htransfers, hmax, and_comm, and_assoc]
    rw [eq_pair_iff_of_pairwise (transfers.pairwise_between _ _)]
    simp only [hmem]
  rw [checkControllerInit_eq_ok_iff]
  simp only [transferBuffer_eq_ok_iff, findProlog_eq_ok_iff_nearest, entryCandidates_eq_downFrom]
  constructor
  · rintro ⟨one, two, buffer, p, hpair, hone, htwo, hram, hp, rfl⟩
    obtain ⟨hlt, hmem⟩ := (hbetween one two).1 hpair
    obtain ⟨htop, hlow⟩ := isRamAddress_iff.1 hram
    exact ⟨p, ⟨hstart, ⟨one, two, buffer, hlt, hmem, hone, htwo, htop, hlow⟩, hp⟩, rfl⟩
  · rintro ⟨p, ⟨-, ⟨one, two, buffer, hlt, hmem, hone, htwo, htop, hlow⟩, hp⟩, rfl⟩
    exact ⟨one, two, buffer, p, (hbetween one two).2 ⟨hlt, hmem⟩, hone, htwo,
      isRamAddress_iff.2 ⟨htop, hlow⟩, hp, rfl⟩

theorem settled_controllerInitRoutines {getTimes dmaStarts : List Nat}
    (hget : ∀ t ∈ getTimes, t < 0x4000000) (hdma : ∀ t ∈ dmaStarts, t < 0x4000000) :
    Settled m [] .controllerInit (SetsUp m getTimes dmaStarts) downFrom
      (controllerInitRoutines m getTimes dmaStarts).outcome := by
  obtain ⟨requests, hrequests, hasks⟩ := callSitesTo_of_lt m hget
  obtain ⟨transfers, htransfers, hstarts⟩ := callSitesTo_of_lt m hdma
  -- both searches succeed, so the trial of the requests decides
  have hstage : (controllerInitRoutines m getTimes dmaStarts).outcome =
      (Report.survivors .controllerInit requests.toList
        (checkControllerInit m transfers)).outcome := by
    rw [controllerInitRoutines, hrequests, htransfers, Report.outcome_bind, Report.ofSearch]
    dsimp only [Report.outcome_ok]
    rw [Report.outcome_bind, Report.ofSearch]
    rfl
  rw [hstage]
  refine settled_survivors (fun s hs l => ?_) (fun s p hsite => ?_) (fun s p q hp hq => ?_)
    downFrom_ne_nil
  · exact checkControllerInit_eq_ok_iff_setsUp hstarts ((hasks s).1 hs)
  · exact (hasks s).2 hsite.asks
  · exact hp.prolog.unique hq.prolog

end

/-- **The stage accepts exactly the requests that set up the controllers**, whatever the image
holds.  Each contributes, in ascending order, the allocation of the frame and up to four words
before it, and without any nothing is found.  It does not matter in which order the routines
are given, nor how often. -/
theorem controllerInitRoutines_settled (m : Image) (getTimes dmaStarts : List Nat)
    (hget : ∀ t ∈ getTimes, t < 0x4000000) (hdma : ∀ t ∈ dmaStarts, t < 0x4000000) :
    (∀ o, (controllerInitRoutines m getTimes dmaStarts).outcome = o ↔
      Settled m [] .controllerInit (SetsUp m getTimes dmaStarts) downFrom o) ∧
    ∀ getTimes' dmaStarts', (∀ t, t ∈ getTimes' ↔ t ∈ getTimes) →
      (∀ t, t ∈ dmaStarts' ↔ t ∈ dmaStarts) →
      controllerInitRoutines m getTimes' dmaStarts' =
        controllerInitRoutines m getTimes dmaStarts := by
  refine ⟨eq_iff_settled (settled_controllerInitRoutines hget hdma), ?_⟩
  intro getTimes' dmaStarts' hget' hdma'
  rw [controllerInitRoutines, controllerInitRoutines, callSitesTo_congr m hget hget',
    callSitesTo_congr m hdma hdma']

/-- In the small memory one request qualifies. -/
theorem controllerInitRoutines_compact :
    Settled Sample.compact [] .controllerInit
      (SetsUp Sample.compact [63] [75, 74, 73, 72, 71]) downFrom (.ok [89, 88, 87, 86, 85]) ∧
    controllerInitRoutines Sample.compact [63, 63] [71, 72, 73, 74, 75] =
      controllerInitRoutines Sample.compact [63] [75, 74, 73, 72, 71] := by
  obtain ⟨hsettled, hsame⟩ := controllerInitRoutines_settled Sample.compact [63]
    [75, 74, 73, 72, 71] (by decide) (by decide)
  refine ⟨(hsettled _).1 (by decide +kernel), hsame _ _ (fun t => by simp) fun t => ?_⟩
  simp only [List.mem_cons, List.not_mem_nil, or_false]
  omega

end Discovery
end PadScout
