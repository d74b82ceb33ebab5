import PadScout.Proofs.Discovery.Analysis
import PadScout.Proofs.Discovery.Survivors

/-! # Routines that are known by a pair of calls

The routine that reads the time and the one that starts a transfer are found in the same
way.  A call of one routine must be followed closely by a call of another, with calls of
three routines in all up to the nearest such call (`PairedCalls`), and not far before it
there must be a word that allocates a stack frame.  `AsksTime` and `StartsTransfer` are what
the two stages ask of a site, and `pairedStages_settled` says that they accept these sites
and no others.
-/
namespace PadScout
namespace Discovery

/-- **A pair of calls**: the nearest call of `closer` from the call of `opener` on is at most
`0x18` words away, and three routines are called up to there. -/
structure PairedCalls (m : Image) (opener closer : Routine) (start stop : Nat) : Prop where
  opens : opener.CalledAt m start
  closes : closer.CalledAt m stop
  inOrder : start ≤ stop
  near : stop ≤ start + 0x18
  nearest : ∀ s, start ≤ s → s < stop → ¬ closer.CalledAt m s
  three : (m.callees start stop).ncard = 3

/-- The call at `start` disables interrupts to read the time, and word `p` allocates the
frame of the routine that holds it. -/
def AsksTime (m : Image) (start p : Nat) : Prop :=
  ∃ stop, PairedCalls m .disableInterrupts .restoreInterrupts start stop ∧
    (∃ s, start ≤ s ∧ s ≤ stop ∧ Routine.getCount.CalledAt m s) ∧
    NearestProlog m start 0x10 p

/-- The call at `start` writes back the cache to start a transfer, and word `p` allocates the
frame of the routine that holds it. -/
def StartsTransfer (m : Image) (start p : Nat) : Prop :=
  ∃ stop, PairedCalls m .writebackCache .invalidateCache start stop ∧ NearestProlog m start 0x20 p

section
variable {m : Image}

theorem findProlog_chain_eq_ok_iff (candidates : Nat → List Nat) {start bound : Nat}
    {l : List Nat} :
    (do
      let prolog ← lift (findProlog m start bound)
      return candidates prolog : Report (List Nat)).outcome = .ok l ↔
      ∃ p, NearestProlog m start bound p ∧ l = candidates p := by
  rw [Report.outcome_bind_eq_ok_iff]
  constructor
  · rintro ⟨p, hp, hl⟩
    exact ⟨p, findProlog_eq_ok_iff_nearest.1 hp, (Except.ok.inj hl).symm⟩
  · rintro ⟨p, hp, rfl⟩
    exact ⟨p, findProlog_eq_ok_iff_nearest.2 hp, rfl⟩

/-- The end of a region, found among the calls that may close it. -/
theorem pairedRegion_eq_ok_iff {opener closer : Routine} {closers : CallSites}
    (hclosers : ∀ s, s ∈ closers.toList ↔ closer.CalledAt m s) {start stop : Nat}
    (hstart : opener.CalledAt m start) :
    (pairedRegion m start closers).outcome = .ok stop ↔
      PairedCalls m opener closer start stop := by
  have hmax : max (start + pairDistance) start = start + 0x18 := Nat.max_eq_left (by omega)
  constructor
  · intro h
    rw [pairedRegion] at h
    split at h
    · cases h
    · next stop' hfirst =>
      dsimp only at h
      split at h
      · next hthree =>
        obtain rfl := Except.ok.inj h
        rw [CallSites.first?_eq_some_iff, hmax, hclosers] at hfirst
        obtain ⟨⟨hstop, hle, hnear⟩, hleast⟩ := hfirst
        rw [distinctCalls_eq_ncard] at hthree
        refine ⟨hstart, hstop, hle, hnear, fun s hs hlt hcalled => ?_, hthree⟩
        exact Nat.not_lt.2 (hleast s ((hclosers s).2 hcalled) hs) hlt
      · cases h
  · rintro ⟨-, hstop, hle, hnear, hnearest, hthree⟩
    have hfirst : closers.first? start (start + pairDistance) = some stop := by
      rw [CallSites.first?_eq_some_iff, hmax, hclosers]
      refine ⟨⟨hstop, hle, hnear⟩, fun s hs hlow => Nat.le_of_not_lt fun hlt => ?_⟩
      exact hnearest s hlow hlt ((hclosers s).1 hs)
    rw [← distinctCalls_eq_ncard] at hthree
    rw [pairedRegion, hfirst]
    dsimp only
    rw [if_pos hthree]
    rfl

theorem checkGetTime_eq_ok_iff {counters restores : CallSites}
    (hcounters : ∀ s, s ∈ counters.toList ↔ Routine.getCount.CalledAt m s)
    (hrestores : ∀ s, s ∈ restores.toList ↔ Routine.restoreInterrupts.CalledAt m s)
    {start : Nat} (hstart : Routine.disableInterrupts.CalledAt m start) {l : List Nat} :
    (checkGetTime m counters restores start).outcome = .ok l ↔
      ∃ p, AsksTime m start p ∧ l = [p] := by
  -- the range is searched from its start, so nothing is said of inverted ranges
  have hcounter : ∀ stop, start ≤ stop → ((counters.first? start stop).isNone = true ↔
      ¬ ∃ s, start ≤ s ∧ s ≤ stop ∧ Routine.getCount.CalledAt m s) := by
    intro stop hle
    rw [CallSites.isNone_first?_iff, Nat.max_eq_left hle]
    simp only [hcounters]
    constructor
    · rintro hnone ⟨s, hlow, hhigh, hs⟩
      exact hnone s hs hlow hhigh
    · intro hnone s hs hlow hhigh
      exact hnone ⟨s, hlow, hhigh, hs⟩
  rw [checkGetTime, Report.outcome_bind_eq_ok_iff]
  constructor
  · rintro ⟨stop, hregion, h⟩
    have hpaired := (pairedRegion_eq_ok_iff hrestores hstart).1 hregion
    split at h
    · cases h
    · next hcount =>
      rw [hcounter stop hpaired.inOrder, not_not] at hcount
      obtain ⟨p, hp, rfl⟩ := (findProlog_chain_eq_ok_iff fun p => [p]).1 h
      exact ⟨p, ⟨stop, hpaired, hcount, hp⟩, rfl⟩
  · rintro ⟨p, ⟨stop, hpaired, hcount, hp⟩, rfl⟩
    refine ⟨stop, (pairedRegion_eq_ok_iff hrestores hstart).2 hpaired, ?_⟩
    rw [if_neg (mt (hcounter stop hpaired.inOrder).1 (not_not.2 hcount))]
    exact (findProlog_chain_eq_ok_iff fun p => [p]).2 ⟨p, hp, rfl⟩

theorem checkDmaStart_eq_ok_iff {invalidations : CallSites}
    (hinvalidations : ∀ s, s ∈ invalidations.toList ↔ Routine.invalidateCache.CalledAt m s)
    {start : Nat} (hstart : Routine.writebackCache.CalledAt m start) {l : List Nat} :
    (checkDmaStart m invalidations start).outcome = .ok l ↔
      ∃ p, StartsTransfer m start p ∧ l = downFrom p := by
  simp only [checkDmaStart, entryCandidates_eq_downFrom]
  rw [Report.outcome_bind_eq_ok_iff]
  constructor
  · rintro ⟨stop, hregion, h⟩
    have hpaired := (pairedRegion_eq_ok_iff hinvalidations hstart).1 hregion
    obtain ⟨p, hp, rfl⟩ := (findProlog_chain_eq_ok_iff downFrom).1 h
    exact ⟨p, ⟨stop, hpaired, hp⟩, rfl⟩
  · rintro ⟨p, ⟨stop, hpaired, hp⟩, rfl⟩
    exact ⟨stop, (pairedRegion_eq_ok_iff hinvalidations hstart).2 hpaired,
      (findProlog_chain_eq_ok_iff downFrom).2 ⟨p, hp, rfl⟩⟩

/-- **The stage that looks for the routines that read the time.** -/
theorem settled_getTimeRoutines (hsize : m.size ≤ 0x4000000) :
    Settled m [.getCount, .disableInterrupts, .restoreInterrupts] .getTime (AsksTime m)
      (fun p => [p]) (getTimeRoutines m).outcome := by
  refine settled_bind hsize fun counters hcounters => ?_
  refine settled_bind hsize fun disables hdisables => ?_
  refine settled_bind hsize fun restores hrestores => ?_
  rw [outcome_bind_remark]
  refine settled_survivors (fun s hs l => ?_) (fun s p hsite => ?_) (fun s p q hp hq => ?_)
    fun p => List.cons_ne_nil p []
  · exact checkGetTime_eq_ok_iff hcounters hrestores ((hdisables s).1 hs)
  · obtain ⟨stop, hpaired, -⟩ := hsite
    exact (hdisables s).2 hpaired.opens
  · obtain ⟨-, -, -, hp⟩ := hp
    obtain ⟨-, -, -, hq⟩ := hq
    exact hp.unique hq

/-- **The stage that looks for the routines that start a transfer.** -/
theorem settled_dmaStartRoutines (hsize : m.size ≤ 0x4000000) :
    Settled m [.writebackCache, .invalidateCache] .dmaStart (StartsTransfer m) downFrom
      (dmaStartRoutines m).outcome := by
  refine settled_bind hsize fun writebacks hwritebacks => ?_
  refine settled_bind hsize fun invalidations hinvalidations => ?_
  rw [outcome_bind_remark]
  refine settled_survivors (fun s hs l => ?_) (fun s p hsite => ?_) (fun s p q hp hq => ?_)
    downFrom_ne_nil
  · exact checkDmaStart_eq_ok_iff hinvalidations ((hwritebacks s).1 hs)
  · obtain ⟨stop, hpaired, -⟩ := hsite
    exact (hwritebacks s).2 hpaired.opens
  · obtain ⟨-, -, hp⟩ := hp
    obtain ⟨-, -, hq⟩ := hq
    exact hp.unique hq

end

/-- **The two stages accept exactly their regions**, in any image that calls can reach.  A
routine without a possible entry ends a stage, the first such in its order; without a site
that qualifies nothing is found; and otherwise the sites that qualify contribute in ascending
order, the one stage the allocation of the frame alone, the other up to four words before it
as well. -/
theorem pairedStages_settled (m : Image) (hsize : m.size ≤ 0x4000000) :
    (∀ o, (getTimeRoutines m).outcome = o ↔
      Settled m [.getCount, .disableInterrupts, .restoreInterrupts] .getTime (AsksTime m)
        (fun p => [p]) o) ∧
    ∀ o, (dmaStartRoutines m).outcome = o ↔
      Settled m [.writebackCache, .invalidateCache] .dmaStart (StartsTransfer m) downFrom o :=
  ⟨eq_iff_settled (settled_getTimeRoutines hsize), eq_iff_settled (settled_dmaStartRoutines hsize)⟩

/-- In the small memory one site of each kind qualifies. -/
theorem pairedStages_compact :
    Settled Sample.compact [.getCount, .disableInterrupts, .restoreInterrupts] .getTime
      (AsksTime Sample.compact) (fun p => [p]) (.ok [63]) ∧
    Settled Sample.compact [.writebackCache, .invalidateCache] .dmaStart
      (StartsTransfer Sample.compact) downFrom (.ok [75, 74, 73, 72, 71]) := by
  obtain ⟨hget, hdma⟩ := pairedStages_settled Sample.compact (by decide +kernel)
  exact ⟨(hget _).1 (by decide +kernel), (hdma _).1 (by decide +kernel)⟩

end Discovery
end PadScout
