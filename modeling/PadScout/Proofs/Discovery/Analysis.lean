import PadScout.Discovery.Sample
import PadScout.Proofs.CallSite
import PadScout.Proofs.Discovery.Pads
import PadScout.Proofs.Discovery.Routines

/-! # What discovery finds

Discovery succeeds if its stages find routines that set up the controllers and some call
of one of them gives the pads away; the least such call decides (`analyze_eq_ok_iff`).
Calls that are refused, for whatever reason, have no part in it.
-/
namespace PadScout
namespace Discovery

/-- The stages before the last return these routines that set up the controllers. -/
def Leads (m : Image) (inits : List Nat) : Prop :=
  ∃ getTimes dmaStarts, (getTimeRoutines m).outcome = .ok getTimes ∧
    (dmaStartRoutines m).outcome = .ok dmaStarts ∧
    (controllerInitRoutines m getTimes dmaStarts).outcome = .ok inits

section Stages
variable {m : Image} {inits : List Nat}

theorem analyze_eq_controllerPads {r : Finding} : (analyze m).outcome = .ok r ↔
    ∃ inits, Leads m inits ∧ (controllerPads m inits (globalPointer m)).outcome = .ok r := by
  unfold analyze
  constructor
  · intro h
    obtain ⟨getTimes, hget, h⟩ := Report.outcome_bind_eq_ok_iff.1 h
    obtain ⟨dmaStarts, hdma, h⟩ := Report.outcome_bind_eq_ok_iff.1 h
    obtain ⟨inits, hinits, h⟩ := Report.outcome_bind_eq_ok_iff.1 h
    obtain ⟨gp, hgp, hpads⟩ := Report.outcome_bind_eq_ok_iff.1 h
    obtain ⟨finding, hfinding, hremark⟩ := Report.outcome_bind_eq_ok_iff.1 hpads
    obtain ⟨-, -, hreturn⟩ := Report.outcome_bind_eq_ok_iff.1 hremark
    cases hgp
    cases hreturn
    exact ⟨inits, ⟨getTimes, dmaStarts, hget, hdma, hinits⟩, hfinding⟩
  · rintro ⟨inits, ⟨getTimes, dmaStarts, hget, hdma, hinits⟩, hfinding⟩
    refine Report.outcome_bind_eq_ok_iff.2 ⟨getTimes, hget, ?_⟩
    refine Report.outcome_bind_eq_ok_iff.2 ⟨dmaStarts, hdma, ?_⟩
    refine Report.outcome_bind_eq_ok_iff.2 ⟨inits, hinits, ?_⟩
    refine Report.outcome_bind_eq_ok_iff.2 ⟨globalPointer m, rfl, ?_⟩
    exact Report.outcome_bind_eq_ok_iff.2 ⟨r, hfinding, rfl⟩

theorem controllerPads_eq_ok_iff {gp : UInt32} {r : Finding} :
    (controllerPads m inits gp).outcome = .ok r ↔ ∃ sites, callSitesTo m inits = .ok sites ∧
      (Report.firstSurvivor .controllerPads "controller-init caller at " (checkPads m gp)
        sites.toList).outcome = .ok r := by
  rw [controllerPads, Report.outcome_bind_eq_ok_iff]
  simp only [Report.outcome_ofSearch_eq_ok_iff]

/-- **The window of a finding** holds words of the image, as many as it should. -/
theorem window?_of_analyze {r : Finding} (h : (analyze m).outcome = .ok r) :
    m.window? r.windowStart windowWords = some r.window := by
  obtain ⟨inits, -, hpads⟩ := analyze_eq_controllerPads.1 h
  obtain ⟨callers, -, hfirst⟩ := controllerPads_eq_ok_iff.1 hpads
  obtain ⟨-, site, -, -, hok, -⟩ := Report.firstSurvivor_eq_ok_iff.1 hfirst
  obtain ⟨-, -, -, -, -, -, hwindow, -⟩ := reveals_of_checkPads hok
  exact hwindow

/-- The window of a finding consists of twenty words of an image. -/
structure WindowOf (m : Image) (r : Finding) : Prop where
  length : r.windowLength = 20
  inside : r.windowStart + 20 ≤ m.size
  words : ∀ i < 20, r.window[i]? = m.get? (r.windowStart + i)

theorem windowOf_of_analyze {r : Finding} (h : (analyze m).outcome = .ok r) : WindowOf m r := by
  obtain ⟨hinside, hlength, hwords⟩ := Image.window?_eq_some_iff.1 (window?_of_analyze h)
  exact ⟨hlength, hinside, hwords⟩

/-- The calls of the routines, in an image that calls can reach. -/
theorem exists_callers (hsize : m.size < 0x400000) (hleads : Leads m inits) :
    ∃ sites, callSitesTo m inits = .ok sites ∧
      ∀ site, site ∈ sites.toList ↔ ∃ t ∈ inits, m.Calls site t := by
  obtain ⟨getTimes, dmaStarts, -, -, hinits⟩ := hleads
  refine callSitesTo_of_lt m fun t ht => ?_
  have hinside := lt_size_of_controllerInitRoutines hinits t ht
  omega

/-- Which calls are accepted. -/
theorem exists_checkPads_iff {gp : UInt32} {site t : Nat} (hcalls : m.Calls site t) :
    (∃ r, (checkPads m gp site).outcome = .ok r) ↔ ∃ status, Reveals m gp site status := by
  constructor
  · rintro ⟨r, hr⟩
    obtain ⟨status, -, hreveals, -⟩ := reveals_of_checkPads hr
    exact ⟨status, hreveals⟩
  · rintro ⟨status, hreveals⟩
    exact exists_checkPads (Image.lt_size_of_calls hcalls) hreveals

/-- **When discovery succeeds.** -/
theorem exists_analyze_iff (hsize : m.size < 0x400000) :
    (∃ r, (analyze m).outcome = .ok r) ↔ ∃ inits, Leads m inits ∧ ∃ site status,
      (∃ t ∈ inits, m.Calls site t) ∧ Reveals m (globalPointer m) site status := by
  constructor
  · rintro ⟨r, hr⟩
    obtain ⟨inits, hleads, hpads⟩ := analyze_eq_controllerPads.1 hr
    obtain ⟨sites, hsites, hmem⟩ := exists_callers hsize hleads
    obtain ⟨callers, hcallers, hfirst⟩ := controllerPads_eq_ok_iff.1 hpads
    obtain rfl : sites = callers := Except.ok.inj (hsites.symm.trans hcallers)
    obtain ⟨site, hsite, hok⟩ := Report.exists_firstSurvivor_iff.1 ⟨r, hfirst⟩
    obtain ⟨t, ht, hcalls⟩ := (hmem site).1 hsite
    obtain ⟨status, hreveals⟩ := (exists_checkPads_iff hcalls).1 hok
    exact ⟨inits, hleads, site, status, ⟨t, ht, hcalls⟩, hreveals⟩
  · rintro ⟨inits, hleads, site, status, ⟨t, ht, hcalls⟩, hreveals⟩
    obtain ⟨sites, hsites, hmem⟩ := exists_callers hsize hleads
    have hok := (exists_checkPads_iff hcalls).2 ⟨status, hreveals⟩
    obtain ⟨r, hr⟩ := Report.exists_firstSurvivor_iff.2
      ⟨site, (hmem site).2 ⟨t, ht, hcalls⟩, hok⟩
    have hpads := controllerPads_eq_ok_iff.2 ⟨sites, hsites, hr⟩
    exact ⟨r, analyze_eq_controllerPads.2 ⟨inits, hleads, hpads⟩⟩

/-- **What is found comes from the first call that is accepted.** -/
theorem exists_caller_of_analyze (hsize : m.size < 0x400000) {r : Finding}
    (h : (analyze m).outcome = .ok r) : ∃ inits, Leads m inits ∧ ∃ site,
      (∃ t ∈ inits, m.Calls site t) ∧ (checkPads m (globalPointer m) site).outcome = .ok r ∧
      ∀ s < site, (∃ t ∈ inits, m.Calls s t) → ∀ v, ¬ Reveals m (globalPointer m) s v := by
  obtain ⟨inits, hleads, hpads⟩ := analyze_eq_controllerPads.1 h
  obtain ⟨sites, hsites, hmem⟩ := exists_callers hsize hleads
  obtain ⟨callers, hcallers, hfirst⟩ := controllerPads_eq_ok_iff.1 hpads
  obtain rfl : sites = callers := Except.ok.inj (hsites.symm.trans hcallers)
  obtain ⟨site, hsite, hok, hbefore⟩ :=
    (Report.firstSurvivor_eq_ok_iff_of_pairwise sites.ascending).1 hfirst
  refine ⟨inits, hleads, site, (hmem site).1 hsite, hok, ?_⟩
  rintro s hs ⟨t, ht, hcalls⟩ v hv
  obtain ⟨b, hb⟩ := (exists_checkPads_iff hcalls).2 ⟨v, hv⟩
  exact hbefore s ((hmem s).2 ⟨t, ht, hcalls⟩) hs b hb

end Stages

/-- **What discovery finds**, in an image below the reach of calls.  It succeeds if the
stages return routines that set up the controllers and some word calls one of them such
that the code before the call runs, passes the status address in `a2` and stores it and
another word.  The first such call decides: the window holds the twenty words before it,
and the input lies at the offset of the word nearest to the status address among the
others that are stored, the smaller of two. -/
theorem analyze_eq_ok_iff (m : Image) (hsize : m.size < 0x400000) :
    ((∃ r, (analyze m).outcome = .ok r) ↔ ∃ inits, Leads m inits ∧ ∃ site status,
      (∃ t ∈ inits, m.Calls site t) ∧ Reveals m (globalPointer m) site status) ∧
    ∀ r, (analyze m).outcome = .ok r → ∃ inits, Leads m inits ∧ ∃ site status pads,
      (∃ t ∈ inits, m.Calls site t) ∧ Reveals m (globalPointer m) site status ∧
      (∀ s < site, (∃ t ∈ inits, m.Calls s t) → ∀ v, ¬ Reveals m (globalPointer m) s v) ∧
      20 ≤ site ∧ r.windowStart = site - 20 ∧
      (r.window.length = 20 ∧ ∀ i < 20, r.window[i]? = m.get? (site - 20 + i)) ∧
      (∃ live, m.window? r.windowStart 20 = some live ∧ r.verify live = true) ∧
      Nearest status (StoredBeside m (globalPointer m) site status) pads ∧
      r.inputOffset = pads &&& 0x00FFFFFF := by
  refine ⟨exists_analyze_iff hsize, fun r hr => ?_⟩
  obtain ⟨inits, hleads, site, hcalls, hok, hbefore⟩ := exists_caller_of_analyze hsize hr
  obtain ⟨status, pads, hreveals, hnearest, hlead, hstart, hwindow, hoffset⟩ :=
    reveals_of_checkPads hok
  have hwords := (Image.window?_eq_some_iff.1 hwindow).2
  rw [hstart] at hwords
  exact ⟨inits, hleads, site, status, pads, hcalls, hreveals, hbefore, hlead, hstart, hwords,
    ⟨r.window, hwindow, Finding.verify_eq_true_iff.2 rfl⟩, hnearest, hoffset⟩

/-! ## A small memory -/

namespace Sample

/-- The code that the sample memory has at a place. -/
def codeAt (place : Nat) : List UInt32 := (code.lookup place).getD []

/-- The system software of the sample memory with a game around it, as close together as
possible. -/
def compact : Image where
  words :=
    (codeAt getCount ++ codeAt disableInterrupts ++ codeAt restoreInterrupts ++
      codeAt (writebackCache + 0xD) ++ codeAt (invalidateCache + 0xE) ++ codeAt gpSetup ++
      routine 0x18 [call 3, nop, call 0, nop, call 8, nop] ++
      routine 0x20 [call 2, nop, call 87, nop, call 17, nop] ++
      codeAt translateAddress ++
      routine 0x40
        ([call 63, nop] ++ loadBuffer ++ [word (.addiu .a0 .zero 1), call 75, nop] ++
          loadBuffer ++ [call 75, word (.addiu .a0 .zero 0)]) ++
      routine 0x28
        ([word (.addiu .a2 .gp 0x7FF0), word (.sw .a2 0x10 .gp), word (.addiu .t7 .a2 0x10),
          word (.sw .t7 0x14 .gp), word (.lui .t8 (-0x7FDB)), word (.sw .t8 0x18 .gp)] ++
          List.replicate 12 nop ++ [call 89, nop])).toArray

/-- What there is to find in the small memory. -/
def compactFinding : Finding := ⟨106, (compact.words.extract 106 126).toList, 0x100010⟩

end Sample

theorem outcome_analyze_compact :
    (analyze Sample.compact).outcome = .ok Sample.compactFinding := by decide +kernel

/-- In the small memory the call at word 126 gives the pads away. -/
theorem analyze_compact :
    ∃ inits status pads, Leads Sample.compact inits ∧
      (∃ t ∈ inits, Sample.compact.Calls 126 t) ∧
      Reveals Sample.compact (globalPointer Sample.compact) 126 status ∧
      Nearest status
        (StoredBeside Sample.compact (globalPointer Sample.compact) 126 status) pads ∧
      0x100010 = pads &&& 0x00FFFFFF := by
  obtain ⟨inits, hleads, site, status, pads, hcalls, hreveals, -, hlead, hstart, -, -, hnearest,
    hoffset⟩ := (analyze_eq_ok_iff Sample.compact (by decide +kernel)).2 _ outcome_analyze_compact
  obtain rfl : site = 126 := by
    change 106 = site - 20 at hstart
    omega
  exact ⟨inits, status, pads, hleads, hcalls, hreveals, hnearest, hoffset⟩

end Discovery
end PadScout
