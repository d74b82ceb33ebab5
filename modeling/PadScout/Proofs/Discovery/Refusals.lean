import PadScout.Proofs.Discovery.Analysis

/-! # Why callers are refused

A caller of the routine that sets up the controllers is refused on one of two grounds
(`Refused`): the code before the call cannot be run to its end, or it does not store the address
of the status block and another word.  Once these tests are passed nothing can go wrong.  Stored
words are a set, so besides the status address there is another word to choose.  A run that
completes has begun in memory, twenty words before the call, and the call is a word of the image,
so that the window lies in the image as well.  Hence the tests for a missing sibling, for a call
too near to the start of memory and for a window outside of the image never refuse a caller
(`refused_callers`).
-/
namespace PadScout
namespace Discovery

/-- The outcome of a probe passes the tests of its stores: there are two stored words at least,
and the address of the status block is one of them. -/
def StatusStored (o : CallProbe.Outcome) : Prop := 2 ≤ o.stored.length ∧ o.get .a2 ∈ o.stored

instance (o : CallProbe.Outcome) : Decidable (StatusStored o) := inferInstanceAs (Decidable (_ ∧ _))

/-- **The grounds on which a caller is refused**, with what is said about it. -/
inductive Refused (m : Image) (gp : UInt32) (site : Nat) : DiscoveryError → Prop where
  | fault (f : Fault) (h : (padsProbe gp).run m site = .error f) : Refused m gp site (.probe f)
  | unstored (o : CallProbe.Outcome) (h : (padsProbe gp).run m site = .ok o)
      (ho : ¬ StatusStored o) :
      Refused m gp site (.rejected (.statusNotStored (o.get .a2) o.stored.length))

/-- Of two different words one differs from any given word. -/
theorem exists_ne_of_pairwise {l : List UInt32} (hascending : l.Pairwise (· < ·))
    (hlength : 2 ≤ l.length) (status : UInt32) : ∃ w ∈ l, w ≠ status := by
  match l with
  | a :: b :: _ =>
    have hlt : a < b := List.rel_of_pairwise_cons hascending List.mem_cons_self
    by_cases ha : a = status
    · refine ⟨b, by simp, ?_⟩
      rintro rfl
      rw [ha] at hlt
      exact absurd hlt (UInt32.lt_irrefl _)
    · exact ⟨a, by simp, ha⟩

section Callers
variable {m : Image} {gp : UInt32} {site : Nat} {o : CallProbe.Outcome}

/-- **There is another word beside the status address.** -/
theorem exists_nearestTo_of_statusStored (h : (padsProbe gp).run m site = .ok o)
    (ho : StatusStored o) :
    ∃ pads, nearestTo (o.get .a2) (o.stored.filter (· != o.get .a2)) = some pads := by
  obtain ⟨-, -, -, hascending, -⟩ := CallProbe.exists_of_run h
  obtain ⟨w, hw, hne⟩ := exists_ne_of_pairwise hascending ho.1 (o.get .a2)
  apply exists_nearestTo
  exact List.ne_nil_of_mem (List.mem_filter.2 ⟨hw, bne_iff_ne.2 hne⟩)

/-- **The words before a call whose probe completes are in the image.** -/
theorem exists_window?_of_run (hsite : site < m.size) (h : (padsProbe gp).run m site = .ok o) :
    20 ≤ site ∧ ∃ window, m.window? (site - 20) 20 = some window := by
  have hlead : 20 ≤ site := CallProbe.lead_le_of_run (show padsLead < 0x400000 by decide) h
  exact ⟨hlead, m.exists_window? (site - 20) 20 (by omega)⟩

theorem checkPads_of_fault {f : Fault} (h : (padsProbe gp).run m site = .error f) :
    (checkPads m gp site).outcome = .error (.probe f) := by
  have hprobe : (Report.ofProbe ⟨padsLead, [(.gp, gp)]⟩ m site).outcome = .error (.probe f) :=
    Report.outcome_ofProbe_of_error h
  rw [checkPads, Report.outcome_bind, hprobe]

theorem checkPads_of_unstored (h : (padsProbe gp).run m site = .ok o) (ho : ¬ StatusStored o) :
    (checkPads m gp site).outcome =
      .error (.rejected (.statusNotStored (o.get .a2) o.stored.length)) := by
  have hprobe : (Report.ofProbe ⟨padsLead, [(.gp, gp)]⟩ m site).outcome = .ok o :=
    Report.outcome_ofProbe_eq_ok_iff.2 h
  rw [checkPads, Report.outcome_bind, hprobe]
  dsimp only
  by_cases hlength : o.stored.length < 2
  · rw [if_pos hlength]
    rfl
  · have hstatus : o.get .a2 ∉ o.stored := fun hmem => ho ⟨Nat.le_of_not_lt hlength, hmem⟩
    rw [if_neg hlength, if_pos (by simpa using hstatus)]
    rfl

/-- **A caller that passes the tests of its stores is accepted.** -/
theorem checkPads_of_statusStored (hsite : site < m.size) (h : (padsProbe gp).run m site = .ok o)
    (ho : StatusStored o) : ∃ pads window,
      nearestTo (o.get .a2) (o.stored.filter (· != o.get .a2)) = some pads ∧
      m.window? (site - 20) 20 = some window ∧
      (checkPads m gp site).outcome = .ok ⟨site - 20, window, pads &&& 0x00FFFFFF⟩ := by
  obtain ⟨pads, hpads⟩ := exists_nearestTo_of_statusStored h ho
  obtain ⟨hlead, window, hwindow⟩ := exists_window?_of_run hsite h
  exact ⟨pads, window, hpads, hwindow,
    checkPads_eq_ok_iff.2 ⟨o, pads, window, h, ho.2, hpads, hlead, hwindow, rfl⟩⟩

/-- **The two grounds are all that callers are refused on.** -/
theorem checkPads_eq_error_iff (hsite : site < m.size) {e : DiscoveryError} :
    (checkPads m gp site).outcome = .error e ↔ Refused m gp site e := by
  constructor
  · intro he
    cases h : (padsProbe gp).run m site with
    | error f =>
      rw [checkPads_of_fault h] at he
      cases he
      exact .fault f h
    | ok o =>
      by_cases ho : StatusStored o
      · obtain ⟨pads, window, -, -, hok⟩ := checkPads_of_statusStored hsite h ho
        rw [hok] at he
        cases he
      · rw [checkPads_of_unstored h ho] at he
        cases he
        exact .unstored o h ho
  · intro he
    cases he with
    | fault f h => exact checkPads_of_fault h
    | unstored o h ho => exact checkPads_of_unstored h ho

end Callers

/-- No ground is one of the tests that come after those of the stores. -/
theorem Refused.ne_late {m : Image} {gp : UInt32} {site : Nat} {e : DiscoveryError}
    (h : Refused m gp site e) : e ≠ .rejected .noSibling ∧
      (∀ s, e ≠ .rejected (.nearRamStart s)) ∧ ∀ s, e ≠ .rejected (.windowOutside s) := by
  cases h with
  | fault f h => exact ⟨nofun, nofun, nofun⟩
  | unstored o h ho => exact ⟨nofun, nofun, nofun⟩

/-- **Past the tests of its stores no caller is refused.**  Whichever routines are called and
whatever the global pointer is, a probe of one of their callers that completes shows that the call
stands twenty words or more from the start of memory, with a window of the image before it.  If it
also stores the status address and another word, then there is a word nearest to the status address
and the caller is accepted.  Callers are refused for a fault of the run or for what is stored, and
never for the lack of a sibling, for the place of the call or for the window.  When all are
refused, it is on these grounds. -/
theorem refused_callers (m : Image) (inits : List Nat) (gp : UInt32) (callers : CallSites)
    (hcallers : callSitesTo m inits = .ok callers) :
    (∀ site ∈ callers.toList,
      (∀ o, (padsProbe gp).run m site = .ok o →
        20 ≤ site ∧ (∃ window, m.window? (site - 20) 20 = some window) ∧
        (StatusStored o → ∃ pads window,
          nearestTo (o.get .a2) (o.stored.filter (· != o.get .a2)) = some pads ∧
          m.window? (site - 20) 20 = some window ∧
          (checkPads m gp site).outcome = .ok ⟨site - 20, window, pads &&& 0x00FFFFFF⟩)) ∧
      (∀ e, (checkPads m gp site).outcome = .error e ↔ Refused m gp site e) ∧
      (checkPads m gp site).outcome ≠ .error (.rejected .noSibling) ∧
      (∀ s, (checkPads m gp site).outcome ≠ .error (.rejected (.nearRamStart s))) ∧
      ∀ s, (checkPads m gp site).outcome ≠ .error (.rejected (.windowOutside s))) ∧
    ((∀ r, (controllerPads m inits gp).outcome ≠ .ok r) ↔
      ∀ site ∈ callers.toList, ∃ e, Refused m gp site e) := by
  have hinside : ∀ site ∈ callers.toList, site < m.size := fun site hsite =>
    lt_size_of_callSitesTo hcallers hsite
  constructor
  · intro site hsite
    have hrefused : ∀ e, (checkPads m gp site).outcome = .error e ↔ Refused m gp site e :=
      fun e => checkPads_eq_error_iff (hinside site hsite)
    refine ⟨fun o ho => ?_, hrefused, fun h => ?_, fun s h => ?_, fun s h => ?_⟩
    · obtain ⟨hlead, hwindow⟩ := exists_window?_of_run (hinside site hsite) ho
      exact ⟨hlead, hwindow, checkPads_of_statusStored (hinside site hsite) ho⟩
    · exact ((hrefused _).1 h).ne_late.1 rfl
    · exact ((hrefused _).1 h).ne_late.2.1 s rfl
    · exact ((hrefused _).1 h).ne_late.2.2 s rfl
  · have hfirst : (∃ r, (controllerPads m inits gp).outcome = .ok r) ↔
        ∃ site ∈ callers.toList, ∃ r, (checkPads m gp site).outcome = .ok r := by
      simp only [controllerPads_eq_ok_iff, hcallers, Except.ok.injEq, exists_eq_left']
      exact Report.exists_firstSurvivor_iff
    rw [← not_exists, hfirst]
    simp only [not_exists, not_and]
    refine forall₂_congr fun site hsite => ?_
    simp only [← checkPads_eq_error_iff (hinside site hsite)]
    cases (checkPads m gp site).outcome <;> simp

/-- In the small memory the call at word 126 passes the tests of its stores, and it is accepted
with the window before it. -/
theorem refused_callers_compact :
    ∃ callers o pads window, callSitesTo Sample.compact [89] = .ok callers ∧
      126 ∈ callers.toList ∧ (padsProbe 0x800F8010).run Sample.compact 126 = .ok o ∧
      StatusStored o ∧ Sample.compact.window? 106 20 = some window ∧
      (checkPads Sample.compact 0x800F8010 126).outcome =
        .ok ⟨106, window, pads &&& 0x00FFFFFF⟩ := by
  have hreach : ∀ t ∈ [89], t < 0x4000000 := by decide
  obtain ⟨callers, hcallers, hmem⟩ := callSitesTo_of_lt Sample.compact hreach
  have hsite : 126 ∈ callers.toList := by
    refine (hmem 126).2 ⟨89, List.mem_singleton_self 89, Sample.call 89, 356, ?_, ?_, rfl⟩
    · decide +kernel
    · decide +kernel
  have hstored : ∃ o, (padsProbe 0x800F8010).run Sample.compact 126 = .ok o ∧ StatusStored o := by
    cases hrun : (padsProbe 0x800F8010).run Sample.compact 126 with
    | error f =>
      have hok : ((padsProbe 0x800F8010).run Sample.compact 126).toBool = true := by
        decide +kernel
      rw [hrun] at hok
      cases hok
    | ok o =>
      have hpasses : ((padsProbe 0x800F8010).run Sample.compact 126).toOption.all
          (fun o => decide (StatusStored o)) = true := by decide +kernel
      rw [hrun] at hpasses
      exact ⟨o, rfl, of_decide_eq_true hpasses⟩
  obtain ⟨o, ho, hpasses⟩ := hstored
  obtain ⟨haccepts, -⟩ := (refused_callers Sample.compact [89] 0x800F8010 callers hcallers).1 126 hsite
  obtain ⟨pads, window, -, hwindow, hok⟩ := (haccepts o ho).2.2 hpasses
  exact ⟨callers, o, pads, window, hcallers, hsite, ho, hpasses, hwindow, hok⟩

end Discovery
end PadScout
