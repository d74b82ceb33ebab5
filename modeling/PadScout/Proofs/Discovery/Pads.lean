import PadScout.Proofs.Discovery.Nearest
import PadScout.Proofs.Discovery.Report
import PadScout.Proofs.Machine.Probe
import PadScout.Proofs.Memory.Image

/-! # Callers that give the pads away

A call gives the pads away (`Reveals`) if the code before it runs to its end, passes the
address of the status block and has stored that address and another one.  Such a call is
accepted (`exists_checkPads`), and whatever is accepted is such a call with the words of
the image before it as the window and the nearest other store as the pads
(`reveals_of_checkPads`).
-/
namespace PadScout
namespace Discovery

/-- The probe of a caller, given the global pointer. -/
def padsProbe (gp : UInt32) : CallProbe := ⟨padsLead, [(.gp, gp)]⟩

/-- **The call at `site` passes `status`**, and the code before it stores this address and
another one. -/
def Reveals (m : Image) (gp : UInt32) (site : Nat) (status : UInt32) : Prop :=
  let start := (padsProbe gp).start m site
  ∃ final : Machine, start.run (padsProbe gp).steps = (final, .ok ()) ∧ final.get .a2 = status ∧
    start.StoresWithin (padsProbe gp).steps status ∧
    ∃ other, other ≠ status ∧ start.StoresWithin (padsProbe gp).steps other

/-- The words beside the status address that the code before a call stores. -/
def StoredBeside (m : Image) (gp : UInt32) (site : Nat) (status w : UInt32) : Prop :=
  w ≠ status ∧ ((padsProbe gp).start m site).StoresWithin (padsProbe gp).steps w

section Callers
variable {m : Image} {gp : UInt32} {site : Nat}

theorem two_le_length {l : List UInt32} {a b : UInt32} (ha : a ∈ l) (hb : b ∈ l) (hne : b ≠ a) :
    2 ≤ l.length := by
  match l with
  | [] => exact absurd ha List.not_mem_nil
  | [c] =>
    rw [List.mem_singleton] at ha hb
    exact absurd (hb.trans ha.symm) hne
  | _ :: _ :: _ => simp

/-- What the tests of a caller ask for, in their own terms. -/
theorem checkPads_eq_ok_iff {r : Finding} : (checkPads m gp site).outcome = .ok r ↔
    ∃ o pads window, (padsProbe gp).run m site = .ok o ∧ o.get .a2 ∈ o.stored ∧
      nearestTo (o.get .a2) (o.stored.filter (· != o.get .a2)) = some pads ∧
      windowWords ≤ site ∧ m.window? (site - windowWords) windowWords = some window ∧
      r = ⟨site - windowWords, window, pads &&& 0x00FFFFFF⟩ := by
  unfold checkPads
  rw [Report.outcome_bind_eq_ok_iff]
  constructor
  · rintro ⟨o, ho, h⟩
    rw [Report.outcome_ofProbe_eq_ok_iff] at ho
    dsimp only at h
    split at h
    · cases h
    · split at h
      · cases h
      · rename_i hstored
        split at h
        · cases h
        · rename_i pads hpads
          split at h
          · cases h
          · rename_i hsite
            split at h
            · cases h
            · rename_i window hwindow
              cases h
              refine ⟨o, pads, window, ho, ?_, hpads, by omega, hwindow, rfl⟩
              simpa using hstored
  · rintro ⟨o, pads, window, ho, hstatus, hpads, hsite, hwindow, rfl⟩
    refine ⟨o, Report.outcome_ofProbe_eq_ok_iff.2 ho, ?_⟩
    obtain ⟨before, after, hsplit, -, -⟩ := nearestTo_split hpads
    have hother : pads ∈ o.stored ∧ pads ≠ o.get .a2 := by
      have hmem : pads ∈ o.stored.filter (· != o.get .a2) := by
        rw [hsplit]
        simp
      simpa using hmem
    have htwo := two_le_length hstatus hother.1 hother.2
    dsimp only
    rw [if_neg (by omega), if_neg (by simpa using hstatus), hpads]
    dsimp only
    rw [if_neg (by omega), hwindow]
    rfl

theorem get_eq_of_registers {o : CallProbe.Outcome} {final : Machine}
    (h : o.registers = final.registers) (r : Mips.Register) : o.get r = final.get r := by
  rw [CallProbe.Outcome.get, h]
  rfl

/-- **Whoever is accepted gives the pads away**: they are the word nearest to the status
address that is stored beside it, and the window holds the words before the call. -/
theorem reveals_of_checkPads {r : Finding} (h : (checkPads m gp site).outcome = .ok r) :
    ∃ status pads, Reveals m gp site status ∧
      Nearest status (StoredBeside m gp site status) pads ∧
      windowWords ≤ site ∧ r.windowStart = site - windowWords ∧
      m.window? r.windowStart windowWords = some r.window ∧
      r.inputOffset = pads &&& 0x00FFFFFF := by
  obtain ⟨o, pads, window, ho, hstatus, hpads, hsite, hwindow, rfl⟩ := checkPads_eq_ok_iff.1 h
  obtain ⟨final, hrun, hregisters, hascending, hstored⟩ := CallProbe.exists_of_run ho
  have hnearest := nearest_of_pairwise (hascending.filter _) hpads
  have hbeside : ∀ w, w ∈ o.stored.filter (· != o.get .a2) ↔
      StoredBeside m gp site (o.get .a2) w := by
    intro w
    rw [List.mem_filter, bne_iff_ne, hstored w, and_comm]
    rfl
  obtain ⟨hne, hpadsStored⟩ := (hbeside pads).1 hnearest.mem
  refine ⟨o.get .a2, pads, ⟨final, hrun, (get_eq_of_registers hregisters .a2).symm,
    (hstored _).1 hstatus, pads, hne, hpadsStored⟩, ?_, hsite, rfl, hwindow, rfl⟩
  exact ⟨(hbeside pads).1 hnearest.mem, fun v hv => hnearest.least v ((hbeside v).2 hv),
    fun v hv => hnearest.smaller v ((hbeside v).2 hv)⟩

/-- **Whoever gives the pads away is accepted.** -/
theorem exists_checkPads {status : UInt32} (hsite : site < m.size)
    (h : Reveals m gp site status) : ∃ r, (checkPads m gp site).outcome = .ok r := by
  obtain ⟨final, hrun, rfl, hstatus, other, hne, hother⟩ := h
  obtain ⟨stored, ho, hascending, hmem⟩ := CallProbe.run_of_ok hrun
  have hlead : windowWords ≤ site :=
    CallProbe.lead_le_of_run (show padsLead < 0x400000 by decide) ho
  obtain ⟨window, hwindow⟩ := m.exists_window? (site - windowWords) windowWords (by omega)
  have hne' : stored.filter (· != final.get .a2) ≠ [] := by
    intro hnil
    have hin : other ∈ stored.filter (· != final.get .a2) :=
      List.mem_filter.2 ⟨(hmem other).2 hother, bne_iff_ne.2 hne⟩
    rw [hnil] at hin
    exact absurd hin List.not_mem_nil
  obtain ⟨pads, hpads⟩ := exists_nearestTo (final.get .a2) hne'
  exact ⟨_, checkPads_eq_ok_iff.2 ⟨_, pads, window, ho, (hmem _).2 hstatus, hpads, hlead,
    hwindow, rfl⟩⟩

end Callers

end Discovery
end PadScout
