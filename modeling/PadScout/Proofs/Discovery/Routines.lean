import PadScout.Discovery.Stages
import PadScout.Proofs.Discovery.Report

/-! # Where routines are found

The routines that a stage returns are entered at or a little before a word that allocates
a stack frame (`findProlog_eq_ok_iff`), so they lie inside the image
(`lt_size_of_controllerInitRoutines`) and, if the image is not too large, in reach of
calls.
-/
namespace PadScout
namespace Discovery

theorem findProlog_eq_ok_iff {m : Image} {start bound i : Nat} :
    findProlog m start bound = .ok i ↔
      start + 1 - bound ≤ i ∧ i < min start m.size ∧ (m.get? i).any isProlog = true ∧
        ∀ j, i < j → j < min start m.size → (m.get? j).any isProlog = false := by
  have hgreatest : Ascending.greatest? (fun j => (m.get? j).any isProlog) (start + 1 - bound)
      (min start m.size) = some i ↔ _ := Ascending.greatest?_eq_some_iff
  refine Iff.trans ?_ hgreatest
  rw [findProlog]
  split
  · rename_i found hfound
    rw [hfound, Except.ok.injEq, Option.some_inj]
  · rename_i hnone
    simp [hnone]

theorem mem_entryCandidates {prolog entry : Nat} :
    entry ∈ entryCandidates prolog ↔ entry ≤ prolog ∧ prolog < entry + entrySlack := by
  simp only [entryCandidates, List.mem_filterMap, List.mem_range, Option.ite_none_right_eq_some,
    Option.some_inj]
  constructor
  · rintro ⟨i, hi, hle, rfl⟩
    omega
  · rintro ⟨hle, hlt⟩
    exact ⟨prolog - entry, by omega, by omega, by omega⟩

/-- **What the tests of a request for the time ask for**, in their own terms. -/
theorem checkControllerInit_eq_ok_iff {m : Image} {transfers : CallSites} {start : Nat}
    {l : List Nat} : (checkControllerInit m transfers start).outcome = .ok l ↔
      ∃ one two buffer prolog, transfers.between start (start + transferSpan) = [one, two] ∧
        (transferBuffer m one).outcome = .ok buffer ∧
        (transferBuffer m two).outcome = .ok buffer ∧
        isRamAddress buffer transferLimit = true ∧
        findProlog m start controllerInitBound = .ok prolog ∧ l = entryCandidates prolog := by
  rw [checkControllerInit]
  constructor
  · intro h
    split at h
    · next one two hbetween =>
      obtain ⟨first, hfirst, h⟩ := Report.outcome_bind_eq_ok_iff.1 h
      obtain ⟨second, hsecond, h⟩ := Report.outcome_bind_eq_ok_iff.1 h
      split at h
      · cases h
      · next hdiffer =>
        obtain rfl : first = second := Decidable.not_not.1 hdiffer
        split at h
        · cases h
        · next hram =>
          rw [Report.outcome_debug_bind] at h
          obtain ⟨prolog, hprolog, hl⟩ := Report.outcome_bind_eq_ok_iff.1 h
          have hmemory : isRamAddress first transferLimit = true := by simpa using hram
          exact ⟨one, two, first, prolog, hbetween, hfirst, hsecond, hmemory, hprolog,
            (Except.ok.inj hl).symm⟩
    · cases h
  · rintro ⟨one, two, buffer, prolog, hbetween, hone, htwo, hmemory, hprolog, rfl⟩
    rw [hbetween]
    refine Report.outcome_bind_eq_ok_iff.2 ⟨buffer, hone, ?_⟩
    refine Report.outcome_bind_eq_ok_iff.2 ⟨buffer, htwo, ?_⟩
    rw [if_neg (Decidable.not_not.2 rfl), if_neg (by rw [hmemory]; nofun), Report.outcome_debug_bind]
    exact Report.outcome_bind_eq_ok_iff.2 ⟨prolog, hprolog, rfl⟩

/-- **The routines that set up the controllers lie in the image.** -/
theorem lt_size_of_controllerInitRoutines {m : Image} {getTimes dmaStarts inits : List Nat}
    (h : (controllerInitRoutines m getTimes dmaStarts).outcome = .ok inits) :
    ∀ t ∈ inits, t < m.size := by
  intro t ht
  obtain ⟨requests, -, h⟩ := Report.outcome_bind_eq_ok_iff.1 h
  obtain ⟨transfers, -, h⟩ := Report.outcome_bind_eq_ok_iff.1 h
  obtain ⟨start, -, l, hl, htl⟩ := Report.mem_of_survivors h ht
  obtain ⟨-, -, -, prolog, -, -, -, -, hprolog, rfl⟩ := checkControllerInit_eq_ok_iff.1 hl
  have hbefore := (mem_entryCandidates.1 htl).1
  have hinside := (findProlog_eq_ok_iff.1 hprolog).2.1
  omega

end Discovery
end PadScout
