import PadScout.Machine.CallProbe

/-! # What a probe runs and what it collects

A probe is a run of the machine, and the words that it reports are those that the steps
of this run store or try to store (`CallProbe.run_of_ok`, `exists_of_run`).  It begins
some words before the call; when there are not so many words before it, the run stands
outside of memory and fails at once (`CallProbe.run_of_lt_lead`).
-/
namespace PadScout

open Mips

namespace AddressSpace

/-- Outside of the two segments there is nothing to read. -/
theorem readWord_of_unmapped {a : UInt32} (hram : a >>> 24 ≠ 0x80) (hscratch : a >>> 24 ≠ 0x81)
    (s : AddressSpace) : s.readWord a = .error (.unmappedSegment a) := by
  rw [readWord, place, if_neg hram, if_neg hscratch]

/-- The segments begin at half of the address space. -/
theorem readWord_of_lt {a : UInt32} (h : a.toNat < 0x80000000) (s : AddressSpace) :
    s.readWord a = .error (.unmappedSegment a) := by
  have htop : (a >>> 24).toNat < 0x80 := by
    rw [UInt32.toNat_shiftRight, Nat.shiftRight_eq_div_pow]
    change a.toNat / 2 ^ 24 < _
    omega
  apply readWord_of_unmapped
  · intro heq
    rw [heq] at htop
    exact absurd htop (by decide)
  · intro heq
    rw [heq] at htop
    exact absurd htop (by decide)

end AddressSpace

namespace Machine

/-! ## Steps and runs -/

/-- Where nothing can be read, the machine stays as it is. -/
theorem step_of_readWord_error {m : Machine} {f : Fault}
    (h : m.memory.readWord m.pc = .error f) : m.step = (m, .error (.fetch m.pc)) := by
  rw [step, fetch, h]

theorem run_succ_of_ok {m m' : Machine} {i : Option Instruction} (h : m.step = (m', .ok i))
    (n : Nat) : run (n + 1) m = run n m' := by
  rw [run, h]

theorem run_succ_of_error {m m' : Machine} {f : Fault} (h : m.step = (m', .error f))
    (n : Nat) : run (n + 1) m = (m', .error f) := by
  rw [run, h]

theorem trail_succ_of_ok {m m' : Machine} {i : Option Instruction} (h : m.step = (m', .ok i))
    (n : Nat) : trail (n + 1) m = m :: trail n m' := by
  rw [trail, h]

/-- The next step of the machine stores, or tries to store, a nonzero word. -/
def StoresWord (m : Machine) (w : UInt32) : Prop :=
  ∃ m' i, m.step = (m', .ok (some i)) ∧ i.kind = .sw ∧ m'.operand i.rt = w ∧ w ≠ 0

/-- Some of the next steps stores, or tries to store, a nonzero word. -/
def StoresWithin (n : Nat) (m : Machine) (w : UInt32) : Prop :=
  ∃ s ∈ trail n m, s.StoresWord w

theorem not_storesWithin_zero (m : Machine) (w : UInt32) : ¬ StoresWithin 0 m w := by
  rintro ⟨s, hs, -⟩
  simp [trail] at hs

theorem storesWithin_succ_of_ok {m m' : Machine} {i : Option Instruction}
    (h : m.step = (m', .ok i)) (n : Nat) (w : UInt32) :
    StoresWithin (n + 1) m w ↔ m.StoresWord w ∨ StoresWithin n m' w := by
  simp [StoresWithin, trail_succ_of_ok h]

theorem withRegisters_cons (m : Machine) (seed : Register × UInt32)
    (seeds : List (Register × UInt32)) :
    m.withRegisters (seed :: seeds) = (m.set seed.1 seed.2).withRegisters seeds := rfl

@[simp] theorem pc_withRegisters (m : Machine) (seeds : List (Register × UInt32)) :
    (m.withRegisters seeds).pc = m.pc := by
  induction seeds generalizing m with
  | nil => rfl
  | cons seed seeds ih => rw [withRegisters_cons, ih, pc_set]

end Machine

namespace CallProbe

/-! ## Collecting -/

theorem storedBy_eq_some_iff {m m' : Machine} {i : Option Instruction}
    (h : m.step = (m', .ok i)) {w : UInt32} : storedBy m' i = some w ↔ m.StoresWord w := by
  have hstep : ∀ {s : Machine} {j : Instruction}, m.step = (s, .ok (some j)) →
      s = m' ∧ some j = i := by
    intro s j hs
    rw [h] at hs
    cases hs
    exact ⟨rfl, rfl⟩
  cases i with
  | none =>
    constructor
    · intro hw
      cases hw
    · rintro ⟨s, j, hs, -⟩
      cases (hstep hs).2
  | some i =>
    rw [storedBy]
    constructor
    · intro hw
      split at hw
      · rename_i hsw
        cases hw
        exact ⟨m', i, h, hsw.1, rfl, hsw.2⟩
      · cases hw
    · rintro ⟨s, j, hs, hkind, hvalue, hw⟩
      obtain ⟨rfl, hj⟩ := hstep hs
      cases hj
      rw [hvalue]
      exact if_pos ⟨hkind, hw⟩

/-- A step that succeeds adds the word that it stores, if it stores one. -/
theorem collect_succ_of_ok {m m' : Machine} {i : Option Instruction} (h : m.step = (m', .ok i))
    (n : Nat) (stored : List UInt32) :
    collect (n + 1) m stored =
      collect n m' ((storedBy m' i).elim stored fun w => Ascending.insert w stored) := by
  rw [collect, h]
  dsimp only
  cases storedBy m' i <;> rfl

theorem collect_succ_of_error {m m' : Machine} {f : Fault} (h : m.step = (m', .error f))
    (n : Nat) (stored : List UInt32) : collect (n + 1) m stored = .error f := by
  rw [collect, h]

theorem mem_insert_word {a x : UInt32} {l : List UInt32} :
    x ∈ Ascending.insert a l ↔ x = a ∨ x ∈ l := by
  refine Ascending.mem_insert fun a b hab hba => ?_
  rw [UInt32.lt_iff_toNat_lt] at hab hba
  exact UInt32.toNat_inj.1 (by omega)

theorem pairwise_insert_word {a : UInt32} {l : List UInt32} (h : l.Pairwise (· < ·)) :
    (Ascending.insert a l).Pairwise (· < ·) := by
  refine Ascending.pairwise_insert (fun a b c hab hbc => ?_) h
  rw [UInt32.lt_iff_toNat_lt] at hab hbc ⊢
  omega

/-- **Collecting is running**: it fails when the run fails and ends where the run ends,
with the words that were there before and those that the run stores. -/
theorem collect_spec (n : Nat) (m : Machine) (stored : List UInt32)
    (hstored : stored.Pairwise (· < ·)) :
    match m.run n with
    | (m', .ok ()) => ∃ l, collect n m stored = .ok (m', l) ∧ l.Pairwise (· < ·) ∧
        ∀ w, w ∈ l ↔ w ∈ stored ∨ m.StoresWithin n w
    | (_, .error f) => collect n m stored = .error f := by
  induction n generalizing m stored with
  | zero =>
    refine ⟨stored, rfl, hstored, fun w => ?_⟩
    simp [m.not_storesWithin_zero w]
  | succ n ih =>
    rcases hstep : m.step with ⟨m', f | i⟩
    · rw [Machine.run_succ_of_error hstep]
      exact collect_succ_of_error hstep n stored
    · rw [Machine.run_succ_of_ok hstep, collect_succ_of_ok hstep]
      cases hby : storedBy m' i with
      | none =>
        have hnone : ∀ w, ¬ m.StoresWord w := fun w hw => by
          rw [(storedBy_eq_some_iff hstep).2 hw] at hby
          cases hby
        rw [Option.elim_none]
        simpa [Machine.storesWithin_succ_of_ok hstep, hnone] using ih m' stored hstored
      | some v =>
        have hsome : ∀ w, m.StoresWord w ↔ w = v := fun w => by
          rw [← storedBy_eq_some_iff hstep, hby, Option.some_inj, eq_comm]
        rw [Option.elim_some]
        simpa [Machine.storesWithin_succ_of_ok hstep, hsome, mem_insert_word, or_assoc,
          or_left_comm] using ih m' (Ascending.insert v stored) (pairwise_insert_word hstored)

section Runs
variable {p : CallProbe} {m : Image} {site : Nat} {final : Machine}

theorem run_of_error {f : Fault} (h : (p.start m site).run p.steps = (final, .error f)) :
    p.run m site = .error f := by
  have hcollect := collect_spec p.steps (p.start m site) [] .nil
  rw [h] at hcollect
  rw [run, hcollect]

/-- **A probe whose run completes** reports the registers of its end and the words that
it stores on the way. -/
theorem run_of_ok (h : (p.start m site).run p.steps = (final, .ok ())) :
    ∃ stored, p.run m site = .ok ⟨final.registers, stored⟩ ∧ stored.Pairwise (· < ·) ∧
      ∀ w, w ∈ stored ↔ (p.start m site).StoresWithin p.steps w := by
  have hcollect := collect_spec p.steps (p.start m site) [] .nil
  rw [h] at hcollect
  obtain ⟨stored, hstored, hascending, hmem⟩ := hcollect
  refine ⟨stored, ?_, hascending, fun w => ?_⟩
  · rw [run, hstored]
  · rw [hmem w, or_iff_right List.not_mem_nil]

/-- A probe that reports has completed its run. -/
theorem exists_of_run {o : Outcome} (h : p.run m site = .ok o) :
    ∃ final, (p.start m site).run p.steps = (final, .ok ()) ∧ o.registers = final.registers ∧
      o.stored.Pairwise (· < ·) ∧ ∀ w, w ∈ o.stored ↔ (p.start m site).StoresWithin p.steps w := by
  rcases hrun : (p.start m site).run p.steps with ⟨final, f | ⟨⟩⟩
  · rw [run_of_error hrun] at h
    cases h
  · obtain ⟨stored, hok, hascending, hmem⟩ := run_of_ok hrun
    rw [hok] at h
    cases h
    exact ⟨final, rfl, rfl, hascending, hmem⟩

end Runs

/-! ## Where a probe begins -/

theorem toNat_wordOffset {index : Nat} (h : index < 0x400000) :
    (UInt32.ofNat index <<< 2).toNat = 4 * index := by
  rw [UInt32.toNat_shiftLeft, UInt32.toNat_ofNat', Nat.shiftLeft_eq]
  change index % 2 ^ 32 * 2 ^ 2 % 2 ^ 32 = _
  omega

theorem toNat_wordAddress {index : Nat} (h : index < 0x400000) :
    (wordAddress index).toNat = 0x80000000 + 4 * index := by
  have hor := Nat.two_pow_add_eq_or_of_lt (i := 31) (b := 4 * index) (by omega) 1
  rw [wordAddress, UInt32.toNat_or, toNat_wordOffset h]
  exact hor.symm

/-- A probe that would begin before memory fails at its first step. -/
theorem run_of_lt_lead {p : CallProbe} {site : Nat} (m : Image) (hlead : p.lead < 0x400000)
    (hbefore : site < p.lead) :
    (p.start m site).step = (p.start m site, .error (.fetch (p.start m site).pc)) ∧
      p.run m site = .error (.fetch (p.start m site).pc) := by
  have hpc : (p.start m site).pc.toNat < 0x80000000 := by
    rw [start, Machine.pc_withRegisters]
    change (wordAddress site - UInt32.ofNat p.lead <<< 2).toNat < _
    rw [UInt32.toNat_sub, toNat_wordAddress (Nat.lt_trans hbefore hlead), toNat_wordOffset hlead]
    omega
  have hstep := Machine.step_of_readWord_error
    (AddressSpace.readWord_of_lt hpc (p.start m site).memory)
  exact ⟨hstep, run_of_error (Machine.run_succ_of_error hstep (p.lead + 1))⟩

/-- A probe that reports begins in memory. -/
theorem lead_le_of_run {p : CallProbe} {m : Image} {site : Nat} {o : Outcome}
    (hlead : p.lead < 0x400000) (h : p.run m site = .ok o) : p.lead ≤ site := by
  refine Nat.le_of_not_lt fun hbefore => ?_
  rw [(run_of_lt_lead m hlead hbefore).2] at h
  cases h

end CallProbe
end PadScout
