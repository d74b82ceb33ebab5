import PadScout.Proofs.Machine.Performing
import PadScout.Proofs.Machine.Straight

/-! # How the machine fails

An instruction fails for one of two reasons: it divides by zero, or it loads or stores where
there is no memory (`Machine.Fails`).  Then it has done nothing.  A step fails only if there is
no word to fetch, or if the word it has fetched divides by zero, in which case the program
counter has moved on.  Everything else is passed over: an access that fails, and a word that is
no instruction (`Machine.FailsCleanly`).  So a run that fails stands where its last step failed
(`Machine.exists_step_of_run`), which is never a word that is no instruction
(`Machine.decodes_of_step_error`), and a probe fails just when its run does.  Neither reports
anything but these two faults.
-/
namespace PadScout

open Mips

namespace Machine

/-! ## Instructions -/

/-- **Why an instruction fails.** -/
inductive Fails (m : Machine) (i : Instruction) : Fault → Prop
  | division (hkind : i.kind = .div ∨ i.kind = .divu) (hzero : m.operand i.rt = 0) :
      Fails m i (.divideByZero (m.pc - 4))
  | access {f : Fault} (hrole : i.kind.role = .load ∨ i.kind.role = .store)
      (hword : m.memory.readWord (m.address i) = .error f) : Fails m i f

section
variable {m m' : Machine} {i : Instruction} {f : Fault} {w : UInt32}

theorem effect_of_fails (h : m.Fails i f) : m.effect i = .error f := by
  rcases h with ⟨hkind, hzero⟩ | ⟨hrole, hword⟩
  · exact effect_eq_divideByZero_iff.2 ⟨hkind, hzero, rfl⟩
  · have hacts := m.acts i
    rcases hrole with hrole | hrole
    · rw [hrole] at hacts
      generalize m.effect i = outcome at hacts ⊢
      cases hacts with
      | load value => rw [load, hword]
    · rw [hrole] at hacts
      generalize m.effect i = outcome at hacts ⊢
      cases hacts with
      | store st hst =>
        rw [← hst] at hword
        rw [AddressSpace.carryOut_eq_error_iff.2 hword]
        rfl

/-- **There are no other reasons.** -/
theorem fails_of_effect (h : m.effect i = .error f) : m.Fails i f := by
  have hacts := m.acts i
  generalize hrole : i.kind.role = role at hacts
  generalize houtcome : m.effect i = outcome at hacts
  rw [h] at houtcome
  cases hacts with
  | load value =>
    refine .access (.inl hrole) ?_
    rw [load] at houtcome
    cases hread : m.memory.readWord (m.address i) with
    | ok w =>
      rw [hread] at houtcome
      cases houtcome
    | error g =>
      rw [hread] at houtcome
      cases houtcome
      rfl
  | store st hst =>
    refine .access (.inr hrole) ?_
    rw [← hst]
    cases hstore : m.memory.carryOut st with
    | ok s =>
      rw [hstore] at houtcome
      cases houtcome
    | error g =>
      rw [hstore] at houtcome
      cases houtcome
      exact AddressSpace.carryOut_eq_error_iff.1 hstore
  | divide quotient remainder =>
    rw [divide] at houtcome
    split at houtcome
    · next hzero =>
      cases houtcome
      exact .division (role_eq_divide_iff.1 hrole) hzero
    · cases houtcome
  | multiply p | toRd value | toRt value | toHi value | toLo value | pass => cases houtcome

theorem execute_of_fails (h : m.Fails i f) : m.execute i = (m, .error f) := by
  rw [execute, effect_of_fails h]

/-- **An instruction that fails has done nothing**, even if it is performed on the machine
itself, access by access. -/
theorem fails_and_eq_of_perform (h : (Work.perform i).on m = (m', .error f)) :
    m.Fails i f ∧ m' = m := by
  rw [Work.on_perform, execute] at h
  cases heffect : m.effect i with
  | ok e =>
    rw [heffect] at h
    cases h
  | error g =>
    rw [heffect] at h
    cases h
    exact ⟨fails_of_effect heffect, rfl⟩

/-! ## Steps -/

theorem address_withPc (m : Machine) (pc : UInt32) (i : Instruction) :
    (m.withPc pc).address i = m.address i := by
  rw [address, operand_withPc]
  rfl

/-- The program counter moves on, and that is all. -/
theorem given_of_fails (hi : decode w = .ok i) (h : (m.withPc (m.pc + 4)).Fails i f) :
    m.given w = m.withPc (m.pc + 4) := by
  rw [given, hi]
  show ((m.withPc (m.pc + 4)).execute i).1 = _
  rw [execute_of_fails h]

theorem given_of_dividesByZero (h : m.DividesByZero w) : m.given w = m.withPc (m.pc + 4) := by
  obtain ⟨i, hi, hkind, hzero⟩ := h
  refine given_of_fails hi (.division hkind ?_)
  rw [operand_withPc]
  exact hzero

/-- **Why a step fails**: there is nothing to fetch, or the word divides by zero. -/
theorem step_eq_error_iff : m.step = (m', .error f) ↔
    ((∃ g, m.memory.readWord m.pc = .error g) ∧ f = .fetch m.pc ∧ m' = m) ∨
      ∃ w, m.memory.readWord m.pc = .ok w ∧ m.DividesByZero w ∧ f = .divideByZero m.pc ∧
        m' = m.withPc (m.pc + 4) := by
  cases hread : m.memory.readWord m.pc with
  | error g =>
    rw [step_of_readWord_error hread]
    constructor
    · intro h
      cases h
      exact .inl ⟨⟨g, rfl⟩, rfl, rfl⟩
    · rintro (⟨-, rfl, rfl⟩ | ⟨w, hw, -⟩)
      · rfl
      · cases hw
  | ok w =>
    by_cases hdivide : m.DividesByZero w
    · rw [step_of_dividesByZero hread hdivide, given_of_dividesByZero hdivide]
      constructor
      · intro h
        cases h
        exact .inr ⟨w, rfl, hdivide, rfl, rfl⟩
      · rintro (⟨⟨g, hg⟩, -⟩ | ⟨v, -, -, rfl, rfl⟩)
        · cases hg
        · rfl
    · rw [step_of_not_dividesByZero hread hdivide]
      constructor
      · intro h
        cases h
      · rintro (⟨⟨g, hg⟩, -⟩ | ⟨v, hv, hzero, -⟩)
        · cases hg
        · cases hv
          exact absurd hzero hdivide

/-- **A load or a store that fails is passed over.** -/
theorem step_of_access (hw : m.memory.readWord m.pc = .ok w) (hi : decode w = .ok i)
    (hrole : i.kind.role = .load ∨ i.kind.role = .store)
    (hword : m.memory.readWord (m.address i) = .error f) :
    m.step = (m.withPc (m.pc + 4), .ok (some i)) := by
  have hdivide : ¬ m.DividesByZero w := by
    rintro ⟨j, hj, hkind, -⟩
    rw [hi] at hj
    cases hj
    rw [role_eq_divide_iff.2 hkind] at hrole
    rcases hrole with h | h
    · cases h
    · cases h
  have hfails : (m.withPc (m.pc + 4)).Fails i f := by
    refine .access hrole ?_
    rw [address_withPc]
    exact hword
  rw [step_of_not_dividesByZero hw hdivide, given_of_fails hi hfails, hi]
  rfl

/-- **A word that is no instruction is passed over.** -/
theorem step_of_unknown {e : DecodeError} (hw : m.memory.readWord m.pc = .ok w)
    (hdecode : decode w = .error e) : m.step = (m.withPc (m.pc + 4), .ok none) := by
  rw [step, fetch_of_readWord hw, hdecode]
  rfl

/-! ## Runs -/

/-- **A run that fails stands where its last step failed**, behind steps that succeeded. -/
theorem exists_step_of_run {n : Nat} (h : m.run n = (m', .error f)) :
    ∃ s, (∃ k < n, m.run k = (s, .ok ())) ∧ s.step = (m', .error f) := by
  induction n generalizing m with
  | zero => cases h
  | succ n ih =>
    rcases hstep : m.step with ⟨next, g | i⟩
    · rw [run_succ_of_error hstep] at h
      cases h
      exact ⟨m, ⟨0, Nat.zero_lt_succ n, rfl⟩, hstep⟩
    · rw [run_succ_of_ok hstep] at h
      obtain ⟨s, ⟨k, hk, hrun⟩, hlast⟩ := ih h
      refine ⟨s, ⟨k + 1, Nat.succ_lt_succ hk, ?_⟩, hlast⟩
      rw [run_succ_of_ok hstep]
      exact hrun

end

/-- **How a machine fails**, and what that leaves of it. -/
structure FailsCleanly (m : Machine) : Prop where
  /-- To execute an instruction is to perform it, access by access. -/
  performed : ∀ i, m.execute i = (Work.perform i).on m
  /-- An instruction that fails has done nothing, and there are two reasons to fail. -/
  execute : ∀ i m' f, m.execute i = (m', .error f) → m' = m ∧ m.Fails i f
  /-- A step that fails has done nothing if there was no word to fetch.  If the word divides by
  zero, the program counter has moved on, and the fault names the place of the word. -/
  step : ∀ m' f, m.step = (m', .error f) ↔
    ((∃ g, m.memory.readWord m.pc = .error g) ∧ f = .fetch m.pc ∧ m' = m) ∨
      ∃ w, m.memory.readWord m.pc = .ok w ∧ m.DividesByZero w ∧ f = .divideByZero m.pc ∧
        m' = m.withPc (m.pc + 4)
  /-- A step passes over a load or a store that fails. -/
  access : ∀ w i f, m.memory.readWord m.pc = .ok w → decode w = .ok i →
    i.kind.role = .load ∨ i.kind.role = .store → m.memory.readWord (m.address i) = .error f →
    m.step = (m.withPc (m.pc + 4), .ok (some i))
  /-- A step passes over a word that is no instruction. -/
  unknown : ∀ w e, m.memory.readWord m.pc = .ok w → decode w = .error e →
    m.step = (m.withPc (m.pc + 4), .ok none)
  /-- A run that fails has succeeded up to the step that failed, and stands where that left
  it.  If there was a word to fetch, it is an instruction. -/
  run : ∀ n m' f, m.run n = (m', .error f) →
    ∃ s, (∃ k < n, m.run k = (s, .ok ())) ∧ s.step = (m', .error f) ∧
      (f = .fetch s.pc ∧ m' = s ∨ f = .divideByZero s.pc ∧ m' = s.withPc (s.pc + 4)) ∧
      ∀ w, s.memory.readWord s.pc = .ok w → ∃ i, decode w = .ok i

theorem eq_of_step_error {m m' : Machine} {f : Fault} (h : m.step = (m', .error f)) :
    f = .fetch m.pc ∧ m' = m ∨ f = .divideByZero m.pc ∧ m' = m.withPc (m.pc + 4) := by
  rcases step_eq_error_iff.1 h with ⟨-, hfault, hm⟩ | ⟨w, -, -, hfault, hm⟩
  · exact .inl ⟨hfault, hm⟩
  · exact .inr ⟨hfault, hm⟩

/-- **No step fails for want of an instruction.** -/
theorem decodes_of_step_error {m m' : Machine} {f : Fault} {w : UInt32}
    (h : m.step = (m', .error f)) (hw : m.memory.readWord m.pc = .ok w) :
    ∃ i, decode w = .ok i := by
  cases hdecode : decode w with
  | ok i => exact ⟨i, rfl⟩
  | error e =>
    rw [step_of_unknown hw hdecode] at h
    cases h

theorem failsCleanly (m : Machine) : m.FailsCleanly where
  performed i := (Work.on_perform m i).symm
  execute i m' f h := by
    rw [← Work.on_perform] at h
    obtain ⟨hfails, hm⟩ := fails_and_eq_of_perform h
    exact ⟨hm, hfails⟩
  step _ _ := step_eq_error_iff
  access _ _ _ hw hi hrole hword := step_of_access hw hi hrole hword
  unknown _ _ hw hdecode := step_of_unknown hw hdecode
  run n m' f h := by
    obtain ⟨s, hbefore, hstep⟩ := exists_step_of_run h
    exact ⟨s, hbefore, hstep, eq_of_step_error hstep, fun w => decodes_of_step_error hstep⟩

end Machine

/-- **A probe fails just when its run does**, and in the same way. -/
theorem CallProbe.fails_iff_run_fails {p : CallProbe} {image : Image} {site : Nat} {f : Fault} :
    p.run image site = .error f ↔ ∃ m, (p.start image site).run p.steps = (m, .error f) := by
  constructor
  · intro h
    rcases hrun : (p.start image site).run p.steps with ⟨m, g | ⟨⟩⟩
    · rw [run_of_error hrun] at h
      cases h
      exact ⟨m, rfl⟩
    · obtain ⟨stored, hok, -⟩ := run_of_ok hrun
      rw [hok] at h
      cases h
  · rintro ⟨m, hrun⟩
    exact run_of_error hrun

/-- **Machines fail cleanly.**  A failed instruction changes nothing and a failed step nothing
but, at a division by zero, the program counter.  Runs and probes report words that cannot be
fetched and divisions by zero, and nothing else. -/
theorem Machine.runs_and_probes_fail_cleanly : (∀ m : Machine, m.FailsCleanly) ∧
    ∀ (p : CallProbe) (image : Image) (site : Nat) (f : Fault), p.run image site = .error f →
      (∃ pc, f = .fetch pc ∨ f = .divideByZero pc) ∧
      ∃ m, (p.start image site).run p.steps = (m, .error f) := by
  constructor
  · intro m
    exact m.failsCleanly
  · intro p image site f h
    obtain ⟨m, hrun⟩ := CallProbe.fails_iff_run_fails.1 h
    obtain ⟨s, -, -, hfault, -⟩ := (p.start image site).failsCleanly.run _ _ _ hrun
    refine ⟨⟨s.pc, ?_⟩, m, hrun⟩
    rcases hfault with ⟨hfault, -⟩ | ⟨hfault, -⟩
    · exact .inl hfault
    · exact .inr hfault

end PadScout
