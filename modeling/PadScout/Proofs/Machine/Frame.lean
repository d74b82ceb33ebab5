import PadScout.Proofs.Machine.Straight

/-! # What the machine leaves alone

An instruction changes little: the register that it names for its result, the pair that a
product or a quotient is left in, or one word of the scratch area.  `Machine.Frame` lists what
stays, given the role of its kind, and `Machine.frame_execute` says that it does stay,
whatever registers the instruction names and whether it fails or not.

So a machine over an image stays one whatever is asked of it (`Machine.Command`).  Every
command leaves register zero and the image intact (`Machine.Intact.obey`), and a row of
commands does so by induction.  What can be seen of such a machine is `Machine.Over`.
-/
namespace PadScout

open Mips

/-- The register that an instruction names for its result, if its kind has one. -/
def Mips.Instruction.destination? (i : Instruction) : Option Register :=
  match i.kind.role with
  | .toRd => i.rd
  | .toRt | .load => i.rt
  | .store | .divide | .multiply | .toHi | .toLo | .pass => none

namespace Machine

/-! ## Instructions -/

/-- The instruction stores into word `j` of the scratch area. -/
def StoresInto (m : Machine) (i : Instruction) (j : Nat) : Prop :=
  i.kind.role = .store ∧ IsScratch (m.address i) ∧ AddressSpace.wordIndex (m.address i) = j

/-- **What stays** when an instruction takes one machine to another. -/
structure Frame (m : Machine) (i : Instruction) (m' : Machine) : Prop where
  pc : m'.pc = m.pc
  ram : m'.memory.ram = m.memory.ram
  /-- All registers but the result, and register zero in any case. -/
  registers : ∀ r, r = .zero ∨ i.destination? ≠ some r → m'.get r = m.get r
  hi : i.kind.role ≠ .multiply → i.kind.role ≠ .divide → i.kind.role ≠ .toHi → m'.hi = m.hi
  lo : i.kind.role ≠ .multiply → i.kind.role ≠ .divide → i.kind.role ≠ .toLo → m'.lo = m.lo
  /-- All scratch words but the one, if any, that a store is for. -/
  scratch : ∀ j : Fin scratchWords, ¬ m.StoresInto i j →
    m'.memory.scratch.get j = m.memory.scratch.get j

section
variable {m m' : Machine} {i : Instruction}

theorem Frame.refl (m : Machine) (i : Instruction) : m.Frame i m :=
  ⟨rfl, rfl, fun _ _ => rfl, fun _ _ _ => rfl, fun _ _ _ => rfl, fun _ _ => rfl⟩

theorem Frame.of_result {r : Option Register} (hr : i.destination? = r) (value : UInt32) :
    m.Frame i (m.apply (result r value)) := by
  cases r with
  | none => exact .refl m i
  | some r =>
    show m.Frame i (m.set r value)
    refine ⟨pc_set m r value, ?_, ?_, ?_, ?_, ?_⟩
    · rw [memory_set]
    · intro s hs
      by_cases hzero : r = .zero
      · rw [hzero, set_zero]
      · refine get_set_of_ne m ?_ value
        rintro rfl
        rcases hs with hs | hs
        · exact hzero hs
        · exact hs hr
    · intro _ _ _
      exact hi_set m r value
    · intro _ _ _
      exact lo_set m r value
    · intro j _
      rw [memory_set]

theorem Frame.of_hiLo (h : i.kind.role = .multiply ∨ i.kind.role = .divide) (hi lo : UInt32) :
    m.Frame i (m.apply (.hiLo hi lo)) := by
  refine ⟨rfl, rfl, fun _ _ => rfl, ?_, ?_, fun _ _ => rfl⟩
  · intro hmultiply hdivide _
    rcases h with h | h
    · exact absurd h hmultiply
    · exact absurd h hdivide
  · intro hmultiply hdivide _
    rcases h with h | h
    · exact absurd h hmultiply
    · exact absurd h hdivide

/-- A store reaches one word of the scratch area, or none. -/
theorem Frame.of_store (hrole : i.kind.role = .store) {st : Store}
    (hst : st.address = m.address i) : m.Frame i { m with memory := m.memory.after st } := by
  refine ⟨rfl, AddressSpace.ram_after m.memory st, fun _ _ => rfl, fun _ _ _ => rfl,
    fun _ _ _ => rfl, ?_⟩
  intro j hj
  show (m.memory.after st).scratch.get j = m.memory.scratch.get j
  by_cases hscratch : IsScratch st.address
  · have hne : (AddressSpace.scratchIndex hscratch).val ≠ j.val := by
      intro heq
      rw [hst] at hscratch
      refine hj ⟨hrole, hscratch, ?_⟩
      rw [← hst]
      exact heq
    rw [AddressSpace.after_of_isScratch hscratch]
    exact Vector.getElem_set_ne (AddressSpace.scratchIndex hscratch).isLt j.isLt hne
  · rw [AddressSpace.after_of_not_isScratch hscratch]

/-- **An instruction changes what its role says, and nothing else.** -/
theorem frame_execute (m : Machine) (i : Instruction) : m.Frame i (m.execute i).1 := by
  by_cases hstore : i.kind.role = .store
  · obtain ⟨st, hst, hafter⟩ := execute_of_store (m := m) hstore
    rw [hafter]
    exact .of_store hstore hst
  · have hacts := m.acts i
    have hresult : ∀ r value, i.destination? = r →
        m.Frame i (m.apply (result r value)) := fun r value hr => .of_result hr value
    rw [execute]
    generalize hrole : i.kind.role = role at hstore hacts
    generalize m.effect i = outcome at hacts
    cases hacts with
    | store st hst => exact absurd rfl hstore
    | load value =>
      rw [load]
      cases m.memory.readWord (m.address i) with
      | ok w => exact hresult i.rt (value w) (by rw [Instruction.destination?, hrole])
      | error f => exact .refl m i
    | toRd value => exact hresult i.rd value (by rw [Instruction.destination?, hrole])
    | toRt value => exact hresult i.rt value (by rw [Instruction.destination?, hrole])
    | divide quotient remainder =>
      rw [divide]
      by_cases hzero : m.operand i.rt = 0
      · rw [if_pos hzero]
        exact .refl m i
      · rw [if_neg hzero]
        exact .of_hiLo (.inr hrole) remainder quotient
    | multiply p => exact .of_hiLo (.inl hrole) _ _
    | toHi value =>
      refine ⟨rfl, rfl, fun _ _ => rfl, ?_, fun _ _ _ => rfl, fun _ _ => rfl⟩
      intro _ _ htoHi
      exact absurd hrole htoHi
    | toLo value =>
      refine ⟨rfl, rfl, fun _ _ => rfl, fun _ _ _ => rfl, ?_, fun _ _ => rfl⟩
      intro _ _ htoLo
      exact absurd hrole htoLo
    | pass => exact .refl m i

/-- Kinds without a part to play succeed and change nothing. -/
theorem execute_of_pass (h : i.kind.role = .pass) : m.execute i = (m, .ok ()) := by
  have hacts := m.acts i
  rw [h] at hacts
  rw [execute]
  generalize m.effect i = outcome at hacts
  cases hacts with
  | pass => rfl

/-! ## Commands -/

/-- What can be asked of a machine. -/
inductive Command where
  | set (r : Register) (value : UInt32)
  | withPc (pc : UInt32)
  | fetch
  | step
  | run (n : Nat)
  | execute (i : Instruction)

/-- The machine after a command, whether the command succeeds or not. -/
def obey (m : Machine) : Command → Machine
  | .set r value => m.set r value
  | .withPc pc => m.withPc pc
  | .fetch => m.fetch.1
  | .step => m.step.1
  | .run n => (m.run n).1
  | .execute i => (m.execute i).1

/-- A step has gone past a word, unless it has failed and done nothing. -/
theorem eq_or_given_of_step {outcome : Except Fault (Option Instruction)}
    (h : m.step = (m', outcome)) :
    (m' = m ∧ ∃ f, outcome = .error f) ∨ ∃ w, m' = m.given w := by
  cases hread : m.memory.readWord m.pc with
  | error f =>
    rw [step_of_readWord_error hread] at h
    cases h
    exact .inl ⟨rfl, _, rfl⟩
  | ok w =>
    by_cases hdivide : m.DividesByZero w
    · rw [step_of_dividesByZero hread hdivide] at h
      cases h
      exact .inr ⟨w, rfl⟩
    · rw [step_of_not_dividesByZero hread hdivide] at h
      cases h
      exact .inr ⟨w, rfl⟩

/-! ## What no command changes -/

/-- The machine holds zero in register zero, and this image. -/
structure Intact (image : Image) (m : Machine) : Prop where
  zero : m.get .zero = 0
  ram : m.memory.ram = image

namespace Intact
variable {image : Image}

theorem ofImage (image : Image) : Intact image (.ofImage image) :=
  ⟨Vector.getElem_replicate _, rfl⟩

theorem set (h : Intact image m) (r : Register) (value : UInt32) :
    Intact image (m.set r value) := by
  constructor
  · by_cases hr : r = .zero
    · rw [hr, set_zero]
      exact h.zero
    · rw [get_set_of_ne m hr]
      exact h.zero
  · rw [memory_set]
    exact h.ram

theorem withPc (h : Intact image m) (pc : UInt32) : Intact image (m.withPc pc) :=
  ⟨h.zero, h.ram⟩

theorem execute (h : Intact image m) (i : Instruction) : Intact image (m.execute i).1 := by
  have hframe := frame_execute m i
  exact ⟨(hframe.registers .zero (.inl rfl)).trans h.zero, hframe.ram.trans h.ram⟩

theorem given (h : Intact image m) (w : UInt32) : Intact image (m.given w) := by
  rw [Machine.given]
  cases decode w with
  | ok i => exact (h.withPc (m.pc + 4)).execute i
  | error e => exact h.withPc (m.pc + 4)

theorem fetch (h : Intact image m) : Intact image m.fetch.1 := by
  rw [Machine.fetch]
  cases m.memory.readWord m.pc with
  | ok w => exact h.withPc (m.pc + 4)
  | error f => exact h

theorem step (h : Intact image m) {outcome : Except Fault (Option Instruction)}
    (hstep : m.step = (m', outcome)) : Intact image m' := by
  rcases eq_or_given_of_step hstep with ⟨rfl, -⟩ | ⟨w, rfl⟩
  · exact h
  · exact h.given w

theorem run (h : Intact image m) (n : Nat) : Intact image (m.run n).1 := by
  induction n generalizing m with
  | zero => exact h
  | succ n ih =>
    rcases hstep : m.step with ⟨next, f | i⟩
    · rw [run_succ_of_error hstep]
      exact h.step hstep
    · rw [run_succ_of_ok hstep]
      exact ih (h.step hstep)

/-- **No command changes register zero or the image.** -/
theorem obey (h : Intact image m) (c : Command) : Intact image (m.obey c) := by
  cases c with
  | set r value => exact h.set r value
  | withPc pc => exact h.withPc pc
  | fetch => exact h.fetch
  | step => exact h.step rfl
  | run n => exact h.run n
  | execute i => exact h.execute i

theorem foldl (h : Intact image m) (cs : List Command) :
    Intact image (cs.foldl Machine.obey m) := by
  induction cs generalizing m with
  | nil => exact h
  | cons c cs ih => exact ih (h.obey c)

end Intact

/-! ## The program counter -/

theorem toNat_pc_of_step {i : Option Instruction} (h : m.step = (m', .ok i)) :
    m'.pc.toNat = (m.pc.toNat + 4) % 2 ^ 32 := by
  rcases eq_or_given_of_step h with ⟨-, f, hf⟩ | ⟨w, rfl⟩
  · cases hf
  · rw [pc_given]
    exact UInt32.toNat_add m.pc 4

theorem toNat_pc_of_run {n : Nat} (h : m.run n = (m', .ok ())) :
    m'.pc.toNat = (m.pc.toNat + 4 * n) % 2 ^ 32 := by
  induction n generalizing m with
  | zero =>
    cases h
    exact (Nat.mod_eq_of_lt (UInt32.toNat_lt _)).symm
  | succ n ih =>
    rcases hstep : m.step with ⟨next, f | i⟩
    · rw [run_succ_of_error hstep] at h
      cases h
    · rw [run_succ_of_ok hstep] at h
      rw [ih h, toNat_pc_of_step hstep, Nat.mod_add_mod, Nat.mul_succ]
      congr 1
      omega

/-- **What can be seen of a machine over an image**, whatever has been asked of it. -/
structure Over (image : Image) (m : Machine) : Prop where
  zero : m.get .zero = 0
  /-- In the segment of the image stands the image. -/
  read_ram : ∀ a : UInt32, a >>> 24 = 0x80 → m.memory.readWord a =
    match image.get? (AddressSpace.wordIndex a) with
    | some w => .ok w
    | none => .error (.outOfBounds a)
  /-- The scratch area is as long as ever. -/
  read_scratch : ∀ a : UInt32, a >>> 24 = 0x81 →
    ((∃ w, m.memory.readWord a = .ok w) ↔ AddressSpace.wordIndex a < 0x4000)
  step : ∀ m' i, m.step = (m', .ok i) → m'.pc.toNat = (m.pc.toNat + 4) % 2 ^ 32
  run : ∀ n m', m.run n = (m', .ok ()) → m'.pc.toNat = (m.pc.toNat + 4 * n) % 2 ^ 32

theorem Intact.over {image : Image} (h : Intact image m) : Over image m where
  zero := h.zero
  read_ram a ha := by
    have hread := (AddressSpace.mirrors_bytes m.memory).read_ram a ha
    rw [h.ram] at hread
    exact hread
  read_scratch a ha := by
    constructor
    · rintro ⟨w, hw⟩
      by_contra hlong
      have hfault : m.memory.readWord a = .error (.outOfBounds a) :=
        AddressSpace.readWord_eq_error_iff.2 (.inl ⟨rfl, .inr ⟨ha, not_lt.1 hlong⟩⟩)
      rw [hw] at hfault
      cases hfault
    · intro hindex
      cases hread : m.memory.readWord a with
      | ok w => exact ⟨w, rfl⟩
      | error f =>
        rcases AddressSpace.readWord_eq_error_iff.1 hread with
          ⟨-, ⟨hram, -⟩ | ⟨-, hlong⟩⟩ | ⟨-, -, hscratch⟩
        · rw [ha] at hram
          cases hram
        · exact absurd hindex (not_lt.2 hlong)
        · exact absurd ha hscratch
  step _ _ hstep := toNat_pc_of_step hstep
  run _ _ hrun := toNat_pc_of_run hrun

end

/-- **The machine changes what it should, and nothing else.**  An instruction changes its
result, and kinds without a part to play change nothing.  After any row of commands a machine
over an image is still one. -/
theorem framed_and_over_after_commands :
    (∀ (m : Machine) (i : Instruction), m.Frame i (m.execute i).1 ∧
      (i.kind.role = .pass → m.execute i = (m, .ok ()))) ∧
    ∀ (image : Image) (cs : List Command), Over image (cs.foldl obey (.ofImage image)) := by
  constructor
  · intro m i
    exact ⟨frame_execute m i, execute_of_pass⟩
  · intro image cs
    exact ((Intact.ofImage image).foldl cs).over

end Machine
end PadScout
