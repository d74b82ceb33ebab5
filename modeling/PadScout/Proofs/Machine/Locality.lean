import Mathlib.Data.List.Sort
import PadScout.Proofs.Machine.Window

/-! # Probes are local

Two probes over the same words of code come to the same, wherever the words stand and whatever
else there is in the two images, as long as none of the words is a load.  The machines of the
two probes are alike at first (`CallProbe.alike_start`) and stay so, word by word
(`Machine.Alike.after`).  Machines that are alike divide by the same numbers and store the same
words (`Machine.Alike.dividesByZero_iff`, `Machine.Alike.stores_iff`), which is all that decides
how a probe ends.

The stores themselves may land in the one image and fail in the other, and the program counters
differ all the way.  Nothing shows of it, since a failed store is passed and no instruction
brings the program counter into a register.
-/
namespace PadScout

open Mips

/-- The word is a load that the machine carries out. -/
def Loads (w : UInt32) : Prop :=
  ∃ i, decode w = .ok i ∧ i.kind ∈ [.lw, .lwu, .lb, .lbu, .lh, .lhu]

instance (w : UInt32) : Decidable (Loads w) :=
  match hw : decode w with
  | .ok i =>
    decidable_of_iff (i.kind ∈ [.lw, .lwu, .lb, .lbu, .lh, .lhu])
      ⟨fun h => ⟨i, hw, h⟩, fun ⟨j, hj, h⟩ => by
        rw [hw] at hj
        cases hj
        exact h⟩
  | .error _ => .isFalse fun ⟨j, hj, _⟩ => by
    rw [hw] at hj
    cases hj

theorem role_eq_load_iff {k : Kind} :
    k.role = .load ↔ k ∈ [.lw, .lwu, .lb, .lbu, .lh, .lhu] := by
  cases k <;> decide

namespace Machine.Alike
variable {m m' : Machine} {w : UInt32} {ws : List UInt32} {k : Nat}

theorem withRegisters (h : Alike m m') (seeds : List (Register × UInt32)) :
    Alike (m.withRegisters seeds) (m'.withRegisters seeds) := by
  induction seeds generalizing m m' with
  | nil => exact h
  | cons seed seeds ih => exact ih (h.set seed.1 seed.2)

/-- **One word** that is not a load leaves machines alike. -/
theorem given (h : Alike m m') (hload : ¬ Loads w) : Alike (m.given w) (m'.given w) := by
  have hnext : Alike (m.withPc (m.pc + 4)) (m'.withPc (m'.pc + 4)) :=
    ⟨h.registers, h.hi, h.lo⟩
  rw [Machine.given, Machine.given]
  cases hi : decode w with
  | error e => exact hnext
  | ok i => exact hnext.execute fun hrole => hload ⟨i, hi, role_eq_load_iff.1 hrole⟩

/-- **Some words** without a load leave machines alike. -/
theorem after (h : Alike m m') (hload : ∀ w ∈ ws, ¬ Loads w) :
    Alike (m.after ws) (m'.after ws) := by
  induction ws generalizing m m' with
  | nil => exact h
  | cons w ws ih =>
    have hhead : ¬ Loads w := hload w List.mem_cons_self
    have htail : ∀ v ∈ ws, ¬ Loads v := fun v hv => hload v (List.mem_cons_of_mem w hv)
    exact ih (h.given hhead) htail

theorem after_take (h : Alike m m') (hload : ∀ w ∈ ws, ¬ Loads w) (k : Nat) :
    Alike (m.after (ws.take k)) (m'.after (ws.take k)) :=
  h.after fun w hw => hload w (List.mem_of_mem_take hw)

theorem dividesByZero_iff (h : Alike m m') : m.DividesByZero w ↔ m'.DividesByZero w := by
  simp only [DividesByZero, h.operand]

theorem dividesAt_iff (h : Alike m m') (hload : ∀ w ∈ ws, ¬ Loads w) :
    m.DividesAt ws k ↔ m'.DividesAt ws k := by
  simp only [DividesAt, (h.after_take hload k).dividesByZero_iff]

theorem firstDivision_iff (h : Alike m m') (hload : ∀ w ∈ ws, ¬ Loads w) :
    m.FirstDivision ws k ↔ m'.FirstDivision ws k := by
  simp only [FirstDivision, h.dividesAt_iff hload]

theorem stores_iff (h : Alike m m') (hload : ∀ w ∈ ws, ¬ Loads w) (value : UInt32) :
    m.Stores ws value ↔ m'.Stores ws value := by
  simp only [Stores, (h.after_take hload _).operand]

end Machine.Alike

namespace CallProbe

/-- The machines of a probe are alike at first, whatever image and site it is for. -/
theorem alike_start (p : CallProbe) (m m' : Image) (site site' : Nat) :
    (p.start m site).Alike (p.start m' site') := by
  have hrest : ((Machine.ofImage m).withPc (wordAddress site - UInt32.ofNat p.lead <<< 2)).Alike
      ((Machine.ofImage m').withPc (wordAddress site' - UInt32.ofNat p.lead <<< 2)) :=
    ⟨rfl, rfl, rfl⟩
  exact hrest.withRegisters p.seeds

/-- **A probe is local**: over the same words without a load it comes to the same in any two
images at any two sites, or it divides by zero at the same word. -/
theorem run_of_same_window (p : CallProbe) {m m' : Image} {site site' : Nat}
    (hsize : m.size < 0x400000) (hsize' : m'.size < 0x400000)
    (hlead : p.lead ≤ site) (hlead' : p.lead ≤ site')
    (hnext : site + 1 < m.size) (hnext' : site' + 1 < m'.size)
    (hsame : p.window m site = p.window m' site')
    (hload : ∀ w ∈ p.window m site, ¬ Loads w) :
    (∃ o, p.run m site = .ok o ∧ p.run m' site' = .ok o) ∨
      ∃ k < p.steps,
        p.run m site = .error (.divideByZero (wordAddress (site - p.lead + k))) ∧
        p.run m' site' = .error (.divideByZero (wordAddress (site' - p.lead + k))) := by
  have hsite : site < m.size := Nat.lt_of_succ_lt hnext
  have hsite' : site' < m'.size := Nat.lt_of_succ_lt hnext'
  have halike := p.alike_start m m' site site'
  rcases Machine.smooth_or_firstDivision (p.start m site) (p.window m site) with
    hsmooth | ⟨k, hk⟩
  · left
    have hsmooth' : ∀ k, ¬ (p.start m' site').DividesAt (p.window m' site') k := by
      intro k hk
      rw [← hsame, ← halike.dividesAt_iff hload] at hk
      exact hsmooth k hk
    obtain ⟨⟨stored, hok, hascending, hmem⟩, -⟩ :=
      exists_run_of_smooth hsize hlead hsite hnext hsmooth
    obtain ⟨⟨stored', hok', hascending', hmem'⟩, -⟩ :=
      exists_run_of_smooth hsize' hlead' hsite' hnext' hsmooth'
    have hstored : stored' = stored := by
      refine hascending'.eq_of_mem_iff hascending fun v => ?_
      rw [hmem, hmem', ← hsame, halike.stores_iff hload]
    have hregisters : (p.before m' site' p.steps).registers =
        (p.before m site p.steps).registers := by
      rw [before, before, ← hsame]
      exact (halike.after_take hload p.steps).registers.symm
    refine ⟨_, hok, ?_⟩
    rw [hok', hstored, hregisters]
  · right
    have hk' : (p.start m' site').FirstDivision (p.window m' site') k := by
      rw [← hsame, ← halike.firstDivision_iff hload]
      exact hk
    have hlt := hk.lt_length
    rw [length_window] at hlt
    refine ⟨k, ?_, (run_of_firstDivision hsize hlead hsite hk).1,
      (run_of_firstDivision hsize' hlead' hsite' hk').1⟩
    omega

/-- The same call in a larger memory.  Here the store does not fail but is lost, as there is
memory where it goes, and the memory is read only. -/
def aside : Image where
  words := #[0x8F820000, 0, 0, 0x27840004, 0xAF840014, 0x0C000040, 0xFFFFFFFF, 0]

theorem run_stretch_aside :
    ∃ o, fromStart.run stretch 3 = .ok o ∧ fromStart.run aside 5 = .ok o := by
  have hsame : fromStart.window stretch 3 = fromStart.window aside 5 := by decide
  have hall : (fromStart.window stretch 3).all (fun w => decide (¬ Loads w)) = true := by
    decide +kernel
  have hload : ∀ w ∈ fromStart.window stretch 3, ¬ Loads w := by
    intro w hw
    exact of_decide_eq_true (List.all_eq_true.1 hall w hw)
  rcases run_of_same_window fromStart (by decide) (by decide) (by decide) (by decide) (by decide)
    (by decide) hsame hload with hrun | ⟨k, -, herror, -⟩
  · exact hrun
  · obtain ⟨o, hok⟩ : ∃ o, fromStart.run stretch 3 = .ok o := ⟨_, by rfl⟩
    rw [hok] at herror
    cases herror

end CallProbe
end PadScout
