import Mathlib.Data.List.Induction
import PadScout.Proofs.Machine.Straight
import PadScout.Proofs.Memory.Image

/-! # The window of a probe

A probe runs through the words from its lead up to the one behind the call, its window
(`CallProbe.window`), and no others.  If the window lies in the image, the machine faces it at
first (`CallProbe.faces_start`).  So either some word of it divides by zero, which is how the
probe ends, or the probe reports the registers behind the window and the words that the stores
in it had to store (`CallProbe.run_of_firstDivision`, `CallProbe.exists_run_of_smooth`).
`CallProbe.Proceeds` says all this of every site of an image.
-/
namespace PadScout

open Mips

namespace Machine

/-- Registers that are set one after the other hold what was put there last. -/
theorem get_withRegisters (m : Machine) (seeds : List (Register × UInt32)) {r : Register}
    (hr : r ≠ .zero) :
    (m.withRegisters seeds).get r = (seeds.reverse.lookup r).getD (m.get r) := by
  induction seeds using List.reverseRecOn with
  | nil => rfl
  | append_singleton seeds seed ih =>
    have hset : m.withRegisters (seeds ++ [seed]) =
        (m.withRegisters seeds).set seed.1 seed.2 := by
      rw [withRegisters, List.foldl_append]
      rfl
    rw [hset, List.reverse_append, List.reverse_singleton, List.singleton_append,
      List.lookup_cons]
    by_cases hseed : r = seed.1
    · rw [← hseed, get_set_self _ hr, beq_self_eq_true]
      rfl
    · rw [get_set_of_ne _ (Ne.symm hseed), ih, beq_false_of_ne hseed]

theorem get_zero_withRegisters (m : Machine) (seeds : List (Register × UInt32)) :
    (m.withRegisters seeds).get .zero = m.get .zero := by
  induction seeds generalizing m with
  | nil => rfl
  | cons seed seeds ih =>
    rw [withRegisters_cons, ih]
    by_cases hseed : seed.1 = .zero
    · rw [hseed, set_zero]
    · exact get_set_of_ne m hseed seed.2

theorem hiLo_withRegisters (m : Machine) (seeds : List (Register × UInt32)) :
    (m.withRegisters seeds).hi = m.hi ∧ (m.withRegisters seeds).lo = m.lo := by
  induction seeds generalizing m with
  | nil => exact ⟨rfl, rfl⟩
  | cons seed seeds ih =>
    rw [withRegisters_cons, ← hi_set m seed.1 seed.2, ← lo_set m seed.1 seed.2]
    exact ih (m.set seed.1 seed.2)

@[simp] theorem memory_withRegisters (m : Machine) (seeds : List (Register × UInt32)) :
    (m.withRegisters seeds).memory = m.memory := by
  induction seeds generalizing m with
  | nil => rfl
  | cons seed seeds ih => rw [withRegisters_cons, ih, memory_set]

end Machine

namespace CallProbe

/-- The words that lead up to a call, the call itself and the word behind it, as far as the
image has them. -/
def window (p : CallProbe) (m : Image) (site : Nat) : List UInt32 :=
  (m.words.extract (site - p.lead) (site - p.lead + p.steps)).toList

/-- The machine of a probe before word `k` of its window. -/
def before (p : CallProbe) (m : Image) (site k : Nat) : Machine :=
  (p.start m site).after ((p.window m site).take k)

section
variable {p : CallProbe} {m : Image} {site k : Nat}

theorem getElem?_window (hk : k < p.steps) :
    (p.window m site)[k]? = m.get? (site - p.lead + k) := Image.getElem?_extract hk

theorem length_window :
    (p.window m site).length = min (site - p.lead + p.steps) m.size - (site - p.lead) := by
  rw [window, Array.length_toList, Array.size_extract]
  rfl

/-- At first all registers are zero, but for those that are seeded. -/
theorem get_start (r : Register) : (p.start m site).get r =
    if r = .zero then 0 else (p.seeds.reverse.lookup r).getD 0 := by
  have hrest : ((Machine.ofImage m).withPc
      (wordAddress site - UInt32.ofNat p.lead <<< 2)).get r = 0 := Vector.getElem_replicate _
  by_cases hr : r = .zero
  · rw [if_pos hr, start, hr, Machine.get_zero_withRegisters, ← hr]
    exact hrest
  · rw [if_neg hr, start, Machine.get_withRegisters _ _ hr, hrest]

end

/-! ## Windows in the image -/

section
variable {p : CallProbe} {m : Image} {site k : Nat}
variable (hsize : m.size < 0x400000) (hlead : p.lead ≤ site) (hsite : site < m.size)
include hsize hlead hsite

/-- **A probe whose lead lies in the image faces its window.** -/
theorem faces_start : (p.start m site).Faces m (site - p.lead) (p.window m site) := by
  refine ⟨?_, ?_, fun k w hw => ?_, ?_⟩
  · rw [start, Machine.pc_withRegisters]
    change (wordAddress site - UInt32.ofNat p.lead <<< 2).toNat = _
    rw [UInt32.toNat_sub, toNat_wordAddress (Nat.lt_trans hsite hsize),
      toNat_wordOffset (by omega)]
    omega
  · rw [start, Machine.memory_withRegisters]
    rfl
  · have hk : k < p.steps := by
      have hlength := (List.getElem?_eq_some_iff.1 hw).1
      rw [length_window] at hlength
      omega
    rwa [getElem?_window hk] at hw
  · rw [length_window]
    omega

/-- Before word `k` of its window the machine stands at this word of the image. -/
theorem at_before (hk : k ≤ (p.window m site).length) (hinside : k < p.steps) :
    (p.before m site k).pc = wordAddress (site - p.lead + k) ∧
      ∀ w, (p.before m site k).memory.readWord (p.before m site k).pc = .ok w ↔
        m.get? (site - p.lead + k) = some w := by
  have hsteps : p.steps = p.lead + 2 := rfl
  have hbound : site - p.lead + k < 0x400000 := by omega
  have hrest := (faces_start hsize hlead hsite).drop hk
  refine ⟨UInt32.toNat_inj.1 (hrest.pc.trans (toNat_wordAddress hbound).symm), fun w => ?_⟩
  rw [before, hrest.readWord hbound]
  cases m.get? (site - p.lead + k) <;> simp

/-- **A division by zero ends the probe**, the first one in the window. -/
theorem run_of_firstDivision (hk : (p.start m site).FirstDivision (p.window m site) k) :
    p.run m site = .error (.divideByZero (wordAddress (site - p.lead + k))) ∧
      (p.start m site).trail p.steps = (List.range (k + 1)).map (p.before m site) := by
  have hlt := hk.lt_length
  have hlength : (p.window m site).length + (p.steps - (p.window m site).length) = p.steps := by
    rw [length_window]
    omega
  obtain ⟨⟨final, hrun⟩, htrail⟩ := (faces_start hsize hlead hsite).run_of_firstDivision hk
    (p.steps - (p.window m site).length)
  rw [hlength] at hrun htrail
  refine ⟨?_, htrail⟩
  rw [run_of_error hrun, ← (at_before hsize hlead hsite (Nat.le_of_lt hlt) (by omega)).1]
  rfl

/-- **A probe whose window does not divide by zero** reports, if all its words are there. -/
theorem exists_run_of_smooth (hnext : site + 1 < m.size)
    (hsmooth : ∀ k, ¬ (p.start m site).DividesAt (p.window m site) k) :
    (∃ stored, p.run m site = .ok ⟨(p.before m site p.steps).registers, stored⟩ ∧
      stored.Pairwise (· < ·) ∧ ∀ v, v ∈ stored ↔ (p.start m site).Stores (p.window m site) v) ∧
    (p.start m site).trail p.steps = (List.range p.steps).map (p.before m site) := by
  have hfaces := faces_start hsize hlead hsite
  have hlength : (p.window m site).length = p.steps := by
    rw [length_window, steps]
    omega
  obtain ⟨hrun, htrail⟩ := hfaces.run hsmooth 0
  rw [Nat.add_zero, hlength] at hrun htrail
  have hafter : (p.start m site).after (p.window m site) = p.before m site p.steps := by
    rw [before, List.take_of_length_le (Nat.le_of_eq hlength)]
  rw [hafter] at hrun
  constructor
  · obtain ⟨stored, hok, hascending, hmem⟩ := run_of_ok hrun
    refine ⟨stored, hok, hascending, fun v => ?_⟩
    rw [hmem v, ← hlength]
    exact hfaces.storesWithin_iff hsmooth v
  · rw [htrail, Machine.trail, List.append_nil]
    rfl

/-- At the end of memory a probe that does not divide by zero has no word left to read. -/
theorem exists_error_of_smooth (hlast : m.size ≤ site + 1)
    (hsmooth : ∀ k, ¬ (p.start m site).DividesAt (p.window m site) k) :
    (∃ f, p.run m site = .error f) ∧
      (p.start m site).trail p.steps = (List.range p.steps).map (p.before m site) := by
  have hfaces := faces_start hsize hlead hsite
  have hlength : (p.window m site).length + 1 = p.steps ∧
      m.size = site - p.lead + (p.window m site).length := by
    rw [length_window, steps]
    omega
  obtain ⟨hrun, htrail⟩ := hfaces.run hsmooth 1
  have hafter : (p.start m site).after (p.window m site) =
      p.before m site (p.window m site).length := by
    rw [before, List.take_length]
  rw [hlength.1, hafter] at hrun htrail
  have hread := (hfaces.drop (Nat.le_refl (p.window m site).length)).readWord (by omega)
  rw [Image.get?, Array.getElem?_eq_none (Nat.le_of_eq hlength.2)] at hread
  have hstep : (p.before m site (p.window m site).length).step =
      (p.before m site (p.window m site).length,
        .error (.fetch (p.before m site (p.window m site).length).pc)) :=
    Machine.step_of_readWord_error hread
  constructor
  · rw [Machine.run_succ_of_error hstep] at hrun
    exact ⟨_, run_of_error hrun⟩
  · have hstop : Machine.trail 1 (p.before m site (p.window m site).length) =
        [p.before m site (p.window m site).length] := by
      rw [Machine.trail, hstep]
    rw [htrail, hstop, ← hlength.1, List.range_succ, List.map_append]
    rfl

/-- However a probe ends, it has taken its steps at the words of its window, one by one. -/
theorem exists_trail : ∃ n ≤ p.steps, n ≤ (p.window m site).length + 1 ∧
    (p.start m site).trail p.steps = (List.range n).map (p.before m site) := by
  have hlength : (p.window m site).length =
      min (site - p.lead + p.steps) m.size - (site - p.lead) := length_window
  have hsteps : p.steps = p.lead + 2 := rfl
  rcases Machine.smooth_or_firstDivision (p.start m site) (p.window m site) with
    hsmooth | ⟨k, hk⟩
  · by_cases hnext : site + 1 < m.size
    · exact ⟨p.steps, Nat.le_refl _, by omega,
        (exists_run_of_smooth hsize hlead hsite hnext hsmooth).2⟩
    · exact ⟨p.steps, Nat.le_refl _, by omega,
        (exists_error_of_smooth hsize hlead hsite (Nat.le_of_not_lt hnext) hsmooth).2⟩
  · have hlt := hk.lt_length
    exact ⟨k + 1, by omega, by omega, (run_of_firstDivision hsize hlead hsite hk).2⟩

theorem exists_error_of_last (hlast : m.size ≤ site + 1) : ∃ f, p.run m site = .error f := by
  rcases Machine.smooth_or_firstDivision (p.start m site) (p.window m site) with
    hsmooth | ⟨k, hk⟩
  · exact (exists_error_of_smooth hsize hlead hsite hlast hsmooth).1
  · exact ⟨_, (run_of_firstDivision hsize hlead hsite hk).1⟩

theorem run_eq_error_iff (hnext : site + 1 < m.size) (f : Fault) : p.run m site = .error f ↔
    ∃ k, (p.start m site).FirstDivision (p.window m site) k ∧
      f = .divideByZero (wordAddress (site - p.lead + k)) := by
  constructor
  · intro hf
    rcases Machine.smooth_or_firstDivision (p.start m site) (p.window m site) with
      hsmooth | ⟨k, hk⟩
    · obtain ⟨⟨stored, hok, -⟩, -⟩ := exists_run_of_smooth hsize hlead hsite hnext hsmooth
      rw [hok] at hf
      cases hf
    · rw [(run_of_firstDivision hsize hlead hsite hk).1] at hf
      cases hf
      exact ⟨k, hk, rfl⟩
  · rintro ⟨k, hk, rfl⟩
    exact (run_of_firstDivision hsize hlead hsite hk).1

/-- **A probe that reports** has gone through its whole window. -/
theorem trail_and_outcome_of_run {o : Outcome} (ho : p.run m site = .ok o) :
    (p.start m site).trail p.steps = (List.range p.steps).map (p.before m site) ∧
      o.registers = (p.before m site p.steps).registers ∧ o.stored.Pairwise (· < ·) ∧
      ∀ v, v ∈ o.stored ↔ (p.start m site).Stores (p.window m site) v := by
  have hnext : site + 1 < m.size := by
    refine Nat.lt_of_not_le fun hlast => ?_
    obtain ⟨f, hf⟩ := exists_error_of_last hsize hlead hsite hlast
    rw [hf] at ho
    cases ho
  rcases Machine.smooth_or_firstDivision (p.start m site) (p.window m site) with
    hsmooth | ⟨k, hk⟩
  · obtain ⟨⟨stored, hok, hascending, hmem⟩, htrail⟩ :=
      exists_run_of_smooth hsize hlead hsite hnext hsmooth
    rw [hok] at ho
    cases ho
    exact ⟨htrail, rfl, hascending, hmem⟩
  · rw [(run_of_firstDivision hsize hlead hsite hk).1] at ho
    cases ho

end

/-! ## Every site -/

/-- **How a probe proceeds** at a site of an image. -/
structure Proceeds (p : CallProbe) (m : Image) (site : Nat) : Prop where
  /-- The registers are zero at first, but for those that are seeded: of several seeds of one
  register the last counts, and register zero stays zero. -/
  seeded : (∀ r, (p.start m site).get r =
    if r = .zero then 0 else (p.seeds.reverse.lookup r).getD 0) ∧
    (p.start m site).hi = 0 ∧ (p.start m site).lo = 0
  /-- With fewer words before the site than the lead has, the first step has nothing to read. -/
  outside : site < p.lead → ∃ pc, (p.start m site).step = (p.start m site, .error (.fetch pc)) ∧
    p.run m site = .error (.fetch pc)
  /-- Otherwise the steps go through the words from the lead on in order and one by one,
  whatever instructions they are. -/
  inOrder : p.lead ≤ site → ∃ n ≤ p.steps,
    (p.start m site).trail p.steps = (List.range n).map (p.before m site) ∧
    ∀ k < n, (p.before m site k).pc = wordAddress (site - p.lead + k) ∧
      ∀ w, (p.before m site k).memory.readWord (p.before m site k).pc = .ok w ↔
        m.get? (site - p.lead + k) = some w
  /-- Without a word behind the site the probe fails. -/
  atEnd : p.lead ≤ site → m.size ≤ site + 1 → ∃ f, p.run m site = .error f
  /-- If all words are there, it fails just if one of them divides by zero, and it names the
  first that does. -/
  failure : p.lead ≤ site → site + 1 < m.size → ∀ f, p.run m site = .error f ↔
    ∃ k, (p.start m site).FirstDivision (p.window m site) k ∧
      f = .divideByZero (wordAddress (site - p.lead + k))
  /-- A probe that reports has taken all its steps.  It reports the registers at their end and
  the nonzero words that the stores among them had to store, whether they landed or not. -/
  success : ∀ o, p.run m site = .ok o →
    (p.start m site).trail p.steps = (List.range p.steps).map (p.before m site) ∧
    o.registers = (p.before m site p.steps).registers ∧ o.stored.Pairwise (· < ·) ∧
    ∀ v, v ∈ o.stored ↔ (p.start m site).Stores (p.window m site) v

/-- **A probe goes straight through its window**, at every site of an image below the reach of
calls. -/
theorem proceeds_straight (p : CallProbe) (m : Image) (site : Nat) (hsize : m.size < 0x400000)
    (hlead : p.lead < 0x400000) (hsite : site < m.size) : p.Proceeds m site where
  seeded := ⟨get_start, Machine.hiLo_withRegisters _ p.seeds⟩
  outside hbefore := ⟨_, run_of_lt_lead m hlead hbefore⟩
  inOrder hle := by
    obtain ⟨n, hn, hinside, htrail⟩ := exists_trail hsize hle hsite
    exact ⟨n, hn, htrail, fun k hk => at_before hsize hle hsite (by omega) (by omega)⟩
  atEnd hle hlast := exists_error_of_last hsize hle hsite hlast
  failure hle hnext f := run_eq_error_iff hsize hle hsite hnext f
  success _ ho := trail_and_outcome_of_run hsize (lead_le_of_run hlead ho) hsite ho

/-- A few words of code around a call: an address beside `$gp` is passed on and stored behind
the last of them, where there is no memory.  The word after the call is none of the
instructions. -/
def stretch : Image where
  words := #[0, 0x27840004, 0xAF840014, 0x0C000040, 0xFFFFFFFF]

/-- The probe that begins two words before a call, with `$gp` at the start of memory. -/
def fromStart : CallProbe := ⟨2, [(.gp, 0x80000000)]⟩

/-- The store that fails is reported all the same. -/
theorem proceeds_stretch :
    fromStart.Proceeds stretch 3 ∧
      ∃ o, fromStart.run stretch 3 = .ok o ∧ o.stored = [0x80000004] :=
  ⟨proceeds_straight fromStart stretch 3 (by decide) (by decide) (by decide), _, by rfl,
    by decide +kernel⟩

end CallProbe
end PadScout
