import PadScout.Text.Hex

/-! # Addresses

Addresses of the host: 64-bit numbers.  Sums wrap around unless they are asked
for by `Address.add?`.  `Address.stride` lists the addresses at equal distances
from a start up to an end, without ever wrapping around.
-/
namespace PadScout

/-- An address in a host process. -/
structure Address where
  value : UInt64
deriving DecidableEq

namespace Address

instance : LT Address := ⟨fun a b => a.value < b.value⟩

instance : LE Address := ⟨fun a b => a.value ≤ b.value⟩

instance (a b : Address) : Decidable (a < b) := inferInstanceAs (Decidable (a.value < b.value))

instance (a b : Address) : Decidable (a ≤ b) := inferInstanceAs (Decidable (a.value ≤ b.value))

/-- The address at a distance, wrapping around at the end of the space. -/
def plus (a : Address) (distance : UInt64) : Address := ⟨a.value + distance⟩

/-- The address at a distance, if the space reaches so far. -/
def add? (a : Address) (distance : UInt64) : Option Address :=
  if a.value.toNat + distance.toNat < UInt64.size then some (a.plus distance) else none

/-- The next address of a stride; a step of nothing counts as one. -/
def next? (a : Address) (step : UInt64) : Option Address := a.add? (max step 1)

theorem toNat_max_one (step : UInt64) : (max step 1).toNat = max step.toNat 1 := by
  have hle : step ≤ 1 ↔ step.toNat ≤ 1 := UInt64.le_iff_toNat_le
  change (if step ≤ 1 then (1 : UInt64) else step).toNat = if step.toNat ≤ 1 then 1 else step.toNat
  by_cases h : step ≤ 1
  · rw [if_pos h, if_pos (hle.1 h)]
    rfl
  · rw [if_neg h, if_neg (mt hle.2 h)]

theorem lt_of_next? {a b : Address} {step : UInt64} (h : a.next? step = some b) :
    a.value.toNat < b.value.toNat := by
  unfold next? add? at h
  split at h
  · next hsum =>
    cases h
    rw [toNat_max_one] at hsum
    rw [plus, UInt64.toNat_add, toNat_max_one, Nat.mod_eq_of_lt hsum]
    omega
  · cases h

/-- **The addresses `start`, `start + step`, … below `stop`.** -/
def stride (start stop : Address) (step : UInt64) : List Address :=
  if start < stop then
    start :: match _h : start.next? step with
      | some a => stride a stop step
      | none => []
  else []
termination_by UInt64.size - start.value.toNat
decreasing_by
  have := lt_of_next? _h
  have := a.value.toNat_lt_size
  omega

theorem stride_of_not_lt {start stop : Address} (h : ¬ start < stop) (step : UInt64) :
    stride start stop step = [] := by
  rw [stride, if_neg h]

theorem stride_of_next?_eq_some {start stop a : Address} {step : UInt64} (h : start < stop)
    (hnext : start.next? step = some a) :
    stride start stop step = start :: stride a stop step := by
  rw [stride, if_pos h]
  congr 1
  split
  · next b hb => exact congrArg (stride · stop step) (Option.some.inj (hb.symm.trans hnext))
  · next hb => exact absurd (hb.symm.trans hnext) (by simp)

theorem stride_of_next?_eq_none {start stop : Address} {step : UInt64} (h : start < stop)
    (hnext : start.next? step = none) : stride start stop step = [start] := by
  rw [stride, if_pos h]
  congr 1
  split
  · next b hb => exact absurd (hb.symm.trans hnext) (by simp)
  · rfl

/-- The first addresses of a stride, at most as many as asked for. -/
def strideTake (stop : Address) (step : UInt64) : Nat → Address → List Address
  | 0, _ => []
  | n + 1, start =>
    if start < stop then
      start :: match start.next? step with
        | some a => strideTake stop step n a
        | none => []
    else []

/-- Twelve digits at least. -/
def text (a : Address) : String := Hex.markedWide 12 a.value.toNat

end Address

end PadScout
