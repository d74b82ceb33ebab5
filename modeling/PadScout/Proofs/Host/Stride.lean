import PadScout.Host.Region

/-! # Addresses at equal distances

Sums that are asked for by `Address.add?` are those of numbers (`add?_eq_some_iff`), so a
stride consists of the numbers `start`, `start + step`, … below its end, and a step of
nothing counts as one (`getElem?_stride`).  It is the whole `Progression` of these numbers
and no longer, even where the number behind the last one is no address
(`progression_stride`).
-/
namespace PadScout
namespace Address

theorem eq_of_toNat_eq {a b : Address} (h : a.value.toNat = b.value.toNat) : a = b :=
  congrArg Address.mk (UInt64.toNat_inj.1 h)

theorem lt_iff_toNat_lt {a b : Address} : a < b ↔ a.value.toNat < b.value.toNat :=
  UInt64.lt_iff_toNat_lt

theorem toNat_plus (a : Address) (distance : UInt64) :
    (a.plus distance).value.toNat = (a.value.toNat + distance.toNat) % UInt64.size :=
  UInt64.toNat_add _ _

/-- **Sums that fit into the space** are sums of numbers. -/
theorem add?_eq_some_iff {a b : Address} {distance : UInt64} :
    a.add? distance = some b ↔ b.value.toNat = a.value.toNat + distance.toNat := by
  rw [add?]
  split
  · next h =>
    rw [Option.some_inj]
    have hsum := toNat_plus a distance
    rw [Nat.mod_eq_of_lt h] at hsum
    constructor
    · rintro rfl
      exact hsum
    · intro hb
      exact eq_of_toNat_eq (hsum.trans hb.symm)
  · next h =>
    have hlt := b.value.toNat_lt_size
    constructor
    · intro hnone
      cases hnone
    · intro hb
      omega

theorem add?_eq_none_iff {a : Address} {distance : UInt64} :
    a.add? distance = none ↔ UInt64.size ≤ a.value.toNat + distance.toNat := by
  rw [add?, ite_eq_right_iff]
  constructor
  · intro h
    exact Nat.le_of_not_lt fun hlt => nomatch h hlt
  · intro h hlt
    omega

/-- A stride that starts at its end or behind it has no members. -/
theorem getElem?_stride_of_not_lt {start stop b : Address} (h : ¬ start < stop) {step : UInt64}
    {k : Nat} : (stride start stop step)[k]? = some b ↔
      b.value.toNat = start.value.toNat + k * max step.toNat 1 ∧
        b.value.toNat < stop.value.toNat := by
  rw [stride_of_not_lt h, List.getElem?_nil]
  rw [lt_iff_toNat_lt] at h
  constructor
  · intro hnone
    cases hnone
  · rintro ⟨heq, hb⟩
    omega

/-- **The members of a stride**, as numbers. -/
theorem getElem?_stride {start stop b : Address} {step : UInt64} {k : Nat} :
    (stride start stop step)[k]? = some b ↔
      b.value.toNat = start.value.toNat + k * max step.toNat 1 ∧
        b.value.toNat < stop.value.toNat := by
  induction k generalizing start with
  | zero =>
    by_cases hlt : start < stop
    · have hhead : (stride start stop step)[0]? = some start := by
        cases hnext : start.next? step with
        | some a => rw [stride_of_next?_eq_some hlt hnext, List.getElem?_cons_zero]
        | none => rw [stride_of_next?_eq_none hlt hnext, List.getElem?_cons_zero]
      rw [hhead, Option.some_inj, Nat.zero_mul, Nat.add_zero]
      constructor
      · rintro rfl
        exact ⟨rfl, lt_iff_toNat_lt.1 hlt⟩
      · rintro ⟨heq, -⟩
        exact (eq_of_toNat_eq heq).symm
    · exact getElem?_stride_of_not_lt hlt
  | succ k ih =>
    by_cases hlt : start < stop
    · cases hnext : start.next? step with
      | some a =>
        have ha := add?_eq_some_iff.1 hnext
        rw [toNat_max_one] at ha
        rw [stride_of_next?_eq_some hlt hnext, List.getElem?_cons_succ, ih, ha, Nat.succ_mul]
        constructor <;> rintro ⟨heq, hb⟩ <;> exact ⟨by omega, hb⟩
      | none =>
        have hend := add?_eq_none_iff.1 hnext
        have hb := b.value.toNat_lt_size
        rw [toNat_max_one] at hend
        rw [stride_of_next?_eq_none hlt hnext, List.getElem?_cons_succ, List.getElem?_nil,
          Nat.succ_mul]
        constructor
        · intro hnone
          cases hnone
        · rintro ⟨heq, -⟩
          omega
    · exact getElem?_stride_of_not_lt hlt

theorem stride_eq_nil_iff {start stop : Address} {step : UInt64} :
    stride start stop step = [] ↔ stop ≤ start := by
  have hle : stop ≤ start ↔ stop.value.toNat ≤ start.value.toNat := UInt64.le_iff_toNat_le
  rw [hle, ← Nat.not_lt, ← lt_iff_toNat_lt]
  constructor
  · intro hnil hlt
    rw [stride, if_pos hlt] at hnil
    cases hnil
  · intro hlt
    exact stride_of_not_lt hlt step

/-- **The first members of a stride** can be had without the others. -/
theorem strideTake_eq_take (start stop : Address) (step : UInt64) (n : Nat) :
    strideTake stop step n start = (stride start stop step).take n := by
  induction n generalizing start with
  | zero => rfl
  | succ n ih =>
    rw [strideTake]
    by_cases hlt : start < stop
    · rw [if_pos hlt]
      cases hnext : start.next? step with
      | some a => rw [stride_of_next?_eq_some hlt hnext, List.take_succ_cons, ← ih]
      | none => rw [stride_of_next?_eq_none hlt hnext, List.take_succ_cons, List.take_nil]
    · rw [if_neg hlt, stride_of_not_lt hlt, List.take_nil]

/-! ## Progressions -/

/-- **The numbers `start`, `start + distance`, … that are below `stop`**, all of them and in
this order. -/
structure Progression (start stop distance : Nat) (numbers : List Nat) : Prop where
  /-- Number `k` is `k` distances away from the start, as long as that is below the end. -/
  term : ∀ k, numbers[k]? =
    if start + k * distance < stop then some (start + k * distance) else none
  mem_iff : ∀ n, n ∈ numbers ↔ n < stop ∧ ∃ k, n = start + k * distance
  ascending : numbers.Pairwise (· < ·)
  /-- The way to the end, in distances, rounded up. -/
  length_eq : numbers.length = (stop - start + (distance - 1)) / distance

section Progression
variable {start stop distance : Nat} {numbers : List Nat}

/-- The rounded quotient counts the distances that fit between the start and the end. -/
theorem lt_quotient_iff (hdistance : 0 < distance) (k : Nat) :
    k < (stop - start + (distance - 1)) / distance ↔ start + k * distance < stop := by
  have hdiv := Nat.le_div_iff_mul_le (x := k + 1) (y := stop - start + (distance - 1)) hdistance
  rw [Nat.succ_mul] at hdiv
  rw [← Nat.add_one_le_iff (n := k), hdiv]
  omega

variable (hterm : ∀ k, numbers[k]? =
  if start + k * distance < stop then some (start + k * distance) else none)
include hterm

theorem lt_length_iff_of_term (k : Nat) : k < numbers.length ↔ start + k * distance < stop := by
  rw [← Nat.not_le, ← List.getElem?_eq_none_iff, hterm k, ite_eq_right_iff]
  simp

theorem getElem_of_term {k : Nat} (hk : k < numbers.length) :
    numbers[k] = start + k * distance := by
  have hsome := hterm k
  rw [List.getElem?_eq_getElem hk, if_pos ((lt_length_iff_of_term hterm k).1 hk)] at hsome
  exact Option.some.inj hsome

/-- **The terms decide the rest.** -/
theorem progression_of_term (hdistance : 0 < distance) :
    Progression start stop distance numbers where
  term := hterm
  mem_iff n := by
    rw [List.mem_iff_getElem]
    constructor
    · rintro ⟨k, hk, rfl⟩
      rw [getElem_of_term hterm hk]
      exact ⟨(lt_length_iff_of_term hterm k).1 hk, k, rfl⟩
    · rintro ⟨hn, k, rfl⟩
      have hk := (lt_length_iff_of_term hterm k).2 hn
      exact ⟨k, hk, getElem_of_term hterm hk⟩
  ascending := by
    rw [List.pairwise_iff_getElem]
    intro i j hi hj hij
    rw [getElem_of_term hterm hi, getElem_of_term hterm hj]
    exact Nat.add_lt_add_left (Nat.mul_lt_mul_of_pos_right hij hdistance) start
  length_eq := by
    -- the length and the quotient have the same numbers below them
    have hsame : ∀ k, k < numbers.length ↔ k < (stop - start + (distance - 1)) / distance :=
      fun k => (lt_length_iff_of_term hterm k).trans (lt_quotient_iff hdistance k).symm
    apply Nat.le_antisymm
    · exact Nat.le_of_not_lt fun h => Nat.lt_irrefl _ ((hsame _).1 h)
    · exact Nat.le_of_not_lt fun h => Nat.lt_irrefl _ ((hsame _).2 h)

end Progression

/-- The terms of a stride; those below the end are addresses because the end is one. -/
theorem getElem?_map_toNat_stride (start stop : Address) (step : UInt64) (k : Nat) :
    ((stride start stop step).map fun a => a.value.toNat)[k]? =
      if start.value.toNat + k * max step.toNat 1 < stop.value.toNat then
        some (start.value.toNat + k * max step.toNat 1) else none := by
  rw [List.getElem?_map]
  split
  · next h =>
    have hfit : start.value.toNat + k * max step.toNat 1 < UInt64.size :=
      Nat.lt_trans h stop.value.toNat_lt_size
    let a : Address := ⟨UInt64.ofNat (start.value.toNat + k * max step.toNat 1)⟩
    have ha : a.value.toNat = start.value.toNat + k * max step.toNat 1 :=
      UInt64.toNat_ofNat_of_lt hfit
    rw [getElem?_stride.2 ⟨ha, ha ▸ h⟩, Option.map_some, ha]
  · next h =>
    rw [Option.map_eq_none_iff, Option.eq_none_iff_forall_ne_some]
    intro b hb
    obtain ⟨heq, hlt⟩ := getElem?_stride.1 hb
    exact h (heq ▸ hlt)

/-- **A stride ends with the last address**: it does not begin anew if the number behind one of
its members is no address. -/
theorem length_stride_of_next?_eq_none {start stop a : Address} {step : UInt64} {k : Nat}
    (ha : (stride start stop step)[k]? = some a) (hnext : a.next? step = none) :
    (stride start stop step).length = k + 1 := by
  obtain ⟨hvalue, -⟩ := getElem?_stride.1 ha
  have hend := add?_eq_none_iff.1 hnext
  rw [toNat_max_one] at hend
  have hnone : (stride start stop step)[k + 1]? = none := by
    rw [Option.eq_none_iff_forall_ne_some]
    intro b hb
    obtain ⟨hb, -⟩ := getElem?_stride.1 hb
    have hlt := b.value.toNat_lt_size
    rw [Nat.succ_mul] at hb
    omega
  have hle := List.getElem?_eq_none_iff.1 hnone
  obtain ⟨hlt, -⟩ := List.getElem?_eq_some_iff.1 ha
  omega

/-- **A stride is a progression of numbers.**  It has no members just when it starts at its
end or behind it, it ends where the next number is no address, and its first members are found
one after the other, however many are asked for. -/
theorem progression_stride (start stop : Address) (step : UInt64) :
    Progression start.value.toNat stop.value.toNat (max step.toNat 1)
        ((stride start stop step).map fun a => a.value.toNat) ∧
      (stride start stop step = [] ↔ stop ≤ start) ∧
      (∀ k a, (stride start stop step)[k]? = some a → a.next? step = none →
        (stride start stop step).length = k + 1) ∧
      ∀ n, strideTake stop step n start = (stride start stop step).take n :=
  ⟨progression_of_term (getElem?_map_toNat_stride start stop step) (Nat.le_max_right _ _),
    stride_eq_nil_iff, fun _ _ => length_stride_of_next?_eq_none,
    strideTake_eq_take start stop step⟩

/-- A stride whose next number would be no address. -/
example : strideTake ⟨0xFFFFFFFFFFFFFFFF⟩ 0xC 8 ⟨0xFFFFFFFFFFFFFFF0⟩ =
    [⟨0xFFFFFFFFFFFFFFF0⟩, ⟨0xFFFFFFFFFFFFFFFC⟩] := by decide

end Address

/-- The end of a module is counted with 64 bits, as its start is. -/
theorem Module.toNat_stop (m : Module) :
    m.stop.value.toNat = (m.base.value.toNat + m.size.toNat) % UInt64.size :=
  Address.toNat_plus _ _

end PadScout
