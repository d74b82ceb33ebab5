import Mathlib.Data.List.Perm.Basic
import PadScout.Proofs.Json.Record

/-! # What makes a record

Reading a record succeeds in one way (`record?_eq_some_iff`).  An object gives each field under
its name, at most once, and its other members are passed over; an array gives the fields in their
order, from the first on.  So the members of an object may be put in another order, and members
under names that are no fields may come and go (`Alike`): the fields stay what they are
(`HasFields.of_alike`).  The same is said of the values that fields have.
-/
namespace PadScout
namespace Json

variable {α β : Type}

/-! ## Lists of readings -/

theorem collect_eq_some_iff {f : α → Option β} {as : List α} {bs : List β} :
    collect f as = some bs ↔ List.Forall₂ (fun a b => f a = some b) as bs := by
  refine ⟨fun h => ?_, collect_of_forall₂⟩
  induction as generalizing bs with
  | nil =>
    cases h
    exact .nil
  | cons a as ih =>
    rw [collect] at h
    split at h
    · cases h
    · next b hb =>
      obtain ⟨rest, hrest, rfl⟩ := Option.map_eq_some_iff.1 h
      exact .cons hb (ih hrest)

theorem exists_of_forall₂ {R : α → β → Prop} {as : List α} {bs : List β}
    (h : List.Forall₂ R as bs) {a : α} (ha : a ∈ as) : ∃ b, R a b := by
  induction h with
  | nil => cases ha
  | @cons _ b _ _ hab _ ih =>
    rcases List.mem_cons.1 ha with rfl | ha
    · exact ⟨b, hab⟩
    · exact ih ha

theorem field?_eq_some_iff {members : List Member} {name : String} {field : Option Json} :
    field? members name = some field ↔ valuesOf name.toList members = field.toList := by
  rw [field?]
  generalize valuesOf name.toList members = values
  cases values with
  | nil => cases field <;> simp
  | cons v rest => cases rest <;> cases field <;> simp

theorem pad_eq_some_iff {n : Nat} {vs : List Json} {fields : List (Option Json)} :
    pad n vs = some fields ↔
      vs.length ≤ n ∧ fields = vs.map some ++ List.replicate (n - vs.length) none := by
  induction n generalizing vs fields with
  | zero =>
    cases vs with
    | nil => simp [pad, eq_comm]
    | cons v vs => simp [pad]
  | succ n ih =>
    cases vs with
    | nil =>
      have hrest : pad n [] = some (List.replicate n none) := ih.2 ⟨Nat.zero_le n, rfl⟩
      simp [pad, hrest, List.replicate_succ, eq_comm]
    | cons v vs =>
      rw [pad, Option.map_eq_some_iff]
      simp only [ih, List.length_cons, Nat.add_le_add_iff_right, Nat.add_sub_add_right,
        List.map_cons, List.cons_append]
      constructor
      · rintro ⟨rest, ⟨hlength, rfl⟩, rfl⟩
        exact ⟨hlength, rfl⟩
      · rintro ⟨hlength, rfl⟩
        exact ⟨_, ⟨hlength, rfl⟩, rfl⟩

/-! ## The fields of a record -/

/-- **The fields that a value gives a record.**  In an object a field is what stands under its
name, and a name may be missing but not repeated; every name must be a text. -/
def HasFields (names : List String) : Json → List (Option Json) → Prop
  | .object ms, fields => (∀ m ∈ ms, m.1 ≠ none) ∧
      List.Forall₂ (fun name field => valuesOf name.toList ms = field.toList) names fields
  | .array vs, fields => vs.length ≤ names.length ∧
      fields = vs.map some ++ List.replicate (names.length - vs.length) none
  | _, _ => False

/-- **Reading a record** finds the fields that it is given, and nothing else. -/
theorem record?_eq_some_iff {names : List String} {v : Json} {fields : List (Option Json)} :
    record? names v = some fields ↔ HasFields names v fields := by
  cases v with
  | null | bool | number | text => simp [record?, HasFields]
  | array vs => exact pad_eq_some_iff
  | object ms =>
    have hnames : (ms.all fun m => m.1.isSome) = true ↔ ∀ m ∈ ms, m.1 ≠ none := by
      simp only [List.all_eq_true, ← Option.isSome_iff_ne_none]
    have hfields : List.Forall₂ (fun name field => field? ms name = some field) names fields ↔
        List.Forall₂ (fun name field => valuesOf name.toList ms = field.toList) names fields :=
      ⟨fun h => h.imp fun _ _ => field?_eq_some_iff.1, fun h => h.imp fun _ _ => field?_eq_some_iff.2⟩
    rw [record?, HasFields, ← hnames, ← hfields, ← collect_eq_some_iff]
    by_cases hall : (ms.all fun m => m.1.isSome) = true
    · rw [if_pos hall]
      exact (and_iff_right hall).symm
    · rw [if_neg hall]
      simp [hall]

theorem mem_valuesOf {name : List Char} {v : Json} {ms : List Member} :
    v ∈ valuesOf name ms ↔ (some name, v) ∈ ms := by
  simp only [valuesOf, List.mem_filterMap, Option.ite_none_right_eq_some, Option.some.injEq]
  constructor
  · rintro ⟨⟨_, _⟩, hm, rfl, rfl⟩
    exact hm
  · intro hm
    exact ⟨_, hm, rfl, rfl⟩

/-- **No name of a field is repeated.** -/
theorem HasFields.length_valuesOf_le {names : List String} {ms : List Member}
    {fields : List (Option Json)} (h : HasFields names (.object ms) fields) {name : String}
    (hname : name ∈ names) : (valuesOf name.toList ms).length ≤ 1 := by
  obtain ⟨field, hvalues⟩ := exists_of_forall₂ h.2 hname
  rw [hvalues]
  cases field <;> simp

/-! ## Members in another order, beside other members -/

/-- A member under the name of a field. -/
def Known (names : List String) (m : Member) : Prop := ∃ name ∈ names, m.1 = some name.toList

instance (names : List String) (m : Member) : Decidable (Known names m) :=
  inferInstanceAs (Decidable (∃ name ∈ names, m.1 = some name.toList))

/-- **Objects that differ in nothing that counts**: their members under the names of fields are
the same but for their order, with values that are related by `R`.  All names are texts. -/
structure Alike (R : Json → Json → Prop) (names : List String) (ms ms' : List Member) : Prop where
  left : ∀ m ∈ ms, m.1 ≠ none
  right : ∀ m ∈ ms', m.1 ≠ none
  known : ∃ l, (ms.filter (Known names ·)).Perm l ∧
    List.Forall₂ (fun m m' => m.1 = m'.1 ∧ R m.2 m'.2) l (ms'.filter (Known names ·))

section Alike
variable {R : Json → Json → Prop} {names : List String} {ms ms' : List Member}

theorem Alike.symm (hR : ∀ {v w}, R v w → R w v) (h : Alike R names ms ms') :
    Alike R names ms' ms := by
  obtain ⟨hleft, hright, l, hperm, hrel⟩ := h
  obtain ⟨l', hrel', hperm'⟩ := List.perm_comp_forall₂ hperm hrel
  refine ⟨hright, hleft, l', hperm'.symm, ?_⟩
  exact hrel'.flip.imp fun m m' h => ⟨h.1.symm, hR h.2⟩

/-- Only known members have a value that is looked for. -/
theorem valuesOf_filter_known {name : String} (hname : name ∈ names) (ms : List Member) :
    valuesOf name.toList (ms.filter (Known names ·)) = valuesOf name.toList ms := by
  rw [valuesOf, valuesOf, List.filterMap_filter]
  refine List.filterMap_congr fun m _ => ?_
  by_cases hm : m.1 = some name.toList
  · rw [if_pos (decide_eq_true ⟨name, hname, hm⟩)]
  · rw [if_neg hm, ite_self]

theorem Alike.valuesOf (h : Alike R names ms ms') {name : String} (hname : name ∈ names) :
    ∃ l, (Json.valuesOf name.toList ms).Perm l ∧
      List.Forall₂ R l (Json.valuesOf name.toList ms') := by
  obtain ⟨l, hperm, hrel⟩ := h.known
  refine ⟨Json.valuesOf name.toList l, ?_, ?_⟩
  · rw [← valuesOf_filter_known hname ms]
    exact hperm.filterMap _
  · rw [← valuesOf_filter_known hname ms']
    refine List.rel_filterMap (fun m m' hm => ?_) hrel
    rw [hm.1]
    split
    · exact .some hm.2
    · exact .none

/-- **The fields stay what they are.** -/
theorem HasFields.of_alike {fields : List (Option Json)} (h : HasFields names (.object ms) fields)
    (halike : Alike R names ms ms') :
    ∃ fields', HasFields names (.object ms') fields' ∧
      List.Forall₂ (Option.Rel R) fields fields' := by
  have hfield : ∀ name ∈ names, ∀ field : Option Json,
      Json.valuesOf name.toList ms = field.toList → ∃ field' : Option Json,
        Json.valuesOf name.toList ms' = field'.toList ∧ Option.Rel R field field' := by
    intro name hname field hvalues
    obtain ⟨l, hperm, hrel⟩ := halike.valuesOf hname
    rw [hvalues] at hperm
    cases field with
    | none =>
      rw [Option.toList_none, List.nil_perm] at hperm
      subst hperm
      exact ⟨none, List.forall₂_nil_left_iff.1 hrel, .none⟩
    | some v =>
      rw [Option.toList_some, List.singleton_perm] at hperm
      subst hperm
      obtain ⟨v', rest, hv, hrest, heq⟩ := List.forall₂_cons_left_iff.1 hrel
      rw [List.forall₂_nil_left_iff.1 hrest] at heq
      exact ⟨some v', heq, .some hv⟩
  suffices hsub : ∀ sub ⊆ names, ∀ fields : List (Option Json),
      List.Forall₂ (fun name field => Json.valuesOf name.toList ms = field.toList) sub fields →
      ∃ fields', List.Forall₂ (fun name field => Json.valuesOf name.toList ms' = field.toList) sub
        fields' ∧ List.Forall₂ (Option.Rel R) fields fields' by
    obtain ⟨fields', hfields', hrel⟩ := hsub names (List.Subset.refl names) fields h.2
    exact ⟨fields', ⟨halike.right, hfields'⟩, hrel⟩
  intro sub hsub fields hfields
  induction hfields with
  | nil => exact ⟨[], .nil, .nil⟩
  | @cons name field sub fields hvalues _ ih =>
    rw [List.cons_subset] at hsub
    obtain ⟨field', hvalues', hrel⟩ := hfield name hsub.1 field hvalues
    obtain ⟨fields', hfields', hrels⟩ := ih hsub.2
    exact ⟨field' :: fields', .cons hvalues' hfields', .cons hrel hrels⟩

end Alike

/-! ## Values of fields -/

theorem required_eq_some_iff {read : Json → Option α} {field : Option Json} {a : α} :
    required read field = some a ↔ ∃ v, field = some v ∧ read v = some a :=
  Option.bind_eq_some_iff

theorem optional_eq_some_iff {read : Json → Option α} {default a : α} {field : Option Json} :
    optional read default field = some a ↔
      field = none ∧ a = default ∨ ∃ v, field = some v ∧ read v = some a := by
  cases field <;> simp [optional, eq_comm]

theorem natBelow?_eq_some_iff {limit n : Nat} {v : Json} :
    natBelow? limit v = some n ↔ v = .ofNat n ∧ n < limit := by
  cases v with
  | number m =>
    obtain ⟨negative, whole, fraction, exponent⟩ := m
    simp only [natBelow?, Numeral.natural?, Option.bind_eq_some_iff, Option.ite_none_right_eq_some,
      Option.some.injEq, ofNat, Numeral.ofNat, number.injEq, Numeral.mk.injEq]
    constructor
    · rintro ⟨_, ⟨⟨rfl, rfl, rfl⟩, rfl⟩, hlimit, rfl⟩
      exact ⟨⟨rfl, rfl, rfl, rfl⟩, hlimit⟩
    · rintro ⟨⟨rfl, rfl, rfl, rfl⟩, hlimit⟩
      exact ⟨_, ⟨⟨rfl, rfl, rfl⟩, rfl⟩, hlimit, rfl⟩
  | null | bool | text | array | object => simp [natBelow?, ofNat]

theorem word32?_eq_some_iff {v : Json} {w : UInt32} :
    word32? v = some w ↔ v = .ofNat w.toNat := by
  simp only [word32?, Option.map_eq_some_iff, natBelow?_eq_some_iff]
  constructor
  · rintro ⟨n, ⟨rfl, hn⟩, rfl⟩
    rw [UInt32.toNat_ofNat_of_lt' hn]
  · rintro rfl
    exact ⟨_, ⟨rfl, w.toNat_lt_size⟩, UInt32.ofNat_toNat⟩

theorem word64?_eq_some_iff {v : Json} {w : UInt64} :
    word64? v = some w ↔ v = .ofNat w.toNat := by
  simp only [word64?, Option.map_eq_some_iff, natBelow?_eq_some_iff]
  constructor
  · rintro ⟨n, ⟨rfl, hn⟩, rfl⟩
    rw [UInt64.toNat_ofNat_of_lt' hn]
  · rintro rfl
    exact ⟨_, ⟨rfl, w.toNat_lt_size⟩, UInt64.ofNat_toNat⟩

theorem string?_eq_some_iff {v : Json} {s : String} : string? v = some s ↔ v = .ofString s := by
  refine ⟨fun h => ?_, fun h => h ▸ string?_ofString s⟩
  unfold string? at h
  split at h
  · cases h
    rw [ofString, String.toList_ofList]
  · cases h

theorem choice?_eq_some_iff {v : Json} {s : String} :
    choice? v = some s ↔ v = .ofString s ∨ v = .object [(some s.toList, .null)] := by
  constructor
  · intro h
    unfold choice? at h
    split at h
    · cases h
      exact Or.inl (by rw [ofString, String.toList_ofList])
    · cases h
      exact Or.inr (by rw [String.toList_ofList])
    · cases h
  · rintro (rfl | rfl)
    · exact choice?_ofString s
    · rw [choice?, String.ofList_toList]

theorem nullable?_eq_some_iff {read : Json → Option α} (hread : read .null = none) {v : Json}
    {a : Option α} : nullable? read v = some a ↔
      v = .null ∧ a = none ∨ ∃ b, a = some b ∧ read v = some b := by
  cases v with
  | null => simp [nullable?, hread, eq_comm]
  | bool | number | text | array | object =>
    simp only [nullable?, Option.map_eq_some_iff, reduceCtorEq, false_and, false_or]
    exact exists_congr fun b => by rw [and_comm, eq_comm]

theorem list?_eq_some_iff {read : Json → Option α} {v : Json} {l : List α} :
    list? read v = some l ↔
      ∃ vs, v = .array vs ∧ List.Forall₂ (fun v a => read v = some a) vs l := by
  cases v with
  | array vs => simp [list?, collect_eq_some_iff]
  | null | bool | number | text | object => simp [list?]

end Json
end PadScout
