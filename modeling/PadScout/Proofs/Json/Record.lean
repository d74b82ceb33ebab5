import Mathlib.Data.List.Forall2
import PadScout.Json.Record
import PadScout.Proofs.Json.Printing

/-! # Records are read back

The fields of a record that is written as an object are read back in the order of their
names (`record?_object`), if no two fields have the same name, and so are the values that
fields have: numbers of a machine's size, texts, lists.
-/
namespace PadScout
namespace Json

variable {α β : Type}

/-! ## Fields -/

/-- The members of an object, given the names and the values of fields. -/
theorem zip_eq_map (names : List String) (values : List Json) :
    (names.map fun name => some name.toList).zip values =
      (names.zip values).map fun field => (some field.1.toList, field.2) := by
  rw [List.zip_map_left]
  rfl

theorem valuesOf_of_notMem {name : String} {fields : List (String × Json)}
    (h : name ∉ fields.map Prod.fst) :
    valuesOf name.toList (fields.map fun field => (some field.1.toList, field.2)) = [] := by
  rw [valuesOf, List.filterMap_eq_nil_iff]
  intro m hm
  obtain ⟨field, hfield, rfl⟩ := List.mem_map.1 hm
  refine if_neg fun heq => h (List.mem_map.2 ⟨field, hfield, ?_⟩)
  exact String.toList_inj.1 (Option.some.inj heq)

/-- Under a name that occurs once there is one value. -/
theorem valuesOf_of_mem {name : String} {v : Json} {fields : List (String × Json)}
    (hnames : (fields.map Prod.fst).Nodup) (h : (name, v) ∈ fields) :
    valuesOf name.toList (fields.map fun field => (some field.1.toList, field.2)) = [v] := by
  induction fields with
  | nil => cases h
  | cons field fields ih =>
    rw [List.map_cons, List.nodup_cons] at hnames
    have hrest := valuesOf_of_notMem hnames.1
    unfold valuesOf at hrest ih ⊢
    rw [List.map_cons, List.filterMap_cons]
    rcases List.mem_cons.1 h with rfl | h
    · rw [if_pos rfl, hrest]
    · have hne : field.1 ≠ name := by
        rintro rfl
        exact hnames.1 (List.mem_map.2 ⟨(field.1, v), h, rfl⟩)
      have hne' : some field.1.toList ≠ some name.toList := fun heq =>
        hne (String.toList_inj.1 (Option.some.inj heq))
      rw [if_neg hne', ih hnames.2 h]

theorem collect_of_forall₂ {f : α → Option β} {as : List α} {bs : List β}
    (h : List.Forall₂ (fun a b => f a = some b) as bs) : collect f as = some bs := by
  induction h with
  | nil => rfl
  | cons hab _ ih =>
    rw [collect, hab, ih]
    rfl

/-- **The fields of a record** are found under their names. -/
theorem record?_object {names : List String} {values : List Json} (hnames : names.Nodup)
    (hlength : names.length = values.length) :
    record? names (.object ((names.map fun name => some name.toList).zip values)) =
      some (values.map some) := by
  have hfst : ((names.zip values).map Prod.fst).Nodup := by
    rwa [List.map_fst_zip (Nat.le_of_eq hlength)]
  rw [zip_eq_map, record?, if_pos (by simp [List.all_eq_true])]
  refine collect_of_forall₂ (List.forall₂_iff_zip.2 ⟨by rw [List.length_map, hlength], ?_⟩)
  intro name field hfield
  rw [List.zip_map_right, List.mem_map] at hfield
  obtain ⟨⟨other, v⟩, hmem, heq⟩ := hfield
  obtain ⟨rfl, rfl⟩ := Prod.mk.inj heq
  rw [id, field?, valuesOf_of_mem hfst hmem]

theorem isWhole_object {names : List String} {values : List Json} (h : ∀ v ∈ values, IsWhole v) :
    IsWhole (.object ((names.map fun name => some name.toList).zip values)) :=
  .object _ fun _ hm => h _ (List.of_mem_zip hm).2

/-! ## Values of fields -/

theorem natBelow?_ofNat {limit n : Nat} (h : n < limit) : natBelow? limit (.ofNat n) = some n := by
  simp [natBelow?, ofNat, Numeral.natural?, Numeral.ofNat, h]

@[simp] theorem word32?_ofNat (w : UInt32) : word32? (.ofNat w.toNat) = some w := by
  rw [word32?, natBelow?_ofNat w.toNat_lt_size, Option.map_some, UInt32.ofNat_toNat]

@[simp] theorem word64?_ofNat (w : UInt64) : word64? (.ofNat w.toNat) = some w := by
  rw [word64?, natBelow?_ofNat w.toNat_lt_size, Option.map_some, UInt64.ofNat_toNat]

@[simp] theorem string?_ofString (s : String) : string? (.ofString s) = some s := by
  rw [ofString, string?, String.ofList_toList]

@[simp] theorem choice?_ofString (s : String) : choice? (.ofString s) = some s := by
  rw [ofString, choice?, String.ofList_toList]

/-- A list is read back if its elements are. -/
theorem list?_array {read : Json → Option α} {write : α → Json}
    (h : ∀ a, read (write a) = some a) (l : List α) : list? read (.array (l.map write)) = some l := by
  refine collect_of_forall₂ (List.forall₂_map_left_iff.2 (List.forall₂_same.2 fun a _ => h a))

end Json
end PadScout
