import Mathlib.Data.List.Forall2
import PadScout.Proofs.Dialogue

/-! # Searches

A search looks at elements in turn and ends with the first that yields something
(`firstSome`).  In a run of it, all elements before that one have been looked at and have
yielded nothing, and the exchanges are those of the single looks, one after the other
(`Searched`, `runs_firstSome`).
-/
namespace PadScout

/-- An element is the first of a list that has a property. -/
def FirstOf {α : Type} (p : α → Prop) (as : List α) (a : α) : Prop :=
  ∃ before after, as = before ++ a :: after ∧ p a ∧ ∀ b ∈ before, ¬ p b

theorem find?_eq_some_iff_firstOf {α : Type} {test : α → Bool} {p : α → Prop}
    (h : ∀ a, test a = true ↔ p a) {as : List α} {a : α} :
    as.find? test = some a ↔ FirstOf p as a := by
  rw [List.find?_eq_some_iff_append]
  constructor
  · rintro ⟨ha, before, after, rfl, hbefore⟩
    refine ⟨before, after, rfl, (h a).1 ha, fun b hb hpb => ?_⟩
    have htest := hbefore b hb
    rw [(h b).2 hpb] at htest
    cases htest
  · rintro ⟨before, after, rfl, ha, hbefore⟩
    refine ⟨(h a).2 ha, before, after, rfl, fun b hb => ?_⟩
    have htest : ¬ test b = true := fun ht => hbefore b hb ((h b).1 ht)
    rw [Bool.not_eq_true] at htest
    rw [htest]
    rfl

theorem FirstOf.unique {α : Type} {p : α → Prop} {as : List α} {a b : α} (ha : FirstOf p as a)
    (hb : FirstOf p as b) : a = b := by
  classical
  have hfind : ∀ c, as.find? (fun a => decide (p a)) = some c ↔ FirstOf p as c :=
    fun c => find?_eq_some_iff_firstOf fun a => decide_eq_true_iff
  exact Option.some.inj (((hfind a).2 ha).symm.trans ((hfind b).2 hb))

theorem FirstOf.mem {α : Type} {p : α → Prop} {as : List α} {a : α} (h : FirstOf p as a) :
    a ∈ as := by
  obtain ⟨before, after, rfl, -, -⟩ := h
  exact List.mem_append_right _ List.mem_cons_self

theorem FirstOf.has {α : Type} {p : α → Prop} {as : List α} {a : α} (h : FirstOf p as a) :
    p a := by
  obtain ⟨-, -, -, ha, -⟩ := h
  exact ha

/-- An element without the property does not change which is the first. -/
theorem FirstOf.cons {α : Type} {p : α → Prop} {as : List α} {a b : α} (hb : ¬ p b)
    (h : FirstOf p as a) : FirstOf p (b :: as) a := by
  obtain ⟨before, after, rfl, ha, hbefore⟩ := h
  refine ⟨b :: before, after, rfl, ha, fun c hc => ?_⟩
  rcases List.mem_cons.1 hc with rfl | hc
  · exact hb
  · exact hbefore c hc

/-- An element without the property in front can be left out. -/
theorem FirstOf.tail {α : Type} {p : α → Prop} {as : List α} {a b : α} (hb : ¬ p b)
    (h : FirstOf p (b :: as) a) : FirstOf p as a := by
  obtain ⟨before, after, hsplit, ha, hbefore⟩ := h
  cases before with
  | nil =>
    cases hsplit
    exact absurd ha hb
  | cons c before =>
    obtain ⟨-, rfl⟩ := List.cons.inj hsplit
    exact ⟨before, after, rfl, ha, fun d hd => hbefore d (List.mem_cons_of_mem _ hd)⟩

/-- The first of those that are kept is the first that is kept and has the property. -/
theorem firstOf_filter_iff {α : Type} {p q : α → Prop} [DecidablePred q] {as : List α} {a : α} :
    FirstOf p (as.filter fun a => decide (q a)) a ↔ FirstOf (fun a => q a ∧ p a) as a := by
  classical
  rw [← find?_eq_some_iff_firstOf fun _ => decide_eq_true_iff, List.find?_filter]
  exact find?_eq_some_iff_firstOf fun _ => by simp only [decide_eq_true_eq]

namespace Dialogue

variable {I : Interface} {α β : Type}

/-- Looks at elements in turn until one of them yields something. -/
def firstSome (look : α → Dialogue I (Option β)) : List α → Dialogue I (Option β)
  | [] => done none
  | a :: as => look a >>= fun
    | some b => done (some b)
    | none => firstSome look as

/-- **A search in order**, given what can come of looking at one element.  Without a result
every element has been looked at in vain; otherwise those before the one that yields the
result have, and those behind it have not been looked at. -/
def Searched (looked : α → List (Exchange I) → Option β → Prop) (as : List α)
    (es : List (Exchange I)) : Option β → Prop
  | none => ∃ blocks, List.Forall₂ (fun a block => looked a block none) as blocks ∧
      es = blocks.flatten
  | some b => ∃ before a after blocks last, as = before ++ a :: after ∧
      List.Forall₂ (fun a block => looked a block none) before blocks ∧
      looked a last (some b) ∧ es = blocks.flatten ++ last

section
variable {looked : α → List (Exchange I) → Option β → Prop} {es : List (Exchange I)}

theorem searched_nil_iff {x : Option β} : Searched looked [] es x ↔ es = [] ∧ x = none := by
  constructor
  · intro h
    cases x with
    | none =>
      obtain ⟨blocks, hblocks, rfl⟩ := h
      cases hblocks
      exact ⟨rfl, rfl⟩
    | some b =>
      obtain ⟨before, a, after, -, -, hsplit, -⟩ := h
      exact absurd hsplit.symm (by simp)
  · rintro ⟨rfl, rfl⟩
    exact ⟨[], .nil, rfl⟩

/-- The first element decides, or the search goes on behind it. -/
theorem searched_cons_iff {a : α} {as : List α} {x : Option β} :
    Searched looked (a :: as) es x ↔ (∃ b, looked a es (some b) ∧ x = some b) ∨
      ∃ block rest, es = block ++ rest ∧ looked a block none ∧ Searched looked as rest x := by
  constructor
  · intro h
    cases x with
    | none =>
      obtain ⟨blocks, hblocks, rfl⟩ := h
      obtain ⟨block, rest, hblock, hrest, rfl⟩ := List.forall₂_cons_left_iff.1 hblocks
      exact Or.inr ⟨block, rest.flatten, rfl, hblock, rest, hrest, rfl⟩
    | some b =>
      obtain ⟨before, c, after, blocks, last, hsplit, hblocks, hlast, rfl⟩ := h
      cases before with
      | nil =>
        cases hblocks
        cases hsplit
        exact Or.inl ⟨b, hlast, rfl⟩
      | cons d before =>
        obtain ⟨rfl, rfl⟩ := List.cons.inj hsplit
        obtain ⟨block, rest, hblock, hrest, rfl⟩ := List.forall₂_cons_left_iff.1 hblocks
        refine Or.inr ⟨block, rest.flatten ++ last, ?_, hblock, ?_⟩
        · rw [List.flatten_cons, List.append_assoc]
        · exact ⟨before, c, after, rest, last, rfl, hrest, hlast, rfl⟩
  · rintro (⟨b, hlook, rfl⟩ | ⟨block, rest, rfl, hblock, hrest⟩)
    · exact ⟨[], a, as, [], es, rfl, .nil, hlook, rfl⟩
    · cases x with
      | none =>
        obtain ⟨blocks, hblocks, rfl⟩ := hrest
        exact ⟨block :: blocks, .cons hblock hblocks, rfl⟩
      | some b =>
        obtain ⟨before, c, after, blocks, last, rfl, hblocks, hlast, rfl⟩ := hrest
        refine ⟨a :: before, c, after, block :: blocks, last, rfl, .cons hblock hblocks, hlast, ?_⟩
        rw [List.flatten_cons, List.append_assoc]

/-- **Runs of a search.** -/
theorem runs_firstSome {look : α → Dialogue I (Option β)}
    (hlook : ∀ a es x, Runs (look a) es x ↔ looked a es x) {as : List α} {x : Option β} :
    Runs (firstSome look as) es x ↔ Searched looked as es x := by
  induction as generalizing es with
  | nil => exact runs_done_iff.trans searched_nil_iff.symm
  | cons a as ih =>
    rw [firstSome, runs_bind, searched_cons_iff]
    constructor
    · rintro ⟨block, rest, found, rfl, hblock, hrest⟩
      rw [hlook] at hblock
      cases found with
      | none => exact Or.inr ⟨block, rest, rfl, hblock, ih.1 hrest⟩
      | some b =>
        obtain ⟨rfl, rfl⟩ := runs_done_iff.1 hrest
        exact Or.inl ⟨b, by rwa [List.append_nil], rfl⟩
    · rintro (⟨b, hblock, rfl⟩ | ⟨block, rest, rfl, hblock, hrest⟩)
      · exact ⟨es, [], some b, (List.append_nil es).symm, (hlook _ _ _).2 hblock, .done _⟩
      · exact ⟨block, rest, none, rfl, (hlook _ _ _).2 hblock, ih.2 hrest⟩

end

end Dialogue
end PadScout
