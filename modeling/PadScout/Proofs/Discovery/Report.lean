import PadScout.Discovery.Report

/-! # When reports succeed

A chain succeeds if each of its links does (`outcome_bind_eq_ok_iff`).  A refused site
does not end a search: all that the accepted sites contribute is kept
(`mem_of_survivors`), or the first accepted site decides (`firstSurvivor_eq_ok_iff`).
-/
namespace PadScout
namespace Report

variable {α β : Type}

/-- **A chain succeeds** if its links do. -/
theorem outcome_bind_eq_ok_iff {r : Report α} {next : α → Report β} {b : β} :
    (r >>= next).outcome = .ok b ↔ ∃ a, r.outcome = .ok a ∧ (next a).outcome = .ok b := by
  rw [outcome_bind]
  cases r.outcome <;> simp

/-- A remark between two links changes nothing. -/
@[simp] theorem outcome_debug_bind (message : Unit → String) (next : Unit → Report β) :
    (debug message >>= next).outcome = (next ()).outcome := by
  rw [outcome_bind, outcome_debug]

theorem outcome_ofSearch_eq_ok_iff {e : Except PatternError α} {a : α} :
    (ofSearch e).outcome = .ok a ↔ e = .ok a := by
  cases e <;> simp [ofSearch]

theorem outcome_ofProbe_eq_ok_iff {p : CallProbe} {m : Image} {site : Nat}
    {o : CallProbe.Outcome} : (ofProbe p m site).outcome = .ok o ↔ p.run m site = .ok o := by
  unfold ofProbe
  dsimp only
  cases p.run m site <;> simp

theorem outcome_ofProbe_of_error {p : CallProbe} {m : Image} {site : Nat} {f : Fault}
    (h : p.run m site = .error f) : (ofProbe p m site).outcome = .error (.probe f) := by
  rw [ofProbe, h]

/-! ## Searches -/

/-- What survives was contributed by an accepted site. -/
theorem mem_of_survivors {stage : Stage} {sites : List Nat} {attempt : Nat → Report (List α)}
    {l : List α} (h : (survivors stage sites attempt).outcome = .ok l) {a : α} (ha : a ∈ l) :
    ∃ site ∈ sites, ∃ contributed, (attempt site).outcome = .ok contributed ∧ a ∈ contributed := by
  unfold survivors at h
  dsimp only at h
  split at h
  · cases h
  · cases h
    obtain ⟨site, hsite, hmem⟩ := List.mem_flatMap.1 ha
    rw [members] at hmem
    split at hmem
    · rename_i contributed hok
      exact ⟨site, hsite, contributed, hok, hmem⟩
    · exact absurd hmem List.not_mem_nil

/-- **The first accepted site decides**, and all sites before it are refused. -/
theorem firstSurvivor_eq_ok_iff {stage : Stage} {heading : String} {attempt : Nat → Report α}
    {sites : List Nat} {a : α} :
    (firstSurvivor stage heading attempt sites).outcome = .ok a ↔
      ∃ before site after, sites = before ++ site :: after ∧ (attempt site).outcome = .ok a ∧
        ∀ s ∈ before, ∀ b, (attempt s).outcome ≠ .ok b := by
  induction sites with
  | nil => simp [firstSurvivor]
  | cons first sites ih =>
    rw [firstSurvivor]
    cases hfirst : (attempt first).outcome with
    | ok b =>
      constructor
      · intro h
        exact ⟨[], first, sites, rfl, hfirst.trans h, by simp⟩
      · rintro ⟨before, site, after, hsplit, hok, hbefore⟩
        cases before with
        | nil =>
          cases hsplit
          exact hfirst.symm.trans hok
        | cons s before =>
          cases hsplit
          exact absurd hfirst (hbefore first List.mem_cons_self b)
    | error e =>
      refine ih.trans ⟨?_, ?_⟩
      · rintro ⟨before, site, after, rfl, hok, hbefore⟩
        refine ⟨first :: before, site, after, rfl, hok, fun s hs b => ?_⟩
        rcases List.mem_cons.1 hs with rfl | hs
        · rw [hfirst]
          nofun
        · exact hbefore s hs b
      · rintro ⟨before, site, after, hsplit, hok, hbefore⟩
        cases before with
        | nil =>
          cases hsplit
          rw [hfirst] at hok
          cases hok
        | cons s before =>
          cases hsplit
          exact ⟨before, site, after, rfl, hok, fun s hs =>
            hbefore s (List.mem_cons_of_mem _ hs)⟩

/-- Among sites in ascending order the least accepted one decides. -/
theorem firstSurvivor_eq_ok_iff_of_pairwise {stage : Stage} {heading : String}
    {attempt : Nat → Report α} {sites : List Nat} (hascending : sites.Pairwise (· < ·)) {a : α} :
    (firstSurvivor stage heading attempt sites).outcome = .ok a ↔
      ∃ site ∈ sites, (attempt site).outcome = .ok a ∧
        ∀ s ∈ sites, s < site → ∀ b, (attempt s).outcome ≠ .ok b := by
  rw [firstSurvivor_eq_ok_iff]
  constructor
  · rintro ⟨before, site, after, rfl, hok, hbefore⟩
    refine ⟨site, by simp, hok, fun s hs hlt => ?_⟩
    rcases List.mem_append.1 hs with hs | hs
    · exact hbefore s hs
    · rcases List.mem_cons.1 hs with rfl | hs
      · exact absurd hlt (Nat.lt_irrefl _)
      · have hafter := (List.pairwise_cons.1 (List.pairwise_append.1 hascending).2.1).1 s hs
        exact absurd hlt (Nat.lt_asymm hafter)
  · rintro ⟨site, hsite, hok, hbefore⟩
    obtain ⟨before, after, rfl⟩ := List.append_of_mem hsite
    refine ⟨before, site, after, rfl, hok, fun s hs => hbefore s (by simp [hs]) ?_⟩
    exact (List.pairwise_append.1 hascending).2.2 s hs site List.mem_cons_self

/-- Some site decides if some site is accepted. -/
theorem exists_firstSurvivor_iff {stage : Stage} {heading : String} {attempt : Nat → Report α}
    {sites : List Nat} : (∃ a, (firstSurvivor stage heading attempt sites).outcome = .ok a) ↔
      ∃ site ∈ sites, ∃ a, (attempt site).outcome = .ok a := by
  induction sites with
  | nil => simp [firstSurvivor]
  | cons first sites ih =>
    rw [firstSurvivor]
    cases hfirst : (attempt first).outcome with
    | ok b => simp [hfirst]
    | error e =>
      simp only [List.mem_cons, exists_eq_or_imp, hfirst]
      rw [ih]
      simp

end Report
end PadScout
