import Mathlib.Data.List.Sort
import PadScout.Proofs.CallRegion
import PadScout.Proofs.Discovery.Routines
import PadScout.Proofs.Pattern.Entries
import PadScout.Proofs.Search

/-! # What stages come to

A stage needs the possible entries of the routines that it starts from, and it ends with
the first of them that has none.  Then it tries all sites, and what it returns is put
together from the contributions of those that qualify, in ascending order; a site that is
refused has no part in that.  `Settled` lists these outcomes, of which there is always
exactly one (`Settled.unique`).

What a site contributes depends on the word before it that allocates a stack frame.  There
is at most one such word for a site (`NearestProlog.unique`).
-/
namespace PadScout

open Mips (decode Instruction)

/-- The word at an index is a call of a possible entry of the routine. -/
def Routine.CalledAt (r : Routine) (m : Image) (site : Nat) : Prop :=
  ∃ t, r.EnteredAt m t ∧ m.Calls site t

namespace Discovery

/-! ## Stack frames -/

/-- The word at an index allocates a stack frame. -/
def AllocatesAt (m : Image) (p : Nat) : Prop :=
  ∃ w n, m.get? p = some w ∧ decode w = .ok (.addiu .sp .sp n) ∧ n < 0

/-- **The nearest allocation of a stack frame** before a word, less than `bound` words
away. -/
structure NearestProlog (m : Image) (start bound p : Nat) : Prop where
  before : p < start
  near : start < p + bound
  allocates : AllocatesAt m p
  nearest : ∀ q, p < q → q < start → ¬ AllocatesAt m q

theorem NearestProlog.unique {m : Image} {start bound p q : Nat}
    (hp : NearestProlog m start bound p) (hq : NearestProlog m start bound q) : p = q := by
  rcases Nat.lt_trichotomy p q with hlt | rfl | hlt
  · exact absurd hq.allocates (hp.nearest q hlt hq.before)
  · rfl
  · exact absurd hp.allocates (hq.nearest p hlt hp.before)

theorem isProlog_iff {w : UInt32} :
    isProlog w = true ↔ ∃ n, decode w = .ok (.addiu .sp .sp n) ∧ n < 0 := by
  constructor
  · intro h
    rw [isProlog] at h
    split at h
    · next i hi =>
      rcases Mips.decode_eq_ok_iff.1 hi with ⟨-, rfl⟩ | ⟨-, k, -, -, rfl⟩
      · cases h
      · rw [Instruction.isStackProlog, Instruction.kind_ofFields, Bool.and_eq_true,
          Bool.and_eq_true, Bool.and_eq_true, beq_iff_eq, beq_iff_eq, beq_iff_eq] at h
        obtain ⟨⟨⟨rfl, hrs⟩, hrt⟩, hn⟩ := h
        obtain ⟨rt, rs, n, hi'⟩ : ∃ rt rs n, Instruction.ofFields .addiu w = .addiu rt rs n :=
          ⟨_, _, _, rfl⟩
        rw [hi'] at hrs hrt hn hi
        obtain rfl := Option.some.inj hrs
        obtain rfl := Option.some.inj hrt
        exact ⟨n, hi, of_decide_eq_true hn⟩
    · cases h
  · rintro ⟨n, hdecode, hn⟩
    rw [isProlog, hdecode]
    exact decide_eq_true hn

theorem any_isProlog_iff {m : Image} {p : Nat} :
    (m.get? p).any isProlog = true ↔ AllocatesAt m p := by
  rw [Option.any_eq_true, AllocatesAt]
  simp only [isProlog_iff, exists_and_left]

/-- **The search for a stack frame** finds the nearest one. -/
theorem findProlog_eq_ok_iff_nearest {m : Image} {start bound p : Nat} :
    findProlog m start bound = .ok p ↔ NearestProlog m start bound p := by
  rw [findProlog_eq_ok_iff, any_isProlog_iff]
  constructor
  · rintro ⟨hlow, hhigh, hprolog, hnearest⟩
    refine ⟨by omega, by omega, hprolog, fun q hpq hq hprolog' => ?_⟩
    -- a word that allocates a frame lies in the image, where the search looks
    have hinside : q < m.size := by
      obtain ⟨w, -, hw, -⟩ := hprolog'
      exact (Array.getElem?_eq_some_iff.1 hw).1
    have hnone := hnearest q hpq (by omega)
    rw [any_isProlog_iff.2 hprolog'] at hnone
    cases hnone
  · rintro ⟨hbefore, hnear, hprolog, hnearest⟩
    have hinside : p < m.size := by
      obtain ⟨w, -, hw, -⟩ := hprolog
      exact (Array.getElem?_eq_some_iff.1 hw).1
    refine ⟨by omega, by omega, hprolog, fun q hpq hq => ?_⟩
    rw [← Bool.not_eq_true, any_isProlog_iff]
    exact hnearest q hpq (by omega)

/-- The numbers `p`, `p - 1`, …, `p - 4`, as far as there are such numbers. -/
def downFrom (p : Nat) : List Nat := (List.range (p + 1)).reverse.take 5

theorem entryCandidates_eq_downFrom (p : Nat) : entryCandidates p = downFrom p := by
  match p with
  | 0 | 1 | 2 | 3 => rfl
  | p + 4 =>
    have hslack : List.range entrySlack = [0, 1, 2, 3, 4] := rfl
    rw [entryCandidates, downFrom, hslack]
    simp [List.range_succ]

theorem downFrom_ne_nil (p : Nat) : downFrom p ≠ [] := by
  rw [downFrom, List.range_succ, List.reverse_append]
  exact List.cons_ne_nil _ _

/-! ## Outcomes of a stage -/

/-- **What a stage comes to**, if `qualifies` says which sites are accepted for which
allocation of a stack frame, and `candidates` what these contribute. -/
inductive Settled (m : Image) (routines : List Routine) (stage : Stage)
    (qualifies : Nat → Nat → Prop) (candidates : Nat → List Nat) :
    Except DiscoveryError (List Nat) → Prop where
  | missing (r : Routine) (hr : FirstOf (fun r => ∀ t, ¬ r.EnteredAt m t) routines r) :
      Settled m routines stage qualifies candidates (.error (.signatureNotFound r))
  | noCandidate (hentered : ∀ r ∈ routines, ∃ t, r.EnteredAt m t)
      (hnone : ∀ s p, ¬ qualifies s p) :
      Settled m routines stage qualifies candidates (.error (.noCandidate stage))
  | found (hentered : ∀ r ∈ routines, ∃ t, r.EnteredAt m t) (sites : List (Nat × Nat))
      (hascending : sites.Pairwise fun a b => a.1 < b.1)
      (hsites : ∀ s p, (s, p) ∈ sites ↔ qualifies s p) (hsome : sites ≠ []) :
      Settled m routines stage qualifies candidates
        (.ok (sites.flatMap fun site => candidates site.2))

section
variable {m : Image} {routines : List Routine} {stage : Stage} {qualifies : Nat → Nat → Prop}
  {candidates : Nat → List Nat}

theorem not_entered_of_firstOf {r : Routine}
    (hr : FirstOf (fun r : Routine => ∀ t, ¬ r.EnteredAt m t) routines r) :
    ¬ ∀ r ∈ routines, ∃ t, r.EnteredAt m t := by
  intro h
  obtain ⟨t, ht⟩ := h r hr.mem
  exact hr.has t ht

theorem eq_of_pairwise_fst {l l' : List (Nat × Nat)} (h : l.Pairwise fun a b => a.1 < b.1)
    (h' : l'.Pairwise fun a b => a.1 < b.1) (hmem : ∀ s p, (s, p) ∈ l ↔ (s, p) ∈ l') : l = l' := by
  have : Std.Irrefl fun a b : Nat × Nat => a.1 < b.1 := ⟨fun a => Nat.lt_irrefl a.1⟩
  have : Std.Antisymm fun a b : Nat × Nat => a.1 < b.1 :=
    ⟨fun _ _ hab hba => absurd hab (Nat.lt_asymm hba)⟩
  exact h.eq_of_mem_iff h' fun a => hmem a.1 a.2

/-- **A stage comes to one thing only.** -/
theorem Settled.unique {o o' : Except DiscoveryError (List Nat)}
    (h : Settled m routines stage qualifies candidates o)
    (h' : Settled m routines stage qualifies candidates o') : o = o' := by
  cases h with
  | missing r hr =>
    cases h' with
    | missing r' hr' => rw [hr.unique hr']
    | noCandidate hentered | found hentered => exact absurd hentered (not_entered_of_firstOf hr)
  | noCandidate hentered hnone =>
    cases h' with
    | missing r' hr' => exact absurd hentered (not_entered_of_firstOf hr')
    | noCandidate => rfl
    | found _ sites _ hsites hsome =>
      obtain ⟨⟨s, p⟩, hsp⟩ := List.exists_mem_of_ne_nil sites hsome
      exact absurd ((hsites s p).1 hsp) (hnone s p)
  | found hentered sites hascending hsites hsome =>
    cases h' with
    | missing r' hr' => exact absurd hentered (not_entered_of_firstOf hr')
    | noCandidate _ hnone =>
      obtain ⟨⟨s, p⟩, hsp⟩ := List.exists_mem_of_ne_nil sites hsome
      exact absurd ((hsites s p).1 hsp) (hnone s p)
    | found _ sites' hascending' hsites' =>
      rw [eq_of_pairwise_fst hascending hascending' fun s p =>
        (hsites s p).trans (hsites' s p).symm]

/-- So it comes to whatever it has been shown to come to. -/
theorem eq_iff_settled {o : Except DiscoveryError (List Nat)}
    (h : Settled m routines stage qualifies candidates o)
    (o' : Except DiscoveryError (List Nat)) :
    o = o' ↔ Settled m routines stage qualifies candidates o' := by
  constructor
  · rintro rfl
    exact h
  · exact h.unique

/-! ## Trying sites -/

/-- The sites that qualify, with what they contribute, as a list in ascending order. -/
theorem exists_qualified {attempt : Nat → Report (List Nat)} {sites : List Nat}
    (hascending : sites.Pairwise (· < ·))
    (hattempt : ∀ s ∈ sites, ∀ l, (attempt s).outcome = .ok l ↔
      ∃ p, qualifies s p ∧ l = candidates p)
    (hunique : ∀ s p q, qualifies s p → qualifies s q → p = q) :
    ∃ found : List (Nat × Nat), found.Pairwise (fun a b => a.1 < b.1) ∧
      (∀ s p, (s, p) ∈ found ↔ s ∈ sites ∧ qualifies s p) ∧
      sites.flatMap (fun s => (attempt s).members) =
        found.flatMap fun site => candidates site.2 := by
  induction sites with
  | nil => exact ⟨[], .nil, by simp, rfl⟩
  | cons first sites ih =>
    obtain ⟨hfirst, hsites⟩ := List.pairwise_cons.1 hascending
    obtain ⟨found, hfound, hmem, hflat⟩ :=
      ih hsites fun s hs => hattempt s (List.mem_cons_of_mem _ hs)
    have hok := hattempt first List.mem_cons_self
    by_cases hqualifies : ∃ p, qualifies first p
    · obtain ⟨p, hp⟩ := hqualifies
      refine ⟨(first, p) :: found, ?_, fun s q => ?_, ?_⟩
      -- all that qualify later stand behind the first site
      · refine List.pairwise_cons.2 ⟨fun site hsite => ?_, hfound⟩
        exact hfirst site.1 ((hmem site.1 site.2).1 hsite).1
      · rw [List.mem_cons, List.mem_cons, Prod.mk.injEq, hmem]
        constructor
        · rintro (⟨rfl, rfl⟩ | ⟨hs, hq⟩)
          · exact ⟨Or.inl rfl, hp⟩
          · exact ⟨Or.inr hs, hq⟩
        · rintro ⟨rfl | hs, hq⟩
          · exact Or.inl ⟨rfl, hunique _ _ _ hq hp⟩
          · exact Or.inr ⟨hs, hq⟩
      · have hmembers : (attempt first).members = candidates p := by
          rw [Report.members, (hok _).2 ⟨p, hp, rfl⟩]
        rw [List.flatMap_cons, List.flatMap_cons, hmembers, hflat]
    · refine ⟨found, hfound, fun s q => ?_, ?_⟩
      · rw [hmem, List.mem_cons]
        constructor
        · rintro ⟨hs, hq⟩
          exact ⟨Or.inr hs, hq⟩
        · rintro ⟨rfl | hs, hq⟩
          · exact absurd ⟨q, hq⟩ hqualifies
          · exact ⟨hs, hq⟩
      -- no attempt at the first site succeeds, so it contributes nothing
      · have hmembers : (attempt first).members = [] := by
          rw [Report.members]
          split
          · next l hl =>
            obtain ⟨p, hp, -⟩ := (hok l).1 hl
            exact absurd ⟨p, hp⟩ hqualifies
          · rfl
        rw [List.flatMap_cons, hmembers, List.nil_append, hflat]

/-- **The end of a stage**, once its sites are known.  The sites that are refused have no
part in it. -/
theorem settled_survivors {attempt : Nat → Report (List Nat)} {sites : CallSites}
    (hattempt : ∀ s ∈ sites.toList, ∀ l, (attempt s).outcome = .ok l ↔
      ∃ p, qualifies s p ∧ l = candidates p)
    (hmem : ∀ s p, qualifies s p → s ∈ sites.toList)
    (hunique : ∀ s p q, qualifies s p → qualifies s q → p = q)
    (hcandidates : ∀ p, candidates p ≠ []) :
    Settled m [] stage qualifies candidates
      (Report.survivors stage sites.toList attempt).outcome := by
  obtain ⟨found, hascending, hfound, hflat⟩ := exists_qualified sites.ascending hattempt hunique
  have hsites : ∀ s p, (s, p) ∈ found ↔ qualifies s p := fun s p =>
    (hfound s p).trans (and_iff_right_of_imp (hmem s p))
  rw [Report.survivors]
  dsimp only
  rw [hflat]
  have hentered : ∀ r ∈ ([] : List Routine), ∃ t, r.EnteredAt m t :=
    fun r hr => absurd hr List.not_mem_nil
  cases found with
  | nil => exact .noCandidate hentered fun s p hq => absurd ((hsites s p).2 hq) List.not_mem_nil
  | cons site found =>
    have hsettled : Settled m [] stage qualifies candidates _ :=
      .found hentered (site :: found) hascending hsites (List.cons_ne_nil _ _)
    split
    -- a site that qualifies contributes something
    · next hnil => exact absurd (List.append_eq_nil_iff.1 hnil).1 (hcandidates site.2)
    · exact hsettled

/-! ## Entries of routines -/

/-- Entries are in reach of calls, in an image that is not too large. -/
theorem callsToRoutine_of_entered (hsize : m.size ≤ 0x4000000) {r : Routine}
    (h : ∃ t, r.EnteredAt m t) : ∃ sites, (callsToRoutine m r).outcome = .ok sites ∧
      ∀ s, s ∈ sites.toList ↔ r.CalledAt m s := by
  have hentries : ∀ t, t ∈ r.signature.entries m ↔ r.EnteredAt m t := fun t =>
    Routine.mem_entries_iff (by omega)
  obtain ⟨sites, hsites, hmem⟩ := callSitesTo_of_lt m fun t ht =>
    Nat.lt_of_lt_of_le (Routine.lt_size_of_enteredAt ((hentries t).1 ht)) hsize
  refine ⟨sites, ?_, fun s => ?_⟩
  · obtain ⟨t, ht⟩ := h
    have hsome : (r.signature.entries m).isEmpty = false :=
      List.isEmpty_eq_false_iff.2 (List.ne_nil_of_mem ((hentries t).2 ht))
    have hfound : (entriesOf m r).outcome = .ok (r.signature.entries m) := by
      rw [entriesOf, hsome]
      rfl
    rw [callsToRoutine, Report.outcome_bind_eq_ok_iff]
    refine ⟨_, hfound, Report.outcome_bind_eq_ok_iff.2 ⟨sites, ?_, rfl⟩⟩
    exact Report.outcome_ofSearch_eq_ok_iff.2 hsites
  · rw [hmem, Routine.CalledAt]
    simp only [hentries]

theorem callsToRoutine_of_missing (hsize : m.size ≤ 0x4000000) {r : Routine}
    (h : ∀ t, ¬ r.EnteredAt m t) :
    (callsToRoutine m r).outcome = .error (.signatureNotFound r) := by
  have hnone : r.signature.entries m = [] := List.eq_nil_iff_forall_not_mem.2 fun t ht =>
    h t ((Routine.mem_entries_iff (by omega)).1 ht)
  have hfound : (entriesOf m r).outcome = .error (.signatureNotFound r) := by
    rw [entriesOf, hnone]
    rfl
  rw [callsToRoutine, Report.outcome_bind, hfound]

/-- **A stage that starts from one more routine.** -/
theorem settled_bind (hsize : m.size ≤ 0x4000000) {r : Routine}
    {next : CallSites → Report (List Nat)}
    (hnext : ∀ sites : CallSites, (∀ s, s ∈ sites.toList ↔ r.CalledAt m s) →
      Settled m routines stage qualifies candidates (next sites).outcome) :
    Settled m (r :: routines) stage qualifies candidates
      (callsToRoutine m r >>= next).outcome := by
  by_cases hr : ∃ t, r.EnteredAt m t
  · obtain ⟨sites, hsites, hmem⟩ := callsToRoutine_of_entered hsize hr
    have hboth : (∀ q ∈ routines, ∃ t, q.EnteredAt m t) →
        ∀ q ∈ r :: routines, ∃ t, q.EnteredAt m t := fun h => List.forall_mem_cons.2 ⟨hr, h⟩
    have hsettled := hnext sites hmem
    rw [Report.outcome_bind, hsites]
    dsimp only
    generalize (next sites).outcome = o at hsettled ⊢
    cases hsettled with
    | missing q hq => exact .missing q (hq.cons fun h => hr.elim h)
    | noCandidate hentered hnone => exact .noCandidate (hboth hentered) hnone
    | found hentered found hascending hfound hsome =>
      exact .found (hboth hentered) found hascending hfound hsome
  · have hmissing := not_exists.1 hr
    rw [Report.outcome_bind, callsToRoutine_of_missing hsize hmissing]
    exact .missing r ⟨[], routines, rfl, hmissing, nofun⟩

/-- The remark at the end of a stage does not change what it comes to. -/
theorem outcome_bind_remark (report : Report (List Nat)) (message : List Nat → Unit → String) :
    (do
      let l ← report
      Report.debug (message l)
      return l : Report (List Nat)).outcome = report.outcome := by
  rw [Report.outcome_bind]
  cases report.outcome <;> rfl

end

end Discovery
end PadScout
