import Mathlib.Data.List.Induction
import Mathlib.Data.List.Nodup
import Mathlib.Order.Bounds.Basic
import PadScout.Host.Maps
import PadScout.Proofs.Search

/-! # Modules of a memory map

A line of a memory map belongs to the file that its path leads to, if it leads to one
(`Mapping.fileName?_eq_some_iff`).  Going through the lines, the spans of the files that have
been met keep step with the lines that have been read (`Mapping.Tracks`): there is one span
for each name, in the order in which the names first appear, and it reaches from the lowest
start to the highest end among the lines of the name.  So the modules of a map are told by
its lines as a set, but for their order (`Mapping.mem_modules_iff`).
-/
namespace PadScout
namespace Mapping

/-! ## Names of files -/

/-- **A path leads to a file of a name**: the last of its parts between slashes, parts that are
empty or a single dot left aside, is the name, and it does not stand for the directory above. -/
def LeadsTo (name path : List Char) : Prop :=
  ∃ before after : List (List Char), path = ['/'].intercalate (before ++ name :: after) ∧
    (∀ part ∈ before, '/' ∉ part) ∧ '/' ∉ name ∧
    name ≠ [] ∧ name ≠ ['.'] ∧ name ≠ ['.', '.'] ∧ ∀ part ∈ after, part = [] ∨ part = ['.']

theorem partsAfter_eq_splitOn (part path : List Char) :
    partsAfter part path = (path.splitOn '/').modifyHead (part.reverse ++ ·) := by
  induction path generalizing part with
  | nil => simp [partsAfter]
  | cons c path ih =>
    rw [partsAfter, List.splitOn_cons_eq_if_modifyHead, ih, ih]
    by_cases hc : c = '/'
    · rw [if_pos hc, if_pos (beq_iff_eq.2 hc), List.modifyHead_cons, List.append_nil]
      exact congrArg (part.reverse :: ·) (congrFun List.modifyHead_id _)
    · rw [if_neg hc, if_neg (mt beq_iff_eq.1 hc), List.modifyHead_modifyHead]
      congr 1
      funext rest
      simp

theorem partsAfter_nil (path : List Char) : partsAfter [] path = path.splitOn '/' := by
  rw [partsAfter_eq_splitOn]
  exact congrFun List.modifyHead_id _

theorem slash_notMem_of_mem_splitOn {path part : List Char} (h : part ∈ path.splitOn '/') :
    '/' ∉ part := by
  induction path generalizing part with
  | nil =>
    rw [List.splitOn_nil, List.mem_singleton] at h
    exact h ▸ List.not_mem_nil
  | cons c path ih =>
    rw [List.splitOn_cons_eq_if_modifyHead] at h
    split at h
    · rcases List.mem_cons.1 h with rfl | h
      · exact List.not_mem_nil
      · exact ih h
    · next hc =>
      cases hsplit : path.splitOn '/' with
      | nil => exact absurd hsplit (List.splitOn_ne_nil _ _)
      | cons first rest =>
        rw [hsplit, List.modifyHead_cons] at h
        rcases List.mem_cons.1 h with rfl | h
        · rintro (_ | ⟨_, hslash⟩)
          · exact hc rfl
          · exact ih (hsplit ▸ List.mem_cons_self) hslash
        · exact ih (hsplit ▸ List.mem_cons_of_mem _ h)

/-- **The name of the file** that a path leads to. -/
theorem fileNameOf_eq_some_iff {path name : List Char} :
    fileNameOf path = some name ↔ LeadsTo name path := by
  have hlast : ((partsAfter [] path).filter fun part => part ≠ [] ∧ part ≠ ['.']).getLast? =
      some name ↔ FirstOf (fun part => part ≠ [] ∧ part ≠ ['.']) (path.splitOn '/').reverse name := by
    rw [partsAfter_nil, List.getLast?_filter]
    exact find?_eq_some_iff_firstOf fun _ => decide_eq_true_iff
  constructor
  · intro h
    rw [fileNameOf] at h
    split at h
    · next other hother =>
      split at h
      · cases h
      · next hparent =>
        cases h
        obtain ⟨after, before, hsplit, ⟨hne, hdot⟩, hafter⟩ := hlast.1 hother
        have hparts : path.splitOn '/' = before.reverse ++ name :: after.reverse := by
          rw [← List.reverse_inj, hsplit]
          simp
        have hslash : ∀ part ∈ before.reverse ++ name :: after.reverse, '/' ∉ part :=
          fun part hpart => slash_notMem_of_mem_splitOn (hparts ▸ hpart)
        refine ⟨before.reverse, after.reverse, ?_,
          fun part hpart => hslash part (List.mem_append_left _ hpart),
          hslash name (List.mem_append_right _ List.mem_cons_self), hne, hdot, hparent, ?_⟩
        · rw [← hparts, List.intercalate_splitOn]
        · intro part hpart
          have hplain := hafter part (List.mem_reverse.1 hpart)
          by_contra hcon
          exact hplain (not_or.1 hcon)
    · cases h
  · rintro ⟨before, after, hpath, hbefore, hname, hne, hdot, hparent, hafter⟩
    have hslash : ∀ part ∈ before ++ name :: after, '/' ∉ part := by
      intro part hpart
      rcases List.mem_append.1 hpart with hpart | hpart
      · exact hbefore part hpart
      · rcases List.mem_cons.1 hpart with rfl | hpart
        · exact hname
        · rcases hafter part hpart with rfl | rfl <;> decide
    have hparts : path.splitOn '/' = before ++ name :: after := by
      rw [hpath, List.splitOn_intercalate _ hslash (by simp)]
    rw [fileNameOf, hlast.2 ⟨after.reverse, before.reverse, ?_, ⟨hne, hdot⟩, ?_⟩]
    · exact if_neg hparent
    · rw [hparts]
      simp
    · intro part hpart hplain
      rcases hafter part (List.mem_reverse.1 hpart) with rfl | rfl
      · exact hplain.1 rfl
      · exact hplain.2 rfl

/-- **A line belongs to a file** if its path is not in brackets and leads to the file. -/
theorem fileName?_eq_some_iff {m : Mapping} {name : List Char} :
    m.fileName? = some name ↔
      ∃ path, m.path = some path ∧ path.head? ≠ some '[' ∧ LeadsTo name path := by
  simp only [← fileNameOf_eq_some_iff]
  rw [fileName?]
  split
  · next rest hpath => simp [hpath]
  · next path hplain hpath =>
    have hhead : path.head? ≠ some '[' := by
      intro hhead
      obtain ⟨rest, hrest⟩ := List.head?_eq_some_iff.1 hhead
      exact hplain rest hrest
    simp [hpath, hhead]
  · next hpath => simp [hpath]

/-! ## Spans -/

section Widen
variable {name : List Char} {low high : UInt64} {spans : List Span}

/-- A name that is new comes behind the others. -/
theorem map_name_widen : (widen name low high spans).map Span.name =
    if name ∈ spans.map Span.name then spans.map Span.name
    else spans.map Span.name ++ [name] := by
  induction spans with
  | nil => rfl
  | cons s spans ih =>
    rw [widen]
    by_cases hs : s.name = name
    · simp [hs]
    · rw [if_neg hs, List.map_cons, ih]
      split
      · next hmem => simp [hmem]
      · next hmem => simp [hmem, Ne.symm hs]

/-- **Widening changes the span of one name**, or begins it. -/
theorem mem_widen {s : Span} (hnodup : (spans.map Span.name).Nodup)
    (h : s ∈ widen name low high spans) :
    s.name ≠ name ∧ s ∈ spans ∨
      (∃ t ∈ spans, t.name = name ∧ s = ⟨name, min t.low low, max t.high high⟩) ∨
      name ∉ spans.map Span.name ∧ s = ⟨name, low, high⟩ := by
  induction spans with
  | nil =>
    rw [widen, List.mem_singleton] at h
    exact Or.inr (Or.inr ⟨List.not_mem_nil, h⟩)
  | cons t spans ih =>
    obtain ⟨hhead, htail⟩ := List.nodup_cons.1 hnodup
    rw [widen] at h
    by_cases ht : t.name = name
    · rw [if_pos ht] at h
      rcases List.mem_cons.1 h with rfl | h
      · exact Or.inr (Or.inl ⟨t, List.mem_cons_self, ht, rfl⟩)
      · refine Or.inl ⟨fun hs => hhead ?_, List.mem_cons_of_mem _ h⟩
        rw [ht, ← hs]
        exact List.mem_map_of_mem h
    · rw [if_neg ht] at h
      rcases List.mem_cons.1 h with rfl | h
      · exact Or.inl ⟨ht, List.mem_cons_self⟩
      · rcases ih htail h with ⟨hs, hmem⟩ | ⟨u, hu, hrest⟩ | ⟨hnew, hs⟩
        · exact Or.inl ⟨hs, List.mem_cons_of_mem _ hmem⟩
        · exact Or.inr (Or.inl ⟨u, List.mem_cons_of_mem _ hu, hrest⟩)
        · refine Or.inr (Or.inr ⟨fun hmem => ?_, hs⟩)
          rcases List.mem_cons.1 hmem with hname | hmem
          · exact ht hname.symm
          · exact hnew hmem

end Widen

/-- The addresses at one end of the lines that belong to a file. -/
def ends (edge : Mapping → UInt64) (mappings : List Mapping) (name : List Char) : Set Nat :=
  {a | ∃ m ∈ mappings, m.fileName? = some name ∧ (edge m).toNat = a}

section Ends
variable {edge : Mapping → UInt64} {mappings : List Mapping} {m : Mapping} {name : List Char}

theorem ends_concat_of_eq (h : m.fileName? = some name) :
    ends edge (mappings ++ [m]) name = insert (edge m).toNat (ends edge mappings name) := by
  ext a
  simp only [ends, List.mem_append, List.mem_singleton, Set.mem_insert_iff, Set.mem_ofPred_eq]
  constructor
  · rintro ⟨n, hn | rfl, hrest⟩
    · exact Or.inr ⟨n, hn, hrest⟩
    · exact Or.inl hrest.2.symm
  · rintro (rfl | ⟨n, hn, hrest⟩)
    · exact ⟨m, Or.inr rfl, h, rfl⟩
    · exact ⟨n, Or.inl hn, hrest⟩

theorem ends_concat_of_ne (h : m.fileName? ≠ some name) :
    ends edge (mappings ++ [m]) name = ends edge mappings name := by
  ext a
  simp only [ends, List.mem_append, List.mem_singleton, Set.mem_ofPred_eq]
  constructor
  · rintro ⟨n, hn | rfl, hrest⟩
    · exact ⟨n, hn, hrest⟩
    · exact absurd hrest.1 h
  · rintro ⟨n, hn, hrest⟩
    exact ⟨n, Or.inl hn, hrest⟩

theorem ends_eq_empty (h : name ∉ mappings.filterMap fileName?) :
    ends edge mappings name = ∅ := by
  ext a
  constructor
  · rintro ⟨n, hn, hname, -⟩
    exact h (List.mem_filterMap.2 ⟨n, hn, hname⟩)
  · exact False.elim

/-- Only which lines there are matters. -/
theorem ends_congr {others : List Mapping} (h : ∀ m, m ∈ mappings ↔ m ∈ others) :
    ends edge mappings name = ends edge others name := by
  simp only [ends, h]

end Ends

/-- **Spans keep step with the lines that have been read.** -/
structure Tracks (mappings : List Mapping) (spans : List Span) : Prop where
  /-- One span for each name, in the order in which names first appear. -/
  names : spans.map Span.name = (mappings.filterMap fileName?).eraseDups
  nodup : (spans.map Span.name).Nodup
  low : ∀ s ∈ spans, IsLeast (ends start mappings s.name) s.low.toNat
  high : ∀ s ∈ spans, IsGreatest (ends stop mappings s.name) s.high.toNat

theorem tracks_nil : Tracks [] [] where
  names := rfl
  nodup := List.nodup_nil
  low := nofun
  high := nofun

section Tracks
variable {mappings : List Mapping} {known : List Span} {m : Mapping} {name : List Char}

theorem Tracks.mem_names (h : Tracks mappings known) :
    name ∈ known.map Span.name ↔ name ∈ mappings.filterMap fileName? := by
  rw [h.names, List.mem_eraseDups]

/-- A line that belongs to no file changes nothing. -/
theorem Tracks.concat_none (h : Tracks mappings known) (hm : m.fileName? = none) :
    Tracks (mappings ++ [m]) known where
  names := by rw [h.names, List.filterMap_append, List.filterMap_cons_none hm,
    List.filterMap_nil, List.append_nil]
  nodup := h.nodup
  low s hs := by
    rw [ends_concat_of_ne (by simp [hm])]
    exact h.low s hs
  high s hs := by
    rw [ends_concat_of_ne (by simp [hm])]
    exact h.high s hs

/-- **A line widens the span of its file.** -/
theorem Tracks.concat_some (h : Tracks mappings known) (hm : m.fileName? = some name) :
    Tracks (mappings ++ [m]) (widen name m.start m.stop known) where
  names := by
    rw [map_name_widen, List.filterMap_append, List.filterMap_cons_some hm, List.filterMap_nil,
      List.eraseDups_append, List.cons_removeAll]
    by_cases hmem : name ∈ known.map Span.name
    · have hcontains : (mappings.filterMap fileName?).contains name = true :=
        List.contains_iff_mem.2 (h.mem_names.1 hmem)
      rw [if_pos hmem, h.names, hcontains, if_neg (by decide)]
      simp [List.removeAll]
    · have hcontains : (mappings.filterMap fileName?).contains name = false := by
        simpa using mt h.mem_names.2 hmem
      rw [if_neg hmem, h.names, hcontains, if_pos rfl]
      simp [List.removeAll, List.eraseDups_cons]
  nodup := by
    rw [map_name_widen]
    split
    · exact h.nodup
    · next hmem =>
      rw [← List.concat_eq_append]
      exact List.Nodup.concat hmem h.nodup
  low s hs := by
    rcases mem_widen h.nodup hs with ⟨hne, hs⟩ | ⟨t, ht, hname, rfl⟩ | ⟨hnew, rfl⟩
    · rw [ends_concat_of_ne (by simp [hm, Ne.symm hne])]
      exact h.low s hs
    · rw [ends_concat_of_eq hm, UInt64.toNat_min, min_comm]
      exact (hname ▸ h.low t ht).insert _
    · rw [ends_concat_of_eq hm, ends_eq_empty (mt h.mem_names.2 hnew), insert_empty_eq]
      exact isLeast_singleton
  high s hs := by
    rcases mem_widen h.nodup hs with ⟨hne, hs⟩ | ⟨t, ht, hname, rfl⟩ | ⟨hnew, rfl⟩
    · rw [ends_concat_of_ne (by simp [hm, Ne.symm hne])]
      exact h.high s hs
    · rw [ends_concat_of_eq hm, UInt64.toNat_max, max_comm]
      exact (hname ▸ h.high t ht).insert _
    · rw [ends_concat_of_eq hm, ends_eq_empty (mt h.mem_names.2 hnew), insert_empty_eq]
      exact isGreatest_singleton

end Tracks

/-- **The spans of a map keep step with its lines**, all the way. -/
theorem tracks_spans (mappings : List Mapping) : Tracks mappings (spans mappings) := by
  induction mappings using List.reverseRecOn with
  | nil => exact tracks_nil
  | append_singleton mappings m ih =>
    rw [spans, List.foldl_concat]
    cases hm : m.fileName? with
    | none => exact ih.concat_none hm
    | some name => exact ih.concat_some hm

/-! ## Modules -/

/-- **A module covers its file**: it reaches from the lowest start to the highest end of the
lines that belong to the file of its name. -/
structure Covers (mappings : List Mapping) (m : Module) : Prop where
  base : IsLeast (ends start mappings m.name.toList) m.base.value.toNat
  stop : IsGreatest (ends stop mappings m.name.toList) (m.base.value.toNat + m.size.toNat)

section Modules
variable {mappings : List Mapping} {m : Module}

theorem map_name_modules (mappings : List Mapping) : (modules mappings).map Module.name =
    (mappings.filterMap fileName?).eraseDups.map String.ofList := by
  rw [← (tracks_spans mappings).names, modules, List.map_map, List.map_map]
  rfl

theorem nodup_map_name_modules (mappings : List Mapping) :
    ((modules mappings).map Module.name).Nodup := by
  rw [map_name_modules, ← (tracks_spans mappings).names]
  exact (tracks_spans mappings).nodup.map fun _ _ => String.ofList_inj.1

/-- A span does not end before it begins, if no line does. -/
theorem low_le_high (h : ∀ e ∈ mappings, e.start ≤ e.stop) {s : Span} (hs : s ∈ spans mappings) :
    s.low ≤ s.high := by
  obtain ⟨e, he, hname, hlow⟩ := ((tracks_spans mappings).low s hs).1
  have hhigh := ((tracks_spans mappings).high s hs).2 ⟨e, he, hname, rfl⟩
  have hle := UInt64.le_iff_toNat_le.1 (h e he)
  rw [UInt64.le_iff_toNat_le]
  omega

theorem covers_of_mem (h : ∀ e ∈ mappings, e.start ≤ e.stop) (hm : m ∈ modules mappings) :
    Covers mappings m := by
  obtain ⟨s, hs, rfl⟩ := List.mem_map.1 hm
  have hsum : s.low.toNat + (s.high - s.low).toNat = s.high.toNat := by
    rw [UInt64.toNat_sub_of_le _ _ (low_le_high h hs)]
    have := UInt64.le_iff_toNat_le.1 (low_le_high h hs)
    omega
  constructor
  · simpa using (tracks_spans mappings).low s hs
  · simpa [hsum] using (tracks_spans mappings).high s hs

/-- A line that belongs to a file has a module of the name. -/
theorem exists_mem_name_eq {name : List Char} {e : Mapping} (he : e ∈ mappings)
    (hname : e.fileName? = some name) : ∃ m ∈ modules mappings, m.name = String.ofList name := by
  have hmem : String.ofList name ∈ (modules mappings).map Module.name := by
    rw [map_name_modules]
    exact List.mem_map_of_mem (List.mem_eraseDups.2 (List.mem_filterMap.2 ⟨e, he, hname⟩))
  exact List.mem_map.1 hmem

theorem Covers.unique {m' : Module} (h : Covers mappings m) (h' : Covers mappings m')
    (hname : m.name = m'.name) : m = m' := by
  have hbase := h.base.unique (hname ▸ h'.base)
  have hstop := h.stop.unique (hname ▸ h'.stop)
  obtain ⟨name, ⟨base⟩, size⟩ := m
  obtain ⟨name', ⟨base'⟩, size'⟩ := m'
  obtain rfl := UInt64.toNat_inj.1 hbase
  obtain rfl : size = size' := UInt64.toNat_inj.1 (Nat.add_left_cancel hstop)
  obtain rfl : name = name' := hname
  rfl

/-- **The modules of a map are those that cover a file.** -/
theorem mem_modules_iff (h : ∀ e ∈ mappings, e.start ≤ e.stop) :
    m ∈ modules mappings ↔ Covers mappings m := by
  constructor
  · exact covers_of_mem h
  · intro hm
    obtain ⟨e, he, hname, -⟩ := hm.base.1
    obtain ⟨m', hm', hsame⟩ := exists_mem_name_eq he hname
    rw [String.ofList_toList] at hsame
    rwa [hm.unique (covers_of_mem h hm') hsame.symm]

theorem covers_congr {others : List Mapping} (h : ∀ e, e ∈ mappings ↔ e ∈ others) :
    Covers mappings m ↔ Covers others m := by
  constructor
  · rintro ⟨hbase, hstop⟩
    rw [ends_congr h] at hbase hstop
    exact ⟨hbase, hstop⟩
  · rintro ⟨hbase, hstop⟩
    rw [← ends_congr h] at hbase hstop
    exact ⟨hbase, hstop⟩

/-- **The order of lines decides on the order of modules only.** -/
theorem perm_modules {others : List Mapping} (h : ∀ e ∈ mappings, e.start ≤ e.stop)
    (hperm : mappings.Perm others) : (modules mappings).Perm (modules others) := by
  have hothers : ∀ e ∈ others, e.start ≤ e.stop := fun e he => h e (hperm.mem_iff.2 he)
  refine (List.perm_ext_iff_of_nodup (nodup_map_name_modules _).of_map
    (nodup_map_name_modules _).of_map).2 fun m => ?_
  rw [mem_modules_iff h, mem_modules_iff hothers]
  exact covers_congr fun e => hperm.mem_iff

/-- A line of a file is inside the module of the file. -/
theorem Covers.inside (h : Covers mappings m) {e : Mapping} (he : e ∈ mappings)
    (hname : e.fileName? = some m.name.toList) :
    m.base.value ≤ e.start ∧ e.stop ≤ m.stop.value := by
  have hlow := h.base.2 ⟨e, he, hname, rfl⟩
  have hhigh := h.stop.2 ⟨e, he, hname, rfl⟩
  obtain ⟨last, -, -, hlast⟩ := h.stop.1
  have hlt := last.stop.toNat_lt
  have hstop : m.stop.value.toNat = (m.base.value.toNat + m.size.toNat) % 2 ^ 64 :=
    UInt64.toNat_add _ _
  rw [UInt64.le_iff_toNat_le, UInt64.le_iff_toNat_le, hstop]
  omega

/-- A line that belongs to no file can be left out. -/
theorem modules_of_nameless {before after : List Mapping} {e : Mapping}
    (he : e.fileName? = none) : modules (before ++ e :: after) = modules (before ++ after) := by
  rw [modules, modules, spans, spans, List.foldl_append, List.foldl_append, List.foldl_cons, he]

end Modules

/-- **The modules of a memory map.**  There is one for each name of a file, in the order in
which the names first appear, and it reaches from the lowest start to the highest end of the
lines that belong to the file, so that every such line is inside.  Lines that belong to no file
make no difference, and the order of lines makes none but to the order of modules.  A line
belongs to the file that its path leads to, unless the path is in brackets. -/
theorem modules_settled {mappings : List Mapping} (h : ∀ e ∈ mappings, e.start ≤ e.stop) :
    (modules mappings).map Module.name =
      (mappings.filterMap fileName?).eraseDups.map String.ofList ∧
    ((modules mappings).map Module.name).Nodup ∧
    (∀ m, m ∈ modules mappings ↔ Covers mappings m) ∧
    (∀ e ∈ mappings, ∀ name, e.fileName? = some name → ∃ m ∈ modules mappings,
      m.name = String.ofList name ∧ m.base.value ≤ e.start ∧ e.stop ≤ m.stop.value) ∧
    (∀ s ∈ spans mappings, s.low ≤ s.high) ∧
    (∀ before e after, mappings = before ++ e :: after → e.fileName? = none →
      modules mappings = modules (before ++ after)) ∧
    (∀ others, mappings.Perm others → (modules mappings).Perm (modules others)) ∧
    ∀ (e : Mapping) (name : List Char), e.fileName? = some name ↔
      ∃ path, e.path = some path ∧ path.head? ≠ some '[' ∧ LeadsTo name path := by
  refine ⟨map_name_modules mappings, nodup_map_name_modules mappings, fun m => mem_modules_iff h,
    fun e he name hname => ?_, fun s => low_le_high h, fun before e after hsplit he => ?_,
    fun others => perm_modules h, fun e name => fileName?_eq_some_iff⟩
  · obtain ⟨m, hm, hsame⟩ := exists_mem_name_eq he hname
    have hfile : e.fileName? = some m.name.toList := by rw [hname, hsame, String.toList_ofList]
    exact ⟨m, hm, hsame, (covers_of_mem h hm).inside he hfile⟩
  · rw [hsplit]
    exact modules_of_nameless he

namespace Sample

/-- A map in which the lines of two files alternate, out of order, with the stack and memory
without a path in between. -/
def alternating : List Mapping :=
  [⟨0x5000, 0x6000, .ofBits 1, some "/lib/core.so".toList⟩,
   ⟨0x9000, 0xA000, .ofBits 3, some "/usr/bin/emulator".toList⟩,
   ⟨0xF000, 0xFFFF, .ofBits 3, some "[stack]".toList⟩,
   ⟨0x3000, 0x4000, .ofBits 5, some "/opt//core.so/.".toList⟩,
   ⟨0x2000, 0x3000, .ofBits 3, none⟩,
   ⟨0x8000, 0x9000, .ofBits 5, some "/usr/bin/emulator".toList⟩,
   ⟨0x7000, 0x8000, .ofBits 3, some "/usr/bin/..".toList⟩]

end Sample

/-- The modules of the sample, which reversed has the same. -/
theorem modules_settled_alternating :
    (∀ e ∈ Sample.alternating, e.start ≤ e.stop) ∧
      modules Sample.alternating =
        [⟨"core.so", ⟨0x3000⟩, 0x3000⟩, ⟨"emulator", ⟨0x8000⟩, 0x2000⟩] ∧
      Covers Sample.alternating ⟨"core.so", ⟨0x3000⟩, 0x3000⟩ ∧
      (modules Sample.alternating).Perm (modules Sample.alternating.reverse) := by
  have hends : ∀ e ∈ Sample.alternating, e.start ≤ e.stop := by decide
  have hmodules : modules Sample.alternating =
      [⟨"core.so", ⟨0x3000⟩, 0x3000⟩, ⟨"emulator", ⟨0x8000⟩, 0x2000⟩] := by decide
  obtain ⟨-, -, hcovers, -, -, -, hperm, -⟩ := modules_settled hends
  refine ⟨hends, hmodules, (hcovers _).1 ?_, hperm _ (List.reverse_perm _).symm⟩
  rw [hmodules]
  exact List.mem_cons_self

end Mapping
end PadScout
