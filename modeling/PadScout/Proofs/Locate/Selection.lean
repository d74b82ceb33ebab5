import PadScout.Proofs.Locate.Memory
import PadScout.Proofs.Text.Case

/-! # Selecting a module by its name

A module scan puts the name of a module into lower case by the Unicode standard, and of its
filter the letters A to Z only.  So a filter works just if both agree on each of its characters
(`Case.Alike`).  Then a module whose name contains it is never missed
(`Module.matches_of_infix`).  A filter with a character on which they part, such as a capital
with an accent, matches nothing at all (`Module.Matches.alike`).
-/
namespace PadScout

open Dialogue (Exchange Runs Searched)
open Inquiry (exchange)

variable {filter : String} {modules : List Module} {m : Module}

/-- A name that contains a filter that is lowered alike, character for character, matches it. -/
theorem Module.matches_of_infix (halike : ∀ c ∈ filter.toList, Case.Alike c)
    (h : filter.toList <:+: m.name.toList) : m.Matches filter :=
  Case.asciiLower_infix_lower halike h

/-- Only a filter that is lowered alike matches a module, whatever the name. -/
theorem Module.Matches.alike (h : m.Matches filter) : ∀ c ∈ filter.toList, Case.Alike c :=
  fun _ hc => Case.alike_of_asciiLower_infix_lower h hc

namespace Strategy

/-- Among modules of which one has the filter in its name, character for character, one is
selected. -/
def FindsLiterally (filter : String) : Prop :=
  ∀ modules : List Module, (∃ m ∈ modules, filter.toList <:+: m.name.toList) →
    ∃ m, selectModule (Case.asciiLower filter.toList) modules = some m

theorem selectModule_of_infix (halike : ∀ c ∈ filter.toList, Case.Alike c) (hm : m ∈ modules)
    (h : filter.toList <:+: m.name.toList) :
    ∃ first, selectModule (Case.asciiLower filter.toList) modules = some first := by
  rcases hselect : selectModule (Case.asciiLower filter.toList) modules with - | first
  · exact absurd (Module.matches_of_infix halike h) (selectModule_eq_none_iff.1 hselect m hm)
  · exact ⟨first, rfl⟩

theorem selectModule_of_not_alike (h : ¬ ∀ c ∈ filter.toList, Case.Alike c) :
    selectModule (Case.asciiLower filter.toList) modules = none :=
  selectModule_eq_none_iff.2 fun _ _ hmatches => h hmatches.alike

theorem findsLiterally_iff_alike : FindsLiterally filter ↔ ∀ c ∈ filter.toList, Case.Alike c := by
  constructor
  · intro hfinds
    by_contra halike
    -- a module that has the filter for its name
    obtain ⟨m, hm⟩ := hfinds [⟨filter, ⟨0⟩, 0⟩] ⟨_, List.mem_singleton_self _, List.infix_rfl⟩
    rw [selectModule_of_not_alike halike] at hm
    cases hm
  · rintro halike modules ⟨m, hm, h⟩
    exact selectModule_of_infix halike hm h

/-- The filter of the default settings is such. -/
example : "parallel_n64".toList.all Case.Alike = true := by decide

section
variable {H : Type} {w : MagicWord} {process : H} {step : UInt64}
  {rest : List (Exchange (hostInterface H))} {result : Except MemoryError (Option Address)}

/-- **A module scan once the modules are listed**: without a selected module it ends there and
finds nothing, and otherwise it looks through the module. -/
theorem runs_locate_of_modules : Runs (locate process (.ofFilter w filter step))
    (exchange (.modules process) (.ok modules) :: rest) result ↔
      match selectModule (Case.asciiLower filter.toList) modules with
      | none => rest = [] ∧ result = .ok none
      | some m => ∃ found, Searched (w.Probed process) (Address.stride m.base m.stop step)
          rest found ∧ result = .ok found := by
  rw [runs_locate_moduleScan]
  rcases hselect : selectModule (Case.asciiLower filter.toList) modules with - | m
  · constructor
    · rintro (⟨e, hes, -⟩ | ⟨others, hes, -, rfl⟩ | ⟨others, m, _, found, hes, hm, -, -⟩)
      · cases hes
      · cases hes
        exact ⟨rfl, rfl⟩
      · cases hes
        rw [selectModule_eq_some_iff.2 hm] at hselect
        cases hselect
    · rintro ⟨rfl, rfl⟩
      exact Or.inr (Or.inl ⟨modules, rfl, selectModule_eq_none_iff.1 hselect, rfl⟩)
  · constructor
    · rintro (⟨e, hes, -⟩ | ⟨others, hes, hothers, -⟩ |
        ⟨others, first, _, found, hes, hfirst, hfound, rfl⟩)
      · cases hes
      · cases hes
        rw [selectModule_eq_none_iff.2 hothers] at hselect
        cases hselect
      · cases hes
        rw [selectModule_eq_some_iff.2 hfirst] at hselect
        cases hselect
        exact ⟨found, hfound, rfl⟩
    · rintro ⟨found, hfound, rfl⟩
      exact Or.inr (Or.inr ⟨modules, m, rest, found, rfl, selectModule_eq_some_iff.1 hselect,
        hfound, rfl⟩)

end

/-- **A filter finds every name that contains it, or nothing at all.**  It finds them just if
each of its characters is lowered alike; and a scan for any other filter ends as soon as the
modules are listed, even if one of them is named by the filter itself. -/
theorem finds_literally_or_nothing {H : Type} (w : MagicWord) (filter : String) (step : UInt64)
    (process : H) :
    (FindsLiterally filter ↔ ∀ c ∈ filter.toList, Case.Alike c) ∧
    (¬ FindsLiterally filter → ∀ modules,
      selectModule (Case.asciiLower filter.toList) modules = none) ∧
    ∀ (modules : List Module) (rest : List (Exchange (hostInterface H)))
      (result : Except MemoryError (Option Address)),
      Runs (locate process (.ofFilter w filter step))
        (exchange (.modules process) (.ok modules) :: rest) result ↔
          match selectModule (Case.asciiLower filter.toList) modules with
          | none => rest = [] ∧ result = .ok none
          | some m => ∃ found, Searched (w.Probed process) (Address.stride m.base m.stop step)
              rest found ∧ result = .ok found := by
  refine ⟨findsLiterally_iff_alike, fun hmisses modules => ?_, fun _ _ _ => runs_locate_of_modules⟩
  rw [findsLiterally_iff_alike] at hmisses
  exact selectModule_of_not_alike hmisses

/-- **A capital with an accent hides the module that has it in its name.**  The name `É.so`
contains the filter `É`, and a scan for it ends without a look at the module. -/
theorem not_findsLiterally_accented :
    "É".toList <:+: "É.so".toList ∧
      selectModule (Case.asciiLower "É".toList) [⟨"É.so", ⟨0x1000⟩, 0x1000⟩] = none ∧
      Runs (locate () (.ofFilter {} "É" 0x1000))
        [exchange (.modules ()) (.ok [⟨"É.so", ⟨0x1000⟩, 0x1000⟩])] (.ok none) ∧
      ¬ FindsLiterally "É" := by
  have hnone : selectModule (Case.asciiLower "É".toList) [⟨"É.so", ⟨0x1000⟩, 0x1000⟩] = none := by
    decide +kernel
  have hcontains : "É".toList <:+: "É.so".toList := by decide
  refine ⟨hcontains, hnone, ?_, fun hfinds => ?_⟩
  · rw [runs_locate_of_modules, hnone]
    exact ⟨rfl, rfl⟩
  · obtain ⟨m, hm⟩ := hfinds [⟨"É.so", ⟨0x1000⟩, 0x1000⟩]
      ⟨_, List.mem_singleton_self _, hcontains⟩
    rw [hnone] at hm
    cases hm

end Strategy
end PadScout
