import Mathlib.Algebra.Group.Nat.Defs
import PadScout.Proofs.Host.Stride
import PadScout.Proofs.Locate.Host

/-! # Locating the console's memory

What comes of looking at one place is listed by `MagicWord.Probed`: the place passes if the
word at the distance of the magic word is inside the space, can be read and has the bits
that matter.  Both strategies look at places in turn (`Strategy.runs_firstFit`): a region
scan at the starts of the regions that may hold the memory, a module scan at regular
distances in the first module that the filter matches.  `Attachment.Located` lists what
this can come to, and `attaching_and_locating` says that it is all.
-/
namespace PadScout

open Dialogue (Exchange Runs Searched firstSome)
open Inquiry (exchange)

variable {H : Type} {es : List (Exchange (hostInterface H))}

/-! ## One place -/

namespace MagicWord

/-- **What comes of looking at one place.**  A place that cannot be read does not pass, and
neither does one whose magic word would lie behind the end of the space. -/
inductive Probed (w : MagicWord) (process : H) (place : Address) :
    List (Exchange (hostInterface H)) → Option Address → Prop where
  | beyond (hend : 2 ^ 64 ≤ place.value.toNat + w.offset.toNat) : Probed w process place [] none
  | unreadable (address : Address)
      (haddress : address.value.toNat = place.value.toNat + w.offset.toNat) (e : MemoryError) :
      Probed w process place [exchange (.read process address 4) (.error e)] none
  | unfit (address : Address)
      (haddress : address.value.toNat = place.value.toNat + w.offset.toNat) (bytes : Bytes 4)
      (hword : bytes.word &&& w.mask ≠ w.value) :
      Probed w process place [exchange (.read process address 4) (.ok bytes)] none
  | fit (address : Address)
      (haddress : address.value.toNat = place.value.toNat + w.offset.toNat) (bytes : Bytes 4)
      (hword : bytes.word &&& w.mask = w.value) :
      Probed w process place [exchange (.read process address 4) (.ok bytes)] (some place)

theorem fits_iff {w : MagicWord} {word : UInt32} :
    w.fits word = true ↔ word &&& w.mask = w.value := by
  rw [fits, beq_iff_eq]

/-- A look at one place. -/
def probe (w : MagicWord) (process : H) (place : Address) : Inquiry H (Option Address) := do
  if ← w.test process place then return some place else return none

section
variable {w : MagicWord} {process : H} {place address : Address} {x : Option Address}

theorem runs_probe_of_add? (h : place.add? w.offset = some address) :
    Runs (probe w process place) es x ↔ ∃ answer : Except MemoryError (Bytes 4),
      es = [exchange (.read process address 4) answer] ∧ x = match answer with
        | .ok bytes => if w.fits bytes.word then some place else none
        | .error _ => none := by
  rw [probe, test, h]
  dsimp only
  rw [Dialogue.bind_bind]
  refine Inquiry.runs_bind_of_silent (.read process address 4)
    (fun _ _ => Inquiry.runs_readWord) fun answer => ?_
  match answer with
  | .ok bytes =>
    change Dialogue.Silent (if w.fits bytes.word = true then .done (some place) else .done none)
      (if w.fits bytes.word = true then some place else none)
    split
    · exact Dialogue.silent_done _
    · exact Dialogue.silent_done _
  | .error e => exact (Dialogue.silent_done _).remark _

theorem runs_probe : Runs (probe w process place) es x ↔ Probed w process place es x := by
  cases hadd : place.add? w.offset with
  | none =>
    have hrun : Runs (probe w process place) es x ↔ es = [] ∧ x = none := by
      rw [probe, test, hadd]
      exact Dialogue.runs_done_iff
    have hend := Address.add?_eq_none_iff.1 hadd
    rw [hrun]
    constructor
    · rintro ⟨rfl, rfl⟩
      exact .beyond hend
    · intro h
      cases h with
      | beyond => exact ⟨rfl, rfl⟩
      | unreadable address haddress | unfit address haddress | fit address haddress =>
        rw [Address.add?_eq_some_iff.2 haddress] at hadd
        cases hadd
  | some address =>
    have hsum := Address.add?_eq_some_iff.1 hadd
    rw [runs_probe_of_add? hadd]
    constructor
    · rintro ⟨answer, rfl, rfl⟩
      cases answer with
      | error e => exact .unreadable address hsum e
      | ok bytes =>
        dsimp only
        split
        · next hfits => exact .fit address hsum bytes (fits_iff.1 hfits)
        · next hfits => exact .unfit address hsum bytes (mt fits_iff.2 hfits)
    · intro h
      cases h with
      | beyond hend =>
        rw [Address.add?_eq_none_iff.2 hend] at hadd
        cases hadd
      | unreadable other hother e =>
        obtain rfl := Address.eq_of_toNat_eq (hother.trans hsum.symm)
        exact ⟨.error e, rfl, rfl⟩
      | unfit other hother bytes hword =>
        obtain rfl := Address.eq_of_toNat_eq (hother.trans hsum.symm)
        exact ⟨.ok bytes, rfl, (if_neg (mt fits_iff.1 hword)).symm⟩
      | fit other hother bytes hword =>
        obtain rfl := Address.eq_of_toNat_eq (hother.trans hsum.symm)
        exact ⟨.ok bytes, rfl, (if_pos (fits_iff.2 hword)).symm⟩

end

end MagicWord

/-! ## Places in turn -/

/-- The name of the module contains the filter.  The name is in lower case, and so are the
letters from A to Z of the filter. -/
def Module.Matches (filter : String) (m : Module) : Prop :=
  Case.asciiLower filter.toList <:+: m.lowerName

/-- The places of a module at regular distances; a distance of nothing counts as one. -/
def Module.PlacesAt (m : Module) (step : UInt64) (places : List Address) : Prop :=
  ∀ k place, places[k]? = some place ↔
    place.value.toNat = m.base.value.toNat + k * max step.toNat 1 ∧
      place.value.toNat < (m.base.value.toNat + m.size.toNat) % 2 ^ 64

theorem Module.placesAt_iff {m : Module} {step : UInt64} {places : List Address} :
    m.PlacesAt step places ↔ places = Address.stride m.base m.stop step := by
  have hstride : m.PlacesAt step (Address.stride m.base m.stop step) := by
    intro k place
    have hstop : m.stop.value.toNat = (m.base.value.toNat + m.size.toNat) % 2 ^ 64 := m.toNat_stop
    rw [Address.getElem?_stride, hstop]
  constructor
  · intro h
    refine List.ext_getElem? fun k => Option.ext fun place => ?_
    exact (h k place).trans (hstride k place).symm
  · rintro rfl
    exact hstride

namespace Strategy

theorem containsText_iff {part s : List Char} : containsText part s = true ↔ part <:+: s := by
  induction s with
  | nil => rw [containsText, List.isEmpty_iff, List.infix_nil]
  | cons c s ih => rw [containsText, Bool.or_eq_true, List.isPrefixOf_iff_prefix, ih,
      List.infix_cons_iff]

theorem selectModule_eq_some_iff {filter : String} {modules : List Module} {m : Module} :
    selectModule (Case.asciiLower filter.toList) modules = some m ↔
      FirstOf (Module.Matches filter) modules m :=
  find?_eq_some_iff_firstOf fun _ => containsText_iff

theorem selectModule_eq_none_iff {filter : String} {modules : List Module} :
    selectModule (Case.asciiLower filter.toList) modules = none ↔
      ∀ m ∈ modules, ¬ m.Matches filter := by
  rw [selectModule, List.find?_eq_none]
  simp only [containsText_iff, Module.Matches]

section
variable {w : MagicWord} {process : H}

theorem firstFit_eq_firstSome (places : List Address) :
    firstFit w process places = firstSome (w.probe process) places := by
  induction places with
  | nil => rfl
  | cons place places ih =>
    rw [firstFit, firstSome, MagicWord.probe, Dialogue.bind_bind, ← ih]
    refine congrArg (w.test process place >>= ·) (funext fun fits => ?_)
    cases fits <;> rfl

/-- **Places are looked at in turn.** -/
theorem runs_firstFit {places : List Address} {found : Option Address} :
    Runs (firstFit w process places) es found ↔
      Searched (w.Probed process) places es found := by
  rw [firstFit_eq_firstSome]
  exact Dialogue.runs_firstSome fun _ _ _ => MagicWord.runs_probe

/-- Both strategies end with a look at their places, after a remark. -/
theorem runs_note_firstFit {level : Level} {origin : Origin} {message : Unit → String}
    {places : List Address} {result : Except MemoryError (Option Address)} :
    Runs (do
      Dialogue.note level origin message
      return .ok (← firstFit w process places)) es result ↔
      ∃ found, Searched (w.Probed process) places es found ∧ result = .ok found := by
  have hnote : Runs (do
      Dialogue.note level origin message
      return .ok (← firstFit w process places)) es result ↔
      Runs (firstFit w process places >>= fun found => .done (.ok found)) es result :=
    Dialogue.runs_remark_iff
  rw [hnote, Dialogue.runs_bind]
  constructor
  · rintro ⟨looks, after, found, rfl, hlooks, hafter⟩
    obtain ⟨rfl, rfl⟩ := Dialogue.runs_done_iff.1 hafter
    rw [List.append_nil]
    exact ⟨found, runs_firstFit.1 hlooks, rfl⟩
  · rintro ⟨found, hfound, rfl⟩
    exact ⟨es, [], found, (List.append_nil es).symm, runs_firstFit.2 hfound, .done _⟩

theorem runs_locate_regionScan {result : Except MemoryError (Option Address)} :
    Runs (locate process (.regionScan w)) es result ↔
      (∃ e, es = [exchange (.regions process) (.error e)] ∧ result = .error e) ∨
      ∃ regions rest found, es = exchange (.regions process) (.ok regions) :: rest ∧
        Searched (w.Probed process) ((candidates regions).map Region.base) rest found ∧
        result = .ok found := by
  rw [locate, Inquiry.runs_ask_bind]
  constructor
  · rintro ⟨answer, rest, rfl, h⟩
    match answer, h with
    | .error e, h =>
      obtain ⟨rfl, rfl⟩ := Dialogue.runs_done_iff.1 h
      exact Or.inl ⟨e, rfl, rfl⟩
    | .ok regions, h =>
      obtain ⟨found, hfound, rfl⟩ := runs_note_firstFit.1 h
      exact Or.inr ⟨regions, rest, found, rfl, hfound, rfl⟩
  · rintro (⟨e, rfl, rfl⟩ | ⟨regions, rest, found, rfl, hfound, rfl⟩)
    · exact ⟨.error e, [], rfl, .done _⟩
    · exact ⟨.ok regions, rest, rfl, runs_note_firstFit.2 ⟨found, hfound, rfl⟩⟩

theorem runs_locate_moduleScan {filter : String} {step : UInt64}
    {result : Except MemoryError (Option Address)} :
    Runs (locate process (.ofFilter w filter step)) es result ↔
      (∃ e, es = [exchange (.modules process) (.error e)] ∧ result = .error e) ∨
      (∃ modules, es = [exchange (.modules process) (.ok modules)] ∧
        (∀ m ∈ modules, ¬ m.Matches filter) ∧ result = .ok none) ∨
      ∃ modules m rest found, es = exchange (.modules process) (.ok modules) :: rest ∧
        FirstOf (Module.Matches filter) modules m ∧
        Searched (w.Probed process) (Address.stride m.base m.stop step) rest found ∧
        result = .ok found := by
  rw [ofFilter, locate, Inquiry.runs_ask_bind]
  constructor
  · rintro ⟨answer, rest, rfl, h⟩
    match answer, h with
    | .error e, h =>
      obtain ⟨rfl, rfl⟩ := Dialogue.runs_done_iff.1 h
      exact Or.inl ⟨e, rfl, rfl⟩
    | .ok modules, h =>
      dsimp only at h
      cases hselect : selectModule (Case.asciiLower filter.toList) modules with
      | none =>
        rw [hselect] at h
        obtain ⟨rfl, rfl⟩ := Dialogue.runs_done_iff.1 (Dialogue.runs_remark_iff.1 h)
        exact Or.inr (Or.inl ⟨modules, rfl, selectModule_eq_none_iff.1 hselect, rfl⟩)
      | some m =>
        rw [hselect] at h
        dsimp only at h
        rw [strideFit_eq] at h
        obtain ⟨found, hfound, rfl⟩ := runs_note_firstFit.1 h
        exact Or.inr (Or.inr ⟨modules, m, rest, found, rfl, selectModule_eq_some_iff.1 hselect,
          hfound, rfl⟩)
  · rintro (⟨e, rfl, rfl⟩ | ⟨modules, rfl, hmodules, rfl⟩ |
      ⟨modules, m, rest, found, rfl, hm, hfound, rfl⟩)
    · exact ⟨.error e, [], rfl, .done _⟩
    · refine ⟨.ok modules, [], rfl, ?_⟩
      dsimp only
      rw [selectModule_eq_none_iff.2 hmodules]
      exact Dialogue.runs_remark_iff.2 (.done _)
    · refine ⟨.ok modules, rest, rfl, ?_⟩
      dsimp only
      rw [selectModule_eq_some_iff.2 hm]
      dsimp only
      rw [strideFit_eq]
      exact runs_note_firstFit.2 ⟨found, hfound, rfl⟩

end

end Strategy

/-! ## Locating -/

namespace Attachment

variable {s : Settings} {a : Attachment H} {result : Except LocateError (Option Address)}

/-- **What locating the memory comes to**, by the strategy of the host.  It fails only if the
module to look through is not named, or if regions or modules cannot be listed. -/
inductive Located (s : Settings) (a : Attachment H) :
    List (Exchange (hostInterface H)) → Except LocateError (Option Address) → Prop where
  | noRegions (hstrategy : a.host.strategy = .regionScan) (e : MemoryError) :
      Located s a [exchange (.regions a.process) (.error e)] (.error (.memory e))
  | regionScan (hstrategy : a.host.strategy = .regionScan) (regions : List Region)
      (rest : List (Exchange (hostInterface H))) (found : Option Address)
      (hfound : Searched ((MagicWord.ofHost s a.host).Probed a.process)
        ((regions.filter fun r => r.protection.read && !r.protection.guard &&
          (r.protection.write || !r.protection.execute)).map Region.base) rest found) :
      Located s a (exchange (.regions a.process) (.ok regions) :: rest) (.ok found)
  | noFilter (hstrategy : a.host.strategy = .moduleScan) (hfilter : a.host.moduleFilter = none) :
      Located s a [] (.error (.missingFilter a.host.processName))
  | noModules (hstrategy : a.host.strategy = .moduleScan) (filter : String)
      (hfilter : a.host.moduleFilter = some filter) (e : MemoryError) :
      Located s a [exchange (.modules a.process) (.error e)] (.error (.memory e))
  | noMatch (hstrategy : a.host.strategy = .moduleScan) (filter : String)
      (hfilter : a.host.moduleFilter = some filter) (modules : List Module)
      (hmodules : ∀ m ∈ modules, ¬ m.Matches filter) :
      Located s a [exchange (.modules a.process) (.ok modules)] (.ok none)
  | moduleScan (hstrategy : a.host.strategy = .moduleScan) (filter : String)
      (hfilter : a.host.moduleFilter = some filter) (modules : List Module) (m : Module)
      (hm : FirstOf (Module.Matches filter) modules m) (places : List Address)
      (hplaces : m.PlacesAt s.moduleScanStep places)
      (rest : List (Exchange (hostInterface H))) (found : Option Address)
      (hfound : Searched ((MagicWord.ofHost s a.host).Probed a.process) places rest found) :
      Located s a (exchange (.modules a.process) (.ok modules) :: rest) (.ok found)

theorem runs_locate_of_error {e : LocateError} (h : Strategy.ofHost s a.host = .error e) :
    Runs (a.locate s) es result ↔ es = [] ∧ result = .error e := by
  rw [locate, h]
  exact Dialogue.runs_done_iff

/-- The outcome of the strategy is that of locating; remarks change nothing. -/
theorem runs_locate_of_ok {strategy : Strategy} (h : Strategy.ofHost s a.host = .ok strategy) :
    Runs (a.locate s) es result ↔ ∃ outcome, Runs (strategy.locate a.process) es outcome ∧
      result = outcome.mapError LocateError.memory := by
  rw [locate, h]
  dsimp only
  rw [Dialogue.runs_bind]
  constructor
  · rintro ⟨before, after, outcome, rfl, hbefore, hafter⟩
    cases outcome with
    | error e =>
      obtain ⟨rfl, rfl⟩ := Dialogue.runs_done_iff.1 hafter
      exact ⟨.error e, by rwa [List.append_nil], rfl⟩
    | ok found =>
      obtain ⟨rfl, rfl⟩ := Dialogue.runs_done_iff.1 (Dialogue.runs_remark_iff.1 hafter)
      exact ⟨.ok found, by rwa [List.append_nil], rfl⟩
  · rintro ⟨outcome, houtcome, rfl⟩
    refine ⟨es, [], outcome, (List.append_nil es).symm, houtcome, ?_⟩
    cases outcome with
    | error e => exact .done _
    | ok found => exact Dialogue.runs_remark_iff.2 (.done _)

theorem ofHost_of_regionScan (hstrategy : a.host.strategy = .regionScan) :
    Strategy.ofHost s a.host = .ok (.regionScan (.ofHost s a.host)) := by
  rw [Strategy.ofHost, hstrategy]

theorem ofHost_of_moduleScan (hstrategy : a.host.strategy = .moduleScan) {filter : String}
    (hfilter : a.host.moduleFilter = some filter) : Strategy.ofHost s a.host =
      .ok (.ofFilter (.ofHost s a.host) filter s.moduleScanStep) := by
  rw [Strategy.ofHost, hstrategy, hfilter]

theorem ofHost_of_noFilter (hstrategy : a.host.strategy = .moduleScan)
    (hfilter : a.host.moduleFilter = none) :
    Strategy.ofHost s a.host = .error (.missingFilter a.host.processName) := by
  rw [Strategy.ofHost, hstrategy, hfilter]

theorem located_of_runs (h : Runs (a.locate s) es result) : Located s a es result := by
  cases hstrategy : a.host.strategy with
  | regionScan =>
    obtain ⟨outcome, hrun, rfl⟩ := (runs_locate_of_ok (ofHost_of_regionScan hstrategy)).1 h
    obtain ⟨e, rfl, rfl⟩ | ⟨regions, rest, found, rfl, hfound, rfl⟩ :=
      Strategy.runs_locate_regionScan.1 hrun
    · exact .noRegions hstrategy e
    · exact .regionScan hstrategy regions rest found hfound
  | moduleScan =>
    cases hfilter : a.host.moduleFilter with
    | none =>
      obtain ⟨rfl, rfl⟩ := (runs_locate_of_error (ofHost_of_noFilter hstrategy hfilter)).1 h
      exact .noFilter hstrategy hfilter
    | some filter =>
      obtain ⟨outcome, hrun, rfl⟩ :=
        (runs_locate_of_ok (ofHost_of_moduleScan hstrategy hfilter)).1 h
      obtain ⟨e, rfl, rfl⟩ | ⟨modules, rfl, hmodules, rfl⟩ |
        ⟨modules, m, rest, found, rfl, hm, hfound, rfl⟩ := Strategy.runs_locate_moduleScan.1 hrun
      · exact .noModules hstrategy filter hfilter e
      · exact .noMatch hstrategy filter hfilter modules hmodules
      · exact .moduleScan hstrategy filter hfilter modules m hm _ (Module.placesAt_iff.2 rfl)
          rest found hfound

theorem runs_of_located (h : Located s a es result) : Runs (a.locate s) es result := by
  cases h with
  | noRegions hstrategy e =>
    exact (runs_locate_of_ok (ofHost_of_regionScan hstrategy)).2
      ⟨.error e, Strategy.runs_locate_regionScan.2 (Or.inl ⟨e, rfl, rfl⟩), rfl⟩
  | regionScan hstrategy regions rest found hfound =>
    exact (runs_locate_of_ok (ofHost_of_regionScan hstrategy)).2 ⟨.ok found,
      Strategy.runs_locate_regionScan.2 (Or.inr ⟨regions, rest, found, rfl, hfound, rfl⟩), rfl⟩
  | noFilter hstrategy hfilter =>
    exact (runs_locate_of_error (ofHost_of_noFilter hstrategy hfilter)).2 ⟨rfl, rfl⟩
  | noModules hstrategy filter hfilter e =>
    exact (runs_locate_of_ok (ofHost_of_moduleScan hstrategy hfilter)).2
      ⟨.error e, Strategy.runs_locate_moduleScan.2 (Or.inl ⟨e, rfl, rfl⟩), rfl⟩
  | noMatch hstrategy filter hfilter modules hmodules =>
    exact (runs_locate_of_ok (ofHost_of_moduleScan hstrategy hfilter)).2 ⟨.ok none,
      Strategy.runs_locate_moduleScan.2 (Or.inr (Or.inl ⟨modules, rfl, hmodules, rfl⟩)), rfl⟩
  | moduleScan hstrategy filter hfilter modules m hm places hplaces rest found hfound =>
    rw [Module.placesAt_iff.1 hplaces] at hfound
    exact (runs_locate_of_ok (ofHost_of_moduleScan hstrategy hfilter)).2 ⟨.ok found,
      Strategy.runs_locate_moduleScan.2
        (Or.inr (Or.inr ⟨modules, m, rest, found, rfl, hm, hfound, rfl⟩)), rfl⟩

/-- **Attaching and locating**, whatever is answered, also if the same question is answered
differently from time to time.

An emulator is the first process in the order of the answer that can be opened and goes by
the name of a host, with the first such host; other processes are passed over, and the search
fails only if processes cannot be listed.

The memory starts at the first place whose magic word can be read and fits.  The places are
the starts of the regions that are readable and not guarded, and can be written or are no
code, or those at regular distances in the first module that the filter matches.  Without
such a place nothing is found.  A place that cannot be read is passed over. -/
theorem attaching_and_locating (s : Settings) :
    (∀ (es : List (Exchange (hostInterface H)))
      (result : Except LocateError (Option (Attachment H))), Runs (find s) es result ↔
        (∃ e, es = [exchange .processIds (.error e)] ∧ result = .error (.memory e)) ∨
        ∃ pids rest found, es = exchange .processIds (.ok pids) :: rest ∧
          Searched (Checked s) pids rest found ∧ result = .ok found) ∧
    ∀ (a : Attachment H) (es : List (Exchange (hostInterface H)))
      (result : Except LocateError (Option Address)),
        Runs (a.locate s) es result ↔ Located s a es result :=
  ⟨fun _ _ => runs_find_iff, fun _ _ _ => ⟨located_of_runs, runs_of_located⟩⟩

/-- **A distance of nothing is taken as one.**  The memory is then found one byte behind the
start of the module, although the start is the only place at a multiple of the distance.  No
settings that have been validated are such. -/
theorem locate_of_zeroStep :
    ∃ (s : Settings) (a : Attachment Unit) (m : Module) (b : Address) (bytes : Bytes 4),
      s.moduleScanStep = 0 ∧ a.host.strategy = .moduleScan ∧
        a.host.moduleFilter = some "retro" ∧ m.Matches "retro" ∧
        Runs (a.locate s)
          [exchange (.modules a.process) (.ok [m]),
            exchange (.read a.process m.base 4) (.error (.readFailed m.base.value 4)),
            exchange (.read a.process b 4) (.ok bytes)] (.ok (some b)) ∧
        ∀ k, b.value.toNat ≠ m.base.value.toNat + k * s.moduleScanStep.toNat := by
  have hmatch : Module.Matches "retro" ⟨"retroarch", ⟨0x1000⟩, 8⟩ :=
    List.IsPrefix.isInfix ⟨"arch".toList, rfl⟩
  refine ⟨{ moduleScanStep := 0 }, ⟨5, (), ⟨"retroarch", .moduleScan, some "retro", 0⟩⟩,
    ⟨"retroarch", ⟨0x1000⟩, 8⟩, ⟨0x1001⟩, ⟨⟨#[0x00, 0x80, 0x1A, 0x3C]⟩, rfl⟩, rfl, rfl, rfl, hmatch,
    runs_of_located ?_, fun k => ?_⟩
  · refine .moduleScan rfl "retro" rfl _ _ ⟨[], [], rfl, hmatch, nofun⟩ _
      (Module.placesAt_iff.2 rfl) _ _ ?_
    rw [Address.stride_of_next?_eq_some (a := ⟨0x1001⟩) (by decide) (by decide)]
    refine Dialogue.searched_cons_iff.2 (Or.inr ⟨[_], [_], rfl,
      .unreadable _ (by decide) _, ?_⟩)
    rw [Address.stride_of_next?_eq_some (a := ⟨0x1002⟩) (by decide) (by decide)]
    exact Dialogue.searched_cons_iff.2 (Or.inl ⟨_, .fit _ (by decide) _ (by decide), rfl⟩)
  · have hstep : (0 : UInt64).toNat = 0 := rfl
    rw [hstep, Nat.mul_zero]
    decide

end Attachment
end PadScout
