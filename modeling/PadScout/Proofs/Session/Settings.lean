import PadScout.Proofs.Locate.Memory
import PadScout.Proofs.Session.Cycle
import PadScout.Proofs.Word

/-! # Settings that can work

Settings are accepted if nothing in them makes attaching, locating or capturing pointless
(`Settings.Workable`): each host that scans a module names one, the memory has a size in
words, the places in a module go on, and some word has the bits of the magic word.  Whoever is
attached to with such settings is an instance of one of their hosts, however its name is
spelled, so that there is a strategy for it, and memory is captured in its full size
(`validate_iff_workable`).
-/
namespace PadScout

open Dialogue (Exchange Runs)
open Inquiry (exchange)

/-- **A word has the bits of a mask** only if the mask covers them. -/
theorem Word.exists_and_eq_iff {m v : UInt32} : (∃ w, w &&& m = v) ↔ v &&& ~~~m = 0 := by
  constructor
  · rintro ⟨w, rfl⟩
    rw [UInt32.and_assoc, UInt32.and_not_self, UInt32.and_zero]
  · intro h
    refine ⟨v, ?_⟩
    have hparts := Word.and_not_or_and v m
    rwa [h, UInt32.zero_or] at hparts

namespace Settings

/-- **Settings that can work.** -/
structure Workable (s : Settings) : Prop where
  hosts : s.hosts ≠ []
  /-- A host whose modules are looked through says which. -/
  filters : ∀ h ∈ s.hosts, h.strategy = .moduleScan → ∃ filter, h.moduleFilter = some filter
  ramSize : 0 < s.ramSize.toNat ∧ 4 ∣ s.ramSize.toNat
  step : 0 < s.moduleScanStep.toNat
  /-- Some word may stand at the start of the memory. -/
  magic : ∃ w : UInt32, ∀ h, (MagicWord.ofHost s h).fits w = true

variable {s : Settings}

theorem hostWithoutFilter?_eq_none_iff : s.hostWithoutFilter? = none ↔
    ∀ h ∈ s.hosts, h.strategy = .moduleScan → ∃ filter, h.moduleFilter = some filter := by
  rw [hostWithoutFilter?, List.find?_eq_none]
  refine forall_congr' fun h => forall_congr' fun _ => ?_
  rw [Bool.and_eq_true, beq_iff_eq, Option.isNone_iff_eq_none, not_and, ← ne_eq,
    Option.ne_none_iff_exists']

theorem ramSize_iff : ¬ (s.ramSize = 0 ∨ s.ramSize % 4 ≠ 0) ↔
    0 < s.ramSize.toNat ∧ 4 ∣ s.ramSize.toNat := by
  have hzero : s.ramSize = 0 ↔ s.ramSize.toNat = 0 := UInt32.toNat_inj.symm
  have hmod : s.ramSize % 4 = 0 ↔ s.ramSize.toNat % 4 = 0 := by
    rw [← UInt32.toNat_inj, UInt32.toNat_mod]
    rfl
  rw [not_or, ne_eq, not_not, hzero, hmod]
  omega

theorem exists_fits_iff : (∃ w : UInt32, ∀ h, (MagicWord.ofHost s h).fits w = true) ↔
    s.magicValue &&& ~~~s.magicMask = 0 := by
  rw [← Word.exists_and_eq_iff]
  refine exists_congr fun w => ?_
  simp only [MagicWord.fits_iff, MagicWord.ofHost]
  constructor
  · intro h
    exact h ⟨"", .regionScan, none, 0⟩
  · intro h _
    exact h

/-- **Exactly the settings that can work are accepted.** -/
theorem validate_eq_ok_iff : s.validate = .ok () ↔ s.Workable := by
  have hworkable : s.Workable ↔ s.hosts ≠ [] ∧ s.hostWithoutFilter? = none ∧
      ¬ (s.ramSize = 0 ∨ s.ramSize % 4 ≠ 0) ∧ s.moduleScanStep ≠ 0 ∧
      s.magicValue &&& ~~~s.magicMask = 0 := by
    have hstep : s.moduleScanStep ≠ 0 ↔ 0 < s.moduleScanStep.toNat := by
      rw [ne_eq, ← UInt64.toNat_inj, Nat.pos_iff_ne_zero]
      rfl
    rw [hostWithoutFilter?_eq_none_iff, ramSize_iff, hstep, ← exists_fits_iff]
    exact ⟨fun ⟨hhosts, hfilters, hsize, hstep, hmagic⟩ => ⟨hhosts, hfilters, hsize, hstep, hmagic⟩,
      fun ⟨hhosts, hfilters, hsize, hstep, hmagic⟩ => ⟨hhosts, hfilters, hsize, hstep, hmagic⟩⟩
  rw [hworkable, validate, ← List.isEmpty_eq_false_iff]
  cases s.hosts.isEmpty with
  | true => simp
  | false =>
    cases s.hostWithoutFilter? with
    | some h => simp
    | none =>
      by_cases hsize : s.ramSize = 0 ∨ s.ramSize % 4 ≠ 0
      · simp [hsize]
      · by_cases hstep : s.moduleScanStep = 0
        · simp [hsize, hstep]
        · by_cases hmagic : s.magicValue &&& ~~~s.magicMask = 0
          · simp [hsize, hstep, hmagic]
          · simp [hsize, hstep, hmagic]

/-- Settings that come from a file have been validated. -/
theorem validate_of_ofFile? {content : Except SystemError ByteArray}
    (h : ofFile? content = .ok s) : s.validate = .ok () := by
  rw [ofFile?] at h
  cases hread : content.bind SystemError.readText with
  | error cause =>
    rw [hread] at h
    cases h
  | ok text =>
    rw [hread] at h
    dsimp only at h
    rw [ofText?] at h
    cases hparse : (Json.parse? text.toList).bind ofJson? with
    | none =>
      rw [hparse] at h
      cases h
    | some other =>
      rw [hparse] at h
      dsimp only at h
      cases hvalid : other.validate with
      | error reason =>
        rw [hvalid] at h
        cases h
      | ok _ =>
        rw [hvalid] at h
        cases h
        exact hvalid

/-! ## Emulators -/

section Emulator
variable {H : Type} {a : Attachment H} {es : List (Exchange (hostInterface H))}

theorem mem_hosts_of_find (h : Runs (Attachment.find s) es (.ok (some a))) :
    a.host ∈ s.hosts := by
  rcases Attachment.runs_find.1 h with ⟨e, -, hresult⟩ | ⟨pids, rest, found, -, hfound, hresult⟩
  · cases hresult
  · cases hresult
    exact Attachment.host_mem_of_firstOf hfound

/-- **There is a strategy for every host.** -/
theorem Workable.exists_strategy (hs : s.Workable) {h : Host} (hmem : h ∈ s.hosts) :
    ∃ strategy, Strategy.ofHost s h = .ok strategy := by
  rw [Strategy.ofHost]
  cases hstrategy : h.strategy with
  | regionScan => exact ⟨_, rfl⟩
  | moduleScan =>
    obtain ⟨filter, hfilter⟩ := hs.filters h hmem hstrategy
    rw [hfilter]
    exact ⟨_, rfl⟩

/-- **Locating fails for reasons of the system only.** -/
theorem Workable.memory_of_locate (hs : s.Workable) (hmem : a.host ∈ s.hosts) {e : LocateError}
    (h : Runs (a.locate s) es (.error e)) : ∃ cause, e = .memory cause := by
  obtain ⟨strategy, hstrategy⟩ := hs.exists_strategy hmem
  obtain ⟨outcome, -, hresult⟩ := (Attachment.runs_locate_of_ok hstrategy).1 h
  cases outcome with
  | error cause =>
    cases hresult
    exact ⟨cause, rfl⟩
  | ok found => cases hresult

theorem Workable.four_mul_ramWords (hs : s.Workable) : 4 * s.ramWords = s.ramSize.toNat :=
  Nat.mul_div_cancel' hs.ramSize.2

/-- **Memory that has been located is captured in its full size.** -/
theorem Workable.captured_of_lock (hs : s.Workable) {found : Option LockedRam}
    (h : Runs (Session.lock s a) es found) :
    (∃ result, Runs (a.locate s) es result ∧ ∀ base, result ≠ .ok (some base)) ∨
    ∃ located base times, ∃ answer : Except MemoryError (Bytes s.ramSize.toNat),
      Runs (a.locate s) located (.ok (some base)) ∧
      es = located ++ exchange (.read a.process base s.ramSize.toNat) answer :: times := by
  rw [← hs.four_mul_ramWords]
  cases Session.runs_lock_iff.1 h with
  | unlocated hlocate => exact Or.inl ⟨_, hlocate, nofun⟩
  | nowhere hlocate => exact Or.inl ⟨_, hlocate, nofun⟩
  | uncaptured hlocate => exact Or.inr ⟨_, _, _, _, hlocate, rfl⟩
  | captured hlocate => exact Or.inr ⟨_, _, _, _, hlocate, rfl⟩

end Emulator

/-- **Validation accepts exactly the settings that can work**, and settings that are read from a
file have been accepted.  With such settings there is a strategy for every emulator that is
attached to, locating fails only where regions or modules cannot be listed, never for want of a
module to look through, and where memory is located it is captured in its full size, which is a
word at least. -/
theorem validate_iff_workable (s : Settings) :
    (s.validate = .ok () ↔ s.Workable) ∧
    (∀ content, ofFile? content = .ok s → s.validate = .ok ()) ∧
    (s.validate = .ok () → 4 ≤ s.ramSize.toNat ∧
      ∀ (H : Type) (a : Attachment H) (attached : List (Exchange (hostInterface H))),
        Runs (Attachment.find s) attached (.ok (some a)) →
        (∃ strategy, Strategy.ofHost s a.host = .ok strategy) ∧
        (∀ es name, ¬ Runs (a.locate s) es (.error (.missingFilter name))) ∧
        ∀ es found, Runs (Session.lock s a) es found →
          (∃ result, Runs (a.locate s) es result ∧ ∀ base, result ≠ .ok (some base)) ∨
          ∃ located base times, ∃ answer : Except MemoryError (Bytes s.ramSize.toNat),
            Runs (a.locate s) located (.ok (some base)) ∧
            es = located ++ exchange (.read a.process base s.ramSize.toNat) answer :: times) := by
  refine ⟨validate_eq_ok_iff, fun content => validate_of_ofFile?, fun hvalid => ?_⟩
  have hs := validate_eq_ok_iff.1 hvalid
  refine ⟨Nat.le_of_dvd hs.ramSize.1 hs.ramSize.2, fun H a attached hattached => ?_⟩
  have hmem := mem_hosts_of_find hattached
  refine ⟨hs.exists_strategy hmem, fun es name hlocate => ?_, fun es found => hs.captured_of_lock⟩
  obtain ⟨cause, hcause⟩ := hs.memory_of_locate hmem hlocate
  cases hcause

/-- The default settings can work.  A process whose name is one of their hosts, but for capitals,
is attached to with them, and there is a strategy for it. -/
theorem validate_iff_workable_default :
    ({} : Settings).Workable ∧ 4 ≤ ({} : Settings).ramSize.toNat ∧
      ∃ (a : Attachment Unit) (attached : List (Exchange (hostInterface Unit))),
        exchange (.nameOf ()) (some "RetroArch") ∈ attached ∧
        Runs (Attachment.find {}) attached (.ok (some a)) ∧
        a.host = ⟨"retroarch", .moduleScan, some "parallel_n64", 0⟩ ∧
        ∃ strategy, Strategy.ofHost {} a.host = .ok strategy := by
  have hvalid : ({} : Settings).validate = .ok () := by decide
  obtain ⟨hiff, -, huse⟩ := validate_iff_workable {}
  obtain ⟨hsize, hattach⟩ := huse hvalid
  have hhost : FirstOf (Host.SameName "RetroArch") ({} : Settings).hosts
      ⟨"retroarch", .moduleScan, some "parallel_n64", 0⟩ :=
    hostFor?_eq_some_iff.1 (by decide)
  have hattached : Runs (Attachment.find {})
      [exchange (.processIds) (.ok [7]), exchange (.attach 7) (some ()),
        exchange (.nameOf ()) (some "RetroArch")]
      (.ok (some ⟨7, (), ⟨"retroarch", .moduleScan, some "parallel_n64", 0⟩⟩)) :=
    Attachment.runs_find_iff.2 (Or.inr ⟨[7], _, _, rfl,
      Dialogue.searched_cons_iff.2 (Or.inl ⟨_, .emulator () "RetroArch" _ hhost, rfl⟩), rfl⟩)
  exact ⟨hiff.1 hvalid, hsize, _, _, by simp, hattached, rfl, (hattach Unit _ _ hattached).1⟩

end Settings
end PadScout
