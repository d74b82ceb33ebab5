import PadScout.CallSite
import PadScout.Proofs.Mips.Canonical

/-! # Finding calls

Calls are found by comparing words.  A word is the one that `callTo` builds for an index
just if it decodes to a call whose target is the byte address of that index
(`callTo_eq_ok_iff`), so `callSitesTo` lists the sites whose word calls one of the given
routines (`Image.Calls`), and it does so for all routines that a call can reach
(`callSitesTo_of_lt`).
-/
namespace PadScout

open Mips

/-- The word at an index is a call of the routine at another one. -/
def Image.Calls (m : Image) (site routine : Nat) : Prop :=
  ∃ w target, m.get? site = some w ∧ calledTarget? w = some target ∧
    target.toNat = 4 * routine

theorem Image.lt_size_of_calls {m : Image} {site routine : Nat} (h : m.Calls site routine) :
    site < m.size := by
  obtain ⟨w, -, hw, -⟩ := h
  exact (Array.getElem?_eq_some_iff.1 hw).1

/-! ## Words of calls -/

theorem ofFields_jal (w : UInt32) :
    Instruction.ofFields .jal w = .jal (Field.target.extract w <<< 2) := rfl

theorem decode_of_encode_jal {w target : UInt32} (h : (Instruction.jal target).encode = .ok w) :
    decode w = .ok (.jal target) :=
  Instruction.decode_eq_of_encode h (by decide : Kind.jal ≠ .sll) rfl

/-- **The word of a call tells its target.** -/
theorem calledTarget?_eq_some_iff {w target : UInt32} :
    calledTarget? w = some target ↔ (Instruction.jal target).encode = .ok w := by
  constructor
  · intro h
    rw [calledTarget?] at h
    split at h
    · rename_i i hi
      split at h
      · rename_i hkind
        have hencode := (has_and_encode_of_decode hi).2
        rcases decode_eq_ok_iff.1 hi with ⟨-, rfl⟩ | ⟨-, k, -, -, rfl⟩
        · cases hkind
        · rw [Instruction.kind_ofFields] at hkind
          subst hkind
          rw [ofFields_jal] at h hencode
          cases h
          exact hencode
      · cases h
    · cases h
  · intro h
    rw [calledTarget?, decode_of_encode_jal h]
    rfl

theorem encode_jal_of_jumpFits {target : UInt32} (h : jumpFits target = true) :
    ∃ w, (Instruction.jal target).encode = .ok w := by
  refine ⟨Kind.jal.selector ||| (target >>> 2) <<< Field.target.low, ?_⟩
  have hoperand : (Instruction.jal target).operand .target = .ok (target >>> 2) := if_pos h
  rw [Instruction.encode]
  change (Instruction.jal target).pack [.target] _ = _
  rw [Instruction.pack, hoperand]
  rfl

/-! ## Calls of routines -/

theorem callTarget_of_lt {index : Nat} (h : index < 0x4000000) :
    (callTarget index).toNat = 4 * index ∧ jumpFits (callTarget index) = true := by
  have hvalue : (callTarget index).toNat = 4 * index := by
    rw [callTarget, if_pos (show 4 * index < 0x100000000 by omega), UInt32.toNat_ofNat']
    omega
  refine ⟨hvalue, ?_⟩
  rw [jumpFits, Bool.and_eq_true, beq_iff_eq, decide_eq_true_eq]
  constructor
  · apply UInt32.toNat_inj.1
    rw [UInt32.toNat_mod, hvalue]
    change 4 * index % 4 = 0
    omega
  · rw [UInt32.lt_iff_toNat_lt, hvalue]
    change 4 * index < 0x10000000
    omega

theorem callTo_eq_ok_iff {index : Nat} {w : UInt32} (h : index < 0x4000000) :
    callTo index = .ok w ↔ ∃ target, calledTarget? w = some target ∧ target.toNat = 4 * index := by
  have hencode : callTo index = .ok w ↔ (Instruction.jal (callTarget index)).encode = .ok w := by
    rw [callTo]
    split <;> simp_all
  rw [hencode, ← calledTarget?_eq_some_iff]
  constructor
  · intro hcalled
    exact ⟨_, hcalled, (callTarget_of_lt h).1⟩
  · rintro ⟨target, hcalled, htarget⟩
    rw [hcalled, UInt32.toNat_inj.1 (htarget.trans (callTarget_of_lt h).1.symm)]

theorem exists_callTo {index : Nat} (h : index < 0x4000000) : ∃ w, callTo index = .ok w := by
  obtain ⟨w, hw⟩ := encode_jal_of_jumpFits (callTarget_of_lt h).2
  refine ⟨w, ?_⟩
  rw [callTo, hw]

theorem callsTo_of_lt {routines : List Nat} (h : ∀ t ∈ routines, t < 0x4000000) :
    ∃ calls, callsTo routines = .ok calls ∧ ∀ w, w ∈ calls ↔
      ∃ t ∈ routines, ∃ target, calledTarget? w = some target ∧ target.toNat = 4 * t := by
  induction routines with
  | nil => exact ⟨[], rfl, fun w => by simp⟩
  | cons t routines ih =>
    obtain ⟨calls, hcalls, hmem⟩ := ih fun s hs => h s (List.mem_cons_of_mem _ hs)
    obtain ⟨call, hcall⟩ := exists_callTo (h t List.mem_cons_self)
    refine ⟨call :: calls, ?_, fun w => ?_⟩
    · rw [callsTo, hcall, hcalls]
    · have hhead : w = call ↔
          ∃ target, calledTarget? w = some target ∧ target.toNat = 4 * t := by
        rw [← callTo_eq_ok_iff (h t List.mem_cons_self), hcall, Except.ok.injEq, eq_comm]
      rw [List.mem_cons, hmem w, hhead]
      simp only [List.mem_cons, exists_eq_or_imp]

/-- Whatever is looked for, calls are found in the image only. -/
theorem lt_size_of_callSitesTo {m : Image} {routines : List Nat} {sites : CallSites} {site : Nat}
    (h : callSitesTo m routines = .ok sites) (hsite : site ∈ sites.toList) : site < m.size := by
  rw [callSitesTo] at h
  split at h
  · cases h
  · cases h
    exact (Ascending.mem_below.1 hsite).1

/-- **Routines in reach of calls**: the sites that call one of them are found, in order. -/
theorem callSitesTo_of_lt (m : Image) {routines : List Nat} (h : ∀ t ∈ routines, t < 0x4000000) :
    ∃ sites, callSitesTo m routines = .ok sites ∧
      ∀ site, site ∈ sites.toList ↔ ∃ t ∈ routines, m.Calls site t := by
  obtain ⟨calls, hcalls, hmem⟩ := callsTo_of_lt h
  refine ⟨.ofImage m calls.contains, ?_, fun site => ?_⟩
  · rw [callSitesTo, hcalls]
  · change site ∈ Ascending.below _ _ ↔ _
    rw [Ascending.mem_below, Option.any_eq_true]
    constructor
    · rintro ⟨-, w, hw, hcall⟩
      obtain ⟨t, ht, target, hcalled, htarget⟩ := (hmem w).1 (List.contains_iff_mem.1 hcall)
      exact ⟨t, ht, w, target, hw, hcalled, htarget⟩
    · rintro ⟨t, ht, hcalls⟩
      obtain ⟨w, target, hw, hcalled, htarget⟩ := hcalls
      refine ⟨(Array.getElem?_eq_some_iff.1 hw).1, w, hw, List.contains_iff_mem.2 ?_⟩
      exact (hmem w).2 ⟨t, ht, target, hcalled, htarget⟩

end PadScout
