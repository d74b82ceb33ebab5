import Mathlib.Data.List.Pairwise
import PadScout.Host.ProcessTable
import PadScout.Proofs.Host.Stride
import PadScout.Proofs.Memory.Part

/-! # Memory in a table of processes

A read is answered from the first readable block that wholly holds the stretch.  Blocks that
are apart from one another have no say in the memory of others, so that the block that holds a
stretch answers for its parts too (`Process.read?_of_block`).  A table of such processes is
consistent as long as it stays as it is (`ProcessTable.consistent_answer`).
-/
namespace PadScout

namespace Block

/-- The address of the first byte, as a number. -/
def start (b : Block) : Nat := b.region.base.value.toNat

/-- The number behind the last byte. -/
def stop (b : Block) : Nat := b.start + b.bytes.size

/-- A block has all bytes of a stretch of memory. -/
def Holds (b : Block) (address : Address) (length : Nat) : Prop :=
  b.start ≤ address.value.toNat ∧ address.value.toNat + length ≤ b.stop

instance (b : Block) (address : Address) (length : Nat) : Decidable (b.Holds address length) :=
  inferInstanceAs (Decidable (_ ∧ _))

/-- No address is in both blocks. -/
def Apart (b c : Block) : Prop := b.stop ≤ c.start ∨ c.stop ≤ b.start

instance (b c : Block) : Decidable (b.Apart c) := inferInstanceAs (Decidable (_ ∨ _))

instance : Std.Symm Apart := ⟨fun _ _ h => h.symm⟩

/-- **A block answers for the stretches that it holds.** -/
theorem read?_eq_some_iff {b : Block} {address : Address} {length : Nat} {bytes : Bytes length} :
    b.read? address length = some bytes ↔ b.Holds address length ∧
      bytes.val = b.bytes.extract (address.value.toNat - b.start)
        (address.value.toNat - b.start + length) := by
  have hoffset : b.offset? address length =
      if b.Holds address length then some (address.value.toNat - b.start) else none := rfl
  rw [read?, hoffset]
  by_cases hholds : b.Holds address length
  · have hsize : (b.bytes.extract (address.value.toNat - b.start)
        (address.value.toNat - b.start + length)).size = length := by
      obtain ⟨hstart, hstop⟩ := hholds
      rw [stop] at hstop
      rw [ByteArray.size_extract]
      omega
    rw [if_pos hholds]
    dsimp only
    rw [dif_pos hsize]
    constructor
    · intro h
      exact ⟨hholds, (congrArg Subtype.val (Option.some.inj h)).symm⟩
    · rintro ⟨-, hbytes⟩
      exact congrArg some (Subtype.ext hbytes.symm)
  · rw [if_neg hholds]
    exact ⟨nofun, fun h => absurd h.1 hholds⟩

/-- A block answers for the parts of what it holds; the end of the block must not be the end
of the space, where addresses wrap around. -/
theorem read?_slice {b : Block} (hb : b.stop < UInt64.size) {address : Address} {n : Nat}
    {bytes : Bytes n} (hread : b.read? address n = some bytes) {offset length : Nat}
    (h : offset + length ≤ n) :
    b.read? (address.plus (UInt64.ofNat offset)) length = some (bytes.slice offset length h) := by
  obtain ⟨⟨hstart, hstop⟩, hbytes⟩ := read?_eq_some_iff.1 hread
  have hplus : (address.plus (UInt64.ofNat offset)).value.toNat = address.value.toNat + offset := by
    rw [Address.toNat_plus, UInt64.toNat_ofNat_of_lt' (by omega), Nat.mod_eq_of_lt (by omega)]
  refine read?_eq_some_iff.2 ⟨⟨by omega, by omega⟩, ?_⟩
  change bytes.val.extract offset (offset + length) = _
  rw [hbytes, ByteArray.extract_extract, hplus]
  congr 1 <;> omega

end Block
namespace Process

/-- **The blocks of a process are apart**, and all of them end before the space does. -/
structure WellLaid (p : Process) : Prop where
  inside : ∀ b ∈ p.blocks, b.stop < UInt64.size
  apart : p.blocks.Pairwise Block.Apart

/-- Only one block holds a byte. -/
theorem WellLaid.eq_of_holds {p : Process} (h : p.WellLaid) {b c : Block} (hb : b ∈ p.blocks)
    (hc : c ∈ p.blocks) {address : Address} {length : Nat} (hlength : 0 < length)
    (hholds : b.Holds address length) (hholds' : c.Holds address length) : b = c := by
  by_contra hne
  obtain ⟨hstart, hstop⟩ := hholds
  obtain ⟨hstart', hstop'⟩ := hholds'
  rcases h.apart.forall hb hc hne with hapart | hapart <;> omega

/-- **The block that holds a stretch of memory answers for it.** -/
theorem read?_of_block {p : Process} (h : p.WellLaid) {b : Block} (hb : b ∈ p.blocks)
    (hreadable : b.region.isReadable = true) {address : Address} {length : Nat}
    {bytes : Bytes length} (hread : b.read? address length = some bytes) :
    p.read? address length = some bytes := by
  have hsome : (p.read? address length).isSome = true :=
    List.findSome?_isSome_iff.2 ⟨b, List.mem_filter.2 ⟨hb, hreadable⟩, hread ▸ rfl⟩
  obtain ⟨found, hfound⟩ := Option.isSome_iff_exists.1 hsome
  obtain ⟨c, hc, hread'⟩ := List.exists_of_findSome?_eq_some hfound
  rw [hfound, Option.some_inj]
  -- a stretch of no bytes may be found elsewhere, but there is only one such
  rcases Nat.eq_zero_or_pos length with rfl | hlength
  · exact Subtype.ext ((ByteArray.size_eq_zero_iff.1 found.property).trans
      (ByteArray.size_eq_zero_iff.1 bytes.property).symm)
  · obtain rfl := h.eq_of_holds hb (List.mem_filter.1 hc).1 hlength
      (Block.read?_eq_some_iff.1 hread).1 (Block.read?_eq_some_iff.1 hread').1
    exact Option.some.inj (hread'.symm.trans hread)

end Process
namespace ProcessTable

theorem read_eq_ok_iff {t : ProcessTable} {pid : Pid} {address : Address} {length : Nat}
    {bytes : Bytes length} : t.read pid address length = .ok bytes ↔
      ∃ p, t.find? pid = some p ∧ p.alive = true ∧ p.read? address length = some bytes := by
  have hfound : ((t.find? pid).filter Process.alive |>.bind fun p => p.read? address length) =
      some bytes ↔
        ∃ p, t.find? pid = some p ∧ p.alive = true ∧ p.read? address length = some bytes := by
    simp [Option.bind_eq_some_iff, Option.filter_eq_some_iff, and_assoc]
  rw [← hfound, read]
  split
  · next found heq => rw [heq, Except.ok.injEq, Option.some_inj]
  · next heq => simp [heq]

/-- **A table that stays as it is reads consistently** if the blocks of its processes are
apart. -/
theorem consistent_answer {t : ProcessTable} (h : ∀ p ∈ t.processes, p.WellLaid) :
    Inquiry.Consistent fun e : Dialogue.Exchange (hostInterface Pid) =>
      e.answer = t.answer e.question := by
  intro pid address n bytes offset length hpart x hwhole hread
  obtain ⟨p, hp, halive, hbytes⟩ := read_eq_ok_iff.1 (Eq.symm hwhole)
  obtain ⟨b, hb, hblock⟩ := List.exists_of_findSome?_eq_some hbytes
  obtain ⟨hb, hreadable⟩ := List.mem_filter.1 hb
  have hlaid := h p (List.mem_of_find?_eq_some hp)
  have hslice := Process.read?_of_block hlaid hb hreadable
    (Block.read?_slice (hlaid.inside b hb) hblock hpart)
  exact Eq.trans hread (read_eq_ok_iff.2 ⟨p, hp, halive, hslice⟩)

end ProcessTable
end PadScout
