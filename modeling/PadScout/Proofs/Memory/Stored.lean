import Mathlib.Data.Set.Function
import PadScout.Proofs.Memory.Bytes

/-! # How images are stored

An image is stored in a string of bytes when each of its words takes four bytes in turn, the
least significant one first (`Image.StoredIn`).  Every image is stored in one string of bytes,
the one that is written for it (`Image.toBytes_eq_iff`), and an image that is stored in some
bytes is what is read from them (`Image.ofBytes_eq_ok_iff`).  Only bytes that do not make whole
words are refused (`Image.ofBytes_eq_error_iff`).
-/
namespace PadScout

/-- The bytes that make a word are its digits. -/
theorem digit_wordOfBytes {b₀ b₁ b₂ b₃ b : UInt8} {j : Nat} (h : [b₀, b₁, b₂, b₃][j]? = some b) :
    (wordOfBytes b₀ b₁ b₂ b₃).toNat / 2 ^ (8 * j) % 2 ^ 8 = b.toNat := by
  have h₀ := b₀.toNat_lt
  have h₁ := b₁.toNat_lt
  have h₂ := b₂.toNat_lt
  have h₃ := b₃.toNat_lt
  rw [toNat_wordOfBytes]
  match j, h with
  | 0, h | 1, h | 2, h | 3, h =>
    cases h
    omega

namespace Image

/-- **An image is stored in bytes**: each word takes four of them, the least significant one
first. -/
structure StoredIn (m : Image) (bytes : ByteArray) : Prop where
  size_eq : bytes.size = 4 * m.size
  byte_eq : ∀ i w, m.get? i = some w → ∀ j < 4, ∀ h : 4 * i + j < bytes.size,
    (bytes.get (4 * i + j) h).toNat = w.toNat / 2 ^ (8 * j) % 2 ^ 8

theorem storedIn_toBytes (m : Image) : m.StoredIn m.toBytes where
  size_eq := size_toBytes m
  byte_eq i w hw j hj h := by
    have hbyte := (get_toBytes hw hj h).trans (getElem?_bytesOfWord w hj)
    rw [Option.some.inj hbyte, toNat_byteOfWord w hj]

/-- No image is stored in two ways. -/
theorem StoredIn.unique {m : Image} {bytes bytes' : ByteArray} (h : m.StoredIn bytes)
    (h' : m.StoredIn bytes') : bytes = bytes' := by
  refine ByteArray.ext_getElem (h.size_eq.trans h'.size_eq.symm) fun k hk hk' => ?_
  obtain ⟨i, j, hj, rfl⟩ : ∃ i j, j < 4 ∧ k = 4 * i + j :=
    ⟨k / 4, k % 4, Nat.mod_lt k (by decide), (Nat.div_add_mod k 4).symm⟩
  have hi : i < m.size := by
    have := h.size_eq
    omega
  have hword : m.get? i = some m.words[i] := Array.getElem?_eq_getElem hi
  exact UInt8.toNat_inj.1
    ((h.byte_eq i _ hword j hj hk).trans (h'.byte_eq i _ hword j hj hk').symm)

/-- **What is written is what the image is stored in.** -/
theorem toBytes_eq_iff {m : Image} {bytes : ByteArray} : m.toBytes = bytes ↔ m.StoredIn bytes := by
  constructor
  · rintro rfl
    exact m.storedIn_toBytes
  · exact m.storedIn_toBytes.unique

/-- Whole words are stored in their bytes. -/
theorem storedIn_wordsOfBytes {bytes : ByteArray} (h : 4 ∣ bytes.size) :
    StoredIn ⟨wordsOfBytes bytes⟩ bytes where
  size_eq := by
    rw [size, wordsOfBytes, Array.size_ofFn, Nat.mul_div_cancel' h]
  byte_eq i w hw j hj hlt := by
    have hi : i < bytes.size / 4 := by omega
    rw [get?, wordsOfBytes, Array.getElem?_ofFn, dif_pos hi] at hw
    obtain rfl := Option.some.inj hw
    refine (digit_wordOfBytes ?_).symm
    obtain rfl | rfl | rfl | rfl : j = 0 ∨ j = 1 ∨ j = 2 ∨ j = 3 := by omega
    all_goals rfl

/-- **An image that is stored in bytes is read from them**, and no other. -/
theorem ofBytes_eq_ok_iff {m : Image} {bytes : ByteArray} :
    ofBytes bytes = .ok m ↔ m.StoredIn bytes := by
  constructor
  · intro h
    rw [ofBytes] at h
    split at h
    · next hsize =>
      cases h
      exact storedIn_wordsOfBytes (Nat.dvd_of_mod_eq_zero hsize)
    · cases h
  · intro h
    obtain rfl := toBytes_eq_iff.2 h
    rw [ofBytes, if_pos (by rw [size_toBytes, Nat.mul_mod_right]), mk_wordsOfBytes_toBytes]

/-- **Bytes that do not make whole words are refused**, and no others. -/
theorem ofBytes_eq_error_iff {bytes : ByteArray} {e : MemoryError} :
    ofBytes bytes = .error e ↔ ¬ 4 ∣ bytes.size ∧ e = .imageSize bytes.size := by
  rw [ofBytes, Nat.dvd_iff_mod_eq_zero]
  split
  · next h => simp [h]
  · next h => simp [h, eq_comm]

/-- **Images and strings of whole words go together.** -/
theorem bijOn_toBytes : Set.BijOn toBytes Set.univ {bytes | 4 ∣ bytes.size} := by
  refine ⟨fun m _ => ?_, fun m _ m' _ heq => ?_, fun bytes h => ?_⟩
  · exact ⟨m.size, size_toBytes m⟩
  · rw [← mk_wordsOfBytes_toBytes m, ← mk_wordsOfBytes_toBytes m']
    exact congrArg (fun b => Image.mk (wordsOfBytes b)) heq
  · exact ⟨_, trivial, toBytes_eq_iff.2 (storedIn_wordsOfBytes h)⟩

end Image
end PadScout
