import Mathlib.Algebra.Group.Nat.Defs
import PadScout.Memory.Image

/-! # Images as bytes

The bytes of a word are its digits to the base 256, the least significant one first
(`toNat_byteOfWord`, `toNat_wordOfBytes`), so four bytes make a word and a word has four bytes
(`wordOfBytes_byteOfWord`).  The words of an image are found again in its bytes
(`wordsOfBytes_toBytes`).
-/
namespace PadScout

/-- The bytes of a word are its digits to the base 256. -/
theorem toNat_byteOfWord (w : UInt32) {j : Nat} (hj : j < 4) :
    (byteOfWord w (UInt32.ofNat j)).toNat = w.toNat / 2 ^ (8 * j) % 2 ^ 8 := by
  match j, hj with
  | 0, _ | 1, _ | 2, _ | 3, _ =>
    rw [byteOfWord, UInt32.toNat_toUInt8, UInt32.toNat_shiftRight, Nat.shiftRight_eq_div_pow]
    rfl

/-- A byte that is put in front of the bits of a word. -/
theorem toNat_or_shiftLeft {w s : UInt32} (b : UInt8) (hs : s.toNat ≤ 24)
    (hw : w.toNat < 2 ^ s.toNat) :
    (w ||| b.toUInt32 <<< s).toNat = w.toNat + 2 ^ s.toNat * b.toNat := by
  have hb := b.toNat_lt
  have hfits : b.toNat <<< s.toNat < 2 ^ 32 := by
    calc b.toNat <<< s.toNat = b.toNat * 2 ^ s.toNat := Nat.shiftLeft_eq _ _
      _ < 2 ^ 8 * 2 ^ s.toNat := Nat.mul_lt_mul_of_pos_right hb (Nat.two_pow_pos _)
      _ = 2 ^ (8 + s.toNat) := (Nat.pow_add 2 8 _).symm
      _ ≤ 2 ^ 32 := Nat.pow_le_pow_right Nat.two_pos (by omega)
  rw [UInt32.toNat_or, UInt32.toNat_shiftLeft, UInt8.toNat_toUInt32,
    Nat.mod_eq_of_lt (show s.toNat < 32 by omega), Nat.mod_eq_of_lt hfits, Nat.or_comm,
    Nat.shiftLeft_eq, Nat.mul_comm, ← Nat.two_pow_add_eq_or_of_lt hw, Nat.add_comm]

/-- **The number that four bytes make**, the least significant one first. -/
theorem toNat_wordOfBytes (b₀ b₁ b₂ b₃ : UInt8) :
    (wordOfBytes b₀ b₁ b₂ b₃).toNat =
      b₀.toNat + 2 ^ 8 * b₁.toNat + 2 ^ 16 * b₂.toNat + 2 ^ 24 * b₃.toNat := by
  have h₀ := b₀.toNat_lt
  have h₁ := b₁.toNat_lt
  have h₂ := b₂.toNat_lt
  have hone : (b₀.toUInt32 ||| b₁.toUInt32 <<< 8).toNat = b₀.toNat + 2 ^ 8 * b₁.toNat :=
    toNat_or_shiftLeft b₁ (by decide) h₀
  have htwo := toNat_or_shiftLeft (w := b₀.toUInt32 ||| b₁.toUInt32 <<< 8) (s := 16) b₂
    (by decide) (by rw [hone]; change _ < 2 ^ 16; omega)
  rw [wordOfBytes, toNat_or_shiftLeft b₃ (by decide)]
  · rw [htwo, hone]
    rfl
  · rw [htwo, hone]
    change _ + 2 ^ 16 * _ < 2 ^ 24
    omega

/-- **The four bytes of a word make the word.** -/
theorem wordOfBytes_byteOfWord (w : UInt32) :
    wordOfBytes (byteOfWord w 0) (byteOfWord w 1) (byteOfWord w 2) (byteOfWord w 3) = w := by
  have hw := w.toNat_lt
  have h₀ : (byteOfWord w 0).toNat = _ := toNat_byteOfWord w (j := 0) (by decide)
  have h₁ : (byteOfWord w 1).toNat = _ := toNat_byteOfWord w (j := 1) (by decide)
  have h₂ : (byteOfWord w 2).toNat = _ := toNat_byteOfWord w (j := 2) (by decide)
  have h₃ : (byteOfWord w 3).toNat = _ := toNat_byteOfWord w (j := 3) (by decide)
  apply UInt32.toNat_inj.1
  rw [toNat_wordOfBytes, h₀, h₁, h₂, h₃]
  omega

/-! ## Rows of bytes -/

/-- The bytes of a word, least significant first. -/
def bytesOfWord (w : UInt32) : List UInt8 :=
  [byteOfWord w 0, byteOfWord w 1, byteOfWord w 2, byteOfWord w 3]

theorem getElem?_bytesOfWord (w : UInt32) {j : Nat} (hj : j < 4) :
    (bytesOfWord w)[j]? = some (byteOfWord w (UInt32.ofNat j)) := by
  match j, hj with
  | 0, _ | 1, _ | 2, _ | 3, _ => rfl

theorem toList_foldl_pushWord (ws : List UInt32) (bytes : ByteArray) :
    (ws.foldl pushWord bytes).data.toList = bytes.data.toList ++ ws.flatMap bytesOfWord := by
  induction ws generalizing bytes with
  | nil => simp
  | cons w ws ih =>
    have hpush : (pushWord bytes w).data.toList = bytes.data.toList ++ bytesOfWord w := by
      simp [pushWord, bytesOfWord]
    rw [List.foldl_cons, ih, hpush, List.flatMap_cons, List.append_assoc]

theorem toList_toBytes (m : Image) : m.toBytes.data.toList = m.words.toList.flatMap bytesOfWord := by
  rw [Image.toBytes, ← Array.foldl_toList, toList_foldl_pushWord]
  rfl

theorem length_flatMap_bytesOfWord (ws : List UInt32) :
    (ws.flatMap bytesOfWord).length = 4 * ws.length := by
  induction ws with
  | nil => rfl
  | cons w ws ih =>
    rw [List.flatMap_cons, List.length_append, ih, List.length_cons]
    simp only [bytesOfWord, List.length_cons, List.length_nil]
    omega

theorem size_toBytes (m : Image) : m.toBytes.size = 4 * m.size := by
  change m.toBytes.data.toList.length = _
  rw [toList_toBytes, length_flatMap_bytesOfWord]
  rfl

/-- Byte `j` of word `i` in a row of words. -/
theorem getElem?_flatMap_bytesOfWord {ws : List UInt32} {i : Nat} {w : UInt32}
    (h : ws[i]? = some w) {j : Nat} (hj : j < 4) :
    (ws.flatMap bytesOfWord)[4 * i + j]? = (bytesOfWord w)[j]? := by
  induction ws generalizing i with
  | nil => cases h
  | cons v ws ih =>
    rw [List.flatMap_cons]
    cases i with
    | zero =>
      cases h
      rw [List.getElem?_append_left (by simpa [bytesOfWord] using hj)]
      simp
    | succ i =>
      rw [List.getElem?_append_right (by simp [bytesOfWord]; omega),
        show 4 * (i + 1) + j - (bytesOfWord v).length = 4 * i + j by simp [bytesOfWord]; omega]
      exact ih h

theorem get_toBytes {m : Image} {i j : Nat} {w : UInt32} (h : m.get? i = some w) (hj : j < 4)
    (hlt : 4 * i + j < m.toBytes.size) :
    some (m.toBytes.get (4 * i + j) hlt) = (bytesOfWord w)[j]? := by
  have hword : m.words.toList[i]? = some w := by
    rw [Array.getElem?_toList]
    exact h
  rw [← getElem?_flatMap_bytesOfWord hword hj, ← toList_toBytes, Array.getElem?_toList]
  exact (Array.getElem?_eq_getElem hlt).symm

/-- **The words of an image are found again in its bytes.** -/
theorem wordsOfBytes_toBytes (m : Image) : wordsOfBytes m.toBytes = m.words := by
  have hsize : (wordsOfBytes m.toBytes).size = m.words.size := by
    rw [wordsOfBytes, Array.size_ofFn, size_toBytes, Nat.mul_div_cancel_left _ (by decide)]
    rfl
  refine Array.ext hsize fun i hi hi' => ?_
  have hbyte : ∀ j (hj : j < 4) (hlt : 4 * i + j < m.toBytes.size),
      some (m.toBytes.get (4 * i + j) hlt) = (bytesOfWord m.words[i])[j]? := fun j hj hlt =>
    get_toBytes (Array.getElem?_eq_getElem hi') hj hlt
  have hsize4 : 4 * i + 3 < m.toBytes.size := by
    have : i < m.size := hi'
    rw [size_toBytes]
    omega
  have h0 := Option.some.inj (hbyte 0 (by decide) (by omega))
  have h1 := Option.some.inj (hbyte 1 (by decide) (by omega))
  have h2 := Option.some.inj (hbyte 2 (by decide) (by omega))
  have h3 := Option.some.inj (hbyte 3 (by decide) (by omega))
  rw [← wordOfBytes_byteOfWord m.words[i], ← h0, ← h1, ← h2, ← h3]
  exact Array.getElem_ofFn hi

theorem Image.mk_wordsOfBytes_toBytes (m : Image) : Image.mk (wordsOfBytes m.toBytes) = m := by
  rw [wordsOfBytes_toBytes]

end PadScout
