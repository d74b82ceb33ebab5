import PadScout.Proofs.Host.Inquiry

/-! # Parts of memory

A part of the bytes that memory holds is told by where it begins and how long it is
(`Bytes.slice`).  The word that four of the bytes make stands among the words of all of them
(`Bytes.getElem?_words`), and so do the words of a part that begins at a word
(`Bytes.getElem?_words_slice`).

Answers are `Inquiry.Consistent` if memory that is read in parts is the same as memory that is
read at one go.
-/
namespace PadScout
namespace Bytes
variable {n : Nat}

/-- Some of the bytes. -/
def slice (b : Bytes n) (offset length : Nat) (h : offset + length ≤ n) : Bytes length :=
  ⟨b.val.extract offset (offset + length), by
    rw [ByteArray.size_extract, b.property]
    omega⟩

theorem get_slice {b : Bytes n} {offset length i : Nat} {h : offset + length ≤ n}
    (hi : i < (b.slice offset length h).val.size) (hi' : offset + i < b.val.size) :
    (b.slice offset length h).val.get i hi = b.val.get (offset + i) hi' :=
  ByteArray.getElem_extract hi

/-- **The words of memory are found where they stand among the bytes.** -/
theorem getElem?_words (b : Bytes n) {k : Nat} (h : 4 * k + 4 ≤ n) :
    b.words[k]? = some (b.slice (4 * k) 4 h).word := by
  have hsize := b.property
  have hk : k < b.val.size / 4 := by omega
  rw [words, wordsOfBytes, Array.getElem?_ofFn, dif_pos hk, word, get_slice _ (by omega),
    get_slice _ (by omega), get_slice _ (by omega), get_slice _ (by omega)]
  rfl

theorem getElem?_words_of_dvd (b : Bytes n) {offset : Nat} (hdvd : 4 ∣ offset)
    (h : offset + 4 ≤ n) : b.words[offset / 4]? = some (b.slice offset 4 h).word := by
  obtain ⟨k, rfl⟩ := hdvd
  rw [Nat.mul_div_cancel_left k (by decide)]
  exact b.getElem?_words h

theorem slice_slice (b : Bytes n) {offset length start count : Nat} (h : offset + length ≤ n)
    (h' : start + count ≤ length) : (b.slice offset length h).slice start count h' =
      b.slice (offset + start) count (by omega) := by
  apply Subtype.ext
  change (b.val.extract offset (offset + length)).extract start (start + count) =
    b.val.extract (offset + start) (offset + start + count)
  rw [ByteArray.extract_extract, Nat.min_eq_left (by omega), Nat.add_assoc]

/-- **The words of a part that begins at a word are the words from there on.** -/
theorem getElem?_words_slice (b : Bytes n) {start count i : Nat}
    (h : 4 * start + 4 * count ≤ n) (hi : i < count) :
    (b.slice (4 * start) (4 * count) h).words[i]? = b.words[start + i]? := by
  rw [getElem?_words _ (show 4 * i + 4 ≤ 4 * count by omega),
    getElem?_words b (show 4 * (start + i) + 4 ≤ n by omega), slice_slice]
  simp only [Nat.mul_add]

end Bytes
namespace Inquiry

/-- **Reads agree with one another**: where a stretch of memory is read, every part of it is
read as the bytes that stand there.  Of other answers nothing is wanted. -/
def Consistent {H : Type} (answers : Dialogue.Exchange (hostInterface H) → Prop) : Prop :=
  ∀ (process : H) (address : Address) (n : Nat) (bytes : Bytes n) (offset length : Nat)
    (h : offset + length ≤ n) (x : Except MemoryError (Bytes length)),
    answers (exchange (.read process address n) (.ok bytes)) →
    answers (exchange (.read process (address.plus (UInt64.ofNat offset)) length) x) →
    x = .ok (bytes.slice offset length h)

end Inquiry
end PadScout
