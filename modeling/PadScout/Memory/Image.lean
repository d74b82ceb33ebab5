import PadScout.Ascending
import PadScout.Memory.Error

/-! # RAM images

The main memory of the console, as 32-bit words addressed by index.  An
emulator keeps each word in the byte order of its host, least significant byte
first; `Image.ofBytes` and `Image.toBytes` go between the two forms.
-/
namespace PadScout

/-- The word whose bytes are given, least significant first. -/
def wordOfBytes (b₀ b₁ b₂ b₃ : UInt8) : UInt32 :=
  b₀.toUInt32 ||| b₁.toUInt32 <<< 8 ||| b₂.toUInt32 <<< 16 ||| b₃.toUInt32 <<< 24

/-- Byte `i` of a word, least significant first. -/
def byteOfWord (w : UInt32) (i : UInt32) : UInt8 := (w >>> (8 * i)).toUInt8

/-- The four bytes of a word behind others. -/
def pushWord (bytes : ByteArray) (w : UInt32) : ByteArray :=
  (((bytes.push (byteOfWord w 0)).push (byteOfWord w 1)).push (byteOfWord w 2)).push (byteOfWord w 3)

/-- The words that the bytes hold, as many as are complete. -/
def wordsOfBytes (bytes : ByteArray) : Array UInt32 :=
  Array.ofFn fun i : Fin (bytes.size / 4) =>
    wordOfBytes (bytes.get (4 * i.val) (by omega)) (bytes.get (4 * i.val + 1) (by omega))
      (bytes.get (4 * i.val + 2) (by omega)) (bytes.get (4 * i.val + 3) (by omega))

/-- A RAM image. -/
structure Image where
  words : Array UInt32
deriving DecidableEq

namespace Image

/-- The words of a whole main memory. -/
def fullWords : Nat := 0x100000

def fullBytes : Nat := 4 * fullWords

def size (m : Image) : Nat := m.words.size

def get? (m : Image) (i : Nat) : Option UInt32 := m.words[i]?

/-- The words from `start` on, if there are as many as asked for. -/
def window? (m : Image) (start length : Nat) : Option (List UInt32) :=
  if start + length ≤ m.size then some (m.words.extract start (start + length)).toList else none

/-- Reads an image from bytes; only whole words make an image. -/
def ofBytes (bytes : ByteArray) : Except MemoryError Image :=
  if bytes.size % 4 = 0 then .ok ⟨wordsOfBytes bytes⟩ else .error (.imageSize bytes.size)

/-- The bytes of an image. -/
def toBytes (m : Image) : ByteArray := m.words.foldl pushWord ByteArray.empty

/-- An image of equal words. -/
def filled (length : Nat) (w : UInt32) : Image := ⟨Array.replicate length w⟩

/-- Puts a word at an index; outside the image nothing happens. -/
def set (m : Image) (i : Nat) (w : UInt32) : Image := ⟨m.words.setIfInBounds i w⟩

/-- Puts words in a row, from an index on. -/
def put (m : Image) (start : Nat) : List UInt32 → Image
  | [] => m
  | w :: ws => (m.set start w).put (start + 1) ws

@[simp] theorem size_filled (length : Nat) (w : UInt32) : (filled length w).size = length := by
  simp [filled, size]

theorem get?_filled {length i : Nat} (h : i < length) (w : UInt32) :
    (filled length w).get? i = some w := by
  simp [filled, get?, h]

@[simp] theorem size_set (m : Image) (i : Nat) (w : UInt32) : (m.set i w).size = m.size := by
  simp [set, size]

theorem get?_set_self {m : Image} {i : Nat} (h : i < m.size) (w : UInt32) :
    (m.set i w).get? i = some w := by
  simp [set, get?, show i < m.words.size from h]

theorem get?_set_of_ne {m : Image} {i j : Nat} (h : i ≠ j) (w : UInt32) :
    (m.set i w).get? j = m.get? j := by
  simp [set, get?, h]

@[simp] theorem size_put (m : Image) (start : Nat) (ws : List UInt32) :
    (m.put start ws).size = m.size := by
  induction ws generalizing m start with
  | nil => rfl
  | cons w ws ih => rw [put, ih, size_set]

/-- Words that are put in a row are found there, and nothing else changes. -/
theorem get?_put {m : Image} {start : Nat} {ws : List UInt32} (h : start + ws.length ≤ m.size)
    (i : Nat) : (m.put start ws).get? i =
      if start ≤ i ∧ i < start + ws.length then ws[i - start]? else m.get? i := by
  induction ws generalizing m start with
  | nil =>
    rw [put, if_neg]
    simp only [List.length_nil]
    omega
  | cons w ws ih =>
    simp only [List.length_cons] at h
    rw [put, ih (by rw [size_set]; omega), List.length_cons]
    by_cases hi : i = start
    · subst hi
      rw [if_neg (by omega), if_pos (by omega), get?_set_self (by omega)]
      simp
    · rw [get?_set_of_ne (Ne.symm hi)]
      by_cases hrow : start + 1 ≤ i ∧ i < start + 1 + ws.length
      · rw [if_pos hrow, if_pos (by omega), show i - start = i - (start + 1) + 1 by omega,
          List.getElem?_cons_succ]
      · rw [if_neg hrow, if_neg (by omega)]

/-- The indices whose word passes a test, ascending. -/
def indicesWhere (m : Image) (test : UInt32 → Bool) : List Nat :=
  Ascending.below (fun i => (m.get? i).any test) m.size

/-- The indices that hold a given word, ascending. -/
def indicesOf (m : Image) (w : UInt32) : List Nat := m.indicesWhere (· == w)

end Image

/-- Whether an address lies in the unmapped cached segment, at an offset of no
more than `ramBytes`. -/
def isRamAddress (address ramBytes : UInt32) : Bool :=
  address >>> 24 == 0x80 && decide (address &&& 0x00FFFFFF ≤ ramBytes)

end PadScout
