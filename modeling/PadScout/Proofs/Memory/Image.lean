import PadScout.Memory.Image

/-! # Windows of images

A window is the list of the words from some index on, all of which must be in the image
(`window?_eq_some_iff`).
-/
namespace PadScout
namespace Image

theorem getElem?_extract {m : Image} {start length i : Nat} (hi : i < length) :
    (m.words.extract start (start + length)).toList[i]? = m.get? (start + i) := by
  rw [Array.getElem?_toList, Array.getElem?_extract]
  split
  · rfl
  · rename_i hout
    rw [get?, Array.getElem?_eq_none (by omega)]

/-- **A window holds the words of the image**, one by one. -/
theorem window?_eq_some_iff {m : Image} {start length : Nat} {l : List UInt32} :
    m.window? start length = some l ↔ start + length ≤ m.size ∧ l.length = length ∧
      ∀ i < length, l[i]? = m.get? (start + i) := by
  have hlength : start + length ≤ m.size →
      (m.words.extract start (start + length)).toList.length = length := by
    intro h
    have hsize : start + length ≤ m.words.size := h
    rw [Array.length_toList, Array.size_extract]
    omega
  rw [window?]
  constructor
  · intro h
    split at h
    · rename_i hinside
      cases h
      exact ⟨hinside, hlength hinside, fun i hi => getElem?_extract hi⟩
    · cases h
  · rintro ⟨hinside, hl, hwords⟩
    rw [if_pos hinside, Option.some_inj]
    apply List.ext_getElem?
    intro i
    by_cases hi : i < length
    · rw [getElem?_extract hi, hwords i hi]
    · rw [List.getElem?_eq_none (by rw [hlength hinside]; omega),
        List.getElem?_eq_none (by omega)]

theorem exists_window? (m : Image) (start length : Nat) (h : start + length ≤ m.size) :
    ∃ l, m.window? start length = some l := ⟨_, if_pos h⟩

end Image
end PadScout
