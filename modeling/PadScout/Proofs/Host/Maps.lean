import PadScout.Host.Maps
import PadScout.Proofs.Text.Blank
import PadScout.Proofs.Text.Hex

/-! # Lines of a memory map read back

The kernel writes a line of a memory map from its `Columns`, with blanks between them that a
`Spacing` sets out.  A line that is written so is always read, and the range, the protection
and the absence of a path are read as they were written.  Of a path, reading keeps the part up
to its first blank: it gives the columns back just when the path has no blank in it
(`ofLine?_line_iff`).
-/
namespace PadScout
namespace Mapping

open Blank (IsWord IsGap isBlank isInk)

/-- Columns that a kernel may write.  A path is any text that begins with a slash, stays on
its line and does not end with a blank. -/
structure Columns.WellFormed (c : Columns) : Prop where
  permissions : IsWord c.permissions ∧ c.permissions.length = 4
  offset : IsWord c.offset
  device : IsWord c.device
  inode : IsWord c.inode
  path : ∀ p, c.path = some p →
    p.head? = some '/' ∧ '\n' ∉ p ∧ ∀ b ∈ p.getLast?, isBlank b = false

/-- A spacing that keeps columns apart. -/
structure Spacing.Parts (s : Spacing) (c : Columns) : Prop where
  afterRange : IsGap s.afterRange
  afterPermissions : IsGap s.afterPermissions
  afterOffset : IsGap s.afterOffset
  afterDevice : IsGap s.afterDevice
  afterInode : ∀ b ∈ s.afterInode, isBlank b = true
  beforePath : c.path.isSome → s.afterInode ≠ []

/-! ## The range -/

theorem isBlank_of_digit {c : Char} (h : (Hex.digit? c).isSome) : isBlank c = false := by
  have hcode : 48 ≤ c.toNat ∧ c.toNat ≤ 57 ∨ 65 ≤ c.toNat ∧ c.toNat ≤ 70 ∨
      97 ≤ c.toNat ∧ c.toNat ≤ 102 := by
    unfold Hex.digit? at h
    simp only [Char.le_def, UInt32.le_iff_toNat_le] at h
    split at h
    · exact Or.inl ‹_›
    · split at h
      · exact Or.inr (Or.inr ‹_›)
      · split at h
        · exact Or.inr (Or.inl ‹_›)
        · cases h
  simp only [isBlank, Bool.or_eq_false_iff, decide_eq_false_iff_not, beq_eq_false_iff_ne]
  omega

theorem number?_padded (width : Nat) (n : UInt64) :
    number? (Hex.padded width n.toNat) = some n := by
  rw [number?, Numeral.hex?_padded n.toNat_lt]
  simp

theorem cutDash_append {low : List Char} (h : '-' ∉ low) (high : List Char) :
    cutDash (low ++ '-' :: high) = some (low, high) := by
  induction low with
  | nil => rfl
  | cons c low ih =>
    obtain ⟨hc, hlow⟩ := not_or.1 (mt List.mem_cons.2 h)
    rw [List.cons_append, cutDash, if_neg (Ne.symm hc), ih hlow]

/-- **A range is read** as the two numbers that it shows. -/
theorem range?_range (c : Columns) (width : Nat) :
    range? (c.range width) = some (c.start, c.stop) := by
  have hdash : '-' ∉ Hex.padded width c.start.toNat := by
    intro hmem
    exact absurd (Hex.isSome_digit?_of_mem_padded hmem) (by decide)
  rw [range?, Columns.range, cutDash_append hdash]
  simp only [number?_padded]

theorem isWord_range (c : Columns) (width : Nat) : IsWord (c.range width) where
  nonempty := by simp [Columns.range]
  ink b hb := by
    rw [isInk, Bool.not_eq_true']
    rcases List.mem_append.1 hb with hb | hb
    · exact isBlank_of_digit (Hex.isSome_digit?_of_mem_padded hb)
    · rcases List.mem_cons.1 hb with rfl | hb
      · decide
      · exact isBlank_of_digit (Hex.isSome_digit?_of_mem_padded hb)

/-! ## The line -/

section Line
variable {c : Columns} {s : Spacing}

/-- The words behind the inode: none without a path. -/
theorem words_path (hc : c.WellFormed) (hs : s.Parts c) :
    (Blank.words (c.inode ++ (s.afterInode ++ c.path.getD [])))[1]? =
      c.path.map fun p => p.takeWhile isInk := by
  cases hpath : c.path with
  | none =>
    rw [Option.getD_none, List.append_nil, Blank.words_append_blanks hc.inode hs.afterInode]
    rfl
  | some p =>
    have hgap : IsGap s.afterInode := ⟨hs.beforePath (by rw [hpath]; rfl), hs.afterInode⟩
    have hslash := (hc.path p hpath).1
    rw [Option.getD_some, Blank.words_append_gap hc.inode hgap]
    cases p with
    | nil => cases hslash
    | cons b p =>
      cases hslash
      rw [Blank.words_eq (by decide)]
      rfl

/-- **The words of a line** are its columns, one by one up to the inode. -/
theorem words_line (hc : c.WellFormed) (hs : s.Parts c) :
    Blank.words (c.line s) = c.range s.width :: c.permissions :: c.offset :: c.device ::
      Blank.words (c.inode ++ (s.afterInode ++ c.path.getD [])) := by
  rw [Columns.line, Blank.words_append_gap (isWord_range c _) hs.afterRange,
    Blank.words_append_gap hc.permissions.1 hs.afterPermissions,
    Blank.words_append_gap hc.offset hs.afterOffset,
    Blank.words_append_gap hc.device hs.afterDevice]

theorem ofLine?_line (hc : c.WellFormed) (hs : s.Parts c) :
    ofLine? (c.line s) = .ok ⟨c.start, c.stop, .ofColumn c.permissions,
      c.path.map fun p => p.takeWhile isInk⟩ := by
  rw [ofLine?, words_line hc hs]
  simp only [range?_range]
  rw [← words_path hc hs]
  rfl

end Line

/-- **Reading a line of a memory map** always succeeds, with the range and the protection of
the columns that were written, and with the first word of the path: with the whole path just
when there is no blank in it. -/
theorem ofLine?_line_iff {c : Columns} {s : Spacing} (hc : c.WellFormed) (hs : s.Parts c) :
    ofLine? (c.line s) = .ok ⟨c.start, c.stop, .ofColumn c.permissions,
        c.path.map fun p => p.takeWhile isInk⟩ ∧
      (ofLine? (c.line s) = .ok ⟨c.start, c.stop, .ofColumn c.permissions, c.path⟩ ↔
        ∀ p, c.path = some p → ∀ b ∈ p, isBlank b = false) := by
  refine ⟨ofLine?_line hc hs, ?_⟩
  rw [ofLine?_line hc hs]
  simp only [Except.ok.injEq, Mapping.mk.injEq, true_and]
  cases c.path with
  | none => simp
  | some p =>
    simp only [Option.map_some, Option.some.injEq, forall_eq', Blank.takeWhile_isInk_eq_iff]

/-! ## A path with a blank -/

namespace Sample

/-- The columns of a program that lies in a directory with a blank in its name. -/
def columns : Columns :=
  { start := 0x400000
    stop := 0x452000
    permissions := ['r', '-', 'x', 'p']
    offset := ['0', '0', '0', '0', '0', '0', '0', '0']
    device := ['0', '8', ':', '0', '2']
    inode := ['9', '9']
    path := some ['/', 'm', 'y', ' ', 'n', '6', '4'] }

/-- The range in eight digits, and more than one blank before the path. -/
def spacing : Spacing := ⟨8, [' '], [' '], [' '], [' '], [' ', ' ', ' ', ' ', ' ', ' ']⟩

theorem wellFormed_columns : columns.WellFormed where
  permissions := ⟨by decide, rfl⟩
  offset := by decide
  device := by decide
  inode := by decide
  path p hp := by
    cases hp
    refine ⟨rfl, by decide, fun b hb => ?_⟩
    cases hb
    decide

theorem parts_columns : spacing.Parts columns where
  afterRange := by decide
  afterPermissions := by decide
  afterOffset := by decide
  afterDevice := by decide
  afterInode := List.all_eq_true.1 (by decide)
  beforePath _ := by decide

end Sample

/-- The line of the sample, and what is read of its path. -/
theorem ofLine?_line_sample : Sample.columns.WellFormed ∧ Sample.spacing.Parts Sample.columns ∧
    Sample.columns.line Sample.spacing =
      "00400000-00452000 r-xp 00000000 08:02 99      /my n64".toList ∧
    ofLine? (Sample.columns.line Sample.spacing) =
      .ok ⟨0x400000, 0x452000, .ofBits 5, some ['/', 'm', 'y']⟩ :=
  ⟨Sample.wellFormed_columns, Sample.parts_columns, by decide,
    (ofLine?_line_iff Sample.wellFormed_columns Sample.parts_columns).1⟩

/-- **A path with a blank in it is cut short**: the line of the sample is not read as the
columns that it was written from. -/
theorem ofLine?_line_ne : Sample.columns.WellFormed ∧ Sample.spacing.Parts Sample.columns ∧
    ofLine? (Sample.columns.line Sample.spacing) ≠ .ok ⟨Sample.columns.start,
      Sample.columns.stop, .ofColumn Sample.columns.permissions, Sample.columns.path⟩ := by
  refine ⟨Sample.wellFormed_columns, Sample.parts_columns, ?_⟩
  rw [ofLine?_line Sample.wellFormed_columns Sample.parts_columns]
  decide

end Mapping
end PadScout
