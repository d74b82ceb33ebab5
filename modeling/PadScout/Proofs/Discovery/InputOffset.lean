import PadScout.Proofs.Discovery.Analysis
import PadScout.Proofs.Word

/-! # Where the input offset lies

The offset of the input is what is left of an address when its segment is taken away
(`exists_pads_of_analyze`), and discovery does not ask whether anything is there.  So
the input word lies in the image just when that address points into it
(`inside_iff_of_analyze`), which game code is free not to do (`analyze_stray`).
-/
namespace PadScout
namespace Discovery

/-- The word at an address lies in the image, whatever the segment. -/
def PointsInside (m : Image) (a : UInt32) : Prop := a.toNat % 0x1000000 + 4 ≤ 4 * m.size

/-- **A finding names the pads of some call** that gives them away, less their segment. -/
theorem exists_pads_of_analyze {m : Image} {r : Finding} (h : (analyze m).outcome = .ok r) :
    ∃ site status pads, Reveals m (globalPointer m) site status ∧
      Nearest status (StoredBeside m (globalPointer m) site status) pads ∧
      r.inputOffset.toNat = pads.toNat % 0x1000000 := by
  obtain ⟨inits, -, hpads⟩ := analyze_eq_controllerPads.1 h
  obtain ⟨callers, -, hfirst⟩ := controllerPads_eq_ok_iff.1 hpads
  obtain ⟨-, site, -, -, hok, -⟩ := Report.firstSurvivor_eq_ok_iff.1 hfirst
  obtain ⟨status, pads, hreveals, hnearest, -, -, -, hoffset⟩ := reveals_of_checkPads hok
  refine ⟨site, status, pads, hreveals, hnearest, ?_⟩
  rw [hoffset]
  exact Word.toNat_and_low (k := 24) (by decide) pads

/-- **The input word lies in the image just when the pads point into it.**  Nothing but the
code before the call decides that: the pads are the nearest of the words that it stores beside
the status address.  The offset has 24 bits, so it is always inside of a larger image. -/
theorem inside_iff_of_analyze (m : Image) (r : Finding) (h : (analyze m).outcome = .ok r) :
    (0x400000 < m.size → r.inputOffset.toNat + 4 ≤ 4 * m.size) ∧
    ∃ site status pads, Reveals m (globalPointer m) site status ∧
      Nearest status (StoredBeside m (globalPointer m) site status) pads ∧
      r.inputOffset.toNat = pads.toNat % 0x1000000 ∧
      (r.inputOffset.toNat + 4 ≤ 4 * m.size ↔ PointsInside m pads) ∧
      ((∀ w, StoredBeside m (globalPointer m) site status w → PointsInside m w) →
        r.inputOffset.toNat + 4 ≤ 4 * m.size) := by
  obtain ⟨site, status, pads, hreveals, hnearest, hoffset⟩ := exists_pads_of_analyze h
  have hinside : r.inputOffset.toNat + 4 ≤ 4 * m.size ↔ PointsInside m pads := by
    rw [hoffset, PointsInside]
  refine ⟨fun hsize => by omega, site, status, pads, hreveals, hnearest, hoffset, hinside,
    fun hall => hinside.2 (hall pads hnearest.mem)⟩

/-! ## Small memories -/

namespace Sample

/-- The small memory with another high half of the global pointer, which its word 60 loads. -/
def pointedAt (high : Int16) : Image := compact.set 60 (word (.lui .gp high))

/-- A finding in such a memory. -/
def pointedFinding (high : Int16) (offset : UInt32) : Finding :=
  ⟨106, ((pointedAt high).words.extract 106 126).toList, offset⟩

/-- The pads are at the start of memory. -/
def low : Image := pointedAt (-0x8000)

def lowFinding : Finding := pointedFinding (-0x8000) 0x10

/-- The pads are in another segment, beyond any memory. -/
def stray : Image := pointedAt (-0x6F01)

def strayFinding : Finding := pointedFinding (-0x6F01) 0xFF0010

end Sample

theorem outcome_analyze_low : (analyze Sample.low).outcome = .ok Sample.lowFinding := by
  decide +kernel

/-- In the low memory the input word is the fifth word. -/
theorem inside_low : Sample.lowFinding.inputOffset.toNat + 4 ≤ 4 * Sample.low.size ∧
    ∃ site status pads, Reveals Sample.low (globalPointer Sample.low) site status ∧
      Nearest status (StoredBeside Sample.low (globalPointer Sample.low) site status) pads ∧
      0x10 = pads.toNat % 0x1000000 ∧ PointsInside Sample.low pads := by
  obtain ⟨-, site, status, pads, hreveals, hnearest, hoffset, hinside, -⟩ :=
    inside_iff_of_analyze Sample.low Sample.lowFinding outcome_analyze_low
  have hsize : Sample.low.size = 132 := by decide +kernel
  have hfits : Sample.lowFinding.inputOffset.toNat + 4 ≤ 4 * Sample.low.size := by
    rw [hsize]
    decide
  exact ⟨hfits, site, status, pads, hreveals, hnearest, hoffset, hinside.1 hfits⟩

/-- **A memory of 528 bytes whose input word is found at offset 0xFF0010.** -/
theorem analyze_stray : (analyze Sample.stray).outcome = .ok Sample.strayFinding ∧
    4 * Sample.stray.size = 528 ∧ Sample.strayFinding.inputOffset.toNat = 0xFF0010 ∧
    ¬ Sample.strayFinding.inputOffset.toNat + 4 ≤ 4 * Sample.stray.size := by
  have hsize : 4 * Sample.stray.size = 528 := by decide +kernel
  refine ⟨by decide +kernel, hsize, rfl, ?_⟩
  rw [hsize]
  decide

end Discovery
end PadScout
