import PadScout.Discovery.FindingFile
import PadScout.Proofs.Json.Record
import PadScout.Settings

/-! # What is kept in files

Settings and findings are kept as printed JSON values, and reading a file gives back what
was written to it (`readBack_of_stored`).  Whatever the settings are, their text is never
malformed: settings that could not work are refused for what is wrong with them.
-/
namespace PadScout

open Json (IsWhole)

/-! ## Hosts -/

namespace Host

theorem isWhole_filterJson (filter : Option String) : IsWhole (filterJson filter) := by
  cases filter with
  | none => exact .null
  | some s => exact .text _

theorem isWhole_toJson (h : Host) : IsWhole h.toJson := by
  refine Json.isWhole_object fun v hv => ?_
  simp only [List.mem_cons, List.not_mem_nil, or_false] at hv
  rcases hv with rfl | rfl | rfl | rfl
  · exact .text _
  · exact .text _
  · exact isWhole_filterJson _
  · exact .number _

theorem nullable?_filterJson (filter : Option String) :
    Json.nullable? Json.string? (filterJson filter) = some filter := by
  cases filter with
  | none => rfl
  | some s => exact congrArg (Option.map some) (Json.string?_ofString s)

theorem ofName?_name (k : StrategyKind) : StrategyKind.ofName? k.name = some k := by
  cases k <;> decide

theorem ofJson?_toJson (h : Host) : ofJson? h.toJson = some h := by
  have hrecord : h.toJson.record? fieldNames = some (List.map some [.ofString h.processName,
      .ofString h.strategy.name, filterJson h.moduleFilter, .ofNat h.probeOffset.toNat]) :=
    Json.record?_object (by decide) rfl
  rw [ofJson?, hrecord]
  simp [Json.required, Json.optional, nullable?_filterJson, ofName?_name]

end Host

/-! ## Settings -/

namespace Settings

theorem isWhole_toJson (s : Settings) : IsWhole s.toJson := by
  refine Json.isWhole_object fun v hv => ?_
  rcases List.mem_cons.1 hv with rfl | hv
  · refine .array _ fun v hv => ?_
    obtain ⟨h, -, rfl⟩ := List.mem_map.1 hv
    exact h.isWhole_toJson
  · simp only [List.mem_cons, List.not_mem_nil, or_false] at hv
    rcases hv with rfl | rfl | rfl | rfl | rfl | rfl | rfl <;> exact .number _

theorem ofJson?_toJson (s : Settings) : ofJson? s.toJson = some s := by
  have hrecord : s.toJson.record? fieldNames = some (List.map some
      [.array (s.hosts.map Host.toJson), .ofNat s.searchInterval.toNat,
       .ofNat s.locateInterval.toNat, .ofNat s.extractInterval.toNat, .ofNat s.ramSize.toNat,
       .ofNat s.moduleScanStep.toNat, .ofNat s.magicValue.toNat, .ofNat s.magicMask.toNat]) :=
    Json.record?_object (by decide) rfl
  rw [ofJson?, hrecord]
  simp [Json.optional, Json.list?_array Host.ofJson?_toJson]

/-- **The text of settings is read back**; what is wrong with them is not that they cannot
be read. -/
theorem ofText?_text (s : Settings) : ofText? s.text.toList =
    match s.validate with
    | .ok () => .ok s
    | .error reason => .error (.invalid reason) := by
  rw [ofText?, text, Json.parse?_pretty s.isWhole_toJson, Option.bind_some, ofJson?_toJson]
  dsimp only
  cases s.validate <;> rfl

/-- Texts are kept as bytes. -/
theorem ofFile?_toUTF8 (text : String) : ofFile? (.ok text.toUTF8) = ofText? text.toList := by
  have hread : SystemError.readText text.toUTF8 = .ok text := by
    have hbytes : String.fromUTF8? text.toUTF8 = some text := dif_pos text.isValidUTF8
    rw [SystemError.readText, hbytes]
  rw [ofFile?, Except.bind, hread]

end Settings

/-! ## Findings -/

namespace Finding

theorem isWhole_toJson (f : Finding) : IsWhole f.toJson := by
  refine Json.isWhole_object fun v hv => ?_
  simp only [List.mem_cons, List.not_mem_nil, or_false] at hv
  rcases hv with rfl | rfl | rfl
  · exact .number _
  · refine .array _ fun v hv => ?_
    obtain ⟨w, -, rfl⟩ := List.mem_map.1 hv
    exact .number _
  · exact .number _

theorem ofJson?_toJson {f : Finding} (h : f.windowStart < UInt64.size) :
    ofJson? f.toJson = some f := by
  have hrecord : f.toJson.record? fieldNames = some (List.map some [.ofNat f.windowStart,
      .array (f.window.map fun w => .ofNat w.toNat), .ofNat f.inputOffset.toNat]) :=
    Json.record?_object (by decide) rfl
  rw [ofJson?, hrecord]
  simp [Json.required, Json.natBelow?_ofNat h, Json.list?_array Json.word32?_ofNat]

/-- **The text of a finding is read back.** -/
theorem ofText?_fileText {f : Finding} (h : f.windowStart < UInt64.size) :
    ofText? f.fileText.toList = some f := by
  rw [ofText?, fileText, Json.parse?_pretty f.isWhole_toJson, Option.bind_some, ofJson?_toJson h]

end Finding

/-- **Nothing is lost in files.**  A file with the text of some settings gives back these
settings if they are valid, and what is wrong with them if they are not, but is never
malformed.  The text of a finding, whose window may start wherever a word can be counted with
64 bits, gives back the finding.  Names and filters may be any texts. -/
theorem readBack_of_stored (s : Settings) (f : Finding) (h : f.windowStart < UInt64.size) :
    Settings.ofFile? (.ok s.text.toUTF8) =
        (match s.validate with
        | .ok () => .ok s
        | .error reason => .error (.invalid reason)) ∧
      Finding.ofText? f.fileText.toList = some f := by
  rw [Settings.ofFile?_toUTF8]
  exact ⟨s.ofText?_text, Finding.ofText?_fileText h⟩

/-- Settings with the greatest numbers that there are, and with names that are hard to write
down. -/
def oddSettings : Settings where
  hosts :=
    [{ processName := "\"C:\\emu\x7f\"\t\n\x01\x1f/é€😀", strategy := .moduleScan,
       moduleFilter := some "", probeOffset := 0xFFFFFFFFFFFFFFFF },
     { processName := "", strategy := .regionScan }]
  searchInterval := 0xFFFFFFFFFFFFFFFF
  locateInterval := 0
  ramSize := 0xFFFFFFFC
  magicValue := 0xFFFFFFFF
  magicMask := 0xFFFFFFFF

/-- A finding as far from the start of memory as can be. -/
def oddFinding : Finding := ⟨0xFFFFFFFFFFFFFFFF, [0, 0xFFFFFFFF], 0xFFFFFFFF⟩

/-- Odd settings and findings are read back as they are, and without hosts the settings are
refused. -/
theorem readBack_of_odd : oddFinding.windowStart < UInt64.size ∧
    Settings.ofFile? (.ok oddSettings.text.toUTF8) = .ok oddSettings ∧
    Settings.ofFile? (.ok { oddSettings with hosts := [] }.text.toUTF8) =
      .error (.invalid .noHosts) ∧
    Finding.ofText? oddFinding.fileText.toList = some oddFinding := by
  have hstart : oddFinding.windowStart < UInt64.size := by decide
  have hvalid : oddSettings.validate = .ok () := by decide
  obtain ⟨hsettings, hfinding⟩ := readBack_of_stored oddSettings oddFinding hstart
  rw [hvalid] at hsettings
  exact ⟨hstart, hsettings, (readBack_of_stored _ oddFinding hstart).1, hfinding⟩

end PadScout
