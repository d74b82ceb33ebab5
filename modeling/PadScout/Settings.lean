import PadScout.Json.Printer
import PadScout.Json.Record
import PadScout.SystemError
import PadScout.Text.Case

/-! # Settings

Which emulators to attach to, how to find the console's memory in them, and how
often to look.  Settings are kept in a JSON file; whatever the file does not
mention has its default value.  `Settings.validate` refuses settings that could
never work, and `Settings.ofFile?` reads and validates a file.
-/
namespace PadScout

/-- How the memory of the console is found in the memory of an emulator. -/
inductive StrategyKind where
  /-- Look at the start of every region that may hold it. -/
  | regionScan
  /-- Look at regular distances through one module. -/
  | moduleScan
deriving DecidableEq

namespace StrategyKind

/-- The name of a strategy in settings. -/
def name : StrategyKind → String
  | regionScan => "region_scan"
  | moduleScan => "module_scan"

def ofName? (s : String) : Option StrategyKind :=
  [regionScan, moduleScan].find? fun k => k.name == s

end StrategyKind

/-- An emulator to attach to. -/
structure Host where
  processName : String
  strategy : StrategyKind
  /-- A part of the name of the module to look through. -/
  moduleFilter : Option String := none
  /-- The distance of the magic word from the start of the memory. -/
  probeOffset : UInt64 := 0
deriving DecidableEq

namespace Host

/-- Whether a process of this name is the emulator; the case of A to Z does not
matter. -/
def matchesName (h : Host) (name : String) : Bool :=
  Case.asciiEqual h.processName.toList name.toList

end Host

structure Settings where
  hosts : List Host :=
    [{ processName := "project64.exe", strategy := .regionScan },
     { processName := "retroarch.exe", strategy := .moduleScan, moduleFilter := some "parallel_n64" },
     { processName := "retroarch", strategy := .moduleScan, moduleFilter := some "parallel_n64" }]
  /-- The time between two looks for a host, in milliseconds. -/
  searchInterval : UInt64 := 1000
  /-- The time between two looks for its memory. -/
  locateInterval : UInt64 := 1000
  /-- The time between two looks at the input. -/
  extractInterval : UInt64 := 15
  /-- The size of the console's memory in bytes. -/
  ramSize : UInt32 := 0x400000
  /-- The distance between two places where a module is looked at. -/
  moduleScanStep : UInt64 := 0x1000
  /-- What the masked bits of the magic word must be. -/
  magicValue : UInt32 := 0x3C1A8000
  /-- Which bits of the magic word matter. -/
  magicMask : UInt32 := 0xFFFFF000
deriving DecidableEq

/-- Why settings could never work. -/
inductive InvalidSettings where
  | noHosts
  | missingFilter (host : String)
  | ramSize (size : UInt32)
  | zeroStep
  | magicOutsideMask
deriving DecidableEq

namespace InvalidSettings

def message : InvalidSettings → String
  | noHosts => "at least one host must be configured"
  | missingFilter host => "host " ++ host ++ " uses module_scan without a module_filter"
  | ramSize size => "ram_size " ++ Hex.marked size.toNat ++ " must be a nonzero multiple of 4"
  | zeroStep => "module_scan_step must be greater than 0"
  | magicOutsideMask => "magic_value has bits outside magic_mask"

end InvalidSettings

/-- Why settings cannot be had. -/
inductive SettingsError where
  | system (cause : SystemError)
  | parse
  | invalid (reason : InvalidSettings)
deriving DecidableEq

namespace SettingsError

def message : SettingsError → String
  | system cause => "IO error: " ++ cause.message
  | parse => "Parse error: malformed settings"
  | invalid reason => "Invalid config: " ++ reason.message

end SettingsError

namespace Settings

/-- The size of the console's memory in words. -/
def ramWords (s : Settings) : Nat := s.ramSize.toNat / 4

/-- The first host that a process of this name is. -/
def hostFor? (s : Settings) (name : String) : Option Host :=
  s.hosts.find? fun h => h.matchesName name

/-- The first host that scans a module without naming one. -/
def hostWithoutFilter? (s : Settings) : Option Host :=
  s.hosts.find? fun h => h.strategy == .moduleScan && h.moduleFilter.isNone

/-- **Refuses settings that could never work.** -/
def validate (s : Settings) : Except InvalidSettings Unit :=
  if s.hosts.isEmpty then .error .noHosts
  else
    match s.hostWithoutFilter? with
    | some h => .error (.missingFilter h.processName)
    | none =>
      if s.ramSize = 0 ∨ s.ramSize % 4 ≠ 0 then .error (.ramSize s.ramSize)
      else if s.moduleScanStep = 0 then .error .zeroStep
      else if s.magicValue &&& ~~~ s.magicMask ≠ 0 then .error .magicOutsideMask
      else .ok ()

end Settings

/-! ## JSON -/

namespace Host

/-- The names of the fields, in order. -/
def fieldNames : List String := ["process_name", "strategy", "module_filter", "probe_offset"]

/-- A text, or null. -/
def filterJson : Option String → Json
  | some s => .ofString s
  | none => .null

def toJson (h : Host) : Json :=
  .object
    (fieldNames.map (fun name => some name.toList) |>.zip
      [.ofString h.processName, .ofString h.strategy.name, filterJson h.moduleFilter,
       .ofNat h.probeOffset.toNat])

/-- Reads a host; only a filter and an offset may be missing. -/
def ofJson? (v : Json) : Option Host :=
  match v.record? fieldNames with
  | some [name, strategy, filter, offset] =>
    match Json.required Json.string? name,
      Json.required (fun v => (Json.choice? v).bind StrategyKind.ofName?) strategy,
      Json.optional (Json.nullable? Json.string?) none filter,
      Json.optional Json.word64? 0 offset with
    | some name, some strategy, some filter, some offset => some ⟨name, strategy, filter, offset⟩
    | _, _, _, _ => none
  | _ => none

end Host

namespace Settings

/-- The names of the fields, in order. -/
def fieldNames : List String :=
  ["hosts", "search_interval_ms", "locate_interval_ms", "extract_interval_ms", "ram_size",
   "module_scan_step", "magic_value", "magic_mask"]

def toJson (s : Settings) : Json :=
  .object
    (fieldNames.map (fun name => some name.toList) |>.zip
      [.array (s.hosts.map Host.toJson), .ofNat s.searchInterval.toNat,
       .ofNat s.locateInterval.toNat, .ofNat s.extractInterval.toNat, .ofNat s.ramSize.toNat,
       .ofNat s.moduleScanStep.toNat, .ofNat s.magicValue.toNat, .ofNat s.magicMask.toNat])

/-- Reads settings; a missing field has its default value. -/
def ofJson? (v : Json) : Option Settings :=
  let d : Settings := {}
  match v.record? fieldNames with
  | some [hosts, search, locate, extract, size, step, value, mask] =>
    match Json.optional (Json.list? Host.ofJson?) d.hosts hosts,
      Json.optional Json.word64? d.searchInterval search,
      Json.optional Json.word64? d.locateInterval locate,
      Json.optional Json.word64? d.extractInterval extract,
      Json.optional Json.word32? d.ramSize size,
      Json.optional Json.word64? d.moduleScanStep step,
      Json.optional Json.word32? d.magicValue value,
      Json.optional Json.word32? d.magicMask mask with
    | some hosts, some search, some locate, some extract, some size, some step, some value,
      some mask => some ⟨hosts, search, locate, extract, size, step, value, mask⟩
    | _, _, _, _, _, _, _, _ => none
  | _ => none

/-- The text of a settings file. -/
def text (s : Settings) : String := s.toJson.pretty

/-- **Reads and validates the text of a settings file.** -/
def ofText? (text : List Char) : Except SettingsError Settings :=
  match (Json.parse? text).bind ofJson? with
  | none => .error .parse
  | some s =>
    match s.validate with
    | .error reason => .error (.invalid reason)
    | .ok () => .ok s

/-- The settings in a file, given what came of reading it. -/
def ofFile? (content : Except SystemError ByteArray) : Except SettingsError Settings :=
  match content.bind SystemError.readText with
  | .error cause => .error (.system cause)
  | .ok text => ofText? text.toList

end Settings

end PadScout
