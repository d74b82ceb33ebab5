import PadScout.Proofs.Json.Fields
import PadScout.Proofs.Storage

/-! # Settings given in part

A settings file need not mention every field.  What it gives is put over the defaults, and what it
does not give keeps its default value (`Settings.Override`).  Nothing else is read from a file: a
field that is given twice, or by a value of another kind, is an error, and so is a host without a
name or a strategy (`Settings.ofJson?_eq_some_iff`, `Host.ofJson?_eq_some_iff`).

The order of the members, in the settings and in each host, says nothing, and neither do members
under other names, whatever they hold (`Settings.SameHosts`).  All this is said of every text that
spells the settings.
-/
namespace PadScout

open Json (Alike HasFields Member Spells valuesOf)

/-! ## Hosts -/

namespace StrategyKind

/-- A strategy is given by its name, alone or with null under it. -/
def GivenBy (k : StrategyKind) (v : Json) : Prop :=
  v = .ofString k.name ∨ v = .object [(some k.name.toList, .null)]

theorem ofName?_eq_some_iff {s : String} {k : StrategyKind} : ofName? s = some k ↔ s = k.name := by
  constructor
  · intro h
    rw [ofName?] at h
    have hname := List.find?_some h
    exact (beq_iff_eq.1 hname).symm
  · rintro rfl
    exact Host.ofName?_name k

theorem read_eq_some_iff {v : Json} {k : StrategyKind} :
    (Json.choice? v).bind ofName? = some k ↔ k.GivenBy v := by
  simp only [Option.bind_eq_some_iff, ofName?_eq_some_iff, exists_eq_right, GivenBy,
    Json.choice?_eq_some_iff]

end StrategyKind

namespace Host

/-- **A host is given by a value** with its name and its strategy, and with a filter and an offset
unless there is no filter or the offset is zero.  No filter may also be given as null. -/
def GivenBy (h : Host) (v : Json) : Prop := ∃ strategy filter offset,
  HasFields fieldNames v [some (.ofString h.processName), some strategy, filter, offset] ∧
  h.strategy.GivenBy strategy ∧
  (filter = none ∧ h.moduleFilter = none ∨ filter = some (filterJson h.moduleFilter)) ∧
  (offset = none ∧ h.probeOffset = 0 ∨ offset = some (.ofNat h.probeOffset.toNat))

theorem nullable?_eq_some_iff {v : Json} {filter : Option String} :
    Json.nullable? Json.string? v = some filter ↔ v = filterJson filter := by
  rw [Json.nullable?_eq_some_iff rfl]
  simp only [Json.string?_eq_some_iff]
  cases filter <;> simp [filterJson]

theorem filter_eq_some_iff {field : Option Json} {filter : Option String} :
    Json.optional (Json.nullable? Json.string?) none field = some filter ↔
      field = none ∧ filter = none ∨ field = some (filterJson filter) := by
  simp only [Json.optional_eq_some_iff, nullable?_eq_some_iff, exists_eq_right]

theorem offset_eq_some_iff {field : Option Json} {offset : UInt64} :
    Json.optional Json.word64? 0 field = some offset ↔
      field = none ∧ offset = 0 ∨ field = some (.ofNat offset.toNat) := by
  simp only [Json.optional_eq_some_iff, Json.word64?_eq_some_iff, exists_eq_right]

theorem name_eq_some_iff {field : Option Json} {name : String} :
    Json.required Json.string? field = some name ↔ field = some (.ofString name) := by
  simp only [Json.required_eq_some_iff, Json.string?_eq_some_iff, exists_eq_right]

/-- **Reading a host** finds the host that is given, and nothing else. -/
theorem ofJson?_eq_some_iff {v : Json} {h : Host} : ofJson? v = some h ↔ h.GivenBy v := by
  constructor
  · intro hread
    unfold ofJson? at hread
    split at hread
    · next name strategy filter offset hrecord =>
      split at hread
      · next name' strategy' filter' offset' hname hstrategy hfilter hoffset =>
        cases hread
        obtain ⟨strategy, rfl, hstrategy⟩ := Json.required_eq_some_iff.1 hstrategy
        rw [name_eq_some_iff.1 hname, Json.record?_eq_some_iff] at hrecord
        exact ⟨strategy, filter, offset, hrecord, StrategyKind.read_eq_some_iff.1 hstrategy,
          filter_eq_some_iff.1 hfilter, offset_eq_some_iff.1 hoffset⟩
      · cases hread
    · cases hread
  · rintro ⟨strategy, filter, offset, hfields, hstrategy, hfilter, hoffset⟩
    rw [ofJson?, Json.record?_eq_some_iff.2 hfields]
    dsimp only
    rw [name_eq_some_iff.2 rfl, filter_eq_some_iff.2 hfilter, offset_eq_some_iff.2 hoffset,
      Json.required_eq_some_iff.2 ⟨strategy, rfl, StrategyKind.read_eq_some_iff.2 hstrategy⟩]

/-- What makes an object no host: a name or a strategy that is missing, or a field that is
repeated. -/
def Lacking (ms : List Member) : Prop :=
  valuesOf "process_name".toList ms = [] ∨ valuesOf "strategy".toList ms = [] ∨
    ∃ name ∈ fieldNames, 2 ≤ (valuesOf name.toList ms).length

theorem GivenBy.not_lacking {h : Host} {ms : List Member} (hgiven : h.GivenBy (.object ms)) :
    ¬ Lacking ms := by
  obtain ⟨strategy, filter, offset, hfields, -⟩ := hgiven
  rintro (hname | hstrategy | ⟨name, hname, hlength⟩)
  · rcases hfields.2 with _ | ⟨hvalues, -⟩
    rw [hname] at hvalues
    cases hvalues
  · rcases hfields.2 with _ | ⟨-, _ | ⟨hvalues, -⟩⟩
    rw [hstrategy] at hvalues
    cases hvalues
  · have := hfields.length_valuesOf_le hname
    omega

/-- Values that give the same host: in one object the members may be in another order than in the
other, and have others beside them. -/
inductive Same : Json → Json → Prop where
  | refl (v : Json) : Same v v
  | object {ms ms' : List Member} (h : Alike Eq fieldNames ms ms') : Same (.object ms) (.object ms')

theorem Same.symm {v v' : Json} (h : Same v v') : Same v' v := by
  cases h with
  | refl => exact .refl v
  | object h => exact .object (h.symm Eq.symm)

theorem GivenBy.of_same {h : Host} {v v' : Json} (hgiven : h.GivenBy v) (hsame : Same v v') :
    h.GivenBy v' := by
  cases hsame with
  | refl => exact hgiven
  | object halike =>
    obtain ⟨strategy, filter, offset, hfields, hrest⟩ := hgiven
    obtain ⟨fields', hfields', hrel⟩ := hfields.of_alike halike
    have heq : ∀ field field' : Option Json, Option.Rel Eq field field' → field = field' := by
      intro field field' h
      cases h with
      | some h => rw [h]
      | none => rfl
    have hsame := hrel.imp heq
    rw [List.forall₂_eq_eq_eq] at hsame
    rw [← hsame] at hfields'
    exact ⟨strategy, filter, offset, hfields', hrest⟩

end Host

/-! ## Settings -/

namespace Settings

/-- **What is given of settings**: any of their fields. -/
structure Override where
  hosts : Option (List Host) := none
  searchInterval : Option UInt64 := none
  locateInterval : Option UInt64 := none
  extractInterval : Option UInt64 := none
  ramSize : Option UInt32 := none
  moduleScanStep : Option UInt64 := none
  magicValue : Option UInt32 := none
  magicMask : Option UInt32 := none

/-- Hosts are given by an array of values that give them, one by one. -/
def HostsGivenBy (v : Json) (hosts : List Host) : Prop :=
  ∃ vs, v = .array vs ∧ List.Forall₂ (fun v h => h.GivenBy v) vs hosts

def word32Json (w : UInt32) : Json := .ofNat w.toNat

def word64Json (w : UInt64) : Json := .ofNat w.toNat

namespace Override

/-- **The settings with what is given in place of what they have.** -/
def onto (o : Override) (s : Settings) : Settings where
  hosts := o.hosts.getD s.hosts
  searchInterval := o.searchInterval.getD s.searchInterval
  locateInterval := o.locateInterval.getD s.locateInterval
  extractInterval := o.extractInterval.getD s.extractInterval
  ramSize := o.ramSize.getD s.ramSize
  moduleScanStep := o.moduleScanStep.getD s.moduleScanStep
  magicValue := o.magicValue.getD s.magicValue
  magicMask := o.magicMask.getD s.magicMask

/-- **What a value gives of settings**: each field under its name, if it is given at all. -/
def GivenBy (o : Override) (v : Json) : Prop := ∃ hosts,
  HasFields fieldNames v
    [hosts, o.searchInterval.map word64Json, o.locateInterval.map word64Json,
     o.extractInterval.map word64Json, o.ramSize.map word32Json, o.moduleScanStep.map word64Json,
     o.magicValue.map word32Json, o.magicMask.map word32Json] ∧
  Option.Rel HostsGivenBy hosts o.hosts

end Override

section Reading
variable {α : Type} {read : Json → Option α} {field : Option Json} {default a : α}

/-- A field is read as its default or as what is given. -/
theorem optional_eq_some_iff_rel {R : Json → α → Prop} (hread : ∀ v a, read v = some a ↔ R v a) :
    Json.optional read default field = some a ↔
      ∃ given : Option α, Option.Rel R field given ∧ a = given.getD default := by
  rw [Json.optional_eq_some_iff]
  constructor
  · rintro (⟨rfl, rfl⟩ | ⟨v, rfl, hv⟩)
    · exact ⟨none, .none, rfl⟩
    · exact ⟨some a, .some ((hread v a).1 hv), rfl⟩
  · rintro ⟨given, hgiven, rfl⟩
    cases hgiven with
    | none => exact Or.inl ⟨rfl, rfl⟩
    | some hv => exact Or.inr ⟨_, rfl, (hread _ _).2 hv⟩

/-- A field whose value is written in one way only. -/
theorem optional_eq_some_iff_map {write : α → Json} (hread : ∀ v a, read v = some a ↔ v = write a) :
    Json.optional read default field = some a ↔
      ∃ given : Option α, field = given.map write ∧ a = given.getD default := by
  rw [optional_eq_some_iff_rel hread]
  refine exists_congr fun given => and_congr_left' ?_
  cases field <;> cases given <;> simp

end Reading

theorem word64_eq_some_iff {field : Option Json} {default w : UInt64} :
    Json.optional Json.word64? default field = some w ↔
      ∃ given : Option UInt64, field = given.map word64Json ∧ w = given.getD default :=
  optional_eq_some_iff_map fun _ _ => Json.word64?_eq_some_iff

theorem word32_eq_some_iff {field : Option Json} {default w : UInt32} :
    Json.optional Json.word32? default field = some w ↔
      ∃ given : Option UInt32, field = given.map word32Json ∧ w = given.getD default :=
  optional_eq_some_iff_map fun _ _ => Json.word32?_eq_some_iff

theorem list?_eq_some_iff {v : Json} {hosts : List Host} :
    Json.list? Host.ofJson? v = some hosts ↔ HostsGivenBy v hosts := by
  simp only [Json.list?_eq_some_iff, HostsGivenBy, Host.ofJson?_eq_some_iff]

theorem hosts_eq_some_iff {field : Option Json} {default hosts : List Host} :
    Json.optional (Json.list? Host.ofJson?) default field = some hosts ↔
      ∃ given : Option (List Host), Option.Rel HostsGivenBy field given ∧
        hosts = given.getD default :=
  optional_eq_some_iff_rel fun _ _ => list?_eq_some_iff

/-- **Reading settings** finds the defaults with what is given put over them, and nothing else. -/
theorem ofJson?_eq_some_iff {v : Json} {s : Settings} :
    ofJson? v = some s ↔ ∃ o : Override, o.GivenBy v ∧ s = o.onto {} := by
  constructor
  · intro h
    unfold ofJson? at h
    dsimp only at h
    split at h
    · next hrecord =>
      split at h
      · next hhosts hsearch hlocate hextract hsize hstep hvalue hmask =>
        cases h
        obtain ⟨hosts, hgiven, rfl⟩ := hosts_eq_some_iff.1 hhosts
        obtain ⟨search, rfl, rfl⟩ := word64_eq_some_iff.1 hsearch
        obtain ⟨locate, rfl, rfl⟩ := word64_eq_some_iff.1 hlocate
        obtain ⟨extract, rfl, rfl⟩ := word64_eq_some_iff.1 hextract
        obtain ⟨size, rfl, rfl⟩ := word32_eq_some_iff.1 hsize
        obtain ⟨step, rfl, rfl⟩ := word64_eq_some_iff.1 hstep
        obtain ⟨value, rfl, rfl⟩ := word32_eq_some_iff.1 hvalue
        obtain ⟨mask, rfl, rfl⟩ := word32_eq_some_iff.1 hmask
        exact ⟨⟨hosts, search, locate, extract, size, step, value, mask⟩,
          ⟨_, Json.record?_eq_some_iff.1 hrecord, hgiven⟩, rfl⟩
      · cases h
    · cases h
  · rintro ⟨o, ⟨hosts, hfields, hgiven⟩, rfl⟩
    rw [ofJson?, Json.record?_eq_some_iff.2 hfields]
    dsimp only
    rw [hosts_eq_some_iff.2 ⟨o.hosts, hgiven, rfl⟩, word64_eq_some_iff.2 ⟨_, rfl, rfl⟩,
      word64_eq_some_iff.2 ⟨_, rfl, rfl⟩, word64_eq_some_iff.2 ⟨_, rfl, rfl⟩,
      word32_eq_some_iff.2 ⟨_, rfl, rfl⟩, word64_eq_some_iff.2 ⟨_, rfl, rfl⟩,
      word32_eq_some_iff.2 ⟨_, rfl, rfl⟩, word32_eq_some_iff.2 ⟨_, rfl, rfl⟩]
    rfl

/-! ## Order and other members -/

/-- Values that give the same hosts: element by element the same host. -/
inductive SameHosts : Json → Json → Prop where
  | refl (v : Json) : SameHosts v v
  | array {vs vs' : List Json} (h : List.Forall₂ Host.Same vs vs') :
      SameHosts (.array vs) (.array vs')

theorem SameHosts.symm {v v' : Json} (h : SameHosts v v') : SameHosts v' v := by
  cases h with
  | refl => exact .refl v
  | array h => exact .array (h.flip.imp fun _ _ => Host.Same.symm)

theorem HostsGivenBy.of_same {hosts : List Host} {v v' : Json} (hgiven : HostsGivenBy v hosts)
    (hsame : SameHosts v v') : HostsGivenBy v' hosts := by
  cases hsame with
  | refl => exact hgiven
  | @array vs vs' hsame =>
    obtain ⟨ws, heq, hgiven⟩ := hgiven
    cases heq
    refine ⟨vs', rfl, ?_⟩
    induction hsame generalizing hosts with
    | nil => exact hgiven
    | cons hv _ ih =>
      obtain ⟨h, rest, hh, hrest, rfl⟩ := List.forall₂_cons_left_iff.1 hgiven
      exact .cons (hh.of_same hv) (ih hrest)

/-- A number gives no hosts, so it is the same only as itself. -/
theorem SameHosts.eq_ofNat {n : Nat} {v : Json} (h : SameHosts (.ofNat n) v) : v = .ofNat n := by
  cases h
  rfl

theorem eq_of_rel_map {α : Type} {toNat : α → Nat} {given : Option α} {field : Option Json}
    (h : Option.Rel SameHosts (given.map fun a => .ofNat (toNat a)) field) :
    field = given.map fun a => .ofNat (toNat a) := by
  cases given with
  | none =>
    cases h
    rfl
  | some a =>
    rw [Option.map_some] at h ⊢
    cases h with
    | some h => rw [h.eq_ofNat]

/-- **Nothing else is given** by members in another order, or beside others. -/
theorem Override.GivenBy.of_alike {o : Override} {ms ms' : List Member}
    (hgiven : o.GivenBy (.object ms)) (halike : Alike SameHosts fieldNames ms ms') :
    o.GivenBy (.object ms') := by
  obtain ⟨hosts, hfields, hhosts⟩ := hgiven
  obtain ⟨fields', hfields', hrel⟩ := hfields.of_alike halike
  rcases hrel with _ | ⟨hhosts', _ | ⟨hsearch, _ | ⟨hlocate, _ | ⟨hextract, _ | ⟨hsize, _ |
    ⟨hstep, _ | ⟨hvalue, _ | ⟨hmask, ⟨⟩⟩⟩⟩⟩⟩⟩⟩⟩
  cases eq_of_rel_map hsearch
  cases eq_of_rel_map hlocate
  cases eq_of_rel_map hextract
  cases eq_of_rel_map hsize
  cases eq_of_rel_map hstep
  cases eq_of_rel_map hvalue
  cases eq_of_rel_map hmask
  refine ⟨_, hfields', ?_⟩
  cases hhosts' with
  | none => exact hhosts
  | some hsame =>
    generalize o.hosts = given at hhosts ⊢
    cases hhosts with
    | some hgiven => exact .some (hgiven.of_same hsame)

theorem ofJson?_congr {ms ms' : List Member} (h : Alike SameHosts fieldNames ms ms') :
    ofJson? (.object ms') = ofJson? (.object ms) := by
  apply Option.ext
  intro s
  rw [ofJson?_eq_some_iff, ofJson?_eq_some_iff]
  constructor
  · rintro ⟨o, hgiven, rfl⟩
    exact ⟨o, hgiven.of_alike (h.symm SameHosts.symm), rfl⟩
  · rintro ⟨o, hgiven, rfl⟩
    exact ⟨o, hgiven.of_alike h, rfl⟩

/-! ## Errors -/

theorem ofJson?_eq_none_of_repeated {ms : List Member} {name : String} (hname : name ∈ fieldNames)
    (h : 2 ≤ (valuesOf name.toList ms).length) : ofJson? (.object ms) = none := by
  rw [Option.eq_none_iff_forall_ne_some]
  intro s hs
  obtain ⟨o, ⟨hosts, hfields, -⟩, -⟩ := ofJson?_eq_some_iff.1 hs
  have := hfields.length_valuesOf_le hname
  omega

/-- **One host that lacks something** spoils the settings. -/
theorem ofJson?_eq_none_of_lacking {ms host : List Member} {vs : List Json}
    (hvs : (some "hosts".toList, .array vs) ∈ ms) (hhost : .object host ∈ vs)
    (h : Host.Lacking host) : ofJson? (.object ms) = none := by
  rw [Option.eq_none_iff_forall_ne_some]
  intro s hs
  obtain ⟨o, ⟨hosts, ⟨-, hfields⟩, hrel⟩, -⟩ := ofJson?_eq_some_iff.1 hs
  rcases hfields with _ | ⟨hvalues, -⟩
  rw [← Json.mem_valuesOf, hvalues, Option.mem_toList] at hvs
  generalize o.hosts = given at hrel
  cases hvs
  cases hrel with
  | some hgiven =>
    obtain ⟨_, heq, hgiven⟩ := hgiven
    cases heq
    obtain ⟨_, hone⟩ := Json.exists_of_forall₂ hgiven hhost
    exact hone.not_lacking h

theorem ofText?_eq_parse {text : List Char} (h : (Json.parse? text).bind ofJson? = none) :
    ofText? text = .error .parse := by
  rw [ofText?, h]

/-- **Settings given in part are put over the defaults.**  Whatever text spells an object, the
settings read from it are the defaults with what the object gives in place of theirs, and there
are none just if it gives nothing that settings could have.  Members in another order and members
under other names make no difference, neither in the settings nor in a host.  A field that is
repeated is an error, and so is a host that has no name or no strategy, or repeats a field. -/
theorem read_iff_override {ms : List Member} {text : List Char} (htext : Spells (.object ms) text) :
    (∀ s, (Json.parse? text).bind ofJson? = some s ↔
      ∃ o : Override, o.GivenBy (.object ms) ∧ s = o.onto {}) ∧
    (∀ (ms' : List Member) (text' : List Char), Spells (.object ms') text' →
      Alike SameHosts fieldNames ms ms' →
      (Json.parse? text').bind ofJson? = (Json.parse? text).bind ofJson?) ∧
    (∀ name ∈ fieldNames, 2 ≤ (valuesOf name.toList ms).length → ofText? text = .error .parse) ∧
    ∀ (vs : List Json) (host : List Member), (some "hosts".toList, .array vs) ∈ ms →
      .object host ∈ vs → Host.Lacking host → ofText? text = .error .parse := by
  have hread : (Json.parse? text).bind ofJson? = ofJson? (.object ms) := by
    rw [Json.parse?_of_spells htext, Option.bind_some]
  refine ⟨fun s => ?_, fun ms' text' htext' halike => ?_, fun name hname h => ?_,
    fun vs host hvs hhost h => ?_⟩
  · rw [hread]
    exact ofJson?_eq_some_iff
  · rw [hread, Json.parse?_of_spells htext', Option.bind_some]
    exact ofJson?_congr halike
  · exact ofText?_eq_parse (hread.trans (ofJson?_eq_none_of_repeated hname h))
  · exact ofText?_eq_parse (hread.trans (ofJson?_eq_none_of_lacking hvs hhost h))

/-- A host with a member that is no field, and in an order of its own. -/
def annotatedHost : List Member :=
  [(some "strategy".toList, .ofString "region_scan"), (some "owner".toList, .bool true),
   (some "process_name".toList, .ofString "emu")]

/-- Settings with a note that is no field of theirs. -/
def annotated : List Member :=
  [(some "note".toList, .array [.object [(some "hosts".toList, .null)], .text none]),
   (some "extract_interval_ms".toList, .ofNat 5),
   (some "hosts".toList, .array [.object annotatedHost])]

theorem isWhole_annotated : (Json.object annotated).IsWhole := by
  have hnote : (Json.array [.object [(some "hosts".toList, .null)], .text none]).IsWhole := by
    refine .array _ (List.forall_mem_cons.2 ⟨.object _ ?_, ?_⟩)
    · exact List.forall_mem_singleton.2 .null
    · exact List.forall_mem_singleton.2 (.text none)
  have hhost : (Json.object annotatedHost).IsWhole := by
    simp only [annotatedHost]
    refine .object _ (List.forall_mem_cons.2 ⟨.text _, List.forall_mem_cons.2 ⟨.bool true, ?_⟩⟩)
    exact List.forall_mem_singleton.2 (.text _)
  refine .object _ (List.forall_mem_cons.2 ⟨hnote, List.forall_mem_cons.2 ⟨.number 5, ?_⟩⟩)
  exact List.forall_mem_singleton.2 (.array _ (List.forall_mem_singleton.2 hhost))

/-- Just the hosts and the interval are taken from the annotated settings. -/
theorem read_iff_override_annotated :
    Spells (.object annotated) (Json.object annotated).pretty.toList ∧
      (Json.parse? (Json.object annotated).pretty.toList).bind ofJson? =
        some { hosts := [⟨"emu", .regionScan, none, 0⟩], extractInterval := 5 } := by
  have htext := Json.spells_pretty isWhole_annotated
  have hhost : (⟨"emu", .regionScan, none, 0⟩ : Host).GivenBy (.object annotatedHost) :=
    ⟨.ofString "region_scan", none, none,
      ⟨by decide, .cons rfl (.cons rfl (.cons rfl (.cons rfl .nil)))⟩, Or.inl rfl,
      Or.inl ⟨rfl, rfl⟩, Or.inl ⟨rfl, rfl⟩⟩
  have hgiven : ({ hosts := some [⟨"emu", .regionScan, none, 0⟩], extractInterval := some 5 } :
      Override).GivenBy (.object annotated) :=
    ⟨some (.array [.object annotatedHost]),
      ⟨by decide, .cons rfl (.cons rfl (.cons rfl (.cons rfl (.cons rfl (.cons rfl (.cons rfl
        (.cons rfl .nil)))))))⟩,
      .some ⟨_, rfl, .cons hhost .nil⟩⟩
  exact ⟨htext, ((read_iff_override htext).1 _).2 ⟨_, hgiven, rfl⟩⟩

end Settings

end PadScout
