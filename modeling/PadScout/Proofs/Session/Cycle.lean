import PadScout.Proofs.Locate.Attachment
import PadScout.Proofs.Session.State

/-! # What a cycle can come to

For each state of a session, the exchanges that a cycle may have and what it leaves of the
session, whatever is answered: `runs_cycle_searching`, `runs_cycle_locating`,
`runs_cycle_extracting`.  An emulator is found by a search among all processes
(`runs_search_iff`), and its memory is locked by a cycle that captures it whole and discovers
where the input is (`runs_lock_iff`, `runs_lock_some`).
-/
namespace PadScout

/-- The console's memory takes as many bytes as its words need. -/
theorem Settings.byteCount_ramWords (s : Settings) : byteCount s.ramWords = 4 * s.ramWords := by
  have hsize := s.ramSize.toNat_lt
  refine byteCount_eq ?_
  rw [ramWords]
  omega

/-- So does a window. -/
theorem Finding.byteCount_windowLength {f : Finding} (h : f.windowLength = 20) :
    byteCount f.windowLength = 4 * f.windowLength :=
  byteCount_eq (by rw [h]; decide)

namespace Session

open Dialogue (Exchange Runs)
open Inquiry (exchange)

variable {H α : Type} {es : List (Exchange (hostInterface H))} {a : Attachment H}
  {ram : LockedRam}

theorem silent_remark (level : Level) (message : Unit → String) :
    (remark level message : Inquiry H Unit).Silent () := Dialogue.silent_say _

/-- A remark before the result is not an exchange. -/
theorem silent_remark_return (level : Level) (message : Unit → String) (b : α) :
    (do remark level message; return b : Inquiry H α).Silent b :=
  fun _ c => ((silent_remark level message).bind c).trans Dialogue.runs_done_iff

/-! ## Parts of a cycle -/

theorem isAlive_of_attachment? {s : Session H} (ha : s.attachment? = some a) :
    s.isAlive = Inquiry.ask (.isAlive a.process) := by
  rw [isAlive, ha]

/-- **Every cycle with an emulator starts with the question whether it is alive.** -/
theorem runs_whileAlive {s : Session H} (ha : s.attachment? = some a) {gone b : α}
    {next : Inquiry H α} : Runs (s.whileAlive gone next) es b ↔
      es = [exchange (.isAlive a.process) false] ∧ b = gone ∨
        ∃ rest, es = exchange (.isAlive a.process) true :: rest ∧ Runs next rest b := by
  rw [whileAlive, isAlive_of_attachment? ha]
  refine Inquiry.runs_ask_bind.trans ?_
  constructor
  · rintro ⟨alive, rest, rfl, h⟩
    cases (alive : Bool) with
    | true => exact Or.inr ⟨rest, rfl, h⟩
    | false =>
      obtain ⟨rfl, rfl⟩ := (silent_remark_return _ _ gone _ _).1 h
      exact Or.inl ⟨rfl, rfl⟩
  · rintro (⟨rfl, rfl⟩ | ⟨rest, rfl, h⟩)
    · exact ⟨false, [], rfl, (silent_remark_return _ _ b _ _).2 ⟨rfl, rfl⟩⟩
    · exact ⟨true, rest, rfl, h⟩

/-- Whether what was read in place of the window is the window. -/
def recognises (f : Finding) {n : Nat} : Except MemoryError (Bytes n) → Bool
  | .ok bytes => f.verify bytes.words.toList
  | .error _ => false

theorem runs_verify {n : Nat} (hn : byteCount ram.finding.windowLength = n) {b : Bool} :
    Runs (verify a ram) es b ↔ ∃ x : Except MemoryError (Bytes n),
      es = [exchange (.read a.process ram.windowAddress n) x] ∧ b = recognises ram.finding x := by
  unfold verify
  refine Inquiry.runs_bind_of_silent (.read a.process ram.windowAddress n)
    (fun _ _ => Inquiry.runs_readWords hn) fun x => ?_
  cases x with
  | error e => exact silent_remark_return _ _ false
  | ok bytes =>
    change Dialogue.Silent (if ram.finding.verify bytes.words.toList = true then _ else _)
      (ram.finding.verify bytes.words.toList)
    cases ram.finding.verify bytes.words.toList with
    | true => exact Dialogue.silent_done true
    | false => exact silent_remark_return _ _ false

/-- The input that was read; zero if nothing was. -/
def inputOf : Except MemoryError (Bytes 4) → UInt32
  | .ok bytes => bytes.word
  | .error _ => 0

theorem runs_readInput {v : UInt32} : Runs (readInput a ram) es v ↔
    ∃ x, es = [exchange (.read a.process ram.inputAddress 4) x] ∧ v = inputOf x := by
  unfold readInput
  refine Inquiry.runs_bind_of_silent (.read a.process ram.inputAddress 4)
    (fun _ _ => Inquiry.runs_readWord) fun x => ?_
  cases x with
  | error e => exact silent_remark_return _ _ 0
  | ok bytes => exact Dialogue.silent_done bytes.word

/-- Discovery that was started at a time says what it did at another. -/
theorem runs_sayDiscovery {report : Report Finding} {next : Duration → Unit → Inquiry H α}
    {result b : α} (h : ∀ start, (next start ()).Silent result) :
    Runs (do let start : Duration ← Inquiry.ask .time; sayDiscovery start report >>= next start)
      es b ↔ ∃ start stop : Duration, es = [exchange .time start, exchange .time stop] ∧
        b = result := by
  refine Inquiry.runs_ask_bind.trans (exists_congr fun start => ?_)
  have hstop : ∀ rest, Runs (sayDiscovery start report >>= next start) rest b ↔
      ∃ stop : Duration, rest = [exchange .time stop] ∧ b = result := by
    intro rest
    change Runs ((Inquiry.ask .time : Inquiry H Duration) >>= fun stop : Duration =>
      Dialogue.say (Discovery.analysisJournal report _) >>= next start) rest b ↔ _
    refine Inquiry.runs_ask_of_silent fun stop es b => ?_
    exact ((Dialogue.silent_say _).bind b).trans (h start es b)
  constructor
  · rintro ⟨rest, rfl, hrest⟩
    obtain ⟨stop, rfl, hb⟩ := (hstop rest).1 hrest
    exact ⟨stop, rfl, hb⟩
  · rintro ⟨stop, rfl, hb⟩
    exact ⟨_, rfl, (hstop _).2 ⟨stop, rfl, hb⟩⟩

/-- **Discovery takes the time twice** and depends on the image alone. -/
theorem runs_discover {base : Address} {m : Image} {found : Option LockedRam} :
    Runs (discover base m : Inquiry H (Option LockedRam)) es found ↔
      ∃ start stop : Duration, es = [exchange .time start, exchange .time stop] ∧
        found = (Discovery.analyze m).outcome.toOption.map (LockedRam.mk base) := by
  unfold discover
  dsimp only
  cases (Discovery.analyze m).outcome with
  | error e => exact runs_sayDiscovery fun _ => silent_remark_return _ _ none
  | ok finding => exact runs_sayDiscovery fun _ => silent_remark_return _ _ (some _)

theorem toOption_map_eq_some_iff {outcome : Except DiscoveryError Finding} {base : Address} :
    outcome.toOption.map (LockedRam.mk base) = some ram ↔
      ram.base = base ∧ outcome = .ok ram.finding := by
  obtain ⟨place, finding⟩ := ram
  cases outcome with
  | error e => simp [Except.toOption]
  | ok f => simp [Except.toOption, eq_comm]

/-- **What an attempt to lock memory can come to**, with the exchanges that lead there.  Only
memory that a strategy has found and that is captured whole is looked through. -/
inductive LockRuns (s : Settings) (a : Attachment H) :
    List (Exchange (hostInterface H)) → Option LockedRam → Prop where
  | unlocated {es : List (Exchange (hostInterface H))} {e : LocateError}
      (located : Runs (a.locate s) es (.error e)) : LockRuns s a es none
  | nowhere {es : List (Exchange (hostInterface H))}
      (located : Runs (a.locate s) es (.ok none)) : LockRuns s a es none
  | uncaptured {es : List (Exchange (hostInterface H))} {base : Address} {e : MemoryError}
      (located : Runs (a.locate s) es (.ok (some base))) :
      LockRuns s a (es ++ [exchange (.read a.process base (4 * s.ramWords)) (.error e)]) none
  | captured {es : List (Exchange (hostInterface H))} {base : Address}
      {bytes : Bytes (4 * s.ramWords)} {start stop : Duration} {found : Option LockedRam}
      (located : Runs (a.locate s) es (.ok (some base)))
      (discovered : found =
        (Discovery.analyze ⟨bytes.words⟩).outcome.toOption.map (LockedRam.mk base)) :
      LockRuns s a (es ++ [exchange (.read a.process base (4 * s.ramWords)) (.ok bytes),
        exchange .time start, exchange .time stop]) found

theorem runs_lock_iff {s : Settings} {found : Option LockedRam} :
    Runs (lock s a) es found ↔ LockRuns s a es found := by
  unfold lock
  rw [Dialogue.runs_bind]
  constructor
  · rintro ⟨located, rest, result, rfl, hlocate, h⟩
    match result, hlocate, h with
    | .error e, hlocate, h =>
      obtain ⟨rfl, rfl⟩ := (silent_remark_return _ _ none _ _).1 h
      rw [List.append_nil]
      exact .unlocated hlocate
    | .ok none, hlocate, h =>
      obtain ⟨rfl, rfl⟩ := Dialogue.runs_done_iff.1 h
      rw [List.append_nil]
      exact .nowhere hlocate
    | .ok (some base), hlocate, h =>
      obtain ⟨captured, discovered, image, rfl, hcapture, h⟩ := Dialogue.runs_bind.1 h
      obtain ⟨x, rfl, rfl⟩ := (Inquiry.runs_capture s.byteCount_ramWords).1 hcapture
      cases x with
      | error e =>
        obtain ⟨rfl, rfl⟩ := (silent_remark_return _ _ none _ _).1 h
        exact .uncaptured hlocate
      | ok bytes =>
        obtain ⟨start, stop, rfl, hfound⟩ := runs_discover.1 h
        exact .captured hlocate hfound
  · rintro (hlocate | hlocate | hlocate | ⟨hlocate, hfound⟩)
    · exact ⟨es, [], _, (List.append_nil _).symm, hlocate,
        (silent_remark_return _ _ none _ _).2 ⟨rfl, rfl⟩⟩
    · exact ⟨es, [], _, (List.append_nil _).symm, hlocate, .done _⟩
    · rename_i e
      exact ⟨_, _, _, rfl, hlocate, Dialogue.runs_bind.2 ⟨_, [], _, rfl,
        (Inquiry.runs_capture s.byteCount_ramWords).2 ⟨.error e, rfl, rfl⟩,
        (silent_remark_return _ _ none _ _).2 ⟨rfl, rfl⟩⟩⟩
    · rename_i bytes start stop
      exact ⟨_, _, _, rfl, hlocate, Dialogue.runs_bind.2 ⟨_, _, _, rfl,
        (Inquiry.runs_capture s.byteCount_ramWords).2 ⟨.ok bytes, rfl, rfl⟩,
        runs_discover.2 ⟨start, stop, rfl, hfound⟩⟩⟩

/-- **Memory is locked** where a strategy has found it, by capturing it whole and finding
the input in what was captured. -/
theorem runs_lock_some {s : Settings} : Runs (lock s a) es (some ram) ↔
    ∃ located bytes, ∃ start stop : Duration, Runs (a.locate s) located (.ok (some ram.base)) ∧
      es = located ++ [exchange (.read a.process ram.base (4 * s.ramWords)) (.ok bytes),
        exchange .time start, exchange .time stop] ∧
      (Discovery.analyze ⟨bytes.words⟩).outcome = .ok ram.finding := by
  rw [runs_lock_iff]
  constructor
  · intro h
    cases h with
    | captured hlocate hfound =>
      obtain ⟨rfl, houtcome⟩ := toOption_map_eq_some_iff.1 hfound.symm
      exact ⟨_, _, _, _, hlocate, rfl, houtcome⟩
  · rintro ⟨located, bytes, start, stop, hlocate, rfl, houtcome⟩
    exact .captured hlocate (toOption_map_eq_some_iff.2 ⟨rfl, houtcome⟩).symm

/-- **A search** fails to list the processes, or ends with the first emulator among them. -/
theorem runs_search_iff {s s' : Session H} : Runs s.search es s' ↔
    (∃ e, es = [exchange .processIds (.error e)] ∧ s' = s) ∨
    ∃ pids rest found, es = exchange .processIds (.ok pids) :: rest ∧
      Runs (Attachment.firstOf s.settings pids) rest found ∧ s' = { s with attachment? := found } := by
  unfold search
  rw [Dialogue.runs_bind]
  constructor
  · rintro ⟨asked, rest, result, rfl, hfind, h⟩
    rcases Attachment.runs_find.1 hfind with ⟨e, rfl, rfl⟩ | ⟨pids, others, found, rfl, hfound, rfl⟩
    · obtain ⟨rfl, rfl⟩ := (silent_remark_return _ _ s _ _).1 h
      exact Or.inl ⟨e, rfl, rfl⟩
    · obtain ⟨rfl, rfl⟩ := Dialogue.runs_done_iff.1 h
      exact Or.inr ⟨pids, others, found, by rw [List.append_nil], hfound, rfl⟩
  · rintro (⟨e, rfl, rfl⟩ | ⟨pids, rest, found, rfl, hfound, rfl⟩)
    · exact ⟨_, [], _, rfl, Attachment.runs_find.2 (Or.inl ⟨e, rfl, rfl⟩),
        (silent_remark_return _ _ _ _ _).2 ⟨rfl, rfl⟩⟩
    · exact ⟨_, [], .ok found, (List.append_nil _).symm,
        Attachment.runs_find.2 (Or.inr ⟨pids, rest, found, rfl, hfound, rfl⟩), .done _⟩

/-! ## Cycles -/

section Cycles
variable {s s' : Session H} {v : UInt32}

theorem phase_of_state {state : State H} (hs : s.state = state) : s.phase = state.phase :=
  hs ▸ (phase_state s).symm

/-- A cycle that does not read the input has none to show for it. -/
theorem runs_withoutInput {next : Inquiry H (Session H)} :
    Runs (do return (0, ← next) : Inquiry H (UInt32 × Session H)) es (v, s') ↔
      v = 0 ∧ Runs next es s' := by
  refine Dialogue.runs_bind.trans ?_
  constructor
  · rintro ⟨before, after, left, rfl, hnext, h⟩
    obtain ⟨rfl, hresult⟩ := Dialogue.runs_done_iff.1 h
    cases hresult
    rw [List.append_nil]
    exact ⟨rfl, hnext⟩
  · rintro ⟨rfl, hnext⟩
    exact ⟨es, [], s', (List.append_nil _).symm, hnext, .done _⟩

theorem runs_cycle_searching (hs : s.state = .searching) :
    Runs s.cycle es (v, s') ↔ v = 0 ∧ Runs s.search es s' := by
  rw [cycle, phase_of_state hs]
  exact runs_withoutInput

theorem locate_of_attachment? (ha : s.attachment? = some a) :
    s.locate = s.whileAlive s.reset do
      match ← lock s.settings a with
      | some ram => return { s with ram? := some ram }
      | none => return s := by
  obtain ⟨settings, attachment, locked⟩ := s
  obtain rfl : attachment = some a := ha
  rfl

/-- What an attempt to lock memory leaves of a session that had none locked. -/
theorem runs_keep_lock (hram : s.ram? = none) : Runs (do
      match ← lock s.settings a with
      | some ram => return { s with ram? := some ram }
      | none => return s : Inquiry H (Session H)) es s' ↔
    ∃ found, Runs (lock s.settings a) es found ∧ s' = { s with ram? := found } := by
  have hnone : s = { s with ram? := none } := by rw [← hram]
  refine Dialogue.runs_bind.trans ?_
  constructor
  · rintro ⟨before, after, found, rfl, hlock, h⟩
    refine ⟨found, ?_⟩
    cases found with
    | some ram =>
      obtain ⟨rfl, rfl⟩ := Dialogue.runs_done_iff.1 h
      rw [List.append_nil]
      exact ⟨hlock, rfl⟩
    | none =>
      obtain ⟨rfl, rfl⟩ := Dialogue.runs_done_iff.1 h
      rw [List.append_nil]
      exact ⟨hlock, hnone⟩
  · rintro ⟨found, hlock, rfl⟩
    refine ⟨es, [], found, (List.append_nil _).symm, hlock, ?_⟩
    cases found with
    | some ram => exact .done _
    | none =>
      rw [← hnone]
      exact .done s

/-- **Locating**: the emulator is gone, or an attempt was made to lock its memory. -/
theorem runs_cycle_locating (hs : s.state = .locating a) : Runs s.cycle es (v, s') ↔ v = 0 ∧
    (es = [exchange (.isAlive a.process) false] ∧ s' = s.reset ∨
      ∃ rest found, es = exchange (.isAlive a.process) true :: rest ∧
        Runs (lock s.settings a) rest found ∧ s' = { s with ram? := found }) := by
  obtain ⟨ha, hram⟩ := state_eq_locating_iff.1 hs
  rw [cycle, phase_of_state hs]
  refine runs_withoutInput.trans (and_congr_right fun _ => ?_)
  rw [locate_of_attachment? ha, runs_whileAlive ha]
  refine or_congr_right (exists_congr fun rest => ?_)
  rw [runs_keep_lock hram]
  exact exists_and_left.symm

theorem extract_of_state (hs : s.state = .extracting a ram) :
    s.extract = s.whileAlive (0, s.reset) do
      if ← verify a ram then return (← readInput a ram, s)
      else return (0, { s with ram? := none }) := by
  obtain ⟨settings, rfl⟩ := exists_ofState_of_extracting hs
  rfl

/-- What follows once an emulator is known to be alive whose memory is locked. -/
theorem runs_verify_readInput {n : Nat} (hn : byteCount ram.finding.windowLength = n) : Runs (do
      if ← verify a ram then return (← readInput a ram, s)
      else return (0, { s with ram? := none }) : Inquiry H (UInt32 × Session H)) es (v, s') ↔
    (∃ window : Except MemoryError (Bytes n),
      es = [exchange (.read a.process ram.windowAddress n) window] ∧
      recognises ram.finding window = false ∧ v = 0 ∧ s' = { s with ram? := none }) ∨
    ∃ (window : Except MemoryError (Bytes n)) (word : Except MemoryError (Bytes 4)),
      es = [exchange (.read a.process ram.windowAddress n) window,
        exchange (.read a.process ram.inputAddress 4) word] ∧
      recognises ram.finding window = true ∧ v = inputOf word ∧ s' = s := by
  rw [Dialogue.runs_bind]
  constructor
  · rintro ⟨verified, rest, known, rfl, hverify, h⟩
    obtain ⟨window, rfl, hknown⟩ := (runs_verify hn).1 hverify
    cases known with
    | false =>
      obtain ⟨rfl, hresult⟩ := Dialogue.runs_done_iff.1 h
      cases hresult
      exact Or.inl ⟨window, rfl, hknown.symm, rfl, rfl⟩
    | true =>
      obtain ⟨read, done, input, rfl, hread, h⟩ := Dialogue.runs_bind.1 h
      obtain ⟨word, rfl, rfl⟩ := runs_readInput.1 hread
      obtain ⟨rfl, hresult⟩ := Dialogue.runs_done_iff.1 h
      cases hresult
      exact Or.inr ⟨window, word, rfl, hknown.symm, rfl, rfl⟩
  · rintro (⟨window, rfl, hknown, rfl, rfl⟩ | ⟨window, word, rfl, hknown, rfl, rfl⟩)
    · exact ⟨_, [], false, rfl, (runs_verify hn).2 ⟨window, rfl, hknown.symm⟩, .done _⟩
    · refine ⟨[_], [_], true, rfl, (runs_verify hn).2 ⟨window, rfl, hknown.symm⟩, ?_⟩
      exact Dialogue.runs_bind.2
        ⟨[_], [], _, rfl, runs_readInput.2 ⟨word, rfl, rfl⟩, .done _⟩

/-- **Extracting**: the emulator is gone, or the window is not recognised, or it is and
the input is read. -/
theorem runs_cycle_extracting (hs : s.state = .extracting a ram) {n : Nat}
    (hn : byteCount ram.finding.windowLength = n) : Runs s.cycle es (v, s') ↔
    (es = [exchange (.isAlive a.process) false] ∧ v = 0 ∧ s' = s.reset) ∨
    (∃ window : Except MemoryError (Bytes n), es = [exchange (.isAlive a.process) true,
        exchange (.read a.process ram.windowAddress n) window] ∧
      recognises ram.finding window = false ∧ v = 0 ∧ s' = { s with ram? := none }) ∨
    ∃ (window : Except MemoryError (Bytes n)) (word : Except MemoryError (Bytes 4)),
      es = [exchange (.isAlive a.process) true,
        exchange (.read a.process ram.windowAddress n) window,
        exchange (.read a.process ram.inputAddress 4) word] ∧
      recognises ram.finding window = true ∧ v = inputOf word ∧ s' = s := by
  rw [cycle, phase_of_state hs]
  dsimp only [State.phase]
  rw [extract_of_state hs, runs_whileAlive (state_eq_extracting_iff.1 hs).1]
  constructor
  · rintro (⟨rfl, hresult⟩ | ⟨rest, rfl, h⟩)
    · cases hresult
      exact Or.inl ⟨rfl, rfl, rfl⟩
    · rcases (runs_verify_readInput hn).1 h with ⟨window, rfl, hrest⟩ | ⟨window, word, rfl, hrest⟩
      · exact Or.inr (Or.inl ⟨window, rfl, hrest⟩)
      · exact Or.inr (Or.inr ⟨window, word, rfl, hrest⟩)
  · rintro (⟨rfl, rfl, rfl⟩ | ⟨window, rfl, hrest⟩ | ⟨window, word, rfl, hrest⟩)
    · exact Or.inl ⟨rfl, rfl⟩
    · exact Or.inr ⟨_, rfl, (runs_verify_readInput hn).2 (Or.inl ⟨window, rfl, hrest⟩)⟩
    · exact Or.inr ⟨_, rfl, (runs_verify_readInput hn).2 (Or.inr ⟨window, word, rfl, hrest⟩)⟩

end Cycles

end Session
end PadScout
