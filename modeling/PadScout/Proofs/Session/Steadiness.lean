import PadScout.Proofs.Discovery.InputOffset
import PadScout.Proofs.Memory.Part
import PadScout.Proofs.Session.Lifecycle

/-! # What a lock is good for

A lock holds on to a window of the image that was captured with it.  From then on a session
goes by whether memory still has these words (`verifies_of_cycle`): a part of memory that is
read at a distance of whole words from the base has the words that stand there in the image
(`Bytes.getElem?_words_slice`).  So in memory that stays as it was the session reads the same
input for ever (`verified_and_steady_of_lock`).
-/
namespace PadScout
namespace Session

open Dialogue (Exchange Runs)
open Inquiry (exchange)

variable {H : Type}

/-! ## Verification -/

/-- The window is read at its place beyond the base. -/
def windowRead (a : Attachment H) (ram : LockedRam)
    (x : Except MemoryError (Bytes (4 * ram.finding.windowLength))) :
    Exchange (hostInterface H) :=
  exchange (.read a.process (ram.base.plus (UInt64.ofNat (4 * ram.finding.windowStart)))
    (4 * ram.finding.windowLength)) x

/-- The input is read at its place beyond the base. -/
def inputRead (a : Attachment H) (ram : LockedRam) (x : Except MemoryError (Bytes 4)) :
    Exchange (hostInterface H) :=
  exchange (.read a.process (ram.base.plus ram.finding.inputOffset.toUInt64) 4) x

/-- **A cycle compares memory with what was captured** and goes by that. -/
structure Verifies (s : Session H) (a : Attachment H) (ram : LockedRam) (captured : Array UInt32)
    (es : List (Exchange (hostInterface H))) (v : UInt32) (s' : Session H) : Prop where
  /-- The window of an emulator that is alive is read. -/
  asked : es = [exchange (.isAlive a.process) false] ∨
    ∃ x rest, es = exchange (.isAlive a.process) true :: windowRead a ram x :: rest
  /-- The session stays just when the words of the window are those that were captured. -/
  stays_iff : ∀ live rest,
    es = exchange (.isAlive a.process) true :: windowRead a ram (.ok live) :: rest →
    (s'.phase = .extracting ↔
      ∀ i < 20, live.words[i]? = captured[ram.finding.windowStart + i]?)
  /-- A session that stays is the same and has read the input. -/
  stays : s'.phase = .extracting → s' = s ∧ ∃ window x,
    es = [exchange (.isAlive a.process) true, windowRead a ram (.ok window), inputRead a ram x] ∧
    v = inputOf x
  /-- A session that does not stay keeps an emulator that is alive, and has no input. -/
  leaves : s'.phase ≠ .extracting → v = 0 ∧ ∀ x rest,
    es = exchange (.isAlive a.process) true :: windowRead a ram x :: rest →
    s'.state = .locating a

section Verification
variable {s s' : Session H} {es : List (Exchange (hostInterface H))} {v : UInt32}
  {a : Attachment H} {ram : LockedRam} {captured : Array UInt32}

/-- The window of a finding consists of the words that stand there in the image. -/
theorem recognises_iff {live : Bytes (4 * ram.finding.windowLength)}
    (hwindow : Discovery.WindowOf ⟨captured⟩ ram.finding) :
    recognises ram.finding (.ok live) = true ↔
      ∀ i < 20, live.words[i]? = captured[ram.finding.windowStart + i]? := by
  have hlive : live.words.toList.length = 20 := by
    rw [Array.length_toList, live.size_words, hwindow.length]
  rw [recognises, Finding.verify_eq_true_iff]
  constructor
  · intro heq i hi
    exact (Array.getElem?_toList.symm.trans (congrArg (·[i]?) heq)).trans (hwindow.words i hi)
  · intro hsame
    apply List.ext_getElem?
    intro i
    by_cases hi : i < 20
    · exact Array.getElem?_toList.trans ((hsame i hi).trans (hwindow.words i hi).symm)
    · have hlength : ram.finding.window.length = 20 := hwindow.length
      rw [List.getElem?_eq_none (by omega), List.getElem?_eq_none (by omega)]

theorem windowRead_inj {x y : Except MemoryError (Bytes (4 * ram.finding.windowLength))}
    (h : windowRead a ram x = windowRead a ram y) : x = y :=
  eq_of_heq (Exchange.mk.inj h).2

/-- **Every cycle with locked memory verifies it.** -/
theorem verifies_of_cycle (hs : s.state = .extracting a ram)
    (hwindow : Discovery.WindowOf ⟨captured⟩ ram.finding)
    (run : Runs s.cycle es (v, s')) : Verifies s a ram captured es v s' := by
  obtain ⟨settings, rfl⟩ := exists_ofState_of_extracting hs
  rcases (runs_cycle_extracting rfl (Finding.byteCount_windowLength hwindow.length)).1 run with
    ⟨rfl, rfl, rfl⟩ | ⟨window, rfl, hknown, rfl, rfl⟩ | ⟨window, word, rfl, hknown, rfl, rfl⟩
  · exact {
      asked := Or.inl rfl
      stays_iff := fun live rest hes => by cases hes
      stays := fun hphase => by cases hphase
      leaves := fun _ => ⟨rfl, fun x rest hes => by cases hes⟩ }
  · refine {
      asked := Or.inr ⟨window, [], rfl⟩
      stays_iff := fun live rest hes => ?_
      stays := fun hphase => by cases hphase
      leaves := fun _ => ⟨rfl, fun _ _ _ => rfl⟩ }
    obtain rfl := windowRead_inj (List.cons.inj (List.cons.inj hes).2).1
    rw [← recognises_iff hwindow, hknown]
    simp [phase, ofState]
  · refine {
      asked := Or.inr ⟨window, _, rfl⟩
      stays_iff := fun live rest hes => ?_
      stays := fun _ => ?_
      leaves := fun hphase => absurd rfl hphase }
    · obtain rfl := windowRead_inj (List.cons.inj (List.cons.inj hes).2).1
      rw [← recognises_iff hwindow, hknown]
      simp [phase, ofState]
    · cases window with
      | error e => cases hknown
      | ok window => exact ⟨rfl, window, word, rfl, rfl⟩

end Verification

/-! ## Steady memory -/

/-- **The emulator is alive and its memory is what was captured**, as far as is asked in a
cycle: a part of it, wherever it begins, has the bytes of that part. -/
structure Steady (a : Attachment H) (base : Address) {n : Nat} (captured : Bytes n)
    (es : List (Exchange (hostInterface H))) : Prop where
  alive : exchange (.isAlive a.process) false ∉ es
  unchanged : ∀ (offset length : Nat) (h : offset + length ≤ n)
    (x : Except MemoryError (Bytes length)),
    exchange (.read a.process (base.plus (UInt64.ofNat offset)) length) x ∈ es →
    x = .ok (captured.slice offset length h)

/-- The cycles that a session goes through from some point on. -/
inductive Course (s : Session H) : List (Turn H) → Session H → Prop where
  | start : Course s [] s
  | cycle {turns : List (Turn H)} {s' s'' : Session H} {es : List (Exchange (hostInterface H))}
      {v : UInt32} (past : Course s turns s') (run : Runs s'.cycle es (v, s'')) :
      Course s (turns ++ [⟨s', es, v, s''⟩]) s''

/-- The input is the word that stands at its place in the image, if it is one. -/
def IsCapturedInput (finding : Finding) (captured : Array UInt32) (v : UInt32) : Prop :=
  4 ∣ finding.inputOffset.toNat → finding.inputOffset.toNat + 4 ≤ 4 * captured.size →
    captured[finding.inputOffset.toNat / 4]? = some v

theorem toUInt64_eq_ofNat (w : UInt32) : w.toUInt64 = UInt64.ofNat w.toNat := by
  have hw := w.toNat_lt
  apply UInt64.toNat_inj.1
  rw [UInt32.toNat_toUInt64, UInt64.toNat_ofNat']
  omega

section Steadiness
variable {s s' : Session H} {es : List (Exchange (hostInterface H))} {v : UInt32}
  {a : Attachment H} {ram : LockedRam} {words : Nat} {captured : Bytes (4 * words)}

theorem fits_of_windowOf (h : Discovery.WindowOf ⟨captured.words⟩ ram.finding) :
    4 * ram.finding.windowStart + 4 * ram.finding.windowLength ≤ 4 * words := by
  have hsize : (⟨captured.words⟩ : Image).size = words := captured.size_words
  have hinside := h.inside
  have hlength := h.length
  omega

/-- **Steady memory is verified**, and the input is the word that was captured. -/
theorem stays_of_steady (hs : s.state = .extracting a ram)
    (hwindow : Discovery.WindowOf ⟨captured.words⟩ ram.finding)
    (run : Runs s.cycle es (v, s')) (hsteady : Steady a ram.base captured es) :
    s' = s ∧ IsCapturedInput ram.finding captured.words v := by
  have hverifies := verifies_of_cycle hs hwindow run
  have hfits := fits_of_windowOf hwindow
  -- the window is a part of memory that begins at a word, so its words are the captured ones
  have hphase : s'.phase = .extracting := by
    rcases hverifies.asked with rfl | ⟨x, rest, hes⟩
    · exact absurd List.mem_cons_self hsteady.alive
    · obtain rfl := hsteady.unchanged _ _ hfits x (by rw [hes]; simp [windowRead])
      refine (hverifies.stays_iff _ _ hes).2 fun i hi => ?_
      exact captured.getElem?_words_slice hfits (hwindow.length.symm ▸ hi)
  obtain ⟨rfl, window, x, rfl, rfl⟩ := hverifies.stays hphase
  refine ⟨rfl, fun haligned hin => ?_⟩
  rw [captured.size_words] at hin
  obtain rfl := hsteady.unchanged _ _ hin x (by rw [← toUInt64_eq_ofNat]; simp [inputRead])
  exact captured.getElem?_words_of_dvd haligned hin

/-- A session that keeps reading the input stays the same. -/
theorem eq_of_stays (hs : s.state = .extracting a ram)
    (hwindow : Discovery.WindowOf ⟨captured.words⟩ ram.finding)
    {turns : List (Turn H)} (h : Course s turns s')
    (hstays : ∀ t ∈ turns, t.after.phase = .extracting) : s' = s := by
  induction h with
  | start => rfl
  | cycle past run ih =>
    obtain rfl := ih fun t ht => hstays t (List.mem_append_left _ ht)
    exact ((verifies_of_cycle hs hwindow run).stays
      (hstays _ (List.mem_append_right _ (List.mem_singleton.2 rfl)))).1

/-- **In steady memory nothing changes**, however many cycles there are. -/
theorem eq_of_course (hs : s.state = .extracting a ram)
    (hwindow : Discovery.WindowOf ⟨captured.words⟩ ram.finding)
    {turns : List (Turn H)} (h : Course s turns s')
    (hsteady : ∀ t ∈ turns, Steady a ram.base captured t.exchanges) :
    s' = s ∧ ∀ t ∈ turns, t.before = s ∧ t.after = s ∧
      IsCapturedInput ram.finding captured.words t.input := by
  induction h with
  | start => exact ⟨rfl, by simp⟩
  | @cycle turns s' s'' es v past run ih =>
    obtain ⟨rfl, hturns⟩ := ih fun t ht => hsteady t (List.mem_append_left _ ht)
    obtain ⟨rfl, hinput⟩ := stays_of_steady hs hwindow run
      (hsteady _ (List.mem_append_right _ (List.mem_singleton.2 rfl)))
    refine ⟨rfl, fun t ht => ?_⟩
    rcases List.mem_append.1 ht with ht | ht
    · exact hturns t ht
    · rw [List.mem_singleton.1 ht]
      exact ⟨rfl, rfl, hinput⟩

/-- Different parts of memory are read at different addresses. -/
theorem read_inj {process : H} {base : Address} {offset offset' length length' : Nat}
    (ho : offset < 2 ^ 64) (ho' : offset' < 2 ^ 64) {x : Except MemoryError (Bytes length)}
    {x' : Except MemoryError (Bytes length')}
    (h : exchange (.read process (base.plus (UInt64.ofNat offset)) length) x =
      exchange (.read process (base.plus (UInt64.ofNat offset')) length') x') :
    offset = offset' ∧ length = length' ∧ HEq x x' := by
  obtain ⟨hquestion, hanswer⟩ := Exchange.mk.inj h
  obtain ⟨-, haddress, rfl⟩ := Question.read.inj hquestion
  have hvalue := congrArg UInt64.toNat (UInt64.add_right_inj _ |>.1 (Address.mk.inj haddress))
  rw [UInt64.toNat_ofNat', UInt64.toNat_ofNat', Nat.mod_eq_of_lt ho, Nat.mod_eq_of_lt ho'] at hvalue
  exact ⟨hvalue, rfl, hanswer⟩

/-- What steady memory answers when the input is read; the input may lie anywhere. -/
def steadyInput (finding : Finding) {n : Nat} (captured : Bytes n) : Except MemoryError (Bytes 4) :=
  if h : finding.inputOffset.toNat + 4 ≤ n then .ok (captured.slice finding.inputOffset.toNat 4 h)
  else .error (.readFailed 0 4)

/-- **Memory can be steady** for a cycle. -/
theorem exists_steady (hs : s.state = .extracting a ram)
    (hwindow : Discovery.WindowOf ⟨captured.words⟩ ram.finding) (hsize : 4 * words < 2 ^ 64) :
    ∃ es v, Runs s.cycle es (v, s) ∧ Steady a ram.base captured es := by
  obtain ⟨settings, rfl⟩ := exists_ofState_of_extracting hs
  have hfits := fits_of_windowOf hwindow
  let window := captured.slice _ _ hfits
  have hknown : recognises ram.finding (.ok window) = true :=
    (recognises_iff hwindow).2 fun i hi =>
      captured.getElem?_words_slice hfits (hwindow.length.symm ▸ hi)
  have hcount := Finding.byteCount_windowLength hwindow.length
  refine ⟨_, _, (runs_cycle_extracting rfl hcount).2 (Or.inr (Or.inr
    ⟨.ok window, steadyInput ram.finding captured, rfl, hknown, rfl, rfl⟩)), ?_, ?_⟩
  · intro hdead
    simp only [List.mem_cons, List.not_mem_nil, or_false] at hdead
    rcases hdead with hdead | hdead | hdead
    · cases hdead
    · exact isAlive_ne_read hdead
    · exact isAlive_ne_read hdead
  -- the two parts that are read differ in length, and none is read at a second offset
  · intro offset length h x hx
    simp only [List.mem_cons, List.not_mem_nil, or_false] at hx
    rcases hx with hx | hx | hx
    · exact absurd hx.symm isAlive_ne_read
    · rw [LockedRam.windowAddress, Finding.windowOffset] at hx
      obtain ⟨rfl, rfl, hx⟩ := read_inj (by omega) (by omega) hx
      exact eq_of_heq hx
    · have hoffset := ram.finding.inputOffset.toNat_lt
      rw [LockedRam.inputAddress, toUInt64_eq_ofNat] at hx
      obtain ⟨rfl, rfl, hx⟩ := read_inj (by omega) (by omega) hx
      rw [eq_of_heq hx, steadyInput, dif_pos h]

/-- Memory can be steady for any number of cycles. -/
theorem exists_course (hs : s.state = .extracting a ram)
    (hwindow : Discovery.WindowOf ⟨captured.words⟩ ram.finding) (hsize : 4 * words < 2 ^ 64)
    (n : Nat) :
    ∃ turns, turns.length = n ∧ Course s turns s ∧
      ∀ t ∈ turns, Steady a ram.base captured t.exchanges := by
  induction n with
  | zero => exact ⟨[], rfl, .start, by simp⟩
  | succ n ih =>
    obtain ⟨turns, hturns, hcourse, hsteady⟩ := ih
    obtain ⟨es, v, run, hes⟩ := exists_steady hs hwindow hsize
    refine ⟨turns ++ [⟨s, es, v, s⟩], by simp [hturns], hcourse.cycle run, fun t ht => ?_⟩
    rcases List.mem_append.1 ht with ht | ht
    · exact hsteady t ht
    · rw [List.mem_singleton.1 ht]
      exact hes

end Steadiness

/-- **What a lock is good for.**  A cycle that locks memory has captured an image in which the
finding was made.  From then on the session is the same as long as it reads the input, and
every cycle verifies the window that was captured.  While the emulator is alive and its memory
is what was captured, the session goes on reading for as many cycles as there may be, and each
has the captured word as its input if the input lies at a word of the image. -/
theorem verified_and_steady_of_lock {s₀ s : Session H} {es₀ : List (Exchange (hostInterface H))}
    {v₀ : UInt32} {a : Attachment H} {ram : LockedRam} (run : Runs s₀.cycle es₀ (v₀, s))
    (hbefore : s₀.phase = .locating) (hafter : s.state = .extracting a ram) :
    ∃ captured : Bytes (4 * s.settings.ramWords),
      exchange (.read a.process ram.base (4 * s.settings.ramWords)) (.ok captured) ∈ es₀ ∧
      (Discovery.analyze ⟨captured.words⟩).outcome = .ok ram.finding ∧
      ram.finding.windowLength = 20 ∧ ram.finding.windowStart + 20 ≤ captured.words.size ∧
      (∀ turns s', Course s turns s' → (∀ t ∈ turns, t.after.phase = .extracting) → s' = s) ∧
      (∀ es v s', Runs s.cycle es (v, s') → Verifies s a ram captured.words es v s') ∧
      (∀ turns s', Course s turns s' →
        (∀ t ∈ turns, Steady a ram.base captured t.exchanges) →
        s' = s ∧ ∀ t ∈ turns, t.before = s ∧ t.after = s ∧
          IsCapturedInput ram.finding captured.words t.input) ∧
      ∀ n, ∃ turns, turns.length = n ∧ Course s turns s ∧
        ∀ t ∈ turns, Steady a ram.base captured t.exchanges := by
  have hattached : s₀.attachment?.isSome := by
    rw [Option.isSome_iff_ne_none, ne_eq, attachment?_eq_none_iff, hbefore]
    decide
  have hlocks : Turn.Locks ⟨s₀, es₀, v₀, s⟩ a ram := by
    refine (keeps_or_locks_of_cycle (fun _ => hattached) run hafter).resolve_left fun hkeeps => ?_
    have hphase := phase_of_state hkeeps.1
    rw [hbefore] at hphase
    cases hphase
  obtain ⟨captured, hread, houtcome⟩ := (settings_of_cycle run).symm ▸ hlocks.2.2
  have hwindow := Discovery.windowOf_of_analyze houtcome
  have hsize : 4 * s.settings.ramWords < 2 ^ 64 := by
    have hram := s.settings.ramSize.toNat_lt
    rw [Settings.ramWords]
    omega
  refine ⟨captured, hread, houtcome, hwindow.length, hwindow.inside, ?_, ?_, ?_, ?_⟩
  · exact fun turns s' hcourse => eq_of_stays hafter hwindow hcourse
  · exact fun es v s' run' => verifies_of_cycle hafter hwindow run'
  · exact fun turns s' hcourse => eq_of_course hafter hwindow hcourse
  · exact exists_course hafter hwindow hsize

/-! ## A small session -/

namespace Sample

/-- The session that has locked the low memory. -/
def lowSession : Session Unit :=
  ofState settings (.extracting attachment ⟨ram.base, Discovery.Sample.lowFinding⟩)

/-- The low memory as it is read. -/
def lowCaptured : Bytes (4 * settings.ramWords) :=
  ⟨Discovery.Sample.low.toBytes, by
    rw [size_toBytes, show Discovery.Sample.low.size = settings.ramWords by decide +kernel]⟩

theorem runs_lock_low :
    ∃ es, Runs (cycle (ofState settings (.locating attachment))) es (0, lowSession) := by
  have houtcome : (Discovery.analyze ⟨lowCaptured.words⟩).outcome =
      .ok Discovery.Sample.lowFinding := by
    rw [Bytes.words, lowCaptured, Image.mk_wordsOfBytes_toBytes]
    exact Discovery.outcome_analyze_low
  obtain ⟨located, hlocate⟩ := runs_locate
  have hlock : Runs (lock settings attachment) _ (some ⟨ram.base, Discovery.Sample.lowFinding⟩) :=
    runs_lock_some.2 ⟨located, lowCaptured, ⟨0⟩, ⟨0⟩, hlocate, rfl, houtcome⟩
  exact ⟨_, (runs_cycle_locating rfl).2 ⟨rfl, Or.inr ⟨_, some _, rfl, hlock, rfl⟩⟩⟩

end Sample

/-- The session that has locked the low memory can read its fifth word a thousand times. -/
theorem steady_in_sample : ∃ captured : Bytes (4 * Sample.settings.ramWords),
    (Discovery.analyze ⟨captured.words⟩).outcome = .ok Discovery.Sample.lowFinding ∧
    ∃ turns, turns.length = 1000 ∧ Course Sample.lowSession turns Sample.lowSession ∧
      ∀ t ∈ turns, captured.words[4]? = some t.input := by
  obtain ⟨es, run⟩ := Sample.runs_lock_low
  obtain ⟨captured, -, houtcome, -, -, -, -, hsteady, hcourses⟩ :=
    verified_and_steady_of_lock run rfl rfl
  obtain ⟨turns, hlength, hcourse, hturns⟩ := hcourses 1000
  have hsize : captured.words.size = 132 := captured.size_words
  refine ⟨captured, houtcome, turns, hlength, hcourse, fun t ht => ?_⟩
  exact ((hsteady turns _ hcourse hturns).2 t ht).2.2 (by decide) (by rw [hsize]; decide)

end Session
end PadScout
