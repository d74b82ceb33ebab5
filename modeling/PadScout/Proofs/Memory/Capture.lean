import PadScout.Proofs.Host.ProcessTable
import PadScout.Proofs.Memory.Stored

/-! # Images from files and from memory

An image is got from the bytes of a file, from memory at one go, or from memory word by word.
All three put words together in the same way: what they come to is the image that is stored in
the bytes (`Image.ofBytes_eq_ok_iff`, `Inquiry.runs_capture_iff_readAs`,
`Inquiry.runs_readWord_iff_readAs`).  So an image that is captured from memory whose reads are
consistent has the words that are read one by one (`Inquiry.readWordByWord_of_capture`).  The
number of bytes to capture is multiplied out by the machine, so this is about as many words as
a machine can hold.
-/
namespace PadScout

/-- The only word that four bytes make. -/
theorem Bytes.words_eq_singleton (b : Bytes 4) : b.words = #[b.word] := by
  have hsize : b.words.size = 1 := by
    rw [words, wordsOfBytes, Array.size_ofFn, b.property]
  refine Array.ext hsize fun i hi hi' => ?_
  obtain rfl : i = 0 := by omega
  have hfull : 0 < b.val.size / 4 := by
    have := b.property
    omega
  have hword : b.words[0]? = some b.word := by
    rw [words, wordsOfBytes, Array.getElem?_ofFn, dif_pos hfull]
    rfl
  rw [Array.getElem?_eq_getElem hi] at hword
  exact Option.some.inj hword

/-- The words of as many bytes as words need are stored in them. -/
theorem Bytes.storedIn_iff {count : Nat} {b : Bytes (4 * count)} {m : Image} :
    m.StoredIn b.val ↔ m = ⟨b.words⟩ := by
  have hdvd : 4 ∣ b.val.size := ⟨count, b.property⟩
  rw [← Image.ofBytes_eq_ok_iff, Image.ofBytes, if_pos (Nat.mod_eq_zero_of_dvd hdvd),
    Except.ok.injEq, eq_comm]
  rfl

namespace Inquiry

open Dialogue (Exchange Runs)

variable {H : Type} {es : List (Exchange (hostInterface H))} {process : H}

/-- **What an answer of memory is read as**: the image that is stored in its bytes.  An error
remains what it is. -/
inductive ReadAs {n : Nat} : Except MemoryError (Bytes n) → Except MemoryError Image → Prop where
  | stored (bytes : Bytes n) (m : Image) (h : m.StoredIn bytes.val) : ReadAs (.ok bytes) (.ok m)
  | failed (e : MemoryError) : ReadAs (.error e) (.error e)

theorem readAs_iff {count : Nat} {x : Except MemoryError (Bytes (4 * count))}
    {result : Except MemoryError Image} :
    ReadAs x result ↔ result = x.map fun bytes => ⟨bytes.words⟩ := by
  constructor
  · rintro (⟨bytes, m, hstored⟩ | e)
    · exact congrArg Except.ok (Bytes.storedIn_iff.1 hstored)
    · rfl
  · rintro rfl
    cases x with
    | error e => exact .failed e
    | ok bytes => exact .stored bytes _ (Bytes.storedIn_iff.2 rfl)

/-- **A capture is one read**, of four bytes for a word as long as that many can be counted. -/
theorem runs_capture_iff_readAs {base : Address} {words : Nat} (h : 4 * words < 2 ^ 63)
    {result : Except MemoryError Image} : Runs (capture process base words) es result ↔
      ∃ x : Except MemoryError (Bytes (4 * words)),
        es = [exchange (.read process base (4 * words)) x] ∧ ReadAs x result := by
  simp only [runs_capture (byteCount_eq h), readAs_iff]

/-- **A word is read as an image of one word.** -/
theorem runs_readWord_iff_readAs {address : Address} {result : Except MemoryError UInt32} :
    Runs (readWord process address) es result ↔ ∃ x : Except MemoryError (Bytes 4),
      es = [exchange (.read process address 4) x] ∧ ReadAs x (result.map fun w => ⟨#[w]⟩) := by
  have hword : ∀ x : Except MemoryError (Bytes 4),
      result = x.map Bytes.word ↔ ReadAs x (result.map fun w => (⟨#[w]⟩ : Image)) := by
    intro x
    rw [@readAs_iff 1]
    cases x with
    | error e => cases result <;> simp [Except.map]
    | ok bytes => cases result <;> simp [Except.map, Bytes.words_eq_singleton]
  simp only [runs_readWord, hword]

/-- **An image holds the words of memory from an address on**, as they are read one by one: as
many as there should be, and each of them can be read. -/
structure ReadWordByWord (answers : Exchange (hostInterface H) → Prop) (process : H)
    (base : Address) (count : Nat) (m : Image) : Prop where
  word : ∀ i < count, ∀ es result,
    Runs (readWord process (base.plus (UInt64.ofNat (4 * i)))) es result →
    (∀ e ∈ es, answers e) → ∃ w, result = .ok w ∧ m.get? i = some w
  absent : ∀ i, count ≤ i → m.get? i = none

/-- **A captured image has the words that are read one by one.** -/
theorem readWordByWord_of_capture {answers : Exchange (hostInterface H) → Prop}
    (hconsistent : Consistent answers) {base : Address} {count : Nat} {m : Image}
    (h : 4 * count < 2 ^ 63) (run : Runs (capture process base count) es (.ok m))
    (hes : ∀ e ∈ es, answers e) : ReadWordByWord answers process base count m := by
  obtain ⟨x, rfl, hresult⟩ := (runs_capture (byteCount_eq h)).1 run
  cases x with
  | error e => cases hresult
  | ok bytes =>
    obtain rfl := Except.ok.inj hresult
    have hcaptured := hes _ List.mem_cons_self
    refine ⟨fun i hi es' result run' hes' => ?_, fun i hi => ?_⟩
    · obtain ⟨x, rfl, rfl⟩ := runs_readWord.1 run'
      have hpart : 4 * i + 4 ≤ 4 * count := by omega
      obtain rfl := hconsistent process base _ bytes _ _ hpart x hcaptured
        (hes' _ List.mem_cons_self)
      exact ⟨_, rfl, bytes.getElem?_words hpart⟩
    · exact Array.getElem?_eq_none (bytes.size_words.trans_le hi)

/-- **An image is the same wherever it comes from.**  Strings of whole words and images go
together one to one, each word in four bytes with the least significant one first; other bytes
are refused.  Memory is read in the same way, at one go or word by word, so that a captured
image has just the words that are read one by one, as long as reads agree with one another. -/
theorem stored_and_captured :
    (∀ bytes e, Image.ofBytes bytes = .error e ↔
      ¬ 4 ∣ bytes.size ∧ e = .imageSize bytes.size) ∧
    (∀ bytes (m : Image), Image.ofBytes bytes = .ok m ↔ m.toBytes = bytes) ∧
    Set.BijOn Image.toBytes Set.univ {bytes | 4 ∣ bytes.size} ∧
    (∀ (m : Image) bytes, m.toBytes = bytes ↔ m.StoredIn bytes) ∧
    (∀ (process : H) base count es result, 4 * count < 2 ^ 63 →
      (Runs (capture process base count) es result ↔
        ∃ x : Except MemoryError (Bytes (4 * count)),
          es = [exchange (.read process base (4 * count)) x] ∧ ReadAs x result)) ∧
    (∀ (process : H) address es result, Runs (readWord process address) es result ↔
      ∃ x : Except MemoryError (Bytes 4), es = [exchange (.read process address 4) x] ∧
        ReadAs x (result.map fun w => ⟨#[w]⟩)) ∧
    ∀ answers, Consistent answers → ∀ (process : H) base count es m, 4 * count < 2 ^ 63 →
      Runs (capture process base count) es (.ok m) → (∀ e ∈ es, answers e) →
      ReadWordByWord answers process base count m := by
  refine ⟨fun _ _ => Image.ofBytes_eq_error_iff, fun _ _ => ?_, Image.bijOn_toBytes,
    fun _ _ => Image.toBytes_eq_iff, fun _ _ _ _ _ h => runs_capture_iff_readAs h,
    fun _ _ _ _ => runs_readWord_iff_readAs, ?_⟩
  · exact Image.ofBytes_eq_ok_iff.trans Image.toBytes_eq_iff.symm
  · exact fun _ hconsistent _ _ _ _ _ h run hes => readWordByWord_of_capture hconsistent h run hes

/-! ## A small memory -/

namespace Sample

/-- A process with two words of memory and a block of other memory right behind them. -/
def table : ProcessTable :=
  let readable := Protection.ofBits 1
  { processes := [{ pid := 7, blocks :=
    [⟨{ base := ⟨0x1000⟩, size := 8, protection := readable },
        ⟨#[0x00, 0x80, 0x1A, 0x3C, 1, 0, 0, 0]⟩⟩,
      ⟨{ base := ⟨0x1008⟩, size := 4, protection := readable }, ⟨#[9, 9, 9, 9]⟩⟩] }] }

/-- What the table answers. -/
def Answers (e : Exchange (hostInterface Pid)) : Prop := e.answer = table.answer e.question

theorem consistent_answers : Consistent Answers := by
  refine ProcessTable.consistent_answer fun p hp => ?_
  obtain rfl := List.mem_singleton.1 hp
  exact ⟨by decide, by decide⟩

end Sample

/-- The two words are captured, and the second is what is read in its place. -/
theorem captured_in_sample : ∃ es es' m,
    Runs (capture (7 : Pid) ⟨0x1000⟩ 2) es (.ok m) ∧ (∀ e ∈ es, Sample.Answers e) ∧
      m = ⟨#[0x3C1A8000, 1]⟩ ∧ Runs (readWord (7 : Pid) ⟨0x1004⟩) es' (.ok 1) := by
  have hcapture := Dialogue.runs_execute (I := hostInterface Pid) Sample.table.answer
    (capture 7 ⟨0x1000⟩ 2)
  have hresult : (Dialogue.execute (I := hostInterface Pid) Sample.table.answer
      (capture 7 ⟨0x1000⟩ 2)).2 = .ok ⟨#[0x3C1A8000, 1]⟩ := by decide
  rw [hresult] at hcapture
  have hread := Dialogue.runs_execute (I := hostInterface Pid) Sample.table.answer
    (readWord 7 ⟨0x1004⟩)
  obtain ⟨-, -, -, -, -, -, hcaptured⟩ := stored_and_captured (H := Pid)
  have hwords := hcaptured Sample.Answers Sample.consistent_answers 7 ⟨0x1000⟩ 2 _ _ (by decide)
    hcapture fun e he => Dialogue.answer_of_mem_execute he
  obtain ⟨w, hw, hsecond⟩ := hwords.word 1 (by decide) _ _ hread
    fun e he => Dialogue.answer_of_mem_execute he
  obtain rfl : 1 = w := Option.some.inj hsecond
  rw [hw] at hread
  exact ⟨_, _, _, hcapture, fun e he => Dialogue.answer_of_mem_execute he, rfl, hread⟩

end Inquiry
end PadScout
