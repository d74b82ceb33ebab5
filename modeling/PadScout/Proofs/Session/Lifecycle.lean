import PadScout.Proofs.Session.History

/-! # The life of a session

A cycle goes from phase to phase in an orderly way (`Orderly`): it gives up an emulator just
when it is told that it is no longer alive, keeps everything when it fails halfway, and never
exchanges one emulator for another.  It does so because what the session knows is of one piece
(`WellFormed`): with locked memory left over from another emulator, a search would end in the
last phase.  Both hold all along (`wellFormed_and_orderly_of_history`).
-/
namespace PadScout

/-- The phases that may follow a phase. -/
def Phase.successors : Phase → List Phase
  | .searching => [.searching, .locating]
  | .locating => [.locating, .extracting, .searching]
  | .extracting => [.extracting, .locating, .searching]

namespace Session

open Dialogue (Exchange Runs)
open Inquiry (exchange)

variable {H : Type}

/-- **An attempt to lock memory that fails**, with the exchanges it had: the strategy fails,
or finds no base, or memory cannot be captured there, or nothing is discovered in it. -/
inductive LockFails (settings : Settings) (a : Attachment H) :
    List (Exchange (hostInterface H)) → Prop where
  | unlocated {es : List (Exchange (hostInterface H))} {e : LocateError}
      (located : Runs (a.locate settings) es (.error e)) : LockFails settings a es
  | nowhere {es : List (Exchange (hostInterface H))}
      (located : Runs (a.locate settings) es (.ok none)) : LockFails settings a es
  | uncaptured {es : List (Exchange (hostInterface H))} {base : Address} {e : MemoryError}
      (located : Runs (a.locate settings) es (.ok (some base))) :
      LockFails settings a
        (es ++ [exchange (.read a.process base (4 * settings.ramWords)) (.error e)])
  | undiscovered {es : List (Exchange (hostInterface H))} {base : Address}
      {bytes : Bytes (4 * settings.ramWords)} {e : DiscoveryError} {start stop : Duration}
      (located : Runs (a.locate settings) es (.ok (some base)))
      (analyzed : (Discovery.analyze ⟨bytes.words⟩).outcome = .error e) :
      LockFails settings a
        (es ++ [exchange (.read a.process base (4 * settings.ramWords)) (.ok bytes),
          exchange .time start, exchange .time stop])

/-- **What a cycle may do to a session.** -/
structure Orderly (s : Session H) (es : List (Exchange (hostInterface H))) (s' : Session H) :
    Prop where
  successor : s'.phase ∈ s.phase.successors
  /-- An emulator is given up just when it is said not to be alive, with its memory. -/
  givenUp : ∀ a, s.attachment? = some a →
    (s'.phase = .searching ↔ exchange (.isAlive a.process) false ∈ es) ∧
    (s'.phase = .searching → s'.attachment? = none ∧ s'.ram? = none)
  /-- While there is an emulator, a cycle first asks whether it is alive. -/
  askedLife : ∀ a, s.attachment? = some a → ∃ alive rest,
    es = exchange (.isAlive a.process) alive :: rest
  /-- A search asks first which processes there are, and ends as it began if that fails. -/
  unlisted : s.phase = .searching → ∃ listed rest, es = exchange .processIds listed :: rest ∧
    ∀ e, listed = .error e → s' = s
  /-- Nothing changes just when memory is not locked. -/
  unlocked : ∀ a rest, s.state = .locating a → es = exchange (.isAlive a.process) true :: rest →
    (s' = s ↔ LockFails s.settings a rest)
  /-- No emulator is exchanged for another. -/
  attachment : s.phase ≠ .searching → s'.phase ≠ .searching → s'.attachment? = s.attachment?
  settings : s'.settings = s.settings

/-! ## Failing to lock -/

section Lock
variable {settings : Settings} {a : Attachment H} {es : List (Exchange (hostInterface H))}

theorem runs_lock_none_iff : Runs (lock settings a) es none ↔ LockFails settings a es := by
  rw [runs_lock_iff]
  constructor
  · rintro (hlocate | hlocate | hlocate | ⟨hlocate, hfound⟩)
    · exact .unlocated hlocate
    · exact .nowhere hlocate
    · exact .uncaptured hlocate
    · rename_i bytes _ _
      cases houtcome : (Discovery.analyze ⟨bytes.words⟩).outcome with
      | error e => exact .undiscovered hlocate houtcome
      | ok finding =>
        rw [houtcome] at hfound
        cases hfound
  · rintro (hlocate | hlocate | hlocate | ⟨hlocate, houtcome⟩)
    · exact .unlocated hlocate
    · exact .nowhere hlocate
    · exact .uncaptured hlocate
    · exact .captured hlocate (by rw [houtcome]; rfl)

/-- To lock memory is not to ask whether the emulator is alive. -/
theorem leavesLife_lock (settings : Settings) (a : Attachment H) :
    (lock settings a).LeavesLife := by
  unfold lock
  refine (a.leavesLife_locate settings).bind fun found => ?_
  match found with
  | .error e => exact (Dialogue.asks_done _).remark _
  | .ok none => exact Dialogue.asks_done _
  | .ok (some base) =>
    have hcapture : (Inquiry.capture a.process base settings.ramWords).LeavesLife := by
      intro es image h e he
      obtain ⟨x, rfl, -⟩ := (Inquiry.runs_capture settings.byteCount_ramWords).1 h
      rw [List.mem_singleton.1 he]
      trivial
    refine hcapture.bind fun image => ?_
    cases image with
    | error e => exact (Dialogue.asks_done _).remark _
    | ok image =>
      intro es found h e he
      obtain ⟨start, stop, rfl, -⟩ := runs_discover.1 h
      simp only [List.mem_cons, List.not_mem_nil, or_false] at he
      rcases he with rfl | rfl <;> trivial

theorem not_isAlive_mem_of_lock {found : Option LockedRam} {process : H} {alive : Bool}
    (h : Runs (lock settings a) es found) : exchange (.isAlive process) alive ∉ es :=
  fun hmem => leavesLife_lock settings a es found h _ hmem

/-- An attempt to lock memory either locks it or fails. -/
theorem eq_none_iff_lockFails {found : Option LockedRam} (h : Runs (lock settings a) es found) :
    found = none ↔ LockFails settings a es := by
  rw [← runs_lock_none_iff]
  constructor
  · rintro rfl
    exact h
  · exact Dialogue.runs_unique h

end Lock

/-! ## One cycle -/

theorem isAlive_ne_read {process owner : H} {alive : Bool} {place : Address} {n : Nat}
    {x : (Question.read owner place n).Answer} :
    exchange (.isAlive process) alive ≠ exchange (.read owner place n) x := by
  intro h
  cases h

section Step
variable {settings : Settings} {s s' : Session H} {es : List (Exchange (hostInterface H))}
  {v : UInt32} {a : Attachment H}

theorem orderly_of_searching (h : Runs (search (ofState settings .searching)) es s') :
    Orderly (ofState settings .searching) es s' := by
  rcases runs_search_iff.1 h with ⟨e, rfl, rfl⟩ | ⟨pids, rest, found, rfl, -, rfl⟩
  · exact {
      successor := by simp [phase, Phase.successors, ofState]
      givenUp := fun a ha => by cases ha
      askedLife := fun a ha => by cases ha
      unlisted := fun _ => ⟨.error e, [], rfl, fun _ _ => rfl⟩
      unlocked := fun a others hs => by cases hs
      attachment := fun hphase => absurd rfl hphase
      settings := rfl }
  · exact {
      successor := by cases found <;> simp [phase, Phase.successors, ofState]
      givenUp := fun a ha => by cases ha
      askedLife := fun a ha => by cases ha
      unlisted := fun _ => ⟨.ok pids, rest, rfl, fun e he => by cases he⟩
      unlocked := fun a others hs => by cases hs
      attachment := fun hphase => absurd rfl hphase
      settings := rfl }

/-- An emulator is no longer alive. -/
theorem orderly_of_gone (ha : s.attachment? = some a)
    (hes : es = [exchange (.isAlive a.process) false]) : Orderly s es s.reset where
  successor := by
    rw [phase_reset]
    cases s.phase <;> decide
  givenUp b hb := by
    obtain rfl : a = b := Option.some.inj (ha.symm.trans hb)
    simp [hes]
  askedLife b hb := by
    obtain rfl : a = b := Option.some.inj (ha.symm.trans hb)
    exact ⟨false, [], hes⟩
  unlisted hphase := by
    rw [(s.attachment?_eq_none_iff).2 hphase] at ha
    cases ha
  unlocked b rest hstate hes' := by
    obtain rfl : b = a := Option.some.inj ((state_eq_locating_iff.1 hstate).1.symm.trans ha)
    rw [hes] at hes'
    cases hes'
  attachment _ h := absurd rfl h
  settings := rfl

/-- An emulator is alive, and the cycle goes on without asking again. -/
theorem orderly_of_alive {found : Option LockedRam} {rest : List (Exchange (hostInterface H))}
    (ha : s.attachment? = some a) (hes : es = exchange (.isAlive a.process) true :: rest)
    (hrest : exchange (.isAlive a.process) false ∉ rest)
    (hlock : s.ram? = none → (found = none ↔ LockFails s.settings a rest)) :
    Orderly s es { s with ram? := found } where
  successor := by
    obtain ⟨settings, attachment, locked⟩ := s
    obtain rfl : attachment = some a := ha
    cases locked <;> cases found <;> simp [phase, Phase.successors]
  givenUp b hb := by
    obtain rfl : a = b := Option.some.inj (ha.symm.trans hb)
    have hphase : phase { s with ram? := found } ≠ .searching := by
      rw [ne_eq, ← attachment?_eq_none_iff]
      simp [ha]
    have hmem : exchange (.isAlive a.process) false ∉ es := by
      rw [hes, List.mem_cons, not_or]
      exact ⟨(by intro heq; cases heq), hrest⟩
    exact ⟨⟨fun h => absurd h hphase, fun h => absurd h hmem⟩, fun h => absurd h hphase⟩
  askedLife b hb := by
    obtain rfl : a = b := Option.some.inj (ha.symm.trans hb)
    exact ⟨true, rest, hes⟩
  unlisted hphase := by
    rw [(s.attachment?_eq_none_iff).2 hphase] at ha
    cases ha
  unlocked b others hstate hes' := by
    obtain ⟨hb, hram⟩ := state_eq_locating_iff.1 hstate
    obtain rfl : b = a := Option.some.inj (hb.symm.trans ha)
    obtain rfl : rest = others := (List.cons.inj (hes.symm.trans hes')).2
    rw [← hlock hram, ← hram]
    constructor
    · intro hsame
      exact congrArg ram? hsame
    · rintro rfl
      rfl
  attachment _ _ := rfl
  settings := rfl

/-- **A cycle goes on in an orderly way.** -/
theorem orderly_of_cycle (h : WellFormed settings s) (run : Runs s.cycle es (v, s')) :
    Orderly s es s' := by
  -- the session is all in its state
  obtain ⟨settings', state, rfl⟩ : ∃ settings' state, s = ofState settings' state :=
    ⟨_, _, h.ofState_state.symm⟩
  cases state with
  | searching => exact orderly_of_searching ((runs_cycle_searching rfl).1 run).2
  | locating a =>
    obtain ⟨-, ⟨hes, rfl⟩ | ⟨rest, found, hes, hlock, rfl⟩⟩ := (runs_cycle_locating rfl).1 run
    · exact orderly_of_gone rfl hes
    · exact orderly_of_alive rfl hes (not_isAlive_mem_of_lock hlock)
        fun _ => eq_none_iff_lockFails hlock
  | extracting a ram =>
    rcases (runs_cycle_extracting rfl rfl).1 run with ⟨hes, -, rfl⟩ | ⟨window, hes, -, -, rfl⟩ |
      ⟨window, word, hes, -, -, rfl⟩
    · exact orderly_of_gone rfl hes
    · exact orderly_of_alive rfl hes
        (List.not_mem_cons_of_ne_of_not_mem isAlive_ne_read List.not_mem_nil) nofun
    · exact orderly_of_alive rfl hes
        (List.not_mem_cons_of_ne_of_not_mem isAlive_ne_read
          (List.not_mem_cons_of_ne_of_not_mem isAlive_ne_read List.not_mem_nil)) nofun

end Step

/-- **At any time what a session knows is of one piece, and it goes on in an orderly way**,
whatever has happened before and whatever is answered next. -/
theorem wellFormed_and_orderly_of_history {settings : Settings} {turns : List (Turn H)}
    {s : Session H} (h : History settings turns s) :
    WellFormed settings s ∧ ∀ es v s', Runs s.cycle es (v, s') → Orderly s es s' := by
  have hformed := wellFormed_of_history h
  exact ⟨hformed, fun es v s' run => orderly_of_cycle hformed run⟩

/-- The small session, when it reads an input. -/
theorem wellFormed_and_orderly_in_sample :
    ∃ (turns : List (Turn Unit)) (es : List (Exchange (hostInterface Unit))),
      let s : Session Unit := ⟨Sample.settings, some Sample.attachment, some Sample.ram⟩
      History Sample.settings turns s ∧ Runs s.cycle es (Sample.word.word, s) ∧
        WellFormed Sample.settings s ∧ Orderly s es s := by
  obtain ⟨searched, hsearch⟩ := Sample.runs_search
  obtain ⟨locked, hlock⟩ := Sample.runs_lock
  obtain ⟨read, hread⟩ := Sample.runs_extract
  have hpast := (History.new.cycle hsearch).cycle hlock
  obtain ⟨hformed, horderly⟩ := wellFormed_and_orderly_of_history hpast
  exact ⟨_, read, hpast, hread, hformed, horderly _ _ _ hread⟩

end Session
end PadScout
