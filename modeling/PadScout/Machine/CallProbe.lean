import PadScout.Machine.Basic

/-! # Probing a call

What does a call pass to the routine it calls?  A probe runs the code that leads
up to the call, then the call and the instruction in its delay slot, on a
machine that starts from nothing but some given registers.  The outcome is the
registers after the run and the set of words that it tried to store.
-/
namespace PadScout

open Mips

/-- How far before the call to begin, and with which registers. -/
structure CallProbe where
  lead : Nat
  seeds : List (Register × UInt32) := []

/-- What a probe finds. -/
structure CallProbe.Outcome where
  registers : Vector UInt32 32
  /-- The nonzero words that the run stored or tried to store, ascending. -/
  stored : List UInt32
deriving DecidableEq

namespace CallProbe

/-- The address of word `index` of memory, in the unmapped cached segment. -/
def wordAddress (index : Nat) : UInt32 := (0x80000000 : UInt32) ||| (UInt32.ofNat index <<< 2)

def Outcome.get (o : Outcome) (r : Register) : UInt32 := o.registers.get r.index

/-- The lead, the call and its delay slot. -/
def steps (p : CallProbe) : Nat := p.lead + 2

/-- The machine at the beginning of a probe. -/
def start (p : CallProbe) (m : Image) (site : Nat) : Machine :=
  ((Machine.ofImage m).withPc (wordAddress site - UInt32.ofNat p.lead <<< 2)).withRegisters p.seeds

/-- The word that a step has stored or tried to store. -/
def storedBy (m : Machine) : Option Instruction → Option UInt32
  | some i =>
    -- a store leaves its operands as they were, so they can be read after the step
    if i.kind = .sw ∧ m.operand i.rt ≠ 0 then some (m.operand i.rt) else none
  | none => none

/-- Takes the steps of a probe, collecting stored words. -/
def collect : Nat → Machine → List UInt32 → Except Fault (Machine × List UInt32)
  | 0, m, stored => .ok (m, stored)
  | n + 1, m, stored =>
    match m.step with
    | (_, .error f) => .error f
    | (m, .ok i) =>
      match storedBy m i with
      | some w => collect n m (Ascending.insert w stored)
      | none => collect n m stored

/-- **Runs the probe** at the call at a given index. -/
def run (p : CallProbe) (m : Image) (site : Nat) : Except Fault Outcome :=
  match collect p.steps (p.start m site) [] with
  | .ok (m, stored) => .ok ⟨m.registers, stored⟩
  | .error f => .error f

/-- The value of one register after the probe. -/
def argument (p : CallProbe) (m : Image) (site : Nat) (r : Register) : Except Fault UInt32 :=
  match p.run m site with
  | .ok o => .ok (o.get r)
  | .error f => .error f

/-- What a probe has to say: its steps, then the argument registers. -/
def entries (p : CallProbe) (m : Image) (site : Nat) : List Entry :=
  (p.start m site).runEntries p.steps ++ match p.run m site with
    | .ok o =>
      [⟨.trace, .probe, "probe at " ++ Hex.marked site ++ ": a0=" ++ Hex.word (o.get .a0) ++
        " a1=" ++ Hex.word (o.get .a1) ++ " a2=" ++ Hex.word (o.get .a2) ++ ", " ++
        Decimal.text o.stored.length ++ " stores"⟩]
    | .error _ => []

end CallProbe

end PadScout
