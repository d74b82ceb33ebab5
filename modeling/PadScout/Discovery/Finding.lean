import PadScout.Memory.Image

/-! # Findings

The outcome of a successful discovery: where in memory the controller input is
kept, and a window of code by which to tell later that memory still holds the
same program.
-/
namespace PadScout

/-- Where the controller input is, and how to check that it is still there. -/
structure Finding where
  /-- The index of the first word of the window. -/
  windowStart : Nat
  /-- The words of the window when the finding was made. -/
  window : List UInt32
  /-- The byte offset of the controller-input word in memory. -/
  inputOffset : UInt32
deriving DecidableEq

namespace Finding

def windowLength (f : Finding) : Nat := f.window.length

/-- The byte offset of the window in memory. -/
def windowOffset (f : Finding) : Nat := 4 * f.windowStart

/-- Whether the window still holds the words it held. -/
def verify (f : Finding) (live : List UInt32) : Bool := live == f.window

@[simp] theorem verify_eq_true_iff {f : Finding} {live : List UInt32} :
    f.verify live = true ↔ live = f.window := by
  simp [verify]

def text (f : Finding) : String :=
  "input at RAM+" ++ Hex.marked f.inputOffset.toNat ++ ", window " ++ Hex.marked f.windowStart ++
    ".." ++ Hex.marked (f.windowStart + f.windowLength)

end Finding

end PadScout
