import PadScout.Discovery.Finding
import PadScout.Mips.Encoding

/-! # A sample memory

A main memory that holds the routines that discovery looks for, called from each
other as in a game, and nothing else.  In it the input word is found.  Changes to
single words show what discovery depends on.
-/
namespace PadScout
namespace Discovery
namespace Sample

open Mips (Instruction)

/-! ## Places -/

def getCount : Nat := 0x1000
def disableInterrupts : Nat := 0x1010
def restoreInterrupts : Nat := 0x1020
def writebackCache : Nat := 0x1040
def invalidateCache : Nat := 0x1080
def gpSetup : Nat := 0x10C0
def getTime : Nat := 0x1100
def startTransfer : Nat := 0x1200
def translateAddress : Nat := 0x1300
def controllerInit : Nat := 0x1400
def caller : Nat := 0x1500

/-- The index of the input word. -/
def inputIndex : Nat := 0x40004

/-! ## Code -/

/-- The word of an instruction; an instruction that has none does nothing. -/
def word (i : Instruction) : UInt32 :=
  match i.encode with
  | .ok w => w
  | .error _ => 0

def nop : UInt32 := word .nop

/-- A return from a routine. -/
def back : UInt32 := word (.jr .ra)

/-- A call of the routine at an index. -/
def call (place : Nat) : UInt32 := word (.jal (UInt32.ofNat (4 * place)))

/-- A routine that allocates a stack frame of some bytes and saves the return
address there while it does its work. -/
def routine (frame : Int16) (work : List UInt32) : List UInt32 :=
  [word (.addiu .sp .sp (-frame)), word (.sw .ra (frame - 4) .sp)] ++ work ++
    [word (.lw .ra (frame - 4) .sp), word (.addiu .sp .sp frame), back, nop]

/-- Loads the address of the buffer that transfers use. -/
def loadBuffer : List UInt32 := [word (.lui .a1 (-0x7FE0)), word (.addiu .a1 .a1 0x100)]

/-- The code of all routines, each with its place. -/
def code : List (Nat × List UInt32) :=
  [(0, [0x3C1A8000]),
   (getCount, [0x40024800, back, nop]),
   (disableInterrupts, [0x40086000, 0x2401FFFE, 0x01014824, 0x40896000, 0x31020001]),
   (restoreInterrupts, [0x40086000, 0x01044025, 0x40886000, nop, nop, back, nop]),
   (writebackCache + 0xD,
     [0x010A4023, 0xBD190000, 0x0109082B, 0x1420FFFD, 0x25080010, back, nop,
      0x3C088000, 0x010B4821, 0x2529FFF0, 0xBD010000, 0x0109082B, 0x1420FFFD,
      0x25080010, back, nop]),
   (invalidateCache + 0xE,
     [0x010A4023, 0xBD150000, 0x0109082B, 0x1020000E, nop, 0x25080010, 0x312A000F,
      0x11400006, nop, 0x012A4823, 0xBD350010, 0x0128082B, 0x14200005, nop,
      0xBD110000, 0x0109082B, 0x1420FFFD, 0x25080010, back, nop, 0x3C088000,
      0x010B4821, 0x2529FFF0, 0xBD010000, 0x0109082B, 0x1420FFFD, 0x25080010,
      back, nop]),
   (gpSetup, [word (.lui .gp (-0x7FF0)), back, word (.addiu .gp .gp (-0x7FF0))]),
   (getTime, routine 0x18
     [call disableInterrupts, nop, call getCount, nop, call restoreInterrupts, nop]),
   (startTransfer, routine 0x20
     [call writebackCache, nop, call translateAddress, nop, call invalidateCache, nop]),
   (translateAddress, [back, nop]),
   (controllerInit, routine 0x40
     ([call getTime, nop] ++ loadBuffer ++
      [word (.addiu .a0 .zero 1), call startTransfer, nop] ++ loadBuffer ++
      [call startTransfer, word (.addiu .a0 .zero 0)])),
   (caller, routine 0x28
     ([word (.addiu .a2 .gp 0x7FF0), word (.sw .a2 0x10 .gp),
       word (.addiu .t7 .a2 0x10), word (.sw .t7 0x14 .gp),
       word (.lui .t8 (-0x7FDB)), word (.sw .t8 0x18 .gp),
       word (.lui .a0 (-0x7FD0)), word (.addiu .a0 .a0 0x100),
       word (.addiu .a1 .gp 0x20)] ++
      List.replicate 9 nop ++ [call controllerInit, nop]))]

/-- **The sample memory.** -/
def image : Image :=
  code.foldl (fun m (place, words) => m.put place words) (.filled Image.fullWords 0)

end Sample
end Discovery
end PadScout
