import PadScout.Proofs.Guarded.Decoding
import PadScout.Proofs.Machine.Lanes

/-! # The machine, guarded

The machine of `PadScout.Machine.Basic` runs whatever words memory holds.  Nothing breaks
off while it does: registers have numbers below thirty-two, and a scratch word is only
addressed where there is one; the position of a byte or a half in a word is computed without
overflow and less than a word is long, as is a shift amount that was decoded or cut off to
five bits; products of words fit into 64 bits; and before a division the divisor is compared
with zero.  So a probe runs to its end or to a fault, never less (`probe_eq`).
-/
namespace PadScout

open Mips

namespace Guarded

/-! ## Registers and memory -/

/-- The value of a register. -/
def get (m : Machine) (r : Register) : Guarded UInt32 := index m.registers.toArray r.index.val

theorem get_eq (m : Machine) (r : Register) : get m r = .ok (m.get r) :=
  index_vector m.registers r.index.isLt

/-- Sets a register; register zero stays what it is. -/
def set (m : Machine) (r : Register) (value : UInt32) : Guarded Machine :=
  if r = .zero then .ok m
  else do return { m with registers := ← replace m.registers r.index.val value }

theorem set_eq (m : Machine) (r : Register) (value : UInt32) :
    set m r value = .ok (m.set r value) := by
  rw [set, Machine.set, replace_eq _ _ r.index.isLt]
  split <;> rfl

/-- The value of an operand register; zero if the operand is missing. -/
def operand (m : Machine) : Option Register → Guarded UInt32
  | some r => get m r
  | none => .ok 0

theorem operand_eq (m : Machine) (r : Option Register) : operand m r = .ok (m.operand r) := by
  cases r with
  | none => rfl
  | some r => exact get_eq m r

/-- The word that an address falls into. -/
def readWord (s : AddressSpace) (a : UInt32) : Guarded (Except Fault UInt32) :=
  match s.place a with
  | .error f => .ok (.error f)
  | .ok (.ram i) =>
    match s.ram.get? i with
    | some w => .ok (.ok w)
    | none => .ok (.error (.outOfBounds a))
  | .ok (.scratch i) => do return .ok (← index s.scratch.toArray i.val)

theorem readWord_eq (s : AddressSpace) (a : UInt32) : readWord s a = .ok (s.readWord a) := by
  rw [readWord, AddressSpace.readWord]
  cases s.place a with
  | error f => rfl
  | ok p =>
    cases p with
    | ram i =>
      dsimp only
      cases s.ram.get? i <;> rfl
    | scratch i =>
      dsimp only
      rw [index_vector s.scratch i.isLt]
      rfl

/-- Stores the bits of `value` under a mask. -/
def store (s : AddressSpace) (a value mask : UInt32) : Guarded (Except Fault AddressSpace) :=
  match s.place a with
  | .error f => .ok (.error f)
  | .ok (.ram _) => .ok (.ok s)
  | .ok (.scratch i) => do
    let w ← index s.scratch.toArray i.val
    return .ok { s with
      scratch := ← replace s.scratch i.val ((w &&& ~~~ mask) ||| (value &&& mask)) }

theorem store_eq (s : AddressSpace) (a value mask : UInt32) :
    store s a value mask = .ok (s.store a value mask) := by
  rw [store, AddressSpace.store]
  cases s.place a with
  | error f => rfl
  | ok p =>
    cases p with
    | ram i => rfl
    | scratch i =>
      dsimp only
      rw [index_vector s.scratch i.isLt, ok_bind, replace_eq s.scratch _ i.isLt]
      rfl

/-! ## Positions in a word -/

/-- The position of a part of a word, counted in bytes from the part that stands last. -/
def position (last part : UInt32) : Guarded UInt32 := do
  let bits ← fitting 0 (2 ^ 32) (8 * part.toNat) (8 * part)
  fitting 0 (2 ^ 32) (last.toNat - bits.toNat) (last - bits)

theorem position_eq {last part : UInt32} (h : 8 * part.toNat ≤ last.toNat) :
    position last part = .ok (last - 8 * part) ∧ last - 8 * part ≤ last := by
  have hlast := last.toNat_lt
  have hbits : (8 * part).toNat = 8 * part.toNat := by
    rw [UInt32.toNat_mul]
    change 8 * part.toNat % 2 ^ 32 = _
    omega
  constructor
  · rw [position, fitting_eq _ (by omega) (by omega), ok_bind, fitting_eq _ (by omega) (by omega)]
  · rw [UInt32.le_iff_toNat_le, UInt32.toNat_sub_of_le _ _ (by rw [UInt32.le_iff_toNat_le]; omega)]
    omega

/-- The position of the addressed byte in its word. -/
def byteShift (a : UInt32) : Guarded UInt32 := position 24 (a &&& 3)

theorem byteShift_eq (a : UInt32) :
    byteShift a = .ok (AddressSpace.byteShift a) ∧ AddressSpace.byteShift a < 32 := by
  have hpart : (a &&& 3).toNat ≤ 3 := by
    rw [UInt32.toNat_and]
    exact Nat.and_le_right
  obtain ⟨hposition, hle⟩ := position_eq (show 8 * (a &&& 3).toNat ≤ (24 : UInt32).toNat by
    change _ ≤ 24
    omega)
  exact ⟨hposition, UInt32.lt_of_le_of_lt hle (by decide)⟩

/-- The position of the addressed half of a word. -/
def halfShift (a : UInt32) : Guarded UInt32 := position 16 (a &&& 2)

theorem halfShift_eq (a : UInt32) :
    halfShift a = .ok (AddressSpace.halfShift a) ∧ AddressSpace.halfShift a < 32 := by
  have hpart : (a &&& 2).toNat ≤ 2 := by
    rw [UInt32.toNat_and]
    exact Nat.and_le_right
  obtain ⟨hposition, hle⟩ := position_eq (show 8 * (a &&& 2).toNat ≤ (16 : UInt32).toNat by
    change _ ≤ 16
    omega)
  exact ⟨hposition, UInt32.lt_of_le_of_lt hle (by decide)⟩

/-- Stores a part of a word at its position. -/
def storeAt (s : AddressSpace) (a : UInt32) (shift : Guarded UInt32) (value ones : UInt32) :
    Guarded (Except Fault AddressSpace) := do
  let amount ← shift
  store s a (← shifting (· <<< ·) value amount) (← shifting (· <<< ·) ones amount)

theorem storeAt_eq (s : AddressSpace) (a : UInt32) {shift : Guarded UInt32} {amount : UInt32}
    (h : shift = .ok amount ∧ amount < 32) (value ones : UInt32) :
    storeAt s a shift value ones = .ok (s.store a (value <<< amount) (ones <<< amount)) := by
  rw [storeAt, h.1, ok_bind, shifting_eq _ _ h.2, ok_bind, shifting_eq _ _ h.2, ok_bind, store_eq]

/-! ## Effects -/

/-- The effect of a load, given how the loaded word becomes a register value. -/
def load (m : Machine) (i : Instruction) (a : UInt32) (value : UInt32 → Guarded UInt32) :
    Guarded (Except Fault Effect) := do
  match ← readWord m.memory a with
  | .ok w => return .ok (Machine.result i.rt (← value w))
  | .error f => return .error f

theorem load_eq (m : Machine) (i : Instruction) {value : UInt32 → Guarded UInt32}
    {f : UInt32 → UInt32} (h : ∀ w, value w = .ok (f w)) :
    load m i (m.address i) value = .ok (m.load i f) := by
  rw [load, readWord_eq, ok_bind, Machine.load]
  cases m.memory.readWord (m.address i) with
  | error e => rfl
  | ok w =>
    dsimp only
    rw [h]
    rfl

/-- The part of a word at its position. -/
def part (shift : Guarded UInt32) (value : UInt32 → UInt32) (w : UInt32) : Guarded UInt32 := do
  return value (← shifting (· >>> ·) w (← shift))

theorem part_eq {shift : Guarded UInt32} {amount : UInt32} (h : shift = .ok amount ∧ amount < 32)
    (value : UInt32 → UInt32) (w : UInt32) : part shift value w = .ok (value (w >>> amount)) := by
  rw [part, h.1, ok_bind, shifting_eq _ _ h.2]
  rfl

/-- A division names the instruction it stands at. -/
def divide (m : Machine) (divisor : UInt32) (quotient remainder : UInt32) :
    Guarded (Except Fault Effect) :=
  if divisor = 0 then .ok (.error (.divideByZero (m.pc - 4)))
  else do
    let lo ← dividing divisor quotient
    let hi ← dividing divisor remainder
    return .ok (.hiLo hi lo)

theorem divide_eq (m : Machine) (divisor quotient remainder : UInt32) :
    divide m divisor quotient remainder = .ok (m.divide divisor (.hiLo remainder quotient)) := by
  rw [divide, Machine.divide]
  split
  · rfl
  · next h =>
    rw [dividing_eq _ h, ok_bind, dividing_eq _ h]
    rfl

-- the least number divided by minus one wraps around to itself
example : ((0x80000000 : UInt32).toInt32 / (0xFFFFFFFF : UInt32).toInt32).toUInt32 = 0x80000000 ∧
    ((0x80000000 : UInt32).toInt32 % (0xFFFFFFFF : UInt32).toInt32).toUInt32 = 0 := by decide

/-- What an instruction does. -/
def effect (m : Machine) (i : Instruction) : Guarded (Except Fault Effect) := do
  let rs ← operand m i.rs
  let rt ← operand m i.rt
  let amount : UInt32 := match i.shift with
    | some n => n.toUInt32
    | none => 0
  let a := rs + i.immSigned
  let low : UInt32 := rs &&& 0x1F
  let toRd (value : UInt32) : Guarded (Except Fault Effect) := .ok (.ok (Machine.result i.rd value))
  let toRt (value : UInt32) : Guarded (Except Fault Effect) := .ok (.ok (Machine.result i.rt value))
  let storing (space : Except Fault AddressSpace) : Guarded (Except Fault Effect) :=
    .ok (Machine.storing space)
  match i.kind with
  | .add | .addu => toRd (rs + rt)
  | .sub | .subu => toRd (rs - rt)
  | .and => toRd (rs &&& rt)
  | .or => toRd (rs ||| rt)
  | .xor => toRd (rs ^^^ rt)
  | .nor => toRd (~~~ (rs ||| rt))
  | .slt => toRd (Machine.flag (rs.toInt32 < rt.toInt32))
  | .sltu => toRd (Machine.flag (rs < rt))
  | .addi | .addiu => toRt (rs + i.immSigned)
  | .andi => toRt (rs &&& i.immUnsigned)
  | .ori => toRt (rs ||| i.immUnsigned)
  | .xori => toRt (rs ^^^ i.immUnsigned)
  | .slti => toRt (Machine.flag (rs.toInt32 < i.immSigned.toInt32))
  | .sltiu => toRt (Machine.flag (rs < i.immSigned))
  | .lui => toRt (← shifting (· <<< ·) i.immUnsigned 16)
  | .sll => toRd (← shifting (· <<< ·) rt amount)
  | .srl => toRd (← shifting (· >>> ·) rt amount)
  | .sra => toRd (← shifting Machine.shiftSigned rt amount)
  | .sllv => toRd (← shifting (· <<< ·) rt low)
  | .srlv => toRd (← shifting (· >>> ·) rt low)
  | .srav => toRd (← shifting Machine.shiftSigned rt low)
  | .mult => do
    let p := (rs.toInt32.toInt64 * rt.toInt32.toInt64).toUInt64
    return .ok (Machine.product
      (← fitting (-2 ^ 63) (2 ^ 63) (rs.toInt32.toInt * rt.toInt32.toInt) p))
  | .multu => do
    return .ok (Machine.product
      (← fitting 0 (2 ^ 64) (rs.toNat * rt.toNat) (rs.toUInt64 * rt.toUInt64)))
  | .div => divide m rt (rs.toInt32 / rt.toInt32).toUInt32 (rs.toInt32 % rt.toInt32).toUInt32
  | .divu => divide m rt (rs / rt) (rs % rt)
  | .mfhi => toRd m.hi
  | .mflo => toRd m.lo
  | .mthi => .ok (.ok (.hi rs))
  | .mtlo => .ok (.ok (.lo rs))
  | .lw | .lwu => load m i a fun w => .ok w
  | .lb => load m i a (part (byteShift a) fun w => w.toUInt8.toInt8.toInt32.toUInt32)
  | .lbu => load m i a (part (byteShift a) fun w => w.toUInt8.toUInt32)
  | .lh => load m i a (part (halfShift a) fun w => w.toUInt16.toInt16.toInt32.toUInt32)
  | .lhu => load m i a (part (halfShift a) fun w => w.toUInt16.toUInt32)
  | .sw => do storing (← store m.memory a rt 0xFFFFFFFF)
  | .sh => do storing (← storeAt m.memory a (halfShift a) rt.toUInt16.toUInt32 0xFFFF)
  | .sb => do storing (← storeAt m.memory a (byteShift a) rt.toUInt8.toUInt32 0xFF)
  | _ => .ok (.ok .nothing)

theorem low_lt (w : UInt32) : w &&& 0x1F < 32 := by
  rw [UInt32.lt_iff_toNat_lt, UInt32.toNat_and]
  exact Nat.lt_of_le_of_lt Nat.and_le_right (by decide)

/-- The amount of a shift by a number of bits that stands in the word. -/
theorem amount_lt {shift : Option UInt8} (h : ∀ n, shift = some n → n ≤ 31) :
    (match shift with
      | some n => n.toUInt32
      | none => 0) < 32 := by
  cases shift with
  | none => decide
  | some n =>
    have hn := UInt8.le_iff_toNat_le.1 (h n rfl)
    change n.toNat ≤ 31 at hn
    rw [UInt32.lt_iff_toNat_lt]
    change n.toUInt32.toNat < 32
    rw [UInt8.toNat_toUInt32]
    omega

/-- A product of two numbers of 32 bits has 64. -/
theorem product_fits (a b : UInt32) : a.toNat * b.toNat < 2 ^ 64 :=
  Nat.mul_lt_mul_of_lt_of_lt (c := 2 ^ 32) (d := 2 ^ 32) a.toNat_lt b.toNat_lt

/-- So has a product of two such numbers with a sign. -/
theorem signed_product_fits (a b : Int32) :
    -2 ^ 63 ≤ a.toInt * b.toInt ∧ a.toInt * b.toInt < 2 ^ 63 := by
  have ha : a.toInt.natAbs ≤ 2 ^ 31 := by
    have := a.le_toInt
    have := a.toInt_lt
    omega
  have hb : b.toInt.natAbs ≤ 2 ^ 31 := by
    have := b.le_toInt
    have := b.toInt_lt
    omega
  have hproduct : (a.toInt * b.toInt).natAbs ≤ 2 ^ 31 * 2 ^ 31 := by
    rw [Int.natAbs_mul]
    exact Nat.mul_le_mul ha hb
  omega

/-- **No instruction that was decoded breaks off.** -/
theorem effect_eq (m : Machine) {i : Instruction} (h : ∀ n, i.shift = some n → n ≤ 31) :
    effect m i = .ok (m.effect i) := by
  have hamount := amount_lt h
  have hlow := low_lt (m.operand i.rs)
  have hbyte := byteShift_eq (m.address i)
  have hhalf := halfShift_eq (m.address i)
  rw [effect, operand_eq, ok_bind, operand_eq, ok_bind, Machine.effect]
  cases i.kind with
  | lui => rfl
  | sll => exact congrArg (· >>= _) (shifting_eq _ _ hamount)
  | srl => exact congrArg (· >>= _) (shifting_eq _ _ hamount)
  | sra => exact congrArg (· >>= _) (shifting_eq _ _ hamount)
  | sllv => exact congrArg (· >>= _) (shifting_eq _ _ hlow)
  | srlv => exact congrArg (· >>= _) (shifting_eq _ _ hlow)
  | srav => exact congrArg (· >>= _) (shifting_eq _ _ hlow)
  | mult =>
    obtain ⟨hleast, hgreatest⟩ :=
      signed_product_fits (m.operand i.rs).toInt32 (m.operand i.rt).toInt32
    exact congrArg (· >>= _) (fitting_eq _ hleast hgreatest)
  | multu =>
    have hproduct := product_fits (m.operand i.rs) (m.operand i.rt)
    exact congrArg (· >>= _) (fitting_eq _ (by omega) (by omega))
  | div => exact divide_eq m _ _ _
  | divu => exact divide_eq m _ _ _
  | lw => exact load_eq m i fun w => rfl
  | lwu => exact load_eq m i fun w => rfl
  | lb => exact load_eq m i (part_eq hbyte _)
  | lbu => exact load_eq m i (part_eq hbyte _)
  | lh => exact load_eq m i (part_eq hhalf _)
  | lhu => exact load_eq m i (part_eq hhalf _)
  | sw => exact congrArg (· >>= _) (store_eq _ _ _ _)
  | sh => exact congrArg (· >>= _) (storeAt_eq _ _ hhalf _ _)
  | sb => exact congrArg (· >>= _) (storeAt_eq _ _ hbyte _ _)
  | _ => rfl

/-! ## Steps -/

/-- Does what an effect says. -/
def apply (m : Machine) : Effect → Guarded Machine
  | .register r value => set m r value
  | e => .ok (m.apply e)

theorem apply_eq (m : Machine) (e : Effect) : apply m e = .ok (m.apply e) := by
  cases e with
  | register r value => exact set_eq m r value
  | _ => rfl

/-- Carries out an instruction. -/
def execute (m : Machine) (i : Instruction) : Guarded (Machine × Except Fault Unit) := do
  match ← effect m i with
  | .ok e => return (← apply m e, .ok ())
  | .error f => return (m, .error f)

theorem execute_eq (m : Machine) {i : Instruction} (h : ∀ n, i.shift = some n → n ≤ 31) :
    execute m i = .ok (m.execute i) := by
  rw [execute, effect_eq m h, ok_bind, Machine.execute]
  cases m.effect i with
  | error f => rfl
  | ok e =>
    dsimp only
    rw [apply_eq]
    rfl

/-- Reads the word at the program counter and moves on. -/
def fetch (m : Machine) : Guarded (Machine × Except Fault (Option Instruction)) := do
  match ← readWord m.memory m.pc with
  | .error _ => return (m, .error (.fetch m.pc))
  | .ok w => return (m.withPc (m.pc + 4), .ok (← decode w).toOption)

theorem fetch_eq (m : Machine) : fetch m = .ok m.fetch := by
  rw [fetch, readWord_eq, ok_bind, Machine.fetch]
  cases m.memory.readWord m.pc with
  | error f => rfl
  | ok w =>
    dsimp only
    rw [decode_eq]
    rfl

theorem shift_le_of_fetch {m m' : Machine} {i : Instruction}
    (h : m.fetch = (m', .ok (some i))) (n : UInt8) (hn : i.shift = some n) : n ≤ 31 := by
  rw [Machine.fetch] at h
  cases hw : m.memory.readWord m.pc with
  | error f =>
    rw [hw] at h
    cases h
  | ok w =>
    rw [hw] at h
    have hdecode : (Mips.decode w).toOption = some i := Except.ok.inj (congrArg Prod.snd h)
    cases hi : Mips.decode w with
    | error e =>
      rw [hi] at hdecode
      cases hdecode
    | ok j =>
      rw [hi] at hdecode
      exact shift_le_of_decode (hi.trans (congrArg _ (Option.some.inj hdecode))) hn

/-- Fetches an instruction, spells it and carries it out. -/
def step (m : Machine) : Guarded (Machine × Except Fault (Option Instruction)) := do
  match ← fetch m with
  | (m, .ok (some i)) =>
    let _ ← spell i
    match ← execute m i with
    | (m, .error (.divideByZero pc)) => return (m, .error (.divideByZero pc))
    | (m, _) => return (m, .ok (some i))
  | (m, .ok none) => return (m, .ok none)
  | (m, .error f) => return (m, .error f)

/-- **No step breaks off.** -/
theorem step_eq (m : Machine) : step m = .ok m.step := by
  rw [step, fetch_eq, ok_bind, Machine.step]
  match hfetch : m.fetch with
  | (m', .error f) => rfl
  | (m', .ok none) => rfl
  | (m', .ok (some i)) =>
    dsimp only
    rw [spell_eq, ok_bind, execute_eq m' (shift_le_of_fetch hfetch), ok_bind]
    match m'.execute i with
    | (m'', .ok ()) => rfl
    | (m'', .error (.divideByZero pc)) => rfl
    | (m'', .error (.unmappedSegment a)) => rfl
    | (m'', .error (.outOfBounds a)) => rfl
    | (m'', .error (.fetch pc)) => rfl

/-! ## Probes -/

/-- The word that a step has stored or tried to store. -/
def storedBy (m : Machine) : Option Instruction → Guarded (Option UInt32)
  | some i => do
    if i.kind = .sw then
      let w ← operand m i.rt
      return if w ≠ 0 then some w else none
    else return none
  | none => return none

theorem storedBy_eq (m : Machine) (i : Option Instruction) :
    storedBy m i = .ok (CallProbe.storedBy m i) := by
  cases i with
  | none => rfl
  | some i =>
    rw [storedBy, CallProbe.storedBy]
    split
    · next h =>
      rw [operand_eq, ok_bind]
      simp only [h, true_and]
      rfl
    · next h => simp [h]

/-- Takes the steps of a probe, collecting stored words. -/
def collect : Nat → Machine → List UInt32 → Guarded (Except Fault (Machine × List UInt32))
  | 0, m, stored => return .ok (m, stored)
  | n + 1, m, stored => do
    match ← step m with
    | (_, .error f) => return .error f
    | (m, .ok i) =>
      match ← storedBy m i with
      | some w => collect n m (Ascending.insert w stored)
      | none => collect n m stored

theorem collect_eq (n : Nat) (m : Machine) (stored : List UInt32) :
    collect n m stored = .ok (CallProbe.collect n m stored) := by
  induction n generalizing m stored with
  | zero => rfl
  | succ n ih =>
    rw [collect, step_eq, ok_bind, CallProbe.collect]
    match m.step with
    | (_, .error f) => rfl
    | (m', .ok i) =>
      dsimp only
      rw [storedBy_eq, ok_bind]
      cases CallProbe.storedBy m' i <;> exact ih _ _

/-- Sets registers one after the other. -/
def withRegisters (m : Machine) (seeds : List (Register × UInt32)) : Guarded Machine :=
  seeds.foldlM (fun m s => set m s.1 s.2) m

theorem withRegisters_eq (m : Machine) (seeds : List (Register × UInt32)) :
    withRegisters m seeds = .ok (m.withRegisters seeds) := foldlM_eq fun m s _ => set_eq m s.1 s.2

/-- Runs a probe at the call at a given index; the remark on it shows three registers. -/
def probe (p : CallProbe) (m : Image) (site : Nat) :
    Guarded (Except Fault CallProbe.Outcome) := do
  let steps ← plus p.lead 2
  let start ← withRegisters ((Machine.ofImage m).withPc
    (CallProbe.wordAddress site - UInt32.ofNat p.lead <<< 2)) p.seeds
  match ← collect steps start [] with
  | .ok (m, stored) =>
    let _ ← [Register.a0, .a1, .a2].mapM (get m)
    return .ok ⟨m.registers, stored⟩
  | .error f => return .error f

/-- **A probe runs to its end or to a fault.** -/
theorem probe_eq {p : CallProbe} (h : p.lead + 2 < 2 ^ 64) (m : Image) (site : Nat) :
    probe p m site = .ok (p.run m site) := by
  rw [probe, plus_eq h, ok_bind, withRegisters_eq, ok_bind, collect_eq, ok_bind, CallProbe.run,
    CallProbe.start, CallProbe.steps]
  generalize CallProbe.collect _ _ _ = course
  match course with
  | .error f => rfl
  | .ok (m', stored) =>
    dsimp only
    rw [mapM_eq fun r _ => get_eq m' r]
    rfl

/-- The value of a register after a probe. -/
def registerAfter (o : CallProbe.Outcome) (r : Register) : Guarded UInt32 :=
  index o.registers.toArray r.index.val

theorem registerAfter_eq (o : CallProbe.Outcome) (r : Register) :
    registerAfter o r = .ok (o.get r) := index_vector o.registers r.index.isLt

end Guarded
end PadScout
