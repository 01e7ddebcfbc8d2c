import Rx888.Calls.Kind
import Mathlib.Algebra.Order.Field.Rat

/-! # The clock chip's registers

The chip as the bus sees it: a transfer that is acknowledged stores its bytes in consecutive
registers, and one that fails may have stored the first of them. A synthesizer's eight registers
hold three numbers of 18, 20 and 20 bits and an output divider code; the ratio they set is a
rational number.
-/

namespace Rx888

open CallProgram

/-- A write to the clock chip, acknowledged or not. -/
structure ClockTransfer where
  reg : UInt8
  bytes : List UInt8
  status : ReturnStatus
  deriving DecidableEq, Repr

def Call.clockTransfer? : (c : Call) → c.Ans → Option ClockTransfer
  | .i2cTransmitBytes preamble bytes, status =>
      match preamble.buffer with
      | [addr, reg] => if addr = si5351Addr then some ⟨reg, bytes, status⟩ else none
      | _ => none
  | _, _ => none

def clockTransfers (tr : List FwCall) : List ClockTransfer :=
  tr.filterMap fun t => t.call.clockTransfer? t.ans

@[simp] theorem clockTransfers_nil : clockTransfers [] = [] := rfl

theorem clockTransfers_cons (t : FwCall) (tr : List FwCall) :
    clockTransfers (t :: tr) = (t.call.clockTransfer? t.ans).toList ++ clockTransfers tr := by
  cases h : t.call.clockTransfer? t.ans <;> simp [clockTransfers, h]

theorem clockTransfers_append (tr tr' : List FwCall) :
    clockTransfers (tr ++ tr') = clockTransfers tr ++ clockTransfers tr' :=
  List.filterMap_append

/-- The registers of the clock chip, by address. -/
abbrev ClockRegs := UInt8 → UInt8

namespace ClockRegs

def store (regs : ClockRegs) (reg : UInt8) (bytes : List UInt8) : ClockRegs :=
  fun r => bytes.getD (r - reg).toNat (regs r)

def block (regs : ClockRegs) (reg : UInt8) : List UInt8 :=
  (List.range 8).map fun i => regs (reg + UInt8.ofNat i)

/-- Bit 7 of the CLK0 control register: the output driver is powered down. -/
def clk0Down (regs : ClockRegs) : Bool := regs siClk0Control &&& 0x80 != 0

theorem store_apart {reg r : UInt8} {bytes : List UInt8} (regs : ClockRegs)
    (apart : bytes.length ≤ (r - reg).toNat) : regs.store reg bytes r = regs r := by
  simp [store, List.getD_eq_getElem?_getD, List.getElem?_eq_none apart]

@[simp] theorem store_nil (regs : ClockRegs) (reg : UInt8) : regs.store reg [] = regs := rfl

/-- The first bytes of a block stored, with what it held behind them. -/
theorem block_store (regs : ClockRegs) (reg : UInt8) {bytes : List UInt8}
    (fits : bytes.length ≤ 8) :
    (regs.store reg bytes).block reg = bytes ++ (regs.block reg).drop bytes.length := by
  apply List.ext_getElem
  · simp [block, fits]
  · intro i inBlock _
    have inBlock : i < 8 := by simpa [block] using inBlock
    have small : i < 256 := by omega
    have offset : (reg + UInt8.ofNat i - reg).toNat = i := by
      rw [UInt8.add_comm, UInt8.add_sub_cancel, UInt8.toNat_ofNat_of_lt' small]
    have entry : (regs.store reg bytes) (reg + UInt8.ofNat i) =
        bytes.getD i (regs (reg + UInt8.ofNat i)) := by
      rw [store, offset]
    simp only [block, List.getElem_map, List.getElem_range, entry]
    by_cases stored : i < bytes.length
    · rw [List.getElem_append_left stored, List.getD_eq_getElem?_getD,
        List.getElem?_eq_getElem stored]
      rfl
    · rw [List.getElem_append_right (by omega), List.getD_eq_getElem?_getD,
        List.getElem?_eq_none (by omega)]
      have behind : bytes.length + (i - bytes.length) = i := by omega
      simp only [Option.getD_none, List.getElem_drop, List.getElem_map, List.getElem_range, behind]

theorem block_store_all (regs : ClockRegs) (reg : UInt8) {bytes : List UInt8}
    (eight : bytes.length = 8) : (regs.store reg bytes).block reg = bytes := by
  have past : (regs.block reg).length ≤ bytes.length := by simp [block, eight]
  rw [block_store regs reg (by omega), List.drop_eq_nil_of_le past, List.append_nil]

theorem block_store_apart (regs : ClockRegs) {block reg : UInt8} {bytes : List UInt8}
    (apart : ∀ i < 8, bytes.length ≤ (block + UInt8.ofNat i - reg).toNat) :
    (regs.store reg bytes).block block = regs.block block := by
  apply List.map_congr_left
  intro i inBlock
  exact store_apart regs (apart i (List.mem_range.mp inBlock))

end ClockRegs

/-- What becomes of a device's registers, and how many bytes of each write it has stored: all of
one that is acknowledged, and perhaps some of one that fails. -/
inductive Evolves : ClockRegs → List ClockTransfer → List Nat → ClockRegs → Prop where
  | nil {regs : ClockRegs} : Evolves regs [] [] regs
  | acked {regs regs' : ClockRegs} {t : ClockTransfer} {ts : List ClockTransfer} {parts : List Nat}
      (ok : t.status = cyU3PSuccess) (rest : Evolves (regs.store t.reg t.bytes) ts parts regs') :
      Evolves regs (t :: ts) (t.bytes.length :: parts) regs'
  | failed {regs regs' : ClockRegs} {t : ClockTransfer} {ts : List ClockTransfer}
      {parts : List Nat} (stored : Nat) (most : stored ≤ t.bytes.length)
      (failed : t.status ≠ cyU3PSuccess)
      (rest : Evolves (regs.store t.reg (t.bytes.take stored)) ts parts regs') :
      Evolves regs (t :: ts) (stored :: parts) regs'

theorem Evolves.of_acked {ts : List ClockTransfer}
    (acked : ts.all (·.status == cyU3PSuccess) = true) (regs : ClockRegs) :
    Evolves regs ts (ts.map fun t => t.bytes.length)
      (ts.foldl (fun regs t => regs.store t.reg t.bytes) regs) := by
  induction ts generalizing regs with
  | nil => exact .nil
  | cons t ts ih =>
      rw [List.all_cons, Bool.and_eq_true, beq_iff_eq] at acked
      exact .acked acked.1 (ih acked.2 _)

/-- What the writes of two runs make of the registers, the second makes of what the first has. -/
theorem Evolves.split {regs regs'' : ClockRegs} {ts ts' : List ClockTransfer} {parts : List Nat}
    (both : Evolves regs (ts ++ ts') parts regs'') :
    ∃ parts₁ regs' parts₂, parts = parts₁ ++ parts₂ ∧ Evolves regs ts parts₁ regs' ∧
      Evolves regs' ts' parts₂ regs'' := by
  induction ts generalizing regs parts with
  | nil => exact ⟨[], regs, parts, rfl, .nil, both⟩
  | cons t ts ih =>
      cases both with
      | acked ok rest =>
          obtain ⟨parts₁, regs', parts₂, rfl, first, second⟩ := ih rest
          exact ⟨_, regs', parts₂, rfl, .acked ok first, second⟩
      | failed stored most failed rest =>
          obtain ⟨parts₁, regs', parts₂, rfl, first, second⟩ := ih rest
          exact ⟨_, regs', parts₂, rfl, .failed stored most failed first, second⟩

/-! ## Synthesizer blocks -/

/-- The numbers a synthesizer's registers hold. -/
structure SynthFields where
  p1 : Nat
  p2 : Nat
  p3 : Nat
  rCode : Nat
  deriving DecidableEq, Repr

def synthFields (bytes : List UInt8) : SynthFields :=
  let byte (i : Nat) := (bytes.getD i 0).toNat
  { p1 := byte 2 % 4 * 65536 + byte 3 * 256 + byte 4
    p2 := byte 5 % 16 * 65536 + byte 6 * 256 + byte 7
    p3 := byte 5 / 16 * 65536 + byte 0 * 256 + byte 1
    rCode := byte 2 / 16 % 8 }

namespace SynthFields

/-- The ratio `a + b/c`, which `P1 = 128 a + ⌊128 b / c⌋ - 512`, `P2 = 128 b mod c` and
`P3 = c` encode. -/
def ratio (f : SynthFields) : ℚ := ((f.p1 : ℚ) + 512 + f.p2 / f.p3) / 128

def outputDivider (f : SynthFields) : Nat := 2 ^ f.rCode

end SynthFields

/-- A field of a word under its mask. -/
theorem and_field (x n k : Nat) : x &&& (2 ^ k - 1) <<< n = x / 2 ^ n % 2 ^ k * 2 ^ n := by
  rw [← Nat.shiftLeft_eq]
  apply Nat.eq_of_testBit_eq
  intro i
  simp only [Nat.testBit_and, Nat.testBit_shiftLeft, Nat.testBit_two_pow_sub_one,
    Nat.testBit_mod_two_pow, Nat.testBit_div_two_pow]
  by_cases inField : n ≤ i
  · simp [inField, Bool.and_comm]
  · simp [inField]

/-- A disjoint union of bits is a sum. -/
theorem or_nibble {x : Nat} (small : x < 16) (j : Nat) : x ||| j * 16 = x + j * 16 := by
  have sum : j <<< 4 + x = j <<< 4 ||| x := Nat.shiftLeft_add_eq_or_of_lt small j
  have shifted : j <<< 4 = j * 16 := Nat.shiftLeft_eq j 4
  rw [shifted] at sum
  rw [Nat.or_comm, ← sum, Nat.add_comm]

/-- A block's bytes hold the words as far as the fields go. -/
theorem synthFields_synthBytes_mod (p1 p2 p3 : UInt32) {rDiv : UInt8}
    (code : rDiv.toNat % 16 = 0) :
    synthFields (synthBytes p1 p2 p3 rDiv) =
      ⟨p1.toNat % 2 ^ 18, p2.toNat % 2 ^ 20, p3.toNat % 2 ^ 20, rDiv.toNat / 16 % 8⟩ := by
  have high (x : UInt32) : ((x &&& 0x0000FF00) >>> 8).toUInt8.toNat = x.toNat / 256 % 256 := by
    rw [UInt32.toNat_toUInt8, UInt32.toNat_shiftRight, UInt32.toNat_and]
    show (x.toNat &&& (2 ^ 8 - 1) <<< 8) >>> 8 % 2 ^ 8 = x.toNat / 256 % 256
    rw [and_field, Nat.shiftRight_eq_div_pow]
    omega
  have low (x : UInt32) : (x &&& 0x000000FF).toUInt8.toNat = x.toNat % 256 := by
    rw [UInt32.toNat_toUInt8, UInt32.toNat_and]
    show (x.toNat &&& (2 ^ 8 - 1) <<< 0) % 2 ^ 8 = x.toNat % 256
    rw [and_field]
    omega
  have top : (((p1 &&& 0x00030000) >>> 16).toUInt8 ||| rDiv).toNat =
      p1.toNat / 65536 % 4 + rDiv.toNat := by
    have code' : rDiv.toNat = rDiv.toNat / 16 * 16 := by omega
    rw [UInt8.toNat_or, UInt32.toNat_toUInt8, UInt32.toNat_shiftRight, UInt32.toNat_and]
    show (p1.toNat &&& (2 ^ 2 - 1) <<< 16) >>> 16 % 2 ^ 8 ||| rDiv.toNat = _
    rw [and_field, Nat.shiftRight_eq_div_pow, code', or_nibble (by omega)]
    omega
  have tops : (((p3 &&& 0x000F0000) >>> 12) ||| ((p2 &&& 0x000F0000) >>> 16)).toUInt8.toNat =
      p3.toNat / 65536 % 16 * 16 + p2.toNat / 65536 % 16 := by
    rw [UInt32.toNat_toUInt8, UInt32.toNat_or, UInt32.toNat_shiftRight, UInt32.toNat_shiftRight,
      UInt32.toNat_and, UInt32.toNat_and, Nat.or_comm]
    show ((p2.toNat &&& (2 ^ 4 - 1) <<< 16) >>> 16 ||| (p3.toNat &&& (2 ^ 4 - 1) <<< 16) >>> 12) %
      2 ^ 8 = _
    rw [and_field, and_field, Nat.shiftRight_eq_div_pow, Nat.shiftRight_eq_div_pow]
    have part : p3.toNat / 2 ^ 16 % 2 ^ 4 * 2 ^ 16 / 2 ^ 12 = p3.toNat / 65536 % 16 * 16 := by
      omega
    rw [part, or_nibble (by omega)]
    omega
  simp only [synthFields, synthBytes, List.getD_cons_zero, List.getD_cons_succ, high, low, top,
    tops, SynthFields.mk.injEq]
  omega

/-- The whole of a block comes back from its bytes. -/
theorem synthFields_synthBytes {p1 p2 p3 : UInt32} {rDiv : UInt8} (one : p1.toNat < 2 ^ 18)
    (two : p2.toNat < 2 ^ 20) (three : p3.toNat < 2 ^ 20) (code : rDiv.toNat % 16 = 0)
    (range : rDiv.toNat < 128) :
    synthFields (synthBytes p1 p2 p3 rDiv) = ⟨p1.toNat, p2.toNat, p3.toNat, rDiv.toNat / 16⟩ := by
  rw [synthFields_synthBytes_mod p1 p2 p3 code, Nat.mod_eq_of_lt one, Nat.mod_eq_of_lt two,
    Nat.mod_eq_of_lt three]
  congr 1
  omega

end Rx888
