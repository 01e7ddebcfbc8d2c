import Mathlib.Data.Nat.Bitwise

/-! # Chips on a serial bus

A waveform is the list of writes to the pins of a bus. A chip is wired to three of them: it shifts
the data line in on each rising edge of the clock while its latch line is low, and takes the last
bits over with the latch line, by its level or by its rising edge. Chips may share the data and
the clock; what is meant for another chip passes through the shift register of this one.
-/

namespace SerialBus

open Function

/-! ## Words -/

/-- The number with these bits, the lowest first. -/
def word : List Bool → Nat
  | [] => 0
  | b :: bits => b.toNat + 2 * word bits

theorem word_testBit (n v : Nat) : word ((List.range n).map v.testBit) = v % 2 ^ n := by
  induction n generalizing v with
  | zero => simp [word, Nat.mod_one]
  | succ n ih =>
      have half : v.testBit ∘ Nat.succ = (v / 2).testBit := by
        funext i
        exact Nat.testBit_succ v i
      have low : (v.testBit 0).toNat = v % 2 := by
        rw [Nat.testBit_zero]
        rcases Nat.mod_two_eq_zero_or_one v with even | odd
        · simp [even]
        · simp [odd]
      rw [List.range_succ_eq_map, List.map_cons, List.map_map, half, word, ih, low, Nat.pow_succ',
        Nat.mod_mul]

/-! ## Waveforms -/

section Waveform

variable {P : Type} [DecidableEq P]

def drive (level : P → Bool) (write : P × Bool) : P → Bool := update level write.1 write.2

def settle (level : P → Bool) (wave : List (P × Bool)) : P → Bool := wave.foldl drive level

@[simp] theorem settle_nil (level : P → Bool) : settle level [] = level := rfl

@[simp] theorem settle_cons (level : P → Bool) (write : P × Bool) (wave : List (P × Bool)) :
    settle level (write :: wave) = settle (drive level write) wave := rfl

theorem settle_append (level : P → Bool) (wave wave' : List (P × Bool)) :
    settle level (wave ++ wave') = settle (settle level wave) wave' :=
  List.foldl_append

theorem drive_self (level : P → Bool) (write : P × Bool) :
    drive level write write.1 = write.2 := update_self ..

theorem drive_of_ne (level : P → Bool) {write : P × Bool} {p : P} (other : p ≠ write.1) :
    drive level write p = level p := update_of_ne other ..

/-- A pin that is not written keeps its level. -/
theorem settle_of_notMem {level : P → Bool} {wave : List (P × Bool)} {p : P}
    (other : ∀ write ∈ wave, write.1 ≠ p) : settle level wave p = level p := by
  induction wave generalizing level with
  | nil => rfl
  | cons write wave ih =>
      obtain ⟨first, rest⟩ := List.forall_mem_cons.mp other
      rw [settle_cons, ih rest, drive_of_ne level (Ne.symm first)]

theorem settle_concat (level : P → Bool) (wave : List (P × Bool)) (write : P × Bool) :
    settle level (wave ++ [write]) write.1 = write.2 := by
  rw [settle_append]
  exact drive_self _ write

/-- A waveform that writes to no pin twice leaves each where it wrote it. -/
theorem settle_of_nodup (level : P → Bool) {wave : List (P × Bool)}
    (once : (wave.map Prod.fst).Nodup) {write : P × Bool} (mem : write ∈ wave) :
    settle level wave write.1 = write.2 := by
  induction wave generalizing level with
  | nil => cases mem
  | cons first wave ih =>
      obtain ⟨apart, rest⟩ := List.nodup_cons.mp once
      rcases List.mem_cons.mp mem with rfl | mem
      · have later : ∀ write' ∈ wave, write'.1 ≠ write.1 :=
          fun write' mem' same => apart (same ▸ List.mem_map_of_mem mem')
        rw [settle_cons, settle_of_notMem later]
        exact drive_self level write
      · exact ih (drive level first) rest mem

end Waveform

/-! ## Chips -/

/-- What the latch line does: the chip follows its shift register while the line is high, or
loads it when the line rises. -/
inductive Latch where
  | level
  | edge
  deriving DecidableEq, Repr

def Latch.loads : Latch → Bool → Bool → Bool
  | .level, _, new => new
  | .edge, old, new => !old && new

structure Chip where
  latch : Latch
  width : Nat

/-- The bits shifted in, the newest first, and those the chip holds. -/
structure Register where
  shifted : List Bool
  held : List Bool

structure Lines where
  data : Bool
  clk : Bool
  latch : Bool

def Chip.next (chip : Chip) (r : Register) (old new : Lines) : Register :=
  let shifted :=
    if new.latch = false ∧ old.clk = false ∧ new.clk = true then new.data :: r.shifted
    else r.shifted
  { shifted := shifted
    held := if chip.latch.loads old.latch new.latch then shifted.take chip.width else r.held }

/-- The pins a chip is wired to. -/
structure Wiring (P : Type) where
  data : P
  clk : P
  latch : P
  data_ne_clk : data ≠ clk
  data_ne_latch : data ≠ latch
  clk_ne_latch : clk ≠ latch

def Wiring.lines {P : Type} (w : Wiring P) (level : P → Bool) : Lines :=
  ⟨level w.data, level w.clk, level w.latch⟩

section Follow

variable {P : Type} [DecidableEq P] (chip : Chip) (w : Wiring P)

/-- What a waveform makes of the chip, from the levels it begins with. -/
def Chip.follow : (P → Bool) → Register → List (P × Bool) → Register
  | _, r, [] => r
  | level, r, write :: wave =>
      follow (drive level write) (chip.next r (w.lines level) (w.lines (drive level write))) wave

theorem follow_append (level : P → Bool) (r : Register) (wave wave' : List (P × Bool)) :
    chip.follow w level r (wave ++ wave') =
      chip.follow w (settle level wave) (chip.follow w level r wave) wave' := by
  induction wave generalizing level r with
  | nil => rfl
  | cons write wave ih => exact ih _ _

/-- A chip with its latch line at rest: low, if the chip follows its level. -/
def Chip.Resting (level : P → Bool) : Prop := chip.latch = .level → level w.latch = false

/-- A waveform that leaves its latch line alone does not change what a resting chip holds. -/
theorem follow_held {level : P → Bool} {r : Register} {wave : List (P × Bool)}
    (rests : chip.Resting w level) (other : ∀ write ∈ wave, write.1 ≠ w.latch) :
    (chip.follow w level r wave).held = r.held := by
  induction wave generalizing level r with
  | nil => rfl
  | cons write wave ih =>
      obtain ⟨first, rest⟩ := List.forall_mem_cons.mp other
      have same : drive level write w.latch = level w.latch := drive_of_ne level (Ne.symm first)
      have rests' : chip.Resting w (drive level write) := fun kind => same.trans (rests kind)
      have still : chip.latch.loads (level w.latch) (drive level write w.latch) = false := by
        rw [same]
        cases kind : chip.latch with
        | level => exact rests kind
        | edge => simp [Latch.loads]
      rw [Chip.follow, ih rests' rest]
      show (if chip.latch.loads (level w.latch) (drive level write w.latch) = true then _
        else _) = _
      rw [still]
      rfl

/-! ## Transfers -/

/-- The writes that clock a bit in. -/
def Wiring.bit (b : Bool) : List (P × Bool) := [(w.data, b), (w.clk, true), (w.clk, false)]

/-- The writes that put a word into the chip, the bit to be shifted furthest first. -/
def Wiring.transfer (bits : List Bool) : List (P × Bool) :=
  [(w.latch, false), (w.clk, false)] ++ bits.flatMap w.bit ++ [(w.latch, true)]

/-- The chip takes the next rising edge of the clock for a bit. -/
structure Wiring.Ready (level : P → Bool) : Prop where
  latch : level w.latch = false
  clk : level w.clk = false

variable {w}

theorem settle_open (level : P → Bool) :
    w.Ready (settle level [(w.latch, false), (w.clk, false)]) := by
  have apart := w.clk_ne_latch
  constructor
  · simp [drive, apart.symm]
  · simp [drive]

theorem Wiring.Ready.bit {level : P → Bool} (ready : w.Ready level) (b : Bool) :
    w.Ready (settle level (w.bit b)) := by
  have apart := w.clk_ne_latch
  have beside := w.data_ne_latch
  constructor
  · simp [Wiring.bit, drive, apart.symm, beside.symm, ready.latch]
  · simp [Wiring.bit, drive]

theorem follow_bit {level : P → Bool} (ready : w.Ready level) (r : Register) (b : Bool) :
    (chip.follow w level r (w.bit b)).shifted = b :: r.shifted := by
  have apart := w.clk_ne_latch
  have beside := w.data_ne_latch
  have across := w.data_ne_clk
  simp [Wiring.bit, Chip.follow, Chip.next, Wiring.lines, drive, apart.symm, beside.symm, across,
    across.symm, ready.latch, ready.clk]

theorem Wiring.Ready.bits {level : P → Bool} (ready : w.Ready level) (bits : List Bool) :
    w.Ready (settle level (bits.flatMap w.bit)) := by
  induction bits generalizing level with
  | nil => exact ready
  | cons b bits ih =>
      rw [List.flatMap_cons, settle_append]
      exact ih (ready.bit b)

theorem follow_bits {level : P → Bool} (ready : w.Ready level) (r : Register) (bits : List Bool) :
    (chip.follow w level r (bits.flatMap w.bit)).shifted = bits.reverse ++ r.shifted := by
  induction bits generalizing level r with
  | nil => rfl
  | cons b bits ih =>
      rw [List.flatMap_cons, follow_append, ih (ready.bit b), follow_bit chip ready,
        List.reverse_cons, List.append_assoc]
      rfl

theorem follow_close {level : P → Bool} (ready : w.Ready level) (r : Register) :
    (chip.follow w level r [(w.latch, true)]).held = r.shifted.take chip.width := by
  cases kind : chip.latch with
  | level => simp [Chip.follow, Chip.next, Wiring.lines, drive, Latch.loads, kind]
  | edge => simp [Chip.follow, Chip.next, Wiring.lines, drive, Latch.loads, kind, ready.latch]

theorem follow_lower (level : P → Bool) (r : Register) :
    (chip.follow w level r [(w.latch, false)]).held = r.held := by
  cases kind : chip.latch with
  | level => simp [Chip.follow, Chip.next, Wiring.lines, drive, Latch.loads, kind]
  | edge => simp [Chip.follow, Chip.next, Wiring.lines, drive, Latch.loads, kind]

omit [DecidableEq P] in
/-- A transfer writes to the lines of its chip. -/
theorem transfer_pins {bits : List Bool} {write : P × Bool} (mem : write ∈ w.transfer bits) :
    write.1 = w.data ∨ write.1 = w.clk ∨ write.1 = w.latch := by
  simp only [Wiring.transfer, Wiring.bit, List.mem_append, List.mem_cons, List.mem_flatMap,
    List.not_mem_nil, or_false] at mem
  rcases mem with ((rfl | rfl) | ⟨b, _, rfl | rfl | rfl⟩) | rfl <;> simp

/-- A transfer of as many bits as the chip has leaves it with these bits, whatever it was and
whatever had passed through its shift register. -/
theorem follow_transfer (level : P → Bool) (r : Register) {bits : List Bool}
    (all : bits.length = chip.width) :
    (chip.follow w level r (w.transfer bits)).held = bits.reverse := by
  have opened : w.Ready (settle level [(w.latch, false), (w.clk, false)]) := settle_open level
  have last := opened.bits bits
  rw [← settle_append] at last
  rw [Wiring.transfer, follow_append, follow_close chip last, follow_append,
    follow_bits chip opened, ← all, ← List.length_reverse, List.take_left]

end Follow

end SerialBus
