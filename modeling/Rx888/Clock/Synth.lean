import Rx888.Clock.Retune
import Rx888.Device.Bench
import Mathlib.Data.Nat.Log
import Mathlib.Tactic.FieldSimp
import Mathlib.Tactic.Linarith
import Mathlib.Tactic.NormNum
import Mathlib.Tactic.Ring

/-! # The synthesizer's arithmetic

A frequency is doubled until it reaches a megahertz; PLL A then runs at its greatest even
multiple up to 900 MHz, rounded down to a step of 27 MHz / 1048575, and MultiSynth 0 and the
output divider bring it back. Over the range of the chip's fields the driver's words hold these
numbers without wrapping.
-/

namespace Rx888

open CallProgram

/-! ## The request's numbers -/

/-- The doublings that bring a frequency to a megahertz. -/
def doublings (freq : Nat) : Nat := Nat.clog 2 ((1000000 + freq - 1) / freq)

def fundamental (freq : Nat) : Nat := freq * 2 ^ doublings freq

theorem doublings_le_iff {freq : Nat} (pos : 0 < freq) (k : Nat) :
    doublings freq ≤ k ↔ 1000000 ≤ freq * 2 ^ k := by
  unfold doublings
  rw [Nat.clog_le_iff_le_pow (by omega), Nat.div_le_iff_le_mul_add_pred pos]
  omega

theorem fundamental_ge {freq : Nat} (pos : 0 < freq) : 1000000 ≤ fundamental freq :=
  (doublings_le_iff pos _).mp (Nat.le_refl _)

theorem fundamental_lt {freq : Nat} (pos : 0 < freq) (doubled : doublings freq ≠ 0) :
    fundamental freq < 2000000 := by
  have before : ¬ doublings freq ≤ doublings freq - 1 := by omega
  rw [doublings_le_iff pos] at before
  have step : 2 ^ doublings freq = 2 * 2 ^ (doublings freq - 1) := by
    rw [← Nat.pow_succ']
    congr 1
    omega
  unfold fundamental
  rw [step, Nat.mul_left_comm]
  omega

theorem fundamental_of_le {freq : Nat} (high : 1000000 ≤ freq) : fundamental freq = freq := by
  have none : doublings freq ≤ 0 := (doublings_le_iff (by omega) 0).mpr (by omega)
  rw [fundamental, Nat.le_zero.mp none]
  omega

theorem doublings_le (freq : Nat) (pos : 0 < freq) : doublings freq ≤ 20 := by
  rw [doublings_le_iff pos]
  omega

/-- Seven doublings suffice from 7813 Hz on. -/
theorem doublings_le_seven {freq : Nat} (pos : 0 < freq) : doublings freq ≤ 7 ↔ 7813 ≤ freq := by
  rw [doublings_le_iff pos]
  omega

/-! ## The driver's words -/

theorem doublings_double {freq : Nat} (pos : 0 < freq) (low : freq < 1000000) :
    doublings freq = doublings (2 * freq) + 1 := by
  have first : ¬ doublings freq ≤ 0 := by
    rw [doublings_le_iff pos]
    omega
  have shift (k : Nat) : doublings freq ≤ k + 1 ↔ doublings (2 * freq) ≤ k := by
    rw [doublings_le_iff pos, doublings_le_iff (by omega), Nat.pow_succ]
    have same : freq * (2 ^ k * 2) = 2 * freq * 2 ^ k := by ring
    rw [same]
  have upper := (shift (doublings (2 * freq))).mpr (Nat.le_refl _)
  have lower := (shift (doublings freq - 1)).mp (by omega)
  omega

/-- The loop doubles until a megahertz is reached, and counts the doublings. -/
theorem scaleFrequency_toNat {rounds : Nat} {f r : UInt32} (pos : 0 < f.toNat)
    (enough : doublings f.toNat ≤ rounds) (room : r.toNat + 16 * rounds < 2 ^ 32) :
    (scaleFrequency rounds f r).1.toNat = fundamental f.toNat ∧
      (scaleFrequency rounds f r).2.toNat = r.toNat + 16 * doublings f.toNat := by
  induction rounds generalizing f r with
  | zero =>
      have none : doublings f.toNat = 0 := by omega
      simp [scaleFrequency, fundamental, none]
  | succ rounds ih =>
      have million : f < 1000000 ↔ f.toNat < 1000000 := UInt32.lt_iff_toNat_lt
      unfold scaleFrequency
      by_cases low : f < 1000000
      · rw [if_pos low]
        have low' := million.mp low
        have doubled : (f * 2).toNat = 2 * f.toNat := by
          rw [UInt32.toNat_mul]
          show f.toNat * 2 % 2 ^ 32 = _
          omega
        have coded : (r + siRDiv2).toNat = r.toNat + 16 := by
          rw [UInt32.toNat_add]
          show (r.toNat + 16) % 2 ^ 32 = _
          omega
        have fewer := doublings_double pos low'
        have next := ih (f := f * 2) (r := r + siRDiv2) (by omega) (by rw [doubled]; omega)
          (by omega)
        rw [doubled, coded] at next
        rw [next.1, next.2, fundamental, fundamental, fewer, Nat.pow_succ]
        constructor
        · ring
        · omega
      · rw [if_neg low]
        rw [million] at low
        have high : 1000000 ≤ f.toNat := by omega
        have none : doublings f.toNat ≤ 0 := (doublings_le_iff pos 0).mpr (by omega)
        rw [fundamental_of_le high]
        constructor
        · rfl
        · show r.toNat = _
          omega

/-- The words of the request: the frequency doubled, and the output divider's code. -/
def scaled (freq : UInt32) : UInt32 × UInt32 := scaleFrequency 20 freq siRDiv1

theorem retuning_eq (freq : UInt32) : retuning freq =
    [(siSynthPllA, pllBlock (synthSetup (scaled freq).1)),
      (siSynthMs0, multisynthBlock (synthSetup (scaled freq).1) (scaled freq).2.toUInt8),
      (siPllReset, [0x20]), (siClk0Control, [0x4F ||| siClkSrcPllA])] := rfl

theorem scaled_toNat {freq : UInt32} (pos : 0 < freq.toNat) :
    (scaled freq).1.toNat = fundamental freq.toNat ∧
      (scaled freq).2.toNat = 16 * doublings freq.toNat := by
  have enough := doublings_le freq.toNat pos
  have words := scaleFrequency_toNat (r := siRDiv1) pos enough (by decide)
  rw [show siRDiv1.toNat = 0 from rfl, Nat.zero_add] at words
  exact words

/-- The greatest even multiple of `f` up to 900 MHz. -/
def evenMultiple (f : Nat) : Nat := 900000000 - 900000000 % (2 * f)

theorem evenMultiple_eq (f : Nat) : evenMultiple f = 2 * (450000000 / f) * f := by
  have halves : 900000000 / (2 * f) = 450000000 / f :=
    Nat.mul_div_mul_left 450000000 f (show 0 < 2 by omega)
  have whole := Nat.div_add_mod 900000000 (2 * f)
  rw [halves, Nat.mul_assoc, Nat.mul_comm f, ← Nat.mul_assoc] at whole
  unfold evenMultiple
  omega

theorem evenMultiple_le (f : Nat) : evenMultiple f ≤ 900000000 := Nat.sub_le _ _

section Setup

variable (f : UInt32)

theorem divider_toNat : (synthSetup f).divider.toNat = 2 * (450000000 / f.toNat) := by
  have quotient : (900000000 / f).toNat = 900000000 / f.toNat := UInt32.toNat_div _ _
  have rest : (900000000 / f % 2).toNat = 900000000 / f.toNat % 2 := by
    rw [UInt32.toNat_mod, quotient]
    rfl
  have half : 900000000 / f.toNat / 2 = 450000000 / f.toNat := by
    rw [Nat.div_div_eq_div_mul, Nat.mul_comm]
    exact Nat.mul_div_mul_left 450000000 f.toNat (show 0 < 2 by omega)
  show (if 900000000 / f % 2 ≠ 0 then 900000000 / f - 1 else 900000000 / f).toNat = _
  have odd : 900000000 / f % 2 ≠ 0 ↔ 900000000 / f.toNat % 2 ≠ 0 := by
    rw [ne_eq, ← UInt32.toNat_inj, rest]
    rfl
  split
  next h =>
    rw [odd] at h
    have some : (1 : UInt32) ≤ 900000000 / f := by
      rw [UInt32.le_iff_toNat_le, quotient]
      show 1 ≤ _
      omega
    rw [UInt32.toNat_sub_of_le _ _ some, quotient]
    show _ - 1 = _
    omega
  next h =>
    rw [odd] at h
    rw [quotient]
    omega

/-- The PLL's frequency fits its word. -/
theorem pllFreq_toNat : ((synthSetup f).divider * f).toNat = evenMultiple f.toNat := by
  have exact : (synthSetup f).divider.toNat * f.toNat = evenMultiple f.toNat := by
    rw [divider_toNat, evenMultiple_eq]
  have bound := evenMultiple_le f.toNat
  rw [UInt32.toNat_mul, exact]
  omega

theorem mult_toNat : (synthSetup f).mult.toNat = evenMultiple f.toNat / 27000000 := by
  have bound := evenMultiple_le f.toNat
  show ((synthSetup f).divider * f / si5351Freq).toUInt8.toNat = _
  rw [UInt32.toNat_toUInt8, UInt32.toNat_div, pllFreq_toNat]
  show evenMultiple f.toNat / 27000000 % 2 ^ 8 = _
  omega

theorem num_toNat :
    (synthSetup f).num.toNat = evenMultiple f.toNat % 27000000 * 1048575 / 27000000 := by
  have l : ((synthSetup f).divider * f % si5351Freq).toNat = evenMultiple f.toNat % 27000000 := by
    rw [UInt32.toNat_mod, pllFreq_toNat]
    rfl
  show ((((synthSetup f).divider * f % si5351Freq).toUInt64 * 1048575 /
    si5351Freq.toUInt64).toUInt32).toNat = _
  rw [UInt64.toNat_toUInt32, UInt64.toNat_div, UInt64.toNat_mul, UInt32.toNat_toUInt64, l]
  show evenMultiple f.toNat % 27000000 * 1048575 % 2 ^ 64 / 27000000 % 2 ^ 32 = _
  have rest : evenMultiple f.toNat % 27000000 < 27000000 := Nat.mod_lt _ (by omega)
  have product : evenMultiple f.toNat % 27000000 * 1048575 < 2 ^ 64 := by omega
  rw [Nat.mod_eq_of_lt product]
  omega

theorem num_lt : (synthSetup f).num.toNat < 1048575 := by
  have rest : evenMultiple f.toNat % 27000000 < 27000000 := Nat.mod_lt _ (by omega)
  rw [num_toNat]
  omega

end Setup

theorem fundamental_le_iff {freq bound : Nat} (pos : 0 < freq) (high : 2000000 ≤ bound) :
    fundamental freq ≤ bound ↔ freq ≤ bound := by
  by_cases none : doublings freq = 0
  · rw [fundamental, none]
    omega
  · have small := fundamental_lt pos none
    have below : ¬ 1000000 ≤ freq := by
      intro large
      have zero := (doublings_le_iff pos 0).mpr (by omega)
      omega
    omega

theorem four_le_divider_iff {f : Nat} (pos : 0 < f) :
    4 ≤ 2 * (450000000 / f) ↔ f ≤ 225000000 := by
  have quotient : 2 ≤ 450000000 / f ↔ 2 * f ≤ 450000000 := Nat.le_div_iff_mul_le pos
  omega

/-! ## The fields of the chip -/

/-- What is left of `P1` before its offset of 512 comes off. -/
def SynthSetup.p1Sum (setup : SynthSetup) : Nat :=
  128 * setup.mult.toNat + 128 * setup.num.toNat / setup.denom.toNat

/-- The fraction adds less than one whole step of the multiplier. -/
theorem p1Sum_bounds (f : UInt32) :
    128 * (synthSetup f).mult.toNat ≤ (synthSetup f).p1Sum ∧
      (synthSetup f).p1Sum < 128 * (synthSetup f).mult.toNat + 128 := by
  have num := num_lt f
  have denom : (synthSetup f).denom.toNat = 1048575 := rfl
  unfold SynthSetup.p1Sum
  rw [denom]
  omega

/-- The arithmetic of a request stays within the chip's fields. -/
structure InFields (freq : UInt32) : Prop where
  divider : 4 ≤ (synthSetup (scaled freq).1).divider.toNat
  multisynth : 512 ≤ 128 * (synthSetup (scaled freq).1).divider.toNat
  pll : 512 ≤ (synthSetup (scaled freq).1).p1Sum
  mult : 15 ≤ (synthSetup (scaled freq).1).mult.toNat ∧
    (synthSetup (scaled freq).1).mult.toNat ≤ 90
  p1 : (synthSetup (scaled freq).1).p1Sum - 512 < 2 ^ 18
  outputDivider : ∃ code < 8, (scaled freq).2.toNat = 16 * code

/-- The requests whose arithmetic stays within the fields are those from 7813 Hz to 225 MHz. -/
theorem inFields_iff {freq : UInt32} (pos : 0 < freq.toNat) :
    InFields freq ↔ 7813 ≤ freq.toNat ∧ freq.toNat ≤ 225000000 := by
  have words := scaled_toNat pos
  have ground := fundamental_ge pos
  have seven := doublings_le_seven pos
  have top := fundamental_le_iff pos (show 2000000 ≤ 225000000 by omega)
  have four := four_le_divider_iff (show 0 < fundamental freq.toNat by omega)
  have divider := divider_toNat (scaled freq).1
  rw [words.1] at divider
  constructor
  · intro fields
    have code := fields.outputDivider
    have wide := fields.divider
    constructor
    · apply seven.mp
      obtain ⟨k, small, same⟩ := code
      omega
    · omega
  · intro range
    have mult := mult_toNat (scaled freq).1
    have sum := p1Sum_bounds (scaled freq).1
    have rest : 900000000 % (2 * fundamental freq.toNat) < 2 * fundamental freq.toNat :=
      Nat.mod_lt _ (by omega)
    rw [words.1, evenMultiple] at mult
    constructor
    · omega
    · omega
    · omega
    · omega
    · omega
    · exact ⟨doublings freq.toNat, by omega, words.2⟩

/-! ## Requests out of range -/

/-- An error, and nothing stored in the chip. -/
def Refused (tr : List FwCall) (status : ReturnStatus) : Prop :=
  status ≠ cyU3PSuccess ∧
    ∀ regs parts regs', Evolves regs (clockTransfers tr) parts regs' → regs' = regs

/-- On a bus where every transfer is acknowledged a request goes through. -/
theorem exists_tuned {freq : UInt32} (nonzero : freq ≠ 0) (w : World) :
    ∃ tr w', Runs sdk (si5351aSetFrequencyA freq) w tr cyU3PSuccess w' := by
  have runs := exec_runs sdk Bench.idle.answer 0 (si5351aSetFrequencyA freq) w
    (exec_allowed Bench.idle.allowed 0 _ _)
  have ok : ((si5351aSetFrequencyA freq).exec sdk Bench.idle.answer 0 w).2.1 = cyU3PSuccess := by
    unfold si5351aSetFrequencyA
    rw [if_neg nonzero]
    rfl
  rw [ok] at runs
  exact ⟨_, _, runs⟩

/-- Whatever the bus does, a request is refused or its arithmetic stays within the fields. -/
def Ranged (freq : UInt32) : Prop :=
  ∀ w tr status w', Runs sdk (si5351aSetFrequencyA freq) w tr status w' →
    Refused tr status ∨ InFields freq

theorem inFields_of_ranged {freq : UInt32} (nonzero : freq ≠ 0) (ranged : Ranged freq) :
    InFields freq := by
  obtain ⟨tr, w', runs⟩ := exists_tuned nonzero powerUp
  rcases ranged powerUp tr cyU3PSuccess w' runs with refused | fields
  · exact absurd rfl refused.1
  · exact fields

/-- There is no check of the request: it is safe just from 7813 Hz to 225 MHz. -/
theorem ranged_iff {freq : UInt32} (nonzero : freq ≠ 0) :
    Ranged freq ↔ 7813 ≤ freq.toNat ∧ freq.toNat ≤ 225000000 := by
  have pos : 0 < freq.toNat := by
    have other : freq.toNat ≠ 0 := fun zero => nonzero (UInt32.toNat_inj.mp zero)
    omega
  rw [← inFields_iff pos]
  constructor
  · exact inFields_of_ranged nonzero
  · intro fields w tr status w' runs
    exact .inr fields

theorem ranged_iff_32MHz :
    Ranged 32000000 ↔ 7813 ≤ (32000000 : UInt32).toNat ∧ (32000000 : UInt32).toNat ≤ 225000000 :=
  ranged_iff (by decide)

/-- One hertz is accepted, with an output divider code that loses its ninth bit. -/
theorem ranged_one_hertz : ¬ Ranged 1 := by
  intro ranged
  have fields := inFields_of_ranged (by decide) ranged
  have range := (inFields_iff (by decide)).mp fields
  have low : (1 : UInt32).toNat = 1 := rfl
  omega

end Rx888
