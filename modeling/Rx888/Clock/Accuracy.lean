import Rx888.Clock.Synth

/-! # Accuracy of the sample clock

The registers `si5351aSetFrequencyA` writes, decoded by the chip's layout over the rationals:
from 7813 Hz to 150 MHz the output is the frequency asked for, less than one step of the PLL
below it. No 32-bit intermediate wraps on the way.
-/

namespace Rx888

open CallProgram

/-- PLL A at 27 MHz times `a + b/c`, the MultiSynth divider `d` and the output divider `r`. -/
structure ClockSetting where
  a : Nat
  b : Nat
  c : Nat
  d : Nat
  r : Nat
  deriving DecidableEq, Repr

namespace ClockSetting

def pllFreq (s : ClockSetting) : ℚ := 27000000 * (s.a + s.b / s.c)

def output (s : ClockSetting) : ℚ := s.pllFreq / (s.d * s.r)

/-- The blocks of PLL A and MultiSynth 0 hold the setting: the fields are those the encoding
asks for, they have room for them, and they decode to its numbers. -/
structure Encoded (s : ClockSetting) (pll ms : List UInt8) : Prop where
  p1 : (synthFields pll).p1 = 128 * s.a + 128 * s.b / s.c - 512
  p2 : (synthFields pll).p2 = 128 * s.b % s.c
  p3 : (synthFields pll).p3 = s.c
  msP1 : (synthFields ms).p1 = 128 * s.d - 512
  msP2 : (synthFields ms).p2 = 0
  p1Fits : 128 * s.a + 128 * s.b / s.c - 512 < 2 ^ 18
  p2Fits : 128 * s.b % s.c < 2 ^ 20
  msFits : 128 * s.d - 512 < 2 ^ 18
  multiplier : (synthFields pll).ratio = s.a + s.b / s.c
  divider : (synthFields ms).ratio = s.d
  outputDivider : (synthFields ms).outputDivider = s.r

/-- The setting is within the chip's ranges, and its output right to less than 26 Hz at the
PLL. -/
structure Accurate (s : ClockSetting) (freq : Nat) : Prop where
  r : ∃ k ≤ 7, s.r = 2 ^ k
  d : s.d % 2 = 0 ∧ 6 ≤ s.d ∧ s.d ≤ 900
  pll : 675000000 ≤ s.pllFreq ∧ s.pllFreq ≤ 900000000
  a : 25 ≤ s.a ∧ s.a ≤ 33
  b : s.b < s.c
  c : s.c = 1048575
  output : freq - 26 / (s.d * s.r : ℚ) < s.output ∧ s.output ≤ freq

end ClockSetting

/-- Every word of the computation holds the number it stands for. -/
structure NoWrap (freq : UInt32) : Prop where
  doubled : ∃ k, (scaled freq).1.toNat = freq.toNat * 2 ^ k ∧ (scaled freq).2.toNat = 16 * k
  product : (synthSetup (scaled freq).1).divider.toNat * (scaled freq).1.toNat < 2 ^ 32
  mult : ((synthSetup (scaled freq).1).divider * (scaled freq).1 / si5351Freq).toNat < 2 ^ 8
  fraction : ((synthSetup (scaled freq).1).divider * (scaled freq).1 % si5351Freq).toNat *
    1048575 < 2 ^ 64
  num : ((synthSetup (scaled freq).1).divider * (scaled freq).1 % si5351Freq).toNat *
    1048575 / 27000000 < 2 ^ 32
  multScaled : 128 * (synthSetup (scaled freq).1).mult.toNat < 2 ^ 32
  numScaled : 128 * (synthSetup (scaled freq).1).num.toNat < 2 ^ 32
  p1 : 512 ≤ (synthSetup (scaled freq).1).p1Sum ∧ (synthSetup (scaled freq).1).p1Sum < 2 ^ 32
  p2 : (synthSetup (scaled freq).1).denom.toNat *
      (128 * (synthSetup (scaled freq).1).num.toNat / (synthSetup (scaled freq).1).denom.toNat) ≤
    128 * (synthSetup (scaled freq).1).num.toNat
  multisynth : 512 ≤ 128 * (synthSetup (scaled freq).1).divider.toNat ∧
    128 * (synthSetup (scaled freq).1).divider.toNat < 2 ^ 32
  code : (scaled freq).2.toNat < 2 ^ 8

/-- What the runs for a frequency write: no other bytes in the two blocks, and both of them
when they report success, as they do when the chip acknowledges all that they send. -/
structure Programs (freq : UInt32) (pll ms : List UInt8) : Prop where
  only : ∀ w tr status w', Runs sdk (si5351aSetFrequencyA freq) w tr status w' →
    ∀ t ∈ clockTransfers tr,
      (t.reg = siSynthPllA → t.bytes = pll) ∧ (t.reg = siSynthMs0 → t.bytes = ms)
  sent : ∀ w tr w', Runs sdk (si5351aSetFrequencyA freq) w tr cyU3PSuccess w' →
    ⟨siSynthPllA, pll, cyU3PSuccess⟩ ∈ clockTransfers tr ∧
      ⟨siSynthMs0, ms, cyU3PSuccess⟩ ∈ clockTransfers tr
  both : ∀ w tr w', Runs sdk (si5351aSetFrequencyA freq) w tr cyU3PSuccess w' →
    ∀ regs parts regs', Evolves regs (clockTransfers tr) parts regs' →
      regs'.block siSynthPllA = pll ∧ regs'.block siSynthMs0 = ms
  succeeds : ∀ w tr status w', Runs sdk (si5351aSetFrequencyA freq) w tr status w' →
    (clockTransfers tr).all (·.status == cyU3PSuccess) = true → status = cyU3PSuccess
  runs : ∀ w, ∃ tr w', Runs sdk (si5351aSetFrequencyA freq) w tr cyU3PSuccess w'

/-! ## The blocks -/

section Blocks

variable (f : UInt32)

theorem numScaled_toNat : (128 * (synthSetup f).num).toNat = 128 * (synthSetup f).num.toNat := by
  have num := num_lt f
  rw [UInt32.toNat_mul]
  show 128 * _ % 2 ^ 32 = _
  omega

theorem p1Sum_toNat : (128 * (synthSetup f).mult.toUInt32 +
    128 * (synthSetup f).num / (synthSetup f).denom).toNat = (synthSetup f).p1Sum := by
  have mult := (synthSetup f).mult.toNat_lt
  have sum := p1Sum_bounds f
  have mult' : (128 * (synthSetup f).mult.toUInt32).toNat = 128 * (synthSetup f).mult.toNat := by
    rw [UInt32.toNat_mul, UInt8.toNat_toUInt32]
    show 128 * _ % 2 ^ 32 = _
    omega
  rw [UInt32.toNat_add, UInt32.toNat_div, mult', numScaled_toNat]
  show (synthSetup f).p1Sum % 2 ^ 32 = _
  omega

theorem p1_toNat (wide : 512 ≤ (synthSetup f).p1Sum) :
    (128 * (synthSetup f).mult.toUInt32 + 128 * (synthSetup f).num / (synthSetup f).denom -
      512).toNat = (synthSetup f).p1Sum - 512 := by
  have total := p1Sum_toNat f
  have offset : (512 : UInt32) ≤ 128 * (synthSetup f).mult.toUInt32 +
      128 * (synthSetup f).num / (synthSetup f).denom := by
    rw [UInt32.le_iff_toNat_le, total]
    exact wide
  rw [UInt32.toNat_sub_of_le _ _ offset, total]
  rfl

theorem p2_toNat : (128 * (synthSetup f).num - (synthSetup f).denom *
    (128 * (synthSetup f).num / (synthSetup f).denom)).toNat =
      128 * (synthSetup f).num.toNat % 1048575 := by
  have num := num_lt f
  have whole : ((synthSetup f).denom * (128 * (synthSetup f).num / (synthSetup f).denom)).toNat =
      1048575 * (128 * (synthSetup f).num.toNat / 1048575) := by
    rw [UInt32.toNat_mul, UInt32.toNat_div, numScaled_toNat]
    show 1048575 * (128 * _ / 1048575) % 2 ^ 32 = _
    omega
  have below : (synthSetup f).denom * (128 * (synthSetup f).num / (synthSetup f).denom) ≤
      128 * (synthSetup f).num := by
    rw [UInt32.le_iff_toNat_le, whole, numScaled_toNat]
    omega
  rw [UInt32.toNat_sub_of_le _ _ below, whole, numScaled_toNat]
  omega

theorem msP1_toNat (wide : 512 ≤ 128 * (synthSetup f).divider.toNat)
    (narrow : (synthSetup f).divider.toNat < 2 ^ 11) :
    (128 * (synthSetup f).divider - 512).toNat = 128 * (synthSetup f).divider.toNat - 512 := by
  have product : (128 * (synthSetup f).divider).toNat = 128 * (synthSetup f).divider.toNat := by
    rw [UInt32.toNat_mul]
    show 128 * _ % 2 ^ 32 = _
    omega
  have offset : (512 : UInt32) ≤ 128 * (synthSetup f).divider := by
    rw [UInt32.le_iff_toNat_le, product]
    exact wide
  rw [UInt32.toNat_sub_of_le _ _ offset, product]
  rfl

end Blocks

/-! ## The setting of a frequency -/

/-- `P1` and `P2` split `128 a + 128 b / c` into its whole part and the rest. -/
theorem ratio_of_steps {a b sum : Nat} (wide : 512 ≤ sum)
    (steps : sum = 128 * a + 128 * b / 1048575) :
    SynthFields.ratio ⟨sum - 512, 128 * b % 1048575, 1048575, 0⟩ =
      a + b / ((1048575 : Nat) : ℚ) := by
  have whole : ((1048575 * (128 * b / 1048575) + 128 * b % 1048575 : Nat) : ℚ) = 128 * b := by
    rw [Nat.div_add_mod]
    push_cast
    rfl
  have offset : ((sum - 512 : Nat) : ℚ) = 128 * a + (128 * b / 1048575 : Nat) - 512 := by
    rw [Nat.cast_sub wide, steps]
    push_cast
    rfl
  unfold SynthFields.ratio
  push_cast at whole
  rw [offset]
  push_cast
  field_simp
  linarith

theorem ratio_of_divider {d : Nat} (wide : 512 ≤ 128 * d) (code : Nat) :
    SynthFields.ratio ⟨128 * d - 512, 0, 1, code⟩ = d := by
  have offset : ((128 * d - 512 : Nat) : ℚ) = 128 * d - 512 := by
    rw [Nat.cast_sub wide]
    push_cast
    rfl
  unfold SynthFields.ratio
  rw [offset]
  push_cast
  field_simp
  ring

/-- A frequency in whole steps of 27 MHz / 1048575 falls short of it by less than 26 Hz. -/
theorem steps_bounds (v : Nat) :
    (v : ℚ) - 26 < 27000000 * ((v / 27000000 : Nat) +
        (v % 27000000 * 1048575 / 27000000 : Nat) / ((1048575 : Nat) : ℚ)) ∧
      27000000 * ((v / 27000000 : Nat) +
        (v % 27000000 * 1048575 / 27000000 : Nat) / ((1048575 : Nat) : ℚ)) ≤ (v : ℚ) := by
  have whole : ((27000000 * (v / 27000000) + v % 27000000 : Nat) : ℚ) = v := by
    rw [Nat.div_add_mod]
  have least : ((27000000 * (v % 27000000 * 1048575 / 27000000) : Nat) : ℚ) ≤
      (v % 27000000 * 1048575 : Nat) := Nat.cast_le.mpr (by omega)
  have most : ((v % 27000000 * 1048575 : Nat) : ℚ) <
      (27000000 * (v % 27000000 * 1048575 / 27000000) + 27000000 : Nat) :=
    Nat.cast_lt.mpr (by omega)
  push_cast at whole least most ⊢
  constructor
  · field_simp
    linarith
  · field_simp
    linarith

def settingOf (freq : UInt32) : ClockSetting where
  a := (synthSetup (scaled freq).1).mult.toNat
  b := (synthSetup (scaled freq).1).num.toNat
  c := 1048575
  d := (synthSetup (scaled freq).1).divider.toNat
  r := 2 ^ doublings freq.toNat

/-- The ranges of the words for a frequency the ADC can use. -/
structure Words (freq : UInt32) : Prop where
  doublings : doublings freq.toNat ≤ 7
  divider : 6 ≤ (synthSetup (scaled freq).1).divider.toNat ∧
    (synthSetup (scaled freq).1).divider.toNat ≤ 900
  even : (synthSetup (scaled freq).1).divider.toNat % 2 = 0
  product : (synthSetup (scaled freq).1).divider.toNat * fundamental freq.toNat ≤ 900000000
  mult : 25 ≤ (synthSetup (scaled freq).1).mult.toNat ∧
    (synthSetup (scaled freq).1).mult.toNat ≤ 33

section Words

variable {freq : UInt32} (low : 7813 ≤ freq.toNat) (high : freq.toNat ≤ 150000000)

include low high

theorem vco_ge : 675000000 ≤ evenMultiple (fundamental freq.toNat) := by
  have ground := fundamental_ge (show 0 < freq.toNat by omega)
  have top : fundamental freq.toNat ≤ 150000000 :=
    (fundamental_le_iff (by omega) (by omega)).mpr high
  by_cases fast : fundamental freq.toNat ≤ 112500000
  · have rest : 900000000 % (2 * fundamental freq.toNat) < 2 * fundamental freq.toNat :=
      Nat.mod_lt _ (by omega)
    unfold evenMultiple
    omega
  · have three : 450000000 / fundamental freq.toNat = 3 :=
      Nat.div_eq_of_lt_le (by omega) (by omega)
    rw [evenMultiple_eq, three]
    omega

theorem words_ranges : Words freq := by
  have pos : 0 < freq.toNat := by omega
  have words := scaled_toNat pos
  have ground := fundamental_ge pos
  have top : fundamental freq.toNat ≤ 150000000 := (fundamental_le_iff pos (by omega)).mpr high
  have few := (doublings_le_seven pos).mpr low
  have divider := divider_toNat (scaled freq).1
  have mult := mult_toNat (scaled freq).1
  have below := evenMultiple_le (fundamental freq.toNat)
  have above := vco_ge low high
  have least : 3 ≤ 450000000 / fundamental freq.toNat :=
    (Nat.le_div_iff_mul_le (by omega)).mpr (by omega)
  have most : 450000000 / fundamental freq.toNat ≤ 450 := by
    rw [Nat.div_le_iff_le_mul_add_pred (by omega)]
    omega
  have exact := evenMultiple_eq (fundamental freq.toNat)
  rw [words.1] at divider mult
  constructor
  · exact few
  · omega
  · omega
  · rw [divider]
    omega
  · omega

theorem noWrap : NoWrap freq := by
  have words := words_ranges low high
  have toNat := scaled_toNat (show 0 < freq.toNat by omega)
  have sum := p1Sum_bounds (scaled freq).1
  have num := num_lt (scaled freq).1
  have pll := pllFreq_toNat (scaled freq).1
  have below := evenMultiple_le (scaled freq).1.toNat
  have rest : ((synthSetup (scaled freq).1).divider * (scaled freq).1 % si5351Freq).toNat =
      evenMultiple (scaled freq).1.toNat % 27000000 := by
    rw [UInt32.toNat_mod, pll]
    rfl
  have quotient : ((synthSetup (scaled freq).1).divider * (scaled freq).1 / si5351Freq).toNat =
      evenMultiple (scaled freq).1.toNat / 27000000 := by
    rw [UInt32.toNat_div, pll]
    rfl
  have product := words.product
  have mult := words.mult
  have divider := words.divider
  have few := words.doublings
  constructor
  · exact ⟨doublings freq.toNat, toNat⟩
  · rw [toNat.1]
    omega
  · omega
  · omega
  · omega
  · omega
  · omega
  · omega
  · exact Nat.mul_div_le _ _
  · omega
  · omega

theorem pllFields : synthFields (pllBlock (synthSetup (scaled freq).1)) =
    ⟨(synthSetup (scaled freq).1).p1Sum - 512,
      128 * (synthSetup (scaled freq).1).num.toNat % 1048575, 1048575, 0⟩ := by
  have words := words_ranges low high
  have sum := p1Sum_bounds (scaled freq).1
  have mult := words.mult
  have p1 := p1_toNat (scaled freq).1 (by omega)
  have p2 := p2_toNat (scaled freq).1
  have p3 : (synthSetup (scaled freq).1).denom.toNat = 1048575 := rfl
  unfold pllBlock
  rw [synthFields_synthBytes, p1, p2, p3]
  · rfl
  · omega
  · omega
  · omega
  · rfl
  · decide

theorem multisynthFields :
    synthFields (multisynthBlock (synthSetup (scaled freq).1) (scaled freq).2.toUInt8) =
      ⟨128 * (synthSetup (scaled freq).1).divider.toNat - 512, 0, 1, doublings freq.toNat⟩ := by
  have words := words_ranges low high
  have toNat := scaled_toNat (show 0 < freq.toNat by omega)
  have few := words.doublings
  have divider := words.divider
  have p1 := msP1_toNat (scaled freq).1 (by omega) (by omega)
  have code : (scaled freq).2.toUInt8.toNat = 16 * doublings freq.toNat := by
    rw [UInt32.toNat_toUInt8, toNat.2]
    omega
  have shift : 16 * doublings freq.toNat / 16 = doublings freq.toNat := by omega
  unfold multisynthBlock
  rw [synthFields_synthBytes, p1, code, shift]
  · rfl
  · omega
  · decide
  · decide
  · omega
  · omega

theorem settingOf_encoded : (settingOf freq).Encoded (pllBlock (synthSetup (scaled freq).1))
    (multisynthBlock (synthSetup (scaled freq).1) (scaled freq).2.toUInt8) := by
  have words := words_ranges low high
  have sum := p1Sum_bounds (scaled freq).1
  have mult := words.mult
  have divider := words.divider
  have whole := Nat.div_add_mod (128 * (synthSetup (scaled freq).1).num.toNat) 1048575
  constructor
  · rw [pllFields low high]
    rfl
  · rw [pllFields low high]
    rfl
  · rw [pllFields low high]
    rfl
  · rw [multisynthFields low high]
    rfl
  · rw [multisynthFields low high]
  · show (synthSetup (scaled freq).1).p1Sum - 512 < _
    omega
  · show 128 * (synthSetup (scaled freq).1).num.toNat % 1048575 < _
    omega
  · show 128 * (synthSetup (scaled freq).1).divider.toNat - 512 < _
    omega
  · rw [pllFields low high]
    exact ratio_of_steps (by omega) rfl
  · rw [multisynthFields low high]
    exact ratio_of_divider (by omega) _
  · rw [multisynthFields low high]
    rfl

theorem settingOf_accurate : (settingOf freq).Accurate freq.toNat := by
  have pos : 0 < freq.toNat := by omega
  have words := words_ranges low high
  have toNat := scaled_toNat pos
  have mult := mult_toNat (scaled freq).1
  have num := num_toNat (scaled freq).1
  have divider := divider_toNat (scaled freq).1
  rw [toNat.1] at mult num divider
  have pll : (settingOf freq).pllFreq =
      27000000 * ((evenMultiple (fundamental freq.toNat) / 27000000 : Nat) +
        (evenMultiple (fundamental freq.toNat) % 27000000 * 1048575 / 27000000 : Nat) /
          ((1048575 : Nat) : ℚ)) := by
    show 27000000 * ((synthSetup (scaled freq).1).mult.toNat +
      (synthSetup (scaled freq).1).num.toNat / ((1048575 : Nat) : ℚ)) = _
    rw [mult, num]
  have bounds := steps_bounds (evenMultiple (fundamental freq.toNat))
  rw [← pll] at bounds
  have exact : (evenMultiple (fundamental freq.toNat) : ℚ) =
      freq.toNat * ((settingOf freq).d * (settingOf freq).r) := by
    have product : evenMultiple (fundamental freq.toNat) =
        freq.toNat * ((settingOf freq).d * (settingOf freq).r) := by
      rw [evenMultiple_eq, ← divider, fundamental]
      show _ = freq.toNat * ((synthSetup (scaled freq).1).divider.toNat * 2 ^ doublings freq.toNat)
      ring
    exact_mod_cast product
  have divides : (0 : ℚ) < (settingOf freq).d * (settingOf freq).r := by
    have d : 0 < (settingOf freq).d := by
      have least : 6 ≤ (settingOf freq).d := words.divider.1
      omega
    have r : 0 < (settingOf freq).r := Nat.two_pow_pos _
    exact_mod_cast Nat.mul_pos d r
  constructor
  · exact ⟨doublings freq.toNat, words.doublings, rfl⟩
  · exact ⟨words.even, words.divider⟩
  · constructor
    · have a : (25 : ℚ) ≤ (settingOf freq).a := by exact_mod_cast words.mult.1
      have b : (0 : ℚ) ≤ (settingOf freq).b / (settingOf freq).c :=
        div_nonneg (Nat.cast_nonneg _) (Nat.cast_nonneg _)
      unfold ClockSetting.pllFreq
      linarith
    · have most : (evenMultiple (fundamental freq.toNat) : ℚ) ≤ 900000000 := by
        exact_mod_cast evenMultiple_le _
      linarith
  · exact words.mult
  · exact num_lt _
  · rfl
  · unfold ClockSetting.output
    rw [exact] at bounds
    constructor
    · rw [lt_div_iff₀ divides, sub_mul, div_mul_cancel₀ _ (ne_of_gt divides)]
      exact bounds.1
    · rw [div_le_iff₀ divides]
      exact bounds.2

end Words

theorem programs_blocks {freq : UInt32} (nonzero : freq ≠ 0) :
    Programs freq (pllBlock (synthSetup (scaled freq).1))
      (multisynthBlock (synthSetup (scaled freq).1) (scaled freq).2.toUInt8) := by
  constructor
  · intro w tr status w' runs t ht
    have sent := runs.ensures (si5351aSetFrequencyA_sends nonzero)
    have written := sent.mem t ht
    simp only [retuning_eq, List.mem_cons, Prod.mk.injEq, List.not_mem_nil, or_false] at written
    rcases written with ⟨reg, bytes⟩ | ⟨reg, bytes⟩ | ⟨reg, bytes⟩ | ⟨reg, bytes⟩
    · simp [reg, bytes, siSynthPllA, siSynthMs0]
    · simp [reg, bytes, siSynthPllA, siSynthMs0]
    · simp [reg, siPllReset, siSynthPllA, siSynthMs0]
    · simp [reg, siClk0Control, siSynthPllA, siSynthMs0]
  · intro w tr w' runs
    have all := (runs.ensures (si5351aSetFrequencyA_sends nonzero)).mem_of_success rfl
    rw [retuning_eq] at all
    exact ⟨all _ List.mem_cons_self, all _ (List.mem_cons_of_mem _ List.mem_cons_self)⟩
  · intro w tr w' runs regs parts regs' evolves
    have stored := (runs.ensures (si5351aSetFrequencyA_sends nonzero)).fed_success rfl evolves
    rw [ClockRegs.fed_all, retuning_eq] at stored
    rw [stored]
    simp only [List.foldl_cons, List.foldl_nil]
    constructor
    · rw [ClockRegs.block_store_apart _ (by decide), ClockRegs.block_store_apart _ (by decide),
        ClockRegs.block_store_apart _ (by rw [multisynthBlock_length]; decide)]
      exact ClockRegs.block_store_all _ _ rfl
    · rw [ClockRegs.block_store_apart _ (by decide), ClockRegs.block_store_apart _ (by decide)]
      exact ClockRegs.block_store_all _ _ rfl
  · intro w tr status w' runs
    exact (runs.ensures (si5351aSetFrequencyA_sends nonzero)).all_acked
  · exact exists_tuned nonzero

/-- The sample clock is right to less than 26 Hz at the PLL, and below the frequency asked for:
the registers written decode to such a setting, and no word of the computation wraps. -/
theorem sampleClock_accurate {freq : UInt32} (low : 7813 ≤ freq.toNat)
    (high : freq.toNat ≤ 150000000) :
    NoWrap freq ∧ ∃ (pll ms : List UInt8) (s : ClockSetting),
      Programs freq pll ms ∧ s.Encoded pll ms ∧ s.Accurate freq.toNat := by
  have nonzero : freq ≠ 0 := by
    rintro rfl
    have none : (0 : UInt32).toNat = 0 := rfl
    omega
  exact ⟨noWrap low high, _, _, settingOf freq, programs_blocks nonzero,
    settingOf_encoded low high, settingOf_accurate low high⟩

def tunedTo32MHz : List FwCall × ReturnStatus × World :=
  (si5351aSetFrequencyA 32000000).exec sdk Bench.idle.answer 0 powerUp

theorem tunedTo32MHz_runs : Runs sdk (si5351aSetFrequencyA 32000000) powerUp tunedTo32MHz.1
    cyU3PSuccess tunedTo32MHz.2.2 := by
  have runs := exec_runs sdk Bench.idle.answer 0 (si5351aSetFrequencyA 32000000) powerUp
    (exec_allowed Bench.idle.allowed 0 _ _)
  have ok : ((si5351aSetFrequencyA 32000000).exec sdk Bench.idle.answer 0 powerUp).2.1 =
      cyU3PSuccess := by decide +kernel
  rw [ok] at runs
  exact runs

/-- The four writes of that run, as the chip gets them: a multiplier of 33 and 194180 of 1048575,
divided by 28. -/
theorem sampleClock_accurate_32MHz :
    (clockTransfers tunedTo32MHz.1).map (fun t => (t.reg, t.bytes)) =
        [(26, [255, 255, 0, 14, 151, 251, 66, 23]), (42, [0, 1, 0, 12, 0, 0, 0, 0]), (177, [0x20]),
          (16, [0x4F])] ∧
      NoWrap 32000000 ∧ ∃ (pll ms : List UInt8) (s : ClockSetting),
        ⟨26, pll, cyU3PSuccess⟩ ∈ clockTransfers tunedTo32MHz.1 ∧
          ⟨42, ms, cyU3PSuccess⟩ ∈ clockTransfers tunedTo32MHz.1 ∧
            Programs 32000000 pll ms ∧ s.Encoded pll ms ∧
              s.Accurate (32000000 : UInt32).toNat := by
  obtain ⟨noWrap, pll, ms, s, programs, encoded, accurate⟩ :=
    @sampleClock_accurate 32000000 (by decide) (by decide)
  obtain ⟨pllSent, msSent⟩ := programs.sent _ _ _ tunedTo32MHz_runs
  exact ⟨by decide +kernel, noWrap, pll, ms, s, pllSent, msSent, programs, encoded, accurate⟩

end Rx888
