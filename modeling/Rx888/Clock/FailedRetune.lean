import Rx888.Clock.Accuracy

/-! # A frequency change that fails

The four writes of a new frequency go to a clock that is running. A failed run leaves the first of
their bytes in the chip, with CLK0 as it was: when CLK0 is up this is safe only where the bytes
stored are those that the old configuration has too.
-/

namespace Rx888

open CallProgram

/-- The configuration of the two synthesizers, and whether CLK0 is powered down. -/
def ClockRegs.configuration (regs : ClockRegs) : SynthFields × SynthFields × Bool :=
  (synthFields (regs.block siSynthPllA), synthFields (regs.block siSynthMs0), regs.clk0Down)

/-- The whole of the earlier configuration is kept, or CLK0 is powered down, which the start gate
rejects. -/
def Safe (earlier later : ClockRegs) : Prop :=
  later.configuration = earlier.configuration ∨ later.clk0Down = true

/-! ## The start gate -/

/-- A read of register 16 is answered with what it holds. -/
def ClockRegs.truthful (regs : ClockRegs) : (c : Call) → c.Ans → Prop
  | .i2cReceiveBytes preamble _, .ok bytes =>
      preamble.buffer = [si5351Addr, siClk0Control, si5351Addr ||| 0x01] →
        bytes.toList.head? = some (regs siClk0Control)
  | _, _ => True

theorem i2cTransferRead_answers {reg count : UInt8} (any : count ≠ 0) {w : World} :
    (i2cTransferRead reg si5351Addr count).Ensures sdk (fun tr data _ =>
      ∃ answer : Except Failure (Vector UInt8 count.toNat),
        (⟨w, .i2cReceiveBytes ⟨[si5351Addr, reg, si5351Addr ||| 0x01], 0x0002⟩ count, answer⟩ :
          FwCall) ∈ tr ∧ data = answer.map Vector.toList) w := by
  unfold i2cTransferRead
  rw [if_neg any]
  intro answer _
  have counted : (countI2cFailure (statusOf answer)).Ensures sdk (fun _ _ _ => True)
      (sdk.exec w _ answer) := ensures_of_runs fun _ _ _ _ => trivial
  apply counted.bind
  intro tr _ w₁ _
  exact ⟨answer, List.mem_cons_self, rfl⟩

theorem si5351Clk0Enabled_of_clk0Down {regs : ClockRegs} (down : regs.clk0Down = true)
    {w : World} : si5351Clk0Enabled.Ensures sdk (fun tr enabled _ =>
      (∀ t ∈ tr, regs.truthful t.call t.ans) → enabled = false) w := by
  apply (i2cTransferRead_answers (by decide)).bind
  intro tr data w₁ ⟨answer, made, read⟩
  subst read
  cases answer with
  | error e => exact fun _ => rfl
  | ok bytes =>
      intro truthful
      have head : bytes.toList.head? = some (regs siClk0Control) :=
        truthful _ (List.mem_append_left _ made) rfl
      show ((bytes.toList.headD 0xFF &&& 0x80) == 0) = false
      rw [List.headD_eq_head?_getD, head]
      exact beq_eq_false_iff_ne.mpr (bne_iff_ne.mp down)

/-- With CLK0 powered down nothing starts. -/
theorem gpifPreflightCheck_of_clk0Down {regs : ClockRegs} (down : regs.clk0Down = true)
    {w w' : World} {tr : List FwCall} {ok : Bool} (runs : Runs sdk gpifPreflightCheck w tr ok w')
    (truthful : ∀ t ∈ tr, regs.truthful t.call t.ans) : ok = false := by
  have rejected : gpifPreflightCheck.Ensures sdk (fun tr ok _ =>
      (∀ t ∈ tr, regs.truthful t.call t.ans) → ok = false) w := by
    apply (si5351Clk0Enabled_of_clk0Down down).bind
    intro tr enabled w₁ off
    cases enabled with
    | false =>
        have printed : (debugPrint "\r\nPreflight FAIL: ADC clock not enabled" []).Ensures sdk
            (fun _ _ _ => True) w₁ := ensures_of_runs fun _ _ _ _ => trivial
        apply printed.bind
        intro _ _ _ _ _
        rfl
    | true =>
        apply ensures_of_runs
        intro tr' ok w' _ truthful
        have none := off (fun t ht => truthful t (List.mem_append_left _ ht))
        exact absurd none (by decide)
  exact runs.ensures rejected truthful

/-! ## Settings -/

/-- The PLL's steps of 27 MHz / 1048575 for a frequency: 900 MHz less the remainder on twice the
frequency brought up to a megahertz, in whole steps. -/
def vcoSteps (freq : Nat) : Nat := evenMultiple (fundamental freq) * 1048575 / 27000000

def pllSetting (freq : Nat) : SynthFields where
  p1 := (128 * vcoSteps freq / 1048575 + 2 ^ 18 - 512) % 2 ^ 18
  p2 := 128 * vcoSteps freq % 1048575
  p3 := 1048575
  rCode := 0

def multisynthSetting (freq : Nat) : SynthFields where
  p1 := (256 * (450000000 / fundamental freq) + 2 ^ 18 - 512) % 2 ^ 18
  p2 := 0
  p3 := 1
  rCode := doublings freq % 8

theorem steps_eq (freq : UInt32) : (synthSetup (scaled freq).1).mult.toNat * 1048575 +
    (synthSetup (scaled freq).1).num.toNat =
      evenMultiple (scaled freq).1.toNat * 1048575 / 27000000 := by
  have mult := mult_toNat (scaled freq).1
  have num := num_toNat (scaled freq).1
  omega

/-- `P1` and `P2` are the quotient and the remainder of 128 times the steps. -/
theorem quotient_rest_steps (m n : Nat) :
    128 * (m * 1048575 + n) / 1048575 = 128 * m + 128 * n / 1048575 ∧
      128 * (m * 1048575 + n) % 1048575 = 128 * n % 1048575 := by
  have split := Nat.div_add_mod (128 * n) 1048575
  omega

/-- An offset that wraps round a word comes off in a field of 18 bits. -/
theorem sub_offset_mod (x : UInt32) :
    (x - 512).toNat % 2 ^ 18 = (x.toNat + 2 ^ 18 - 512) % 2 ^ 18 := by
  rw [UInt32.toNat_sub]
  show (2 ^ 32 - 512 + x.toNat) % 2 ^ 32 % 2 ^ 18 = _
  omega

/-- Whatever the frequency, the fields of the two blocks are its settings. -/
theorem pllFields_eq {freq : UInt32} (nonzero : freq ≠ 0) :
    synthFields (pllBlock (synthSetup (scaled freq).1)) = pllSetting freq.toNat := by
  have pos : 0 < freq.toNat := Nat.pos_of_ne_zero fun zero => nonzero (UInt32.toNat_inj.mp zero)
  have steps := steps_eq freq
  have denom : (synthSetup (scaled freq).1).denom.toNat = 1048575 := rfl
  rw [(scaled_toNat pos).1] at steps
  have sum : (synthSetup (scaled freq).1).p1Sum = 128 * vcoSteps freq.toNat / 1048575 := by
    unfold vcoSteps SynthSetup.p1Sum
    rw [← steps, (quotient_rest_steps _ _).1, denom]
  have rest : 128 * (synthSetup (scaled freq).1).num.toNat % 1048575 =
      128 * vcoSteps freq.toNat % 1048575 := by
    unfold vcoSteps
    rw [← steps, (quotient_rest_steps _ _).2]
  have p2 := p2_toNat (scaled freq).1
  have small : 128 * vcoSteps freq.toNat % 1048575 < 1048575 := Nat.mod_lt _ (by decide)
  unfold pllBlock pllSetting
  rw [synthFields_synthBytes_mod _ _ _ (by decide), sub_offset_mod, p1Sum_toNat, sum, p2, rest,
    Nat.mod_eq_of_lt (Nat.lt_trans small (by decide)), denom]
  congr 1

theorem multisynthFields_eq {freq : UInt32} (nonzero : freq ≠ 0) :
    synthFields (multisynthBlock (synthSetup (scaled freq).1) (scaled freq).2.toUInt8) =
      multisynthSetting freq.toNat := by
  have pos : 0 < freq.toNat := Nat.pos_of_ne_zero fun zero => nonzero (UInt32.toNat_inj.mp zero)
  have words := scaled_toNat pos
  have ground := fundamental_ge pos
  have divider := divider_toNat (scaled freq).1
  rw [words.1] at divider
  have most : 450000000 / fundamental freq.toNat ≤ 450 := by
    rw [Nat.div_le_iff_le_mul_add_pred (by omega)]
    omega
  have product : (128 * (synthSetup (scaled freq).1).divider).toNat =
      256 * (450000000 / fundamental freq.toNat) := by
    rw [UInt32.toNat_mul, divider]
    show 128 * _ % 2 ^ 32 = _
    omega
  have code : (scaled freq).2.toUInt8.toNat = 16 * doublings freq.toNat % 256 := by
    rw [UInt32.toNat_toUInt8, words.2]
  unfold multisynthBlock multisynthSetting
  rw [synthFields_synthBytes_mod _ _ _ (by omega), sub_offset_mod, product, code]
  congr 1
  omega

/-! ## Bytes of a block -/

/-- The fields by the bytes of the block, without the bits that belong to none. -/
def SynthFields.digits (f : SynthFields) : List Nat :=
  [f.p3 / 256 % 256, f.p3 % 256, 4 * f.rCode + f.p1 / 65536, f.p1 / 256 % 256, f.p1 % 256,
    16 * (f.p3 / 65536) + f.p2 / 65536, f.p2 / 256 % 256, f.p2 % 256]

/-- The settings are alike as far as the first `stored` bytes of their blocks go. -/
def AlikeTo (stored : Nat) (f g : SynthFields) : Prop := f.digits.take stored = g.digits.take stored

instance (stored : Nat) (f g : SynthFields) : Decidable (AlikeTo stored f g) :=
  inferInstanceAs (Decidable (_ = _))

theorem digits_synthFields (a b c d e f g h : UInt8) :
    (synthFields [a, b, c, d, e, f, g, h]).digits =
      [a.toNat, b.toNat, 4 * (c.toNat / 16 % 8) + c.toNat % 4, d.toNat, e.toNat, f.toNat, g.toNat,
        h.toNat] := by
  have ha := a.toNat_lt
  have hb := b.toNat_lt
  have hd := d.toNat_lt
  have he := e.toNat_lt
  have hf := f.toNat_lt
  have hg := g.toNat_lt
  have hh := h.toNat_lt
  simp only [SynthFields.digits, synthFields, List.getD_cons_zero, List.getD_cons_succ,
    List.cons.injEq, and_true]
  omega

theorem digits_inj {f g : SynthFields} (small : f.p1 < 2 ^ 18 ∧ f.p2 < 2 ^ 20)
    (small' : g.p1 < 2 ^ 18 ∧ g.p2 < 2 ^ 20) : f.digits = g.digits ↔ f = g := by
  constructor
  · intro same
    obtain ⟨p1, p2, p3, rCode⟩ := f
    obtain ⟨p1', p2', p3', rCode'⟩ := g
    simp only [SynthFields.digits, List.cons.injEq, and_true] at same
    simp only [SynthFields.mk.injEq]
    simp only at small small'
    omega
  · rintro rfl
    rfl

theorem synthFields_small (bytes : List UInt8) :
    (synthFields bytes).p1 < 2 ^ 18 ∧ (synthFields bytes).p2 < 2 ^ 20 := by
  have high (i : Nat) : (bytes.getD i 0).toNat < 256 := UInt8.toNat_lt _
  have h3 := high 3
  have h4 := high 4
  have h6 := high 6
  have h7 := high 7
  simp only [synthFields]
  omega

theorem eight_bytes {bytes : List UInt8} (eight : bytes.length = 8) :
    ∃ a b c d e f g h, bytes = [a, b, c, d, e, f, g, h] := by
  match bytes, eight with
  | [a, b, c, d, e, f, g, h], _ => exact ⟨a, b, c, d, e, f, g, h, rfl⟩

/-- A block whose first bytes are replaced holds the old setting where the new one is like it. -/
theorem synthFields_take_drop {old new : List UInt8} (eightOld : old.length = 8)
    (eightNew : new.length = 8) (stored : Nat) :
    synthFields (new.take stored ++ old.drop stored) = synthFields old ↔
      AlikeTo stored (synthFields new) (synthFields old) := by
  rw [← digits_inj (synthFields_small _) (synthFields_small _), AlikeTo]
  obtain ⟨a, b, c, d, e, f, g, h, rfl⟩ := eight_bytes eightOld
  obtain ⟨a', b', c', d', e', f', g', h', rfl⟩ := eight_bytes eightNew
  rw [digits_synthFields, digits_synthFields]
  rcases stored with _ | _ | _ | _ | _ | _ | _ | _ | n
  all_goals
    simp only [List.take_succ_cons, List.take_zero, List.drop_succ_cons, List.drop_zero,
      List.take_nil, List.drop_nil, List.cons_append, List.nil_append, digits_synthFields,
      List.cons.injEq, and_true]

/-! ## The registers after a failure -/

abbrev ClockRegs.retuned (regs : ClockRegs) (freq : UInt32) (n : Nat) : ClockRegs :=
  regs.fed (retuning freq) n

section Retuned

variable (regs : ClockRegs) (freq : UInt32) (n : Nat)

theorem retuned_eq : regs.retuned freq n =
    (((regs.store siSynthPllA ((pllBlock (synthSetup (scaled freq).1)).take n)).store siSynthMs0
      ((multisynthBlock (synthSetup (scaled freq).1) (scaled freq).2.toUInt8).take (n - 8))).store
        siPllReset ([0x20].take (n - 8 - 8))).store siClk0Control ([0x4F].take (n - 8 - 8 - 1)) :=
  rfl

theorem block_store_take_apart {block reg : UInt8} {bytes : List UInt8} (k : Nat)
    (apart : ∀ i < 8, bytes.length ≤ (block + UInt8.ofNat i - reg).toNat) :
    (regs.store reg (bytes.take k)).block block = regs.block block :=
  ClockRegs.block_store_apart regs fun i inBlock =>
    Nat.le_trans (List.length_take_le' _ _) (apart i inBlock)

theorem block_store_take {reg : UInt8} {bytes : List UInt8} (eight : bytes.length = 8) (k : Nat) :
    (regs.store reg (bytes.take k)).block reg = bytes.take k ++ (regs.block reg).drop k := by
  have whole : (regs.block reg).length = 8 := by simp [ClockRegs.block]
  have most : (bytes.take k).length ≤ 8 := eight ▸ List.length_take_le' _ _
  rw [ClockRegs.block_store _ _ most, List.length_take, eight]
  congr 1
  by_cases few : k ≤ 8
  · rw [Nat.min_eq_left few]
  · rw [Nat.min_eq_right (by omega), List.drop_eq_nil_of_le (by omega),
      List.drop_eq_nil_of_le (by omega)]

theorem retuned_pll : (regs.retuned freq n).block siSynthPllA =
    (pllBlock (synthSetup (scaled freq).1)).take n ++ (regs.block siSynthPllA).drop n := by
  rw [retuned_eq, block_store_take_apart _ _ (by decide), block_store_take_apart _ _ (by decide),
    block_store_take_apart _ _ (by rw [multisynthBlock_length]; decide)]
  exact block_store_take regs (pllBlock_length _) n

theorem retuned_multisynth : (regs.retuned freq n).block siSynthMs0 =
    (multisynthBlock (synthSetup (scaled freq).1) (scaled freq).2.toUInt8).take (n - 8) ++
      (regs.block siSynthMs0).drop (n - 8) := by
  rw [retuned_eq, block_store_take_apart _ _ (by decide), block_store_take_apart _ _ (by decide),
    block_store_take _ (multisynthBlock_length _ _),
    block_store_take_apart regs _ (by rw [pllBlock_length]; decide)]

theorem retuned_clk0 : (regs.retuned freq n) siClk0Control =
    if n < 18 then regs siClk0Control else 0x4F := by
  have apart (regs : ClockRegs) (reg : UInt8) (bytes : List UInt8) (k : Nat)
      (far : bytes.length ≤ (siClk0Control - reg).toNat) :
      regs.store reg (bytes.take k) siClk0Control = regs siClk0Control :=
    ClockRegs.store_apart regs (Nat.le_trans (List.length_take_le' _ _) far)
  rw [retuned_eq]
  by_cases few : n < 18
  · rw [if_pos few, show n - 8 - 8 - 1 = 0 by omega, List.take_zero, ClockRegs.store_nil,
      apart _ siPllReset _ _ (by decide),
      apart _ siSynthMs0 _ _ (by rw [multisynthBlock_length]; decide),
      apart _ siSynthPllA _ _ (by rw [pllBlock_length]; decide)]
  · obtain ⟨k, some⟩ : ∃ k, n - 8 - 8 - 1 = k + 1 := ⟨n - 18, by omega⟩
    rw [if_neg few, some]
    rfl

end Retuned

/-- The chip as a successful request for `freq` leaves it. -/
structure ClockRegs.Tuned (regs : ClockRegs) (freq : UInt32) : Prop where
  pll : regs.block siSynthPllA = pllBlock (synthSetup (scaled freq).1)
  multisynth : regs.block siSynthMs0 =
    multisynthBlock (synthSetup (scaled freq).1) (scaled freq).2.toUInt8
  up : regs siClk0Control = 0x4F

section Successful

variable {freq : UInt32} {w w' : World} {tr : List FwCall} {regs regs' : ClockRegs}
  {parts : List Nat}

theorem tuned_of_success (nonzero : freq ≠ 0)
    (runs : Runs sdk (si5351aSetFrequencyA freq) w tr cyU3PSuccess w')
    (evolves : Evolves regs (clockTransfers tr) parts regs') : regs'.Tuned freq := by
  have blocks := (programs_blocks nonzero).both w tr w' runs regs parts regs' evolves
  have whole := (runs.ensures (si5351aSetFrequencyA_sends nonzero)).fed_success rfl evolves
  constructor
  · exact blocks.1
  · exact blocks.2
  · rw [whole]
    exact retuned_clk0 regs freq 18

theorem switchOff_sends (w : World) :
    (si5351aSetFrequencyA 0).Ensures sdk (fun tr status _ =>
      clockTransfers tr = [⟨siClk0Control, [0x80], status⟩]) w := by
  unfold si5351aSetFrequencyA i2cTransferW1
  rw [if_pos rfl]
  exact i2cTransferWrite_sends siClk0Control 1 [0x80] (by decide)

theorem clk0Down_of_switchOff {regs regs' : ClockRegs} {parts : List Nat}
    (evolves : Evolves regs [⟨siClk0Control, [0x80], cyU3PSuccess⟩] parts regs') :
    regs'.clk0Down = true := by
  cases evolves with
  | failed stored most failed rest => exact absurd rfl failed
  | acked ok rest =>
      cases rest
      have stored : regs.store siClk0Control [0x80] siClk0Control = 0x80 := rfl
      unfold ClockRegs.clk0Down
      rw [stored]
      rfl

end Successful

/-- With the clock set for `old`, a failure is harmless when as much as was stored of the new
setting is in the old one too; with CLK0 off, when the last byte was not stored. -/
def HarmlessFailure (old new stored : Nat) : Prop :=
  if old = 0 then stored < 18
  else AlikeTo stored (pllSetting new) (pllSetting old) ∧
    AlikeTo (stored - 8) (multisynthSetting new) (multisynthSetting old)

theorem safe_retuned_off {regs : ClockRegs} (off : regs.clk0Down = true) (new : UInt32) (n : Nat) :
    Safe regs (regs.retuned new n) ↔ n < 18 := by
  have down : (regs.retuned new n).clk0Down = decide (n < 18) := by
    unfold ClockRegs.clk0Down at off ⊢
    rw [retuned_clk0]
    by_cases few : n < 18
    · rw [if_pos few, off, decide_eq_true few]
    · rw [if_neg few, decide_eq_false few]
      rfl
  unfold Safe ClockRegs.configuration
  rw [down, off]
  simp

theorem safe_retuned_on {old new : UInt32} (nonzeroOld : old ≠ 0) (nonzeroNew : new ≠ 0)
    {regs : ClockRegs} (tuned : regs.Tuned old) (n : Nat) :
    Safe regs (regs.retuned new n) ↔
      AlikeTo n (pllSetting new.toNat) (pllSetting old.toNat) ∧
        AlikeTo (n - 8) (multisynthSetting new.toNat) (multisynthSetting old.toNat) := by
  have up : (regs.retuned new n).clk0Down = regs.clk0Down ∧ regs.clk0Down = false := by
    unfold ClockRegs.clk0Down
    rw [retuned_clk0, tuned.up, ite_self]
    exact ⟨rfl, rfl⟩
  unfold Safe ClockRegs.configuration
  rw [up.1, up.2, retuned_pll, retuned_multisynth, tuned.pll, tuned.multisynth, Prod.mk.injEq,
    Prod.mk.injEq, synthFields_take_drop (pllBlock_length _) (pllBlock_length _),
    synthFields_take_drop (multisynthBlock_length _ _) (multisynthBlock_length _ _),
    pllFields_eq nonzeroOld, pllFields_eq nonzeroNew, multisynthFields_eq nonzeroOld,
    multisynthFields_eq nonzeroNew]
  simp

/-- After a failed change of frequency the old configuration is complete, or CLK0 off, just when
the chip has stored no byte that the new frequency needs and the old one does not have. With CLK0
off nothing starts. -/
theorem failed_retune_safe_iff {old new : UInt32} (nonzero : new ≠ 0) {w₀ w₁ w w' : World}
    {tr₀ tr : List FwCall} {status : ReturnStatus}
    (tuned : Runs sdk (si5351aSetFrequencyA old) w₀ tr₀ cyU3PSuccess w₁)
    (runs : Runs sdk (si5351aSetFrequencyA new) w tr status w')
    {start before later : ClockRegs} {parts₀ parts : List Nat}
    (set : Evolves start (clockTransfers tr₀) parts₀ before)
    (evolves : Evolves before (clockTransfers tr) parts later) :
    (Safe before later ↔ HarmlessFailure old.toNat new.toNat parts.sum) ∧
      (later.clk0Down = true → ∀ w tr ok w', Runs sdk gpifPreflightCheck w tr ok w' →
        (∀ t ∈ tr, later.truthful t.call t.ans) → ok = false) := by
  have stored := (runs.ensures (si5351aSetFrequencyA_sends nonzero)).fed evolves
  constructor
  · rw [stored]
    unfold HarmlessFailure
    by_cases zero : old = 0
    · subst zero
      rw [tuned.ensures (switchOff_sends w₀)] at set
      rw [if_pos (show (0 : UInt32).toNat = 0 from rfl)]
      exact safe_retuned_off (clk0Down_of_switchOff set) new parts.sum
    · have apart : ¬old.toNat = 0 := fun same => zero (UInt32.toNat_inj.mp same)
      rw [if_neg apart]
      exact safe_retuned_on zero nonzero (tuned_of_success zero tuned set) parts.sum
  · intro down w tr ok w' preflight truthful
    exact gpifPreflightCheck_of_clk0Down down preflight truthful

/-! ## A divider that is not acknowledged -/

/-- The bus that acknowledges all but MultiSynth 0. -/
def refusingMs0 (n : Nat) : (c : Call) → c.Ans
  | .i2cTransmitBytes preamble _ =>
      if preamble.buffer = [si5351Addr, siSynthMs0] then (1 : UInt32) else cyU3PSuccess
  | c => Bench.idle.answer n c

theorem refusingMs0_allowed (w : World) (n : Nat) (c : Call) :
    sdk.allows w c (refusingMs0 n c) := by
  cases c with
  | debugPrint fmt args =>
      intro bytes h
      cases h
  | _ => trivial

def failedAt50MHz : List FwCall × ReturnStatus × World :=
  (si5351aSetFrequencyA 50000000).exec sdk refusingMs0 0 tunedTo32MHz.2.2

theorem failedAt50MHz_runs : Runs sdk (si5351aSetFrequencyA 50000000) tunedTo32MHz.2.2
    failedAt50MHz.1 1 failedAt50MHz.2.2 := by
  have runs := exec_runs sdk refusingMs0 0 (si5351aSetFrequencyA 50000000) tunedTo32MHz.2.2
    (exec_allowed refusingMs0_allowed 0 _ _)
  have failed : ((si5351aSetFrequencyA 50000000).exec sdk refusingMs0 0 tunedTo32MHz.2.2).2.1 =
      1 := by decide +kernel
  rw [failed] at runs
  exact runs

/-- The chip set for 32 MHz from all zeros. -/
def setFor32MHz : ClockRegs := ClockRegs.retuned (fun _ => 0) 32000000 18

theorem setFor32MHz_evolves : Evolves (fun _ => 0) (clockTransfers tunedTo32MHz.1)
    ((clockTransfers tunedTo32MHz.1).map fun t => t.bytes.length) setFor32MHz := by
  have acked : (clockTransfers tunedTo32MHz.1).all (·.status == cyU3PSuccess) = true := by
    decide +kernel
  have stored := Evolves.of_acked acked fun _ => 0
  rwa [(tunedTo32MHz_runs.ensures (si5351aSetFrequencyA_sends (by decide))).fed_success rfl
    stored] at stored

theorem failedAt50MHz_evolves (regs : ClockRegs) : Evolves regs (clockTransfers failedAt50MHz.1)
    [8, 0] (regs.retuned 50000000 8) := by
  have sent : clockTransfers failedAt50MHz.1 =
      [⟨26, [255, 255, 0, 14, 170, 250, 170, 170], 0⟩, ⟨42, [0, 1, 0, 7, 0, 0, 0, 0], 1⟩] := by
    decide +kernel
  rw [sent]
  exact .acked rfl (.failed 0 (by decide) (by decide) .nil)

/-- CLK0 switched off by a frequency of zero, on a chip of all zeros. -/
def switchedOff : ClockRegs := ClockRegs.store (fun _ => 0) siClk0Control [0x80]

theorem switchedOff_runs : ∃ tr w', Runs sdk (si5351aSetFrequencyA 0) powerUp tr cyU3PSuccess w' ∧
    Evolves (fun _ => 0) (clockTransfers tr) [1] switchedOff := by
  have runs := exec_runs sdk Bench.idle.answer 0 (si5351aSetFrequencyA 0) powerUp
    (exec_allowed Bench.idle.allowed 0 _ _)
  have ok : ((si5351aSetFrequencyA 0).exec sdk Bench.idle.answer 0 powerUp).2.1 =
      cyU3PSuccess := by decide +kernel
  rw [ok] at runs
  refine ⟨_, _, runs, ?_⟩
  rw [runs.ensures (switchOff_sends powerUp)]
  exact .acked rfl .nil

/-- The refusal at 50 MHz with the clock set for 32 MHz, and with CLK0 off. -/
theorem failed_retune_safe_iff_50MHz :
    (Safe setFor32MHz (setFor32MHz.retuned 50000000 8) ↔ HarmlessFailure 32000000 50000000 8) ∧
      (Safe switchedOff (switchedOff.retuned 50000000 8) ↔ HarmlessFailure 0 50000000 8) ∧
        ∀ w tr ok w', Runs sdk gpifPreflightCheck w tr ok w' →
          (∀ t ∈ tr, (switchedOff.retuned 50000000 8).truthful t.call t.ans) → ok = false := by
  obtain ⟨tr, w', off, cleared⟩ := switchedOff_runs
  have set := @failed_retune_safe_iff 32000000 50000000 (by decide) _ _ _ _ _ _ _ tunedTo32MHz_runs
    failedAt50MHz_runs _ _ _ _ _ setFor32MHz_evolves (failedAt50MHz_evolves setFor32MHz)
  have unset := @failed_retune_safe_iff 0 50000000 (by decide) _ _ _ _ _ _ _ off
    failedAt50MHz_runs _ _ _ _ _ cleared (failedAt50MHz_evolves switchedOff)
  have down : (switchedOff.retuned 50000000 8).clk0Down = true := by
    unfold ClockRegs.clk0Down
    rw [retuned_clk0, if_pos (by decide)]
    rfl
  exact ⟨set.1, unset.1, unset.2 down⟩

/-- The PLL is then set for 50 MHz and the divider for 32 MHz, with CLK0 up. -/
theorem failed_retune_mixture : ∃ (tr₀ tr : List FwCall) (w₀ w₁ w' : World) (status : ReturnStatus)
    (parts : List Nat) (start before later : ClockRegs),
    Runs sdk (si5351aSetFrequencyA 32000000) w₀ tr₀ cyU3PSuccess w₁ ∧
      Runs sdk (si5351aSetFrequencyA 50000000) w₁ tr status w' ∧ status ≠ cyU3PSuccess ∧
        Evolves start (clockTransfers tr₀) parts before ∧
          Evolves before (clockTransfers tr) [8, 0] later ∧ ¬ Safe before later := by
  refine ⟨_, _, _, _, _, _, _, _, _, _, tunedTo32MHz_runs, failedAt50MHz_runs, by decide,
    setFor32MHz_evolves, failedAt50MHz_evolves setFor32MHz, ?_⟩
  have tuned := tuned_of_success (by decide) tunedTo32MHz_runs setFor32MHz_evolves
  rw [safe_retuned_on (by decide) (by decide) tuned]
  rintro ⟨alike, -⟩
  have apart : ¬ AlikeTo 8 (pllSetting 50000000) (pllSetting 32000000) := by
    unfold pllSetting vcoSteps
    rw [fundamental_of_le (by omega), fundamental_of_le (by omega)]
    decide
  exact apart alike

end Rx888
