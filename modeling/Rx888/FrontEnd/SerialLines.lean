import Rx888.FrontEnd.Steps
import Rx888.Device.Bench
import Mathlib.Data.Nat.Bitwise

/-! # Attenuator and gain

The PE4304 and the AD8370 share the data and the clock. The PE4304 follows its shift register
while ATT_LE is high, the AD8370 loads on the rising edge of VGA_LE.
-/

namespace Rx888

open CallProgram SerialBus

def pe4304 : Chip := ⟨.level, 6⟩

def ad8370 : Chip := ⟨.edge, 8⟩

/-! ## The bits of a value -/

theorem topBit_and (value mask : UInt8) {i : Nat} (bit : mask.toNat = 2 ^ i) :
    ((value &&& mask) != 0) = value.toNat.testBit i := by
  have zero : value &&& mask = 0 ↔ value.toNat.testBit i = false := by
    rw [← UInt8.toNat_inj, UInt8.toNat_and, bit, Nat.and_two_pow]
    cases value.toNat.testBit i <;> simp
  cases level : value.toNat.testBit i with
  | false => simp [zero.mpr level]
  | true =>
      have set : value &&& mask ≠ 0 := fun none => by simp [zero.mp none] at level
      simp [set]

/-- Shifting the value brings its next bit up. -/
theorem shiftLeft_testBit (value : UInt8) {i : Nat} (positive : 0 < i) (small : i < 8) :
    (value <<< 1).toNat.testBit i = value.toNat.testBit (i - 1) := by
  have shifted : (value <<< 1).toNat = value.toNat <<< 1 % 2 ^ 8 := by
    rw [UInt8.toNat_shiftLeft]
    rfl
  rw [shifted, Nat.testBit_mod_two_pow, Nat.testBit_shiftLeft]
  simp [small, Nat.succ_le_of_lt positive]

/-- The bits go out from the top of `width` on. -/
theorem shiftedBits_reverse {width : Nat} (mask : UInt8) (top : mask.toNat = 2 ^ (width - 1))
    (small : width ≤ 8) (bits : Nat) (value : UInt8) (fits : bits ≤ width) :
    (shiftedBits mask bits value).reverse =
      (List.range bits).map fun k => value.toNat.testBit (width - bits + k) := by
  induction bits generalizing value with
  | zero => rfl
  | succ bits ih =>
      have rest := ih (value <<< 1) (by omega)
      have next : (List.range bits).map (fun k => (value <<< 1).toNat.testBit (width - bits + k)) =
          (List.range bits).map fun k => value.toNat.testBit (width - (bits + 1) + k) := by
        apply List.map_congr_left
        intro k mem
        have below : k < bits := List.mem_range.mp mem
        rw [shiftLeft_testBit value (by omega) (by omega)]
        congr 1
        omega
      rw [shiftedBits, List.reverse_cons, rest, next, List.range_succ, List.map_append,
        topBit_and value mask top]
      congr 3
      omega

theorem shiftedBits_word {width : Nat} (mask : UInt8) (top : mask.toNat = 2 ^ (width - 1))
    (small : width ≤ 8) (value : UInt8) :
    word (shiftedBits mask width value).reverse = value.toNat % 2 ^ width := by
  rw [shiftedBits_reverse mask top small width value (Nat.le_refl _), Nat.sub_self]
  simp only [Nat.zero_add]
  exact word_testBit width value.toNat

theorem shiftedBits_length (mask : UInt8) (bits : Nat) (value : UInt8) :
    (shiftedBits mask bits value).length = bits := by
  induction bits generalizing value with
  | zero => rfl
  | succ bits ih => rw [shiftedBits, List.length_cons, ih]

/-! ## One chip's transfer -/

theorem attWave_held (level : UInt8 → Bool) (r : Register) (value : UInt8) :
    word (pe4304.follow attWiring level r (attWave value)).held = value.toNat % 64 := by
  rw [attWave, follow_append]
  have lowered := follow_lower (w := attWiring) pe4304
    (settle level (attWiring.transfer (shiftedBits (topBit 6) 6 value)))
    (pe4304.follow attWiring level r (attWiring.transfer (shiftedBits (topBit 6) 6 value)))
  rw [show (gpioAttLe, false) = (attWiring.latch, false) from rfl, lowered,
    follow_transfer pe4304 level r (shiftedBits_length _ 6 value)]
  exact shiftedBits_word (topBit 6) (by decide) (by decide) value

theorem gainWave_held (level : UInt8 → Bool) (r : Register) (value : UInt8) :
    word (ad8370.follow vgaWiring level r (gainWave value)).held = value.toNat % 256 := by
  have rest : ad8370.Resting vgaWiring
      (settle level (vgaWiring.transfer (shiftedBits (topBit 8) 8 value))) := by
    intro level
    cases level
  have other : ∀ write ∈ [(gpioAttData, false)], write.1 ≠ vgaWiring.latch :=
    List.forall_mem_singleton.mpr (by decide)
  rw [gainWave, follow_append, follow_held ad8370 vgaWiring rest other,
    follow_transfer ad8370 level r (shiftedBits_length _ 8 value)]
  exact shiftedBits_word (topBit 8) (by decide) (by decide) value

theorem attWave_pins {value : UInt8} {write : UInt8 × Bool} (mem : write ∈ attWave value) :
    write.1 ≠ gpioVgaLe := by
  rcases List.mem_append.mp mem with transferred | lowered
  · rcases transfer_pins transferred with pin | pin | pin <;> rw [pin] <;> decide
  · rw [List.mem_singleton.mp lowered]
    decide

theorem gainWave_pins {value : UInt8} {write : UInt8 × Bool} (mem : write ∈ gainWave value) :
    write.1 ≠ gpioAttLe := by
  rcases List.mem_append.mp mem with transferred | cleared
  · rcases transfer_pins transferred with pin | pin | pin <;> rw [pin] <;> decide
  · rw [List.mem_singleton.mp cleared]
    decide

theorem attWave_idle (level : UInt8 → Bool) (value : UInt8) :
    settle level (attWave value) gpioAttLe = false :=
  settle_concat level _ (gpioAttLe, false)

theorem gainWave_idle (level : UInt8 → Bool) (value : UInt8) :
    settle level (gainWave value) gpioVgaLe = true := by
  have other : ∀ write ∈ [(gpioAttData, false)], write.1 ≠ gpioVgaLe :=
    List.forall_mem_singleton.mpr (by decide)
  rw [gainWave, settle_append, settle_of_notMem other]
  exact settle_concat level _ (gpioVgaLe, true)

/-! ## Runs -/

/-- The argument a SETARGFX3 request sets, and the value. -/
def FrontAct.setArg? (a : FrontAct) : Option (ArgumentList × UInt16) :=
  match a.command? with
  | some (s, .setargfx3) => (ArgumentList.ofIndex? s.wIndex).map (·, s.wValue)
  | _ => none

structure Settings where
  att : Option UInt16
  gain : Option UInt16
  deriving DecidableEq, Repr

/-- What a step makes of the settings; from a reset to the initialization there are none. -/
def settingsAfter (g : Option Settings) (t : frontEnd.Step) : Option Settings :=
  if resetsDevice t then none
  else
    match t.act with
    | .gpioInitialize => some { att := none, gain := none }
    | a =>
        match a.setArg? with
        | some (.dat31Att, value) => g.map fun g => { g with att := some value }
        | some (.ad8370Vga, value) => g.map fun g => { g with gain := some value }
        | _ => g

structure SerialTrack where
  settings : Option Settings
  att : Register
  vga : Register

/-- A step's waveform reaches both chips. -/
def SerialTrack.after (x : SerialTrack) (t : frontEnd.Step) : SerialTrack where
  settings := settingsAfter x.settings t
  att := pe4304.follow attWiring t.before.env.gpio x.att (waveform t.trace)
  vga := ad8370.follow vgaWiring t.before.env.gpio x.vga (waveform t.trace)

/-- The latch lines are idle, and each chip that has been set holds its last value. -/
structure SerialTrack.Exact (x : SerialTrack) (g : Settings) (w : World) : Prop where
  attLe : w.env.gpio gpioAttLe = false
  vgaLe : w.env.gpio gpioVgaLe = true
  att : ∀ value, g.att = some value → word x.att.held = value.toNat % 64
  gain : ∀ value, g.gain = some value → word x.vga.held = value.toNat % 256

def controlPins : List UInt8 :=
  [gpioShdwn, gpioDith, gpioRando, gpioBiasHf, gpioBiasVhf, gpioLedBlue, gpioPga, gpioVhfEn]

section Runs

variable {t : frontEnd.Step} {x : SerialTrack} {g : Settings}

theorem serial_initialized (initial : t.act = .gpioInitialize) (ok : setsSucceed t) :
    t.after.env.gpio gpioAttLe = false ∧ t.after.env.gpio gpioVgaLe = true := by
  obtain ⟨before, wave⟩ := initialize_wave initial ok
  rw [step_levels, wave, settle_append]
  constructor <;> rfl

theorem gpiofx3_onPins (s : Setup) : Waves setSucceeds (OnPins controlPins) (gpiofx3 s) := by
  have receives : Makes offPins (getEP0Data s.wLength) := by simp
  have pins (mdata : UInt32) : OnPins controlPins (controlWave mdata) := by
    intro write mem
    have same : (controlWave mdata).map Prod.fst = controlPins := rfl
    rw [← same]
    exact List.mem_map_of_mem mem
  have sets (mdata : UInt32) : Waves setSucceeds (OnPins controlPins) (rx888r2GpioSet mdata) :=
    (rx888r2GpioSet_waves mdata).mono fun wave same => by rw [same]; exact pins mdata
  unfold gpiofx3
  apply OnPins.bind (Makes.off receives)
  intro status
  apply waves_ite
  · intro _
    apply OnPins.bind (Makes.off (by simp))
    intro m
    exact OnPins.bind (sets _) fun _ => waves_pure _ (onPins_nil _)
  · exact fun _ => waves_pure _ (onPins_nil _)

/-- A step that sets neither writes to the pins of the control word only. -/
theorem control_wave (up : resetsDevice t = false) (initial : t.act ≠ .gpioInitialize)
    (ok : setsSucceed t) (att : ∀ value, t.act.setArg? ≠ some (.dat31Att, value))
    (gain : ∀ value, t.act.setArg? ≠ some (.ad8370Vga, value)) :
    OnPins controlPins (waveform t.trace) := by
  by_cases gpio : ∃ s, t.act.command? = some (s, .gpiofx3)
  · obtain ⟨s, command⟩ := gpio
    exact command_wave command (gpiofx3_onPins s) ok
  by_cases set : ∃ s, t.act.command? = some (s, .setargfx3)
  · obtain ⟨s, command⟩ := set
    have named : t.act.setArg? = (ArgumentList.ofIndex? s.wIndex).map (·, s.wValue) := by
      unfold FrontAct.setArg?
      rw [command]
    rw [setArg_wave command ok]
    rcases argument : ArgumentList.ofIndex? s.wIndex with _ | argument'
    · exact onPins_nil _
    · rw [argument] at named
      cases argument' with
      | dat31Att => exact absurd named (att s.wValue)
      | ad8370Vga => exact absurd named (gain s.wValue)
      | wdgMaxRecov => exact onPins_nil _
      | wdgResetEscalate => exact onPins_nil _
  · have wave := standby_wave ok up initial fun s c command =>
      ⟨fun same => gpio ⟨s, same ▸ command⟩, fun same => set ⟨s, same ▸ command⟩⟩
    rw [wave]
    intro write mem
    obtain ⟨standby, -, rfl⟩ := Option.map_eq_some_iff.mp (Option.mem_toList.mp mem)
    exact List.mem_cons_self

/-- The waveform of a step that sets the attenuator or the gain. -/
theorem setArg?_wave {argument : ArgumentList} {value : UInt16}
    (set : t.act.setArg? = some (argument, value)) (ok : setsSucceed t) :
    waveform t.trace = setArgWave (some argument) value.toUInt8 := by
  unfold FrontAct.setArg? at set
  split at set
  next s command =>
    obtain ⟨argument', named, same⟩ := Option.map_eq_some_iff.mp set
    cases same
    rw [setArg_wave command ok, named]
  next => cases set

theorem toUInt8_mod (value : UInt16) {n : Nat} (divides : n ∣ 256) :
    value.toUInt8.toNat % n = value.toNat % n := by
  rw [UInt16.toNat_toUInt8]
  exact Nat.mod_mod_of_dvd value.toNat divides

/-- A waveform that leaves its latch line alone changes nothing of what the PE4304 holds. -/
theorem SerialTrack.Exact.att_held (exact_ : x.Exact g t.before)
    (other : ∀ write ∈ waveform t.trace, write.1 ≠ gpioAttLe) :
    (x.after t).att.held = x.att.held :=
  follow_held pe4304 attWiring (fun _ => exact_.attLe) other

theorem vga_held (x : SerialTrack) (other : ∀ write ∈ waveform t.trace, write.1 ≠ gpioVgaLe) :
    (x.after t).vga.held = x.vga.held :=
  follow_held ad8370 vgaWiring (fun level => by cases level) other

theorem SerialTrack.Exact.control (exact_ : x.Exact g t.before)
    (wave : OnPins controlPins (waveform t.trace)) : (x.after t).Exact g t.after := by
  have apart {pin : UInt8} (off : pin ∉ controlPins) :
      ∀ write ∈ waveform t.trace, write.1 ≠ pin := by
    intro write mem same
    exact off (same ▸ wave write mem)
  have att := apart (show gpioAttLe ∉ controlPins by decide)
  have vga := apart (show gpioVgaLe ∉ controlPins by decide)
  constructor
  · rw [step_levels, settle_of_notMem att]
    exact exact_.attLe
  · rw [step_levels, settle_of_notMem vga]
    exact exact_.vgaLe
  · rw [exact_.att_held att]
    exact exact_.att
  · rw [vga_held x vga]
    exact exact_.gain

theorem SerialTrack.Exact.setAtt {value : UInt16} (exact_ : x.Exact g t.before)
    (wave : waveform t.trace = attWave value.toUInt8) :
    (x.after t).Exact { g with att := some value } t.after := by
  have vga : ∀ write ∈ waveform t.trace, write.1 ≠ gpioVgaLe := by
    rw [wave]
    exact fun write => attWave_pins
  constructor
  · rw [step_levels, wave]
    exact attWave_idle _ _
  · rw [step_levels, settle_of_notMem vga]
    exact exact_.vgaLe
  · intro value' same
    cases same
    rw [SerialTrack.after, wave, attWave_held]
    exact toUInt8_mod value (by decide)
  · rw [vga_held x vga]
    exact exact_.gain

theorem SerialTrack.Exact.setGain {value : UInt16} (exact_ : x.Exact g t.before)
    (wave : waveform t.trace = gainWave value.toUInt8) :
    (x.after t).Exact { g with gain := some value } t.after := by
  have att : ∀ write ∈ waveform t.trace, write.1 ≠ gpioAttLe := by
    rw [wave]
    exact fun write => gainWave_pins
  constructor
  · rw [step_levels, settle_of_notMem att]
    exact exact_.attLe
  · rw [step_levels, wave]
    exact gainWave_idle _ _
  · rw [exact_.att_held att]
    exact exact_.att
  · intro value' same
    cases same
    rw [SerialTrack.after, wave, gainWave_held]
    exact toUInt8_mod value (by decide)

/-- Whatever the step, once there are settings the chips are as they say. -/
theorem serial_step (before : ∀ g, x.settings = some g → x.Exact g t.before)
    (ok : setsSucceed t) (up : (x.after t).settings = some g) : (x.after t).Exact g t.after := by
  have up : settingsAfter x.settings t = some g := up
  unfold settingsAfter at up
  split at up
  next => cases up
  next running =>
    have running : resetsDevice t = false := Bool.eq_false_iff.mpr running
    split at up
    next initial =>
      cases up
      obtain ⟨attLe, vgaLe⟩ := serial_initialized initial ok
      constructor
      · exact attLe
      · exact vgaLe
      · intro value none
        cases none
      · intro value none
        cases none
    next initial =>
      split at up
      next value set =>
        obtain ⟨g', had, rfl⟩ := Option.map_eq_some_iff.mp up
        exact (before g' had).setAtt (setArg?_wave set ok)
      next value set =>
        obtain ⟨g', had, rfl⟩ := Option.map_eq_some_iff.mp up
        exact (before g' had).setGain (setArg?_wave set ok)
      next att gain => exact (before g up).control (control_wave running initial ok att gain)

/-- After each request the latch lines are idle, and a chip that has been set since the
initialization holds the last value it was given, whatever the requests in between. -/
theorem serial_lines_exact {steps : List frontEnd.Step} {w : World} (run : frontEnd.Run steps w)
    (ok : ∀ t ∈ steps, setsSucceed t) (att vga : Register) {g : Settings}
    (up : (steps.foldl SerialTrack.after ⟨none, att, vga⟩).settings = some g) :
    (steps.foldl SerialTrack.after ⟨none, att, vga⟩).Exact g w :=
  run.summary (f := SerialTrack.after) (z := ⟨none, att, vga⟩)
    (fun x s => ∀ g, x.settings = some g → x.Exact g s)
    (fun t _ ok g up => serial_step (fun g none => by cases none) ok up)
    (fun x t ok before g up => serial_step before ok up) ok g up

def setArgument (wIndex wValue : UInt16) : FrontAct :=
  .request ((0xB640 : UInt32) ||| (wValue.toUInt32 <<< 16)) (wIndex.toUInt32 ||| 0x10000)

/-- The front end initialized, the attenuator set to 45, the gain to 0x1A5. -/
def tuned : List frontEnd.Step × World :=
  frontEnd.performAll
    [(FrontAct.gpioInitialize, Bench.idle.oracle), (setArgument 10 45, Bench.idle.oracle),
      (setArgument 11 0x1A5, Bench.idle.oracle)] powerUp

theorem tuned_run : frontEnd.Run tuned.1 tuned.2 := System.performAll_run rfl _ _ _

theorem serial_lines_exact_tuned :
    (tuned.1.foldl SerialTrack.after ⟨none, ⟨[], []⟩, ⟨[], []⟩⟩).Exact ⟨some 45, some 0x1A5⟩
      tuned.2 :=
  serial_lines_exact tuned_run (by decide +kernel) ⟨[], []⟩ ⟨[], []⟩ rfl

end Runs

end Rx888
