import Rx888.FrontEnd.Waveform

/-! # The analog front end as a system

From `rx888r2_GpioInitialize` on, the pins of the front end are written by requests, USB events
and whatever else runs; each step has its waveform.
-/

namespace Rx888

open CallProgram SerialBus

attribute [local simp] Call.kind

inductive FrontAct where
  | gpioInitialize
  | request (setupdat0 setupdat1 : UInt32)
  | usbEvent (evtype : UInt8) (evdata : UInt16)
  | tick
  /-- Any other code, which leaves the pins alone. -/
  | other (p : Fw Unit) (off : Makes offPins p)

def FrontAct.prog : FrontAct → Fw Unit
  | .gpioInitialize => rx888r2GpioInitialize
  | .request setupdat0 setupdat1 => Act.prog (.request setupdat0 setupdat1)
  | .usbEvent evtype evdata => usbEventCallback evtype evdata
  | .tick => healthTick
  | .other p _ => p

def frontEnd : System Ram Hw Call.Ans where
  Act := FrontAct
  prog := FrontAct.prog
  env := sdk
  starts a := a = .gpioInitialize

/-- The setup packet of a request and the command it executes. -/
def FrontAct.command? : FrontAct → Option (Setup × FX3Command)
  | .request setupdat0 setupdat1 =>
      let s := Setup.decode setupdat0 setupdat1
      s.command?.map (s, ·)
  | _ => none

/-- All writes of the step to the pins succeed. -/
def setsSucceed (t : frontEnd.Step) : Prop := ∀ u ∈ t.trace, setSucceeds u

instance (t : frontEnd.Step) : Decidable (setsSucceed t) :=
  inferInstanceAs (Decidable (∀ u ∈ t.trace, setSucceeds u))

/-- The step resets the device. -/
def resetsDevice (t : frontEnd.Step) : Bool := t.trace.any fun u => u.call.kind == .reset

/-! ## The programs' waveforms -/

/-- The writes of `rx888r2_GpioSet`. -/
def controlWave (mdata : UInt32) : List (UInt8 × Bool) :=
  [(gpioShdwn, (mdata &&& shdwn) == shdwn), (gpioDith, (mdata &&& dith) == dith),
    (gpioRando, (mdata &&& rando) == rando), (gpioBiasHf, (mdata &&& biasHf) == biasHf),
    (gpioBiasVhf, (mdata &&& biasVhf) == biasVhf), (gpioLedBlue, (mdata &&& ledBlue) == ledBlue),
    (gpioPga, (mdata &&& pgaEn) != pgaEn), (gpioVhfEn, (mdata &&& vhfEn) == vhfEn)]

/-- The writes of `rx888r2_GpioInitialize` once the pins are outputs. -/
def initWave : List (UInt8 × Bool) :=
  controlWave ledBlue ++
    [(gpioAttLe, false), (gpioAttClk, false), (gpioAttData, false), (gpioVgaLe, true),
      (gpioPga, true), (gpioShdwn, true)]

theorem rx888r2GpioSet_waves (mdata : UInt32) :
    Waves setSucceeds (· = controlWave mdata) (rx888r2GpioSet mdata) := by
  unfold rx888r2GpioSet
  apply Waves.exact (gpioSetValue_waves _ _)
  intro _
  apply Waves.exact (gpioSetValue_waves _ _)
  intro _
  apply Waves.exact (gpioSetValue_waves _ _)
  intro _
  apply Waves.exact (gpioSetValue_waves _ _)
  intro _
  apply Waves.exact (gpioSetValue_waves _ _)
  intro _
  apply Waves.exact (gpioSetValue_waves _ _)
  intro _
  apply Waves.exact (gpioSetValue_waves _ _)
  exact fun _ => gpioSetValue_waves _ _

/-- Whatever configuring the outputs did before. -/
theorem rx888r2GpioInitialize_waves :
    Waves setSucceeds (fun wave => ∃ before, wave = before ++ initWave) rx888r2GpioInitialize := by
  have outputs (pins : List UInt8) : Waves setSucceeds (fun _ => True) (confOutputs pins) :=
    waves_of_runs fun _ _ _ _ _ _ => trivial
  have levels : Waves setSucceeds (· = initWave) (do
      rx888r2GpioSet ledBlue
      gpioSetValue gpioAttLe false
      gpioSetValue gpioAttClk false
      gpioSetValue gpioAttData false
      gpioSetValue gpioVgaLe true
      gpioSetValue gpioPga true
      rx888r2AdcStandby true) := by
    apply Waves.exact (rx888r2GpioSet_waves ledBlue)
    intro _
    apply Waves.exact (gpioSetValue_waves _ _)
    intro _
    apply Waves.exact (gpioSetValue_waves _ _)
    intro _
    apply Waves.exact (gpioSetValue_waves _ _)
    intro _
    apply Waves.exact (gpioSetValue_waves _ _)
    intro _
    apply Waves.exact (gpioSetValue_waves _ _)
    exact fun _ => gpioSetValue_waves _ _
  unfold rx888r2GpioInitialize
  apply (outputs _).bind fun _ => levels
  intro before wave _ same
  exact ⟨before, by rw [same]⟩

def attWiring : Wiring UInt8 where
  data := gpioAttData
  clk := gpioAttClk
  latch := gpioAttLe
  data_ne_clk := by decide
  data_ne_latch := by decide
  clk_ne_latch := by decide

/-- The AD8370 has its own latch line only. -/
def vgaWiring : Wiring UInt8 where
  data := gpioAttData
  clk := gpioAttClk
  latch := gpioVgaLe
  data_ne_clk := by decide
  data_ne_latch := by decide
  clk_ne_latch := by decide

/-- The bits the loop of `GpioShiftOut` puts on the data line. -/
def shiftedBits (mask : UInt8) : Nat → UInt8 → List Bool
  | 0, _ => []
  | bits + 1, value => ((value &&& mask) != 0) :: shiftedBits mask bits (value <<< 1)

/-- The mask of the bit that goes out first. -/
def topBit (bits : Nat) : UInt8 := (1 : UInt8) <<< (UInt8.ofNat bits - 1)

/-- The writes of `rx888r2_SetAttenuator`. -/
def attWave (value : UInt8) : List (UInt8 × Bool) :=
  attWiring.transfer (shiftedBits (topBit 6) 6 value) ++ [(gpioAttLe, false)]

/-- The writes of `rx888r2_SetGain`. -/
def gainWave (value : UInt8) : List (UInt8 × Bool) :=
  vgaWiring.transfer (shiftedBits (topBit 8) 8 value) ++ [(gpioAttData, false)]

theorem gpioShiftBits_waves (mask : UInt8) (bits : Nat) (value : UInt8) :
    Waves setSucceeds
      (· = (shiftedBits mask bits value).flatMap fun b =>
        [(gpioAttData, b), (gpioAttClk, true), (gpioAttClk, false)])
      (gpioShiftBits mask bits value) := by
  induction bits generalizing value with
  | zero => exact waves_pure () rfl
  | succ bits ih =>
      unfold gpioShiftBits
      apply Waves.exact (gpioSetValue_waves _ _)
      intro _
      apply Waves.exact (gpioSetValue_waves _ _)
      intro _
      apply Waves.exact (gpioSetValue_waves _ _)
      exact fun _ => ih (value <<< 1)

theorem gpioShiftOut_waves {wiring : Wiring UInt8} (data : wiring.data = gpioAttData)
    (clk : wiring.clk = gpioAttClk) (value : UInt8) (bits : Nat) :
    Waves setSucceeds (· = wiring.transfer (shiftedBits (topBit bits) bits value))
      (gpioShiftOut wiring.latch value bits) := by
  have shape : wiring.transfer (shiftedBits (topBit bits) bits value) =
      [(wiring.latch, false)] ++ ([(gpioAttClk, false)] ++
        ((shiftedBits (topBit bits) bits value).flatMap (fun b =>
          [(gpioAttData, b), (gpioAttClk, true), (gpioAttClk, false)]) ++
            [(wiring.latch, true)])) := by
    rw [← data, ← clk]
    simp only [Wiring.transfer, List.cons_append, List.nil_append]
    rfl
  rw [shape]
  unfold gpioShiftOut
  apply Waves.exact (gpioSetValue_waves _ _)
  intro _
  apply Waves.exact (gpioSetValue_waves _ _)
  intro _
  apply Waves.exact (gpioShiftBits_waves _ _ _)
  exact fun _ => gpioSetValue_waves _ _

theorem rx888r2SetAttenuator_waves (value : UInt8) :
    Waves setSucceeds (· = attWave value) (rx888r2SetAttenuator value) :=
  (@gpioShiftOut_waves attWiring rfl rfl value 6).exact fun _ => gpioSetValue_waves _ _

theorem rx888r2SetGain_waves (value : UInt8) :
    Waves setSucceeds (· = gainWave value) (rx888r2SetGain value) :=
  (@gpioShiftOut_waves vgaWiring rfl rfl value 8).exact fun _ => gpioSetValue_waves _ _

/-- What SETARGFX3 writes, by the argument it names. -/
def setArgWave : Option ArgumentList → UInt8 → List (UInt8 × Bool)
  | some .dat31Att, value => attWave value
  | some .ad8370Vga, value => gainWave value
  | _, _ => []

theorem setargfx3_waves (s : Setup) :
    Waves setSucceeds (· = setArgWave (ArgumentList.ofIndex? s.wIndex) s.wValue.toUInt8)
      (setargfx3 s) := by
  have receives : Makes [.dataOut] (getEP0Data s.wLength) := by simp
  have counts : Makes [.stall] (countVendorRqt >>= fun _ => pure true) := by simp
  unfold setargfx3
  apply Waves.after_silent (receives.silent (by simp))
  intro _
  rcases ArgumentList.ofIndex? s.wIndex with _ | argument
  · have stalls : Makes [.stall] (stallEP0 >>= fun _ => pure true) := by simp
    exact stalls.silent (by simp)
  · cases argument with
    | dat31Att =>
        exact (rx888r2SetAttenuator_waves _).then_silent fun _ => counts.silent (by simp)
    | ad8370Vga =>
        exact (rx888r2SetGain_waves _).then_silent fun _ => counts.silent (by simp)
    | wdgMaxRecov =>
        have sets : Makes [.stall] (healthSetMaxRecovery (s.wValue &&& 0xFF).toUInt8) := by simp
        exact Waves.after_silent (sets.silent (by simp)) fun _ => counts.silent (by simp)
    | wdgResetEscalate =>
        have sets : Makes [.stall] (healthSetResetEscalation ((s.wValue &&& 0xFF) != 0)) := by simp
        exact Waves.after_silent (sets.silent (by simp)) fun _ => counts.silent (by simp)

/-! ## The steps -/

section Steps

variable {t : frontEnd.Step}

theorem rx888r2GpioInitialize_makes : Makes (.gpio :: offPins) rx888r2GpioInitialize := by
  have outputs (pins : List UInt8) : Makes (.gpio :: offPins) (confOutputs pins) := by
    induction pins with
    | nil => exact makes_pure ()
    | cons pin pins ih => simp [confOutputs, confGpioSimpleOut, call, ih]
  simp [rx888r2GpioInitialize, outputs]

theorem step_powered (t : frontEnd.Step) : ∀ u ∈ t.trace, u.call ≠ .deviceInit := by
  have makes : Makes (.gpio :: offPins) t.act.prog := by
    cases t.act with
    | gpioInitialize => exact rx888r2GpioInitialize_makes
    | request setupdat0 setupdat1 =>
        have request := (setupRequest_makes (Setup.decode setupdat0 setupdat1)).mono
          (by decide : requestKinds ⊆ .gpio :: offPins)
        simp [FrontAct.prog, Act.prog, cyFxSlFifoApplnUSBSetupCB, request]
    | usbEvent evtype evdata =>
        have start := startApplication_makes.mono (by decide : startAppKinds ⊆ .gpio :: offPins)
        have stop := stopApplication_makes.mono (by decide : stopAppKinds ⊆ .gpio :: offPins)
        simp [FrontAct.prog, usbEventCallback, start, stop]
    | tick => exact healthTick_makes.mono (by decide)
    | other p off => exact off.mono (by decide)
  intro u mem same
  have kind := makes.run t.runs u mem
  rw [same] at kind
  revert kind
  decide

theorem step_levels (t : frontEnd.Step) :
    t.after.env.gpio = settle t.before.env.gpio (waveform t.trace) :=
  levels_of_runs t.runs (step_powered t)

theorem initialize_wave (initial : t.act = .gpioInitialize) (ok : setsSucceed t) :
    ∃ before, waveform t.trace = before ++ initWave := by
  have runs := t.runs
  rw [initial] at runs
  exact rx888r2GpioInitialize_waves.run runs ok

theorem step_split {s : Setup} {c : FX3Command} (command : t.act.command? = some (s, c)) :
    ∃ before made after w₁ isHandled w₂, t.trace = before ++ (made ++ after) ∧
      Runs sdk (vendorCommand s (some c)) w₁ made isHandled w₂ ∧
        ∀ u ∈ before ++ after, u.call.kind ∈ [.time, .text] := by
  have runs := t.runs
  cases act : t.act with
  | request setupdat0 setupdat1 =>
      rw [act] at command runs
      obtain ⟨c', executes, same⟩ := Option.map_eq_some_iff.mp command
      cases same
      exact request_split executes runs
  | gpioInitialize => simp [act, FrontAct.command?] at command
  | usbEvent evtype evdata => simp [act, FrontAct.command?] at command
  | tick => simp [act, FrontAct.command?] at command
  | other p off => simp [act, FrontAct.command?] at command

/-- Looking at the clock and printing leave the pins alone. -/
theorem waveform_beside {tr : List FwCall} (kinds : ∀ u ∈ tr, u.call.kind ∈ [.time, .text]) :
    waveform tr = [] := by
  apply waveform_eq_nil
  intro u mem same
  have kind := kinds u mem
  rw [same] at kind
  revert kind
  decide

/-- A request has the waveform of its command. -/
theorem command_wave {s : Setup} {c : FX3Command} (command : t.act.command? = some (s, c))
    {ok : FwCall → Prop} {Q : List (UInt8 × Bool) → Prop}
    (waves : Waves ok Q (vendorCommand s (some c))) (all : ∀ u ∈ t.trace, ok u) :
    Q (waveform t.trace) := by
  obtain ⟨before, made, after, w₁, isHandled, w₂, trace, runs, kinds⟩ := step_split command
  rw [trace] at all
  rw [trace, waveform_append, waveform_append,
    waveform_beside fun u mem => kinds u (List.mem_append_left _ mem),
    waveform_beside fun u mem => kinds u (List.mem_append_right _ mem), List.append_nil]
  exact waves.run runs fun u mem => all u (by simp [mem])

theorem setArg_wave {s : Setup} (command : t.act.command? = some (s, .setargfx3))
    (ok : setsSucceed t) :
    waveform t.trace = setArgWave (ArgumentList.ofIndex? s.wIndex) s.wValue.toUInt8 :=
  command_wave command (setargfx3_waves s) ok

/-- STARTFX3 ends the standby where its reads of the clock chip pass the check, STOPFX3 begins
it. -/
def FX3Command.standby? (tr : List FwCall) : FX3Command → Option Bool
  | .startfx3 => if healthyClock (ops tr) then some false else none
  | .stopfx3 => some true
  | _ => none

/-- The standby that a step commands with `rx888r2_AdcStandby`: besides the two requests an event
does that stops the application. -/
def standbyAction? (t : frontEnd.Step) : Option Bool :=
  match t.act with
  | .usbEvent evtype _ => if stopsApplication evtype t.before.mem then some true else none
  | a => a.command?.bind fun sc => sc.2.standby? t.trace

theorem standbyAction?_command {s : Setup} {c : FX3Command}
    (command : t.act.command? = some (s, c)) : standbyAction? t = c.standby? t.trace := by
  unfold standbyAction?
  split
  next evtype evdata act => simp [act, FrontAct.command?] at command
  next => rw [command, Option.bind_some]

theorem setsAndKeepsUp_of_step (ok : setsSucceed t) (up : resetsDevice t = false) :
    ∀ u ∈ t.trace, setsAndKeepsUp u := by
  intro u mem
  refine ⟨ok u mem, ?_⟩
  intro reset
  have some : resetsDevice t = true := List.any_eq_true.mpr ⟨u, mem, beq_iff_eq.mpr reset⟩
  rw [up] at some
  cases some

theorem ops_beside {tr : List FwCall} (kinds : ∀ u ∈ tr, u.call.kind ∈ [.time, .text]) :
    ops tr = [] := by
  apply List.filterMap_eq_nil_iff.mpr
  rintro ⟨w, c, r⟩ mem
  have kind := kinds _ mem
  cases c <;> first | rfl | simp at kind

theorem startfx3_step {s : Setup} (command : t.act.command? = some (s, .startfx3))
    (all : ∀ u ∈ t.trace, setsAndKeepsUp u) :
    waveform t.trace = if healthyClock (ops t.trace) then [(gpioShdwn, false)] else [] := by
  obtain ⟨before, made, after, w₁, isHandled, w₂, trace, runs, kinds⟩ := step_split command
  obtain ⟨first, last⟩ := List.forall_mem_append.mp kinds
  have wave := runs.ensures (startfx3_wave s w₁) fun u mem => all u (by simp [trace, mem])
  rw [trace, waveform_append, waveform_append, waveform_beside first, waveform_beside last,
    ops_append, ops_append, ops_beside first, ops_beside last, List.nil_append, List.nil_append,
    List.append_nil, List.append_nil, wave]

/-- Besides the initialization, GPIOFX3 and SETARGFX3 the standby commanded is all that a step
writes to the pins. -/
theorem standby_wave (ok : setsSucceed t) (up : resetsDevice t = false)
    (initial : t.act ≠ .gpioInitialize)
    (other : ∀ s c, t.act.command? = some (s, c) → c ≠ .gpiofx3 ∧ c ≠ .setargfx3) :
    waveform t.trace = ((standbyAction? t).map (gpioShdwn, ·)).toList := by
  have all := setsAndKeepsUp_of_step ok up
  rcases command : t.act.command? with _ | ⟨s, c⟩
  · have runs := t.runs
    have silent {p : Fw Unit} (makes : Makes offPins p) (same : frontEnd.prog t.act = p) :
        waveform t.trace = [] := by
      rw [same] at runs
      exact (offPins_silent makes).run runs all
    cases act : t.act with
    | gpioInitialize => exact absurd act initial
    | request setupdat0 setupdat1 =>
        rw [act] at command
        rw [silent (request_refused (Option.map_eq_none_iff.mp command)) (by rw [act]; rfl)]
        simp [standbyAction?, act, command]
    | usbEvent evtype evdata =>
        rw [act] at runs
        rw [runs.ensures (usbEventCallback_wave evtype evdata t.before) all]
        unfold standbyAction?
        rw [act]
        simp only
        split <;> rfl
    | tick =>
        rw [silent healthTick_makes (by rw [act]; rfl)]
        simp [standbyAction?, act, FrontAct.command?]
    | other p off =>
        rw [silent off (by rw [act]; rfl)]
        simp [standbyAction?, act, FrontAct.command?]
  · rw [standbyAction?_command command]
    obtain ⟨notGpio, notSetArg⟩ := other s c command
    cases c with
    | startfx3 =>
        rw [startfx3_step command all, FX3Command.standby?]
        split <;> rfl
    | stopfx3 => exact command_wave command (stopfx3_waves s) all
    | gpiofx3 => exact absurd rfl notGpio
    | setargfx3 => exact absurd rfl notSetArg
    | _ => exact command_wave command (vendorCommand_silent s (by simp)) all

end Steps

end Rx888
