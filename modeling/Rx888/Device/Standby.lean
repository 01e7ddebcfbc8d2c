import Rx888.Device.Ticks
import Rx888.Device.StartGate

/-! # The ADC's standby

The SHDWN line is driven in three of the handlers that start or stop the stream. Which
runs keep the ADC parked while nothing streams is settled here step by step.
-/

namespace Rx888

open CallProgram

/-- The call succeeded. A state of the state machine and a byte read over I2C are
readings, and so is any answer to the two. -/
def Call.succeeds : (c : Call) → c.Ans → Bool
  | .usbGetEP0Data _, .ok _ | .gpioGetValue _, .ok _ | .queueReceive, .ok _ => true
  | .usbGetEP0Data _, .error _ | .gpioGetValue _, .error _ | .queueReceive, .error _ => false
  | .usbStart, status => status == cyU3PSuccess || status == cyU3PErrorNoReenumRequired
  | .threadSleep _, status | .sysWatchDogConfigure _ _, status | .timerCreate _ _, status
  | .queueCreate, status | .queueSend _, status | .threadCreate, status | .uartInit, status
  | .uartSetConfig, status | .uartTxSetBlockXfer _, status | .uartRxSetBlockXfer _, status
  | .debugInit, status | .consoleChannelCreate, status | .consoleChannelDestroy, status
  | .consoleChannelSetXfer _, status | .consoleChannelSetWrapUp, status
  | .consoleChannelDiscardBuffer, status | .pibInit, status | .pibDeInit, status
  | .gpifLoad, status | .gpifSMStart _ _, status | .dmaMultiChannelCreate, status
  | .dmaMultiChannelSetXfer _ _, status | .dmaMultiChannelReset, status
  | .dmaMultiChannelDestroy, status | .setEpConfig _ _, status | .usbFlushEp _, status
  | .usbSetDesc _, status | .readDeviceRegisters, status | .connectState _ _, status
  | .usbStall _ _ _, status | .usbSendEP0Data _, status | .usbLPMEnable, status
  | .usbLPMDisable, status | .i2cInit, status | .i2cSetConfig, status
  | .i2cTransmitBytes _ _, status | .gpioInit, status | .deviceGpioOverride _, status
  | .gpioSetSimpleConfig _ _, status | .gpioSetValue _ _, status => status == cyU3PSuccess
  | _, _ => true

def succeeded (t : device.Step) : Prop := ∀ c ∈ t.trace, c.call.succeeds c.ans = true

/-- An operation that was not reported to fail. -/
def PipeOp.succeeded : PipeOp → Bool
  | .start ok | .setXfer ok | .shdwn _ ok => ok
  | _ => true

instance (t : device.Step) : Decidable (succeeded t) :=
  inferInstanceAs (Decidable (∀ c ∈ t.trace, _))

def allSucceeded (os : List PipeOp) : Prop := ∀ o ∈ os, o.succeeded = true

theorem opOf_succeeds {c : Call} {r : c.Ans} {o : PipeOp} (h : c.succeeds r = true)
    (op : opOf c r = some o) : o.succeeded = true := by
  cases c with
  | gpifSMStart stateIndex initialAlpha => cases op; exact h
  | dmaMultiChannelSetXfer count multiSckOffset => cases op; exact h
  | gpioSetSimpleConfig pin level =>
      simp only [opOf, Option.ite_none_right_eq_some, Option.some.injEq] at op
      rw [← op.2]
      exact h
  | gpioSetValue pin level =>
      simp only [opOf, Option.ite_none_right_eq_some, Option.some.injEq] at op
      rw [← op.2]
      exact h
  | i2cReceiveBytes preamble byteCount =>
      simp only [opOf] at op
      split at op
      · cases op; rfl
      · split at op
        · cases op; rfl
        · cases op
  | i2cTransmitBytes preamble bytes =>
      simp only [opOf, Option.ite_none_right_eq_some, Option.some.injEq] at op
      rw [← op.2]
      rfl
  | _ => cases op <;> rfl

theorem stepOps_succeeded {t : device.Step} (h : succeeded t) : allSucceeded (stepOps t) := by
  intro o ho
  obtain ⟨c, made, op⟩ := List.mem_filterMap.mp ho
  exact opOf_succeeds (h c made) op

/-! ## Parked or streaming -/

/-- The stream runs, or the SHDWN line is high. -/
def Pipe.parked (p : Pipe) : Bool := p.fwTrg && p.running || p.shdwn

/-- FW_TRG is high with the state machine running, or the ADC is in standby. -/
def Parked (w : World) : Prop :=
  (w.env.fwTrg = true ∧ w.env.smRunning = true) ∨ w.env.gpio gpioShdwn = true

instance (w : World) : Decidable (Parked w) := inferInstanceAs (Decidable (_ ∨ _))

theorem parked_iff (w : World) : Parked w ↔ w.env.pipe.parked = true := by
  simp [Parked, Pipe.parked, Hw.pipe]

/-- A start that passes its preflight check streams at the end. -/
theorem StartOps.parked {os : List PipeOp} {passed : Bool} (h : StartOps os passed)
    (succeeds : allSucceeded os) {p : Pipe} (before : p.parked = true) :
    (os.foldl Pipe.after p).parked = true := by
  cases h with
  | refused check =>
      rw [idle_foldl check.idle]
      exact before
  | @restarted rest up ok sm restart =>
      cases restart with
      | noXfer =>
          have failed := succeeds (.setXfer false) (by simp)
          cases failed
      | noStart =>
          have failed := succeeds (.start false) (by simp)
          cases failed
      | started =>
          simp [restartPrelude, Pipe.after, Pipe.parked]

theorem StopOps.parked {os : List PipeOp} (h : StopOps os) (succeeds : allSucceeded os)
    (p : Pipe) : (os.foldl Pipe.after p).parked = true := by
  cases h with
  | stopped sm sm' ok =>
      have driven : ok = true := succeeds (.shdwn true ok) (by simp)
      simp [driven, Pipe.after, Pipe.parked]

/-- STARTADC leaves the ADC as it is, but stops a state machine it finds out of reset. -/
theorem AdcOps.parked {os : List PipeOp} (h : AdcOps os) {p : Pipe}
    (before : p.parked = true) :
    (os.foldl Pipe.after p).parked = true ↔
      ¬ (p.shdwn = false ∧ firstState os ≠ gpifReset ∧ firstState os ≠ 0xFF) := by
  cases h with
  | noData =>
      have none : firstState [] = gpifReset := rfl
      simp [none, before]
  | @programmed sm rest idle =>
      have found : firstState (implicitStopOps sm ++ rest) = sm := rfl
      rw [found, List.foldl_append, idle_foldl idle]
      by_cases stops : sm ≠ gpifReset ∧ sm ≠ 0xFF
      · simp [implicitStopOps, stops, Pipe.after, Pipe.parked]
      · have same : (implicitStopOps sm).foldl Pipe.after p = p := by
          rw [implicitStopOps, if_neg stops]
          rfl
        rw [same]
        exact ⟨fun _ bad => stops bad.2, fun _ => before⟩

theorem startAppOps_parked (xfer start : Bool) {p : Pipe} (before : p.parked = true) :
    ((startAppOps xfer start).foldl Pipe.after p).parked = true := by
  have cases : p.fwTrg = true ∧ p.running = true ∨ p.shdwn = true := by
    simpa [Pipe.parked] using before
  rcases cases with ⟨raised, running⟩ | standby
  · simp [startAppOps, Pipe.after, Pipe.parked, raised, running]
  · simp [startAppOps, Pipe.after, Pipe.parked, standby]

theorem stopAppOps_parked (p : Pipe) :
    ((stopAppOps true).foldl Pipe.after p).parked = true := by
  simp [stopAppOps, Pipe.after, Pipe.parked]

theorem UsbEventDoes.parked {evtype : UInt8} {active active' : Bool} {os : List PipeOp}
    (h : UsbEventDoes evtype active os active') (succeeds : allSucceeded os) {p : Pipe}
    (before : p.parked = true) : (os.foldl Pipe.after p).parked = true := by
  cases h with
  | restarted ok xfer start event was =>
      have driven : ok = true := succeeds (.shdwn true ok) (by simp [stopAppOps])
      rw [driven, List.foldl_append]
      exact startAppOps_parked xfer start (stopAppOps_parked p)
  | started xfer start event was => exact startAppOps_parked xfer start before
  | stopped ok event was =>
      have driven : ok = true := succeeds (.shdwn true ok) (by simp [stopAppOps])
      rw [driven]
      exact stopAppOps_parked p
  | unaffected event idle => exact before

theorem BootOps.parked {usb os : List PipeOp} (h : BootOps usb os) (succeeds : allSucceeded os)
    (p : Pipe) : (os.foldl Pipe.after p).parked = true := by
  cases h with
  | @booted clock ok₁ ok₂ ok₃ idle init =>
      have driven : ok₃ = true := succeeds (.shdwn true ok₃) (by simp [gpioInitOps])
      have standby : ∀ q : Pipe,
          ((gpioInitOps ok₁ ok₂ ok₃).foldl Pipe.after q).parked = true := by
        intro q
        simp [gpioInitOps, driven, Pipe.after, Pipe.parked]
      rw [List.foldl_cons, List.foldl_append, List.foldl_append]
      cases init with
      | connect => exact standby _
      | restart xfer start => exact startAppOps_parked xfer start (standby _)

/-- Light recovery streams at the end if the clock is healthy, and only stops otherwise. -/
theorem recoveryOps_parked {state sm₀ sm : UInt8} {clk : List PipeOp} {ok xfer start : Bool}
    (check : ClockCheck clk ok)
    (succeeds : allSucceeded (recoveryOps state sm₀ sm clk ok xfer start)) (p : Pipe) :
    ((recoveryOps state sm₀ sm clk ok xfer start).foldl Pipe.after p).parked = true ↔
      ¬ (p.shdwn = false ∧ ok = false) := by
  rw [recoveryOps, List.foldl_append, List.foldl_append, idle_foldl check.idle]
  cases ok with
  | false => simp [Pipe.after, Pipe.parked]
  | true =>
      have started : start = true := succeeds (.start start) (by simp [recoveryOps])
      simp [started, Pipe.after, Pipe.parked]

/-! ## Steps and runs -/

/-- A step that stops the stream without parking the ADC: STARTADC finding the state
machine out of reset, or a light recovery without a healthy clock. -/
def leavesAdcOn (t : device.Step) : Prop :=
  t.before.env.gpio gpioShdwn = false ∧
    ((Act.command? t.act = some .startadc ∧ firstState (stepOps t) ≠ gpifReset ∧
        firstState (stepOps t) ≠ 0xFF) ∨
      (Act.isTick t.act = true ∧ t.before.mem.recoveryDue (firstState (stepOps t)) ∧
        healthyClock (stepOps t) = false))

/-- A handler of the host's, the bus's or the main loop's, other than GPIOFX3, in which
every call succeeds. -/
def driven (t : device.Step) : Prop :=
  succeeded t ∧ Act.command? t.act ≠ some .gpiofx3 ∧ Act.setsActive t.act = false

instance (t : device.Step) : Decidable (driven t) := inferInstanceAs (Decidable (_ ∧ _ ∧ _))

theorem boot_parked {t : device.Step} (boot : t.act = .boot) (succeeds : succeeded t) :
    Parked t.after := by
  have does := step_does t
  rw [boot] at does
  obtain ⟨usb, boots, -⟩ := does
  rw [parked_iff, step_pipe]
  exact boots.parked (stepOps_succeeded succeeds) _

theorem leavesAdcOn_boot {t : device.Step} (boot : t.act = .boot) : ¬ leavesAdcOn t := by
  intro bad
  rcases bad.2 with ⟨command, -⟩ | ⟨tick, -⟩
  · rw [boot] at command
    cases command
  · rw [boot] at tick
    cases tick

/-- From a parked state, a request leaves the ADC on just when STARTADC stops the stream. -/
theorem request_parked {t : device.Step} {setupdat0 setupdat1 : UInt32}
    (act : t.act = .request setupdat0 setupdat1) (inside : driven t)
    (before : Parked t.before) : Parked t.after ↔ ¬ leavesAdcOn t := by
  obtain ⟨succeeds, notGpio, -⟩ := inside
  have does := step_does t
  rw [act] at does
  obtain ⟨does, -⟩ := does
  have named : Act.command? t.act = (Setup.decode setupdat0 setupdat1).command? := by rw [act]; rfl
  have ticks : Act.isTick t.act = false := by rw [act]; rfl
  have ok := stepOps_succeeded succeeds
  have fine (after : Parked t.after) (other : Act.command? t.act ≠ some .startadc) :
      Parked t.after ↔ ¬ leavesAdcOn t := by
    refine ⟨fun _ bad => ?_, fun _ => after⟩
    rcases bad.2 with ⟨command, -⟩ | ⟨tick, -⟩
    · exact other command
    · rw [ticks] at tick
      cases tick
  have untouched (idle : Idle (stepOps t)) : Parked t.after := by
    rw [parked_iff, step_pipe, idle_foldl idle]
    exact (parked_iff _).mp before
  generalize command : (Setup.decode setupdat0 setupdat1).command? = c at does named
  unfold RequestDoes at does
  split at does
  · obtain ⟨passed, starts, -⟩ := does
    refine fine ?_ (by simp [named])
    rw [parked_iff, step_pipe]
    exact starts.parked ok ((parked_iff _).mp before)
  · refine fine ?_ (by simp [named])
    rw [parked_iff, step_pipe]
    exact does.1.parked ok _
  · have stops := does.1.parked ((parked_iff _).mp before)
    rw [parked_iff, step_pipe, stops, leavesAdcOn, named, ticks]
    simp [Hw.pipe]
  · exact absurd named notGpio
  next notAdc _ =>
    exact fine (untouched does.1) (by rw [named]; exact notAdc)

/-- Nor does any other handler, but for a light recovery without a healthy clock. -/
theorem step_parked {t : device.Step} (inside : driven t) (before : Parked t.before)
    (idle : t.before.mem.ep0.ep0HandlerInProgress = false) : Parked t.after ↔ ¬ leavesAdcOn t := by
  have does := step_does t
  have ok := stepOps_succeeded inside.1
  have fine (after : Parked t.after) (request : Act.command? t.act = none)
      (other : Act.isTick t.act = false) : Parked t.after ↔ ¬ leavesAdcOn t := by
    refine ⟨fun _ bad => ?_, fun _ => after⟩
    rcases bad.2 with ⟨command, -⟩ | ⟨tick, -⟩
    · rw [request] at command
      cases command
    · rw [other] at tick
      cases tick
  cases act : t.act with
  | boot => exact ⟨fun _ => leavesAdcOn_boot act, fun _ => boot_parked act inside.1⟩
  | request setupdat0 setupdat1 => exact request_parked act inside before
  | usbEvent evtype evdata =>
      rw [act] at does fine
      refine fine ?_ rfl rfl
      rw [parked_iff, step_pipe]
      exact does.1.parked ok ((parked_iff _).mp before)
  | tick =>
      have tick : Act.isTick t.act = true := by rw [act]; rfl
      have other : Act.command? t.act = none := by rw [act]; rfl
      rcases tick_ops tick idle with ⟨due, state, sm₀, sm, clk, hw, xfer, start, check, ops⟩ |
        ⟨notDue, looks⟩
      · rw [ops] at due ok
        rw [parked_iff, step_pipe, leavesAdcOn, ops, other, tick, healthyClock_recoveryOps check,
          recoveryOps_parked check ok]
        simp [due, Hw.pipe]
      · have same : Parked t.after := by
          rw [parked_iff, step_pipe, idle_foldl looks]
          exact (parked_iff _).mp before
        refine ⟨fun _ bad => ?_, fun _ => same⟩
        rcases bad.2 with ⟨command, -⟩ | ⟨-, due, -⟩
        · rw [other] at command
          cases command
        · exact notDue due
  | buffers count =>
      rw [act] at does fine
      refine fine ?_ rfl rfl
      rw [parked_iff, step_pipe, does.1]
      exact (parked_iff _).mp before
  | active flag =>
      have other := inside.2.2
      rw [act] at other
      cases other

/-- Along a run the ADC is parked whenever the stream is not running, just when no STARTADC
stops a stream and no light recovery is without a healthy clock. -/
theorem adc_parked {steps : List device.Step} {w : World} (run : device.Run steps w)
    (inside : ∀ t ∈ steps, driven t) :
    (∀ t ∈ steps, Parked t.after) ↔ ∀ t ∈ steps, ¬ leavesAdcOn t := by
  refine run.all_iff Parked (fun t first inside => ?_) (fun steps t before parked inside => ?_)
    inside
  · have parked := boot_parked first inside.1
    exact ⟨⟨fun _ => leavesAdcOn_boot first, fun _ => parked⟩, fun _ => parked⟩
  · have same := step_parked inside parked (run_noHandler before)
    exact ⟨same, same.mpr⟩

def streamOnce : List (Act × Bench) :=
  streamStart ++ [(vendorSetup false .stopfx3 0 0 0, Bench.idle)]

theorem adc_parked_streamOnce :
    (∀ t ∈ (benchRun streamOnce).1, Parked t.after) ↔
      ∀ t ∈ (benchRun streamOnce).1, ¬ leavesAdcOn t :=
  adc_parked (benchRun_run streamOnce) (by decide +kernel)

/-- The state machine busy, and the host asking for 64 MHz. -/
def Bench.retuning : Bench :=
  { Bench.idle with
    smState := fun _ => gpifTh0Busy
    hostData := leBytes32 64000000 }

/-- The host sets the sampling rate while the stream runs: the state machine is found in
TH0_BUSY, stopped, and the ADC stays on. -/
def retuned : List (Act × Bench) :=
  streamStart ++ [(vendorSetup false .startadc 0 0 4, Bench.retuning)]

theorem adc_left_on : ¬ ∀ (steps : List device.Step) (w : World), device.Run steps w →
    (∀ t ∈ steps, driven t) → ∀ t ∈ steps, Parked t.after := by
  intro parked
  have last := parked _ _ (benchRun_run retuned) (by decide +kernel)
  revert last
  decide +kernel

end Rx888
