import Rx888.Clock.Registers
import Rx888.FrontEnd.Readback

/-! # Who writes to the I2C bus

Of the steps of the device only a boot, STARTADC and I2CWFX3 write to the bus. The devices on it
are told apart by the address byte.
-/

namespace Rx888

open CallProgram

attribute [local simp] Call.kind

/-- A write to the device at an address byte, acknowledged or not. -/
def Call.transferTo? (addr : UInt8) : (c : Call) → c.Ans → Option ClockTransfer
  | .i2cTransmitBytes preamble bytes, status =>
      match preamble.buffer with
      | [device, reg] => if device = addr then some ⟨reg, bytes, status⟩ else none
      | _ => none
  | _, _ => none

/-- The writes to a device among the calls of a run. -/
def transfersTo (addr : UInt8) (tr : List FwCall) : List ClockTransfer :=
  tr.filterMap fun t => t.call.transferTo? addr t.ans

/-- No write was refused by the device. -/
def allAcked (ts : List ClockTransfer) : Bool := ts.all (·.status == cyU3PSuccess)

section Transfers

variable {addr : UInt8} {tr tr' : List FwCall}

@[simp] theorem transfersTo_nil : transfersTo addr [] = [] := rfl

@[simp] theorem transfersTo_append :
    transfersTo addr (tr ++ tr') = transfersTo addr tr ++ transfersTo addr tr' :=
  List.filterMap_append

/-- The clock chip is one of the devices. -/
theorem clockTransfers_eq (tr : List FwCall) : clockTransfers tr = transfersTo si5351Addr tr := rfl

theorem transferTo?_of_kind {c : Call} (r : c.Ans) (other : c.kind ≠ .i2cWrite) :
    c.transferTo? addr r = none := by
  cases c <;> first | rfl | exact absurd rfl other

theorem transfersTo_eq_nil (other : ∀ t ∈ tr, t.call.kind ≠ .i2cWrite) :
    transfersTo addr tr = [] :=
  List.filterMap_eq_nil_iff.mpr fun t ht => transferTo?_of_kind t.ans (other t ht)

end Transfers

def receivedBytes? (tr : List FwCall) : Option (List UInt8) :=
  tr.findSome? fun u => u.call.received? u.ans

theorem receivedBytes?_append (tr tr' : List FwCall) :
    receivedBytes? (tr ++ tr') = (receivedBytes? tr).or (receivedBytes? tr') :=
  List.findSome?_append

theorem receivedBytes?_none {tr : List FwCall} {kinds : List Kind} (apart : .dataOut ∉ kinds)
    (made : ∀ u ∈ tr, u.call.kind ∈ kinds) : receivedBytes? tr = none := by
  have none := receivedWord?_none apart made
  unfold receivedWord? at none
  exact Option.map_eq_none_iff.mp none

theorem aside_ensures {α : Type} {kinds : List Kind} {p : Fw α} {w : World}
    (makes : Makes kinds p) (bus : .i2cWrite ∉ kinds) (payload : .dataOut ∉ kinds) (addr : UInt8) :
    p.Ensures sdk (fun tr _ _ => transfersTo addr tr = [] ∧ receivedBytes? tr = none) w := by
  apply ensures_of_runs
  intro tr a w' runs
  have kinds := makes.run runs
  refine ⟨transfersTo_eq_nil ?_, receivedBytes?_none payload kinds⟩
  intro u mem same
  exact bus (same ▸ kinds u mem)

/-! ## Programs that write nothing -/

/-- All kinds of calls but the write to the bus. -/
abbrev offBus : List Kind :=
  [.setup, .deviceInit, .reset, .time, .sleep, .queue, .threads, .interrupts, .text, .pib, .gpif,
    .smState, .dma, .transfer, .endpoint, .speed, .ack, .stall, .dataOut, .dataIn, .lpm, .i2cRead,
    .i2cError, .gpio, .gpioRead]

section Programs

variable {α : Type} {p : Fw α} {w w' : World} {tr : List FwCall} {a : α}

theorem Makes.unwritten (makes : Makes offBus p) (runs : Runs sdk p w tr a w') :
    ∀ t ∈ tr, t.call.kind ≠ .i2cWrite := by
  intro t mem same
  have kind := makes.run runs t mem
  rw [same] at kind
  revert kind
  decide

theorem Makes.spares (makes : Makes offBus p) (runs : Runs sdk p w tr a w') (addr : UInt8) :
    transfersTo addr tr = [] :=
  transfersTo_eq_nil (makes.unwritten runs)

theorem usbEventCallback_offBus (evtype : UInt8) (evdata : UInt16) :
    Makes offBus (usbEventCallback evtype evdata) := by
  have start : Makes offBus startApplication := startApplication_makes.mono (by decide)
  have stop : Makes offBus stopApplication := stopApplication_makes.mono (by decide)
  simp [usbEventCallback, start, stop]

theorem healthTick_offBus : Makes offBus healthTick := by
  have healthy : Makes offBus clockHealthy := by simp [clockHealthy]
  have detects : Makes offBus streamingWedgeDetected := by
    simp [streamingWedgeDetected, stallSample, coldStartSample, clearStrikes]
  have evaluates : Makes offBus healthEvaluate := by simp [healthEvaluate, call, detects]
  have capped : Makes offBus recoverCapped := by simp [recoverCapped, healthy]
  have light : Makes offBus recoverLight := by simp [recoverLight, recoverRestart, call, healthy]
  have recovers (hs : HealthStatus) : Makes offBus (healthRecover hs) := by
    cases hs <;> simp [healthRecover, capped, light]
  simp [healthTick, healthMainHeartbeat, healthRemedy, evaluates, recovers]

theorem refused_offBus {s : Setup} (refused : s.command? = none) :
    Makes offBus (setupRequest s) := by
  unfold setupRequest
  split
  next => exact (standardRequest_makes s).mono (by decide)
  next =>
    split
    next vendor =>
      unfold vendorRequest
      split
      next => simp
      next short =>
        split
        next => simp
        next right =>
          have unknown : FX3Command.ofCode? s.bRequest = none := by
            rw [← refused, Setup.command?, if_pos ⟨vendor, short, right⟩]
          rw [unknown]
          simp [vendorCommand, unknownRequest]
    next => exact makes_pure _

theorem command_offBus (s : Setup) {c : FX3Command} (adc : c ≠ .startadc) (i2c : c ≠ .i2cwfx3) :
    Makes offBus (vendorCommand s (some c)) := by
  apply (vendorCommand_makes s (some c)).mono
  cases c with
  | startadc => exact absurd rfl adc
  | i2cwfx3 => exact absurd rfl i2c
  | _ => decide

theorem initializeUSB_offBus : Makes offBus initializeUSB := by
  have start : Makes offBus startApplication := startApplication_makes.mono (by decide)
  have stop : Makes offBus stopApplication := stopApplication_makes.mono (by decide)
  have descriptors (names : List String) (overall : ReturnStatus) :
      Makes offBus (setDescriptors names overall) := by
    induction names generalizing overall with
    | nil => exact makes_pure _
    | cons name rest ih => simp [setDescriptors, call, ih]
  simp [initializeUSB, startUSBDriver, setUSBdescriptors, call, start, stop, descriptors]

def bootBeforeClock : Fw Unit := do
  void .deviceInit
  modify fun _ => Ram.init
  cyFxApplicationDefine
  modifyApp fun a => { a with glHWconfig := rx888r2 }
  gpioInitClock

def bootAfterClock : Fw Unit := do
  debugPrint "HWconfig: %d." [.num (← ram).app.glHWconfig.toUInt32]
  rx888r2GpioInitialize
  let status ← initializeUSB
  checkStatus "Initialize USB" status
  if status = cyU3PSuccess then
    debugPrint "\r\nApplication started with %d" [.num 0]
  else
    debugPrint "\r\nApplication failed to initialize. Error code: %d.\r\n" [.num status]

/-- Nothing of the boot is left out. -/
theorem boot_clock_eq :
    boot = bootBeforeClock >>= fun _ => initClock >>= fun _ => bootAfterClock := by
  simp only [boot, applicationThreadStart, bootBeforeClock, bootAfterClock, bind_assoc]

theorem bootBeforeClock_offBus : Makes offBus bootBeforeClock := by
  have define : Makes offBus cyFxApplicationDefine := by
    simp [cyFxApplicationDefine, initializeDebugConsole, healthInit, call]
  simp [bootBeforeClock, define, gpioInitClock, call]

theorem bootAfterClock_offBus : Makes offBus bootAfterClock := by
  have outputs (pins : List UInt8) : Makes offBus (confOutputs pins) := by
    induction pins with
    | nil => exact makes_pure ()
    | cons pin pins ih => simp [confOutputs, confGpioSimpleOut, call, ih]
  have levels : Makes offBus rx888r2GpioInitialize := by simp [rx888r2GpioInitialize, outputs]
  simp [bootAfterClock, levels, initializeUSB_offBus]

end Programs

/-! ## Steps -/

section Steps

variable {t : device.Step}

/-- A request as its command runs. -/
theorem device_split {setupdat0 setupdat1 : UInt32} {c : FX3Command}
    (act : t.act = .request setupdat0 setupdat1)
    (executes : (Setup.decode setupdat0 setupdat1).command? = some c) :
    ∃ before made after w₁ isHandled w₂, t.trace = before ++ (made ++ after) ∧
      Runs sdk (vendorCommand (Setup.decode setupdat0 setupdat1) (some c)) w₁ made isHandled w₂ ∧
        ∀ u ∈ before ++ after, u.call.kind ∈ [.time, .text] := by
  have runs := t.runs
  rw [act] at runs
  exact request_split executes runs

theorem step_unwritten (booted : t.act ≠ .boot)
    (other : ∀ c, t.act.command? = some c → c ≠ .startadc ∧ c ≠ .i2cwfx3) :
    ∀ u ∈ t.trace, u.call.kind ≠ .i2cWrite := by
  have runs := t.runs
  have programs : Makes offBus t.act.prog := by
    cases act : t.act with
    | boot => exact absurd act booted
    | request setupdat0 setupdat1 =>
        have request : Makes offBus (setupRequest (Setup.decode setupdat0 setupdat1)) := by
          cases command : (Setup.decode setupdat0 setupdat1).command? with
          | none => exact refused_offBus command
          | some c =>
              rw [act] at other
              obtain ⟨adc, i2c⟩ := other c command
              rw [setupRequest_eq command]
              simp [command_offBus _ adc i2c]
        simp [Act.prog, cyFxSlFifoApplnUSBSetupCB, request]
    | usbEvent evtype evdata => exact usbEventCallback_offBus evtype evdata
    | tick => exact healthTick_offBus
    | buffers count => simp [Act.prog]
    | active flag => simp [Act.prog]
  exact programs.unwritten runs

theorem around_unwritten {tr : List FwCall} (kinds : ∀ u ∈ tr, u.call.kind ∈ [.time, .text])
    (addr : UInt8) : transfersTo addr tr = [] := by
  apply transfersTo_eq_nil
  intro u mem same
  have kind := kinds u mem
  rw [same] at kind
  revert kind
  decide

end Steps

end Rx888
