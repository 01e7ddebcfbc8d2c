import Rx888.Pipeline.Commands

/-! # The kinds of calls

Every call has a kind, and `Makes kinds p` bounds the calls of a program by their kinds,
whatever it reads and is answered. Each function has a rule, tagged for `simp`; what a
request may call is a table, `commandKinds`.
-/

namespace Rx888

open CallProgram

inductive Kind where
  | setup
  | deviceInit
  | reset
  | time
  | sleep
  | queue
  | threads
  | interrupts
  | text
  | pib
  | gpif
  | smState
  | dma
  | transfer
  | endpoint
  | speed
  | ack
  | stall
  | dataOut
  | dataIn
  | lpm
  | i2cRead
  | i2cWrite
  | i2cError
  | gpio
  | gpioRead
  deriving DecidableEq, Repr

/-- The kind of a call; what only the boot, the enumeration and the UART console do is `setup`. -/
def Call.kind : Call → Kind
  | .sysWatchDogConfigure _ _ | .sysWatchDogClear | .timerCreate _ _ | .queueCreate
  | .threadCreate | .uartInit | .uartSetConfig | .uartTxSetBlockXfer _ | .uartRxSetBlockXfer _
  | .debugInit | .debugPreamble _ | .consoleChannelCreate | .consoleChannelDestroy
  | .consoleChannelSetXfer _ | .consoleChannelSetWrapUp | .consoleChannelGetBuffer
  | .consoleChannelDiscardBuffer | .usbStart | .usbRegisterCallbacks | .usbSetDesc _
  | .readDeviceRegisters | .connectState _ _ | .i2cInit | .i2cSetConfig | .gpioInit => .setup
  | .deviceInit => .deviceInit
  | .deviceReset _ => .reset
  | .getTime => .time
  | .threadSleep _ => .sleep
  | .queueSend _ | .queueReceive => .queue
  | .threadInfoGet | .stackFree => .threads
  | .vicDisableAllInterrupts | .vicEnableInterrupts _ => .interrupts
  | .debugPrint _ _ | .uartDebugPrint _ _ => .text
  | .pibInit | .pibDeInit | .pibRegisterCallback => .pib
  | .gpifLoad | .gpifSMStart _ _ | .gpifDisable _ | .gpifControlSWInput _ => .gpif
  | .gpifGetSMState => .smState
  | .dmaMultiChannelCreate | .dmaMultiChannelDestroy => .dma
  | .dmaMultiChannelSetXfer _ _ | .dmaMultiChannelReset => .transfer
  | .setEpConfig _ _ | .usbFlushEp _ => .endpoint
  | .usbGetSpeed => .speed
  | .usbAckSetup => .ack
  | .usbStall _ _ _ => .stall
  | .usbGetEP0Data _ => .dataOut
  | .usbSendEP0Data _ => .dataIn
  | .usbLPMEnable | .usbLPMDisable => .lpm
  | .i2cReceiveBytes _ _ => .i2cRead
  | .i2cTransmitBytes _ _ => .i2cWrite
  | .i2cGetErrorCode => .i2cError
  | .deviceGpioOverride _ | .gpioSetSimpleConfig _ _ | .gpioSetValue _ _ => .gpio
  | .gpioGetValue _ => .gpioRead

attribute [local simp] Call.kind

/-- Every call of the program is of one of the kinds. -/
def Makes {α : Type} (kinds : List Kind) (p : Fw α) : Prop :=
  p.Uses (fun _ => True) fun c => c.kind ∈ kinds

section Rules

variable {α β : Type} {kinds : List Kind} {p q : Fw α} {f : α → Fw β}

@[simp] theorem makes_pure (a : α) : Makes kinds (pure a : Fw α) := trivial

@[simp] theorem makes_ret (a : α) : Makes kinds (Prog.ret a : Fw α) := trivial

@[simp] theorem makes_bind : Makes kinds (p >>= f) ↔
    Makes kinds p ∧ ∀ a, p.Returns a → Makes kinds (f a) :=
  Prog.uses_bind p f

@[simp] theorem makes_map (g : α → β) : Makes kinds (g <$> p) ↔ Makes kinds p :=
  Prog.uses_map p g

@[simp] theorem makes_ite (c : Prop) [Decidable c] :
    Makes kinds (if c then p else q) ↔ (c → Makes kinds p) ∧ (¬ c → Makes kinds q) :=
  Prog.uses_ite c p q

@[simp] theorem makes_ram : Makes kinds ram := fun _ => trivial

@[simp] theorem makes_modify (g : Ram → Ram) : Makes kinds (modify g) := ⟨trivial, trivial⟩

@[simp] theorem makes_call (c : Call) (k : c.Ans → Fw α) :
    Makes kinds (Prog.call c k) ↔ c.kind ∈ kinds ∧ ∀ r, Makes kinds (k r) :=
  Iff.rfl

@[simp] theorem makes_void (c : Call) : Makes kinds (void c) ↔ c.kind ∈ kinds :=
  ⟨fun h => h.1, fun h => ⟨h, fun _ => trivial⟩⟩

theorem Makes.mono {kinds' : List Kind} (h : Makes kinds p) (sub : kinds ⊆ kinds') :
    Makes kinds' p :=
  Prog.Uses.mono h (fun _ => id) fun _ hc => sub hc

/-- The calls of a run are of the kinds its program makes. -/
theorem Makes.run {w w' : World} {tr : List FwCall} {a : α} (h : Makes kinds p)
    (run : Runs sdk p w tr a w') : ∀ t ∈ tr, t.call.kind ∈ kinds :=
  run.calls h

@[simp] theorem makes_modifyEp0 (g : Ep0Ram → Ep0Ram) : Makes kinds (modifyEp0 g) := makes_modify _

@[simp] theorem makes_modifySession (g : SessionRam → SessionRam) :
    Makes kinds (modifySession g) :=
  makes_modify _

@[simp] theorem makes_modifyHealth (g : HealthRam → HealthRam) : Makes kinds (modifyHealth g) :=
  makes_modify _

@[simp] theorem makes_modifyHooks (g : HookRam → HookRam) : Makes kinds (modifyHooks g) :=
  makes_modify _

@[simp] theorem makes_modifyPib (g : PibRam → PibRam) : Makes kinds (modifyPib g) := makes_modify _

@[simp] theorem makes_modifyDMACount (g : UInt32 → UInt32) : Makes kinds (modifyDMACount g) :=
  makes_modify _

@[simp] theorem makes_modifyApp (g : AppRam → AppRam) : Makes kinds (modifyApp g) := makes_modify _

@[simp] theorem makes_modifyConsole (g : ConsoleRam → ConsoleRam) :
    Makes kinds (modifyConsole g) :=
  makes_modify _

@[simp] theorem makes_modifyUsb (g : UsbRam → UsbRam) : Makes kinds (modifyUsb g) := makes_modify _

@[simp] theorem makes_setQevent (message : UInt32) : Makes kinds (setQevent message) :=
  makes_modify _

@[simp] theorem makes_countUp (i : Fin 20) : Makes kinds (countUp i) := makes_modify _

@[simp] theorem makes_countClear (i : Fin 20) : Makes kinds (countClear i) := makes_modify _

end Rules

/-! ## The functions of the firmware -/

section Firmware

variable {kinds : List Kind}

@[simp] theorem debugPrint_makes (fmt : String) (args : List DebugArg) (text : .text ∈ kinds) :
    Makes kinds (debugPrint fmt args) := by
  simp [debugPrint, text]

@[simp] theorem indicateError_makes (errorCode : UInt16) (gpio : .gpio ∈ kinds) :
    Makes kinds (indicateError errorCode) := by
  simp [indicateError, gpio]

@[simp] theorem errorBlink_makes (count : Nat) (gpio : .gpio ∈ kinds) (sleep : .sleep ∈ kinds) :
    Makes kinds (errorBlink count) := by
  induction count with
  | zero => exact makes_pure ()
  | succ count ih => simp [errorBlink, ih, gpio, sleep]

/-- The kinds a status check may come to. -/
abbrev checkKinds : List Kind := [.text, .gpio, .sleep, .reset]

@[simp] theorem checkStatus_makes (name : String) (status : ReturnStatus)
    (sub : checkKinds ⊆ kinds) : Makes kinds (checkStatus name status) := by
  refine Makes.mono ?_ sub
  simp [checkStatus, errorBlinkAndReset]

@[simp] theorem checkStatusSilent_makes (name : String) (status : ReturnStatus)
    (sub : checkKinds ⊆ kinds) : Makes kinds (checkStatusSilent name status) := by
  refine Makes.mono ?_ sub
  simp [checkStatusSilent, errorBlinkAndReset]

@[simp] theorem consoleAccumulateChar_makes (ch : UInt8) :
    Makes kinds (consoleAccumulateChar ch) := by
  simp [consoleAccumulateChar]

@[simp] theorem gpioSetValue_makes (pin : UInt8) (level : Bool) (gpio : .gpio ∈ kinds) :
    Makes kinds (gpioSetValue pin level) := by
  simp [gpioSetValue, gpio]

@[simp] theorem rx888r2GpioSet_makes (mdata : UInt32) (gpio : .gpio ∈ kinds) :
    Makes kinds (rx888r2GpioSet mdata) := by
  simp [rx888r2GpioSet, gpio]

@[simp] theorem rx888r2AdcStandby_makes (standby : Bool) (gpio : .gpio ∈ kinds) :
    Makes kinds (rx888r2AdcStandby standby) := by
  simp [rx888r2AdcStandby, gpio]

@[simp] theorem gpioBit_makes (pin : UInt8) (level : Bool) (bit s : UInt32)
    (gpioRead : .gpioRead ∈ kinds) : Makes kinds (gpioBit pin level bit s) := by
  unfold gpioBit
  refine makes_bind.mpr ⟨by simp [call, gpioRead], fun v _ => ?_⟩
  cases v <;> simp

@[simp] theorem rx888r2ReadGpioState_makes (gpioRead : .gpioRead ∈ kinds) :
    Makes kinds rx888r2ReadGpioState := by
  simp [rx888r2ReadGpioState, gpioRead]

@[simp] theorem gpioShiftBits_makes (mask : UInt8) (bits : Nat) (value : UInt8)
    (gpio : .gpio ∈ kinds) : Makes kinds (gpioShiftBits mask bits value) := by
  induction bits generalizing value with
  | zero => exact makes_pure ()
  | succ bits ih => simp [gpioShiftBits, ih, gpio]

@[simp] theorem gpioShiftOut_makes (latchPin value : UInt8) (bits : Nat) (gpio : .gpio ∈ kinds) :
    Makes kinds (gpioShiftOut latchPin value bits) := by
  simp [gpioShiftOut, gpio]

@[simp] theorem rx888r2SetAttenuator_makes (value : UInt8) (gpio : .gpio ∈ kinds) :
    Makes kinds (rx888r2SetAttenuator value) := by
  simp [rx888r2SetAttenuator, gpio]

@[simp] theorem rx888r2SetGain_makes (value : UInt8) (gpio : .gpio ∈ kinds) :
    Makes kinds (rx888r2SetGain value) := by
  simp [rx888r2SetGain, gpio]

@[simp] theorem countI2cFailure_makes (status : ReturnStatus) :
    Makes kinds (countI2cFailure status) := by
  simp [countI2cFailure]

@[simp] theorem i2cTransferRead_makes (byteAddress devAddr byteCount : UInt8)
    (i2cRead : .i2cRead ∈ kinds) :
    Makes kinds (i2cTransferRead byteAddress devAddr byteCount) := by
  simp [i2cTransferRead, call, i2cRead]

@[simp] theorem i2cTransferWrite_makes (byteAddress devAddr byteCount : UInt8)
    (buffer : List UInt8) (i2cWrite : .i2cWrite ∈ kinds) :
    Makes kinds (i2cTransferWrite byteAddress devAddr byteCount buffer) := by
  simp [i2cTransferWrite, call, i2cWrite]

@[simp] theorem i2cTransferW1_makes (byteAddress devAddr data : UInt8)
    (i2cWrite : .i2cWrite ∈ kinds) : Makes kinds (i2cTransferW1 byteAddress devAddr data) := by
  simp [i2cTransferW1, i2cWrite]

@[simp] theorem si5351PllLocked_makes (i2cRead : .i2cRead ∈ kinds) :
    Makes kinds si5351PllLocked := by
  refine makes_bind.mpr ⟨i2cTransferRead_makes _ _ _ i2cRead, fun data _ => ?_⟩
  cases data <;> exact makes_pure _

@[simp] theorem si5351Clk0Enabled_makes (i2cRead : .i2cRead ∈ kinds) :
    Makes kinds si5351Clk0Enabled := by
  refine makes_bind.mpr ⟨i2cTransferRead_makes _ _ _ i2cRead, fun data _ => ?_⟩
  cases data <;> exact makes_pure _

@[simp] theorem si5351aSetFrequencyA_makes (freq : UInt32) (i2cWrite : .i2cWrite ∈ kinds)
    (i2cError : .i2cError ∈ kinds) (text : .text ∈ kinds) :
    Makes kinds (si5351aSetFrequencyA freq) := by
  simp [si5351aSetFrequencyA, setupPLL, setupMultisynth, call, i2cWrite, i2cError, text]

@[simp] theorem gpifGetSMState_makes (smState : .smState ∈ kinds) : Makes kinds gpifGetSMState := by
  simp [gpifGetSMState, call, smState]

@[simp] theorem healthBootCount_makes : Makes kinds healthBootCount := by
  simp [healthBootCount]

@[simp] theorem healthRecordEvent_makes (e : HealthEvent) (time : .time ∈ kinds) :
    Makes kinds (healthRecordEvent e) := by
  cases e <;> simp [healthRecordEvent, call, time]

@[simp] theorem healthSetMaxRecovery_makes (max : UInt8) :
    Makes kinds (healthSetMaxRecovery max) := by
  simp [healthSetMaxRecovery]

@[simp] theorem healthResetRecoveryCount_makes : Makes kinds healthResetRecoveryCount := by
  simp [healthResetRecoveryCount]

@[simp] theorem healthSetResetEscalation_makes (enabled : Bool) :
    Makes kinds (healthSetResetEscalation enabled) := by
  simp [healthSetResetEscalation]

@[simp] theorem softStop_makes (failed : String) (sub : [.gpif, .sleep, .smState, .text] ⊆ kinds) :
    Makes kinds (softStop failed) := by
  refine Makes.mono ?_ sub
  simp [softStop]

@[simp] theorem gpifPreflightCheck_makes (i2cRead : .i2cRead ∈ kinds) (text : .text ∈ kinds) :
    Makes kinds gpifPreflightCheck := by
  simp [gpifPreflightCheck, i2cRead, text]

@[simp] theorem startGPIF_makes (gpif : .gpif ∈ kinds) (sub : checkKinds ⊆ kinds) :
    Makes kinds startGPIF := by
  have text : .text ∈ kinds := sub (by simp)
  simp [startGPIF, call, gpif, text, checkStatus_makes _ _ sub]

@[simp] theorem clearStreamCounters_makes : Makes kinds clearStreamCounters := by
  simp [clearStreamCounters]

abbrev startAppKinds : List Kind := [.speed, .pib, .endpoint, .dma, .transfer, .gpif] ++ checkKinds

theorem startApplication_makes : Makes startAppKinds startApplication := by
  simp [startApplication, call]

abbrev stopAppKinds : List Kind := [.gpif, .pib, .dma, .endpoint] ++ checkKinds

theorem stopApplication_makes : Makes stopAppKinds stopApplication := by
  simp [stopApplication, call]

/-! ## The requests -/

@[simp] theorem ep0Put_makes (off : Nat) (bytes : List UInt8) : Makes kinds (ep0Put off bytes) := by
  simp [ep0Put]

@[simp] theorem ep0Clear_makes : Makes kinds ep0Clear := by
  simp [ep0Clear]

@[simp] theorem getEP0Data_makes (wLength : UInt16) (dataOut : .dataOut ∈ kinds) :
    Makes kinds (getEP0Data wLength) := by
  unfold getEP0Data
  refine makes_bind.mpr ⟨by simp [call, dataOut], fun answer _ => ?_⟩
  cases answer <;> simp

@[simp] theorem sendEP0Data_makes (count : UInt16) (dataIn : .dataIn ∈ kinds) :
    Makes kinds (sendEP0Data count) := by
  simp [sendEP0Data, dataIn]

@[simp] theorem stallEP0_makes (stall : .stall ∈ kinds) : Makes kinds stallEP0 := by
  simp [stallEP0, stall]

@[simp] theorem countVendorRqt_makes : Makes kinds countVendorRqt := by
  simp [countVendorRqt]

@[simp] theorem pollPllLocked_makes (rounds : Nat) (sleep : .sleep ∈ kinds)
    (i2cRead : .i2cRead ∈ kinds) : Makes kinds (pollPllLocked rounds) := by
  induction rounds with
  | zero => exact makes_pure _
  | succ rounds ih => simp [pollPllLocked, ih, sleep, i2cRead]

@[simp] theorem readRegisterOr_makes (reg initial : UInt8) (i2cRead : .i2cRead ∈ kinds) :
    Makes kinds (readRegisterOr reg initial) := by
  refine makes_bind.mpr ⟨i2cTransferRead_makes _ _ _ i2cRead, fun data _ => ?_⟩
  cases data <;> exact makes_pure _

@[simp] theorem traceSerial_makes (bRequest : UInt8) (wValue wIndex : UInt16)
    (text : .text ∈ kinds) : Makes kinds (traceSerial bRequest wValue wIndex) := by
  have command : Makes kinds (traceCommand bRequest) := by
    unfold traceCommand
    split <;> simp [text]
  have arguments : Makes kinds (traceArguments bRequest wValue wIndex) := by
    unfold traceArguments
    split
    · split <;> simp [text]
    all_goals simp [text]
  simp [traceSerial, command, arguments, text]

end Firmware

/-- What the case of a command may call. -/
def commandKinds : Option FX3Command → List Kind
  | some .gpiofx3 => [.dataOut, .gpio]
  | some .startadc =>
      [.dataOut, .smState, .gpif, .transfer, .endpoint, .i2cWrite, .i2cError, .sleep, .i2cRead,
        .text]
  | some .getstats => [.smState, .i2cRead, .gpioRead, .dataIn]
  | some .i2cwfx3 => [.dataOut, .i2cWrite, .i2cError, .text]
  | some .i2crfx3 => [.i2cRead, .i2cError, .dataIn, .text]
  | some .setargfx3 => [.dataOut, .gpio, .stall]
  | some .startfx3 =>
      [.lpm, .dataOut, .i2cRead, .gpif, .transfer, .endpoint, .smState, .stall] ++ checkKinds
  | some .stopfx3 => [.lpm, .dataOut, .gpif, .smState, .transfer, .endpoint, .gpio, .sleep, .text]
  | some .resetfx3 => [.dataOut, .text, .sleep, .reset]
  | some .testfx3 => [.dataIn]
  | some .readinfodebug => [.queue, .interrupts, .dataIn, .stall]
  | some .hangfx3 => [.text, .sleep, .ack]
  | some .hangcoldstart | some .hangmain => [.text, .ack]
  | none => [.text, .stall]

theorem i2crfx3_makes (s : Setup) : Makes [.i2cRead, .i2cError, .dataIn, .text] (i2crfx3 s) := by
  unfold i2crfx3
  refine (makes_ite _).mpr ⟨fun _ => by simp, fun _ => makes_bind.mpr ⟨by simp, fun _ _ => ?_⟩⟩
  refine makes_bind.mpr ⟨by simp, fun data _ => ?_⟩
  cases data <;> simp [call]

theorem setargfx3_makes (s : Setup) : Makes [.dataOut, .gpio, .stall] (setargfx3 s) := by
  unfold setargfx3
  refine makes_bind.mpr ⟨by simp, fun _ _ => ?_⟩
  cases ArgumentList.ofIndex? s.wIndex with
  | none => simp
  | some arg => cases arg <;> simp

theorem vendorCommand_makes (s : Setup) (command : Option FX3Command) :
    Makes (commandKinds command) (vendorCommand s command) := by
  cases command with
  | none => simp [vendorCommand, unknownRequest, commandKinds]
  | some command =>
      cases command with
      | gpiofx3 => simp [vendorCommand, gpiofx3, commandKinds]
      | startadc => simp [vendorCommand, startadc, implicitStop, commandKinds]
      | getstats => simp [vendorCommand, getstats, commandKinds]
      | i2cwfx3 => simp [vendorCommand, i2cwfx3, commandKinds, call]
      | i2crfx3 => exact i2crfx3_makes s
      | setargfx3 => exact setargfx3_makes s
      | startfx3 =>
          simp [vendorCommand, startfx3, restartStream, reportStart, commandKinds, call]
      | stopfx3 => simp [vendorCommand, stopfx3, commandKinds]
      | resetfx3 => simp [vendorCommand, resetfx3, commandKinds]
      | testfx3 => simp [vendorCommand, testfx3, commandKinds]
      | readinfodebug => simp [vendorCommand, readinfodebug, commandKinds, call]
      | hangfx3 => simp [vendorCommand, hangfx3, commandKinds]
      | hangcoldstart => simp [vendorCommand, hangcoldstart, commandKinds]
      | hangmain => simp [vendorCommand, hangmain, commandKinds]

theorem standardRequest_makes (s : Setup) :
    Makes [.ack, .stall, .endpoint] (standardRequest s) := by
  simp [standardRequest]

/-- The kinds of calls a setup packet may lead to. -/
abbrev requestKinds : List Kind :=
  [.reset, .time, .sleep, .queue, .interrupts, .text, .gpif, .smState, .transfer, .endpoint,
    .ack, .stall, .dataOut, .dataIn, .lpm, .i2cRead, .i2cWrite, .i2cError, .gpio, .gpioRead]

theorem commandKinds_request (command : Option FX3Command) :
    commandKinds command ⊆ requestKinds := by
  cases command with
  | none => decide
  | some command => cases command <;> decide

theorem setupRequest_makes (s : Setup) : Makes requestKinds (setupRequest s) := by
  have command (c : Option FX3Command) : Makes requestKinds (vendorCommand s c) :=
    (vendorCommand_makes s c).mono (commandKinds_request c)
  have standard : Makes requestKinds (standardRequest s) :=
    (standardRequest_makes s).mono (by decide)
  simp [setupRequest, vendorRequest, command, standard]

end Rx888
