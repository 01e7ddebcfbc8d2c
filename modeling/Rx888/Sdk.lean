import Rx888.CallProgram.Run

/-! # The SDK calls the firmware makes

One constructor per SDK function, with the arguments the firmware passes, and
for each the type of its answer. `Hw` is the part of the chip these calls act on,
as the SDK headers describe it: loading, starting and disabling the GPIF block,
the software input FW_TRG, the P-port block, the multichannel DMA channel, the
bulk endpoint, link power management and the GPIO levels.
-/

namespace Rx888

open CallProgram

abbrev ReturnStatus := UInt32

def cyU3PSuccess : ReturnStatus := 0

/-- A status that reports a failure. -/
abbrev Failure := { status : ReturnStatus // status ≠ cyU3PSuccess }

/-- The status a call that also delivers data returned. -/
def statusOf {α : Type} : Except Failure α → ReturnStatus
  | .ok _ => cyU3PSuccess
  | .error e => e.1

/-- `CyU3PI2cPreamble_t`: the bytes sent ahead of the data and the start/stop mask. -/
structure I2cPreamble where
  buffer : List UInt8
  ctrlMask : UInt16
  deriving DecidableEq, Repr

/-- An argument of a debug message. -/
inductive DebugArg where
  | num (n : UInt32)
  | text (s : String)
  deriving DecidableEq, Repr

inductive Call where
  | deviceInit
  | deviceReset (isWarmReset : Bool)
  | getTime
  | threadSleep (ms : UInt32)
  | sysWatchDogConfigure (enable : Bool) (period : UInt32)
  | sysWatchDogClear
  | timerCreate (initialTicks rescheduleTicks : UInt32)
  | queueCreate
  | queueSend (message : UInt32)
  | queueReceive
  | threadCreate
  | threadInfoGet
  | stackFree
  | uartInit
  | uartSetConfig
  | uartTxSetBlockXfer (txSize : UInt32)
  | uartRxSetBlockXfer (rxSize : UInt32)
  | debugInit
  | debugPreamble (sendPreamble : Bool)
  | consoleChannelCreate
  | consoleChannelDestroy
  | consoleChannelSetXfer (count : UInt32)
  | consoleChannelSetWrapUp
  | consoleChannelGetBuffer
  | consoleChannelDiscardBuffer
  | vicDisableAllInterrupts
  | vicEnableInterrupts (mask : UInt32)
  | debugPrint (fmt : String) (args : List DebugArg)
  | uartDebugPrint (fmt : String) (args : List DebugArg)
  | pibInit
  | pibDeInit
  | pibRegisterCallback
  | gpifLoad
  | gpifSMStart (stateIndex initialAlpha : UInt8)
  | gpifDisable (forceReload : Bool)
  | gpifControlSWInput (set : Bool)
  | gpifGetSMState
  | dmaMultiChannelCreate
  | dmaMultiChannelSetXfer (count : UInt32) (multiSckOffset : UInt16)
  | dmaMultiChannelReset
  | dmaMultiChannelDestroy
  | setEpConfig (ep : UInt8) (enable : Bool)
  | usbFlushEp (ep : UInt8)
  | usbStart
  | usbRegisterCallbacks
  | usbSetDesc (descr : String)
  | readDeviceRegisters
  | connectState (connect ssEnable : Bool)
  | usbGetSpeed
  | usbAckSetup
  | usbStall (ep : UInt8) (stall toggle : Bool)
  | usbGetEP0Data (count : UInt16)
  | usbSendEP0Data (bytes : List UInt8)
  | usbLPMEnable
  | usbLPMDisable
  | i2cInit
  | i2cSetConfig
  | i2cReceiveBytes (preamble : I2cPreamble) (byteCount : UInt8)
  | i2cTransmitBytes (preamble : I2cPreamble) (bytes : List UInt8)
  | i2cGetErrorCode
  | gpioInit
  | deviceGpioOverride (gpioId : UInt8)
  | gpioSetSimpleConfig (gpioId : UInt8) (outValue : Bool)
  | gpioSetValue (gpioId : UInt8) (value : Bool)
  | gpioGetValue (gpioId : UInt8)
  deriving Repr

/-- What a call hands back. A debug message is answered by the text the formatter
made of it, or by none when it could not; a failed read of the state machine or
of data leaves the caller's variable as it was. The console's channel delivers the
first byte of its buffer. `threadInfoGet` is the walk along the ring of threads, by
their names, from the caller's own on, and `stackFree` the bytes of the application
thread's stack that still hold the fill pattern. -/
@[reducible] def Call.Ans : Call → Type
  | .deviceInit | .deviceReset _ | .uartDebugPrint _ _ | .gpifDisable _
  | .gpifControlSWInput _ | .usbAckSetup | .usbRegisterCallbacks | .pibRegisterCallback
  | .vicEnableInterrupts _ | .sysWatchDogClear | .debugPreamble _ => Unit
  | .getTime | .vicDisableAllInterrupts | .i2cGetErrorCode | .stackFree => UInt32
  | .queueReceive => Except Failure UInt32
  | .threadInfoGet => String × List String
  | .consoleChannelGetBuffer => UInt8
  | .debugPrint _ _ => Option (List UInt8)
  | .gpifGetSMState => Option UInt8
  | .usbGetSpeed => Fin 4
  | .usbGetEP0Data count => Except Failure (Vector UInt8 count.toNat)
  | .i2cReceiveBytes _ byteCount => Except Failure (Vector UInt8 byteCount.toNat)
  | .gpioGetValue _ => Except Failure Bool
  | _ => ReturnStatus

/-! ## The chip behind the calls -/

/-- `smLeftIdle` records that FW_TRG has been high while the state machine ran, so
that it may have moved on from its idle state. -/
structure Hw where
  pibOn : Bool
  gpifLoaded : Bool
  smRunning : Bool
  smLeftIdle : Bool
  fwTrg : Bool
  dmaChannel : Bool
  epEnabled : Bool
  lpmEnabled : Bool
  gpio : UInt8 → Bool

def Hw.reset : Hw where
  pibOn := false
  gpifLoaded := false
  smRunning := false
  smLeftIdle := false
  fwTrg := false
  dmaChannel := false
  epEnabled := false
  lpmEnabled := true
  gpio := fun _ => false

def Hw.setGpio (hw : Hw) (pin : UInt8) (value : Bool) : Hw :=
  { hw with gpio := fun p => if p = pin then value else hw.gpio p }

/-- The effect of an answered call. Loading, creating and tearing down count from
the call on; a state machine start counts when it is reported successful, and so
does a GPIO write. -/
def Hw.after (hw : Hw) : (c : Call) → c.Ans → Hw
  | .deviceInit, _ => Hw.reset
  | .pibInit, _ => { hw with pibOn := true }
  | .pibDeInit, _ => { hw with pibOn := false }
  | .gpifLoad, _ => { hw with gpifLoaded := true }
  | .gpifSMStart _ _, status =>
      if status = cyU3PSuccess then
        { hw with smRunning := true, smLeftIdle := hw.smLeftIdle || hw.fwTrg }
      else hw
  | .gpifDisable forceReload, _ =>
      { hw with
        smRunning := false, smLeftIdle := false, gpifLoaded := hw.gpifLoaded && !forceReload }
  | .gpifControlSWInput set, _ =>
      { hw with fwTrg := set, smLeftIdle := hw.smLeftIdle || (set && hw.smRunning) }
  | .dmaMultiChannelCreate, _ => { hw with dmaChannel := true }
  | .dmaMultiChannelDestroy, _ => { hw with dmaChannel := false }
  | .setEpConfig _ enable, _ => { hw with epEnabled := enable }
  | .usbLPMEnable, _ => { hw with lpmEnabled := true }
  | .usbLPMDisable, _ => { hw with lpmEnabled := false }
  | .gpioSetSimpleConfig pin outValue, status =>
      if status = cyU3PSuccess then hw.setGpio pin outValue else hw
  | .gpioSetValue pin value, status =>
      if status = cyU3PSuccess then hw.setGpio pin value else hw
  | _, _ => hw

@[simp] theorem Hw.setGpio_gpio_self (hw : Hw) (pin : UInt8) (value : Bool) :
    (hw.setGpio pin value).gpio pin = value := by
  simp [Hw.setGpio]

theorem Hw.setGpio_gpio_of_ne (hw : Hw) {pin p : UInt8} (value : Bool) (h : p ≠ pin) :
    (hw.setGpio pin value).gpio p = hw.gpio p := by
  simp [Hw.setGpio, h]

end Rx888
