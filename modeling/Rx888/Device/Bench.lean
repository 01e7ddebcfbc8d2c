import Rx888.Device.Steps

/-! # A bench for scripted runs

Every call succeeds; what the reads deliver is set by the script.
-/

namespace Rx888

open CallProgram

/-- What the reads deliver: the state of the state machine by the number of the call in
its handler, the clock chip's registers 16 and 0, the time, and the host's data phase. -/
structure Bench where
  smState : Nat → UInt8
  clk0Control : UInt8
  pllStatus : UInt8
  time : UInt32
  hostData : List UInt8

/-- The state machine idle, the clock healthy. -/
def Bench.idle : Bench where
  smState _ := gpifIdle
  clk0Control := 0x4F
  pllStatus := 0x00
  time := 0
  hostData := []

def Bench.answer (b : Bench) (n : Nat) : (c : Call) → c.Ans
  | .deviceInit | .deviceReset _ | .uartDebugPrint _ _ | .gpifDisable _
  | .gpifControlSWInput _ | .usbAckSetup | .usbRegisterCallbacks | .pibRegisterCallback
  | .vicEnableInterrupts _ | .sysWatchDogClear | .debugPreamble _ => ()
  | .getTime => b.time
  | .vicDisableAllInterrupts | .i2cGetErrorCode | .stackFree => (0 : UInt32)
  | .queueReceive => .error ⟨1, by decide⟩
  | .threadInfoGet => ("", [])
  | .consoleChannelGetBuffer => 0x0d
  | .debugPrint _ _ => none
  | .gpifGetSMState => some (b.smState n)
  | .usbGetSpeed => 3
  | .usbGetEP0Data count => .ok (Vector.ofFn fun (i : Fin count.toNat) => b.hostData.getD i 0)
  | .i2cReceiveBytes preamble byteCount =>
      .ok (Vector.replicate byteCount.toNat
        (if preamble.buffer.getD 1 0 = siClk0Control then b.clk0Control else b.pllStatus))
  | .gpioGetValue _ => .ok false
  | .threadSleep _ | .sysWatchDogConfigure _ _ | .timerCreate _ _ | .queueCreate | .queueSend _
  | .threadCreate | .uartInit | .uartSetConfig | .uartTxSetBlockXfer _ | .uartRxSetBlockXfer _
  | .debugInit | .consoleChannelCreate | .consoleChannelDestroy | .consoleChannelSetXfer _
  | .consoleChannelSetWrapUp | .consoleChannelDiscardBuffer
  | .pibInit | .pibDeInit | .gpifLoad | .gpifSMStart _ _ | .dmaMultiChannelCreate
  | .dmaMultiChannelSetXfer _ _ | .dmaMultiChannelReset | .dmaMultiChannelDestroy
  | .setEpConfig _ _ | .usbFlushEp _ | .usbStart | .usbSetDesc _ | .readDeviceRegisters
  | .connectState _ _ | .usbStall _ _ _ | .usbSendEP0Data _ | .usbLPMEnable | .usbLPMDisable
  | .i2cInit | .i2cSetConfig | .i2cTransmitBytes _ _ | .gpioInit | .deviceGpioOverride _
  | .gpioSetSimpleConfig _ _ | .gpioSetValue _ _ => cyU3PSuccess

/-- The bench prints nothing, so its answers are always allowed. -/
theorem Bench.allowed (b : Bench) (w : World) (n : Nat) (c : Call) :
    sdk.allows w c (b.answer n c) := by
  cases c with
  | debugPrint fmt args =>
      intro bytes h
      cases h
  | _ => trivial

def Bench.oracle (b : Bench) : Oracle sdk where
  answer := b.answer
  allowed := b.allowed

def vendorSetup (hostIn : Bool) (command : FX3Command) (wValue wIndex wLength : UInt16) : Act :=
  .request ((if hostIn then (0xC0 : UInt32) else 0x40) ||| (command.code.toUInt32 <<< 8) |||
    (wValue.toUInt32 <<< 16)) (wIndex.toUInt32 ||| (wLength.toUInt32 <<< 16))

/-- The statics and the chip before anything has run. -/
def powerUp : World := ⟨Ram.init, Hw.reset⟩

/-- A run from power-up by a script of actions, each on its own bench. -/
def benchRun (script : List (Act × Bench)) : List device.Step × World :=
  device.performAll ((Act.boot, Bench.idle.oracle) :: script.map fun ab => (ab.1, ab.2.oracle))
    powerUp

theorem benchRun_run (script : List (Act × Bench)) :
    device.Run (benchRun script).1 (benchRun script).2 :=
  System.performAll_run rfl _ _ _

end Rx888
