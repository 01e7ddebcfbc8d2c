import Rx888.Firmware.Si5351
import Rx888.Firmware.Radio
import Rx888.Firmware.Health

/-! # Starting and stopping the streaming pipeline

`StartStopApplication.c`: the interrupt and DMA callbacks, the preflight check,
and the two functions that build and tear down the GPIF, the DMA channel and the
bulk endpoint.
-/

namespace Rx888

/-- The first overflow of a session queues an event; later ones only count. -/
def pibErrorCallback (isError : Bool) (cbArg : UInt16) : Fw Unit :=
  if isError then do
    countUp 0
    modifyPib fun s => { s with glLastPibArg := cbArg }
    if ¬ (← ram).pib.glPibNotified then
      void (.queueSend (((2 : UInt32) <<< 24) ||| cbArg.toUInt32))
      modifyPib fun s => { s with glPibNotified := true }
  else pure ()

/-- A produce event counts a buffer, unless the cold-start test hook is armed. -/
def dmaCallback (isProdEvent : Bool) : Fw Unit :=
  if isProdEvent then do
    if ¬ (← ram).hooks.glHealthForceColdStart then
      modifyDMACount fun n => n + 1
  else pure ()

/-- The hardware preconditions of a start: CLK0 enabled, then PLL A locked. -/
def gpifPreflightCheck : Fw Bool := do
  if ¬ (← si5351Clk0Enabled) then
    debugPrint "\r\nPreflight FAIL: ADC clock not enabled" []
    return false
  if ¬ (← si5351PllLocked) then
    debugPrint "\r\nPreflight FAIL: Si5351 PLL_A not locked" []
    return false
  return true

def startGPIF : Fw ReturnStatus := do
  modifyPib fun s => { s with glPibNotified := false }
  debugPrint "\r\nGPIF file %s" [.text "HF103.h"]
  let status : ReturnStatus ← call .gpifLoad
  checkStatus "GpifLoad" status
  call (.gpifSMStart 0 0)

def glBusSpeed : Fin 4 → String
  | 0 => "Not Connected"
  | 1 => "Full "
  | 2 => "High "
  | 3 => "Super"

def clearStreamCounters : Fw Unit := do
  modifyDMACount fun _ => 0
  countClear 2
  countClear 1
  countClear 0
  modifyPib fun s => { s with glLastPibArg := 0 }
  modifyPib fun s => { s with glPibNotified := false }

/-- Build the pipeline and leave the state machine in its idle state: FW_TRG is
not raised here. -/
def startApplication : Fw Unit := do
  let usbSpeed : Fin 4 ← call .usbGetSpeed
  debugPrint "\r\n@StartApplication, running at %sSpeed" [.text (glBusSpeed usbSpeed)]
  let status : ReturnStatus ← call .pibInit
  checkStatus "Start GPIF Clock" status
  clearStreamCounters
  let status : ReturnStatus ← call (.setEpConfig cyFxEpConsumer true)
  checkStatus "CyU3PSetEpConfig Consumer" status
  void (.usbFlushEp cyFxEpConsumer)
  let status : ReturnStatus ← call .dmaMultiChannelCreate
  checkStatus "CyU3PDmaMultiChannelCreate" status
  let status : ReturnStatus ← call (.dmaMultiChannelSetXfer fifoDmaRxSize 0)
  checkStatus "CyU3PDmaMultiChannelSetXfer" status
  void .pibRegisterCallback
  let status ← startGPIF
  checkStatus "GpifStart" status
  modifyApp fun a => { a with glIsApplnActive := true }

/-- Tear the pipeline down and park the ADC. -/
def stopApplication : Fw Unit := do
  void (.gpifDisable true)
  let status : ReturnStatus ← call .pibDeInit
  checkStatus "Stop GPIF Block" status
  let status : ReturnStatus ← call .dmaMultiChannelDestroy
  checkStatus "DmaMultiChannelDestroy" status
  let status : ReturnStatus ← call (.usbFlushEp cyFxEpConsumer)
  checkStatus "FlushEndpoint" status
  let status : ReturnStatus ← call (.setEpConfig cyFxEpConsumer false)
  checkStatus "SetEndpointConfig_Disable" status
  rx888r2AdcStandby true
  modifyApp fun a => { a with glIsApplnActive := false }

end Rx888
