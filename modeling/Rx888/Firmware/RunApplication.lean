import Rx888.Firmware.UsbHandler

/-! # Start-up and the main loop's health tick

`RunApplication.c`, with the console's initialization from `DebugConsole.c`.
-/

namespace Rx888

/-- What a tick does with the verdict. -/
def healthRemedy (hs : HealthStatus) : Fw Unit :=
  if hs ≠ .ok then do
    debugPrint "\r\nHEALTH: status=%d, recovering" [.num hs.code]
    healthRecover hs
  else pure ()

/-- `health_tick`, run by every main-loop iteration. -/
def healthTick : Fw Unit := do
  healthMainHeartbeat
  let hs ← healthEvaluate
  healthRemedy hs

def initializeDebugConsole : Fw ReturnStatus := do
  let status : ReturnStatus ← call .uartInit
  checkStatus "CyU3PUartInit" status
  let status : ReturnStatus ← call .uartSetConfig
  checkStatus "CyU3PUartSetConfig" status
  let status : ReturnStatus ← call (.uartTxSetBlockXfer 0xFFFFFFFF)
  checkStatus "CyU3PUartTxSetBlockXfer" status
  let status : ReturnStatus ← call .debugInit
  if status = cyU3PSuccess then
    modifyConsole fun c => { c with glDebugTxEnabled := true }
  checkStatus "ConsoleOutEnabled" status
  void (.debugPreamble false)
  let status : ReturnStatus ← call (.uartRxSetBlockXfer 1)
  checkStatus "CyU3PUartRxSetBlockXfer" status
  let status : ReturnStatus ← call .consoleChannelCreate
  checkStatus "CreateDebugRxDmaChannel" status
  if status ≠ cyU3PSuccess then
    void .consoleChannelDestroy
    return status
  else
    let status : ReturnStatus ← call (.consoleChannelSetXfer 0)
    checkStatus "ConsoleInEnabled" status
    return status

def gpioInitClock : Fw Unit := do
  let status : ReturnStatus ← call .gpioInit
  checkStatus "CyU3PGpioInit" status

def rx888r2 : UInt8 := 0x04

/-- The bring-up of the I2C bus and the clock chip; a failure is only reported. -/
def initClock : Fw Unit := do
  let status ← i2cInit
  if status ≠ cyU3PSuccess then
    debugPrint "I2cInit failed to initialize. Error code: %d." [.num status]
  else
    let status ← si5351Init
    if status ≠ cyU3PSuccess then
      debugPrint "Si5351Init failed to initialize. Error code: %d." [.num status]

/-- `ApplicationThread` up to its loops. -/
def applicationThreadStart (input : UInt32) : Fw Unit := do
  modifyApp fun a => { a with glHWconfig := rx888r2 }
  gpioInitClock
  initClock
  debugPrint "HWconfig: %d." [.num (← ram).app.glHWconfig.toUInt32]
  rx888r2GpioInitialize
  let status ← initializeUSB
  checkStatus "Initialize USB" status
  if status = cyU3PSuccess then
    debugPrint "\r\nApplication started with %d" [.num input]
  else
    debugPrint "\r\nApplication failed to initialize. Error code: %d.\r\n" [.num status]

/-- `CyFxApplicationDefine`, which the kernel enters first. -/
def cyFxApplicationDefine : Fw Unit := do
  indicateError 0
  let status ← initializeDebugConsole
  checkStatus "Initialize Debug Console" status
  healthInit
  let status : ReturnStatus ← call .queueCreate
  checkStatus "Create EventAvailableQueue" status
  let status : ReturnStatus ← call .threadCreate
  checkStatus "CyFxApplicationDefine" status

/-- A boot: the chip comes out of reset, the startup code lays out the statics, and
the application thread runs up to its main loop. -/
def boot : Fw Unit := do
  void .deviceInit
  modify fun _ => Ram.init
  cyFxApplicationDefine
  applicationThreadStart 0

end Rx888
