import Rx888.Firmware.StartStop

/-! # Vendor requests and USB events

`USBHandler.c`. Each `case` of the request switch is a program of its own that
returns `isHandled`; `cyFxSlFifoApplnUSBSetupCB` decodes, checks the length and
the direction, and brackets the case between the liveness events.
-/

namespace Rx888

inductive FX3Command where
  | startfx3
  | stopfx3
  | testfx3
  | gpiofx3
  | i2cwfx3
  | i2crfx3
  | resetfx3
  | startadc
  | getstats
  | setargfx3
  | readinfodebug
  | hangfx3
  | hangmain
  | hangcoldstart
  deriving DecidableEq, Repr

def FX3Command.code : FX3Command → UInt8
  | .startfx3 => 0xAA
  | .stopfx3 => 0xAB
  | .testfx3 => 0xAC
  | .gpiofx3 => 0xAD
  | .i2cwfx3 => 0xAE
  | .i2crfx3 => 0xAF
  | .resetfx3 => 0xB1
  | .startadc => 0xB2
  | .getstats => 0xB3
  | .setargfx3 => 0xB6
  | .readinfodebug => 0xBA
  | .hangfx3 => 0xCE
  | .hangmain => 0xCF
  | .hangcoldstart => 0xD0

def FX3Command.ofCode? (bRequest : UInt8) : Option FX3Command :=
  [startfx3, stopfx3, testfx3, gpiofx3, i2cwfx3, i2crfx3, resetfx3, startadc, getstats,
    setargfx3, readinfodebug, hangfx3, hangmain, hangcoldstart].find? fun c => c.code == bRequest

theorem FX3Command.ofCode?_code (c : FX3Command) : ofCode? c.code = some c := by
  cases c <;> rfl

/-- The data-phase direction a command expects, `true` for device to host; the
test commands are exempt. -/
def FX3Command.expectIn? : FX3Command → Option Bool
  | .testfx3 | .getstats | .i2crfx3 | .readinfodebug => some true
  | .gpiofx3 | .startadc | .i2cwfx3 | .setargfx3 | .startfx3 | .stopfx3 | .resetfx3 =>
      some false
  | .hangfx3 | .hangmain | .hangcoldstart => none

/-- The decoded setup packet. -/
structure Setup where
  bReqType : UInt8
  bRequest : UInt8
  wValue : UInt16
  wIndex : UInt16
  wLength : UInt16
  deriving DecidableEq, Repr

def Setup.decode (setupdat0 setupdat1 : UInt32) : Setup where
  bReqType := (setupdat0 &&& 0x000000FF).toUInt8
  bRequest := ((setupdat0 &&& 0x0000FF00) >>> 8).toUInt8
  wValue := ((setupdat0 &&& 0xFFFF0000) >>> 16).toUInt16
  wIndex := (setupdat1 &&& 0x0000FFFF).toUInt16
  wLength := ((setupdat1 &&& 0xFFFF0000) >>> 16).toUInt16

def Setup.bType (s : Setup) : UInt8 := s.bReqType &&& 0x60
def Setup.bTarget (s : Setup) : UInt8 := s.bReqType &&& 0x03
def Setup.hostIn (s : Setup) : Bool := (s.bReqType &&& 0x80) != 0

def cyU3PUsbStandardRqt : UInt8 := 0x00
def cyU3PUsbVendorRqt : UInt8 := 0x40
def cyU3PUsbTargetIntf : UInt8 := 1
def cyU3PUsbTargetEndpt : UInt8 := 2
def cyU3PUsbScClearFeature : UInt8 := 1
def cyU3PUsbScSetFeature : UInt8 := 3
def cyU3PUsbxFsEpHalt : UInt16 := 0

/-! ## The clock-chip guard -/

/-- The documented registers. -/
def si5351RegWritable (r : UInt8) : Bool :=
  r ≤ 3 || r == 9 || (r ≥ 15 && r ≤ 92) || (r ≥ 149 && r ≤ 170) || r == 177 || r == 183 ||
  r == 187

/-- The loop over `k = 0 .. wLength - 1`, started with what is left of it. -/
def reservedFrom (wIndex : UInt16) : Nat → UInt16 → Bool
  | 0, _ => false
  | left + 1, k =>
      if ¬ si5351RegWritable (wIndex + k).toUInt8 then true
      else reservedFrom wIndex left (k + 1)

def si5351AccessBlocked (wValue wIndex wLength : UInt16) : Bool :=
  if wLength = 0 then false
  else if wValue.toUInt8 &&& 0xFE ≠ 0xC0 then false
  else if wValue.toUInt8 &&& 0x01 ≠ 0 then true
  else reservedFrom wIndex wLength.toNat 0

/-! ## The EP0 buffer -/

/-- `memcpy` into the EP0 buffer. -/
def ep0Put (off : Nat) (bytes : List UInt8) : Fw Unit :=
  modifyUsb fun u => { u with glEp0Buffer := memcpyAt u.glEp0Buffer off bytes }

/-- `CyU3PMemSet (glEp0Buffer, 0, CYFX_SDRAPP_MAX_EP0LEN)`. -/
def ep0Clear : Fw Unit := ep0Put 0 (List.replicate cyfxSdrappMaxEp0len 0)

/-- `CyU3PUsbGetEP0Data` into the EP0 buffer; a failed transfer leaves it alone. -/
def getEP0Data (wLength : UInt16) : Fw ReturnStatus := do
  let answer : Except Failure (Vector UInt8 wLength.toNat) ← call (.usbGetEP0Data wLength)
  match answer with
  | .ok bytes => ep0Put 0 bytes.toList
  | .error _ => pure ()
  return statusOf answer

/-- `CyU3PUsbSendEP0Data` of the first `count` bytes of the EP0 buffer. -/
def sendEP0Data (count : UInt16) : Fw Unit := do
  void (.usbSendEP0Data ((← ram).usb.glEp0Buffer.take count.toNat))

def stallEP0 : Fw Unit := void (.usbStall 0 true false)

def countVendorRqt : Fw Unit :=
  modifyUsb fun u => { u with glVendorRqtCnt := u.glVendorRqtCnt + 1 }

/-! ## The vendor commands -/

def gpiofx3 (s : Setup) : Fw Bool := do
  if (← getEP0Data s.wLength) = cyU3PSuccess then
    rx888r2GpioSet (leWord32 (← ram).usb.glEp0Buffer)
    return true
  return false

/-- Stop a state machine that is not in reset before the clock changes under it. -/
def implicitStop : Fw Unit := do
  let smState ← gpifGetSMState
  if smState ≠ gpifReset ∧ smState ≠ 0xFF then
    debugPrint "\r\nSTARTADC: implicit GPIF stop (SM=%d)" [.num smState.toUInt32]
    void (.gpifControlSWInput false)
    void (.gpifDisable true)
    void .dmaMultiChannelReset
    void (.usbFlushEp cyFxEpConsumer)

/-- Poll the PLL lock once a millisecond, for at most so many rounds. -/
def pollPllLocked : Nat → Fw Unit
  | 0 => pure ()
  | rounds + 1 => do
    void (.threadSleep 1)
    if ← si5351PllLocked then
      return ()
    pollPllLocked rounds

def startadc (s : Setup) : Fw Bool := do
  if (← getEP0Data s.wLength) = cyU3PSuccess then
    let freq := leWord32 (← ram).usb.glEp0Buffer
    implicitStop
    let apiRetStatus ← si5351aSetFrequencyA freq
    if apiRetStatus = cyU3PSuccess then
      pollPllLocked 100
      return true
    else
      debugPrint "STARTADC si5351 failed: %d" [.num apiRetStatus]
      return false
  return false

/-- One diagnostic register byte, or `initial` when the read fails. -/
def readRegisterOr (reg initial : UInt8) : Fw UInt8 := do
  match ← i2cTransferRead reg 0xC0 1 with
  | .ok data => return data.headD initial
  | .error _ => return initial

def getstatsPayloadLen : UInt16 := 30

def getstats (_ : Setup) : Fw Bool := do
  ep0Clear
  let gpifState ← gpifGetSMState
  ep0Put 0 (leBytes32 (← ram).glDMACount)
  ep0Put 4 [gpifState]
  ep0Put 5 (leBytes32 ((← ram).glCounter.get 0))
  ep0Put 9 (leBytes16 (← ram).pib.glLastPibArg)
  ep0Put 11 (leBytes32 ((← ram).glCounter.get 1))
  ep0Put 15 (leBytes32 ((← ram).glCounter.get 2))
  let siStatus ← readRegisterOr 0x00 0
  ep0Put 19 [siStatus]
  let bootCount ← healthBootCount
  ep0Put 20 (leBytes32 bootCount)
  let clk0Reg16 ← readRegisterOr siClk0Control 0xFF
  ep0Put 24 [clk0Reg16]
  let clk0Enabled ← si5351Clk0Enabled
  ep0Put 25 [if clk0Enabled then 1 else 0]
  let gpioState ← rx888r2ReadGpioState
  ep0Put 26 (leBytes32 gpioState)
  sendEP0Data getstatsPayloadLen
  return true

def i2cwfx3 (s : Setup) : Fw Bool := do
  if (← getEP0Data s.wLength) = cyU3PSuccess then
    if si5351AccessBlocked s.wValue s.wIndex s.wLength then
      debugPrint "\r\nI2CWR BLOCKED: Si5351 a=0x%x r=0x%x len %d (#163)"
        [.num s.wValue.toUInt32, .num s.wIndex.toUInt32, .num s.wLength.toUInt32]
      countUp 1
      return false
    else
      let apiRetStatus ← i2cTransferWrite s.wIndex.toUInt8 s.wValue.toUInt8 s.wLength.toUInt8
        (← ram).usb.glEp0Buffer
      if apiRetStatus = cyU3PSuccess then
        return true
      else
        let i2cec : UInt32 ← call .i2cGetErrorCode
        debugPrint "\r\nI2CWR a=0x%x r=0x%x fail:%d ec=%d"
          [.num s.wValue.toUInt32, .num s.wIndex.toUInt32, .num apiRetStatus, .num i2cec]
        return false
  return false

def i2crfx3 (s : Setup) : Fw Bool := do
  if si5351AccessBlocked s.wValue s.wIndex s.wLength then
    debugPrint "\r\nI2CRD BLOCKED: Si5351 a=0x%x r=0x%x len %d (#163)"
      [.num s.wValue.toUInt32, .num s.wIndex.toUInt32, .num s.wLength.toUInt32]
    countUp 1
    return false
  else
    ep0Clear
    match ← i2cTransferRead s.wIndex.toUInt8 s.wValue.toUInt8 s.wLength.toUInt8 with
    | .ok data =>
      ep0Put 0 data
      sendEP0Data s.wLength
      return true
    | .error e =>
      let i2cec : UInt32 ← call .i2cGetErrorCode
      debugPrint "\r\nI2CRD a=0x%x r=0x%x fail:%d ec=%d"
        [.num s.wValue.toUInt32, .num s.wIndex.toUInt32, .num e.1, .num i2cec]
      return false

inductive ArgumentList where
  | dat31Att
  | ad8370Vga
  | wdgMaxRecov
  | wdgResetEscalate
  deriving DecidableEq, Repr

def ArgumentList.ofIndex? (wIndex : UInt16) : Option ArgumentList :=
  if wIndex = 10 then some .dat31Att
  else if wIndex = 11 then some .ad8370Vga
  else if wIndex = 14 then some .wdgMaxRecov
  else if wIndex = 15 then some .wdgResetEscalate
  else none

def setargfx3 (s : Setup) : Fw Bool := do
  let _ ← getEP0Data s.wLength
  match ArgumentList.ofIndex? s.wIndex with
  | some .dat31Att =>
    rx888r2SetAttenuator s.wValue.toUInt8
    countVendorRqt
  | some .ad8370Vga =>
    rx888r2SetGain s.wValue.toUInt8
    countVendorRqt
  | some .wdgMaxRecov =>
    healthSetMaxRecovery (s.wValue &&& 0xFF).toUInt8
    countVendorRqt
  | some .wdgResetEscalate =>
    healthSetResetEscalation ((s.wValue &&& 0xFF) != 0)
    countVendorRqt
  | none => stallEP0
  return true

def adcWakeupSettleMs : UInt32 := 5

/-- The restart once the preflight check has passed. -/
def restartStream : Fw ReturnStatus := do
  rx888r2AdcStandby false
  void (.threadSleep adcWakeupSettleMs)
  void (.gpifControlSWInput false)
  void (.gpifDisable true)
  void .dmaMultiChannelReset
  void (.usbFlushEp cyFxEpConsumer)
  modifyDMACount fun _ => 0
  healthResetRecoveryCount
  let apiRetStatus : ReturnStatus ← call (.dmaMultiChannelSetXfer fifoDmaRxSize 0)
  if apiRetStatus = cyU3PSuccess then
    let apiRetStatus ← startGPIF
    if apiRetStatus = cyU3PSuccess then
      void (.gpifControlSWInput true)
    return apiRetStatus
  return apiRetStatus

/-- Stall a failed start and print how it went. -/
def reportStart (apiRetStatus : ReturnStatus) : Fw Unit := do
  if apiRetStatus ≠ cyU3PSuccess then
    debugPrint "\r\nSTARTFX3 fail: %d" [.num apiRetStatus]
    stallEP0
  let smState ← gpifGetSMState
  debugPrint "\r\nGO s=%d r=%d" [.num smState.toUInt32, .num apiRetStatus]

def startfx3 (s : Setup) : Fw Bool := do
  void .usbLPMDisable
  let _ ← getEP0Data s.wLength
  if ¬ (← gpifPreflightCheck) then
    stallEP0
    return true
  let apiRetStatus ← restartStream
  reportStart apiRetStatus
  return true

def stopfx3 (s : Setup) : Fw Bool := do
  void .usbLPMEnable
  let _ ← getEP0Data s.wLength
  softStop "\r\nSTP soft-stop fail SM=%d, forcing"
  void .dmaMultiChannelReset
  void (.usbFlushEp cyFxEpConsumer)
  modifyDMACount fun _ => 0
  healthResetRecoveryCount
  rx888r2AdcStandby true
  let smState ← gpifGetSMState
  debugPrint "\r\nSTP s=%d" [.num smState.toUInt32]
  return true

def resetfx3 (s : Setup) : Fw Bool := do
  let _ ← getEP0Data s.wLength
  debugPrint "\r\n\r\nHOST RESETTING CPU \r\n" []
  void (.threadSleep 100)
  void (.deviceReset false)
  return false

def testfx3 (s : Setup) : Fw Bool := do
  ep0Put 0 [(← ram).app.glHWconfig]
  ep0Put 1 [((← ram).app.glFWconfig >>> 8).toUInt8]
  ep0Put 2 [(← ram).app.glFWconfig.toUInt8]
  ep0Put 3 [(← ram).usb.glVendorRqtCnt]
  sendEP0Data 4
  modifyConsole fun c => { c with glFlagDebug := s.wValue == 1 }
  countVendorRqt
  return true

def hangfx3 (s : Setup) : Fw Bool := do
  debugPrint "\r\nHANGFX3: sleeping %u ms (test-only)" [.num s.wValue.toUInt32]
  void (.threadSleep s.wValue.toUInt32)
  void .usbAckSetup
  return true

def hangcoldstart (_ : Setup) : Fw Bool := do
  debugPrint "\r\nHANGCOLDSTART: suppressing DMA progress (test-only)" []
  modifyHooks fun hk => { hk with glHealthForceColdStart := true }
  void .usbAckSetup
  return true

def hangmain (_ : Setup) : Fw Bool := do
  debugPrint "\r\nHANGMAIN: arming main-loop hang (test-only)" []
  modifyHooks fun hk => { hk with glHealthHangMain := true }
  void .usbAckSetup
  return true

def userCommandAvailable : UInt32 := 0xA

def readinfodebug (s : Setup) : Fw Bool := do
  if s.wValue > 0 then
    let inputChar := s.wValue.toUInt8
    if inputChar = 0x0d then
      setQevent (userCommandAvailable <<< 24)
      void (.queueSend (← ram).glQevent)
    else
      consoleAccumulateChar inputChar
  if (← ram).console.glDebTxtLen > 0 then
    let intMask : UInt32 ← call .vicDisableAllInterrupts
    let full := (← ram).console.glDebTxtLen
    let len := if full > UInt16.ofNat (cyfxSdrappMaxEp0len - 1) then
      UInt16.ofNat (cyfxSdrappMaxEp0len - 1) else full
    ep0Put 0 ((← ram).console.glBufDebug.take len.toNat)
    let remain := (← ram).console.glDebTxtLen - len
    if remain > 0 then
      modifyConsole fun c =>
        { c with
          glBufDebug :=
            memcpyAt c.glBufDebug 0 ((c.glBufDebug.drop len.toNat).take remain.toNat) }
    modifyConsole fun c => { c with glDebTxtLen := remain }
    void (.vicEnableInterrupts intMask)
    ep0Put len.toNat [0]
    sendEP0Data (len + 1)
    countVendorRqt
    return true
  else
    stallEP0
    return true

def unknownRequest (s : Setup) : Fw Bool := do
  void (.uartDebugPrint "STALL EP0 V.REQ %x\n" [.num s.bRequest.toUInt32])
  stallEP0
  return false

/-- The request switch. -/
def vendorCommand (s : Setup) : Option FX3Command → Fw Bool
  | some .gpiofx3 => gpiofx3 s
  | some .startadc => startadc s
  | some .getstats => getstats s
  | some .i2cwfx3 => i2cwfx3 s
  | some .i2crfx3 => i2crfx3 s
  | some .setargfx3 => setargfx3 s
  | some .startfx3 => startfx3 s
  | some .stopfx3 => stopfx3 s
  | some .resetfx3 => resetfx3 s
  | some .testfx3 => testfx3 s
  | some .hangfx3 => hangfx3 s
  | some .hangcoldstart => hangcoldstart s
  | some .hangmain => hangmain s
  | some .readinfodebug => readinfodebug s
  | none => unknownRequest s

/-! ## The trace of a request -/

def fx3CmdBase : UInt8 := 0xAA

def fx3CommandName : Vector String 17 :=
  #v["STARTFX3", "STOPFX3", "TESTFX3", "GPIOFX3", "I2CWFX3", "I2CRFX3", "0xB0", "RESETFX3",
    "STARTADC", "GETSTATS", "0xB4", "0xB5", "SETARGFX3", "0xB7", "0xB8", "0xB9",
    "READINFODEBUG"]

def setargfx3List : Vector String 16 :=
  #v["0", "1", "2", "3", "4", "5", "6", "7", "8", "9", "DAT31_ATT", "AD8370_VGA",
    "PRESELECTOR", "VHF_ATTENUATOR", "WDG_MAX_RECOV", "WDG_RESET_ESCALATE"]

def traceCommand (bRequest : UInt8) : Fw Unit :=
  match if bRequest ≥ fx3CmdBase then fx3CommandName[(bRequest - fx3CmdBase).toNat]? else none with
  | some name => debugPrint "%s\t" [.text name]
  | none => debugPrint "0x%x\t" [.num bRequest.toUInt32]

def traceArguments (bRequest : UInt8) (wValue wIndex : UInt16) : Fw Unit :=
  match FX3Command.ofCode? bRequest with
  | some .setargfx3 =>
    match setargfx3List[wIndex.toNat]? with
    | some name => debugPrint "%s\t%d" [.text name, .num wValue.toUInt32]
    | none => debugPrint "%d\t%d" [.num wIndex.toUInt32, .num wValue.toUInt32]
  | some .gpiofx3 => do debugPrint "\t0x%x" [.num (leWord32 (← ram).usb.glEp0Buffer)]
  | some .startadc => do debugPrint "%d" [.num (leWord32 (← ram).usb.glEp0Buffer)]
  | some .startfx3 => pure ()
  | some .stopfx3 => pure ()
  | some .resetfx3 => pure ()
  | _ => do
    let pdata := (← ram).usb.glEp0Buffer
    debugPrint "0x%x\t0x%x" [.num (pdata.getD 0 0).toUInt32, .num (pdata.getD 1 0).toUInt32]

def traceSerial (bRequest : UInt8) (wValue wIndex : UInt16) : Fw Unit := do
  if bRequest ≠ FX3Command.readinfodebug.code then
    traceCommand bRequest
    traceArguments bRequest wValue wIndex
    debugPrint "\r\n\n" []

/-! ## The setup callback -/

/-- Standard requests: the interface's function suspend and the endpoint halt. -/
def standardRequest (s : Setup) : Fw Bool := do
  let mut isHandled := false
  if s.bTarget = cyU3PUsbTargetIntf ∧
      (s.bRequest = cyU3PUsbScSetFeature ∨ s.bRequest = cyU3PUsbScClearFeature) ∧
      s.wValue = 0 then
    if (← ram).app.glIsApplnActive then
      void .usbAckSetup
    else
      stallEP0
    isHandled := true
  if s.bTarget = cyU3PUsbTargetEndpt ∧ s.bRequest = cyU3PUsbScClearFeature ∧
      s.wValue = cyU3PUsbxFsEpHalt then
    if (← ram).app.glIsApplnActive then
      void (.usbStall s.wIndex.toUInt8 false true)
      void (.usbFlushEp cyFxEpConsumer)
      isHandled := true
  return isHandled

/-- The command's data phase disagrees with the host's direction bit. -/
def Setup.directionMismatch (s : Setup) : Bool :=
  match (FX3Command.ofCode? s.bRequest).bind FX3Command.expectIn? with
  | some expectIn => s.hostIn != expectIn
  | none => false

/-- Vendor requests: too long or in the wrong direction is stalled before any data
phase; the rest goes through the switch and the trace. -/
def vendorRequest (s : Setup) : Fw Bool := do
  if s.wLength > UInt16.ofNat cyfxSdrappMaxEp0len then
    stallEP0
    return true
  if s.directionMismatch then
    stallEP0
    return true
  let isHandled ← vendorCommand s (FX3Command.ofCode? s.bRequest)
  traceSerial s.bRequest s.wValue s.wIndex
  return isHandled

/-- What the callback does between its two liveness events. -/
def setupRequest (s : Setup) : Fw Bool :=
  if s.bType = cyU3PUsbStandardRqt then standardRequest s
  else if s.bType = cyU3PUsbVendorRqt then vendorRequest s
  else pure false

/-- Every return path of the source records the exit just before it returns. -/
def cyFxSlFifoApplnUSBSetupCB (setupdat0 setupdat1 : UInt32) : Fw Bool := do
  healthRecordEvent .ep0HandlerEnter
  let isHandled ← setupRequest (Setup.decode setupdat0 setupdat1)
  healthRecordEvent .ep0HandlerExit
  return isHandled

/-! ## USB events -/

/-- The `CyU3PUsbEventType_t` values the callback acts on. -/
def cyU3PUsbEventDisconnect : UInt8 := 1
def cyU3PUsbEventReset : UInt8 := 4
def cyU3PUsbEventSetconf : UInt8 := 5
def cyU3PUsbEventEpUnderrun : UInt8 := 18

def usbEventCallback (evtype : UInt8) (evdata : UInt16) : Fw Unit := do
  void (.queueSend evtype.toUInt32)
  if evtype = cyU3PUsbEventSetconf then
    if (← ram).app.glIsApplnActive then
      stopApplication
    startApplication
  else if evtype = cyU3PUsbEventReset ∨ evtype = cyU3PUsbEventDisconnect then
    if (← ram).app.glIsApplnActive then
      stopApplication
      void .usbLPMEnable
  else if evtype = cyU3PUsbEventEpUnderrun then
    countUp 2
    debugPrint "\r\nEP Underrun on %d" [.num evdata.toUInt32]

/-- The descriptors, by the name their status is reported under; the third string
is the serial number made of the device registers read before it. -/
def usbDescriptors : List String :=
  ["SET_SS_DEVICE_DESCR", "SET_HS_DEVICE_DESCR", "SET_SS_BOS_DESCR", "SET_DEVQUAL_DESCR",
    "SET_SS_CONFIG_DESCR", "SET_HS_CONFIG_DESCR", "SET_FS_CONFIG_DESCR", "SET_STRING0_DESCR",
    "SET_STRING1_DESCR", "SET_STRING2_DESCR"]

/-- Set descriptors in order, collecting their statuses into the overall one. -/
def setDescriptors : List String → ReturnStatus → Fw ReturnStatus
  | [], overall => pure overall
  | descr :: rest, overall => do
    let status : ReturnStatus ← call (.usbSetDesc descr)
    checkStatus descr status
    setDescriptors rest (overall ||| status)

def setUSBdescriptors : Fw ReturnStatus := do
  let overall ← setDescriptors usbDescriptors cyU3PSuccess
  let status : ReturnStatus ← call .readDeviceRegisters
  checkStatus "READ_FX3_ID" status
  setDescriptors ["SET_STRING3_DESCR"] (overall ||| status)

def cyU3PErrorNoReenumRequired : ReturnStatus := 0xFE

/-- Start the driver; whether the connection has still to be made. -/
def startUSBDriver : Fw Bool := do
  let status : ReturnStatus ← call .usbStart
  if status = cyU3PErrorNoReenumRequired then
    debugPrint "\r\nNeedToRenumerate = CyFalse" []
    checkStatus "Start USB Driver" cyU3PSuccess
    return false
  else
    checkStatus "Start USB Driver" status
    return true

def initializeUSB : Fw ReturnStatus := do
  let needToRenumerate ← startUSBDriver
  void .usbRegisterCallbacks
  let status ← setUSBdescriptors
  checkStatus "Set USB Descriptors" status
  if needToRenumerate then
    let status : ReturnStatus ← call (.connectState true true)
    checkStatus "ConnectUSB" status
    return status
  else
    if (← ram).app.glIsApplnActive then
      stopApplication
    startApplication
    return status

end Rx888
