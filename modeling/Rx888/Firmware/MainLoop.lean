import Rx888.Firmware.RunApplication

/-! # The main loop's messages

Callbacks post words to `glEventAvailable`; the main loop receives them into `glQevent` and
dispatches them with `MsgParsing` (`RunApplication.c`). The UART callback and `ParseCommand`
are from `DebugConsole.c`.
-/

namespace Rx888

/-! ## The console -/

/-- The characters of a C string in memory: those before its NUL. -/
def cText (buffer : List UInt8) : List UInt8 := buffer.takeWhile (· ≠ 0)

/-- `!strcmp (name, glConsoleInBuffer)`. -/
def isCommand (name : String) : Fw Bool := do
  return decide (cText (← ram).console.glConsoleInBuffer = name.toList.map Char.toUInt8)

def cyU3PErrorNotConfigured : ReturnStatus := 0x44

def fifoThreadStack : UInt32 := 0x800

/-- The names of the threads found along the ring. -/
def printFound : List String → Fw Unit
  | [] => pure ()
  | name :: rest => do
      debugPrint "\r\nFound: '%s'" [.text name]
      printFound rest

def helpCommand : Fw Unit := do
  debugPrint "Enter commands:\r\nthreads, stack, gpif, reset;\r\nDMAcnt = %x\r\n\r\n"
    [.num (← ram).glDMACount]

def threadsCommand : Fw Unit := do
  debugPrint "threads:\r\n" []
  let names : String × List String ← call .threadInfoGet
  debugPrint "This : '%s'" [.text names.1]
  printFound names.2
  debugPrint "\r\n\r\n" []

/-- The name of the application thread without its numeric identifier. -/
def applicationThreadName : String := "HF103_ADC2USB30"

def stackCommand : Fw Unit := do
  debugPrint "stack:\r\n" []
  let free : UInt32 ← call .stackFree
  debugPrint "Stack free in %s is %d/%d\r\n\r\n"
    [.text applicationThreadName, .num free, .num fifoThreadStack]

def resetCommand : Fw Unit := do
  debugPrint "reset:\r\n" []
  debugPrint "RESETTING CPU\r\n" []
  void (.threadSleep 100)
  void (.deviceReset false)

/-- A state that cannot be read is reported as `0xFF`; only an unconfigured GPIF block
fails to tell it. -/
def gpifCommand : Fw Unit := do
  let state : Option UInt8 ← call .gpifGetSMState
  checkStatus "Get GPIF State "
    (if state.isSome then cyU3PSuccess else cyU3PErrorNotConfigured)
  debugPrint "GPIF State = %d\r\n\r\n" [.num (state.getD 0xFF).toUInt32]

/-- The line is echoed as it stands in the buffer. -/
def echoCommand : Fw Unit := do
  let line := cText (← ram).console.glConsoleInBuffer
  debugPrint "Input: '%s'\r\n\r\n" [.text (String.ofList (line.map Char.ofUInt8))]

/-- The comparisons read the buffer one after the other. -/
def parseCommand : Fw Unit := do
  if ← isCommand "" then helpCommand
  else if ← isCommand "?" then helpCommand
  else if ← isCommand "threads" then threadsCommand
  else if ← isCommand "stack" then stackCommand
  else if ← isCommand "reset" then resetCommand
  else if ← isCommand "gpif" then gpifCommand
  else echoCommand
  modifyConsole fun c => { c with glConsoleInIndex := 0 }

/-- `UartCallback`: a received character is echoed, then collected, or posted as a command if
it is a carriage return. -/
def uartCallback (isRxDone : Bool) : Fw Unit :=
  if isRxDone then do
    void .consoleChannelSetWrapUp
    let inputChar : UInt8 ← call .consoleChannelGetBuffer
    debugPrint "%c" [.num inputChar.toUInt32]
    if inputChar = 0x0d then
      setQevent (userCommandAvailable <<< 24)
      void (.queueSend (← ram).glQevent)
    else
      consoleAccumulateChar inputChar
    void .consoleChannelDiscardBuffer
    void (.uartRxSetBlockXfer 1)
  else pure ()

/-! ## The dispatch -/

def eventName : List String :=
  ["CONNECT", "DISCONNECT", "SUSPEND", "RESUME", "RESET", "SET_CONFIGURATION", "SPEED",
    "SET_INTERFACE", "SET_EXIT_LATENCY", "SOF_ITP", "USER_EP0_XFER_COMPLETE", "VBUS_VALID",
    "VBUS_REMOVED", "HOSTMODE_CONNECT", "HOSTMODE_DISCONNECT", "OTG_CHANGE", "OTG_VBUS_CHG",
    "OTG_SRP", "EP_UNDERRUN", "LINK_RECOVERY", "USB3_LINKFAIL", "SS_COMP_ENTRY", "SS_COMP_EXIT"]

/-- The label is the high byte of the word. Past the table of names the code picks up whatever
pointer lies there. -/
def msgParsing (qevent : UInt32) : Fw Unit :=
  let label := (qevent >>> 24).toUInt8
  if label = 0 then
    debugPrint "\r\nEvent received = %s   \r\n"
      [.text (eventName.getD qevent.toUInt8.toNat "")]
  else if label = 1 then
    debugPrint "\r\nVendor request = %x  %x  %x\r\n"
      [.num (qevent >>> 16).toUInt8.toUInt32, .num (qevent >>> 8).toUInt8.toUInt32,
        .num qevent.toUInt8.toUInt32]
  else if label = 2 then
    debugPrint "\r\nPIB error 0x%x\r\n" [.num qevent.toUInt16.toUInt32]
  else if label = userCommandAvailable.toUInt8 then parseCommand
  else pure ()

/-- One turn of a drain loop: `CyU3PQueueReceive` into `glQevent`, then `MsgParsing (glQevent)`.
The loop that runs forever starts its output on a new line. -/
def drainOnce (firstLine : Bool) : Fw Unit := do
  let received : Except Failure UInt32 ← call .queueReceive
  match received with
  | .error _ => pure ()
  | .ok _ => do
      if firstLine then debugPrint "\r\n" []
      msgParsing (← ram).glQevent

end Rx888
