import Rx888.Firmware.Ram

/-! # Status checks and the error blink

`Support.c`, the LED helper of `StartUp.c` and the console input of
`DebugConsole.c`.
-/

namespace Rx888

def gpioLedBluePin : UInt8 := 21

/-- Best effort: configure the blue LED and show whether there is an error. -/
def indicateError (errorCode : UInt16) : Fw Unit := do
  void (.deviceGpioOverride gpioLedBluePin)
  void (.gpioSetSimpleConfig gpioLedBluePin (errorCode != 0))

def errorBlinkCount : Nat := 10
def errorBlinkMs : UInt32 := 200

def errorBlink : Nat → Fw Unit
  | 0 => pure ()
  | count + 1 => do
    void (.gpioSetValue gpioLedBluePin true)
    void (.threadSleep errorBlinkMs)
    void (.gpioSetValue gpioLedBluePin false)
    void (.threadSleep errorBlinkMs)
    errorBlink count

def errorBlinkAndReset : Fw Unit := do
  indicateError 0
  errorBlink errorBlinkCount
  void (.deviceReset false)

/-- The non-null entries of `ErrorCodeTextLookupTable`, with the code of the first
name of each run. -/
def errorCodeTextLookupTable : List (Nat × List String) :=
  [(0, ["SUCCESS", "DELETED", "BAD_POOL", "BAD_POINTER", "INVALID_WAIT", "BAD_SIZE",
      "BAD_EVENT_GROUP", "NO_EVENTS", "BAD_OPTION", "BAD_QUEUE", "QUEUE_EMPTY", "QUEUE_FULL",
      "BAD_SEMAPHORE", "GET_SEMAPHORE_FAIL", "BAD_THREAD", "BAD_PRIORITY", "MEMORY_ERROR",
      "DELETE_FAILED", "RESUME_FAILED", "INVALID_CALLER", "SUSPEND_FAILED", "BAD_TIMER",
      "BAD_TICK", "ACTIVATE_FAILED", "BAD_THRESHOLD", "SUSPEND_LIFTED", "WAIT_ABORTED",
      "WAIT_ABORT_FAILED", "BAD_MUTEX", "MUTEX_FAILURE", "MUTEX_PUT_FAILED", "INHERIT_FAILED",
      "NOT_IDLE"]),
    (64, ["Bad_ARGUMENT", "NULL_POINTER", "NOT_STARTED", "ALREADY_STARTED", "NOT_CONFIGURED",
      "TIMEOUT", "NOT_SUPPORTED", "INVALID_SEQUENCE", "ABORTED", "DMA_FAILURE", "FAILURE",
      "BAD_INDEX", "BAD_ENUM_METHOD", "INVALID_CONFIGURATION", "CHANNEL_CREATE_FAILED",
      "CHANNEL_DESTROY_FAILED", "BAD_DESCRIPTOR_TYPE", "XFER_CANCELLED", "FEATURE_NOT_ENABLED",
      "STALLED", "BLOCK_FAILURE", "LOST_ARBITRATION", "STANDBY_FAILED"]),
    (96, ["INVALID_VOLTAGE_RANGE", "CARD_WRONG_RESPONSE", "UNSUPPORTED_CARD",
      "CARD_WRONG_STATE", "CMD_NOT_SUPPORTED", "CRC", "INVALID_ADDR", "INVALID_UNIT",
      "INVALID_DEV", "ALREADY_PARTITIONED", "NOT_PARTITIONED", "BAD_PARTITION",
      "READ_WRITE_ABORTED", "WRITE_PROTECTED", "SIB_INIT", "CARD_LOCKED", "CARD_LOCK_FAILURE",
      "CARD_FORCE_ERASE", "INVALID_BLOCKSIZE", "INVALID_FUNCTION", "TUPLE_NOT_FOUND",
      "IO_ABORTED", "IO_SUSPENDED", "ILLEGAL_CMD", "SDIO_UNKNOWN", "BAD_CMD_ARG",
      "UNINITIALIZED_FUNCTION", "CARD_NOT_ACTIVE", "DEVICE_BUSY", "NO_METADATA",
      "CARD_UNHEALTHY", "MEDIA_FAILURE"])]

def errorCodeText (status : ReturnStatus) : String :=
  if status = 0xFF then "OPERATION_DISABLED"
  else if status = 0xFE then "NO_REENUM_REQUIRED"
  else
    let name? := errorCodeTextLookupTable.findSome? fun (first, names) =>
      if first ≤ status.toNat then names[status.toNat - first]? else none
    name?.getD "INVALID_ERROR_CODE"

/-- Report a status once the console is up; a failure blinks and resets. -/
def checkStatus (name : String) (status : ReturnStatus) : Fw Unit := do
  if (← ram).console.glDebugTxEnabled then
    if status = cyU3PSuccess then
      debugPrint "%s = Successful\r\n" [.text name]
    else
      debugPrint "\r\n%s failed, %d = CY_U3P_ERROR_%s\r\n"
        [.text name, .num status, .text (errorCodeText status)]
      errorBlinkAndReset

def checkStatusSilent (name : String) (status : ReturnStatus) : Fw Unit := do
  if (← ram).console.glDebugTxEnabled then
    if status ≠ cyU3PSuccess then
      debugPrint "\r\n%s failed, %d = CY_U3P_ERROR_%s\r\n"
        [.text name, .num status, .text (errorCodeText status)]
      errorBlinkAndReset

/-- Collect a console character, forced to lower case, while there is room for it
and the terminating NUL. -/
def consoleAccumulateChar (ch : UInt8) : Fw Unit := do
  let lower := ch ||| 0x20
  if (← ram).console.glConsoleInIndex < 32 - 1 then
    modifyConsole fun c =>
      { c with
        glConsoleInBuffer := memcpyAt c.glConsoleInBuffer c.glConsoleInIndex.toNat [lower]
        glConsoleInIndex := c.glConsoleInIndex + 1 }
    modifyConsole fun c =>
      { c with
        glConsoleInBuffer := memcpyAt c.glConsoleInBuffer c.glConsoleInIndex.toNat [0] }

end Rx888
