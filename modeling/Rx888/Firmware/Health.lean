import Rx888.Firmware.Si5351

/-! # The recovery state machine

`health.c`. `healthEvaluate` decides what is wrong, `healthRecover` acts on it.
-/

namespace Rx888

inductive HealthEvent where
  | ep0HandlerEnter
  | ep0HandlerExit
  deriving DecidableEq, Repr

inductive HealthStatus where
  | ok
  | wedgedEp0
  | wedgedStreaming
  | wedgedUnknown
  deriving DecidableEq, Repr

/-- The enumerator's value, as the debug message prints it. -/
def HealthStatus.code : HealthStatus → UInt32
  | .ok => 0
  | .wedgedEp0 => 1
  | .wedgedStreaming => 2
  | .wedgedUnknown => 3

/-! The state indices of `gpif_states.h`. -/

def gpifReset : UInt8 := 0
def gpifIdle : UInt8 := 1
def gpifTh0Rd : UInt8 := 2
def gpifTh1RdLd : UInt8 := 3
def gpifTh0RdLd : UInt8 := 4
def gpifTh0Busy : UInt8 := 5
def gpifTh1Rd : UInt8 := 6
def gpifTh1Busy : UInt8 := 7
def gpifTh1Wait : UInt8 := 8
def gpifTh0Wait : UInt8 := 9

def ep0HandlerTimeoutMs : UInt32 := 2000
def hwdtPeriodMs : UInt32 := 5000
def hwdtClearPeriodMs : UInt32 := 3000
def streamingStallTicks : UInt8 := 3
def coldStartWedgeTicks : UInt8 := 5
def cyFxEpConsumer : UInt8 := 0x81
def fifoDmaRxSize : UInt32 := 0

/-- Read the state machine's state into a variable that holds `0xFF` if the read
fails. -/
def gpifGetSMState : Fw UInt8 := do
  let state : Option UInt8 ← call .gpifGetSMState
  return state.getD 0xFF

theorem gpifGetSMState_bind_keeps {P : CallProgram.Policy Ram Call.Ans} {β : Type} {R : β → Prop}
    {f : UInt8 → Fw β} (made : P.calls .gpifGetSMState)
    (h : ∀ r : Option UInt8, P.answers .gpifGetSMState r → (f (r.getD 0xFF)).Keeps P R) :
    (gpifGetSMState >>= f).Keeps P R :=
  ⟨made, h⟩

theorem gpifGetSMState_bind_holds {η : Type} {T : CallProgram.Threads Ram η Call.Ans}
    {K : CallProgram.Contract T} {g : K.Ghost} {s : CallProgram.State Ram η} {α : Type}
    {Q : α → K.Ghost → CallProgram.State Ram η → Prop} {f : UInt8 → Fw α}
    (h : ∀ r : Option UInt8,
      K.Step (.call .gpifGetSMState r) (fun g s => K.Holds (f (r.getD 0xFF)) Q g s) g s) :
    K.Holds (gpifGetSMState >>= f) Q g s :=
  h

def healthMainHeartbeat : Fw Unit :=
  modifyHealth fun h => { h with glMainHeartbeat := h.glMainHeartbeat + 1 }

/-- `health_wd_clear_cb`: the watchdog is cleared when the heartbeat has moved since the last
callback. -/
def healthWdClearCb : Fw Unit := do
  let now := (← ram).health.glMainHeartbeat
  if now ≠ (← ram).health.glLastHeartbeatSeen then
    modifyHealth fun h => { h with glLastHeartbeatSeen := now }
    void .sysWatchDogClear

def healthInit : Fw Unit := do
  modifyEp0 fun e => { e with ep0HandlerEnterMs := 0 }
  modifyEp0 fun e => { e with ep0HandlerInProgress := false }
  modifyHealth fun h => { h with glBootCount := h.glBootCount + 1 }
  void (.sysWatchDogConfigure true hwdtPeriodMs)
  void (.timerCreate hwdtClearPeriodMs hwdtClearPeriodMs)

def healthBootCount : Fw UInt32 := do
  return (← ram).health.glBootCount

/-- The time is stamped first, then the flag is raised. -/
def healthRecordEvent : HealthEvent → Fw Unit
  | .ep0HandlerEnter => do
    let now : UInt32 ← call .getTime
    modifyEp0 fun e => { e with ep0HandlerEnterMs := now }
    modifyEp0 fun e => { e with ep0HandlerInProgress := true }
  | .ep0HandlerExit =>
    modifyEp0 fun e => { e with ep0HandlerInProgress := false }

def healthSetMaxRecovery (max : UInt8) : Fw Unit :=
  modifyHealth fun h => { h with glWdgMaxRecovery := max }

/-- Begin a fresh streaming session. -/
def healthResetRecoveryCount : Fw Unit := do
  modifySession fun ss => { ss with glWdgRecoveryCount := 0 }
  modifySession fun ss => { ss with glStallCount := 0 }
  modifySession fun ss => { ss with glColdStartCount := 0 }
  modifySession fun ss => { ss with glWdgFaultKind := .none }
  modifySession fun ss => { ss with glWdgEscalated := false }
  modifySession fun ss => { ss with glPrevDMACount := 0 }

def healthSetResetEscalation (enabled : Bool) : Fw Unit :=
  modifyHealth fun h => { h with glWdgResetEscalationEn := enabled }

def gpifStateIsBusyWait (state : UInt8) : Bool :=
  state == gpifTh0Busy || state == gpifTh1Busy || state == gpifTh1Wait || state == gpifTh0Wait

/-- The state machine has left RESET and IDLE. -/
def gpifStateIsStreamingActive (state : UInt8) : Bool :=
  state == gpifTh0Rd || state == gpifTh1RdLd || state == gpifTh0RdLd || state == gpifTh0Busy ||
  state == gpifTh1Rd || state == gpifTh1Busy || state == gpifTh1Wait || state == gpifTh0Wait

/-- The detector's sample of a pipeline frozen in a BUSY or WAIT state. -/
def stallSample (curDMA : UInt32) (gpifState : UInt8) : Fw Bool := do
  modifySession fun ss => { ss with glColdStartCount := 0 }
  modifySession fun ss => { ss with glStallCount := ss.glStallCount + 1 }
  debugPrint "\r\nWDG: stall %d/%d SM=%d DMA=%u"
    [.num (← ram).session.glStallCount.toUInt32, .num streamingStallTicks.toUInt32,
      .num gpifState.toUInt32, .num curDMA]
  if (← ram).session.glStallCount ≥ streamingStallTicks then
    modifySession fun ss => { ss with glStallCount := 0 }
    modifySession fun ss => { ss with glWdgFaultKind := .progressStall }
    return true
  return false

/-- Its sample of a state machine that has left IDLE without a first buffer. -/
def coldStartSample (gpifState : UInt8) : Fw Bool := do
  modifySession fun ss => { ss with glStallCount := 0 }
  modifySession fun ss => { ss with glColdStartCount := ss.glColdStartCount + 1 }
  debugPrint "\r\nWDG: cold-start %d/%d SM=%d DMA=0"
    [.num (← ram).session.glColdStartCount.toUInt32, .num coldStartWedgeTicks.toUInt32,
      .num gpifState.toUInt32]
  if (← ram).session.glColdStartCount ≥ coldStartWedgeTicks then
    modifySession fun ss => { ss with glColdStartCount := 0 }
    modifySession fun ss => { ss with glWdgFaultKind := .coldStart }
    return true
  return false

/-- Its sample of a pipeline in neither condition: say so if it was, and clear both
strike counters. -/
def clearStrikes (message : String) (args : List DebugArg) : Fw Unit := do
  let m ← ram
  if m.session.glStallCount > 0 ∨ m.session.glColdStartCount > 0 then
    debugPrint message args
  modifySession fun ss => { ss with glStallCount := 0 }
  modifySession fun ss => { ss with glColdStartCount := 0 }

/-- One sample of the streaming-stall detector. -/
def streamingWedgeDetected : Fw Bool := do
  let curDMA := (← ram).glDMACount
  let prevDMA := (← ram).session.glPrevDMACount
  if curDMA = prevDMA then
    let gpifState ← gpifGetSMState
    if curDMA > 0 ∧ gpifStateIsBusyWait gpifState then
      stallSample curDMA gpifState
    else if curDMA = 0 ∧ gpifStateIsStreamingActive gpifState then
      coldStartSample gpifState
    else
      clearStrikes "\r\nWDG: stall cleared SM=%d" [.num gpifState.toUInt32]
      return false
  else
    clearStrikes "\r\nWDG: DMA resumed (%u->%u), stall cleared" [.num prevDMA, .num curDMA]
    modifySession fun ss => { ss with glPrevDMACount := curDMA }
    return false

def healthEvaluate : Fw HealthStatus := do
  -- Level 4 first: an overdue EP0 handler is reported before anything else runs.
  if (← ram).ep0.ep0HandlerInProgress then
    let now : UInt32 ← call .getTime
    let enter := (← ram).ep0.ep0HandlerEnterMs
    if now - enter ≥ ep0HandlerTimeoutMs then
      return .wedgedEp0
  -- Level 1: the sampler runs only while the application is active.
  if (← ram).app.glIsApplnActive then
    if ← streamingWedgeDetected then
      return .wedgedStreaming
  return .ok

/-- The ADC clock is running: `si5351_clk0_enabled() && si5351_pll_locked()`, the
second asked only if the first says yes. -/
def clockHealthy : Fw Bool := do
  if ← si5351Clk0Enabled then si5351PllLocked else return false

/-- Cap reached: a cold start that survives light recovery escalates to a device
reset, once per session and only with a healthy clock. -/
def recoverCapped : Fw Unit := do
  let m ← ram
  if m.session.glWdgFaultKind = .coldStart ∧ m.health.glWdgResetEscalationEn ∧
      ¬ m.session.glWdgEscalated then
    if ← clockHealthy then
      modifySession fun ss => { ss with glWdgEscalated := true }
      countUp 2
      debugPrint "\r\nWDG: cold-start unrecovered after %d tries — device reset (#137)"
        [.num (← ram).health.glWdgMaxRecovery.toUInt32]
      void (.deviceReset false)
  debugPrint "\r\nWDG: recovery limit (%d), waiting for STARTFX3"
    [.num (← ram).health.glWdgMaxRecovery.toUInt32]

/-- Deassert FW_TRG, give the state machine a millisecond to reach IDLE and disable
it, keeping its configuration only if it got there. -/
def softStop (failed : String) : Fw Unit := do
  void (.gpifControlSWInput false)
  void (.threadSleep 1)
  let smState ← gpifGetSMState
  if smState = gpifIdle then
    void (.gpifDisable false)
  else
    debugPrint failed [.num smState.toUInt32]
    void (.gpifDisable true)

/-- The restart of light recovery, made only with a healthy clock: the statuses of the
transfer and of the state machine. -/
def recoverRestart (hwOk : Bool) : Fw (ReturnStatus × ReturnStatus) := do
  if hwOk then
    let rcXfer : ReturnStatus ← call (.dmaMultiChannelSetXfer fifoDmaRxSize 0)
    let rcSm : ReturnStatus ← call (.gpifSMStart 0 0)
    void (.gpifControlSWInput true)
    return (rcXfer, rcSm)
  return (0, 0)

/-- Light recovery: stop, reset the DMA channel, flush the endpoint, and restart
if the clock is healthy. -/
def recoverLight : Fw Unit := do
  let curDMA := (← ram).glDMACount
  let smState ← gpifGetSMState
  modifySession fun ss => { ss with glWdgRecoveryCount := ss.glWdgRecoveryCount + 1 }
  debugPrint "\r\nWDG: === RECOVERY START === SM=%d DMA=%u recov=%d/%d"
    [.num smState.toUInt32, .num curDMA, .num (← ram).session.glWdgRecoveryCount.toUInt32,
      .num (← ram).health.glWdgMaxRecovery.toUInt32]
  softStop "\r\nWDG: soft-stop fail SM=%d, forcing"
  let rcReset : ReturnStatus ← call .dmaMultiChannelReset
  let rcFlush : ReturnStatus ← call (.usbFlushEp cyFxEpConsumer)
  let hwOk ← clockHealthy
  let rcs ← recoverRestart hwOk
  countUp 2
  debugPrint "\r\nWDG: === RECOVERY %s === rst=%d flush=%d xfer=%d sm=%d"
    [.text (if hwOk then "DONE" else "WAIT"), .num rcReset, .num rcFlush, .num rcs.1,
      .num rcs.2]
  modifySession fun ss => { ss with glPrevDMACount := 0 }
  modifyDMACount fun _ => 0

def healthRecover : HealthStatus → Fw Unit
  | .wedgedEp0 => void (.deviceReset false)
  | .wedgedStreaming => do
    if (← ram).health.glWdgMaxRecovery > 0 ∧
        (← ram).session.glWdgRecoveryCount ≥ (← ram).health.glWdgMaxRecovery then
      recoverCapped
    else
      recoverLight
  | .ok => pure ()
  | .wedgedUnknown => pure ()

end Rx888
