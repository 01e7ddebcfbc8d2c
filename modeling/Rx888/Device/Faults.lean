import Rx888.Device.BusFailures
import Rx888.Device.BootCount

/-! # The faults a host is told of

GETSTATS reports two counters of faults, the failures on the I2C bus and the streaming faults: the
endpoint's underruns and the recoveries of the stream. What it reports is what the steps since the
application was last started come to.
-/

namespace Rx888

open CallProgram

attribute [local simp] Call.kind

/-! ## The tally -/

/-- A tick has recovered the stream when it has reset the channel, or the device. -/
def Call.recovers : Call → Bool
  | .dmaMultiChannelReset | .deviceReset _ => true
  | _ => false

def recoveryTally (n : Nat) (u : FwCall) : Nat := if u.call.recovers then n + 1 else n

def startTally (n : Nat) (u : FwCall) : Nat := if u.call.startsOver then 0 else n

/-- The streaming faults, with those of another step. -/
def streamingFaultsAfter (n : Nat) (t : device.Step) : Nat :=
  match t.act with
  | .tick => t.trace.foldl recoveryTally n
  | .usbEvent evtype _ =>
      let started := t.trace.foldl startTally n
      if evtype = cyU3PUsbEventEpUnderrun then started + 1 else started
  | _ => t.trace.foldl startTally n

theorem startTally_of_kind (n : Nat) (u : FwCall) (other : u.call.kind ∉ [.deviceInit, .speed]) :
    startTally n u = n := by
  obtain ⟨w, c, answer⟩ := u
  cases c <;> first | rfl | exact absurd (by simp) other

theorem startTally_restarting : Restarting 2 startTally where
  cleared := .inr rfl
  booted _ _ _ := rfl
  started _ _ _ := rfl
  marked n u other := startTally_of_kind n u fun mem => other (by simp_all)

/-! ## Programs that count no fault -/

section Streaming

variable {α : Type} {p : Fw α} {n : Nat} {w : World}

theorem i2cTransferRead_kept (byteAddress devAddr byteCount : UInt8) :
    CounterKept 2 (i2cTransferRead byteAddress devAddr byteCount) := by
  simp [i2cTransferRead, countI2cFailure, call]

theorem i2cTransferWrite_kept (byteAddress devAddr byteCount : UInt8) (buffer : List UInt8) :
    CounterKept 2 (i2cTransferWrite byteAddress devAddr byteCount buffer) := by
  simp [i2cTransferWrite, countI2cFailure, call]

theorem si5351PllLocked_kept : CounterKept 2 si5351PllLocked := by
  refine (Prog.uses_bind _ _).mpr ⟨i2cTransferRead_kept _ _ _, fun data _ => ?_⟩
  cases data <;> exact Prog.uses_pure _

theorem si5351Clk0Enabled_kept : CounterKept 2 si5351Clk0Enabled := by
  refine (Prog.uses_bind _ _).mpr ⟨i2cTransferRead_kept _ _ _, fun data _ => ?_⟩
  cases data <;> exact Prog.uses_pure _

theorem readRegisterOr_kept (reg initial : UInt8) : CounterKept 2 (readRegisterOr reg initial) := by
  refine (Prog.uses_bind _ _).mpr ⟨i2cTransferRead_kept _ _ _, fun data _ => ?_⟩
  cases data <;> exact Prog.uses_pure _

theorem clockHealthy_kept : CounterKept 2 clockHealthy := by
  simp [clockHealthy, si5351PllLocked_kept, si5351Clk0Enabled_kept]

theorem si5351aSetFrequencyA_kept (freq : UInt32) : CounterKept 2 (si5351aSetFrequencyA freq) := by
  simp [si5351aSetFrequencyA, setupPLL, setupMultisynth, i2cTransferW1, i2cTransferWrite_kept,
    call]

theorem pollPllLocked_kept (rounds : Nat) : CounterKept 2 (pollPllLocked rounds) := by
  induction rounds with
  | zero => exact Prog.uses_pure _
  | succ rounds ih =>
      simp [pollPllLocked, si5351PllLocked_kept, ih]

theorem startadc_kept (s : Setup) : CounterKept 2 (startadc s) := by
  have receives : CounterKept 2 (getEP0Data s.wLength) :=
    (getEP0Data_quiet s.wLength (by simp) : Quiet [.usb] _).counterKept (by decide) 2
  have stops : CounterKept 2 implicitStop := by
    have within : Confined [] implicitStop := by simp [implicitStop]
    exact within.counterKept (by decide) 2
  simp [startadc, receives, stops, si5351aSetFrequencyA_kept, pollPllLocked_kept]

theorem getstats_kept (s : Setup) : CounterKept 2 (getstats s) := by
  have puts (off : Nat) (bytes : List UInt8) : CounterKept 2 (ep0Put off bytes) :=
    (ep0Put_quiet off bytes (by simp) : Quiet [.usb] _).counterKept (by decide) 2
  have state : CounterKept 2 gpifGetSMState :=
    (gpifGetSMState_idling : Idling [] _).counterKept (by decide) 2
  have boots : CounterKept 2 healthBootCount :=
    (healthBootCount_quiet : Quiet [] _).counterKept (by decide) 2
  have pins : CounterKept 2 rx888r2ReadGpioState :=
    (rx888r2ReadGpioState_quiet : Quiet [] _).counterKept (by decide) 2
  have sends (count : UInt16) : CounterKept 2 (sendEP0Data count) :=
    (sendEP0Data_quiet count : Quiet [] _).counterKept (by decide) 2
  simp [getstats, ep0Clear, puts, state, boots, pins, sends, readRegisterOr_kept,
    si5351Clk0Enabled_kept]

theorem i2cwfx3_kept (s : Setup) : CounterKept 2 (i2cwfx3 s) := by
  have receives : CounterKept 2 (getEP0Data s.wLength) :=
    (getEP0Data_quiet s.wLength (by simp) : Quiet [.usb] _).counterKept (by decide) 2
  simp [i2cwfx3, receives, i2cTransferWrite_kept, call]

theorem i2crfx3_kept (s : Setup) : CounterKept 2 (i2crfx3 s) := by
  have puts (off : Nat) (bytes : List UInt8) : CounterKept 2 (ep0Put off bytes) :=
    (ep0Put_quiet off bytes (by simp) : Quiet [.usb] _).counterKept (by decide) 2
  have sends (count : UInt16) : CounterKept 2 (sendEP0Data count) :=
    (sendEP0Data_quiet count : Quiet [] _).counterKept (by decide) 2
  unfold i2crfx3
  refine (Prog.uses_ite _ _ _).mpr ⟨fun _ => by simp, fun _ => ?_⟩
  refine (Prog.uses_bind _ _).mpr ⟨puts _ _, fun _ _ => ?_⟩
  refine (Prog.uses_bind _ _).mpr ⟨i2cTransferRead_kept _ _ _, fun data _ => ?_⟩
  cases data <;> simp [puts, sends, call]

theorem startfx3_kept (s : Setup) : CounterKept 2 (startfx3 s) := by
  have receives : CounterKept 2 (getEP0Data s.wLength) :=
    (getEP0Data_quiet s.wLength (by simp) : Quiet [.usb] _).counterKept (by decide) 2
  have checks : CounterKept 2 gpifPreflightCheck := by
    simp [gpifPreflightCheck, si5351PllLocked_kept, si5351Clk0Enabled_kept]
  have restarts : CounterKept 2 restartStream := by
    have within : Confined [.session, .buffers, .pib] restartStream := by
      simp [restartStream, startGPIF, rx888r2AdcStandby, gpioSetValue, call]
    exact within.counterKept (by decide) 2
  have reports (status : ReturnStatus) : CounterKept 2 (reportStart status) := by
    have within : Confined [] (reportStart status) := by simp [reportStart]
    exact within.counterKept (by decide) 2
  simp [startfx3, stallEP0, receives, checks, restarts, reports]

/-- No command counts a streaming fault. -/
theorem vendorCommand_kept (s : Setup) (c : FX3Command) :
    CounterKept 2 (vendorCommand s (some c)) := by
  cases c with
  | startadc => exact startadc_kept s
  | getstats => exact getstats_kept s
  | startfx3 => exact startfx3_kept s
  | i2cwfx3 => exact i2cwfx3_kept s
  | i2crfx3 => exact i2crfx3_kept s
  | _ => exact (vendorCommand_confined s (some _)).counterKept (by decide) 2

theorem request_kept (setupdat0 setupdat1 : UInt32) :
    CounterKept 2 (Act.prog (.request setupdat0 setupdat1)) := by
  have records (e : HealthEvent) : CounterKept 2 (healthRecordEvent e) :=
    (healthRecordEvent_quiet e (by simp) : Quiet [.ep0] _).counterKept (by decide) 2
  have serves (s : Setup) : CounterKept 2 (setupRequest s) := by
    cases command : s.command? with
    | none => exact (refused_confined command).counterKept (by decide) 2
    | some c =>
        have traces : CounterKept 2 (traceSerial s.bRequest s.wValue s.wIndex) :=
          (traceSerial_quiet _ _ _ : Quiet [] _).counterKept (by decide) 2
        rw [setupRequest_eq command]
        simp [vendorCommand_kept, traces]
  simp [Act.prog, cyFxSlFifoApplnUSBSetupCB, records, serves]

theorem request_makes (setupdat0 setupdat1 : UInt32) :
    Makes requestKinds (Act.prog (.request setupdat0 setupdat1)) := by
  simp [Act.prog, cyFxSlFifoApplnUSBSetupCB, setupRequest_makes]

theorem request_faults (setupdat0 setupdat1 : UInt32) :
    (Act.prog (.request setupdat0 setupdat1)).Tallies sdk (CounterShows 2) startTally :=
  (request_kept _ _).tallies (request_makes _ _) (by decide) startTally_of_kind

/-! ### Recoveries -/

theorem recoveryTally_of_unfaulted (n : Nat) (u : FwCall) (other : u.call.recovers = false) :
    recoveryTally n u = n := by
  unfold recoveryTally
  rw [other]
  rfl

/-- Neither the counter nor the recoveries are touched. -/
abbrev Unfaulted (p : Fw α) : Prop :=
  p.Uses (fun g => ∀ m, (g m).glCounter.get 2 = m.glCounter.get 2) fun c => c.recovers = false

theorem CounterKept.unfaulted {kinds : List Kind} (kept : CounterKept 2 p) (makes : Makes kinds p)
    (apart : ∀ k ∈ kinds, k ∉ [Kind.transfer, .reset]) : Unfaulted p := by
  refine Prog.Uses.mono (Prog.Uses.and kept makes) (fun _ writes => writes.1) ?_
  intro c made
  have other := apart _ made.2
  cases c <;> first | rfl | exact absurd (by simp) other

theorem Unfaulted.ensures (spares : Unfaulted p) {k : Nat} (shown : CounterShows 2 w.mem k)
    (n : Nat) :
    p.Ensures sdk (fun tr _ w' => CounterShows 2 w'.mem k ∧ tr.foldl recoveryTally n = n) w := by
  have tallies : p.Tallies sdk (fun m x => CounterShows 2 m k ∧ x = n) recoveryTally := by
    apply Prog.tallies_of_uses spares
    · exact fun g m x writes both => ⟨(writes m).trans both.1, both.2⟩
    · intro s c r x _ _ both
      refine ⟨?_, both.2⟩
      show (memAfter s.mem c r).glCounter.get 2 = _
      rw [(memAfter_unchanged s.mem c r).counter (by simp)]
      exact both.1
    · exact fun t x other => recoveryTally_of_unfaulted x t other
  exact tallies w n ⟨shown, rfl⟩

theorem Unfaulted.tallied (spares : Unfaulted p) :
    p.Tallies sdk (CounterShows 2) recoveryTally := by
  intro w n shown
  apply ensures_mono (spares.ensures shown n)
  rintro tr _ w' ⟨shown', same⟩
  rw [same]
  exact shown'

theorem clockHealthy_unfaulted : Unfaulted clockHealthy :=
  clockHealthy_kept.unfaulted (by simp [clockHealthy] : Makes [.i2cRead] _) (by decide)

theorem printed_unfaulted (fmt : String) (args : List DebugArg) : Unfaulted (debugPrint fmt args) :=
  ⟨rfl, fun _ => trivial⟩

theorem ram_unfaulted : Unfaulted ram := fun _ => trivial

theorem modifySession_unfaulted (g : SessionRam → SessionRam) : Unfaulted (modifySession g) :=
  ⟨fun _ => rfl, trivial⟩

/-- The count and the reset when the cap is reached. -/
def recoverReset : Fw Unit := do
  countUp 2
  debugPrint "\r\nWDG: cold-start unrecovered after %d tries — device reset (#137)"
    [.num (← ram).health.glWdgMaxRecovery.toUInt32]
  void (.deviceReset false)

theorem recoverReset_faults : recoverReset.Tallies sdk (CounterShows 2) recoveryTally := by
  intro w n shown
  have prints : Unfaulted (do
      debugPrint "\r\nWDG: cold-start unrecovered after %d tries — device reset (#137)"
        [.num (← ram).health.glWdgMaxRecovery.toUInt32]) :=
    (Prog.uses_bind _ _).mpr ⟨ram_unfaulted, fun _ _ => printed_unfaulted _ _⟩
  apply modify_bind_ensures.mpr
  apply (prints.ensures shown.up n).bind
  rintro tr _ w₁ ⟨shown₁, same⟩ answer _
  show CounterShows 2 w₁.mem (List.foldl recoveryTally n (tr ++ [_]))
  rw [List.foldl_append, same]
  exact shown₁

theorem recoverCapped_faults : recoverCapped.Tallies sdk (CounterShows 2) recoveryTally := by
  have gives : Unfaulted (do
      debugPrint "\r\nWDG: recovery limit (%d), waiting for STARTFX3"
        [.num (← ram).health.glWdgMaxRecovery.toUInt32]) :=
    (Prog.uses_bind _ _).mpr ⟨ram_unfaulted, fun _ _ => printed_unfaulted _ _⟩
  unfold recoverCapped
  apply ram_unfaulted.tallied.bind
  intro m
  apply Prog.Tallies.ite
  · intro _
    apply clockHealthy_unfaulted.tallied.bind
    intro healthy
    apply Prog.Tallies.ite
    · intro _
      apply (modifySession_unfaulted _).tallied.bind
      intro _
      exact recoverReset_faults.bind fun _ => gives.tallied
    · exact fun _ => gives.tallied
  · exact fun _ => gives.tallied

/-- The reset of the channel, with the restart behind it, and the count. -/
def recoverChannel : Fw (Bool × ReturnStatus × ReturnStatus × ReturnStatus × ReturnStatus) := do
  let rcReset : ReturnStatus ← call .dmaMultiChannelReset
  let rcFlush : ReturnStatus ← call (.usbFlushEp cyFxEpConsumer)
  let hwOk ← clockHealthy
  let rcs ← recoverRestart hwOk
  countUp 2
  return (hwOk, rcReset, rcFlush, rcs.1, rcs.2)

theorem recoverLight_eq : recoverLight = (do
    let curDMA := (← ram).glDMACount
    let smState ← gpifGetSMState
    modifySession fun ss => { ss with glWdgRecoveryCount := ss.glWdgRecoveryCount + 1 }
    debugPrint "\r\nWDG: === RECOVERY START === SM=%d DMA=%u recov=%d/%d"
      [.num smState.toUInt32, .num curDMA, .num (← ram).session.glWdgRecoveryCount.toUInt32,
        .num (← ram).health.glWdgMaxRecovery.toUInt32]
    softStop "\r\nWDG: soft-stop fail SM=%d, forcing"
    let (hwOk, rcReset, rcFlush, rcXfer, rcSm) ← recoverChannel
    debugPrint "\r\nWDG: === RECOVERY %s === rst=%d flush=%d xfer=%d sm=%d"
      [.text (if hwOk then "DONE" else "WAIT"), .num rcReset, .num rcFlush, .num rcXfer,
        .num rcSm]
    modifySession fun ss => { ss with glPrevDMACount := 0 }
    modifyDMACount fun _ => 0) := by
  simp only [recoverLight, recoverChannel, bind_assoc, pure_bind]

theorem recoverChannel_faults : recoverChannel.Tallies sdk (CounterShows 2) recoveryTally := by
  have flushes : Unfaulted (call (.usbFlushEp cyFxEpConsumer)) := ⟨rfl, fun _ => trivial⟩
  have restarts (hwOk : Bool) : Unfaulted (recoverRestart hwOk) := by
    cases hwOk <;> simp [recoverRestart, call, void, Call.recovers]
  intro w n shown
  apply call_bind_ensures.mpr
  intro rcReset _
  have counted (tr : List FwCall) :
      (⟨w, .dmaMultiChannelReset, rcReset⟩ :: tr).foldl recoveryTally n =
        tr.foldl recoveryTally (n + 1) :=
    rfl
  simp only [counted]
  -- the memory shows the recovery only when it is over
  apply (flushes.ensures (show CounterShows 2 _ n from shown) (n + 1)).bind
  rintro tr₁ rcFlush w₁ ⟨shown₁, same₁⟩
  apply (clockHealthy_unfaulted.ensures shown₁ (n + 1)).bind
  rintro tr₂ hwOk w₂ ⟨shown₂, same₂⟩
  apply ((restarts hwOk).ensures shown₂ (n + 1)).bind
  rintro tr₃ rcs w₃ ⟨shown₃, same₃⟩
  have all : (tr₁ ++ (tr₂ ++ (tr₃ ++ []))).foldl recoveryTally (n + 1) = n + 1 := by
    rw [List.append_nil, List.foldl_append, List.foldl_append, same₁, same₂, same₃]
  apply modify_bind_ensures.mpr
  show CounterShows 2 _ (List.foldl recoveryTally (n + 1) (tr₁ ++ (tr₂ ++ (tr₃ ++ []))))
  rw [all]
  exact shown₃.up

theorem recoverLight_faults : recoverLight.Tallies sdk (CounterShows 2) recoveryTally := by
  have state : Unfaulted gpifGetSMState := ⟨rfl, fun _ => trivial⟩
  have stops : Unfaulted (softStop "\r\nWDG: soft-stop fail SM=%d, forcing") := by
    have within : Confined [] (softStop "\r\nWDG: soft-stop fail SM=%d, forcing") := by
      simp [softStop]
    exact (within.counterKept (by decide) 2).unfaulted
      (softStop_makes _ (by simp) : Makes [.gpif, .sleep, .smState, .text] _) (by decide)
  have clears : Unfaulted (modifyDMACount fun _ => 0) := ⟨fun _ => rfl, trivial⟩
  rw [recoverLight_eq]
  apply ram_unfaulted.tallied.bind
  intro m
  apply state.tallied.bind
  intro smState
  apply (modifySession_unfaulted _).tallied.bind
  intro _
  apply ram_unfaulted.tallied.bind
  intro m₁
  apply ram_unfaulted.tallied.bind
  intro m₂
  apply (printed_unfaulted _ _).tallied.bind
  intro _
  apply stops.tallied.bind
  intro _
  apply recoverChannel_faults.bind
  rintro ⟨hwOk, rcReset, rcFlush, rcXfer, rcSm⟩
  apply (printed_unfaulted _ _).tallied.bind
  intro _
  exact (modifySession_unfaulted _).tallied.bind fun _ => clears.tallied

/-- With no EP0 handler in progress the verdict is not about EP0. -/
theorem healthEvaluate_idle (idle : w.mem.ep0.ep0HandlerInProgress = false) :
    healthEvaluate.Ensures sdk (fun _ hs _ => hs ≠ .wedgedEp0) w := by
  unfold healthEvaluate
  apply ram_bind_ensures.mpr
  rw [if_neg (by rw [idle]; exact Bool.false_ne_true)]
  apply ram_bind_ensures.mpr
  apply ensures_ite
  · intro _
    apply (ensures_bind _ _).mpr
    apply ensures_of_runs
    intro _ hit _ _
    cases hit <;> simp
  · intro _
    simp

theorem healthTick_faults (idle : w.mem.ep0.ep0HandlerInProgress = false)
    (shown : CounterShows 2 w.mem n) :
    healthTick.Ensures sdk (fun tr _ w' => CounterShows 2 w'.mem (tr.foldl recoveryTally n)) w := by
  have evaluates : Unfaulted healthEvaluate :=
    (healthEvaluate_confined.counterKept (by decide) 2).unfaulted healthEvaluate_makes (by decide)
  have remedies {hs : HealthStatus} (other : hs ≠ .wedgedEp0) :
      (healthRemedy hs).Tallies sdk (CounterShows 2) recoveryTally := by
    cases hs with
    | ok => exact Prog.tallies_pure _
    | wedgedEp0 => exact absurd rfl other
    | wedgedUnknown => exact (printed_unfaulted _ _).tallied.bind fun _ => Prog.tallies_pure _
    | wedgedStreaming =>
        apply (printed_unfaulted _ _).tallied.bind
        intro _
        apply ram_unfaulted.tallied.bind
        intro m
        apply ram_unfaulted.tallied.bind
        intro m'
        apply ram_unfaulted.tallied.bind
        intro m''
        apply Prog.Tallies.ite
        · exact fun _ => recoverCapped_faults
        · exact fun _ => recoverLight_faults
  have samples (w : World) (idle : w.mem.ep0.ep0HandlerInProgress = false)
      (shown : CounterShows 2 w.mem n) : (healthEvaluate >>= healthRemedy).Ensures sdk
        (fun tr _ w' => CounterShows 2 w'.mem (tr.foldl recoveryTally n)) w := by
    apply (ensures_and (evaluates.tallied _ n shown) (healthEvaluate_idle idle)).bind
    rintro tr hs w₁ ⟨shown₁, other⟩
    apply ensures_mono (remedies other w₁ _ shown₁)
    intro tr' _ w' shown'
    rw [List.foldl_append]
    exact shown'
  exact modify_bind_ensures.mpr (samples _ idle shown)

theorem underrun_faults (evdata : UInt16) (shown : CounterShows 2 w.mem n) :
    (usbEventCallback cyU3PUsbEventEpUnderrun evdata).Ensures sdk
      (fun tr _ w' => CounterShows 2 w'.mem (tr.foldl startTally n + 1)) w := by
  have queues : Confined [] (void (.queueSend cyU3PUsbEventEpUnderrun.toUInt32)) := by simp
  have prints : Quiet [] (debugPrint "\r\nEP Underrun on %d" [.num evdata.toUInt32]) := by simp
  show (void (.queueSend cyU3PUsbEventEpUnderrun.toUInt32) >>= fun _ => countUp 2 >>= fun _ =>
    debugPrint "\r\nEP Underrun on %d" [.num evdata.toUInt32]).Ensures sdk _ w
  apply (startTally_restarting.around queues (by decide) (by simp : Makes [.queue] _) (by decide)
    shown).bind
  rintro tr _ w₁ ⟨shown₁, same⟩
  apply modify_bind_ensures.mpr
  apply ensures_mono (startTally_restarting.around prints (by decide) (by simp : Makes [.text] _)
    (by decide) shown₁.up)
  rintro tr' _ w' ⟨shown', same'⟩
  rw [List.foldl_append, same, same']
  exact shown'

/-- The bring-up of the clock has to do with the other counter only. -/
theorem initClock_faults : initClock.Tallies sdk (CounterShows 2) startTally := by
  have writes (regs : List (UInt8 × UInt8)) : CounterKept 2 (writeRegisters regs) := by
    induction regs with
    | nil => exact Prog.uses_pure _
    | cons r rest ih => simp [writeRegisters, i2cTransferW1, i2cTransferWrite_kept, ih]
  have made (regs : List (UInt8 × UInt8)) : Makes [.i2cWrite] (writeRegisters regs) := by
    induction regs with
    | nil => exact makes_pure _
    | cons r rest ih => simp [writeRegisters, ih]
  have begins : CounterKept 2 i2cInit := (i2cInit_quiet : Quiet [] _).counterKept (by decide) 2
  have init : Makes [.setup, .i2cWrite, .text] si5351Init := (made _).mono (by decide)
  have kept : CounterKept 2 initClock := by
    simp [initClock, si5351Init, begins, writes]
  have makes : Makes [.setup, .i2cWrite, .text] initClock := by
    simp [initClock, i2cInit, call, init]
  exact kept.tallies makes (by decide) startTally_of_kind

/-- A step adds its faults to the count. -/
theorem step_faults (t : device.Step)
    (idle : t.act = .tick → t.before.mem.ep0.ep0HandlerInProgress = false)
    (before : t.act = .boot ∨ CounterShows 2 t.before.mem n) :
    CounterShows 2 t.after.mem (streamingFaultsAfter n t) := by
  have runs := t.runs
  unfold streamingFaultsAfter
  cases act : t.act with
  | boot =>
      rw [act] at runs
      exact runs.ensures (startTally_restarting.boots initClock_faults n _)
  | request setupdat0 setupdat1 =>
      rw [act] at runs before
      exact (request_faults setupdat0 setupdat1).run runs (before.resolve_left (by simp))
  | usbEvent evtype evdata =>
      rw [act] at runs before
      have shown := before.resolve_left (by simp)
      by_cases underrun : evtype = cyU3PUsbEventEpUnderrun
      · subst underrun
        exact runs.ensures (underrun_faults evdata shown)
      · simp only [if_neg underrun]
        exact (startTally_restarting.usbEvent evdata underrun).run runs shown
  | tick =>
      rw [act] at runs before idle
      exact runs.ensures (healthTick_faults (idle rfl) (before.resolve_left (by simp)))
  | buffers count =>
      rw [act] at runs before
      have kept : CounterKept 2 (Act.prog (.buffers count)) := ⟨fun _ => rfl, trivial⟩
      have makes : Makes [] (Act.prog (.buffers count)) := by simp [Act.prog]
      exact (kept.tallies makes (by decide) startTally_of_kind).run runs
        (before.resolve_left (by simp))
  | active flag =>
      rw [act] at runs before
      have kept : CounterKept 2 (Act.prog (.active flag)) := ⟨fun _ => rfl, trivial⟩
      have makes : Makes [] (Act.prog (.active flag)) := by simp [Act.prog]
      exact (kept.tallies makes (by decide) startTally_of_kind).run runs
        (before.resolve_left (by simp))

end Streaming

/-! ## What the host is told -/

section Told

variable {steps : List device.Step} {w : World}

theorem run_failures (run : device.Run steps w) :
    CounterShows 1 w.mem (steps.foldl i2cFailuresAfter 0) :=
  run.summary (fun n s => CounterShows 1 s.mem n)
    (fun t first (_ : True) => step_failures t (.inl first))
    (fun _ t _ before => step_failures t (.inr before))
    fun _ _ => trivial

theorem run_faults (run : device.Run steps w) :
    CounterShows 2 w.mem (steps.foldl streamingFaultsAfter 0) := by
  induction run with
  | start t first =>
      have boots : t.act = .boot := first
      exact step_faults t (fun tick => by rw [boots] at tick; cases tick) (.inl first)
  | step run t next ih =>
      rw [List.foldl_append]
      subst next
      exact step_faults t (fun _ => run_noHandler run) (.inr ih)

/-- The reply to a statistics request carries the counters as they were before it. -/
theorem getstats_counters {t : device.Step} (asked : t.act.command? = some .getstats) :
    ∃ st : Fx3Stats, replies t.trace = [st.payload] ∧
      st.i2cFailures = t.before.mem.glCounter.get 1 ∧
      st.streamingFaults = t.before.mem.glCounter.get 2 := by
  have runs := t.runs
  cases act : t.act with
  | request setupdat0 setupdat1 =>
      rw [act] at runs asked
      obtain ⟨tr, handled, w, tr', same, callback, rest⟩ := runs.split
      cases rest
      obtain ⟨now, served, w₁, rfl, serves, -⟩ := callback_split callback
      obtain ⟨tr₁, isHandled, w₂, stats, reply, -⟩ := reply_of_command asked serves
      obtain ⟨st, sampled, sent⟩ := getstats_replies (s := Setup.decode setupdat0 setupdat1) stats
      have all : replies t.trace = [st.payload] := by
        rw [same, List.append_nil]
        exact reply.trans sent
      exact ⟨st, all, sampled.i2cFailures, sampled.streamingFaults⟩
  | _ =>
      rw [act] at asked
      cases asked

/-- In every run, what a host reads in the statistics is how many failures and faults the steps
since the application's last start come to. -/
theorem faults_told (run : device.Run steps w) {pre post : List device.Step} {t : device.Step}
    (split : steps = pre ++ t :: post) (asked : t.act.command? = some .getstats) :
    ∃ bytes st, replies t.trace = [bytes] ∧ readStats (.ok bytes) = .ok st ∧
      st.i2cFailures = UInt32.ofNat (pre.foldl i2cFailuresAfter 0) ∧
      st.streamingFaults = UInt32.ofNat (pre.foldl streamingFaultsAfter 0) := by
  obtain ⟨st, reply, failures, faults⟩ := getstats_counters asked
  rcases run.before split with ⟨-, boots⟩ | earlier
  · have boots : t.act = .boot := boots
    rw [boots] at asked
    cases asked
  · exact ⟨st.payload, st, reply, readStats_payload st, failures.trans (run_failures earlier),
      faults.trans (run_faults earlier)⟩

/-- A host reads a register of the clock chip that is reserved, and the endpoint runs dry. -/
def faultScript : List (Act × Bench) :=
  [(vendorSetup true .i2crfx3 0xC0 200 1, Bench.idle),
    (.usbEvent cyU3PUsbEventEpUnderrun 1, Bench.idle)]

def faultStats : device.Step :=
  device.perform Bench.idle.oracle (vendorSetup true .getstats 0 0 30) (benchRun faultScript).2

theorem faults_told_script :
    ∃ bytes st, replies faultStats.trace = [bytes] ∧ readStats (.ok bytes) = .ok st ∧
      st.i2cFailures = 1 ∧ st.streamingFaults = 1 := by
  have run : device.Run ((benchRun faultScript).1 ++ [faultStats]) faultStats.after :=
    .step (benchRun_run faultScript) faultStats rfl
  have asked : faultStats.act.command? = some .getstats := by decide
  have failures : (benchRun faultScript).1.foldl i2cFailuresAfter 0 = 1 := by
    decide +kernel
  have faults : (benchRun faultScript).1.foldl streamingFaultsAfter 0 = 1 := by
    decide +kernel
  obtain ⟨bytes, st, reply, read, told, told'⟩ := faults_told run rfl asked
  rw [failures] at told
  rw [faults] at told'
  exact ⟨bytes, st, reply, read, told, told'⟩

end Told

end Rx888
