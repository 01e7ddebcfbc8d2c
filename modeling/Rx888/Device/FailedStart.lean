import Rx888.Ep0.Reply

/-! # What a failed STARTFX3 leaves behind

The handler leaves at one of three depths: the clock check, the transfer and the start of the
state machine. It stalls the request on each of these ways out and undoes nothing on any.
-/

namespace Rx888

open CallProgram

attribute [local simp] Call.kind

/-- The application is active and idle: the stream stopped, the ADC parked and link power
management enabled. -/
structure StreamIdle (w : World) : Prop where
  active : w.mem.app.glIsApplnActive = true
  stopped : w.env.smRunning = false
  fwTrg : w.env.fwTrg = false
  parked : w.env.gpio gpioShdwn = true
  lpm : w.env.lpmEnabled = true

/-- STARTFX3 is executed, and no start of the state machine succeeds in it. -/
def StartFails (s : Setup) (tr : List FwCall) : Prop :=
  s.command? = some .startfx3 ∧ .start true ∉ ops tr

/-- The request is stalled, and the device idle as before it. -/
structure StartRejected (tr : List FwCall) (w' : World) : Prop where
  stalled : .usbStall 0 true false ∈ tr.map (·.call)
  lpm : w'.env.lpmEnabled = true
  parked : w'.env.gpio gpioShdwn = true
  fwTrg : w'.env.fwTrg = false
  stopped : w'.env.smRunning = false

/-- What is left: the stall, the state machine and FW_TRG are as they should, link power
management is off, and the ADC stays awake once it has been woken. -/
structure FailedStart (tr : List FwCall) (w' : World) : Prop where
  stalled : .usbStall 0 true false ∈ tr.map (·.call)
  lpm : w'.env.lpmEnabled = false
  parked : w'.env.gpio gpioShdwn = !decide (.shdwn false true ∈ ops tr)
  fwTrg : w'.env.fwTrg = false
  stopped : w'.env.smRunning = false

section Handler

variable {s : Setup} {w w' : World} {tr : List FwCall} {handled : Bool}

theorem StartOps.failed {os : List PipeOp} {passed : Bool} (h : StartOps os passed)
    (fails : .start true ∉ os) {p : Pipe} (stopped : p.running = false) (fwTrg : p.fwTrg = false)
    (parked : p.shdwn = true) :
    (os.foldl Pipe.after p).running = false ∧ (os.foldl Pipe.after p).fwTrg = false ∧
      (os.foldl Pipe.after p).shdwn = !decide (.shdwn false true ∈ os) := by
  cases h with
  | refused check =>
      have awake : .shdwn false true ∉ os := fun woken => absurd (check.idle _ woken) (by decide)
      rw [idle_foldl check.idle]
      simp [stopped, fwTrg, parked, awake]
  | restarted ok sm restart =>
      cases restart with
      | started => simp at fails
      | noXfer => cases ok <;> simp [restartPrelude, Pipe.after, parked]
      | noStart => cases ok <;> simp [restartPrelude, Pipe.after, parked]

theorem reportStart_stalls {status : ReturnStatus} (failed : status ≠ cyU3PSuccess)
    (run : Runs sdk (reportStart status) w tr () w') :
    .usbStall 0 true false ∈ tr.map (·.call) := by
  have stalls : (reportStart status).Ensures sdk
      (fun tr _ _ => .usbStall 0 true false ∈ tr.map (·.call)) w := by
    unfold reportStart
    refine ensures_ite _ (fun _ => ?_) fun no => absurd failed no
    exact fun _ _ _ _ => fun _ _ _ _ => List.mem_cons_of_mem _ List.mem_cons_self
  exact run.ensures stalls

/-- Every way out of a failed start stalls. -/
theorem startfx3_stalls (run : Runs sdk (startfx3 s) w tr handled w')
    (fails : .start true ∉ ops tr) : .usbStall 0 true false ∈ tr.map (·.call) := by
  unfold startfx3 at run
  obtain ⟨disables, _, w₁, tr₁, rfl, -, run⟩ := run.split
  obtain ⟨receives, _, w₂, tr₂, rfl, -, run⟩ := run.split
  obtain ⟨checks, passed, w₃, tr₃, rfl, -, run⟩ := run.split
  have stalls : .usbStall 0 true false ∈ tr₃.map (·.call) := by
    cases passed with
    | false =>
        have refuses : (do stallEP0; return true : Fw Bool).Ensures sdk
            (fun tr _ _ => .usbStall 0 true false ∈ tr.map (·.call)) w₃ :=
          fun _ _ => List.mem_cons_self
        exact run.ensures refuses
    | true =>
        obtain ⟨restarts, status, w₄, tr₄, rfl, restart, run⟩ := run.split
        obtain ⟨reports, _, w₅, tr₅, rfl, report, run⟩ := run.split
        obtain ⟨⟨ok, rest, up, same, restarted, succeeds⟩, -⟩ :=
          does_of_runs restart restartStream_does
        have failed : status ≠ cyU3PSuccess := by
          intro started
          rw [succeeds.mp started] at restarted
          cases restarted
          simp [same] at fails
        have stalled := reportStart_stalls failed report
        simp [stalled]
  simp [stalls]

/-- Link power management stays off until a call turns it on. -/
theorem lpmDisabled_of_kinds {α : Type} {p : Fw α} {a : α} {kinds : List Kind}
    (makes : Makes kinds p) (others : .lpm ∉ kinds ∧ .deviceInit ∉ kinds)
    (run : Runs sdk p w tr a w') (off : w.env.lpmEnabled = false) : w'.env.lpmEnabled = false := by
  refine run.frame (fun s => s.env.lpmEnabled = false) makes (fun _ _ _ => id) ?_ off
  intro s c r kind _ h
  have others : c.kind ≠ .lpm ∧ c.kind ≠ .deviceInit :=
    ⟨fun same => others.1 (same ▸ kind), fun same => others.2 (same ▸ kind)⟩
  show (s.env.after c r).lpmEnabled = false
  cases c with
  | deviceInit => exact absurd rfl others.2
  | usbLPMEnable => exact absurd rfl others.1
  | usbLPMDisable => rfl
  | gpifSMStart stateIndex initialAlpha =>
      simp only [Hw.after]
      split <;> exact h
  | gpioSetSimpleConfig pin level =>
      simp only [Hw.after]
      split <;> exact h
  | gpioSetValue pin level =>
      simp only [Hw.after]
      split <;> exact h
  | _ => exact h

/-- STARTFX3 turns link power management off first, and never on. -/
theorem startfx3_lpmDisabled (run : Runs sdk (startfx3 s) w tr handled w') :
    w'.env.lpmEnabled = false := by
  unfold startfx3 at run
  obtain ⟨disables, _, w₁, rest, rfl, disable, run⟩ := run.split
  have off : w₁.env.lpmEnabled = false := by
    have turnsOff : (void .usbLPMDisable).Ensures sdk (fun _ _ w' => w'.env.lpmEnabled = false) w :=
      fun _ _ => rfl
    exact disable.ensures turnsOff
  have makes : Makes
      ([.dataOut, .i2cRead, .gpif, .transfer, .endpoint, .smState, .stall] ++ checkKinds) (do
        let _ ← getEP0Data s.wLength
        if ¬ (← gpifPreflightCheck) then
          stallEP0
          return true
        let apiRetStatus ← restartStream
        reportStart apiRetStatus
        return true : Fw Bool) := by
    simp [restartStream, reportStart, call]
  exact lpmDisabled_of_kinds makes (by decide) run off

end Handler

/-- No STARTFX3 that fails in an idle state leaves it as it was: the stall, FW_TRG and the state
machine are as they should, link power management never is. -/
theorem failed_start_leaves {setupdat0 setupdat1 : UInt32} {w w' : World} {tr : List FwCall}
    {handled : Bool} (idle : StreamIdle w)
    (run : Runs sdk (cyFxSlFifoApplnUSBSetupCB setupdat0 setupdat1) w tr handled w')
    (fails : StartFails (Setup.decode setupdat0 setupdat1) tr) :
    FailedStart tr w' ∧ ¬ StartRejected tr w' := by
  obtain ⟨command, unstarted⟩ := fails
  have does := (does_of_runs run (cyFxSlFifoApplnUSBSetupCB_does setupdat0 setupdat1)).1
  have pipe := pipe_of_runs run
  rw [command] at does
  obtain ⟨passed, starts, -⟩ := does
  obtain ⟨stopped, fwTrg, parked⟩ := starts.failed unstarted (p := w.env.pipe) idle.stopped
    idle.fwTrg idle.parked
  rw [← pipe] at stopped fwTrg parked
  obtain ⟨now, served, w₁, rfl, serves, rfl⟩ := callback_split run
  obtain ⟨tr₁, isHandled, w₂, tr₂, rfl, start, traces⟩ := run_of_command command serves
  have unstarted : .start true ∉ ops tr₁ := by
    rw [ops_cons, ops_append] at unstarted
    simp only [List.mem_append, not_or] at unstarted
    exact unstarted.2.1
  have stalled := startfx3_stalls start unstarted
  have text : Makes [.text] (traceSerial (Setup.decode setupdat0 setupdat1).bRequest
      (Setup.decode setupdat0 setupdat1).wValue (Setup.decode setupdat0 setupdat1).wIndex) := by
    simp
  have lpm : w₁.env.lpmEnabled = false :=
    lpmDisabled_of_kinds text (by decide) traces (startfx3_lpmDisabled start)
  refine ⟨⟨by simp [stalled], lpm, parked, fwTrg, stopped⟩, fun rejected => ?_⟩
  have enabled : w₁.env.lpmEnabled = true := rejected.lpm
  rw [lpm] at enabled
  cases enabled

/-- The host has configured the device and stopped the stream. -/
def stoppedDevice : World :=
  (benchRun [(.usbEvent cyU3PUsbEventSetconf 0, Bench.idle),
    (vendorSetup false .stopfx3 0 0 0, Bench.idle)]).2

theorem stoppedDevice_run : device.Run (benchRun [(.usbEvent cyU3PUsbEventSetconf 0, Bench.idle),
    (vendorSetup false .stopfx3 0 0 0, Bench.idle)]).1 stoppedDevice :=
  benchRun_run _

theorem stoppedDevice_idle : StreamIdle stoppedDevice := by
  constructor <;> decide +kernel

def Bench.clockOff : Bench := { Bench.idle with clk0Control := 0x80 }

def refusedStart : List FwCall × Bool × World :=
  requestRun Bench.clockOff 0x0000AA40 0 stoppedDevice

theorem refusedStart_fails : StartFails (Setup.decode 0x0000AA40 0) refusedStart.1 := by
  constructor
  · decide
  · decide +kernel

theorem failed_start_leaves_clockOff :
    FailedStart refusedStart.1 refusedStart.2.2 ∧ ¬ StartRejected refusedStart.1 refusedStart.2.2 :=
  failed_start_leaves stoppedDevice_idle (requestRun_runs _ _ _ _) refusedStart_fails

/-- A refused start leaves link power management off. -/
theorem refused_start_not_undone : ¬ ∀ (steps : List device.Step) (w w' : World)
    (setupdat0 setupdat1 : UInt32) (tr : List FwCall) (handled : Bool), device.Run steps w →
    StreamIdle w →
    Runs sdk (cyFxSlFifoApplnUSBSetupCB setupdat0 setupdat1) w tr handled w' →
    StartFails (Setup.decode setupdat0 setupdat1) tr → StartRejected tr w' := by
  intro always
  have rejected := always _ _ _ _ _ _ _ stoppedDevice_run stoppedDevice_idle
    (requestRun_runs Bench.clockOff 0x0000AA40 0 stoppedDevice) refusedStart_fails
  have left :
      (requestRun Bench.clockOff 0x0000AA40 0 stoppedDevice).2.2.env.lpmEnabled = false := by
    decide +kernel
  rw [rejected.lpm] at left
  cases left

end Rx888
