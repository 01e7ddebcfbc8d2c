import Rx888.Device.Ticks
import Rx888.Device.StartGate

/-! # The GPIF's configuration

The state machine may be started only while a configuration is loaded, and a configuration
loaded only while there is none. A step keeps to this unless it restarts a state machine
whose configuration it has dropped, which light recovery may do.
-/

namespace Rx888

open CallProgram

/-- The state machine is started with a configuration, a configuration loaded without. -/
def Call.configured (hw : Hw) : Call → Bool
  | .gpifSMStart _ _ => hw.gpifLoaded
  | .gpifLoad => !hw.gpifLoaded
  | _ => true

def configured (t : device.Step) : Prop := ∀ c ∈ t.trace, c.call.configured c.before.env = true

/-- A transfer is set up on a DMA channel only if there is one: without, the call answers
`CY_U3P_ERROR_NOT_CONFIGURED`. -/
def Call.channelled (hw : Hw) : (c : Call) → c.Ans → Bool
  | .dmaMultiChannelSetXfer _ _, status => status != cyU3PSuccess || hw.dmaChannel
  | _, _ => true

def channelled (t : device.Step) : Prop :=
  ∀ c ∈ t.trace, c.call.channelled c.before.env c.ans = true

instance (t : device.Step) : Decidable (configured t) :=
  inferInstanceAs (Decidable (∀ c ∈ t.trace, _))

instance (t : device.Step) : Decidable (channelled t) :=
  inferInstanceAs (Decidable (∀ c ∈ t.trace, _))

/-! ## Checks along the operations -/

/-- Each operation passes the check in the state it is made in. -/
def Along (ok : Pipe → PipeOp → Bool) : Pipe → List PipeOp → Prop
  | _, [] => True
  | p, o :: os => ok p o = true ∧ Along ok (p.after o) os

section Along

variable {ok : Pipe → PipeOp → Bool} {p : Pipe}

@[simp] theorem along_nil : Along ok p [] := trivial

@[simp] theorem along_cons (o : PipeOp) (os : List PipeOp) :
    Along ok p (o :: os) ↔ ok p o = true ∧ Along ok (p.after o) os := Iff.rfl

@[simp] theorem along_append (os os' : List PipeOp) :
    Along ok p (os ++ os') ↔ Along ok p os ∧ Along ok (os.foldl Pipe.after p) os' := by
  induction os generalizing p with
  | nil => simp
  | cons o os ih => simp [ih, and_assoc]

/-- A check of the calls that looks at the pipeline operations only. -/
theorem along_of_runs {α : Type} {f : Fw α} {w w' : World} {tr : List FwCall} {a : α}
    (h : Runs sdk f w tr a w') {check : FwCall → Prop}
    (same : ∀ t : FwCall, check t ↔
      ∀ o, opOf t.call t.ans = some o → ok t.before.env.pipe o = true) :
    (∀ t ∈ tr, check t) ↔ Along ok w.env.pipe (ops tr) := by
  induction h with
  | ret => simp
  | read _ ih => exact ih
  | write _ ih => exact ih
  | @call c k s s' tr a r _ _ ih =>
      have rest : (∀ t ∈ tr, check t) ↔
          Along ok ((opOf c r).toList.foldl Pipe.after s.env.pipe) (ops tr) := by
        rw [← pipe_after]
        exact ih
      have first : check ⟨s, c, r⟩ ↔ Along ok s.env.pipe (opOf c r).toList := by
        rw [same]
        cases opOf c r <;> simp
      rw [List.forall_mem_cons, ops_cons, along_append, first, rest]

end Along

def PipeOp.configured (p : Pipe) : PipeOp → Bool
  | .start _ => p.loaded
  | .load => !p.loaded
  | _ => true

def PipeOp.channelled (p : Pipe) : PipeOp → Bool
  | .setXfer ok => !ok || p.dmaChannel
  | _ => true

def Call.checked : Call → Bool
  | .gpifLoad | .gpifSMStart _ _ | .dmaMultiChannelSetXfer _ _ => true
  | _ => false

def PipeOp.checked : PipeOp → Bool
  | .load | .start _ | .setXfer _ => true
  | _ => false

theorem opOf_unchecked {c : Call} {r : c.Ans} {o : PipeOp} (h : c.checked = false)
    (op : opOf c r = some o) : o.checked = false := by
  cases c with
  | gpifLoad => cases h
  | gpifSMStart stateIndex initialAlpha => cases h
  | dmaMultiChannelSetXfer count multiSckOffset => cases h
  | i2cReceiveBytes preamble byteCount =>
      simp only [opOf] at op
      split at op
      · cases op; rfl
      · split at op <;> cases op; rfl
  | _ =>
      first
      | cases op; rfl
      | cases op
      | simp only [opOf, Option.ite_none_right_eq_some, Option.some.injEq] at op
        rw [← op.2]
        rfl

theorem PipeOp.passes {o : PipeOp} (p : Pipe) (h : o.checked = false) :
    o.configured p = true ∧ o.channelled p = true := by
  cases o <;> first | exact ⟨rfl, rfl⟩ | cases h

/-- The check of a call is the check of its operation, if it is one. -/
theorem configured_iff_op (t : FwCall) : t.call.configured t.before.env = true ↔
    ∀ o, opOf t.call t.ans = some o → o.configured t.before.env.pipe = true := by
  obtain ⟨w, c, r⟩ := t
  cases c with
  | gpifSMStart stateIndex initialAlpha => simp [opOf, Call.configured, PipeOp.configured, Hw.pipe]
  | gpifLoad => simp [opOf, Call.configured, PipeOp.configured, Hw.pipe]
  | dmaMultiChannelSetXfer count multiSckOffset =>
      simp [opOf, Call.configured, PipeOp.configured]
  | _ => exact iff_of_true rfl fun o op => (PipeOp.passes _ (opOf_unchecked rfl op)).1

theorem channelled_iff_op (t : FwCall) : t.call.channelled t.before.env t.ans = true ↔
    ∀ o, opOf t.call t.ans = some o → o.channelled t.before.env.pipe = true := by
  obtain ⟨w, c, r⟩ := t
  cases c with
  | dmaMultiChannelSetXfer count multiSckOffset =>
      simp [opOf, Call.channelled, PipeOp.channelled, Hw.pipe]
  | gpifSMStart stateIndex initialAlpha => simp [opOf, Call.channelled, PipeOp.channelled]
  | gpifLoad => simp [opOf, Call.channelled, PipeOp.channelled]
  | _ => exact iff_of_true rfl fun o op => (PipeOp.passes _ (opOf_unchecked rfl op)).2

theorem configured_iff (t : device.Step) :
    configured t ↔ Along (fun p o => o.configured p) t.before.env.pipe (stepOps t) :=
  along_of_runs t.runs configured_iff_op

theorem channelled_iff (t : device.Step) :
    channelled t ↔ Along (fun p o => o.channelled p) t.before.env.pipe (stepOps t) :=
  along_of_runs t.runs channelled_iff_op

/-! ## The operations of each handler -/

def Pipe.bare (p : Pipe) : Prop := p.loaded = false ∧ p.dmaChannel = false

def PipeOp.builds : PipeOp → Bool
  | .load | .start _ | .dmaCreate => true
  | _ => false

theorem unbuilt {os : List PipeOp} (h : ∀ o ∈ os, o.builds = false) (p : Pipe) :
    Along (fun p o => o.configured p) p os ∧ (p.bare → (os.foldl Pipe.after p).bare) := by
  induction os generalizing p with
  | nil => exact ⟨along_nil, id⟩
  | cons o os ih =>
      obtain ⟨first, rest⟩ := List.forall_mem_cons.mp h
      obtain ⟨along, keeps⟩ := ih rest (p.after o)
      have passes : o.configured p = true := by
        cases o <;> first | rfl | cases first
      have step : p.bare → (p.after o).bare := by
        rintro ⟨loaded, channel⟩
        cases o with
        | load => cases first
        | start ok => cases first
        | dmaCreate => cases first
        | disable forceReload => exact ⟨by simp [Pipe.after, loaded], channel⟩
        | shdwn level ok => cases ok <;> exact ⟨loaded, channel⟩
        | deviceInit => exact ⟨rfl, rfl⟩
        | dmaDestroy => exact ⟨loaded, rfl⟩
        | _ => exact ⟨loaded, channel⟩
      exact ⟨⟨passes, along⟩, fun bare => keeps (step bare)⟩

theorem Idle.builds {os : List PipeOp} (idle : Idle os) : ∀ o ∈ os, o.builds = false := by
  intro o ho
  have looks := idle o ho
  cases o <;> first | rfl | cases looks

theorem StopOps.builds {os : List PipeOp} (h : StopOps os) : ∀ o ∈ os, o.builds = false := by
  cases h
  simp [PipeOp.builds]

theorem AdcOps.builds {os : List PipeOp} (h : AdcOps os) : ∀ o ∈ os, o.builds = false := by
  cases h with
  | noData => simp
  | @programmed sm rest idle =>
      have stop : ∀ o ∈ implicitStopOps sm, o.builds = false := by
        unfold implicitStopOps
        split <;> simp [PipeOp.builds]
      intro o ho
      rcases List.mem_append.mp ho with early | late
      · exact stop o early
      · exact idle.builds o late

theorem GpioOps.builds {os : List PipeOp} (h : GpioOps os) : ∀ o ∈ os, o.builds = false := by
  cases h <;> simp [PipeOp.builds]

/-- STARTFX3 drops the configuration before it loads one again. -/
theorem StartOps.configured {os : List PipeOp} {passed : Bool} (h : StartOps os passed)
    (p : Pipe) : Along (fun p o => o.configured p) p os := by
  cases h with
  | refused check => exact (unbuilt check.idle.builds p).1
  | restarted ok sm restart =>
      cases restart <;> cases ok <;> simp [restartPrelude, PipeOp.configured, Pipe.after]

/-- Without a DMA channel STARTFX3 gets no further than the transfer. -/
theorem StartOps.bare {os : List PipeOp} {passed : Bool} (h : StartOps os passed) {p : Pipe}
    (answers : Along (fun p o => o.channelled p) p os) (bare : p.bare) :
    (os.foldl Pipe.after p).bare := by
  obtain ⟨loaded, channel⟩ := bare
  cases h with
  | refused check => exact (unbuilt check.idle.builds p).2 ⟨loaded, channel⟩
  | restarted ok sm restart =>
      cases restart with
      | noXfer => cases ok <;> simp [restartPrelude, Pipe.after, Pipe.bare, channel]
      | noStart =>
          cases ok <;> simp [restartPrelude, Pipe.after, PipeOp.channelled, channel] at answers
      | started =>
          cases ok <;> simp [restartPrelude, Pipe.after, PipeOp.channelled, channel] at answers

theorem startAppOps_configured (xfer start : Bool) {p : Pipe} (bare : p.bare) :
    Along (fun p o => o.configured p) p (startAppOps xfer start) := by
  simp [startAppOps, PipeOp.configured, Pipe.after, bare.1]

theorem stopAppOps_builds (ok : Bool) : ∀ o ∈ stopAppOps ok, o.builds = false := by
  simp [stopAppOps, PipeOp.builds]

theorem stopAppOps_bare (ok : Bool) (p : Pipe) : ((stopAppOps ok).foldl Pipe.after p).bare := by
  cases ok <;> simp [stopAppOps, Pipe.after, Pipe.bare]

theorem UsbEventDoes.configured {evtype : UInt8} {active active' : Bool} {os : List PipeOp}
    (h : UsbEventDoes evtype active os active') {p : Pipe} (bare : active = false → p.bare) :
    Along (fun p o => o.configured p) p os ∧
      (active' = false → (os.foldl Pipe.after p).bare) := by
  cases h with
  | restarted ok xfer start event was =>
      have stop := (unbuilt (stopAppOps_builds ok) p).1
      have app := startAppOps_configured xfer start (stopAppOps_bare ok p)
      exact ⟨(along_append _ _).mpr ⟨stop, app⟩, by simp⟩
  | started xfer start event was =>
      exact ⟨startAppOps_configured xfer start (bare was), by simp⟩
  | stopped ok event was =>
      exact ⟨(unbuilt (stopAppOps_builds ok) p).1, fun _ => stopAppOps_bare ok p⟩
  | unaffected event idle => exact ⟨along_nil, bare⟩

theorem BootOps.configured {usb os : List PipeOp} (h : BootOps usb os) (p : Pipe) :
    Along (fun p o => o.configured p) p os ∧ (usb = [] → (os.foldl Pipe.after p).bare) := by
  cases h with
  | @booted clock ok₁ ok₂ ok₃ idle init =>
      have outputs : ∀ o ∈ gpioInitOps ok₁ ok₂ ok₃, o.builds = false := by
        simp [gpioInitOps, PipeOp.builds]
      have chip : ∀ o ∈ clock ++ gpioInitOps ok₁ ok₂ ok₃, o.builds = false := by
        intro o ho
        rcases List.mem_append.mp ho with early | late
        · exact idle.builds o early
        · exact outputs o late
      obtain ⟨along, keeps⟩ := unbuilt chip (p.after .deviceInit)
      have bare := keeps ⟨rfl, rfl⟩
      cases init with
      | connect =>
          rw [List.append_nil]
          exact ⟨⟨rfl, along⟩, fun _ => bare⟩
      | restart xfer start =>
          have app := startAppOps_configured xfer start bare
          exact ⟨⟨rfl, (along_append _ _).mpr ⟨along, app⟩⟩, by simp [startAppOps]⟩

/-- Light recovery starts the state machine again as it is: with the configuration it
found, unless the soft stop had to drop it. -/
theorem recoveryOps_configured {state sm₀ sm : UInt8} {clk : List PipeOp} {ok xfer start : Bool}
    (check : ClockCheck clk ok) (p : Pipe) :
    Along (fun p o => o.configured p) p (recoveryOps state sm₀ sm clk ok xfer start) ↔
      ¬ (ok = true ∧ ¬ (p.loaded = true ∧ sm = gpifIdle)) := by
  have clock := fun q => (unbuilt check.idle.builds q).1
  simp only [recoveryOps, along_append, along_cons, along_nil, List.foldl_append,
    idle_foldl check.idle, clock, and_true]
  cases ok with
  | false => simp [PipeOp.configured]
  | true => simp [PipeOp.configured, Pipe.after]

/-! ## Steps and runs -/

/-- A light recovery that starts the state machine without a configuration: there was none,
or the soft stop found the state machine out of idle and dropped it. -/
def startsUnconfigured (t : device.Step) : Prop :=
  Act.isTick t.act = true ∧ t.before.mem.recoveryDue (firstState (stepOps t)) ∧
    healthyClock (stepOps t) = true ∧
    ¬ (t.before.env.gpifLoaded = true ∧ softStopState (stepOps t) = gpifIdle)

/-- While the application is inactive the pipeline is bare. -/
def BareWhenInactive (w : World) : Prop :=
  w.mem.app.glIsApplnActive = false → w.env.pipe.bare

theorem RequestDoes.app {command : Option FX3Command} {m m' : Ram} {os : List PipeOp}
    (h : RequestDoes command m os m') : m'.app = m.app := by
  unfold RequestDoes at h
  split at h
  · obtain ⟨passed, -, -, -, same⟩ := h
    exact same.app (by simp)
  · exact h.2.2.app (by simp)
  all_goals exact h.2.app (by simp)

theorem RequestDoes.configured {command : Option FX3Command} {m m' : Ram} {os : List PipeOp}
    (h : RequestDoes command m os m') {p : Pipe}
    (answers : Along (fun p o => o.channelled p) p os) :
    Along (fun p o => o.configured p) p os ∧ (p.bare → (os.foldl Pipe.after p).bare) := by
  unfold RequestDoes at h
  split at h
  · obtain ⟨passed, starts, -⟩ := h
    exact ⟨starts.configured p, starts.bare answers⟩
  · exact unbuilt h.1.builds p
  · exact unbuilt h.1.builds p
  · exact unbuilt h.1.builds p
  · exact unbuilt h.1.builds p

theorem boot_configured {t : device.Step} (boot : t.act = .boot) :
    configured t ∧ BareWhenInactive t.after := by
  have does := step_does t
  rw [boot] at does
  obtain ⟨usb, boots, active, -⟩ := does
  obtain ⟨along, bare⟩ := boots.configured t.before.env.pipe
  refine ⟨(configured_iff t).mpr along, fun inactive => ?_⟩
  rw [step_pipe]
  rw [active] at inactive
  exact bare (by simpa using inactive)

/-- A step that follows the rules and is no such recovery leaves the configuration right. -/
theorem step_configured {t : device.Step} (handler : Act.setsActive t.act = false)
    (answers : channelled t) (bare : BareWhenInactive t.before)
    (idle : t.before.mem.ep0.ep0HandlerInProgress = false) :
    (configured t ↔ ¬ startsUnconfigured t) ∧ BareWhenInactive t.after := by
  have does := step_does t
  have along := (channelled_iff t).mp answers
  have fine (good : configured t) (other : Act.isTick t.act = false)
      (after : BareWhenInactive t.after) :
      (configured t ↔ ¬ startsUnconfigured t) ∧ BareWhenInactive t.after := by
    refine ⟨⟨fun _ bad => ?_, fun _ => good⟩, after⟩
    have tick := bad.1
    rw [other] at tick
    cases tick
  cases act : t.act with
  | boot =>
      have boots := boot_configured act
      rw [act] at fine
      exact fine boots.1 rfl boots.2
  | request setupdat0 setupdat1 =>
      rw [act] at does fine
      obtain ⟨good, keeps⟩ := does.1.configured along
      refine fine ((configured_iff t).mpr good) rfl fun inactive => ?_
      rw [step_pipe]
      rw [does.1.app] at inactive
      exact keeps (bare inactive)
  | usbEvent evtype evdata =>
      rw [act] at does fine
      obtain ⟨good, keeps⟩ := does.1.configured bare
      refine fine ((configured_iff t).mpr good) rfl fun inactive => ?_
      rw [step_pipe]
      exact keeps inactive
  | tick =>
      have tick : Act.isTick t.act = true := by rw [act]; rfl
      rw [act] at does
      have same : t.after.mem.app = t.before.mem.app := does.others.app (by simp)
      rcases tick_ops tick idle with ⟨due, state, sm₀, sm, clk, ok, xfer, start, check, ops⟩ |
        ⟨notDue, looks⟩
      · have active := due.1
        refine ⟨?_, fun inactive => ?_⟩
        · rw [ops] at due
          rw [configured_iff, startsUnconfigured, ops, recoveryOps_configured check,
            healthyClock_recoveryOps check, softStopState_recoveryOps]
          simp [tick, due, Hw.pipe]
        · rw [same, active] at inactive
          cases inactive
      · obtain ⟨good, keeps⟩ := unbuilt looks.builds t.before.env.pipe
        refine ⟨⟨fun _ bad => notDue bad.2.1, fun _ => (configured_iff t).mpr good⟩, ?_⟩
        intro inactive
        rw [step_pipe]
        rw [same] at inactive
        exact keeps (bare inactive)
  | buffers count =>
      rw [act] at does fine
      have nothing : Along (fun p o => o.configured p) t.before.env.pipe (stepOps t) := by
        rw [does.1]
        exact along_nil
      refine fine ((configured_iff t).mpr nothing) rfl fun inactive => ?_
      rw [step_pipe, does.1]
      rw [does.2] at inactive
      exact bare inactive
  | active flag =>
      rw [act] at handler
      cases handler

/-- Along a run the state machine is started only while a configuration is loaded, and one
loaded only while there is none, just when no light recovery starts it unconfigured. -/
theorem gpif_configured {steps : List device.Step} {w : World} (run : device.Run steps w)
    (inside : ∀ t ∈ steps, Act.setsActive t.act = false ∧ channelled t) :
    (∀ t ∈ steps, configured t) ↔ ∀ t ∈ steps, ¬ startsUnconfigured t := by
  refine run.all_iff BareWhenInactive (fun t first _ => ?_) (fun steps t before bare inside => ?_)
    inside
  · obtain ⟨good, bare⟩ := boot_configured first
    have other : ¬ startsUnconfigured t := by
      intro bad
      have tick := bad.1
      have act : t.act = .boot := first
      rw [act] at tick
      cases tick
    exact ⟨⟨fun _ => other, fun _ => good⟩, fun _ => bare⟩
  · obtain ⟨same, after⟩ := step_configured inside.1 inside.2 bare (run_noHandler before)
    exact ⟨same, fun _ => after⟩

/-- The stream delivers seven buffers and stalls; the state machine is busy at every tick
up to the given read of the tick, and idle from there on. -/
def stalled (reads : Nat) : List (Act × Bench) :=
  streamStart ++ [(.buffers 7, Bench.idle)] ++ List.replicate 4
    (.tick, { Bench.idle with smState := fun n => if n < reads then gpifTh0Busy else gpifIdle })

theorem gpif_configured_stalled :
    (∀ t ∈ (benchRun (stalled 7)).1, configured t) ↔
      ∀ t ∈ (benchRun (stalled 7)).1, ¬ startsUnconfigured t :=
  gpif_configured (benchRun_run (stalled 7)) (by decide +kernel)

/-- With the state machine stuck, the soft stop of the light recovery drops the
configuration, and the recovery starts the state machine without one. -/
theorem started_unconfigured : ¬ ∀ (steps : List device.Step) (w : World), device.Run steps w →
    (∀ t ∈ steps, Act.setsActive t.act = false ∧ channelled t) →
      ∀ t ∈ steps, configured t := by
  intro always
  have good := always _ _ (benchRun_run (stalled 8)) (by decide +kernel)
  revert good
  decide +kernel

end Rx888
