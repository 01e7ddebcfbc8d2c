import Rx888.CallProgram.System
import Rx888.Watchdog.Recovery

/-! # The device as a system of handlers

Each handler of the USB thread and each tick of the main loop runs to completion. What
the DMA callbacks count between them, and what any other thread makes of the
application-active flag, are actions of their own.
-/

namespace Rx888

open CallProgram

inductive Act where
  | boot
  | request (setupdat0 setupdat1 : UInt32)
  | usbEvent (evtype : UInt8) (evdata : UInt16)
  | tick
  | buffers (count : UInt32)
  | active (flag : Bool)
  deriving DecidableEq, Repr

def Act.prog : Act → Fw Unit
  | .boot => Rx888.boot
  | .request setupdat0 setupdat1 => do
      let _ ← cyFxSlFifoApplnUSBSetupCB setupdat0 setupdat1
  | .usbEvent evtype evdata => usbEventCallback evtype evdata
  | .tick => healthTick
  | .buffers count => modifyDMACount fun _ => count
  | .active flag => modifyApp fun a => { a with glIsApplnActive := flag }

/-- The firmware from its boot on, whatever the SDK answers. -/
def device : System Ram Hw Call.Ans where
  Act := Act
  prog := Act.prog
  env := sdk
  starts a := a = .boot

def Act.command? : Act → Option FX3Command
  | .request setupdat0 setupdat1 => (Setup.decode setupdat0 setupdat1).command?
  | _ => none

/-- The action stands for another thread. -/
def Act.setsActive : Act → Bool
  | .active _ => true
  | _ => false

/-- What an action does, by the operations it performs and the memory around it. -/
def ActDoes (m : Ram) (os : List PipeOp) (m' : Ram) : Act → Prop
  | .boot => ∃ usb, BootOps usb os ∧ m'.app.glIsApplnActive = !usb.isEmpty ∧
      m'.ep0.ep0HandlerInProgress = false ∧
      Unchanged ([.ep0, .health] ++ appParts) Ram.init m'
  | .request setupdat0 setupdat1 =>
      RequestDoes (Setup.decode setupdat0 setupdat1).command? m os m' ∧
        m'.ep0.ep0HandlerInProgress = false
  | .usbEvent evtype _ => UsbEventDoes evtype m.app.glIsApplnActive os m'.app.glIsApplnActive ∧
      Unchanged appParts m m'
  | .tick => TickDoes m os m'
  | .buffers count => os = [] ∧ m' = { m with glDMACount := count }
  | .active flag => os = [] ∧ m' = { m with app := { m.app with glIsApplnActive := flag } }

/-- The program of an action does what is said of it. -/
theorem Act.prog_does (a : Act) (m : Ram) : Does a.prog (fun os _ m' => ActDoes m os m' a) m := by
  cases a with
  | boot => exact boot_does
  | request setupdat0 setupdat1 =>
      refine (cyFxSlFifoApplnUSBSetupCB_does setupdat0 setupdat1).bind fun os _ m' done => ?_
      rw [does_pure, List.append_nil]
      exact done
  | usbEvent evtype evdata => exact usbEventCallback_does evtype evdata
  | tick => exact healthTick_does
  | buffers count => exact ⟨rfl, rfl⟩
  | active flag => exact ⟨rfl, rfl⟩

def stepOps (t : device.Step) : List PipeOp := ops t.trace

theorem step_does (t : device.Step) :
    ActDoes t.before.mem (stepOps t) t.after.mem t.act :=
  does_of_runs t.runs (Act.prog_does t.act t.before.mem)

theorem step_pipe (t : device.Step) :
    t.after.env.pipe = (stepOps t).foldl Pipe.after t.before.env.pipe :=
  pipe_of_runs t.runs

/-- Whole handlers leave no EP0 handler in progress. -/
theorem run_noHandler {steps : List device.Step} {w : World} (run : device.Run steps w) :
    w.mem.ep0.ep0HandlerInProgress = false := by
  have keeps : ∀ t : device.Step, t.act = .boot ∨ t.before.mem.ep0.ep0HandlerInProgress = false →
      t.after.mem.ep0.ep0HandlerInProgress = false := by
    intro t before
    have does := step_does t
    cases act : t.act with
    | boot =>
        rw [act] at does
        obtain ⟨usb, -, -, idle, -⟩ := does
        exact idle
    | request setupdat0 setupdat1 =>
        rw [act] at does
        exact does.2
    | usbEvent evtype evdata =>
        rw [act] at does before
        rw [does.2.ep0 (by simp)]
        simpa using before
    | tick =>
        rw [act] at does before
        rw [does.others.ep0 (by simp)]
        simpa using before
    | buffers count =>
        rw [act] at does before
        rw [does.2]
        simpa using before
    | active flag =>
        rw [act] at does before
        rw [does.2]
        simpa using before
  exact run.invariant (fun s => s.mem.ep0.ep0HandlerInProgress = false)
    (fun t first (_ : True) => keeps t (.inl first))
    (fun t (_ : True) before => keeps t (.inr before)) fun _ _ => trivial

end Rx888
