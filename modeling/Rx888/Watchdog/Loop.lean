import Rx888.CallProgram.Contract
import Rx888.Device.Bench
import Rx888.Device.Ticks

/-! # The main loop among interrupts

The main loop's ticks, step by step: between any two of their steps the USB thread, which
has the higher priority, may run a whole vendor request, and the DMA callback may count a
buffer.
-/

namespace Rx888

open CallProgram

inductive MainTask where
  | heartbeat
  | check
  deriving DecidableEq, Repr

def MainTask.prog : MainTask → Fw Unit
  | .heartbeat => healthMainHeartbeat
  | .check => do
    let hs ← healthEvaluate
    healthRemedy hs

theorem healthTick_eq : healthTick = MainTask.heartbeat.prog >>= fun _ => MainTask.check.prog :=
  rfl

inductive Interrupt where
  | request (setupdat0 setupdat1 : UInt32)
  | produce
  deriving DecidableEq, Repr

def Interrupt.prog : Interrupt → Fw Unit
  | .request setupdat0 setupdat1 => (Act.request setupdat0 setupdat1).prog
  | .produce => dmaCallback true

def Interrupt.command? : Interrupt → Option FX3Command
  | .request setupdat0 setupdat1 => (Setup.decode setupdat0 setupdat1).command?
  | .produce => none

/-- An interrupt is an event together with the calls it makes. -/
def mainLoop : Threads Ram Hw Call.Ans where
  env := sdk
  Task := MainTask
  Out := Unit
  task := MainTask.prog
  Event := Interrupt × List FwCall
  occurs w e w' := Runs sdk e.1.prog w e.2 () w'

/-- The state machine has left its idle state only if FW_TRG has been high while it ran. -/
def Call.truthful (hw : Hw) : (c : Call) → c.Ans → Bool
  | .gpifGetSMState, state => !gpifStateIsStreamingActive (state.getD 0xFF) || hw.smLeftIdle
  | _, _ => true

/-- What the main loop reads of the state machine is so. -/
def truthful (w : World) : mainLoop.Turn → Bool
  | .own (.call c r) => c.truthful w.env r
  | _ => true

/-! ## What the interrupts do -/

/-- The count after a produce event: armed, the cold-start hook suppresses it. -/
def Ram.produced (m : Ram) : Ram :=
  if m.hooks.glHealthForceColdStart then m else { m with glDMACount := m.glDMACount + 1 }

theorem produce_occurs {w w' : World} {tr : List FwCall}
    (occurs : mainLoop.occurs w (.produce, tr) w') : tr = [] ∧ w' = ⟨w.mem.produced, w.env⟩ := by
  have runs : Runs sdk (dmaCallback true) w tr () w' := occurs
  refine runs.ensures (Q := fun tr _ w' => tr = [] ∧ w' = ⟨w.mem.produced, w.env⟩) ?_
  show Prog.Ensures sdk (if ¬ w.mem.hooks.glHealthForceColdStart then
    modifyDMACount fun n => n + 1 else pure ()) _ w
  by_cases armed : w.mem.hooks.glHealthForceColdStart = true
  · rw [if_neg (by simp [armed]), Ram.produced, if_pos armed]
    exact ⟨rfl, rfl⟩
  · rw [if_pos (by simp [armed]), Ram.produced, if_neg armed]
    exact ⟨rfl, rfl⟩

theorem request_occurs {setupdat0 setupdat1 : UInt32} {w w' : World} {tr : List FwCall}
    (occurs : mainLoop.occurs w (.request setupdat0 setupdat1, tr) w') :
    RequestDoes (Setup.decode setupdat0 setupdat1).command? w.mem (ops tr) w'.mem ∧
      w'.mem.ep0.ep0HandlerInProgress = false :=
  does_of_runs occurs (Act.prog_does (.request setupdat0 setupdat1) w.mem)

theorem interrupt_pipe {i : Interrupt} {w w' : World} {tr : List FwCall}
    (occurs : mainLoop.occurs w (i, tr) w') :
    w'.env.pipe = (ops tr).foldl Pipe.after w.env.pipe :=
  pipe_of_runs occurs

/-! ## Scripts -/

def Bench.busy : Bench := { Bench.idle with smState := fun _ => gpifTh0Busy }

def Bench.responder (b : Bench) : Threads.Responder mainLoop.env where
  answer _ := b.answer 0
  allowed w c := b.allowed w 0 c

def Interrupt.on (i : Interrupt) (b : Bench) : mainLoop.Reaction where
  event w := (i, (i.prog.exec sdk b.answer 0 w).1)
  after w := (i.prog.exec sdk b.answer 0 w).2.2
  occurs w := exec_runs sdk b.answer 0 i.prog w (exec_allowed b.allowed 0 i.prog w)

def MainTask.whole (t : MainTask) (b : Bench) : List mainLoop.Order :=
  [.start t, .own b.responder 60, .done]

def tickOn (b : Bench) : List mainLoop.Order :=
  MainTask.heartbeat.whole b ++ MainTask.check.whole b

end Rx888
