import Rx888.Gpif.Waveform

/-! # The state machine as it was designed

`gpif2model.xml`: the states with their actions, and the transitions in the order of the file. Of
the transitions out of a state the first whose equation holds is taken, and the state is repeated
until one does.
-/

namespace Rx888

open Gpif

inductive GpifState where
  | reset
  | th0Rd
  | th0RdLd
  | th1RdLd
  | th1Rd
  | th1Busy
  | th1Wait
  | th0Busy
  | th0Wait
  | idle
  deriving DecidableEq, Repr

inductive GpifAction where
  | inData (thread : Thread)
  | countData
  | ldDataCount (loadValue limit : UInt32)
  | intrCpu
  deriving DecidableEq, Repr

inductive Trigger where
  | fwTrg
  | dmaRdyTh0
  | dmaRdyTh1
  | dataCntHit
  | logicOne

structure Equation where
  trigger : Trigger
  negated : Bool

structure GpifTransition where
  source : GpifState
  destination : GpifState
  equation : Equation

def Trigger.on (t : Trigger) : Equation := ⟨t, false⟩

def Trigger.off (t : Trigger) : Equation := ⟨t, true⟩

namespace GpifState

def actions : GpifState → List GpifAction
  | reset => []
  | th0Rd => [.inData .th0, .countData]
  | th0RdLd => [.ldDataCount 0 8190, .inData .th0]
  | th1RdLd => [.inData .th1, .ldDataCount 0 8190]
  | th1Rd => [.inData .th1, .countData]
  | th1Busy => [.intrCpu]
  | th1Wait => []
  | th0Busy => [.intrCpu]
  | th0Wait => []
  | idle => []

def transitions : List GpifTransition := [
  ⟨idle, th0RdLd, Trigger.fwTrg.on⟩,
  ⟨th0Rd, th1RdLd, Trigger.dataCntHit.on⟩,
  ⟨th1RdLd, th1Rd, Trigger.dmaRdyTh1.on⟩,
  ⟨th1Rd, th0RdLd, Trigger.dataCntHit.on⟩,
  ⟨th1RdLd, th1Busy, Trigger.dmaRdyTh1.off⟩,
  ⟨th0RdLd, th0Busy, Trigger.dmaRdyTh0.off⟩,
  ⟨th1Busy, th1Wait, Trigger.logicOne.on⟩,
  ⟨th1Wait, th1RdLd, Trigger.dmaRdyTh1.on⟩,
  ⟨th0Busy, th0Wait, Trigger.logicOne.on⟩,
  ⟨th0Wait, th0RdLd, Trigger.dmaRdyTh0.on⟩,
  ⟨reset, idle, Trigger.logicOne.on⟩,
  ⟨th0RdLd, th0Rd, Trigger.dmaRdyTh0.on⟩,
  ⟨th1Rd, idle, Trigger.fwTrg.off⟩,
  ⟨th0Wait, idle, Trigger.fwTrg.off⟩,
  ⟨th1Wait, idle, Trigger.fwTrg.off⟩,
  ⟨th0Rd, idle, Trigger.fwTrg.off⟩]

def exits (s : GpifState) : List GpifTransition := transitions.filter fun t => t.source == s

/-- The state indices of `SDDC_GPIF.h`. -/
def index : GpifState → UInt8
  | reset => 0
  | th0Rd => 2
  | th0RdLd => 4
  | th1RdLd => 3
  | th1Rd => 6
  | th1Busy => 7
  | th1Wait => 8
  | th0Busy => 5
  | th0Wait => 9
  | idle => 1

end GpifState

/-- The state the machine is in, and its data counter. -/
structure Designed where
  state : GpifState
  count : UInt32

def counterLimit : UInt32 := 8190

namespace Designed

def hit (d : Designed) : Bool := d.count == counterLimit

def level (i : Inputs) (d : Designed) : Trigger → Bool
  | .fwTrg => i.cpuDef
  | .dmaRdyTh0 => i.dmaReady .th0
  | .dmaRdyTh1 => i.dmaReady .th1
  | .dataCntHit => d.hit
  | .logicOne => true

def holds (i : Inputs) (d : Designed) (e : Equation) : Bool :=
  if e.negated then !d.level i e.trigger else d.level i e.trigger

def nextState (i : Inputs) (d : Designed) : GpifState :=
  match (d.state.exits.find? fun t => d.holds i t.equation) with
  | some t => t.destination
  | none => d.state

/-- The counter goes up, and saturates. -/
def act (count : UInt32) : GpifAction → UInt32
  | .ldDataCount loadValue _ => loadValue
  | .countData => if count = counterLimit then count else count + 1
  | _ => count

def clock (i : Inputs) (d : Designed) : Designed :=
  ⟨d.nextState i, d.state.actions.foldl act d.count⟩

def seen (d : Designed) : Seen where
  smState := d.state.index
  push := d.state.actions.findSome? fun
    | .inData thread => some thread
    | _ => none
  interrupt := d.state.actions.contains .intrCpu

end Designed

def designer : Synchronous.Machine Inputs Designed Seen where
  next := Designed.clock
  out := Designed.seen

/-- The limit is the same wherever the counter is loaded. -/
theorem ldDataCount_limit {s : GpifState} {loadValue limit : UInt32}
    (loads : .ldDataCount loadValue limit ∈ s.actions) : limit = counterLimit := by
  cases s <;> simp [GpifState.actions] at loads <;> exact loads.2

end Rx888
