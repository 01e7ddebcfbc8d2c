import Mathlib.Data.Nat.Bitwise
import Rx888.Synchronous.Machine

/-! # The waveform engine of the GPIF II block

A state has a left and a right descriptor, one for each edge out of it. The descriptor by which a
state is entered carries what the engine needs there: the four lambda inputs, the two functions of
them that fire the left and the right edge, and the beta outputs of the state. The left edge goes
first. The data counter is compared as it stands on the clock; betas act on it for the next.
-/

namespace Gpif

def field (reg : UInt32) (pos width : Nat) : Nat := (reg.toNat >>> pos) % 2 ^ width

structure Descriptor where
  nextState : UInt8
  fa : Nat
  fb : Nat
  fc : Nat
  fd : Nat
  f0 : Nat
  f1 : Nat
  beta : Nat
  repeatCount : Nat
  betaDeassert : Bool
  valid : Bool
  deriving DecidableEq, Repr

/-- The three words of a descriptor as they lie in the waveform memory. -/
def Descriptor.decode (w : UInt32 × UInt32 × UInt32) : Descriptor where
  nextState := UInt8.ofNat (field w.1 0 8)
  fa := field w.1 8 5
  fb := field w.1 13 5
  fc := field w.1 18 5
  fd := field w.1 23 5
  f0 := field w.1 28 4 + field w.2.1 0 1 * 16
  f1 := field w.2.1 1 5
  beta := field w.2.1 22 10 + field w.2.2 0 22 * 1024
  repeatCount := field w.2.2 22 8
  betaDeassert := w.2.2.toNat.testBit 30
  valid := w.2.2.toNat.testBit 31

structure WaveData where
  leftData : UInt32 × UInt32 × UInt32
  rightData : UInt32 × UInt32 × UInt32

structure Config where
  stateData : List WaveData
  statePosition : List UInt8
  functionData : List UInt16
  regData : List UInt32

/-! The lambda inputs and beta outputs in use, by their bits, and the data counter's registers, by
their offsets. -/

def lambdaDataCnt : Nat := 20
def lambdaDmaDready : Nat := 26
def lambdaOne : Nat := 28
def lambdaCpuDef : Nat := 30
def betaThread : Nat := 4
def betaPushWq : Nat := 7
def betaIncData : Nat := 16
def betaRstData : Nat := 17
def betaIntrCpu : Nat := 18
def regDataCountConfig : Nat := 0x94
def regDataCountReset : Nat := 0x98
def regDataCountLimit : Nat := 0x9C

/-- The threads of the DMA, one socket to each. -/
inductive Thread where
  | th0
  | th1
  | th2
  | th3
  deriving DecidableEq, Repr

/-- What the engine is given on a clock: the signal that the CPU controls, the ready flag of each
thread's socket, and whatever is on the lambda inputs that no descriptor selects. -/
structure Inputs where
  cpuDef : Bool
  dmaReady : Thread → Bool
  others : Nat → Bool

/-- What is seen of the engine on a clock: its state, the thread whose socket it pushes a word
into, and whether it interrupts the CPU. -/
structure Seen where
  smState : UInt8
  push : Option Thread
  interrupt : Bool
  deriving DecidableEq, Repr

/-- Nothing has been entered when the engine has just been started. -/
structure State where
  current : UInt8
  entered : Option Descriptor
  dataCount : UInt32
  deriving DecidableEq, Repr

def State.beta (s : State) : Nat :=
  match s.entered with
  | none => 0
  | some d => d.beta

/-- The thread that the betas select. -/
def threadOf (beta : Nat) : Thread :=
  match (beta >>> betaThread) % 4 with
  | 0 => .th0
  | 1 => .th1
  | 2 => .th2
  | _ => .th3

def pushOf (beta : Nat) : Option Thread :=
  if beta.testBit betaPushWq then some (threadOf beta) else none

def State.seen (s : State) : Seen where
  smState := s.current
  push := pushOf s.beta
  interrupt := s.beta.testBit betaIntrCpu

namespace Config

variable (c : Config)

def reg (offset : Nat) : UInt32 := c.regData.getD (offset / 4) 0

/-- The left and the right descriptor of a state. -/
def descriptors (state : UInt8) : Descriptor × Descriptor :=
  match c.statePosition[state.toNat]?.bind fun k => c.stateData[k.toNat]? with
  | some w => (.decode w.leftData, .decode w.rightData)
  | none => (.decode (0, 0, 0), .decode (0, 0, 0))

/-- A transition function is a truth table of four inputs. -/
def function (f : Nat) (in3 in2 in1 in0 : Bool) : Bool :=
  (c.functionData.getD f 0).toNat.testBit
    (8 * in3.toNat + 4 * in2.toNat + 2 * in1.toNat + in0.toNat)

def dataCountHit (s : State) : Bool :=
  (c.reg regDataCountConfig).toNat.testBit 0 && s.dataCount == c.reg regDataCountLimit

def lambda (i : Inputs) (s : State) (k : Nat) : Bool :=
  if k = lambdaDataCnt then c.dataCountHit s
  else if k = lambdaDmaDready then i.dmaReady (threadOf s.beta)
  else if k = lambdaOne then true
  else if k = lambdaCpuDef then i.cpuDef
  else i.others k

/-- Whether a function of the lambdas that a descriptor selects fires. -/
def fires (d : Descriptor) (f : Nat) (lambda : Nat → Bool) : Bool :=
  c.function f (lambda d.fd) (lambda d.fc) (lambda d.fb) (lambda d.fa)

/-- The edge that is taken on a clock. The start state has no functions, and is left at once. -/
def edge (i : Inputs) (s : State) : Option Descriptor :=
  let (left, right) := c.descriptors s.current
  match s.entered with
  | none => if left.valid then some left else none
  | some d =>
      if left.valid && c.fires d d.f0 (c.lambda i s) then some left
      else if right.valid && c.fires d d.f1 (c.lambda i s) then some right
      else none

/-- One count of the data counter: up or down, and on from the limit only where it reloads. -/
def counted (s : State) : UInt32 :=
  let config := (c.reg regDataCountConfig).toNat
  let increment := UInt32.ofNat ((config >>> 8) % 256)
  if !config.testBit 0 then s.dataCount
  else if s.dataCount = c.reg regDataCountLimit then
    if config.testBit 1 then c.reg regDataCountReset else s.dataCount
  else if config.testBit 3 then s.dataCount + increment
  else s.dataCount - increment

def dataCounted (s : State) : UInt32 :=
  if s.beta.testBit betaRstData then c.reg regDataCountReset
  else if s.beta.testBit betaIncData then c.counted s
  else s.dataCount

def clock (i : Inputs) (s : State) : State :=
  match c.edge i s with
  | none => { s with dataCount := c.dataCounted s }
  | some d => ⟨d.nextState, some d, c.dataCounted s⟩

def engine : Synchronous.Machine Inputs State Seen where
  next := c.clock
  out := State.seen

/-- The engine as it is started: whatever the counter held, it still holds. -/
def started (stateIndex : UInt8) (dataCount : UInt32) : State := ⟨stateIndex, none, dataCount⟩

section Edges

variable {c : Config} {i : Inputs} {s : State} {d left right : Descriptor}

@[simp] theorem lambda_dataCnt : c.lambda i s 20 = c.dataCountHit s := rfl

@[simp] theorem lambda_dmaDready : c.lambda i s 26 = i.dmaReady (threadOf s.beta) := rfl

@[simp] theorem lambda_one : c.lambda i s 28 = true := rfl

@[simp] theorem lambda_cpuDef : c.lambda i s 30 = i.cpuDef := rfl

theorem edge_start (here : c.descriptors s.current = (left, right)) (start : s.entered = none) :
    c.edge i s = if left.valid then some left else none := by
  simp only [edge, here, start]

theorem edge_eq (here : c.descriptors s.current = (left, right)) (entered : s.entered = some d) :
    c.edge i s =
      if left.valid && c.fires d d.f0 (c.lambda i s) then some left
      else if right.valid && c.fires d d.f1 (c.lambda i s) then some right
      else none := by
  simp only [edge, here, entered]

end Edges

end Config

end Gpif
