import Rx888.Firmware.RunApplication

/-! # The streaming pipeline behind the calls

The firmware's calls seen as operations on the pipeline: the GPIF configuration
and state machine, FW_TRG, the DMA channel, the ADC's SHDWN line and the clock
chip. `ops` projects a trace to its operations, `Pipe` is the state they act on,
and `Runs.pipe` says that the chip follows them.
-/

namespace Rx888

open CallProgram

/-- A pipeline operation. Reads carry what was read, `start`, `setXfer` and `shdwn`
whether the call succeeded. -/
inductive PipeOp where
  | deviceInit
  | fwTrg (set : Bool)
  | disable (forceReload : Bool)
  | load
  | start (ok : Bool)
  | smState (state : UInt8)
  | dmaCreate
  | dmaDestroy
  | dmaReset
  | setXfer (ok : Bool)
  | shdwn (level ok : Bool)
  | clk0 (up : Bool)
  | pll (locked : Bool)
  | clockWrite
  deriving DecidableEq, Repr

/-- The preamble of a one-byte read of a Si5351 register. -/
def si5351ReadPreamble (reg : UInt8) : I2cPreamble := ⟨[0xC0, reg, 0xC1], 0x0002⟩

/-- The read succeeded and `mask` is clear in its first byte. -/
def bitClear {n : Nat} (mask : UInt8) : Except Failure (Vector UInt8 n) → Bool
  | .ok data => data.toList.headD 0xFF &&& mask == 0
  | .error _ => false

/-- The Si5351 answers to the 7-bit address 0x60. -/
def I2cPreamble.toSi5351 (p : I2cPreamble) : Bool := p.buffer.headD 0 &&& 0xFE == 0xC0

/-- The operation an answered call is, if it is one. -/
def opOf : (c : Call) → c.Ans → Option PipeOp
  | .deviceInit, _ => some .deviceInit
  | .gpifControlSWInput set, _ => some (.fwTrg set)
  | .gpifDisable forceReload, _ => some (.disable forceReload)
  | .gpifLoad, _ => some .load
  | .gpifSMStart _ _, status => some (.start (status == cyU3PSuccess))
  | .gpifGetSMState, state => some (.smState (state.getD 0xFF))
  | .dmaMultiChannelCreate, _ => some .dmaCreate
  | .dmaMultiChannelDestroy, _ => some .dmaDestroy
  | .dmaMultiChannelReset, _ => some .dmaReset
  | .dmaMultiChannelSetXfer _ _, status => some (.setXfer (status == cyU3PSuccess))
  | .gpioSetSimpleConfig pin level, status =>
      if pin = gpioShdwn then some (.shdwn level (status == cyU3PSuccess)) else none
  | .gpioSetValue pin level, status =>
      if pin = gpioShdwn then some (.shdwn level (status == cyU3PSuccess)) else none
  | .i2cReceiveBytes preamble byteCount, data =>
      if byteCount = 1 ∧ preamble = si5351ReadPreamble siClk0Control then
        some (.clk0 (bitClear 0x80 data))
      else if byteCount = 1 ∧ preamble = si5351ReadPreamble 0x00 then
        some (.pll (bitClear 0x20 data))
      else none
  | .i2cTransmitBytes preamble _, _ => if preamble.toSi5351 then some .clockWrite else none
  | _, _ => none

def ops (tr : List FwCall) : List PipeOp := tr.filterMap fun t => opOf t.call t.ans

@[simp] theorem ops_nil : ops [] = [] := rfl

@[simp] theorem ops_append (tr tr' : List FwCall) : ops (tr ++ tr') = ops tr ++ ops tr' :=
  List.filterMap_append

theorem ops_cons (t : FwCall) (tr : List FwCall) :
    ops (t :: tr) = (opOf t.call t.ans).toList ++ ops tr := by
  cases h : opOf t.call t.ans <;> simp [ops, h]

/-! ## The state of the pipeline -/

structure Pipe where
  loaded : Bool
  running : Bool
  leftIdle : Bool
  fwTrg : Bool
  dmaChannel : Bool
  shdwn : Bool
  deriving DecidableEq, Repr

def Pipe.reset : Pipe where
  loaded := false
  running := false
  leftIdle := false
  fwTrg := false
  dmaChannel := false
  shdwn := false

def Hw.pipe (hw : Hw) : Pipe where
  loaded := hw.gpifLoaded
  running := hw.smRunning
  leftIdle := hw.smLeftIdle
  fwTrg := hw.fwTrg
  dmaChannel := hw.dmaChannel
  shdwn := hw.gpio gpioShdwn

def Pipe.after (p : Pipe) : PipeOp → Pipe
  | .deviceInit => Pipe.reset
  | .fwTrg set => { p with fwTrg := set, leftIdle := p.leftIdle || (set && p.running) }
  | .disable forceReload =>
      { p with running := false, leftIdle := false, loaded := p.loaded && !forceReload }
  | .load => { p with loaded := true }
  | .start ok =>
      { p with running := p.running || ok, leftIdle := p.leftIdle || (ok && p.fwTrg) }
  | .dmaCreate => { p with dmaChannel := true }
  | .dmaDestroy => { p with dmaChannel := false }
  | .shdwn level ok => if ok then { p with shdwn := level } else p
  | .smState _ | .dmaReset | .setXfer _ | .clk0 _ | .pll _ | .clockWrite => p

theorem setGpio_pipe (hw : Hw) (pin : UInt8) (level : Bool) :
    (hw.setGpio pin level).pipe =
      if pin = gpioShdwn then { hw.pipe with shdwn := level } else hw.pipe := by
  by_cases h : pin = gpioShdwn
  · simp [Hw.pipe, Hw.setGpio, h]
  · simp [Hw.pipe, Hw.setGpio, h, Ne.symm h]

/-- A GPIO write counts when it is reported successful. -/
theorem gpio_pipe_after (hw : Hw) (pin : UInt8) (level : Bool) (status : ReturnStatus) :
    (if status = cyU3PSuccess then hw.setGpio pin level else hw).pipe =
      (if pin = gpioShdwn then some (PipeOp.shdwn level (status == cyU3PSuccess))
        else none).toList.foldl Pipe.after hw.pipe := by
  by_cases hp : pin = gpioShdwn
  · by_cases h : status = cyU3PSuccess <;> simp [h, hp, setGpio_pipe, Pipe.after]
  · by_cases h : status = cyU3PSuccess <;> simp [h, hp, setGpio_pipe]

theorem pipe_after (hw : Hw) (c : Call) (r : c.Ans) :
    (hw.after c r).pipe = (opOf c r).toList.foldl Pipe.after hw.pipe := by
  cases c with
  | gpifSMStart _ _ =>
      by_cases h : r = cyU3PSuccess
      · simp [Hw.after, opOf, Hw.pipe, Pipe.after, h]
      · simp [Hw.after, opOf, Hw.pipe, Pipe.after, h]
  | gpioSetSimpleConfig pin level => exact gpio_pipe_after hw pin level r
  | gpioSetValue pin level => exact gpio_pipe_after hw pin level r
  | i2cReceiveBytes preamble byteCount =>
      simp only [opOf]
      split
      · rfl
      · split <;> rfl
  | i2cTransmitBytes preamble bytes =>
      simp only [opOf]
      split <;> rfl
  | _ => rfl

section Runs

variable {α : Type} {p : Fw α} {w w' : World} {tr : List FwCall} {a : α}

/-- The chip follows the operations of the trace. -/
theorem pipe_of_runs (h : Runs sdk p w tr a w') :
    w'.env.pipe = (ops tr).foldl Pipe.after w.env.pipe := by
  induction h with
  | ret => rfl
  | read _ ih => exact ih
  | write _ ih => exact ih
  | call r _ _ ih =>
      rw [ih, ops_cons, List.foldl_append, ← pipe_after]
      rfl

end Runs

end Rx888
