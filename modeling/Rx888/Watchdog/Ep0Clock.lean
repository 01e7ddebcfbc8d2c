import Rx888.CallProgram.Contract
import Rx888.Device.Bench

/-! # The EP0 handler and the clock

The liveness check of the EP0 handler compares two samples of the millisecond clock, one
taken by the USB thread and one by the main loop. Here the clock is part of the
environment: it counts up in `Nat`, and `CyU3PGetTime` answers with its low 32 bits. The
USB thread takes its handlers step by step as well.
-/

namespace Rx888

open CallProgram

/-- The chip, the milliseconds since power-up and what the USB thread has left of its
handler. -/
structure Clocked where
  hw : Hw
  ms : Nat
  usb : Fw Unit

abbrev ClockedWorld := State Ram Clocked

/-- The clock is read as it is. -/
def Call.onTime (ms : Nat) : (c : Call) → c.Ans → Prop
  | .getTime, now => now = UInt32.ofNat ms
  | _, _ => True

/-- The SDK with a clock. -/
def clockedSdk : Env Ram Clocked Call.Ans where
  allows w c r := c.mayAnswer r ∧ c.onTime w.env.ms r
  exec w c r :=
    { mem := memAfter w.mem c r
      env := { w.env with hw := w.env.hw.after c r } }

/-- Time passes, and the USB thread enters a handler or takes a step of it. -/
inductive HandlerEvent where
  | elapse (ms : Nat)
  | enter (setupdat0 setupdat1 : UInt32)
  | step (a : Access Ram Call.Ans)

def handler (setupdat0 setupdat1 : UInt32) : Fw Unit := (Act.request setupdat0 setupdat1).prog

inductive HandlerOccurs (w : ClockedWorld) : HandlerEvent → ClockedWorld → Prop where
  | elapse (ms : Nat) :
      HandlerOccurs w (.elapse ms) ⟨w.mem, { w.env with ms := w.env.ms + ms }⟩
  | enter (setupdat0 setupdat1 : UInt32) (idle : w.env.usb = .ret ()) :
      HandlerOccurs w (.enter setupdat0 setupdat1)
        ⟨w.mem, { w.env with usb := handler setupdat0 setupdat1 }⟩
  | step {a : Access Ram Call.Ans} {p : Fw Unit} (takes : w.env.usb.Takes w.mem a p)
      (allowed : clockedSdk.allowsStep w a) :
      HandlerOccurs w (.step a)
        ⟨(clockedSdk.step w a).mem, { (clockedSdk.step w a).env with usb := p }⟩

/-- The main loop's evaluations, with the handlers of the USB thread between their steps. -/
def evaluations : Threads Ram Clocked Call.Ans where
  env := clockedSdk
  Task := Unit
  Out := HealthStatus
  task _ := healthEvaluate
  Event := HandlerEvent
  occurs := HandlerOccurs

/-- The difference of two samples of the clock is the time between them, modulo a turn of
the clock. -/
theorem ofNat_sub {entered now : Nat} (le : entered ≤ now) :
    (UInt32.ofNat now - UInt32.ofNat entered).toNat = (now - entered) % 2 ^ 32 := by
  rw [UInt32.toNat_sub, UInt32.toNat_ofNat', UInt32.toNat_ofNat']
  omega

/-! ## Scripts -/

def Bench.clockedAnswer (b : Bench) (w : ClockedWorld) : (c : Call) → c.Ans
  | .getTime => UInt32.ofNat w.env.ms
  | c => b.answer 0 c

theorem Bench.clocked_allowed (b : Bench) (w : ClockedWorld) (c : Call) :
    clockedSdk.allows w c (b.clockedAnswer w c) := by
  have prints := b.allowed ⟨w.mem, w.env.hw⟩ 0 c
  cases c with
  | getTime => exact ⟨trivial, rfl⟩
  | _ => exact ⟨prints, trivial⟩

def Bench.clockedResponder (b : Bench) : Threads.Responder evaluations.env where
  answer := b.clockedAnswer
  allowed := b.clocked_allowed

def elapse (ms : Nat) : evaluations.Reaction where
  event _ := .elapse ms
  after w := ⟨w.mem, { w.env with ms := w.env.ms + ms }⟩
  occurs _ := .elapse ms

def Bench.usbStep (b : Bench) (w : ClockedWorld) : HandlerEvent × ClockedWorld :=
  match w.env.usb with
  | .ret () => (.elapse 0, ⟨w.mem, { w.env with ms := w.env.ms + 0 }⟩)
  | .read k => (.step .read, ⟨w.mem, { w.env with usb := k w.mem }⟩)
  | .write f k => (.step (.write f), ⟨f w.mem, { w.env with usb := k }⟩)
  | .call c k =>
      let r := b.clockedAnswer w c
      (.step (.call c r),
        ⟨memAfter w.mem c r, { w.env with hw := w.env.hw.after c r, usb := k r }⟩)

def Bench.usb (b : Bench) : evaluations.Reaction where
  event w := (b.usbStep w).1
  after w := (b.usbStep w).2
  occurs w := by
    obtain ⟨mem, hw, ms, usb⟩ := w
    cases usb with
    | ret u => exact .elapse 0
    | read k => exact .step .read trivial
    | write f k => exact .step .write trivial
    | call c k => exact .step (.call _) (b.clocked_allowed _ c)

def enter (setupdat0 setupdat1 : UInt32) : evaluations.Reaction where
  event w :=
    match w.env.usb with
    | .ret () => .enter setupdat0 setupdat1
    | _ => .elapse 0
  after w :=
    match w.env.usb with
    | .ret () => ⟨w.mem, { w.env with usb := handler setupdat0 setupdat1 }⟩
    | _ => ⟨w.mem, { w.env with ms := w.env.ms + 0 }⟩
  occurs w := by
    obtain ⟨mem, hw, ms, usb⟩ := w
    cases usb with
    | ret u => exact .enter setupdat0 setupdat1 rfl
    | _ => exact .elapse 0

def booted : ClockedWorld := ⟨(benchRun []).2.mem, (benchRun []).2.env, 0, .ret ()⟩

end Rx888
