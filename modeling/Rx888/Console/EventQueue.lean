import Rx888.CallProgram.Pool
import Rx888.Calls.Kind
import Rx888.Firmware.MainLoop

/-! # The event queue

The callbacks of the USB, UART and PIB threads post words; the main thread, which runs while
none of them does, receives one into `glQevent` and then dispatches `glQevent`. The two console
inputs post through `glQevent` as well.
-/

namespace Rx888

open CallProgram Function

/-! ## The queue -/

/-- The chip and the words in the queue, the oldest first. -/
structure Queued where
  hw : Hw
  queue : List UInt32

abbrev QueuedWorld := State Ram Queued

/-- A bounded queue takes a whole word or none, and gives the oldest one. -/
def Call.byQueue (capacity : Nat) (queue : List UInt32) : (c : Call) → c.Ans → Prop
  | .queueSend _, status => status = cyU3PSuccess ↔ queue.length < capacity
  | .queueReceive, .ok message => queue.head? = some message
  | .queueReceive, .error _ => queue = []
  | _, _ => True

def queueAfter (queue : List UInt32) : (c : Call) → c.Ans → List UInt32
  | .queueSend message, status => if status = cyU3PSuccess then queue ++ [message] else queue
  | .queueReceive, .ok _ => queue.tail
  | _, _ => queue

def memReceived (m : Ram) : (c : Call) → c.Ans → Ram
  | .queueReceive, .ok message => { m with glQevent := message }
  | c, r => memAfter m c r

/-- The SDK with a queue. -/
def queuedSdk (capacity : Nat) : Env Ram Queued Call.Ans where
  allows w c r := c.mayAnswer r ∧ c.byQueue capacity w.env.queue r
  exec w c r :=
    { mem := memReceived w.mem c r
      env := { hw := w.env.hw.after c r, queue := queueAfter w.env.queue c r } }

/-! ## The threads -/

inductive EventThread where
  | main
  | usb
  | uart
  | pib
  deriving DecidableEq, Repr

/-- One turn of the main thread's drain loop, a callback, or other code. -/
inductive EventJob where
  | drain (firstLine : Bool)
  | usbEvent (evtype : UInt8) (evdata : UInt16)
  | pibError (isError : Bool) (cbArg : UInt16)
  | poll (s : Setup)
  | uart (isRxDone : Bool)
  | other (p : Fw Unit)

def EventJob.prog : EventJob → Fw Unit
  | .drain firstLine => drainOnce firstLine
  | .usbEvent evtype evdata => usbEventCallback evtype evdata
  | .pibError isError cbArg => pibErrorCallback isError cbArg
  | .poll s => readinfodebug s >>= fun _ => pure ()
  | .uart isRxDone => uartCallback isRxDone
  | .other p => p

def keepsQevent (f : Ram → Ram) : Prop := ∀ m, (f m).glQevent = m.glQevent

/-- Code that has to do neither with the queue nor with `glQevent`. -/
def Beside {α : Type} (p : Fw α) : Prop := p.Uses keepsQevent fun c => c.kind ≠ .queue

def EventJob.offered : EventThread → EventJob → Prop
  | t, .drain _ => t = .main
  | t, .usbEvent _ _ | t, .poll _ => t = .usb
  | t, .uart _ => t = .uart
  | t, .pibError _ _ => t = .pib
  | _, .other p => Beside p

/-- The callbacks run before the main thread, and in any order among themselves. That no other
thread runs while the interrupts are off is not made use of. -/
@[reducible] def eventThreads (capacity : Nat) : Pool Ram Queued Call.Ans where
  env := queuedSdk capacity
  Tid := EventThread
  decEq := inferInstance
  above
    | .main => [.usb, .uart, .pib]
    | _ => []
  Job := EventJob
  prog := EventJob.prog
  offers := EventJob.offered
  locks _ := false
  unlocks _ := false

/-! ## The log -/

/-- The word a carriage return posts. -/
def carriageReturn : UInt32 := userCommandAvailable <<< 24

/-- Words accepted by the queue, received from it and dispatched; the word received last, until
it is dispatched, and whether a thread has assigned `glQevent` since; and which threads have
assigned it and not sent it yet. -/
structure EventLog where
  accepted : List UInt32
  received : List UInt32
  dispatched : List UInt32
  pending : Option UInt32
  assigned : Bool
  posting : EventThread → Bool

namespace EventLog

def assigns (f : Ram → Ram) (m : Ram) : Bool := (f { m with glQevent := 0 }).glQevent != 0

/-- The main thread's read is that of the argument of `MsgParsing`. -/
def noteStep (g : EventLog) (m : Ram) (t : EventThread) : Access Ram Call.Ans → EventLog
  | .read =>
      if t = .main ∧ g.pending.isSome then
        { g with dispatched := g.dispatched ++ [m.glQevent], pending := none }
      else g
  | .write f =>
      if assigns f m then
        { g with assigned := true, posting := update g.posting t true }
      else g
  | .call (.queueSend message) status =>
      { g with
        accepted := if status = cyU3PSuccess then g.accepted ++ [message] else g.accepted
        posting := update g.posting t false }
  | .call .queueReceive (.ok message) =>
      if t = .main then
        { g with
          received := g.received ++ [message], pending := some message, assigned := false }
      else g
  | _ => g

/-- What has been dispatched is what has been received, but for the word whose dispatch is still
to come. -/
def Delivered (g : EventLog) : Prop := g.dispatched ++ g.pending.toList = g.received

end EventLog

section Contract

variable (capacity : Nat)

def EventLog.note (g : EventLog) (m : Ram) (t : EventThread) :
    (eventThreads capacity).Deed → EventLog
  | .own _ a => g.noteStep m t a
  | _ => g

/-- A word is dispatched before `glQevent` is assigned anew, or it is a carriage return. -/
def EventLog.Undisturbed (g : EventLog) (t : EventThread) : (eventThreads capacity).Deed → Prop
  | .own _ .read => t = .main → ∀ word ∈ g.pending, g.assigned = true → word = carriageReturn
  | _ => True

def EventLog.sends : (eventThreads capacity).Deed → Prop
  | .own (.poll _) (.call (.queueSend message) _) => message = carriageReturn
  | .own (.uart _) (.call (.queueSend message) _) => message = carriageReturn
  | _ => True

/-- The log accounts for the queue and for `glQevent`. -/
structure EventLog.Accounts (g : EventLog) (s : QueuedWorld) : Prop where
  queue : g.received ++ s.env.queue = g.accepted
  last : ∀ word ∈ g.pending, ∃ before, g.received = before ++ [word]
  pending : ∀ word ∈ g.pending,
    s.mem.glQevent = if g.assigned then carriageReturn else word
  posting : ∀ t, g.posting t = true → s.mem.glQevent = carriageReturn

/-- What of the log is a thread's own. -/
structure EventOwn where
  posting : Bool
  pending : Option UInt32

def EventLog.own (g : EventLog) (t : EventThread) : EventOwn where
  posting := g.posting t
  pending := if t = .main then g.pending else none

/-- Nothing is owed. -/
structure EventOwn.Calm (l : EventOwn) : Prop where
  posting : l.posting = false
  pending : l.pending = none

def EventOwn.during : Option EventJob → EventOwn → Prop
  | none, l => l.Calm
  | _, _ => True

theorem own_noteStep {g : EventLog} {m : Ram} {t t' : EventThread} (other : t' ≠ t)
    (a : Access Ram Call.Ans) : (g.noteStep m t a).own t' = g.own t' := by
  unfold EventLog.noteStep
  split
  · split
    next mine =>
      have apart : t' ≠ .main := fun same => other (same.trans mine.1.symm)
      simp [EventLog.own, apart]
    next => rfl
  · split
    next => simp [EventLog.own, other]
    next => rfl
  · simp [EventLog.own, other]
  · split
    next mine =>
      have apart : t' ≠ .main := fun same => other (same.trans mine.symm)
      simp [EventLog.own, apart]
    next => rfl
  · rfl

def eventContract : (eventThreads capacity).Contract where
  Ghost := EventLog
  note g s := g.note capacity s.mem
  ensures g s t d :=
    EventLog.sends capacity d ∧
      ((g.note capacity s.mem t d).Delivered ↔ g.Delivered ∧ g.Undisturbed capacity t d)
  held g s := g.Accounts s
  inv g s := g.Accounts s
  Local := EventOwn
  loc := EventLog.own
  during := EventOwn.during
  inv_held := id
  others _ _ _ d _ other := by
    cases d with
    | own j a => exact own_noteStep other a
    | start j => rfl
    | done j => rfl

end Contract

end Rx888
