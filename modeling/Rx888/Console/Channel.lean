import Rx888.CallProgram.Pool
import Rx888.Console.Poll
import Rx888.Console.Print

/-! # The USB debug channel

Any number of threads print; the USB thread also polls by READINFODEBUG. A ledger beside the
run records which messages were accepted, what a poll has taken out of the buffer and what has
been handed to the host.
-/

namespace Rx888

open CallProgram Function

/-! ## The threads -/

/-- What a thread does about the channel, and everything else it does in between. -/
inductive ChannelJob where
  | print (m : Message)
  | poll (s : Setup)
  | other (p : Fw Unit)

/-- A write of other code leaves the debug text alone, and the EP0 buffer too unless it is
the USB thread's. -/
structure Aside (usbThread : Prop) (f : Ram → Ram) : Prop where
  text : ∀ m, SameText m (f m)
  ep0 : usbThread ∨ ∀ m, (f m).usb.glEp0Buffer = m.usb.glEp0Buffer

/-- Other code leaves the interrupts alone, and its prints are jobs of their own. -/
def asideCall : Call → Prop
  | .vicDisableAllInterrupts | .vicEnableInterrupts _ | .debugPrint _ _ => False
  | _ => True

def ChannelJob.prog (cyU3PDebugIntToStr : UInt32 → UInt8 → CString) : ChannelJob → Fw Unit
  | .print m => debugPrint2USBSteps cyU3PDebugIntToStr m
  | .poll s => readinfodebug s >>= fun _ => pure ()
  | .other p => p

/-- Any thread prints; the USB thread alone polls. -/
def ChannelJob.offered (usbThread : Prop) : ChannelJob → Prop
  | .print _ => True
  | .poll _ => usbThread
  | .other p => p.Uses (Aside usbThread) asideCall

def turnsOff : Call → Bool
  | .vicDisableAllInterrupts => true
  | _ => false

def turnsOn : Call → Bool
  | .vicEnableInterrupts _ => true
  | _ => false

/-- The threads `τ`, any of which may run before any other; one is the USB thread. -/
@[reducible] def channelThreads {τ : Type} [DecidableEq τ]
    (cyU3PDebugIntToStr : UInt32 → UInt8 → CString) (usb : τ) : Pool Ram Hw Call.Ans where
  env := sdk
  Tid := τ
  decEq := inferInstance
  above _ := []
  Job := ChannelJob
  prog := ChannelJob.prog cyU3PDebugIntToStr
  offers t := ChannelJob.offered (t = usb)
  locks := turnsOff
  unlocks := turnsOn

/-! ## The ledger -/

/-- What becomes of a print: it is under way, has found the channel disabled, has been
accepted or has not fitted. -/
inductive Fate where
  | underWay
  | disabled
  | accepted
  | full
  deriving DecidableEq

/-- `entry` is the console's memory as the last section began, `taken` the text of the poll
that has left its section and not replied yet. -/
structure Ledger (τ : Type) where
  entry : ConsoleRam
  accepted : List (List UInt8)
  taken : List UInt8
  handed : List UInt8
  ep0 : List UInt8
  fate : τ → Fate

namespace Ledger

variable {τ : Type} [DecidableEq τ] (intToStr : UInt32 → UInt8 → CString)

/-- A message is accepted whole when it fits as its section begins. -/
def notePrint (g : Ledger τ) (m : Ram) (t : τ) (msg : Message) : Access Ram Call.Ans → Ledger τ
  | .read =>
      if m.app.glIsApplnActive && m.console.glFlagDebug then g
      else { g with fate := update g.fate t .disabled }
  | .call .vicDisableAllInterrupts _ => { g with entry := m.console }
  | .call (.vicEnableInterrupts _) _ =>
      let text := (msg.text intToStr).getD []
      if g.entry.glDebTxtLen.toNat + text.length < maxlenDUsb then
        { g with accepted := g.accepted ++ [text], fate := update g.fate t .accepted }
      else { g with fate := update g.fate t .full }
  | _ => g

def notePoll (g : Ledger τ) (m : Ram) : Access Ram Call.Ans → Ledger τ
  | .call .vicDisableAllInterrupts _ => { g with entry := m.console }
  | .call (.vicEnableInterrupts _) _ =>
      { g with taken := g.entry.glBufDebug.take (infoLen g.entry.glDebTxtLen).toNat }
  | .call (.usbSendEP0Data bytes) _ =>
      { g with handed := g.handed ++ bytes.dropLast, taken := [] }
  | _ => g

/-- The EP0 buffer as the USB thread leaves it. -/
def noteEp0 (usb : τ) (g : Ledger τ) (m : Ram) (t : τ) : Access Ram Call.Ans → Ledger τ
  | .write f => if t = usb then { g with ep0 := (f m).usb.glEp0Buffer } else g
  | _ => g

def noteStep (usb : τ) (g : Ledger τ) (m : Ram) (t : τ) (a : Access Ram Call.Ans) :
    ChannelJob → Ledger τ
  | .print msg => (g.notePrint intToStr m t msg a).noteEp0 usb m t a
  | .poll _ => if t = usb then (g.notePoll m a).noteEp0 usb m t a else g
  | .other _ => g.noteEp0 usb m t a

def noteStart (g : Ledger τ) (t : τ) : ChannelJob → Ledger τ
  | .print _ => { g with fate := update g.fate t .underWay }
  | _ => g

end Ledger

section Contract

variable {τ : Type} [DecidableEq τ] (intToStr : UInt32 → UInt8 → CString) (usb : τ)

def Ledger.note (g : Ledger τ) (m : Ram) (t : τ) : (channelThreads intToStr usb).Deed → Ledger τ
  | .start j => g.noteStart t j
  | .own j a => g.noteStep intToStr usb m t a j
  | .done _ => g

/-- A reply carries the text its poll took and a NUL; a print that ends without having been
accepted found the channel disabled or full or could not be formatted. -/
def Ledger.ensures (g : Ledger τ) (t : τ) : (channelThreads intToStr usb).Deed → Prop
  | .own (.poll _) (.call (.usbSendEP0Data bytes) _) =>
      bytes = g.taken ++ [0] ∧ g.taken.length < cyfxSdrappMaxEp0len
  | .done (.print m) => g.fate t = .underWay → m.text intToStr = none
  | _ => True

/-- What was accepted has been handed over, is on its way to the host or lies in the buffer. -/
structure Ledger.Balanced (g : Ledger τ) (m : Ram) : Prop where
  size : m.console.glBufDebug.length = maxlenDUsb
  short : m.console.glDebTxtLen.toNat < maxlenDUsb
  content : g.handed ++ g.taken ++ m.console.glBufDebug.take m.console.glDebTxtLen.toNat =
    g.accepted.flatten
  ep0 : m.usb.glEp0Buffer = g.ep0

/-- What of the ledger is a thread's own. -/
structure Own where
  fate : Fate
  taken : List UInt8
  ep0 : List UInt8

def Ledger.own (g : Ledger τ) (t : τ) : Own where
  fate := g.fate t
  taken := if t = usb then g.taken else []
  ep0 := if t = usb then g.ep0 else []

/-- Outside of polls nothing is on its way. -/
def Own.during : Option ChannelJob → Own → Prop
  | some (.poll _), _ => True
  | _, l => l.taken = []

variable {usb} in
theorem own_notePrint {g : Ledger τ} {m : Ram} {t t' : τ} (other : t' ≠ t) (msg : Message)
    (a : Access Ram Call.Ans) :
    (g.notePrint intToStr m t msg a).own usb t' = g.own usb t' := by
  unfold Ledger.notePrint
  split
  · split
    · rfl
    · simp [Ledger.own, other]
  · rfl
  · simp only
    split <;> simp [Ledger.own, other]
  · rfl

variable {usb} in
theorem own_noteEp0 {g : Ledger τ} {m : Ram} {t t' : τ} (other : t' ≠ t)
    (a : Access Ram Call.Ans) : (g.noteEp0 usb m t a).own usb t' = g.own usb t' := by
  unfold Ledger.noteEp0
  split
  · split
    next mine => simp [Ledger.own, mine ▸ other]
    next => rfl
  · rfl

theorem own_notePoll {g : Ledger τ} {m : Ram} {t' : τ} (other : t' ≠ usb)
    (a : Access Ram Call.Ans) : (g.notePoll m a).own usb t' = g.own usb t' := by
  unfold Ledger.notePoll
  split <;> simp [Ledger.own, other]

theorem own_note {g : Ledger τ} {m : Ram} {t t' : τ} (other : t' ≠ t)
    (d : (channelThreads intToStr usb).Deed) :
    (g.note intToStr usb m t d).own usb t' = g.own usb t' := by
  match d with
  | .start (.print _) => simp [Ledger.note, Ledger.noteStart, Ledger.own, other]
  | .start (.poll _) => rfl
  | .start (.other _) => rfl
  | .done _ => rfl
  | .own (.print msg) a =>
      exact (own_noteEp0 other a).trans (own_notePrint intToStr other msg a)
  | .own (.poll _) a =>
      simp only [Ledger.note, Ledger.noteStep]
      split
      next mine => exact (own_noteEp0 other a).trans (own_notePoll usb (mine ▸ other) a)
      next => rfl
  | .own (.other _) a => exact own_noteEp0 other a

def channelContract : (channelThreads intToStr usb).Contract where
  Ghost := Ledger τ
  note g s := g.note intToStr usb s.mem
  ensures g _ := g.ensures intToStr usb
  held _ s := s.mem.console.glDebTxtLen.toNat < maxlenDUsb
  inv g s := g.Balanced s.mem
  Local := Own
  loc := Ledger.own usb
  during := Own.during
  inv_held h := h.short
  others _ _ _ d _ other := own_note intToStr usb other d

end Contract

/-! ## What the steps keep -/

section Balanced

variable {τ : Type} {g : Ledger τ} {m : Ram}

theorem take_append_memcpyAt (buffer text : List UInt8) {off : Nat} (within : off ≤ buffer.length) :
    (memcpyAt buffer off text).take (off + text.length) = buffer.take off ++ text := by
  have length : (buffer.take off ++ text).length = off + text.length := by
    rw [List.length_append, List.length_take]
    omega
  rw [memcpyAt, ← length, List.take_left']
  rfl

/-- An accepted message goes behind the others. -/
theorem Ledger.Balanced.append (balanced : g.Balanced m) {text : List UInt8} {len : UInt16}
    (length : text.length = len.toNat)
    (fits : m.console.glDebTxtLen.toNat + len.toNat < maxlenDUsb) :
    Ledger.Balanced { g with accepted := g.accepted ++ [text] }
      { m with
        console :=
          { m.console with
            glBufDebug := memcpyAt m.console.glBufDebug m.console.glDebTxtLen.toNat text
            glDebTxtLen := m.console.glDebTxtLen + len } } := by
  have sum : (m.console.glDebTxtLen + len).toNat = m.console.glDebTxtLen.toNat + len.toNat := by
    have small : maxlenDUsb < 2 ^ 16 := by decide
    rw [UInt16.toNat_add]
    exact Nat.mod_eq_of_lt (by omega)
  constructor
  · have room : m.console.glDebTxtLen.toNat + text.length ≤ m.console.glBufDebug.length := by
      rw [balanced.size]
      omega
    exact (memcpyAt_length room).trans balanced.size
  · show (m.console.glDebTxtLen + len).toNat < _
    omega
  · have within : m.console.glDebTxtLen.toNat ≤ m.console.glBufDebug.length := by
      have short := balanced.short
      rw [balanced.size]
      omega
    show g.handed ++ g.taken ++
      (memcpyAt _ _ text).take (m.console.glDebTxtLen + len).toNat = (g.accepted ++ [text]).flatten
    rw [sum, ← length, take_append_memcpyAt _ text within, ← List.append_assoc, balanced.content]
    simp
  · exact balanced.ep0

theorem slid_length (balanced : g.Balanced m) :
    ((m.console.glBufDebug.drop (infoLen m.console.glDebTxtLen).toNat).take
      (m.console.glDebTxtLen - infoLen m.console.glDebTxtLen).toNat).length =
        (m.console.glDebTxtLen - infoLen m.console.glDebTxtLen).toNat := by
  have least := infoLen_toNat m.console.glDebTxtLen
  have below : infoLen m.console.glDebTxtLen ≤ m.console.glDebTxtLen :=
    UInt16.le_iff_toNat_le.mpr (by omega)
  have difference := UInt16.toNat_sub_of_le _ _ below
  have short := balanced.short
  rw [List.length_take, List.length_drop, balanced.size]
  omega

/-- A poll moves text from the front of the buffer to what is on its way. -/
theorem Ledger.Balanced.take (balanced : g.Balanced m) (idle : g.taken = []) (ep0 : List UInt8)
    {left : List UInt8}
    (slid : left.take (m.console.glDebTxtLen - infoLen m.console.glDebTxtLen).toNat =
      (m.console.glBufDebug.drop (infoLen m.console.glDebTxtLen).toNat).take
        (m.console.glDebTxtLen - infoLen m.console.glDebTxtLen).toNat)
    (size : left.length = maxlenDUsb) :
    Ledger.Balanced
      { g with
        taken := m.console.glBufDebug.take (infoLen m.console.glDebTxtLen).toNat, ep0 := ep0 }
      { m with
        console :=
          { m.console with
            glBufDebug := left
            glDebTxtLen := m.console.glDebTxtLen - infoLen m.console.glDebTxtLen }
        usb := { m.usb with glEp0Buffer := ep0 } } := by
  have least := infoLen_toNat m.console.glDebTxtLen
  have below : infoLen m.console.glDebTxtLen ≤ m.console.glDebTxtLen :=
    UInt16.le_iff_toNat_le.mpr (by omega)
  have difference := UInt16.toNat_sub_of_le _ _ below
  have sum : (infoLen m.console.glDebTxtLen).toNat +
      (m.console.glDebTxtLen - infoLen m.console.glDebTxtLen).toNat =
        m.console.glDebTxtLen.toNat := by omega
  constructor
  · exact size
  · show (m.console.glDebTxtLen - infoLen m.console.glDebTxtLen).toNat < _
    have short := balanced.short
    omega
  · show g.handed ++ m.console.glBufDebug.take _ ++ left.take _ = g.accepted.flatten
    rw [slid, List.append_assoc, ← List.take_add, sum, ← balanced.content, idle, List.append_nil]
  · rfl

end Balanced

end Rx888
