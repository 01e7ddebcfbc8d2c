import Rx888.CallProgram.Contract
import Rx888.Sdk
import Mathlib.Algebra.Group.Nat.Defs

/-! # The firmware's globals

The statics are grouped by the source file that owns them; `glDMACount`,
`glQevent` and `glCounter` are shared. A thread's program reads them one access at a time.
-/

namespace Rx888

open CallProgram

inductive StreamFault where
  | none
  | progressStall
  | coldStart
  deriving DecidableEq, Repr

def wdgMaxRecoveryDefault : UInt8 := 5

/-! `health.c` owns four groups: the struct `glHealthState` of the EP0 liveness check,
the streaming session's watchdog state, the settings and counters that outlive a
session, and the test hooks. -/

structure Ep0Ram where
  ep0HandlerEnterMs : UInt32
  ep0HandlerInProgress : Bool
  deriving DecidableEq, Repr

/-- What `health_reset_recovery_count` resets. -/
structure SessionRam where
  glWdgRecoveryCount : UInt8
  glPrevDMACount : UInt32
  glStallCount : UInt8
  glColdStartCount : UInt8
  glWdgFaultKind : StreamFault
  glWdgEscalated : Bool
  deriving DecidableEq, Repr

structure HealthRam where
  glBootCount : UInt32
  glMainHeartbeat : UInt32
  glLastHeartbeatSeen : UInt32
  glWdgMaxRecovery : UInt8
  glWdgResetEscalationEn : Bool
  deriving DecidableEq, Repr

structure HookRam where
  glHealthHangMain : Bool
  glHealthForceColdStart : Bool
  deriving DecidableEq, Repr

/-- The overflow report of `StartStopApplication.c`. -/
structure PibRam where
  glLastPibArg : UInt16
  glPibNotified : Bool
  deriving DecidableEq, Repr

/-- Owned by `RunApplication.c`. -/
structure AppRam where
  glIsApplnActive : Bool
  glHWconfig : UInt8
  glFWconfig : UInt16
  deriving DecidableEq, Repr

/-- Owned by `DebugConsole.c`. -/
structure ConsoleRam where
  glDebugTxEnabled : Bool
  glFlagDebug : Bool
  glDebTxtLen : UInt16
  glBufDebug : List UInt8
  glConsoleInBuffer : List UInt8
  glConsoleInIndex : UInt32
  deriving DecidableEq, Repr

/-- Owned by `USBHandler.c`. -/
structure UsbRam where
  glEp0Buffer : List UInt8
  glVendorRqtCnt : UInt8
  deriving DecidableEq, Repr

structure Ram where
  ep0 : Ep0Ram
  session : SessionRam
  health : HealthRam
  hooks : HookRam
  pib : PibRam
  app : AppRam
  console : ConsoleRam
  usb : UsbRam
  glDMACount : UInt32
  glQevent : UInt32
  glCounter : Vector UInt32 20
  deriving DecidableEq, Repr

def firmwareVerMajor : UInt16 := 2
def firmwareVerMinor : UInt16 := 6
def maxlenDUsb : Nat := 256
def cyfxSdrappMaxEp0len : Nat := 64

/-- A session in which nothing has happened yet. -/
def SessionRam.fresh : SessionRam where
  glWdgRecoveryCount := 0
  glPrevDMACount := 0
  glStallCount := 0
  glColdStartCount := 0
  glWdgFaultKind := .none
  glWdgEscalated := false

/-- The statics as the startup code leaves them. -/
def Ram.init : Ram where
  ep0 := { ep0HandlerEnterMs := 0, ep0HandlerInProgress := false }
  session := SessionRam.fresh
  health :=
    { glBootCount := 0, glMainHeartbeat := 0, glLastHeartbeatSeen := 0,
      glWdgMaxRecovery := wdgMaxRecoveryDefault, glWdgResetEscalationEn := true }
  hooks := { glHealthHangMain := false, glHealthForceColdStart := false }
  pib := { glLastPibArg := 0, glPibNotified := false }
  app :=
    { glIsApplnActive := false, glHWconfig := 0,
      glFWconfig := (firmwareVerMajor <<< 8) ||| firmwareVerMinor }
  console :=
    { glDebugTxEnabled := false, glFlagDebug := false, glDebTxtLen := 0,
      glBufDebug := List.replicate maxlenDUsb 0, glConsoleInBuffer := List.replicate 32 0,
      glConsoleInIndex := 0 }
  usb := { glEp0Buffer := List.replicate cyfxSdrappMaxEp0len 0, glVendorRqtCnt := 0 }
  glDMACount := 0
  glQevent := 0
  glCounter := Vector.replicate 20 0

/-- `memcpy` of `bytes` to offset `off` of a buffer. -/
def memcpyAt (buffer : List UInt8) (off : Nat) (bytes : List UInt8) : List UInt8 :=
  buffer.take off ++ bytes ++ buffer.drop (off + bytes.length)

theorem memcpyAt_length {buffer bytes : List UInt8} {off : Nat}
    (fits : off + bytes.length ≤ buffer.length) :
    (memcpyAt buffer off bytes).length = buffer.length := by
  simp only [memcpyAt, List.length_append, List.length_take, List.length_drop]
  omega

theorem prefix_memcpyAt {filled buffer : List UInt8} (h : filled <+: buffer)
    (bytes : List UInt8) : filled ++ bytes <+: memcpyAt buffer filled.length bytes := by
  have front : buffer.take filled.length = filled := List.prefix_iff_eq_take.mp h |>.symm
  rw [memcpyAt, front]
  exact List.prefix_append _ _

/-- A word as the little-endian memory holds it. -/
def leBytes16 (n : UInt16) : List UInt8 := [n.toUInt8, (n >>> 8).toUInt8]

def leBytes32 (n : UInt32) : List UInt8 :=
  [n.toUInt8, (n >>> 8).toUInt8, (n >>> 16).toUInt8, (n >>> 24).toUInt8]

/-- The word `memcpy` picks up from the first four bytes of a buffer. -/
def leWord32 (buffer : List UInt8) : UInt32 :=
  let byte (i : Nat) : UInt32 := (buffer.getD i 0).toUInt32
  byte 0 ||| (byte 1 <<< 8) ||| (byte 2 <<< 16) ||| (byte 3 <<< 24)

abbrev World := State Ram Hw

abbrev Fw := Prog Ram Call.Ans

abbrev FwCall := Transition Ram Hw Call.Ans

def ram : Fw Ram := .read .ret

def modify (f : Ram → Ram) : Fw Unit := .write f (.ret ())

def call (c : Call) : Fw c.Ans := .call c .ret

/-- A call whose result the source discards. -/
def void (c : Call) : Fw Unit := .call c fun _ => .ret ()

def modifyEp0 (f : Ep0Ram → Ep0Ram) : Fw Unit :=
  modify fun m => { m with ep0 := f m.ep0 }

def modifySession (f : SessionRam → SessionRam) : Fw Unit :=
  modify fun m => { m with session := f m.session }

def modifyHealth (f : HealthRam → HealthRam) : Fw Unit :=
  modify fun m => { m with health := f m.health }

def modifyHooks (f : HookRam → HookRam) : Fw Unit :=
  modify fun m => { m with hooks := f m.hooks }

def modifyPib (f : PibRam → PibRam) : Fw Unit :=
  modify fun m => { m with pib := f m.pib }

def modifyDMACount (f : UInt32 → UInt32) : Fw Unit :=
  modify fun m => { m with glDMACount := f m.glDMACount }

def modifyApp (f : AppRam → AppRam) : Fw Unit :=
  modify fun m => { m with app := f m.app }

def modifyConsole (f : ConsoleRam → ConsoleRam) : Fw Unit :=
  modify fun m => { m with console := f m.console }

def modifyUsb (f : UsbRam → UsbRam) : Fw Unit :=
  modify fun m => { m with usb := f m.usb }

def setQevent (message : UInt32) : Fw Unit :=
  modify fun m => { m with glQevent := message }

instance (priority := 2000) neZeroCounters : @NeZero Nat Zero.ofOfNat0 20 := ⟨by decide⟩

/-- `glCounter[i]++`. -/
def countUp (i : Fin 20) : Fw Unit :=
  modify fun m => { m with glCounter := m.glCounter.set i (m.glCounter[i] + 1) }

/-- `glCounter[i] = 0`. -/
def countClear (i : Fin 20) : Fw Unit :=
  modify fun m => { m with glCounter := m.glCounter.set i 0 }

/-- `DebugPrint`, the macro for `DebugPrint2USB`. -/
def debugPrint (fmt : String) (args : List DebugArg) : Fw Unit := void (.debugPrint fmt args)

/-- What `DebugPrint2USB` does with the text the formatter produced: nothing unless
the application is active and debugging is on, and the text is dropped when it
does not fit. -/
def debugPrint2USB (m : Ram) (text : Option (List UInt8)) : Ram :=
  match text with
  | none => m
  | some text =>
      if m.app.glIsApplnActive && m.console.glFlagDebug &&
          decide (m.console.glDebTxtLen.toNat + text.length < maxlenDUsb) then
        { m with
          console :=
            { m.console with
              glBufDebug := memcpyAt m.console.glBufDebug m.console.glDebTxtLen.toNat text
              glDebTxtLen := m.console.glDebTxtLen + UInt16.ofNat text.length } }
      else m

/-- What an answered call does to the firmware's memory. -/
def memAfter (m : Ram) : (c : Call) → c.Ans → Ram
  | .debugPrint _ _, text => debugPrint2USB m text
  | _, _ => m

/-- The formatter writes at most 254 bytes into its 256-byte buffer; every other call
may answer anything its type has room for. -/
def Call.mayAnswer : (c : Call) → c.Ans → Prop
  | .debugPrint _ _, text => ∀ bytes, text = some bytes → bytes.length ≤ 254
  | _, _ => True

def sdk : Env Ram Hw Call.Ans where
  allows _ c r := c.mayAnswer r
  exec w c r := { mem := memAfter w.mem c r, env := w.env.after c r }

section Ensures

variable {η : Type} {E : Env Ram η Call.Ans} {s : State Ram η} {α : Type}
variable {Q : List (Transition Ram η Call.Ans) → α → State Ram η → Prop}

theorem ram_bind_ensures {f : Ram → Fw α} :
    (ram >>= f).Ensures E Q s ↔ (f s.mem).Ensures E Q s := Iff.rfl

theorem modify_bind_ensures {g : Ram → Ram} {f : Unit → Fw α} :
    (modify g >>= f).Ensures E Q s ↔ (f ()).Ensures E Q ⟨g s.mem, s.env⟩ := Iff.rfl

theorem call_bind_ensures {c : Call} {f : c.Ans → Fw α} :
    (call c >>= f).Ensures E Q s ↔ ∀ r, E.allows s c r →
      (f r).Ensures E (fun tr => Q (⟨s, c, r⟩ :: tr)) (E.exec s c r) := Iff.rfl

end Ensures

section Keeps

variable {P : Policy Ram Call.Ans} {β : Type} {R : β → Prop}

theorem ram_bind_keeps {f : Ram → Fw β} (h : ∀ m, P.reads m → (f m).Keeps P R) :
    (ram >>= f).Keeps P R :=
  h

theorem call_bind_keeps {c : Call} {f : c.Ans → Fw β} (made : P.calls c)
    (h : ∀ r, P.answers c r → (f r).Keeps P R) : (call c >>= f).Keeps P R :=
  ⟨made, h⟩

end Keeps

section Holds

variable {η : Type} {T : Threads Ram η Call.Ans} {K : Contract T} {g : K.Ghost} {s : State Ram η}
variable {α : Type} {Q : α → K.Ghost → State Ram η → Prop}

theorem ram_bind_holds {f : Ram → Fw α}
    (h : K.Step .read (fun g s => K.Holds (f s.mem) Q g s) g s) :
    K.Holds (ram >>= f) Q g s :=
  h

theorem modify_bind_holds {f : Ram → Ram} {p : Unit → Fw α}
    (h : K.Step (.write f) (fun g s => K.Holds (p ()) Q g s) g s) :
    K.Holds (modify f >>= p) Q g s :=
  h

theorem call_bind_holds {c : Call} {f : c.Ans → Fw α}
    (h : ∀ r, K.Step (.call c r) (fun g s => K.Holds (f r) Q g s) g s) :
    K.Holds (call c >>= f) Q g s :=
  h

end Holds

end Rx888
