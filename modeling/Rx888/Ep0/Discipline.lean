import Rx888.CallProgram.Budget
import Rx888.Calls.Kind
import Rx888.Ep0.Stats

/-! # The EP0 data-phase discipline

A setup packet has at most one data phase, in the direction the host announced. The direction
table of the dispatcher is checked against what each case may call, the number of data phases
by a budget, and the two guards by what is left of the request behind them.
-/

namespace Rx888

open CallProgram

attribute [local simp] Call.kind

def Call.dataPhase (c : Call) : Bool := c.kind == .dataOut || c.kind == .dataIn

/-- The dispatcher's direction table agrees with what the cases may call. -/
theorem expectIn_commandKinds (c : FX3Command) :
    (.dataIn ∈ commandKinds (some c) ↔ c.expectIn? = some true) ∧
      (.dataOut ∈ commandKinds (some c) ↔ c.expectIn? = some false) := by
  cases c <;> decide

/-! ## At most one data phase -/

abbrev otherKinds : List Kind :=
  [.setup, .deviceInit, .reset, .time, .sleep, .queue, .interrupts, .text, .pib, .gpif, .smState,
    .dma, .transfer, .endpoint, .speed, .ack, .stall, .lpm, .i2cRead, .i2cWrite, .i2cError, .gpio,
    .gpioRead]

section Budget

variable {α β : Type} {p : Fw α} {f : α → Fw β} {n : Nat}

theorem Makes.noDataPhase (h : Makes otherKinds p) :
    p.Uses (fun _ => True) fun c => c.dataPhase = false := by
  refine Prog.Uses.mono h (fun _ => id) fun c other => ?_
  have cases (k : Kind) (hk : k ∈ otherKinds) : (k == .dataOut || k == .dataIn) = false := by
    revert k
    decide
  exact cases c.kind other

@[simp] theorem silent_atMost (h : Makes otherKinds p) : p.AtMost Call.dataPhase n :=
  h.noDataPhase.atMost_zero.mono (by omega)

@[simp] theorem silent_bind (h : Makes otherKinds p) : (p >>= f).AtMost Call.dataPhase n ↔
    ∀ a, p.Returns a → (f a).AtMost Call.dataPhase n :=
  h.noDataPhase.atMost_bind

theorem getEP0Data_one (wLength : UInt16) : (getEP0Data wLength).AtMost Call.dataPhase 1 := by
  refine ⟨0, rfl, fun answer => ?_⟩
  cases answer <;> trivial

@[simp] theorem sendEP0Data_one (count : UInt16) :
    (sendEP0Data count).AtMost Call.dataPhase 1 :=
  fun _ => ⟨0, rfl, fun _ => trivial⟩

@[simp] theorem getEP0Data_bind {wLength : UInt16} {f : ReturnStatus → Fw β}
    (rest : ∀ status, Makes otherKinds (f status)) :
    (getEP0Data wLength >>= f).AtMost Call.dataPhase 1 := by
  have none (status : ReturnStatus) : (f status).AtMost Call.dataPhase 0 :=
    silent_atMost (rest status)
  exact (getEP0Data_one wLength).bind none

@[simp] theorem sendEP0Data_bind {count : UInt16} {f : Unit → Fw β}
    (rest : Makes otherKinds (f ())) : (sendEP0Data count >>= f).AtMost Call.dataPhase 1 := by
  have none (u : Unit) : (f u).AtMost Call.dataPhase 0 := silent_atMost rest
  exact (sendEP0Data_one count).bind none

@[simp] theorem sendEP0Data_map (count : UInt16) (g : Unit → β) :
    (g <$> sendEP0Data count).AtMost Call.dataPhase 1 :=
  (sendEP0Data_one count).map g

end Budget

theorem i2crfx3_oneDataPhase (s : Setup) : (i2crfx3 s).AtMost Call.dataPhase 1 := by
  unfold i2crfx3
  refine (Prog.atMost_ite _).mpr ⟨fun _ => by simp, fun _ => ?_⟩
  refine (silent_bind (by simp)).mpr fun _ _ => (silent_bind (by simp)).mpr fun data _ => ?_
  cases data with
  | ok data => simp
  | error e => simp [call]

theorem setargfx3_oneDataPhase (s : Setup) : (setargfx3 s).AtMost Call.dataPhase 1 := by
  refine getEP0Data_bind fun _ => ?_
  cases ArgumentList.ofIndex? s.wIndex with
  | none => simp
  | some arg => cases arg <;> simp

theorem vendorCommand_oneDataPhase (s : Setup) (command : Option FX3Command) :
    (vendorCommand s command).AtMost Call.dataPhase 1 := by
  cases command with
  | none => simp [vendorCommand, unknownRequest]
  | some c =>
      cases c with
      | gpiofx3 => simp [vendorCommand, gpiofx3]
      | startadc => simp [vendorCommand, startadc, implicitStop]
      | getstats => simp [vendorCommand, getstats]
      | i2cwfx3 => simp [vendorCommand, i2cwfx3, call]
      | i2crfx3 => exact i2crfx3_oneDataPhase s
      | setargfx3 => exact setargfx3_oneDataPhase s
      | startfx3 =>
          simp [vendorCommand, startfx3, restartStream, reportStart, call]
      | stopfx3 => simp [vendorCommand, stopfx3]
      | resetfx3 => simp [vendorCommand, resetfx3]
      | testfx3 => simp [vendorCommand, testfx3]
      | readinfodebug => simp [vendorCommand, readinfodebug, call]
      | hangfx3 => simp [vendorCommand, hangfx3]
      | hangcoldstart => simp [vendorCommand, hangcoldstart]
      | hangmain => simp [vendorCommand, hangmain]

/-! ## The length of the data phase out -/

/-- Every data phase out asks for `wLength` bytes. -/
abbrev Receives {α : Type} (wLength : UInt16) (p : Fw α) : Prop :=
  p.Uses (fun _ => True) fun c => ∀ count, c = .usbGetEP0Data count → count = wLength

section Receives

variable {α : Type} {p : Fw α} {wLength : UInt16} {kinds : List Kind}

theorem Makes.receives (h : Makes kinds p) (none : .dataOut ∉ kinds) : Receives wLength p := by
  refine Prog.Uses.mono h (fun _ => id) fun c kind count same => ?_
  subst same
  exact absurd kind none

@[simp] theorem silent_receives (h : Makes otherKinds p) : Receives wLength p :=
  h.receives (by decide)

@[simp] theorem getEP0Data_receives : Receives wLength (getEP0Data wLength) := by
  refine ⟨fun count same => (Call.usbGetEP0Data.inj same).symm, fun answer => ?_⟩
  cases answer with
  | ok bytes => exact ⟨trivial, trivial⟩
  | error e => trivial

end Receives

theorem setargfx3_receives (s : Setup) : Receives s.wLength (setargfx3 s) := by
  refine (Prog.uses_bind _ _).mpr ⟨getEP0Data_receives, fun _ _ => ?_⟩
  cases ArgumentList.ofIndex? s.wIndex with
  | none => simp
  | some arg => cases arg <;> simp

theorem vendorCommand_receives (s : Setup) (command : Option FX3Command) :
    Receives s.wLength (vendorCommand s command) := by
  by_cases receives : .dataOut ∈ commandKinds command
  · cases command with
    | none => simp [commandKinds] at receives
    | some c =>
        cases c with
        | gpiofx3 => simp [vendorCommand, gpiofx3]
        | startadc => simp [vendorCommand, startadc, implicitStop]
        | i2cwfx3 => simp [vendorCommand, i2cwfx3, call]
        | setargfx3 => exact setargfx3_receives s
        | startfx3 =>
            simp [vendorCommand, startfx3, restartStream, reportStart, call]
        | stopfx3 => simp [vendorCommand, stopfx3]
        | resetfx3 => simp [vendorCommand, resetfx3]
        | _ => simp [commandKinds] at receives
  · exact (vendorCommand_makes s command).receives receives

/-! ## The request -/

/-- The handler's entry: the time is stamped and the flag raised. -/
def World.entered (w : World) (now : UInt32) : World :=
  ⟨{ w.mem with ep0 := { ep0HandlerEnterMs := now, ep0HandlerInProgress := true } }, w.env⟩

def World.exited (w : World) : World :=
  ⟨{ w.mem with ep0 := { w.mem.ep0 with ep0HandlerInProgress := false } }, w.env⟩

theorem enter_bind_ensures {α : Type} {w : World} {f : Unit → Fw α}
    {Q : List FwCall → α → World → Prop}
    (h : ∀ now, (f ()).Ensures sdk (fun tr => Q (⟨w, .getTime, now⟩ :: tr)) (w.entered now)) :
    (healthRecordEvent .ep0HandlerEnter >>= f).Ensures sdk Q w :=
  fun now _ => h now

/-- A callback serves its request between the two liveness events. -/
theorem callback_split {setupdat0 setupdat1 : UInt32} {w w' : World} {tr : List FwCall}
    {handled : Bool}
    (run : Runs sdk (cyFxSlFifoApplnUSBSetupCB setupdat0 setupdat1) w tr handled w') :
    ∃ now served w₂, tr = ⟨w, .getTime, now⟩ :: served ∧
      Runs sdk (setupRequest (Setup.decode setupdat0 setupdat1)) (w.entered now) served handled w₂ ∧
      w' = World.exited w₂ := by
  have ends : (cyFxSlFifoApplnUSBSetupCB setupdat0 setupdat1).Ensures sdk
      (fun tr handled w' => ∃ now served w₂, tr = ⟨w, .getTime, now⟩ :: served ∧
        Runs sdk (setupRequest (Setup.decode setupdat0 setupdat1)) (w.entered now) served
          handled w₂ ∧ w' = World.exited w₂) w := by
    refine enter_bind_ensures fun now => ?_
    refine (ensures_bind _ _).mpr (ensures_of_runs fun served isHandled w₂ serves => ?_)
    refine modify_bind_ensures.mpr ?_
    exact ⟨now, served, w₂, by simp, serves, rfl⟩
  exact run.ensures ends

/-- The packet is refused before any data phase: it asks for too much, or a known data-phase
request comes in the wrong direction. -/
def Setup.refused (s : Setup) : Bool :=
  decide (s.wLength > UInt16.ofNat cyfxSdrappMaxEp0len) || s.directionMismatch

theorem setupRequest_vendor {s : Setup} (vendor : s.bType = cyU3PUsbVendorRqt) :
    setupRequest s =
      if s.refused then (do stallEP0; return true)
      else (do
        let isHandled ← vendorCommand s (FX3Command.ofCode? s.bRequest)
        traceSerial s.bRequest s.wValue s.wIndex
        return isHandled) := by
  have other : ¬ s.bType = cyU3PUsbStandardRqt := by
    rw [vendor]
    decide
  rw [setupRequest, if_neg other, if_pos vendor, vendorRequest]
  by_cases long : s.wLength > UInt16.ofNat cyfxSdrappMaxEp0len
  · simp [Setup.refused, long]
  · by_cases mismatch : s.directionMismatch <;> simp [Setup.refused, long, mismatch]

/-- What a vendor request may do with endpoint 0. -/
structure Ep0Discipline (s : Setup) (w : World) (tr : List FwCall) (handled : Bool)
    (w' : World) : Prop where
  out : ∀ t ∈ tr, ∀ count, t.call = .usbGetEP0Data count →
    s.hostIn = false ∧ count.toNat ≤ cyfxSdrappMaxEp0len
  back : ∀ t ∈ tr, ∀ bytes, t.call = .usbSendEP0Data bytes → s.hostIn = true
  once : tr.countP (fun t => t.call.dataPhase) ≤ 1
  refused : s.refused = true → tr.map (·.call) = [.getTime, .usbStall 0 true false] ∧
    w'.env = w.env ∧ Unchanged [.ep0] w.mem w'.mem
  unknown : FX3Command.ofCode? s.bRequest = none → .usbStall 0 true false ∈ tr.map (·.call)
  exits : ∃ w₁, Runs sdk (do healthRecordEvent .ep0HandlerEnter; setupRequest s) w tr handled w₁ ∧
    Runs sdk (healthRecordEvent .ep0HandlerExit) w₁ [] () w'
  idle : w'.mem.ep0.ep0HandlerInProgress = false

section Served

variable {s : Setup} {w w' : World} {tr : List FwCall} {handled : Bool}

theorem refused_run (vendor : s.bType = cyU3PUsbVendorRqt) (refused : s.refused = true)
    (run : Runs sdk (setupRequest s) w tr handled w') :
    tr.map (·.call) = [.usbStall 0 true false] ∧ w' = w := by
  rw [setupRequest_vendor vendor, if_pos refused] at run
  have stalls : (do stallEP0; return true : Fw Bool).Ensures sdk
      (fun tr _ w' => tr.map (·.call) = [.usbStall 0 true false] ∧ w' = w) w :=
    fun _ _ => ⟨rfl, rfl⟩
  exact run.ensures stalls

/-- A packet that is served is dispatched, and then traced. -/
theorem served_run (vendor : s.bType = cyU3PUsbVendorRqt) (served : s.refused = false)
    (run : Runs sdk (setupRequest s) w tr handled w') :
    Runs sdk (do
      let isHandled ← vendorCommand s (FX3Command.ofCode? s.bRequest)
      traceSerial s.bRequest s.wValue s.wIndex
      return isHandled) w tr handled w' := by
  rw [setupRequest_vendor vendor, if_neg (by simp [served])] at run
  exact run

theorem served_kinds (vendor : s.bType = cyU3PUsbVendorRqt) (served : s.refused = false)
    (run : Runs sdk (setupRequest s) w tr handled w') :
    ∀ t ∈ tr, t.call.kind ∈ .text :: commandKinds (FX3Command.ofCode? s.bRequest) := by
  have command := (vendorCommand_makes s (FX3Command.ofCode? s.bRequest)).mono
    (List.subset_cons_self .text _)
  refine Makes.run ?_ (served_run vendor served run)
  simp [command]

theorem served_once (vendor : s.bType = cyU3PUsbVendorRqt) (served : s.refused = false)
    (run : Runs sdk (setupRequest s) w tr handled w') :
    tr.countP (fun t => t.call.dataPhase) ≤ 1 := by
  refine (served_run vendor served run).countP_le ?_
  have untraced (isHandled : Bool) : (do
      traceSerial s.bRequest s.wValue s.wIndex
      return isHandled : Fw Bool).AtMost Call.dataPhase 0 := by
    simp
  exact (vendorCommand_oneDataPhase s _).bind untraced

theorem served_receives (vendor : s.bType = cyU3PUsbVendorRqt) (served : s.refused = false)
    (run : Runs sdk (setupRequest s) w tr handled w') :
    ∀ t ∈ tr, ∀ count, t.call = .usbGetEP0Data count → count = s.wLength := by
  have receives : Receives s.wLength (do
      let isHandled ← vendorCommand s (FX3Command.ofCode? s.bRequest)
      traceSerial s.bRequest s.wValue s.wIndex
      return isHandled) := by
    simp [vendorCommand_receives]
  exact (served_run vendor served run).calls receives

/-- A packet that is served has the direction the table gives its command. -/
theorem served_direction (served : s.refused = false) {c : FX3Command}
    (known : FX3Command.ofCode? s.bRequest = some c) {back : Bool}
    (expect : c.expectIn? = some back) : s.hostIn = back := by
  have direction := (Bool.or_eq_false_iff.mp served).2
  simpa [Setup.refused, Setup.directionMismatch, known, expect] using direction

end Served

/-- The direction of a data phase that is made is the one the host announced. -/
theorem served_dataOut {s : Setup} (served : s.refused = false)
    (h : .dataOut ∈ commandKinds (FX3Command.ofCode? s.bRequest)) : s.hostIn = false := by
  cases known : FX3Command.ofCode? s.bRequest with
  | none => simp [known, commandKinds] at h
  | some c =>
      rw [known] at h
      exact served_direction served known ((expectIn_commandKinds c).2.mp h)

theorem served_dataIn {s : Setup} (served : s.refused = false)
    (h : .dataIn ∈ commandKinds (FX3Command.ofCode? s.bRequest)) : s.hostIn = true := by
  cases known : FX3Command.ofCode? s.bRequest with
  | none => simp [known, commandKinds] at h
  | some c =>
      rw [known] at h
      exact served_direction served known ((expectIn_commandKinds c).1.mp h)

/-- An unknown request is stalled, whether it is refused or dispatched. -/
theorem unknown_stalls {s : Setup} (vendor : s.bType = cyU3PUsbVendorRqt)
    (unknown : FX3Command.ofCode? s.bRequest = none) {w w' : World} {tr : List FwCall}
    {handled : Bool} (run : Runs sdk (setupRequest s) w tr handled w') :
    .usbStall 0 true false ∈ tr.map (·.call) := by
  cases refused : s.refused with
  | true =>
      rw [(refused_run vendor refused run).1]
      exact List.mem_singleton.mpr rfl
  | false =>
      have dispatched := served_run vendor refused run
      rw [unknown] at dispatched
      obtain ⟨tr₁, isHandled, w₁, tr₂, rfl, runs, -⟩ := dispatched.split
      have stalls : (unknownRequest s).Ensures sdk
          (fun tr _ _ => .usbStall 0 true false ∈ tr.map (·.call)) w :=
        fun _ _ _ _ => List.mem_cons_of_mem _ List.mem_cons_self
      rw [List.map_append]
      exact List.mem_append_left _ (runs.ensures stalls)

/-- Whatever the packet, the state and the answers, a vendor request keeps the discipline. -/
theorem ep0_discipline {setupdat0 setupdat1 : UInt32} {w w' : World} {tr : List FwCall}
    {handled : Bool} (vendor : (Setup.decode setupdat0 setupdat1).bType = cyU3PUsbVendorRqt)
    (run : Runs sdk (cyFxSlFifoApplnUSBSetupCB setupdat0 setupdat1) w tr handled w') :
    Ep0Discipline (Setup.decode setupdat0 setupdat1) w tr handled w' := by
  obtain ⟨now, served, w₁, rfl, serves, rfl⟩ := callback_split run
  generalize Setup.decode setupdat0 setupdat1 = s at *
  have entered : Runs sdk (do healthRecordEvent .ep0HandlerEnter; setupRequest s) w
      (⟨w, .getTime, now⟩ :: served) handled w₁ := .call now trivial (.write (.write serves))
  have leaves : Runs sdk (healthRecordEvent .ep0HandlerExit) w₁ [] () (World.exited w₁) :=
    .write .ret
  cases refused : s.refused with
  | true =>
      obtain ⟨calls, rfl⟩ := refused_run vendor refused serves
      obtain ⟨t, rfl, call⟩ := List.map_eq_singleton_iff.mp calls
      exact {
        out := by simp [call]
        back := by simp [call]
        once := by simp [call, Call.dataPhase]
        refused := fun _ => ⟨by simp [call], rfl, by
          constructor <;> first | exact fun _ => rfl | simp [World.exited]⟩
        unknown := fun _ => by simp [call]
        exits := ⟨_, entered, leaves⟩
        idle := rfl }
  | false =>
      have kinds := served_kinds vendor refused serves
      have short : s.wLength.toNat ≤ cyfxSdrappMaxEp0len := by
        have fits := of_decide_eq_false (Bool.or_eq_false_iff.mp refused).1
        exact Nat.le_of_not_lt fun long => fits (UInt16.lt_iff_toNat_lt.mpr long)
      exact {
        out := by
          intro t ht count same
          rcases List.mem_cons.mp ht with rfl | ht
          · cases same
          · have kind := kinds t ht
            rw [same] at kind
            rw [served_receives vendor refused serves t ht count same]
            exact ⟨served_dataOut refused (by simpa [Call.kind] using kind), short⟩
        back := by
          intro t ht bytes same
          rcases List.mem_cons.mp ht with rfl | ht
          · cases same
          · have kind := kinds t ht
            rw [same] at kind
            exact served_dataIn refused (by simpa [Call.kind] using kind)
        once := by
          rw [List.countP_cons]
          exact served_once vendor refused serves
        refused := fun yes => by simp [refused] at yes
        unknown := fun unknown => by
          rw [List.map_cons]
          exact List.mem_cons_of_mem _ (unknown_stalls vendor unknown serves)
        exits := ⟨w₁, entered, leaves⟩
        idle := rfl }

def requestRun (b : Bench) (setupdat0 setupdat1 : UInt32) (w : World) :
    List FwCall × Bool × World :=
  (cyFxSlFifoApplnUSBSetupCB setupdat0 setupdat1).exec sdk b.answer 0 w

theorem requestRun_runs (b : Bench) (setupdat0 setupdat1 : UInt32) (w : World) :
    Runs sdk (cyFxSlFifoApplnUSBSetupCB setupdat0 setupdat1) w
      (requestRun b setupdat0 setupdat1 w).1 (requestRun b setupdat0 setupdat1 w).2.1
      (requestRun b setupdat0 setupdat1 w).2.2 :=
  exec_runs sdk b.answer 0 _ w (exec_allowed b.allowed 0 _ w)

/-- A host that reads a command meant to be written to, after a boot. -/
theorem ep0_discipline_wrongWay :
    Ep0Discipline (Setup.decode 0x0000ADC0 0x00040000) (benchRun []).2
      (requestRun Bench.idle 0x0000ADC0 0x00040000 (benchRun []).2).1
      (requestRun Bench.idle 0x0000ADC0 0x00040000 (benchRun []).2).2.1
      (requestRun Bench.idle 0x0000ADC0 0x00040000 (benchRun []).2).2.2 :=
  ep0_discipline (by decide) (requestRun_runs _ _ _ _)

end Rx888
