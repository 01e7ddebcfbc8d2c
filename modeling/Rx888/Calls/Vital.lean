import Rx888.Calls.Kind

/-! # The vital calls

The calls about the port, the state machine, the DMA channel and the endpoint, in the order a
run makes them. The application's functions make the same ones whatever they are answered;
`Spells` carries that through a function's text.
-/

namespace Rx888

open CallProgram

attribute [local simp] Call.kind

def Call.vital : Call → Bool
  | .deviceInit | .pibInit | .pibDeInit | .gpifLoad | .gpifSMStart _ _ | .gpifDisable _
  | .gpifControlSWInput _ | .gpifGetSMState | .dmaMultiChannelCreate
  | .dmaMultiChannelSetXfer _ _ | .dmaMultiChannelReset | .dmaMultiChannelDestroy
  | .setEpConfig _ _ => true
  | _ => false

def vitalCalls (tr : List FwCall) : List Call := (tr.map fun t => t.call).filter Call.vital

@[simp] theorem vitalCalls_nil : vitalCalls [] = [] := rfl

@[simp] theorem vitalCalls_append (tr tr' : List FwCall) :
    vitalCalls (tr ++ tr') = vitalCalls tr ++ vitalCalls tr' := by
  simp [vitalCalls]

theorem vitalCalls_cons (t : FwCall) (tr : List FwCall) :
    vitalCalls (t :: tr) = if t.call.vital then t.call :: vitalCalls tr else vitalCalls tr := by
  simp [vitalCalls, List.filter_cons]

theorem vitalCalls_eq_nil {tr : List FwCall} (h : ∀ t ∈ tr, t.call.vital = false) :
    vitalCalls tr = [] := by
  simpa [vitalCalls] using h

/-! ## Views of the chip -/

/-- What the vital calls make of a part of the chip, while their answers are `ok`. -/
structure ChipView (σ : Type) where
  of : Hw → σ
  after : σ → Call → σ
  ok : (c : Call) → c.Ans → Prop
  follows : ∀ hw c r, ok c r → of (hw.after c r) = after (of hw) c
  plain : ∀ x c, c.vital = false → after x c = x

namespace ChipView

variable {σ α : Type} (V : ChipView σ) {p : Fw α} {w w' : World} {tr : List FwCall} {a : α}

theorem run (runs : Runs sdk p w tr a w') (ok : ∀ t ∈ tr, V.ok t.call t.ans) :
    V.of w'.env = (vitalCalls tr).foldl V.after (V.of w.env) := by
  induction runs with
  | ret => rfl
  | read _ ih => exact ih ok
  | write _ ih => exact ih ok
  | @call c k w w' tr a r _ _ ih =>
      obtain ⟨first, rest⟩ := List.forall_mem_cons.mp ok
      have later : V.of w'.env = (vitalCalls tr).foldl V.after (V.of (w.env.after c r)) := ih rest
      rw [later, V.follows _ _ _ first, vitalCalls_cons]
      by_cases vital : c.vital = true
      · rw [if_pos vital]
        rfl
      · rw [if_neg vital, V.plain _ _ (Bool.eq_false_iff.mpr vital)]

/-- Each call passes the check in the state it is made in. -/
def along (check : σ → Call → Bool) : σ → List Call → Bool
  | _, [] => true
  | x, c :: cs => check x c && along check (V.after x c) cs

/-- A check that only the vital calls can fail holds of a run's calls when it holds along
them. -/
theorem along_run {check : σ → Call → Bool} (passes : ∀ x c, c.vital = false → check x c = true)
    (runs : Runs sdk p w tr a w') (ok : ∀ t ∈ tr, V.ok t.call t.ans)
    (holds : V.along check (V.of w.env) (vitalCalls tr) = true) :
    ∀ t ∈ tr, check (V.of t.before.env) t.call = true := by
  induction runs with
  | ret => simp
  | read _ ih => exact ih ok holds
  | write _ ih => exact ih ok holds
  | @call c k w w' tr a r _ _ ih =>
      obtain ⟨first, rest⟩ := List.forall_mem_cons.mp ok
      have moved : V.of (sdk.exec w c r).env = V.after (V.of w.env) c := V.follows _ _ _ first
      rw [vitalCalls_cons] at holds
      by_cases vital : c.vital = true
      · rw [if_pos vital] at holds
        simp only [along, Bool.and_eq_true] at holds
        refine List.forall_mem_cons.mpr ⟨holds.1, ih rest ?_⟩
        rw [moved]
        exact holds.2
      · have vital := Bool.eq_false_iff.mpr vital
        rw [if_neg (by simp [vital])] at holds
        refine List.forall_mem_cons.mpr ⟨passes _ _ vital, ih rest ?_⟩
        rw [moved, V.plain _ _ vital]
        exact holds

end ChipView

/-! ## The calls a program spells -/

/-- From a flag `up`, every run of the program ends in `Q`, which is about its vital calls, the
value returned and the flag. -/
def Spells {α : Type} (p : Fw α) (Q : List Call → α → Bool → Prop) (up : Bool) : Prop :=
  ∀ w tr a w', Runs sdk p w tr a w' → w.mem.app.glIsApplnActive = up →
    Q (vitalCalls tr) a w'.mem.app.glIsApplnActive

/-! ## Harmless functions -/

abbrev harmlessKinds : List Kind :=
  [.setup, .reset, .time, .sleep, .queue, .interrupts, .text, .speed, .ack, .stall, .dataOut,
    .dataIn, .lpm, .i2cRead, .i2cWrite, .i2cError, .gpio, .gpioRead]

abbrev harmlessParts : List Part :=
  [.ep0, .session, .health, .hooks, .pib, .console, .usb, .buffers, .qevent, .counter]

/-- No vital calls, and the flag is left alone. -/
structure Harmless {α : Type} (p : Fw α) : Prop where
  makes : Makes harmlessKinds p
  confined : Confined harmlessParts p

theorem harmless_vital {c : Call} (harmless : c.kind ∈ harmlessKinds) : c.vital = false := by
  cases c <;> first | rfl | simp at harmless

theorem Harmless.run {α : Type} {p : Fw α} {w w' : World} {tr : List FwCall} {a : α}
    (h : Harmless p) (run : Runs sdk p w tr a w') :
    vitalCalls tr = [] ∧ w'.mem.app.glIsApplnActive = w.mem.app.glIsApplnActive := by
  have app := run.frame (fun s => s.mem.app = w.mem.app) h.confined
    (fun f s writes same => ((writes s.mem).app (by simp)).trans same)
    (fun s c r _ _ same => ((memAfter_unchanged s.mem c r).app (by simp)).trans same) rfl
  refine ⟨vitalCalls_eq_nil fun t made => ?_, congrArg AppRam.glIsApplnActive app⟩
  exact harmless_vital (run.calls h.makes t made)

section Rules

variable {α β : Type} {p : Fw α} {f : α → Fw β} {up : Bool}
variable {Q : List Call → β → Bool → Prop} {R R' : List Call → α → Bool → Prop}

theorem Spells.mono (hp : Spells p R up) (le : ∀ cs a up', R cs a up' → R' cs a up') :
    Spells p R' up :=
  fun w tr a w' run flag => le _ _ _ (hp w tr a w' run flag)

theorem Spells.bind (hp : Spells p R up)
    (hf : ∀ cs a up', R cs a up' → Spells (f a) (fun cs' => Q (cs ++ cs')) up') :
    Spells (p >>= f) Q up := by
  intro w tr b w' run flag
  obtain ⟨tr₁, a, w₁, tr₂, rfl, first, rest⟩ := run.split
  rw [vitalCalls_append]
  exact hf _ a _ (hp w tr₁ a w₁ first flag) w₁ tr₂ b w' rest rfl

theorem Harmless.spells (h : Harmless p) (done : ∀ a, R [] a up) : Spells p R up := by
  intro w tr a w' run flag
  obtain ⟨none, same⟩ := h.run run
  rw [none, same, flag]
  exact done a

theorem Harmless.bind (h : Harmless p) (rest : ∀ a, Spells (f a) Q up) : Spells (p >>= f) Q up := by
  have first : Spells p (fun cs _ up' => cs = [] ∧ up' = up) up := h.spells fun _ => ⟨rfl, rfl⟩
  refine first.bind fun cs a up' none => ?_
  obtain ⟨rfl, rfl⟩ := none
  exact rest a

theorem spells_pure {a : α} (h : R [] a up) : Spells (pure a) R up := by
  intro w tr b w' run flag
  cases run
  rw [flag]
  exact h

theorem spells_call_bind {c : Call} {f : c.Ans → Fw β}
    (rest : ∀ r, Spells (f r) (fun cs => Q (if c.vital then c :: cs else cs)) up) :
    Spells (call c >>= f) Q up := by
  intro w tr b w' run flag
  cases run with
  | call r allowed run =>
      have app : (memAfter w.mem c r).app = w.mem.app :=
        (memAfter_unchanged w.mem c r).app (by simp)
      rw [vitalCalls_cons]
      refine rest r _ _ _ _ run ?_
      rw [← flag]
      exact congrArg AppRam.glIsApplnActive app

theorem spells_void_bind {c : Call} {f : Unit → Fw β}
    (rest : Spells (f ()) (fun cs => Q (if c.vital then c :: cs else cs)) up) :
    Spells (void c >>= f) Q up :=
  spells_call_bind (f := fun _ => f ()) fun _ => rest

theorem spells_active {p q : Fw β} (rest : Spells (if up = true then p else q) Q up) :
    Spells (ram >>= fun m => if m.app.glIsApplnActive = true then p else q) Q up := by
  intro w tr b w' run flag
  rw [← flag] at rest
  cases run with
  | read run => exact rest w tr b w' run rfl

theorem spells_modify {g : Ram → Ram} {Q : List Call → Unit → Bool → Prop}
    (h : ∀ m, m.app.glIsApplnActive = up → Q [] () (g m).app.glIsApplnActive) :
    Spells (modify g) Q up := by
  intro w tr b w' run flag
  cases run with
  | write run =>
      cases run
      exact h w.mem flag

end Rules

/-! ## The application's functions -/

theorem debugPrint_harmless (fmt : String) (args : List DebugArg) :
    Harmless (debugPrint fmt args) :=
  ⟨by simp, by simp⟩

theorem checkStatus_harmless (name : String) (status : ReturnStatus) :
    Harmless (checkStatus name status) :=
  ⟨by simp, by simp⟩

def startGPIFCalls : List Call := [.gpifLoad, .gpifSMStart 0 0]

def startCalls : List Call :=
  [.pibInit, .setEpConfig cyFxEpConsumer true, .dmaMultiChannelCreate,
    .dmaMultiChannelSetXfer fifoDmaRxSize 0] ++ startGPIFCalls

def stopCalls : List Call :=
  [.gpifDisable true, .pibDeInit, .dmaMultiChannelDestroy, .setEpConfig cyFxEpConsumer false]

theorem startGPIF_spells (up : Bool) :
    Spells startGPIF (fun cs _ up' => cs = startGPIFCalls ∧ up' = up) up := by
  have rearm : Harmless (modifyPib fun s => { s with glPibNotified := false }) :=
    ⟨by simp, by simp⟩
  unfold startGPIF
  refine rearm.bind fun _ => ?_
  refine (debugPrint_harmless _ _).bind fun _ => ?_
  refine spells_call_bind fun status => ?_
  refine (checkStatus_harmless _ _).bind fun _ => ?_
  exact spells_call_bind fun status => spells_pure ⟨rfl, rfl⟩

theorem startApplication_spells (up : Bool) :
    Spells startApplication (fun cs _ up' => cs = startCalls ∧ up' = true) up := by
  have clear : Harmless clearStreamCounters := ⟨by simp, by simp⟩
  unfold startApplication
  refine spells_call_bind fun usbSpeed => ?_
  refine (debugPrint_harmless _ _).bind fun _ => ?_
  refine spells_call_bind fun status => ?_
  refine (checkStatus_harmless _ _).bind fun _ => ?_
  refine clear.bind fun _ => ?_
  refine spells_call_bind fun status => ?_
  refine (checkStatus_harmless _ _).bind fun _ => ?_
  refine spells_void_bind ?_
  refine spells_call_bind fun status => ?_
  refine (checkStatus_harmless _ _).bind fun _ => ?_
  refine spells_call_bind fun status => ?_
  refine (checkStatus_harmless _ _).bind fun _ => ?_
  refine spells_void_bind ?_
  refine (startGPIF_spells up).bind fun cs status up' started => ?_
  obtain ⟨rfl, -⟩ := started
  refine (checkStatus_harmless _ _).bind fun _ => ?_
  exact spells_modify fun _ _ => ⟨rfl, rfl⟩

theorem stopApplication_spells (up : Bool) :
    Spells stopApplication (fun cs _ up' => cs = stopCalls ∧ up' = false) up := by
  have park : Harmless (rx888r2AdcStandby true) :=
    ⟨by simp, by simp [rx888r2AdcStandby, gpioSetValue]⟩
  unfold stopApplication
  refine spells_void_bind ?_
  refine spells_call_bind fun status => ?_
  refine (checkStatus_harmless _ _).bind fun _ => ?_
  refine spells_call_bind fun status => ?_
  refine (checkStatus_harmless _ _).bind fun _ => ?_
  refine spells_call_bind fun status => ?_
  refine (checkStatus_harmless _ _).bind fun _ => ?_
  refine spells_call_bind fun status => ?_
  refine (checkStatus_harmless _ _).bind fun _ => ?_
  refine park.bind fun _ => ?_
  exact spells_modify fun _ _ => ⟨rfl, rfl⟩

/-- How the application gets on: by the flag before, the vital calls and the flag after. -/
inductive AppMoves (up : Bool) : List Call → Bool → Prop where
  | stays : AppMoves up [] up
  | stops (was : up = true) : AppMoves up stopCalls false
  | starts (was : up = false) : AppMoves up startCalls true
  | restarts (was : up = true) : AppMoves up (stopCalls ++ startCalls) true

/-- What is there is stopped before it is started again. -/
theorem restart_spells {α : Type} {start : Fw α} (up : Bool)
    (starts : Spells start (fun cs _ up' => cs = startCalls ∧ up' = true) false) :
    Spells (do
      if (← ram).app.glIsApplnActive then
        stopApplication
      start) (fun cs _ up' => AppMoves up cs up' ∧ up' = true) up := by
  refine spells_active ?_
  cases up with
  | true =>
      refine (stopApplication_spells true).bind fun cs _ up' stopped => ?_
      obtain ⟨rfl, rfl⟩ := stopped
      refine starts.mono fun cs _ up' started => ?_
      obtain ⟨rfl, rfl⟩ := started
      exact ⟨.restarts rfl, rfl⟩
  | false =>
      refine starts.mono fun cs _ up' started => ?_
      obtain ⟨rfl, rfl⟩ := started
      exact ⟨.starts rfl, rfl⟩

/-- What an event leaves of the flag. -/
def eventLeaves (evtype : UInt8) (up : Bool) : Bool :=
  if evtype = cyU3PUsbEventSetconf then true
  else if evtype = cyU3PUsbEventReset ∨ evtype = cyU3PUsbEventDisconnect then false
  else up

/-- An event moves the application: a configuration leaves it active, a reset or a disconnect
inactive, and any other event as it was. -/
theorem usbEventCallback_spells (evtype : UInt8) (evdata : UInt16) (up : Bool) :
    Spells (usbEventCallback evtype evdata) (fun cs _ up' => AppMoves up cs up' ∧
      up' = eventLeaves evtype up) up := by
  have post : Harmless (void (.queueSend evtype.toUInt32)) :=
    ⟨by simp, by simp⟩
  have underrun : Harmless (do
      countUp 2
      debugPrint "\r\nEP Underrun on %d" [.num evdata.toUInt32]) :=
    ⟨by simp, by simp⟩
  unfold usbEventCallback eventLeaves
  refine post.bind fun _ => ?_
  split
  next => exact restart_spells up (startApplication_spells false)
  next =>
    split
    next =>
      refine spells_active ?_
      cases up with
      | true =>
          refine (stopApplication_spells true).bind fun cs _ up' stopped => ?_
          obtain ⟨rfl, rfl⟩ := stopped
          exact spells_call_bind (f := fun _ => pure ()) fun _ => spells_pure ⟨.stops rfl, rfl⟩
      | false => exact spells_pure ⟨.stays, rfl⟩
    next =>
      split
      next => exact underrun.spells fun _ => ⟨.stays, rfl⟩
      next => exact spells_pure ⟨.stays, rfl⟩

/-! ## The enumeration and the boot -/

theorem setUSBdescriptors_harmless : Harmless setUSBdescriptors := by
  have each (descrs : List String) (overall : ReturnStatus) :
      Harmless (setDescriptors descrs overall) := by
    induction descrs generalizing overall with
    | nil => exact ⟨trivial, trivial⟩
    | cons descr rest ih =>
        constructor
        · simp [setDescriptors, call, fun overall => (ih overall).makes]
        · simp [setDescriptors, call, fun overall => (ih overall).confined]
  constructor
  · simp [setUSBdescriptors, call, fun descrs overall => (each descrs overall).makes]
  · simp [setUSBdescriptors, call, fun descrs overall => (each descrs overall).confined]

/-- An enumeration is left to the host, or the application is started at once. -/
theorem initializeUSB_spells (up : Bool) :
    Spells initializeUSB (fun cs _ up' => AppMoves up cs up') up := by
  have driver : Harmless startUSBDriver :=
    ⟨by simp [startUSBDriver, call], by simp [startUSBDriver, call]⟩
  have callbacks : Harmless (void .usbRegisterCallbacks) := ⟨by simp, by simp⟩
  unfold initializeUSB
  refine driver.bind fun needToRenumerate => ?_
  refine callbacks.bind fun _ => ?_
  refine setUSBdescriptors_harmless.bind fun status => ?_
  refine (checkStatus_harmless _ _).bind fun _ => ?_
  cases needToRenumerate with
  | true =>
      refine spells_call_bind fun status => ?_
      refine (checkStatus_harmless _ _).bind fun _ => ?_
      exact spells_pure .stays
  | false =>
      have starts : Spells (startApplication >>= fun _ => pure status)
          (fun cs _ up' => cs = startCalls ∧ up' = true) false := by
        refine (startApplication_spells false).bind fun cs _ up' started => spells_pure ?_
        rw [List.append_nil]
        exact started
      exact (restart_spells up starts).mono fun cs _ up' moved => moved.1

def bootBeforeUSB : Fw Unit := do
  void .deviceInit
  modify fun _ => Ram.init
  cyFxApplicationDefine
  modifyApp fun a => { a with glHWconfig := rx888r2 }
  gpioInitClock
  initClock
  debugPrint "HWconfig: %d." [.num (← ram).app.glHWconfig.toUInt32]
  rx888r2GpioInitialize

def reportUSB (input : UInt32) (status : ReturnStatus) : Fw Unit := do
  checkStatus "Initialize USB" status
  if status = cyU3PSuccess then
    debugPrint "\r\nApplication started with %d" [.num input]
  else
    debugPrint "\r\nApplication failed to initialize. Error code: %d.\r\n" [.num status]

/-- Nothing of the boot is left out. -/
theorem boot_eq : boot = bootBeforeUSB >>= fun _ => initializeUSB >>= reportUSB 0 := by
  simp only [boot, applicationThreadStart, bootBeforeUSB, bind_assoc]
  rfl

theorem writeRegisters_makes (regs : List (UInt8 × UInt8)) :
    Makes [.i2cWrite] (writeRegisters regs) := by
  induction regs with
  | nil => exact makes_pure _
  | cons entry rest ih => simp [writeRegisters, ih]

theorem confOutputs_harmless (pins : List UInt8) : Harmless (confOutputs pins) := by
  induction pins with
  | nil => exact ⟨trivial, trivial⟩
  | cons pin rest ih =>
      constructor
      · simp [confOutputs, confGpioSimpleOut, ih.makes, call]
      · simp [confOutputs, confGpioSimpleOut, ih.confined, call]

theorem bootBeforeUSB_spells (up : Bool) :
    Spells bootBeforeUSB (fun cs _ up' => cs = [.deviceInit] ∧ up' = false) up := by
  have define : Harmless cyFxApplicationDefine := by
    constructor
    · simp [cyFxApplicationDefine, initializeDebugConsole, healthInit, call]
    · simp [cyFxApplicationDefine, initializeDebugConsole, call]
  have clock : Harmless gpioInitClock :=
    ⟨by simp [gpioInitClock, call], by simp [gpioInitClock, call]⟩
  have registers : Makes harmlessKinds si5351Init := (writeRegisters_makes _).mono (by simp)
  have chip : Harmless initClock :=
    ⟨by simp [initClock, i2cInit, registers, call], by simp [initClock]⟩
  have levels : Harmless rx888r2GpioInitialize := by
    constructor
    · simp [rx888r2GpioInitialize, (confOutputs_harmless _).makes]
    · simp [rx888r2GpioInitialize, (confOutputs_harmless _).confined, rx888r2GpioSet,
        rx888r2AdcStandby, gpioSetValue]
  have radio : Harmless (do
      debugPrint "HWconfig: %d." [.num (← ram).app.glHWconfig.toUInt32]
      rx888r2GpioInitialize) :=
    ⟨by simp [levels.makes], by simp [levels.confined]⟩
  have statics : Spells (modify fun _ => Ram.init) (fun cs _ up' => cs = [] ∧ up' = false) up :=
    spells_modify fun _ _ => ⟨rfl, rfl⟩
  have model : Spells (modifyApp fun a => { a with glHWconfig := rx888r2 })
      (fun cs _ up' => cs = [] ∧ up' = false) false :=
    spells_modify fun _ flag => ⟨rfl, flag⟩
  unfold bootBeforeUSB
  refine spells_void_bind ?_
  refine statics.bind fun cs _ up' cleared => ?_
  obtain ⟨rfl, rfl⟩ := cleared
  refine define.bind fun _ => ?_
  refine model.bind fun cs _ up' set => ?_
  obtain ⟨rfl, rfl⟩ := set
  refine clock.bind fun _ => ?_
  refine chip.bind fun _ => ?_
  exact radio.spells fun _ => ⟨rfl, rfl⟩

theorem reportUSB_harmless (input : UInt32) (status : ReturnStatus) :
    Harmless (reportUSB input status) :=
  ⟨by simp [reportUSB], by simp [reportUSB]⟩

theorem boot_spells (up : Bool) :
    Spells boot (fun cs _ up' => ∃ moved, AppMoves false moved up' ∧ cs = .deviceInit :: moved)
      up := by
  rw [boot_eq]
  refine (bootBeforeUSB_spells up).bind fun cs _ up' reset => ?_
  obtain ⟨rfl, rfl⟩ := reset
  refine (initializeUSB_spells false).bind fun cs status up' moved => ?_
  refine (reportUSB_harmless 0 status).spells fun _ => ⟨cs, moved, ?_⟩
  rw [List.append_nil]
  rfl

end Rx888
