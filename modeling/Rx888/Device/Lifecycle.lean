import Rx888.Calls.Vital
import Rx888.Device.Standby

/-! # The life of the application

`StartApplication` and `StopApplication` are reached from the enumeration and from three USB
events. While the calls succeed, the resources of the stream come and go with the application's
flag, whatever the order of the events.
-/

namespace Rx888

open CallProgram

structure Plant where
  pib : Bool
  dma : Bool
  loaded : Bool
  running : Bool
  endpoint : Bool
  deriving DecidableEq, Repr

def Plant.of (up : Bool) : Plant := ⟨up, up, up, up, up⟩

def Hw.plant (hw : Hw) : Plant where
  pib := hw.pibOn
  dma := hw.dmaChannel
  loaded := hw.gpifLoaded
  running := hw.smRunning
  endpoint := hw.epEnabled

/-- What a successful call makes of it. -/
def Plant.after (p : Plant) : Call → Plant
  | .deviceInit => Plant.of false
  | .pibInit => { p with pib := true }
  | .pibDeInit => { p with pib := false }
  | .gpifLoad => { p with loaded := true }
  | .gpifSMStart _ _ => { p with running := true }
  | .gpifDisable forceReload => { p with running := false, loaded := p.loaded && !forceReload }
  | .dmaMultiChannelCreate => { p with dma := true }
  | .dmaMultiChannelDestroy => { p with dma := false }
  | .setEpConfig _ enable => { p with endpoint := enable }
  | _ => p

/-- The chip follows while the calls succeed. -/
def plantView : ChipView Plant where
  of := Hw.plant
  after := Plant.after
  ok c r := c.succeeds r = true
  follows hw c r ok := by
    cases c with
    | gpifSMStart stateIndex initialAlpha =>
        have started : r = cyU3PSuccess := by simpa [Call.succeeds] using ok
        simp [Hw.plant, Hw.after, Plant.after, started]
    | gpioSetSimpleConfig pin level =>
        simp only [Hw.after]
        split <;> rfl
    | gpioSetValue pin level =>
        simp only [Hw.after]
        split <;> rfl
    | _ => rfl
  plain p c h := by
    cases c <;> first | rfl | cases h

/-- The application's functions bring all of it up or down. -/
theorem AppMoves.plant {up up' : Bool} {cs : List Call} (h : AppMoves up cs up') :
    cs.foldl Plant.after (Plant.of up) = Plant.of up' := by
  cases h with
  | stays => rfl
  | stops was => rw [was]; rfl
  | starts was => rw [was]; rfl
  | restarts was => rw [was]; rfl

/-! ## Creation and destruction in turn -/

inductive Resource where
  | pib
  | dma
  deriving DecidableEq, Repr

/-- Whether the resource is there after a call: neither a second creation nor the destruction of
what is absent is accepted. The chip's reset leaves nothing. -/
def Resource.after (r : Resource) (there : Bool) (c : Call) : Option Bool :=
  match r, c with
  | _, .deviceInit => some false
  | .pib, .pibInit | .dma, .dmaMultiChannelCreate => if there then none else some true
  | .pib, .pibDeInit | .dma, .dmaMultiChannelDestroy => if there then some false else none
  | _, _ => some there

/-- `after` along the calls. -/
def Resource.follow (r : Resource) (there : Bool) (calls : List Call) : Option Bool :=
  calls.foldlM r.after there

theorem Resource.follow_append (r : Resource) (there : Bool) (calls calls' : List Call) :
    r.follow there (calls ++ calls') = r.follow there calls >>= fun there' =>
      r.follow there' calls' :=
  List.foldlM_append

/-- The other calls neither create nor destroy. -/
theorem Resource.follow_vital (r : Resource) (there : Bool) (tr : List FwCall) :
    r.follow there (tr.map fun t => t.call) = r.follow there (vitalCalls tr) := by
  have plain (there : Bool) {c : Call} (h : c.vital = false) : r.after there c = some there := by
    cases r <;> cases c <;> first | rfl | cases h
  induction tr generalizing there with
  | nil => rfl
  | cons t tr ih =>
      have rest : (fun there' => r.follow there' (tr.map fun t => t.call)) =
          fun there' => r.follow there' (vitalCalls tr) := funext ih
      rw [vitalCalls_cons]
      by_cases vital : t.call.vital = true
      · rw [if_pos vital]
        show (r.after there t.call >>= fun there' => r.follow there' _) = _
        rw [rest]
        rfl
      · rw [if_neg vital, ← ih]
        show (r.after there t.call >>= fun there' => r.follow there' _) = _
        rw [plain there (Bool.eq_false_iff.mpr vital)]
        rfl

/-- The application's functions create what is absent and destroy what is there. -/
theorem AppMoves.follow {up up' : Bool} {cs : List Call} (h : AppMoves up cs up')
    (r : Resource) : r.follow up cs = some up' := by
  cases h with
  | stays => rfl
  | stops was => rw [was]; cases r <;> rfl
  | starts was => rw [was]; cases r <;> rfl
  | restarts was => rw [was]; cases r <;> rfl

/-! ## Runs -/

inductive LifeAct where
  | boot
  | initializeUSB
  | usbEvent (evtype : UInt8) (evdata : UInt16)
  deriving DecidableEq, Repr

/-- A boot, and then enumerations and events in any order. -/
def lifecycle : System Ram Hw Call.Ans where
  Act := LifeAct
  prog
    | .boot => bootBeforeUSB
    | .initializeUSB => do
        let status ← initializeUSB
        reportUSB 0 status
    | .usbEvent evtype evdata => usbEventCallback evtype evdata
  env := sdk
  starts a := a = .boot

/-- The resources of the stream are there just when the application is active. -/
structure InStep (w : World) : Prop where
  dma : w.env.dmaChannel = true ↔ w.mem.app.glIsApplnActive = true
  pib : w.env.pibOn = true ↔ w.mem.app.glIsApplnActive = true
  loaded : w.env.gpifLoaded = true ↔ w.mem.app.glIsApplnActive = true
  running : w.env.smRunning = true ↔ w.mem.app.glIsApplnActive = true
  endpoint : w.env.epEnabled = true ↔ w.mem.app.glIsApplnActive = true

theorem InStep.of_plant {w : World}
    (h : w.env.plant = Plant.of w.mem.app.glIsApplnActive) : InStep w := by
  constructor
  · exact iff_of_eq (congrArg (Plant.dma · = true) h)
  · exact iff_of_eq (congrArg (Plant.pib · = true) h)
  · exact iff_of_eq (congrArg (Plant.loaded · = true) h)
  · exact iff_of_eq (congrArg (Plant.running · = true) h)
  · exact iff_of_eq (congrArg (Plant.endpoint · = true) h)

def LifeStep.succeeded (t : lifecycle.Step) : Prop := ∀ c ∈ t.trace, c.call.succeeds c.ans = true

instance (t : lifecycle.Step) : Decidable (LifeStep.succeeded t) :=
  inferInstanceAs (Decidable (∀ c ∈ t.trace, c.call.succeeds c.ans = true))

def callsOf (steps : List lifecycle.Step) : List Call :=
  steps.flatMap fun t => t.trace.map fun c => c.call

/-- A step that resets the chip or moves the application. -/
theorem act_spells (a : LifeAct) (up : Bool) :
    Spells (lifecycle.prog a) (fun cs _ up' =>
      a = .boot ∧ cs = [.deviceInit] ∧ up' = false ∨ a ≠ .boot ∧ AppMoves up cs up') up := by
  cases a with
  | boot => exact (bootBeforeUSB_spells up).mono fun _ _ _ reset => .inl ⟨rfl, reset⟩
  | initializeUSB =>
      refine (initializeUSB_spells up).bind fun cs status up' moved => ?_
      refine (reportUSB_harmless 0 status).spells fun _ => .inr ⟨by simp, ?_⟩
      rw [List.append_nil]
      exact moved
  | usbEvent evtype evdata =>
      exact (usbEventCallback_spells evtype evdata up).mono fun _ _ _ moved =>
        .inr ⟨by simp, moved.1⟩

/-- A boot clears everything, and any other step keeps what is there in step. -/
theorem step_inStep (r : Resource) (there : Bool) {t : lifecycle.Step}
    (ok : LifeStep.succeeded t)
    (before : t.act ≠ .boot → there = t.before.mem.app.glIsApplnActive ∧
      t.before.env.plant = Plant.of t.before.mem.app.glIsApplnActive) :
    t.after.env.plant = Plant.of t.after.mem.app.glIsApplnActive ∧
      r.follow there (t.trace.map fun c => c.call) = some t.after.mem.app.glIsApplnActive := by
  have spelled := act_spells t.act _ _ _ _ _ t.runs rfl
  have plant : t.after.env.plant = (vitalCalls t.trace).foldl Plant.after t.before.env.plant :=
    plantView.run t.runs ok
  rw [plant, r.follow_vital]
  rcases spelled with ⟨-, calls, down⟩ | ⟨later, moved⟩
  · rw [calls, down]
    exact ⟨rfl, by cases r <;> rfl⟩
  · obtain ⟨rfl, plant⟩ := before later
    rw [plant]
    exact ⟨moved.plant, moved.follow r⟩

theorem run_inStep (r : Resource) {steps : List lifecycle.Step} {w : World}
    (run : lifecycle.Run steps w) (ok : ∀ t ∈ steps, LifeStep.succeeded t) :
    w.env.plant = Plant.of w.mem.app.glIsApplnActive ∧
      r.follow false (callsOf steps) = some w.mem.app.glIsApplnActive ∧
      ∀ t ∈ steps, InStep t.after := by
  induction run with
  | start t first =>
      obtain ⟨plant, followed⟩ := step_inStep r false (ok t (by simp))
        fun later => absurd first later
      refine ⟨plant, ?_, ?_⟩
      · simpa [callsOf] using followed
      · simpa using InStep.of_plant plant
  | @step steps w run t next ih =>
      obtain ⟨plant, sofar, each⟩ := ih fun u hu => ok u (List.mem_append_left _ hu)
      rw [← next] at plant sofar
      obtain ⟨plant', followed⟩ := step_inStep r _ (ok t (by simp)) fun _ => ⟨rfl, plant⟩
      refine ⟨plant', ?_, ?_⟩
      · have calls : callsOf (steps ++ [t]) = callsOf steps ++ t.trace.map fun c => c.call := by
          simp [callsOf]
        rw [calls, r.follow_append, sofar]
        exact followed
      · intro u hu
        rcases List.mem_append.mp hu with hu | hu
        · exact each u hu
        · rw [List.mem_singleton.mp hu]
          exact InStep.of_plant plant'

/-- From the boot on, whatever enumerations and events follow: after each step the resources
are there just when the application is active, and the port and the channel are created and
destroyed in turn, with what is left at the end the application's. -/
theorem lifecycle_inStep {steps : List lifecycle.Step} {w : World} (run : lifecycle.Run steps w)
    (ok : ∀ t ∈ steps, LifeStep.succeeded t) :
    (∀ t ∈ steps, InStep t.after) ∧
      ∀ r : Resource, r.follow false (callsOf steps) = some w.mem.app.glIsApplnActive :=
  ⟨(run_inStep .pib run ok).2.2, fun r => (run_inStep r run ok).2.1⟩

/-- The bench after a boot that left the link up: the driver asks for no enumeration. -/
def alreadyUp : Oracle sdk where
  answer n
    | .usbStart => cyU3PErrorNoReenumRequired
    | c => Bench.idle.answer n c
  allowed w n c := by
    cases c <;> first | exact Bench.idle.allowed w n _ | trivial

/-- An enumeration, SETCONF twice, a reset, a disconnect, and a second start that finds the link
up. -/
def plugged : List (LifeAct × Oracle sdk) :=
  [(.boot, Bench.idle.oracle), (.initializeUSB, Bench.idle.oracle),
    (.usbEvent cyU3PUsbEventSetconf 0, Bench.idle.oracle),
    (.usbEvent cyU3PUsbEventSetconf 0, Bench.idle.oracle),
    (.usbEvent cyU3PUsbEventReset 0, Bench.idle.oracle),
    (.usbEvent cyU3PUsbEventDisconnect 0, Bench.idle.oracle),
    (.initializeUSB, alreadyUp)]

theorem plugged_run : lifecycle.Run (lifecycle.performAll plugged powerUp).1
    (lifecycle.performAll plugged powerUp).2 :=
  System.performAll_run rfl _ _ _

theorem lifecycle_inStep_plugged :
    (lifecycle.performAll plugged powerUp).2.mem.app.glIsApplnActive = true ∧
      (∀ t ∈ (lifecycle.performAll plugged powerUp).1, InStep t.after) ∧
      ∀ r : Resource, r.follow false (callsOf (lifecycle.performAll plugged powerUp).1) =
        some (lifecycle.performAll plugged powerUp).2.mem.app.glIsApplnActive := by
  refine ⟨by decide +kernel, lifecycle_inStep plugged_run ?_⟩
  decide +kernel

end Rx888
