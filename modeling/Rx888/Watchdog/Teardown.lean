import Rx888.Calls.Vital
import Rx888.Watchdog.Loop

/-! # Teardown and the watchdog

A tick tests the application's flag once and then works on the pipeline, and the USB thread may
tear that pipeline down in between: the recovery goes on with a block that is off and a channel
that is gone.
-/

namespace Rx888

open CallProgram

attribute [local simp] Call.kind

/-- What may come between two steps of a tick. -/
inductive Arrival where
  | usbEvent (evtype : UInt8) (evdata : UInt16)
  | interrupt (i : Interrupt)
  deriving DecidableEq, Repr

def Arrival.prog : Arrival → Fw Unit
  | .usbEvent evtype evdata => usbEventCallback evtype evdata
  | .interrupt i => i.prog

/-- The main loop's ticks, the USB thread's events and requests, and the DMA callback. -/
def pluggedLoop : Threads Ram Hw Call.Ans where
  env := sdk
  Task := MainTask
  Out := Unit
  task := MainTask.prog
  Event := Arrival × List FwCall
  occurs w e w' := Runs sdk e.1.prog w e.2 () w'

def Call.onGpif : Call → Bool
  | .gpifGetSMState | .gpifControlSWInput _ | .gpifDisable _ | .gpifSMStart _ _ => true
  | _ => false

def Call.onChannel : Call → Bool
  | .dmaMultiChannelReset | .dmaMultiChannelSetXfer _ _ => true
  | _ => false

/-- The block and the channel behind the calls. -/
structure Plumbing where
  pib : Bool
  dma : Bool
  deriving DecidableEq, Repr

def Hw.plumbing (hw : Hw) : Plumbing := ⟨hw.pibOn, hw.dmaChannel⟩

def Plumbing.backs (p : Plumbing) (c : Call) : Bool :=
  (!c.onGpif || p.pib) && (!c.onChannel || p.dma)

def Plumbing.after (p : Plumbing) : Call → Plumbing
  | .deviceInit => ⟨false, false⟩
  | .pibInit => { p with pib := true }
  | .pibDeInit => { p with pib := false }
  | .dmaMultiChannelCreate => { p with dma := true }
  | .dmaMultiChannelDestroy => { p with dma := false }
  | _ => p

/-- Nothing made on the pipeline by a tick or an event is made on one that is not there. -/
def backed (w : World) : pluggedLoop.Turn → Prop
  | .own (.call c _) => w.env.plumbing.backs c = true
  | .event (.usbEvent _ _, tr) _ => ∀ t ∈ tr, t.before.env.plumbing.backs t.call = true
  | _ => True

/-- A reset or a disconnect has come, and no configuration since. -/
def goneAfter (evtype : UInt8) (gone : Bool) : Bool :=
  if evtype = cyU3PUsbEventSetconf then false
  else if evtype = cyU3PUsbEventReset ∨ evtype = cyU3PUsbEventDisconnect then true
  else gone

/-- What is noted: that is so of the events during the task. -/
def goneNote (gone : Bool) (_ : World) : pluggedLoop.Turn → Bool
  | .start _ => false
  | .event (.usbEvent evtype _, _) _ => goneAfter evtype gone
  | _ => gone

/-- After a reset or a disconnect the task goes no further on the pipeline. -/
def undisturbed (gone : Bool) (_ : World) : pluggedLoop.Turn → Prop
  | .own (.call c _) => c.onGpif = true ∨ c.onChannel = true → gone = false
  | _ => True

instance (w : World) (t : pluggedLoop.Turn) : Decidable (backed w t) :=
  match t with
  | .own (.call c _) => inferInstanceAs (Decidable (w.env.plumbing.backs c = true))
  | .event (.usbEvent _ _, tr) _ =>
      inferInstanceAs (Decidable (∀ t ∈ tr, t.before.env.plumbing.backs t.call = true))
  | .own .read | .own (.write _) | .start _ | .done _ | .event (.interrupt _, _) _ =>
      isTrue trivial

instance (gone : Bool) (w : World) (t : pluggedLoop.Turn) : Decidable (undisturbed gone w t) :=
  match t with
  | .own (.call c _) =>
      inferInstanceAs (Decidable (c.onGpif = true ∨ c.onChannel = true → gone = false))
  | .own .read | .own (.write _) | .start _ | .done _ | .event _ _ => isTrue trivial

/-! ## The plumbing and the flag -/

/-- The chip follows, whatever the answers. -/
def plumbingView : ChipView Plumbing where
  of := Hw.plumbing
  after := Plumbing.after
  ok _ _ := True
  follows hw c r _ := by
    cases c with
    | gpifSMStart stateIndex initialAlpha =>
        simp only [Hw.after]
        split <;> rfl
    | gpioSetSimpleConfig pin level =>
        simp only [Hw.after]
        split <;> rfl
    | gpioSetValue pin level =>
        simp only [Hw.after]
        split <;> rfl
    | _ => rfl
  plain p c h := by
    cases c <;> first | rfl | cases h

theorem off_of_plain {c : Call} (h : c.vital = false) : c.onGpif = false ∧ c.onChannel = false := by
  cases c <;> first | exact ⟨rfl, rfl⟩ | cases h

theorem backs_plain (p : Plumbing) (c : Call) (h : c.vital = false) : p.backs c = true := by
  simp [Plumbing.backs, off_of_plain h]

/-- Block and channel are there just when the application is active. -/
def Plumbed (w : World) : Prop :=
  w.env.plumbing = ⟨w.mem.app.glIsApplnActive, w.mem.app.glIsApplnActive⟩

theorem AppMoves.plumbed {up up' : Bool} {cs : List Call} (h : AppMoves up cs up') :
    cs.foldl Plumbing.after ⟨up, up⟩ = ⟨up', up'⟩ ∧
      plumbingView.along Plumbing.backs ⟨up, up⟩ cs = true := by
  cases h with
  | stays => exact ⟨rfl, rfl⟩
  | stops was => rw [was]; exact ⟨rfl, rfl⟩
  | starts was => rw [was]; exact ⟨rfl, rfl⟩
  | restarts was => rw [was]; exact ⟨rfl, rfl⟩

theorem usbEvent_plumbed {evtype : UInt8} {evdata : UInt16} {w w' : World} {tr : List FwCall}
    (plumbed : Plumbed w) (occurs : pluggedLoop.occurs w (.usbEvent evtype evdata, tr) w') :
    Plumbed w' ∧ w'.mem.app.glIsApplnActive = eventLeaves evtype w.mem.app.glIsApplnActive ∧
      ∀ t ∈ tr, t.before.env.plumbing.backs t.call = true := by
  obtain ⟨moved, leaves⟩ := usbEventCallback_spells evtype evdata _ _ _ _ _ occurs rfl
  obtain ⟨after, along⟩ := moved.plumbed
  have follows : w'.env.plumbing = (vitalCalls tr).foldl Plumbing.after w.env.plumbing :=
    plumbingView.run occurs fun _ _ => trivial
  refine ⟨?_, leaves, ?_⟩
  · rw [Plumbed, follows, plumbed, after]
  · refine plumbingView.along_run backs_plain occurs (fun _ _ => trivial) ?_
    show plumbingView.along Plumbing.backs w.env.plumbing _ = true
    rw [plumbed]
    exact along

theorem boot_plumbed {w w' : World} {tr : List FwCall} (boots : Runs sdk boot w tr () w') :
    Plumbed w' := by
  obtain ⟨moved, moves, calls⟩ := boot_spells _ _ _ _ _ boots rfl
  have follows : w'.env.plumbing = (vitalCalls tr).foldl Plumbing.after w.env.plumbing :=
    plumbingView.run boots fun _ _ => trivial
  rw [Plumbed, follows, calls]
  exact moves.plumbed.1

/-! ## What leaves the plumbing in place -/

/-- Calls of these kinds neither set the block or the channel up nor tear it down. -/
theorem plumbing_after (hw : Hw) {c : Call} (r : c.Ans) (kind : c.kind ∈ requestKinds) :
    (hw.after c r).plumbing = hw.plumbing := by
  have follows : (hw.after c r).plumbing = hw.plumbing.after c :=
    plumbingView.follows hw c r trivial
  rw [follows]
  cases c <;> first | rfl | simp at kind

theorem request_keeps {setupdat0 setupdat1 : UInt32} {w w' : World} {tr : List FwCall}
    (runs : Runs sdk (Act.request setupdat0 setupdat1).prog w tr () w') :
    w'.env.plumbing = w.env.plumbing := by
  have makes : Makes requestKinds (Act.request setupdat0 setupdat1).prog := by
    simp [Act.prog, cyFxSlFifoApplnUSBSetupCB, setupRequest_makes]
  refine runs.frame (fun s : World => s.env.plumbing = w.env.plumbing) makes ?_ ?_ rfl
  · exact fun f s _ same => same
  · exact fun s c r kind _ same => (plumbing_after s.env r kind).trans same

theorem request_app {command : Option FX3Command} {m m' : Ram} {os : List PipeOp}
    (h : RequestDoes command m os m') : m'.app = m.app := by
  unfold RequestDoes at h
  split at h
  · obtain ⟨passed, -, -, -, same⟩ := h
    exact same.app (by simp)
  · exact h.2.2.app (by simp)
  all_goals exact h.2.app (by simp)

/-- Neither a request nor a buffer touches the plumbing or the flag. -/
theorem interrupt_keeps {i : Interrupt} {w w' : World} {tr : List FwCall}
    (occurs : mainLoop.occurs w (i, tr) w') :
    w'.env.plumbing = w.env.plumbing ∧ w'.mem.app = w.mem.app := by
  cases i with
  | produce =>
      obtain ⟨-, rfl⟩ := produce_occurs occurs
      refine ⟨rfl, ?_⟩
      show w.mem.produced.app = _
      unfold Ram.produced
      split <;> rfl
  | request setupdat0 setupdat1 =>
      exact ⟨request_keeps occurs, request_app (request_occurs occurs).1⟩

/-! ## The contract -/

/-- Block, channel and flag go together, and the flag is down after a reset or a disconnect. -/
structure PluggedInv (gone : Bool) (w : World) : Prop where
  plumbed : Plumbed w
  down : gone = true → w.mem.app.glIsApplnActive = false

/-- The main loop is on what is there just when nothing has torn it down. -/
def pluggedContract : Contract pluggedLoop where
  Ghost := Bool
  note := goneNote
  assumes _ _ _ := True
  ensures gone w t := backed w t ↔ undisturbed gone w t
  inv := PluggedInv

theorem eventLeaves_gone {evtype : UInt8} {gone up : Bool} (down : gone = true → up = false)
    (h : goneAfter evtype gone = true) : eventLeaves evtype up = false := by
  unfold goneAfter at h
  unfold eventLeaves
  split at h
  · cases h
  · split at h
    next setconf stops => rw [if_neg setconf, if_pos stops]
    next setconf stays => rw [if_neg setconf, if_neg stays, down h]

theorem eventLeaves_here {evtype : UInt8} {gone up : Bool} (here : gone = false → up = true)
    (h : goneAfter evtype gone = false) : eventLeaves evtype up = true := by
  unfold goneAfter at h
  unfold eventLeaves
  split at h
  next setconf => rw [if_pos setconf]
  next setconf =>
    split at h
    · cases h
    next stays => rw [if_neg setconf, if_neg stays, here h]

theorem PluggedInv.event {gone : Bool} {w w' : World} {e : Arrival × List FwCall}
    (inv : PluggedInv gone w) (occurs : pluggedLoop.occurs w e w') :
    (backed w (.event e w') ↔ undisturbed gone w (.event e w')) ∧
      PluggedInv (goneNote gone w (.event e w')) w' := by
  obtain ⟨a, tr⟩ := e
  cases a with
  | usbEvent evtype evdata =>
      obtain ⟨plumbed, leaves, backs⟩ := usbEvent_plumbed inv.plumbed occurs
      refine ⟨iff_of_true backs trivial, plumbed, fun gone => ?_⟩
      rw [leaves]
      exact eventLeaves_gone inv.down gone
  | interrupt i =>
      obtain ⟨plumbing, app⟩ := interrupt_keeps occurs
      refine ⟨Iff.rfl, ?_, fun gone => ?_⟩
      · rw [Plumbed, plumbing, app]
        exact inv.plumbed
      · rw [app]
        exact inv.down gone

/-- The flag is up unless a reset or a disconnect has come. -/
def upUnlessGone (gone : Bool) (w : World) : Prop :=
  gone = false → w.mem.app.glIsApplnActive = true

theorem upUnlessGone_stable : pluggedContract.Stable upUnlessGone := by
  intro (gone : Bool) w e w' (inv : PluggedInv gone w) up occurs _
  obtain ⟨a, tr⟩ := e
  cases a with
  | usbEvent evtype evdata =>
      obtain ⟨-, leaves, -⟩ := usbEvent_plumbed inv.plumbed occurs
      intro here
      rw [leaves]
      exact eventLeaves_here up here
  | interrupt i =>
      obtain ⟨-, app⟩ := interrupt_keeps occurs
      intro here
      rw [app]
      exact up here

/-! ## The steps of a tick -/

def afar : Policy Ram Call.Ans where
  reads _ := True
  answers _ _ := True
  writes f := ∀ m, Unchanged harmlessParts m (f m)
  calls c := c.vital = false ∧ c.kind ∈ requestKinds

def near : Policy Ram Call.Ans where
  reads _ := True
  answers _ _ := True
  writes f := ∀ m, Unchanged harmlessParts m (f m)
  calls c := c.kind ∈ requestKinds

theorem PluggedInv.own {gone : Bool} {w : World} (inv : PluggedInv gone w)
    {a : Access Ram Call.Ans} (permits : near.permits a) :
    PluggedInv gone (sdk.step w a) ∧
      (sdk.step w a).mem.app.glIsApplnActive = w.mem.app.glIsApplnActive := by
  have kept : (sdk.step w a).env.plumbing = w.env.plumbing ∧
      (sdk.step w a).mem.app = w.mem.app := by
    cases a with
    | read => exact ⟨rfl, rfl⟩
    | write f => exact ⟨rfl, (permits w.mem).app (by simp)⟩
    | call c r =>
        exact ⟨plumbing_after w.env r permits, (memAfter_unchanged w.mem c r).app (by simp)⟩
  obtain ⟨plumbing, app⟩ := kept
  refine ⟨⟨?_, fun down => ?_⟩, by rw [app]⟩
  · rw [Plumbed, plumbing, app]
    exact inv.plumbed
  · rw [app]
    exact inv.down down

/-- Whether the pipeline is there is a matter of the flag. -/
theorem backed_iff {gone : Bool} {w : World} (inv : PluggedInv gone w) (up : upUnlessGone gone w)
    (a : Access Ram Call.Ans) : backed w (.own a) ↔ undisturbed gone w (.own a) := by
  cases a with
  | read => exact Iff.rfl
  | write f => exact Iff.rfl
  | call c r =>
      show w.env.plumbing.backs c = true ↔ (c.onGpif = true ∨ c.onChannel = true → gone = false)
      rw [inv.plumbed]
      cases gone with
      | false => simp [Plumbing.backs, up rfl]
      | true =>
          rw [inv.down rfl, Plumbing.backs]
          cases c.onGpif <;> cases c.onChannel <;> simp

theorem holds_near {α : Type} {p : Fw α} {R : α → Prop} (keeps : p.Keeps near R) {gone : Bool}
    {w : World} (up : upUnlessGone gone w) :
    pluggedContract.Holds p (fun a gone w => R a ∧ upUnlessGone gone w) gone w := by
  refine Contract.holds_under keeps upUnlessGone_stable ?_ ?_ up
  · intro _ _ a _ _ _ _
    cases a <;> trivial
  · intro a permits gone w inv up _ _
    obtain ⟨inv', flag⟩ := inv.own permits
    exact ⟨backed_iff inv up a, inv', fun here => flag.trans (up here)⟩

theorem holds_afar {α : Type} {p : Fw α} {R : α → Prop} (keeps : p.Keeps afar R)
    (gone : pluggedContract.Ghost) (w : World) :
    pluggedContract.Holds p (fun a _ _ => R a) gone w := by
  refine Contract.holds_of_policy keeps ?_ ?_ gone w
  · intro _ _ a _ _ _
    cases a <;> trivial
  · intro gone w a permits inv _ _
    have none : backed w (.own a) ↔ undisturbed gone w (.own a) := by
      cases a with
      | read => exact Iff.rfl
      | write f => exact Iff.rfl
      | call c r =>
          have plain : c.vital = false := permits.1
          refine iff_of_true (backs_plain _ c plain) fun onIt => ?_
          simp [off_of_plain plain] at onIt
    have permits : near.permits a := by
      cases a with
      | read => trivial
      | write f => exact permits
      | call c r => exact permits.2
    exact ⟨none, (inv.own permits).1⟩

theorem near_of_makes {α : Type} {p : Fw α} (makes : Makes requestKinds p)
    (confined : Confined harmlessParts p) : p.Keeps near fun _ => True :=
  (makes.and confined).keeps (fun _ writes => writes.2) fun _ made => made.1

/-- The calls of a tick away from the pipeline. -/
abbrev afarKinds : List Kind := [.reset, .time, .text]

theorem afar_of_makes {α : Type} {p : Fw α} (makes : Makes afarKinds p)
    (confined : Confined harmlessParts p) : p.Keeps afar fun _ => True := by
  refine (makes.and confined).keeps (fun _ writes => writes.2) fun c made => ⟨?_, ?_⟩
  · exact harmless_vital ((by simp : afarKinds ⊆ harmlessKinds) made.1)
  · exact (by simp : afarKinds ⊆ requestKinds) made.1

theorem streamingWedgeDetected_near : streamingWedgeDetected.Keeps near fun _ => True := by
  refine near_of_makes ?_ ?_
  · simp [streamingWedgeDetected, stallSample, coldStartSample, clearStrikes]
  · simp [streamingWedgeDetected, stallSample, coldStartSample, clearStrikes, gpifGetSMState, call]

theorem recover_near : (healthRemedy .wedgedStreaming).Keeps near fun _ => True := by
  refine near_of_makes ?_ ?_
  · simp [healthRemedy, healthRecover, recoverLight, recoverCapped, recoverRestart, clockHealthy,
      call]
  · simp [healthRemedy, healthRecover, recoverLight, recoverCapped, softStop, recoverRestart,
      clockHealthy, gpifGetSMState, call]

theorem holds_ram_bind {α : Type} {f : Ram → Fw α} {Q : α → Bool → World → Prop}
    (rest : ∀ gone w, PluggedInv gone w → pluggedContract.Holds (f w.mem) Q gone w)
    (gone : Bool) (w : World) : pluggedContract.Holds (ram >>= f) Q gone w :=
  fun gone w _ inv _ _ => ⟨Iff.rfl, inv, rest gone w inv⟩

/-- A wedge of the stream is only found once the flag has been read up. -/
abbrev foundUp (hs : HealthStatus) (gone : Bool) (w : World) : Prop :=
  hs = .wedgedStreaming → upUnlessGone gone w

theorem sampler_foundUp (gone : Bool) (w : World) :
    pluggedContract.Holds (do
      if (← ram).app.glIsApplnActive then
        if ← streamingWedgeDetected then
          return HealthStatus.wedgedStreaming
      return .ok : Fw HealthStatus) foundUp gone w := by
  refine holds_ram_bind (fun gone w inv => ?_) gone w
  by_cases active : w.mem.app.glIsApplnActive = true
  · rw [if_pos active]
    have up : upUnlessGone gone w := fun _ => active
    refine (holds_near streamingWedgeDetected_near up).bind (fun hit gone w _ found => ?_) inv
    cases hit with
    | true => exact Contract.holds_ret upUnlessGone_stable found.2 fun _ _ _ up _ => up
    | false => exact fun _ _ _ _ wedged => by cases wedged
  · rw [if_neg active]
    exact fun _ _ _ _ wedged => by cases wedged

theorem evaluation_foundUp (gone : Bool) (w : World) :
    pluggedContract.Holds healthEvaluate foundUp gone w := by
  have clock : (call .getTime : Fw UInt32).Keeps afar fun _ => True :=
    afar_of_makes (by simp [call]) (by simp [call])
  unfold healthEvaluate
  refine holds_ram_bind (fun gone w inv => ?_) gone w
  by_cases busy : w.mem.ep0.ep0HandlerInProgress = true
  · rw [if_pos busy]
    refine (holds_afar clock gone w).bind (fun now gone w _ _ => ?_) inv
    refine holds_ram_bind (fun gone w _ => ?_) gone w
    by_cases late : now - w.mem.ep0.ep0HandlerEnterMs ≥ ep0HandlerTimeoutMs
    · rw [if_pos late]
      exact fun _ _ _ _ wedged => by cases wedged
    · rw [if_neg late]
      exact sampler_foundUp gone w
  · rw [if_neg busy]
    exact sampler_foundUp gone w

theorem remedy_holds {hs : HealthStatus} {gone : Bool} {w : World} (up : foundUp hs gone w) :
    pluggedContract.Holds (healthRemedy hs) (fun _ _ _ => True) gone w := by
  cases hs with
  | wedgedStreaming =>
      exact (holds_near recover_near (up rfl)).mono fun _ _ _ _ _ => trivial
  | _ =>
      refine holds_afar (afar_of_makes ?_ ?_) gone w
      · simp [healthRemedy, healthRecover]
      · simp [healthRemedy, healthRecover]

theorem pluggedContract_met : pluggedContract.Met fun _ _ _ => True := by
  constructor
  · intro gone w t inv _
    have inv' : PluggedInv false w := ⟨inv.plumbed, fun gone => by cases gone⟩
    refine ⟨Iff.rfl, inv', ?_⟩
    cases t with
    | heartbeat =>
        have beat : MainTask.heartbeat.prog.Keeps afar fun _ => True :=
          afar_of_makes (by simp [MainTask.prog, healthMainHeartbeat])
            (by simp [MainTask.prog, healthMainHeartbeat])
        exact holds_afar beat _ w
    | check =>
        refine (evaluation_foundUp _ w).bind (fun hs gone w _ up => ?_) inv'
        exact remedy_holds up
  · intro gone w out inv _ _
    exact ⟨Iff.rfl, inv⟩
  · intro gone w e w' inv occurs _
    exact PluggedInv.event inv occurs

/-- From the boot on, in any interleaving of the ticks with events, requests and buffers: the
events and the ticks are only ever on a pipeline that is there, just when no tick goes on with
it after a reset or a disconnect has come in. -/
theorem no_torn_use {w w₀ w' : World} {tr : List FwCall} (booted : Runs sdk boot w tr () w₀)
    {turns : List (World × pluggedLoop.Turn)} {todo : pluggedLoop.Todo}
    (run : pluggedLoop.Run w₀ turns todo w') :
    Threads.Throughout goneNote (fun _ w t => backed w t) false turns ↔
      Threads.Throughout goneNote undisturbed false turns := by
  have init : PluggedInv false w₀ := ⟨boot_plumbed booted, fun gone => by cases gone⟩
  have met := pluggedContract_met.run run init
    (Threads.throughout_of_forall (fun _ _ _ => trivial) _)
  exact met.1.congr

/-! ## A disconnected tick -/

def Arrival.on (a : Arrival) (b : Bench) : pluggedLoop.Reaction where
  event w := (a, (a.prog.exec sdk b.answer 0 w).1)
  after w := (a.prog.exec sdk b.answer 0 w).2.2
  occurs w := exec_runs sdk b.answer 0 a.prog w (exec_allowed b.allowed 0 a.prog w)

def afterBoot : World := (boot.exec sdk Bench.idle.answer 0 powerUp).2.2

theorem afterBoot_runs : Runs sdk boot powerUp (boot.exec sdk Bench.idle.answer 0 powerUp).1 ()
    afterBoot :=
  exec_runs sdk Bench.idle.answer 0 boot powerUp (exec_allowed Bench.idle.allowed 0 boot powerUp)

/-- The host configures the device and starts the stream; a buffer arrives, and then none for
three ticks. -/
def untilStalled : List pluggedLoop.Order :=
  let tick : List pluggedLoop.Order :=
    [.start .heartbeat, .own Bench.busy.responder 60, .done, .start .check,
      .own Bench.busy.responder 60, .done]
  [.event ((Arrival.usbEvent cyU3PUsbEventSetconf 0).on Bench.idle),
    .event ((Arrival.interrupt (.request 0x0000AA40 0)).on Bench.idle),
    .event ((Arrival.interrupt .produce).on Bench.idle)] ++ tick ++ tick ++ tick

/-- The host is unplugged when the check of the tick that recovers has taken `steps` steps. -/
def unplugged (steps : Nat) : pluggedLoop.Config :=
  pluggedLoop.replay afterBoot (untilStalled ++
    [.start .check, .own Bench.busy.responder steps,
      .event ((Arrival.usbEvent cyU3PUsbEventDisconnect 0).on Bench.idle),
      .own Bench.busy.responder 60, .done])

theorem unplugged_run (steps : Nat) : pluggedLoop.Run afterBoot (unplugged steps).turns
    (unplugged steps).todo (unplugged steps).state :=
  pluggedLoop.replay_run afterBoot _

/-- Unplugged before the check has tested the flag, the tick leaves the pipeline alone. -/
theorem no_torn_use_early :
    Threads.Throughout goneNote undisturbed false (unplugged 0).turns ∧
      (Threads.Throughout goneNote (fun _ w t => backed w t) false (unplugged 0).turns ↔
        Threads.Throughout goneNote undisturbed false (unplugged 0).turns) :=
  ⟨by decide +kernel, no_torn_use afterBoot_runs (unplugged_run 0)⟩

/-- Unplugged during the recovery's sleep, it disables, resets and restarts what is gone. -/
theorem torn_use : ¬ ∀ (w w₀ w' : World) (tr : List FwCall), Runs sdk boot w tr () w₀ →
    ∀ (turns : List (World × pluggedLoop.Turn)) (todo : pluggedLoop.Todo),
      pluggedLoop.Run w₀ turns todo w' →
        Threads.Throughout goneNote (fun _ w t => backed w t) false turns := by
  intro always
  have never := always _ _ _ _ afterBoot_runs _ _ (unplugged_run 24)
  revert never
  decide +kernel

end Rx888
