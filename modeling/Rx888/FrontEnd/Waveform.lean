import Rx888.Device.Steps
import Rx888.Calls.Kind
import Rx888.SerialBus.Chip

/-! # Waveforms of the firmware

The waveform of a run is what its calls write to the GPIO pins. `Waves ok Q p` says of a program
that its runs whose calls are all `ok` have a waveform that satisfies `Q`.
-/

namespace Rx888

open CallProgram SerialBus

attribute [local simp] Call.kind

/-! ## Waveforms -/

/-- The write of a call to a pin. -/
def writeOf : FwCall → Option (UInt8 × Bool)
  | ⟨_, .gpioSetValue pin value, status⟩ =>
      if status = cyU3PSuccess then some (pin, value) else none
  | ⟨_, .gpioSetSimpleConfig pin value, status⟩ =>
      if status = cyU3PSuccess then some (pin, value) else none
  | _ => none

def waveform (tr : List FwCall) : List (UInt8 × Bool) := tr.filterMap writeOf

@[simp] theorem waveform_nil : waveform [] = [] := rfl

@[simp] theorem waveform_append (tr tr' : List FwCall) :
    waveform (tr ++ tr') = waveform tr ++ waveform tr' :=
  List.filterMap_append

theorem waveform_cons (t : FwCall) (tr : List FwCall) :
    waveform (t :: tr) = (writeOf t).toList ++ waveform tr := by
  rw [waveform, List.filterMap_cons]
  cases writeOf t <;> rfl

/-- Only the GPIO calls write to the pins. -/
theorem writeOf_eq_none {t : FwCall} (apart : t.call.kind ≠ .gpio) : writeOf t = none := by
  obtain ⟨w, c, r⟩ := t
  cases c with
  | gpioSetValue pin value => exact absurd rfl apart
  | gpioSetSimpleConfig pin value => exact absurd rfl apart
  | _ => rfl

theorem waveform_eq_nil {tr : List FwCall} (apart : ∀ t ∈ tr, t.call.kind ≠ .gpio) :
    waveform tr = [] :=
  List.filterMap_eq_nil_iff.mpr fun t mem => writeOf_eq_none (apart t mem)

theorem setGpio_gpio (hw : Hw) (pin : UInt8) (value : Bool) :
    (hw.setGpio pin value).gpio = drive hw.gpio (pin, value) := by
  funext p
  by_cases same : p = pin
  · rw [same, Hw.setGpio_gpio_self]
    exact (drive_self hw.gpio (pin, value)).symm
  · rw [Hw.setGpio_gpio_of_ne hw value same]
    exact (drive_of_ne hw.gpio same).symm

theorem ite_setGpio_gpio (hw : Hw) (pin : UInt8) (value : Bool) (status : ReturnStatus) :
    (if status = cyU3PSuccess then hw.setGpio pin value else hw).gpio =
      settle hw.gpio (if status = cyU3PSuccess then some (pin, value) else none).toList := by
  split
  · exact setGpio_gpio hw pin value
  · rfl

theorem after_gpio (w : World) {c : Call} (powered : c ≠ .deviceInit) (r : c.Ans) :
    (w.env.after c r).gpio = settle w.env.gpio (writeOf ⟨w, c, r⟩).toList := by
  cases c with
  | deviceInit => exact absurd rfl powered
  | gpioSetValue pin value => exact ite_setGpio_gpio w.env pin value r
  | gpioSetSimpleConfig pin value => exact ite_setGpio_gpio w.env pin value r
  | gpifSMStart stateIndex initialAlpha =>
      simp only [Hw.after]
      split <;> rfl
  | _ => rfl

theorem levels_of_runs {α : Type} {p : Fw α} {w w' : World} {tr : List FwCall} {a : α}
    (runs : Runs sdk p w tr a w') (powered : ∀ t ∈ tr, t.call ≠ .deviceInit) :
    w'.env.gpio = settle w.env.gpio (waveform tr) := by
  induction runs with
  | ret => rfl
  | read _ ih => exact ih powered
  | write _ ih => exact ih powered
  | @call c k w w' tr a r _ _ ih =>
      obtain ⟨first, rest⟩ := List.forall_mem_cons.mp powered
      rw [ih rest, waveform_cons, settle_append]
      exact congrArg (settle · (waveform tr)) (after_gpio w first r)

/-! ## The waveforms of a program -/

/-- The runs whose calls are all `ok` have such a waveform. -/
def Waves {α : Type} (ok : FwCall → Prop) (Q : List (UInt8 × Bool) → Prop) (p : Fw α) : Prop :=
  ∀ w, p.Ensures sdk (fun tr _ _ => (∀ t ∈ tr, ok t) → Q (waveform tr)) w

section Waves

variable {α β : Type} {ok : FwCall → Prop} {Q Q₁ Q₂ : List (UInt8 × Bool) → Prop}
variable {p q : Fw α} {f : α → Fw β} {w w' : World} {tr : List FwCall} {a : α}

theorem Waves.run (waves : Waves ok Q p) (runs : Runs sdk p w tr a w') (all : ∀ t ∈ tr, ok t) :
    Q (waveform tr) :=
  runs.ensures (waves w) all

theorem waves_of_runs (h : ∀ w tr a w', Runs sdk p w tr a w' → (∀ t ∈ tr, ok t) → Q (waveform tr)) :
    Waves ok Q p :=
  fun w => ensures_of_runs fun tr a w' runs => h w tr a w' runs

theorem Waves.mono (waves : Waves ok Q₁ p) (weaker : ∀ wave, Q₁ wave → Q wave) : Waves ok Q p :=
  fun w => ensures_mono (waves w) fun _ _ _ h all => weaker _ (h all)

theorem Waves.of_ok {ok' : FwCall → Prop} (waves : Waves ok Q p) (weaker : ∀ t, ok' t → ok t) :
    Waves ok' Q p :=
  fun w => ensures_mono (waves w) fun _ _ _ h all => h fun t mem => weaker t (all t mem)

theorem waves_pure (a : α) (empty : Q []) : Waves ok Q (pure a : Fw α) := fun _ _ => empty

theorem Waves.bind (first : Waves ok Q₁ p) (later : ∀ a, Waves ok Q₂ (f a))
    (joins : ∀ wave wave', Q₁ wave → Q₂ wave' → Q (wave ++ wave')) : Waves ok Q (p >>= f) := by
  apply waves_of_runs
  intro w tr b w' runs all
  obtain ⟨tr₁, a, w₁, tr₂, rfl, runs₁, runs₂⟩ := runs.split
  rw [waveform_append]
  apply joins
  · exact first.run runs₁ fun t mem => all t (List.mem_append_left _ mem)
  · exact (later a).run runs₂ fun t mem => all t (List.mem_append_right _ mem)

theorem waves_ite (c : Prop) [Decidable c] (yes : c → Waves ok Q p) (no : ¬ c → Waves ok Q q) :
    Waves ok Q (if c then p else q) := by
  split
  · exact yes ‹_›
  · exact no ‹_›

theorem Makes.silent {kinds : List Kind} (makes : Makes kinds p) (apart : Kind.gpio ∉ kinds) :
    Waves ok (· = []) p := by
  apply waves_of_runs
  intro w tr a w' runs _
  apply waveform_eq_nil
  intro t mem same
  exact apart (same ▸ makes.run runs t mem)

theorem Waves.after_silent (first : Waves ok (· = []) p) (later : ∀ a, Waves ok Q (f a)) :
    Waves ok Q (p >>= f) :=
  first.bind later fun wave wave' empty h => by rw [empty]; exact h

theorem Waves.then_silent (first : Waves ok Q p) (later : ∀ a, Waves ok (· = []) (f a)) :
    Waves ok Q (p >>= f) :=
  first.bind later fun wave wave' h empty => by rw [empty, List.append_nil]; exact h

theorem Waves.exact {ws ws' : List (UInt8 × Bool)} (first : Waves ok (· = ws) p)
    (later : ∀ a, Waves ok (· = ws') (f a)) : Waves ok (· = ws ++ ws') (p >>= f) :=
  first.bind later fun wave wave' h h' => by rw [h, h']

end Waves

/-- `CyU3PGpioSetValue` reports success. -/
def Call.setsPin : (c : Call) → c.Ans → Bool
  | .gpioSetValue _ _, status => status == cyU3PSuccess
  | _, _ => true

def setSucceeds (t : FwCall) : Prop := t.call.setsPin t.ans = true

instance : DecidablePred setSucceeds := fun _ => inferInstanceAs (Decidable (_ = true))

theorem gpioSetValue_waves (pin : UInt8) (value : Bool) :
    Waves setSucceeds (· = [(pin, value)]) (gpioSetValue pin value) := by
  intro w status _ all
  have succeeds : status = cyU3PSuccess := beq_iff_eq.mp (all _ (List.mem_singleton_self _))
  rw [succeeds]
  rfl

/-! ## Writes to some pins only -/

/-- The waveform stays on these pins. -/
def OnPins (pins : List UInt8) (wave : List (UInt8 × Bool)) : Prop := ∀ write ∈ wave, write.1 ∈ pins

section OnPins

variable {α β : Type} {ok : FwCall → Prop} {pins : List UInt8} {p : Fw α} {f : α → Fw β}

theorem onPins_nil (pins : List UInt8) : OnPins pins [] := by
  intro write mem
  cases mem

theorem OnPins.bind (first : Waves ok (OnPins pins) p) (later : ∀ a, Waves ok (OnPins pins) (f a)) :
    Waves ok (OnPins pins) (p >>= f) := by
  apply first.bind later
  intro wave wave' on on' write mem
  exact (List.mem_append.mp mem).elim (on write) (on' write)

theorem OnPins.silent (silent : Waves ok (· = []) p) : Waves ok (OnPins pins) p :=
  silent.mono fun wave empty => by rw [empty]; exact onPins_nil pins

end OnPins

/-! ## The functions of the firmware -/

/-- A call that does not reset the device. -/
def keepsUp (t : FwCall) : Prop := t.call.kind ≠ .reset

theorem errorBlinkAndReset_keepsUp (Q : List (UInt8 × Bool) → Prop) :
    Waves keepsUp Q errorBlinkAndReset := by
  apply waves_of_runs
  intro w tr a w' runs up
  obtain ⟨tr₁, _, w₁, rest, rfl, -, runs⟩ := runs.split
  obtain ⟨tr₂, _, w₂, last, rfl, -, runs⟩ := runs.split
  cases runs with
  | call r allowed runs => exact absurd rfl (up ⟨w₂, .deviceReset false, r⟩ (by simp))

/-- The kinds of calls that neither write to a pin nor take the chip out of reset. -/
abbrev offPins : List Kind :=
  [.setup, .reset, .time, .sleep, .queue, .threads, .interrupts, .text, .pib, .gpif, .smState, .dma,
    .transfer, .endpoint, .speed, .ack, .stall, .dataOut, .dataIn, .lpm, .i2cRead, .i2cWrite,
    .i2cError, .gpioRead]

section Firmware

variable {α : Type} {ok : FwCall → Prop} {pins : List UInt8} {p : Fw α}

theorem offPins_silent (makes : Makes offPins p) : Waves ok (· = []) p := makes.silent (by simp)

theorem Makes.off (makes : Makes offPins p) : Waves ok (OnPins pins) p :=
  OnPins.silent (offPins_silent makes)

/-- As long as the device is not reset a status check at most prints. -/
theorem checkStatus_silent (name : String) (status : ReturnStatus) :
    Waves keepsUp (· = []) (checkStatus name status) := by
  have text (fmt : String) (args : List DebugArg) :
      Waves keepsUp (· = []) (debugPrint fmt args) :=
    Makes.silent (debugPrint_makes fmt args (List.mem_singleton_self Kind.text)) (by decide)
  unfold checkStatus
  apply Waves.after_silent (Makes.silent (@makes_ram []) (by simp))
  intro m
  apply waves_ite
  · intro _
    apply waves_ite
    · exact fun _ => text _ _
    · exact fun _ => Waves.after_silent (text _ _) fun _ => errorBlinkAndReset_keepsUp _
  · exact fun _ => waves_pure () rfl

theorem startGPIF_silent : Waves keepsUp (· = []) startGPIF := by
  unfold startGPIF
  apply Waves.after_silent (offPins_silent (by simp))
  intro _
  apply Waves.after_silent (offPins_silent (by simp))
  intro _
  apply Waves.after_silent (offPins_silent (by simp [call]))
  intro status
  apply Waves.after_silent (checkStatus_silent _ _)
  exact fun _ => offPins_silent (by simp [call])

theorem startApplication_silent : Waves keepsUp (· = []) startApplication := by
  unfold startApplication
  apply Waves.after_silent (offPins_silent (by simp [call]))
  intro usbSpeed
  apply Waves.after_silent (offPins_silent (by simp))
  intro _
  apply Waves.after_silent (offPins_silent (by simp [call]))
  intro status
  apply Waves.after_silent (checkStatus_silent _ _)
  intro _
  apply Waves.after_silent (offPins_silent (by simp))
  intro _
  apply Waves.after_silent (offPins_silent (by simp [call]))
  intro status
  apply Waves.after_silent (checkStatus_silent _ _)
  intro _
  apply Waves.after_silent (offPins_silent (by simp))
  intro _
  apply Waves.after_silent (offPins_silent (by simp [call]))
  intro status
  apply Waves.after_silent (checkStatus_silent _ _)
  intro _
  apply Waves.after_silent (offPins_silent (by simp [call]))
  intro status
  apply Waves.after_silent (checkStatus_silent _ _)
  intro _
  apply Waves.after_silent (offPins_silent (by simp))
  intro _
  apply Waves.after_silent startGPIF_silent
  intro status
  apply Waves.after_silent (checkStatus_silent _ _)
  exact fun _ => offPins_silent (by simp)

/-- The call succeeds where it writes to a pin, and does not reset the device. -/
def setsAndKeepsUp (t : FwCall) : Prop := setSucceeds t ∧ keepsUp t

theorem Waves.keepingUp {Q : List (UInt8 × Bool) → Prop} (waves : Waves keepsUp Q p) :
    Waves setsAndKeepsUp Q p :=
  waves.of_ok fun _ ok => ok.2

theorem rx888r2AdcStandby_waves (standby : Bool) :
    Waves setsAndKeepsUp (· = [(gpioShdwn, standby)]) (rx888r2AdcStandby standby) :=
  (gpioSetValue_waves gpioShdwn standby).of_ok fun _ ok => ok.1

theorem stopApplication_waves :
    Waves setsAndKeepsUp (· = [(gpioShdwn, true)]) stopApplication := by
  have check (name : String) (status : ReturnStatus) := (checkStatus_silent name status).keepingUp
  unfold stopApplication
  apply Waves.after_silent (offPins_silent (by simp))
  intro _
  apply Waves.after_silent (offPins_silent (by simp [call]))
  intro status
  apply Waves.after_silent (check _ _)
  intro _
  apply Waves.after_silent (offPins_silent (by simp [call]))
  intro status
  apply Waves.after_silent (check _ _)
  intro _
  apply Waves.after_silent (offPins_silent (by simp [call]))
  intro status
  apply Waves.after_silent (check _ _)
  intro _
  apply Waves.after_silent (offPins_silent (by simp [call]))
  intro status
  apply Waves.after_silent (check _ _)
  intro _
  apply (rx888r2AdcStandby_waves true).then_silent
  exact fun _ => offPins_silent (by simp)

def stopsApplication (evtype : UInt8) (m : Ram) : Bool :=
  m.app.glIsApplnActive && (evtype == cyU3PUsbEventSetconf || evtype == cyU3PUsbEventReset ||
    evtype == cyU3PUsbEventDisconnect)

/-- An event puts the ADC in standby if it stops the application. -/
theorem usbEventCallback_wave (evtype : UInt8) (evdata : UInt16) (w : World) :
    (usbEventCallback evtype evdata).Ensures sdk (fun tr _ _ => (∀ t ∈ tr, setsAndKeepsUp t) →
      waveform tr = if stopsApplication evtype w.mem then [(gpioShdwn, true)] else []) w := by
  have queued : (void (.queueSend evtype.toUInt32)).Ensures sdk (fun tr _ w' =>
      waveform tr = [] ∧ w'.mem = w.mem) w := fun status _ => ⟨rfl, rfl⟩
  unfold usbEventCallback
  apply queued.bind
  rintro tr _ w₁ ⟨silent, same⟩
  have rest {p : Fw Unit} {wave : List (UInt8 × Bool)} (waves : Waves setsAndKeepsUp (· = wave) p)
      (expected : (if stopsApplication evtype w.mem then [(gpioShdwn, true)] else []) = wave) :
      p.Ensures sdk (fun tr' _ _ => (∀ t ∈ tr ++ tr', setsAndKeepsUp t) → waveform (tr ++ tr') =
        if stopsApplication evtype w.mem then [(gpioShdwn, true)] else []) w₁ := by
    apply ensures_mono (waves w₁)
    intro tr' _ _ made all
    rw [waveform_append, silent, expected]
    exact made fun t mem => all t (List.mem_append_right _ mem)
  apply ensures_ite
  · intro setconf
    rw [ram_bind_ensures, same]
    apply ensures_ite
    · intro active
      apply rest (stopApplication_waves.then_silent fun _ => startApplication_silent.keepingUp)
      simp [stopsApplication, setconf, active]
    · intro inactive
      apply rest startApplication_silent.keepingUp
      simp [stopsApplication, inactive]
  · intro notSetconf
    apply ensures_ite
    · intro gone
      rw [ram_bind_ensures, same]
      apply ensures_ite
      · intro active
        apply rest (stopApplication_waves.then_silent fun _ => offPins_silent (by simp))
        rcases gone with gone | gone <;> simp [stopsApplication, gone, active]
      · intro inactive
        apply rest (waves_pure () rfl)
        simp [stopsApplication, inactive]
    · intro others
      apply rest (offPins_silent (by simp))
      simp [stopsApplication, notSetconf, not_or.mp others]

theorem healthTick_makes : Makes offPins healthTick := by
  have healthy : Makes offPins clockHealthy := by simp [clockHealthy]
  have detects : Makes offPins streamingWedgeDetected := by
    simp [streamingWedgeDetected, stallSample, coldStartSample, clearStrikes]
  have evaluates : Makes offPins healthEvaluate := by
    simp [healthEvaluate, call, detects]
  have capped : Makes offPins recoverCapped := by simp [recoverCapped, healthy]
  have light : Makes offPins recoverLight := by
    simp [recoverLight, recoverRestart, call, healthy]
  have recovers (hs : HealthStatus) : Makes offPins (healthRecover hs) := by
    cases hs <;> simp [healthRecover, capped, light]
  simp [healthTick, healthMainHeartbeat, healthRemedy, evaluates, recovers]

/-! ### Requests -/

theorem command?_eq_some {s : Setup} {c : FX3Command} (some : s.command? = some c) :
    s.bType = cyU3PUsbVendorRqt ∧ ¬ s.wLength > UInt16.ofNat cyfxSdrappMaxEp0len ∧
      ¬ s.directionMismatch ∧ FX3Command.ofCode? s.bRequest = Option.some c := by
  unfold Setup.command? at some
  split at some
  next accepted => exact ⟨accepted.1, accepted.2.1, accepted.2.2, some⟩
  next => cases some

theorem setupRequest_refused {s : Setup} (refused : s.command? = none) :
    Makes offPins (setupRequest s) := by
  unfold setupRequest
  split
  next => exact (standardRequest_makes s).mono (by simp)
  next =>
    split
    next vendor =>
      unfold vendorRequest
      split
      next => simp
      next short =>
        split
        next => simp
        next right =>
          have unknown : FX3Command.ofCode? s.bRequest = none := by
            rw [← refused, Setup.command?, if_pos ⟨vendor, short, right⟩]
          rw [unknown]
          simp [vendorCommand, unknownRequest]
    next => exact makes_pure _

theorem request_refused {setupdat0 setupdat1 : UInt32}
    (refused : (Setup.decode setupdat0 setupdat1).command? = none) :
    Makes offPins (Act.prog (.request setupdat0 setupdat1)) := by
  have makes := setupRequest_refused refused
  simp [Act.prog, cyFxSlFifoApplnUSBSetupCB, makes]

theorem setupRequest_eq {s : Setup} {c : FX3Command} (some : s.command? = some c) :
    setupRequest s = (do
      let isHandled ← vendorCommand s (Option.some c)
      traceSerial s.bRequest s.wValue s.wIndex
      return isHandled) := by
  obtain ⟨vendor, short, right, known⟩ := command?_eq_some some
  have nonstandard : ¬ s.bType = cyU3PUsbStandardRqt := by
    rw [vendor]
    decide
  unfold setupRequest vendorRequest
  rw [if_neg nonstandard, if_pos vendor, if_neg short, if_neg right, known]

/-- A request that executes a command makes the calls of the command, and beside them looks at the
clock and prints. -/
theorem request_split {setupdat0 setupdat1 : UInt32} {c : FX3Command} {w w' : World}
    {tr : List FwCall} (some : (Setup.decode setupdat0 setupdat1).command? = some c)
    (runs : Runs sdk (Act.prog (.request setupdat0 setupdat1)) w tr () w') :
    ∃ before made after w₁ isHandled w₂, tr = before ++ (made ++ after) ∧
      Runs sdk (vendorCommand (Setup.decode setupdat0 setupdat1) (Option.some c)) w₁ made isHandled
        w₂ ∧ ∀ t ∈ before ++ after, t.call.kind ∈ [.time, .text] := by
  obtain ⟨whole, _, w₁, none, rfl, runs, ends⟩ := runs.split
  obtain ⟨enter, _, w₂, rest, rfl, enters, runs⟩ := runs.split
  obtain ⟨request, handled, w₃, exit, rfl, runs, exits⟩ := runs.split
  rw [setupRequest_eq some] at runs
  obtain ⟨made, result, w₄, traced, rfl, runs, traces⟩ := runs.split
  refine ⟨enter, made, traced ++ (exit ++ none), _, _, w₄, by simp, runs, ?_⟩
  have entering : Makes [.time, .text] (healthRecordEvent .ep0HandlerEnter) := by simp
  have exiting : Makes [.time, .text] (healthRecordEvent .ep0HandlerExit >>= fun _ =>
      pure handled) := by
    simp
  have tracing : Makes [.time, .text] (traceSerial (Setup.decode setupdat0 setupdat1).bRequest
      (Setup.decode setupdat0 setupdat1).wValue (Setup.decode setupdat0 setupdat1).wIndex >>=
        fun _ => pure result) := by
    simp
  have ending : Makes [.time, .text] (pure () : Fw Unit) := makes_pure ()
  intro t mem
  simp only [List.mem_append] at mem
  rcases mem with mem | mem | mem | mem
  · exact entering.run enters t mem
  · exact tracing.run traces t mem
  · exact exiting.run exits t mem
  · exact ending.run ends t mem

/-! ### Commands -/

/-- The rest of a start wakes the ADC. -/
theorem restartStream_waves : Waves setsAndKeepsUp (· = [(gpioShdwn, false)]) restartStream := by
  unfold restartStream
  apply (rx888r2AdcStandby_waves false).then_silent
  intro _
  apply Waves.after_silent (offPins_silent (by simp))
  intro _
  apply Waves.after_silent (offPins_silent (by simp))
  intro _
  apply Waves.after_silent (offPins_silent (by simp))
  intro _
  apply Waves.after_silent (offPins_silent (by simp))
  intro _
  apply Waves.after_silent (offPins_silent (by simp))
  intro _
  apply Waves.after_silent (offPins_silent (by simp))
  intro _
  apply Waves.after_silent (offPins_silent (by simp))
  intro _
  apply Waves.after_silent (offPins_silent (by simp [call]))
  intro apiRetStatus
  apply waves_ite
  · intro _
    apply Waves.after_silent startGPIF_silent.keepingUp
    exact fun started => offPins_silent (by simp)
  · exact fun _ => offPins_silent (by simp)

/-- STARTFX3 wakes the ADC if the reads of the clock chip pass its check. -/
theorem startfx3_wave (s : Setup) (w : World) :
    (startfx3 s).Ensures sdk (fun tr _ _ => (∀ t ∈ tr, setsAndKeepsUp t) →
      waveform tr = if healthyClock (ops tr) then [(gpioShdwn, false)] else []) w := by
  have enables (w : World) : (void .usbLPMDisable).Ensures sdk (fun tr _ _ =>
      waveform tr = [] ∧ ops tr = []) w := fun status _ => ⟨rfl, rfl⟩
  have receives (w : World) : (getEP0Data s.wLength).Ensures sdk (fun tr _ _ =>
      waveform tr = [] ∧ ops tr = []) w := by
    intro answer _
    cases answer <;> exact ⟨rfl, rfl⟩
  have checks (w : World) : gpifPreflightCheck.Ensures sdk (fun tr passed _ =>
      waveform tr = [] ∧ healthyClock (ops tr) = passed) w := by
    have makes : Makes offPins gpifPreflightCheck := by simp
    apply ensures_of_runs
    intro tr passed w' runs
    have check := (does_of_runs runs gpifPreflightCheck_does).1
    have silent : Waves (fun _ => True) (· = []) gpifPreflightCheck := offPins_silent makes
    exact ⟨silent.run runs fun _ _ => trivial, check.healthyClock_eq⟩
  have refuses (w : World) : (stallEP0 >>= fun _ => pure true).Ensures sdk (fun tr _ _ =>
      waveform tr = [] ∧ ops tr = []) w := fun status _ => ⟨rfl, rfl⟩
  have restarts : Waves setsAndKeepsUp (· = [(gpioShdwn, false)]) (do
      let apiRetStatus ← restartStream
      reportStart apiRetStatus
      return true) :=
    restartStream_waves.then_silent fun _ => offPins_silent (by simp [reportStart])
  unfold startfx3
  apply (enables w).bind
  rintro tr₁ _ w₁ ⟨wave₁, ops₁⟩
  apply (receives w₁).bind
  rintro tr₂ _ w₂ ⟨wave₂, ops₂⟩
  apply (checks w₂).bind
  rintro tr₃ passed w₃ ⟨wave₃, check⟩
  cases passed with
  | false =>
      apply ensures_mono (refuses w₃)
      rintro tr₄ _ _ ⟨wave₄, ops₄⟩ -
      simp [wave₁, wave₂, wave₃, wave₄, ops₁, ops₂, ops₄, check]
  | true =>
      apply ensures_mono (restarts w₃)
      intro tr₄ _ _ wave₄ all
      have woken := wave₄ fun t mem => all t (by simp [mem])
      have healthy := healthyClock_append check (ops tr₄)
      simp [wave₁, wave₂, wave₃, woken, ops₁, ops₂, healthy]

theorem stopfx3_waves (s : Setup) : Waves setsAndKeepsUp (· = [(gpioShdwn, true)]) (stopfx3 s) := by
  unfold stopfx3
  apply Waves.after_silent (offPins_silent (by simp))
  intro _
  apply Waves.after_silent (offPins_silent (by simp))
  intro _
  apply Waves.after_silent (offPins_silent (by simp))
  intro _
  apply Waves.after_silent (offPins_silent (by simp))
  intro _
  apply Waves.after_silent (offPins_silent (by simp))
  intro _
  apply Waves.after_silent (offPins_silent (by simp))
  intro _
  apply Waves.after_silent (offPins_silent (by simp))
  intro _
  apply (rx888r2AdcStandby_waves true).then_silent
  exact fun _ => offPins_silent (by simp)

/-- The commands other than these, GPIOFX3 and SETARGFX3 leave the pins alone. -/
theorem vendorCommand_silent (s : Setup) {c : FX3Command}
    (other : c ∉ [FX3Command.gpiofx3, .setargfx3, .startfx3, .stopfx3]) :
    Waves ok (· = []) (vendorCommand s (some c)) := by
  have makes := vendorCommand_makes s (some c)
  cases c with
  | startfx3 => simp at other
  | stopfx3 => simp at other
  | gpiofx3 => simp at other
  | setargfx3 => simp at other
  | _ => exact offPins_silent (makes.mono (by simp [commandKinds]))

end Firmware

end Rx888
