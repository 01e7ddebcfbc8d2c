import Rx888.Pipeline.Does

/-! # What each function does to the pipeline

One specification per function that touches the pipeline: its operations in
order, and which globals it leaves alone.
-/

namespace Rx888

open CallProgram

variable {m : Ram}

/-! ## Reads -/

@[simp] theorem gpifGetSMState_does {Q : List PipeOp → UInt8 → Ram → Prop} :
    Does gpifGetSMState Q m ↔ ∀ state : Option UInt8,
      Q [.smState (state.getD 0xFF)] (state.getD 0xFF) m := by
  simp [gpifGetSMState, call, does_map, opOf, memAfter, Call.mayAnswer]

/-- A read is one transfer, and what it returns is what the transfer answered. -/
theorem i2cTransferRead_does (byteAddress devAddr byteCount : UInt8) (h : byteCount ≠ 0) :
    Does (i2cTransferRead byteAddress devAddr byteCount)
      (fun os a m' => ∃ r,
        os = (opOf (.i2cReceiveBytes
          ⟨[devAddr, byteAddress, devAddr ||| 0x01], 0x0002⟩ byteCount) r).toList ∧
        a = r.map Vector.toList ∧ Unchanged [.console, .counter] m m') m := by
  simp only [i2cTransferRead, h, ↓reduceIte, does_bind, call, does_call, does_ret]
  intro r _
  have failures : Quiet [.counter] (countI2cFailure (statusOf r)) := by simp
  refine does_mono failures.does fun os _ m' q => ?_
  simp only [does_pure, List.append_nil]
  exact ⟨r, by simp [q.1], rfl, q.2⟩

theorem si5351Clk0Enabled_does :
    Does si5351Clk0Enabled
      (fun os up m' => os = [.clk0 up] ∧ Unchanged [.console, .counter] m m') m := by
  refine (i2cTransferRead_does siClk0Control si5351Addr 1 (by decide)).bind ?_
  rintro os a m₁ ⟨r, rfl, rfl, same⟩
  cases r with
  | error e => exact ⟨rfl, same⟩
  | ok data => exact ⟨rfl, same⟩

theorem si5351PllLocked_does :
    Does si5351PllLocked
      (fun os locked m' => os = [.pll locked] ∧ Unchanged [.console, .counter] m m') m := by
  refine (i2cTransferRead_does 0x00 si5351Addr 1 (by decide)).bind ?_
  rintro os a m₁ ⟨r, rfl, rfl, same⟩
  cases r with
  | error e => exact ⟨rfl, same⟩
  | ok data => exact ⟨rfl, same⟩

/-- The outcome of `si5351_clk0_enabled() && si5351_pll_locked()`: the PLL is read only
when CLK0 is up. -/
inductive ClockCheck : List PipeOp → Bool → Prop where
  | clk0Down : ClockCheck [.clk0 false] false
  | clk0Up (locked : Bool) : ClockCheck [.clk0 true, .pll locked] locked

theorem clockHealthy_does :
    Does clockHealthy
      (fun os ok m' => ClockCheck os ok ∧ Unchanged [.console, .counter] m m') m := by
  refine si5351Clk0Enabled_does.bind fun os up m₁ clk0 => ?_
  obtain ⟨rfl, same⟩ := clk0
  cases up with
  | false => exact ⟨.clk0Down, same⟩
  | true =>
      refine does_mono si5351PllLocked_does fun os locked m' pll => ?_
      obtain ⟨rfl, same'⟩ := pll
      exact ⟨.clk0Up locked, same.trans same'⟩

theorem gpifPreflightCheck_does :
    Does gpifPreflightCheck
      (fun os ok m' => ClockCheck os ok ∧ Unchanged [.console, .counter] m m') m := by
  refine si5351Clk0Enabled_does.bind fun os up m₁ clk0 => ?_
  obtain ⟨rfl, same⟩ := clk0
  cases up with
  | false =>
      refine debugPrint_bind_does _ _ fun m₂ printed => ?_
      exact ⟨.clk0Down, same.trans (printed.mono (by simp))⟩
  | true =>
      refine si5351PllLocked_does.bind fun os locked m₂ pll => ?_
      obtain ⟨rfl, same'⟩ := pll
      cases locked with
      | false =>
          refine debugPrint_bind_does _ _ fun m₃ printed => ?_
          exact ⟨.clk0Up false, (same.trans same').trans (printed.mono (by simp))⟩
      | true => exact ⟨.clk0Up true, same.trans same'⟩

/-! ## Starting and stopping -/

theorem ClockCheck.idle {os : List PipeOp} {ok : Bool} (h : ClockCheck os ok) : Idle os := by
  cases h <;> simp

/-- CLK0 was read up and PLL A locked. -/
def healthyClock (os : List PipeOp) : Bool := os.contains (.clk0 true) && os.contains (.pll true)

theorem ClockCheck.healthyClock_eq {os : List PipeOp} {ok : Bool} (h : ClockCheck os ok) :
    healthyClock os = ok := by
  cases h with
  | clk0Down => rfl
  | clk0Up => cases ok <;> rfl

theorem healthyClock_append {os : List PipeOp} (healthy : healthyClock os = true)
    (later : List PipeOp) : healthyClock (os ++ later) = true := by
  unfold healthyClock at healthy ⊢
  simp only [Bool.and_eq_true, List.contains_eq_mem, decide_eq_true_eq] at healthy ⊢
  exact ⟨List.mem_append_left _ healthy.1, List.mem_append_left _ healthy.2⟩

@[simp] theorem rx888r2AdcStandby_does {standby : Bool} {Q : List PipeOp → Unit → Ram → Prop} :
    Does (rx888r2AdcStandby standby) Q m ↔
      ∀ status : ReturnStatus, Q [.shdwn standby (status == cyU3PSuccess)] () m := by
  simp [rx888r2AdcStandby, gpioSetValue, void, opOf, memAfter, Call.mayAnswer]

theorem softStop_does (failed : String) :
    Does (softStop failed)
      (fun os _ m' => (∃ sm, os = [.fwTrg false, .smState sm, .disable (sm != gpifIdle)]) ∧
        Unchanged [.console] m m') m := by
  simp only [softStop, void, does_bind, does_call, does_ret, gpifGetSMState_does]
  intro _ _ _ _ state
  by_cases h : state.getD 0xFF = gpifIdle
  · simp [h, opOf, memAfter, Unchanged.refl]
  · simp only [h, ↓reduceIte, debugPrint, void, does_bind, does_call, does_ret]
    intro text _ _ _
    refine ⟨⟨state.getD 0xFF, ?_⟩, memAfter_unchanged m _ text⟩
    simp [opOf, h]

theorem startGPIF_does :
    Does startGPIF
      (fun os status m' => os = [.load, .start (status == cyU3PSuccess)] ∧
        Unchanged [.console, .pib] m m') m := by
  unfold startGPIF
  refine Quiet.bind_does (by simp : Quiet [.pib] _) fun _ m₁ rearmed => ?_
  refine debugPrint_bind_does _ _ fun m₂ printed => ?_
  refine call_bind_does fun load _ => ?_
  refine Quiet.bind_does (checkStatus_quiet _ _ : Quiet [] _) fun _ m₃ checked => ?_
  refine fun start _ => ⟨rfl, rearmed.trans ((printed.trans checked).mono (by simp))⟩

/-- The operations of a start once the old session is torn down, and whether they end
with FW_TRG raised. -/
inductive RestartOps : List PipeOp → Bool → Prop where
  | noXfer : RestartOps [.setXfer false] false
  | noStart : RestartOps [.setXfer true, .load, .start false] false
  | started : RestartOps [.setXfer true, .load, .start true, .fwTrg true] true

def restartPrelude (ok : Bool) : List PipeOp :=
  [.shdwn false ok, .fwTrg false, .disable true, .dmaReset]

/-- A new session has begun: the watchdog's session state and the buffer count are as
after `health_reset_recovery_count`. -/
def NewSession (m' : Ram) : Prop := m'.session = SessionRam.fresh ∧ m'.glDMACount = 0

theorem healthResetRecoveryCount_does :
    Does healthResetRecoveryCount
      (fun os _ m' => os = [] ∧ m' = { m with session := SessionRam.fresh }) m :=
  ⟨rfl, rfl⟩

/-- After the clearing of the session and of the buffer count, the rest of a handler
that leaves both alone ends in a new session. -/
theorem newSession_of_cleared {but : List Part} {m' : Ram}
    (h : Unchanged but { m with glDMACount := 0, session := SessionRam.fresh } m')
    (hs : Part.session ∉ but) (hb : Part.buffers ∉ but) :
    NewSession m' ∧ Unchanged (.session :: .buffers :: but) m m' := by
  have cleared : Unchanged (.session :: .buffers :: but) m
      { m with glDMACount := 0, session := SessionRam.fresh } := by
    constructor <;> simp
  exact ⟨⟨h.session hs, h.buffers hb⟩, cleared.trans (h.mono (by simp))⟩

abbrev restartParts : List Part := [.session, .buffers, .console, .pib]

theorem restartStream_does :
    Does restartStream
      (fun os status m' => (∃ ok rest up, os = restartPrelude ok ++ rest ∧ RestartOps rest up ∧
          (status = cyU3PSuccess ↔ up = true)) ∧
        NewSession m' ∧ Unchanged restartParts m m') m := by
  unfold restartStream
  refine (does_bind _ _).mpr (rx888r2AdcStandby_does.mpr fun woken => ?_)
  refine void_bind_does fun _ _ => ?_
  refine void_bind_does fun _ _ => ?_
  refine void_bind_does fun _ _ => ?_
  refine void_bind_does fun _ _ => ?_
  refine void_bind_does fun _ _ => ?_
  refine modify_bind_does ?_
  refine healthResetRecoveryCount_does.bind fun os _ m₁ fresh => ?_
  obtain ⟨rfl, rfl⟩ := fresh
  refine call_bind_does fun xfer _ => ?_
  by_cases hx : xfer = cyU3PSuccess
  · simp only [hx, ↓reduceIte]
    refine startGPIF_does.bind fun os start m₂ started => ?_
    obtain ⟨rfl, same⟩ := started
    by_cases hs : start = cyU3PSuccess
    · simp only [hs, ↓reduceIte]
      refine void_bind_does fun _ _ => ?_
      refine ⟨⟨woken == cyU3PSuccess, _, true, rfl, .started, by simp⟩, ?_⟩
      exact newSession_of_cleared same (by simp) (by simp)
    · simp only [hs, ↓reduceIte, does_pure]
      refine ⟨⟨woken == cyU3PSuccess, _, false, ?_, .noStart, by simp⟩, ?_⟩
      · simp [opOf, hs, restartPrelude]
      · exact newSession_of_cleared same (by simp) (by simp)
  · simp only [hx, ↓reduceIte, does_pure]
    refine ⟨⟨woken == cyU3PSuccess, [.setXfer false], false, ?_, .noXfer, by simp⟩, ?_⟩
    · simp [opOf, hx, restartPrelude]
    · exact newSession_of_cleared (Unchanged.refl _ _) (by simp) (by simp)

/-- The operations of STARTFX3, by whether its preflight check passed. -/
inductive StartOps : List PipeOp → Bool → Prop where
  | refused {os : List PipeOp} (check : ClockCheck os false) : StartOps os false
  | restarted {rest : List PipeOp} {up : Bool} (ok : Bool) (sm : UInt8)
      (restart : RestartOps rest up) :
      StartOps ([.clk0 true, .pll true] ++ restartPrelude ok ++ rest ++ [.smState sm]) true

theorem reportStart_does (apiRetStatus : ReturnStatus) :
    Does (reportStart apiRetStatus)
      (fun os _ m' => (∃ sm, os = [.smState sm]) ∧ Unchanged [.console] m m') m := by
  have finish : ∀ m₁, Unchanged [.console] m m₁ → Does (do
      let smState ← gpifGetSMState
      debugPrint "\r\nGO s=%d r=%d" [.num smState.toUInt32, .num apiRetStatus])
      (fun os _ m' => (∃ sm, os = [.smState sm]) ∧ Unchanged [.console] m m') m₁ := by
    intro m₁ same
    refine (does_bind _ _).mpr (gpifGetSMState_does.mpr fun state => ?_)
    refine does_mono (Quiet.does (debugPrint_quiet _ _ : Quiet [] _)) fun os _ m' printed => ?_
    exact ⟨⟨state.getD 0xFF, by simp [printed.1]⟩, same.trans printed.2⟩
  unfold reportStart
  by_cases h : apiRetStatus = cyU3PSuccess
  · simp only [ne_eq, h, not_true_eq_false, ↓reduceIte] at finish ⊢
    exact finish m (Unchanged.refl _ _)
  · simp only [ne_eq, h, not_false_eq_true, ↓reduceIte]
    refine debugPrint_bind_does _ _ fun m₁ printed => ?_
    refine Quiet.bind_does (stallEP0_quiet : Quiet [] _) fun _ m₂ stalled => ?_
    exact finish m₂ (printed.trans stalled)

abbrev startParts : List Part := [.usb, .counter] ++ restartParts

theorem startfx3_does (s : Setup) :
    Does (startfx3 s)
      (fun os _ m' => ∃ passed, StartOps os passed ∧ (passed = true → NewSession m') ∧
        (passed = false → Unchanged [.console, .usb, .counter] m m') ∧
        Unchanged startParts m m') m := by
  unfold startfx3
  refine void_bind_does fun _ _ => ?_
  refine Quiet.bind_does (by simp : Quiet [.usb] _) fun _ m₁ got => ?_
  refine gpifPreflightCheck_does.bind fun os passed m₂ checked => ?_
  obtain ⟨check, same⟩ := checked
  have before : Unchanged [.console, .usb, .counter] m m₂ :=
    (got.mono (by simp)).trans (same.mono (by simp))
  cases passed with
  | false =>
      simp only [Bool.false_eq_true, not_false_eq_true, ↓reduceIte]
      refine Quiet.bind_does (stallEP0_quiet : Quiet [] _) fun _ m₃ stalled => ?_
      have after := before.trans (stalled.mono (by simp))
      refine ⟨false, .refused ?_, by simp, fun _ => after, after.mono (by simp)⟩
      simpa [opOf] using check
  | true =>
      simp only [not_true_eq_false, ↓reduceIte]
      refine restartStream_does.bind fun os' status m₃ restarted => ?_
      obtain ⟨⟨ok, rest, up, rfl, restart, -⟩, fresh, kept⟩ := restarted
      refine (reportStart_does status).bind fun os' _ m₄ reported => ?_
      obtain ⟨⟨sm, rfl⟩, printed⟩ := reported
      cases check with
      | clk0Up _ =>
          refine ⟨true, ?_, fun _ => ⟨?_, ?_⟩, by simp, ?_⟩
          · simpa [opOf] using StartOps.restarted ok sm restart
          · rw [printed.session (by simp), fresh.1]
          · rw [printed.buffers (by simp), fresh.2]
          · exact (before.mono (by simp)).trans
              ((kept.mono (by simp)).trans (printed.mono (by simp)))

inductive StopOps : List PipeOp → Prop where
  | stopped (sm sm' : UInt8) (ok : Bool) :
      StopOps [.fwTrg false, .smState sm, .disable (sm != gpifIdle), .dmaReset,
        .shdwn true ok, .smState sm']

abbrev stopParts : List Part := [.console, .usb, .session, .buffers]

theorem stopfx3_does (s : Setup) :
    Does (stopfx3 s)
      (fun os _ m' => StopOps os ∧ NewSession m' ∧ Unchanged stopParts m m') m := by
  unfold stopfx3
  refine void_bind_does fun _ _ => ?_
  refine Quiet.bind_does (by simp : Quiet [.usb] _) fun _ m₁ got => ?_
  refine (softStop_does _).bind fun os _ m₂ stopped => ?_
  obtain ⟨⟨sm, rfl⟩, same⟩ := stopped
  refine void_bind_does fun _ _ => ?_
  refine void_bind_does fun _ _ => ?_
  refine modify_bind_does ?_
  refine healthResetRecoveryCount_does.bind fun os _ m₃ fresh => ?_
  obtain ⟨rfl, rfl⟩ := fresh
  refine (does_bind _ _).mpr (rx888r2AdcStandby_does.mpr fun parked => ?_)
  refine (does_bind _ _).mpr (gpifGetSMState_does.mpr fun state => ?_)
  refine debugPrint_bind_does _ _ fun m₄ printed => ?_
  have after : NewSession m₄ ∧ Unchanged [.session, .buffers, .console] m₂ m₄ :=
    newSession_of_cleared printed (by simp) (by simp)
  refine ⟨?_, after.1, ?_⟩
  · simpa [opOf] using StopOps.stopped sm (state.getD 0xFF) (parked == cyU3PSuccess)
  · exact (got.mono (by simp)).trans ((same.mono (by simp)).trans (after.2.mono (by simp)))

/-! ## STARTADC -/

/-- STARTADC's stop of a state machine it finds in `sm`. -/
def implicitStopOps (sm : UInt8) : List PipeOp :=
  .smState sm :: if sm ≠ gpifReset ∧ sm ≠ 0xFF then [.fwTrg false, .disable true, .dmaReset]
    else []

theorem implicitStop_does :
    Does implicitStop
      (fun os _ m' => (∃ sm, os = implicitStopOps sm) ∧ Unchanged [.console] m m') m := by
  unfold implicitStop
  refine (does_bind _ _).mpr (gpifGetSMState_does.mpr fun state => ?_)
  by_cases h : state.getD 0xFF ≠ gpifReset ∧ state.getD 0xFF ≠ 0xFF
  · rw [if_pos h]
    refine debugPrint_bind_does _ _ fun m₁ printed => ?_
    intro _ _ _ _ _ _ _ _
    refine ⟨⟨state.getD 0xFF, ?_⟩, printed⟩
    rw [implicitStopOps, if_pos h]
    rfl
  · rw [if_neg h]
    refine ⟨⟨state.getD 0xFF, ?_⟩, Unchanged.refl _ _⟩
    rw [implicitStopOps, if_neg h]
    rfl

inductive AdcOps : List PipeOp → Prop where
  | noData : AdcOps []
  | programmed (sm : UInt8) {rest : List PipeOp} (idle : Idle rest) :
      AdcOps (implicitStopOps sm ++ rest)

theorem startadc_does (s : Setup) :
    Does (startadc s)
      (fun os _ m' => AdcOps os ∧ Unchanged [.console, .usb, .counter] m m') m := by
  unfold startadc
  refine Quiet.bind_does (by simp : Quiet [.usb] _) fun status m₁ got => ?_
  by_cases data : status = cyU3PSuccess
  · simp only [data, ↓reduceIte]
    refine (does_bind _ _).mpr (does_ram.mpr ?_)
    refine implicitStop_does.bind fun os _ m₂ stopped => ?_
    obtain ⟨⟨sm, rfl⟩, same⟩ := stopped
    refine Idling.bind_does (by simp : Idling [.counter] _) fun os status m₃ writes same₃ => ?_
    have sofar : Unchanged [.console, .usb, .counter] m m₃ :=
      (got.mono (by simp)).trans ((same.mono (by simp)).trans (same₃.mono (by simp)))
    by_cases ok : status = cyU3PSuccess
    · simp only [ok, ↓reduceIte]
      refine Idling.bind_does (by simp : Idling [.counter] _) fun os' _ m₄ polls same₄ => ?_
      refine ⟨?_, sofar.trans (same₄.mono (by simp))⟩
      simpa using AdcOps.programmed sm ((idle_append _ _).mpr ⟨writes, polls⟩)
    · simp only [ok, ↓reduceIte]
      refine debugPrint_bind_does _ _ fun m₄ printed => ?_
      refine ⟨?_, sofar.trans (printed.mono (by simp))⟩
      simpa using AdcOps.programmed sm writes
  · simp only [data, ↓reduceIte, does_pure]
    exact ⟨.noData, got.mono (by simp)⟩

/-! ## The other commands -/

theorem rx888r2GpioSet_does (mdata : UInt32) :
    Does (rx888r2GpioSet mdata)
      (fun os _ m' => (∃ ok, os = [.shdwn ((mdata &&& shdwn) == shdwn) ok]) ∧ m' = m) m := by
  intro status _ _ _ _ _ _ _ _ _ _ _ _ _ _ _
  exact ⟨⟨status == cyU3PSuccess, rfl⟩, rfl⟩

inductive GpioOps : List PipeOp → Prop where
  | noData : GpioOps []
  | driven (level ok : Bool) : GpioOps [.shdwn level ok]

theorem gpiofx3_does (s : Setup) :
    Does (gpiofx3 s)
      (fun os _ m' => GpioOps os ∧ Unchanged [.console, .usb, .counter] m m') m := by
  unfold gpiofx3
  refine Quiet.bind_does (by simp : Quiet [.usb] _) fun status m₁ got => ?_
  by_cases data : status = cyU3PSuccess
  · simp only [data, ↓reduceIte]
    refine (does_bind _ _).mpr (does_ram.mpr ?_)
    refine (rx888r2GpioSet_does _).bind fun os _ m₂ set => ?_
    obtain ⟨⟨ok, rfl⟩, rfl⟩ := set
    exact ⟨.driven _ ok, got.mono (by simp)⟩
  · simp only [data, ↓reduceIte, does_pure]
    exact ⟨.noData, got.mono (by simp)⟩

/-! ## A whole request -/

/-- The command a setup packet has executed: a vendor request that is neither too long
nor in the wrong direction. -/
def Setup.command? (s : Setup) : Option FX3Command :=
  if s.bType = cyU3PUsbVendorRqt ∧ ¬ s.wLength > UInt16.ofNat cyfxSdrappMaxEp0len ∧
      ¬ s.directionMismatch then
    FX3Command.ofCode? s.bRequest
  else none

abbrev requestParts : List Part :=
  [.ep0, .console, .usb, .counter, .qevent, .health, .hooks]

/-- What a request that executes `command` does. -/
def RequestDoes (command : Option FX3Command) (m : Ram) (os : List PipeOp) (m' : Ram) : Prop :=
  match command with
  | some .startfx3 =>
      ∃ passed, StartOps os passed ∧ (passed = true → NewSession m') ∧
        (passed = false → Unchanged requestParts m m') ∧
        Unchanged (restartParts ++ requestParts) m m'
  | some .stopfx3 => StopOps os ∧ NewSession m' ∧ Unchanged (restartParts ++ requestParts) m m'
  | some .startadc => AdcOps os ∧ Unchanged requestParts m m'
  | some .gpiofx3 => GpioOps os ∧ Unchanged requestParts m m'
  | _ => Idle os ∧ Unchanged requestParts m m'

theorem requestDoes_of_idling {command : Option FX3Command} {p : Fw Bool}
    (h : Idling requestParts p) (other : ∀ c ∈ [.startfx3, .stopfx3, .startadc, .gpiofx3],
      command ≠ some c) :
    Does p (fun os _ m' => RequestDoes command m os m') m := by
  refine does_mono h.does fun os _ m' q => ?_
  have same := q.2.mono (by simp : Part.console :: requestParts ⊆ requestParts)
  cases command with
  | none => exact ⟨q.1, same⟩
  | some c => cases c <;> first | exact ⟨q.1, same⟩ | simp at other

theorem vendorCommand_does (s : Setup) (command : Option FX3Command) :
    Does (vendorCommand s command) (fun os _ m' => RequestDoes command m os m') m := by
  cases command with
  | none => exact requestDoes_of_idling (by simp [vendorCommand]) (by simp)
  | some c =>
      cases c with
      | startfx3 =>
          refine does_mono (startfx3_does s) fun os _ m' h => ?_
          obtain ⟨passed, ops, fresh, refused, same⟩ := h
          exact ⟨passed, ops, fresh, fun no => (refused no).mono (by simp), same.mono (by simp)⟩
      | stopfx3 =>
          exact does_mono (stopfx3_does s) fun os _ m' h => ⟨h.1, h.2.1, h.2.2.mono (by simp)⟩
      | startadc => exact does_mono (startadc_does s) fun os _ m' h => ⟨h.1, h.2.mono (by simp)⟩
      | gpiofx3 => exact does_mono (gpiofx3_does s) fun os _ m' h => ⟨h.1, h.2.mono (by simp)⟩
      | _ => exact requestDoes_of_idling (by simp [vendorCommand]) (by simp)

theorem RequestDoes.frame {command : Option FX3Command} {os : List PipeOp} {m₁ m₂ m₃ : Ram}
    (h : RequestDoes command m₁ os m₂) (before : Unchanged requestParts m m₁)
    (after : Unchanged requestParts m₂ m₃) : RequestDoes command m os m₃ := by
  have around {but : List Part} (sub : requestParts ⊆ but) (same : Unchanged but m₁ m₂) :
      Unchanged but m m₃ :=
    (before.mono sub).trans (same.trans (after.mono sub))
  have fresh (h : NewSession m₂) : NewSession m₃ :=
    ⟨(after.session (by simp)).trans h.1, (after.buffers (by simp)).trans h.2⟩
  unfold RequestDoes at h ⊢
  split at h
  · obtain ⟨passed, ops, new, refused, same⟩ := h
    exact ⟨passed, ops, fun yes => fresh (new yes),
      fun no => around (List.Subset.refl _) (refused no), around (by simp) same⟩
  · exact ⟨h.1, fresh h.2.1, around (by simp) h.2.2⟩
  all_goals exact ⟨h.1, around (List.Subset.refl _) h.2⟩

theorem vendorRequest_does (s : Setup) (vendor : s.bType = cyU3PUsbVendorRqt) :
    Does (vendorRequest s) (fun os _ m' => RequestDoes s.command? m os m') m := by
  unfold vendorRequest
  by_cases long : s.wLength > UInt16.ofNat cyfxSdrappMaxEp0len
  · rw [if_pos long]
    have refused : s.command? = none := by simp [Setup.command?, long]
    rw [refused]
    exact requestDoes_of_idling (by simp) (by simp)
  rw [if_neg long]
  by_cases mismatch : s.directionMismatch
  · rw [if_pos mismatch]
    have refused : s.command? = none := by simp [Setup.command?, mismatch]
    rw [refused]
    exact requestDoes_of_idling (by simp) (by simp)
  rw [if_neg mismatch]
  have accepted : s.command? = FX3Command.ofCode? s.bRequest := by
    simp [Setup.command?, vendor, long, mismatch]
  rw [accepted]
  refine (vendorCommand_does s _).bind fun os isHandled m₁ done => ?_
  refine Quiet.bind_does (traceSerial_quiet _ _ _ : Quiet [] _) fun _ m₂ traced => ?_
  rw [does_pure, List.append_nil]
  exact done.frame (Unchanged.refl _ _) (traced.mono (by simp))

theorem setupRequest_does (s : Setup) :
    Does (setupRequest s) (fun os _ m' => RequestDoes s.command? m os m') m := by
  unfold setupRequest
  by_cases standard : s.bType = cyU3PUsbStandardRqt
  · rw [if_pos standard]
    have other : s.command? = none := by
      have : ¬ cyU3PUsbStandardRqt = cyU3PUsbVendorRqt := by decide
      simp [Setup.command?, standard, this]
    rw [other]
    exact requestDoes_of_idling (by simp) (by simp)
  rw [if_neg standard]
  by_cases vendor : s.bType = cyU3PUsbVendorRqt
  · rw [if_pos vendor]
    exact vendorRequest_does s vendor
  · rw [if_neg vendor]
    have other : s.command? = none := by simp [Setup.command?, vendor]
    rw [other]
    exact ⟨idle_nil, Unchanged.refl _ _⟩

/-- A request in the callback, which leaves no handler in progress. -/
theorem cyFxSlFifoApplnUSBSetupCB_does (setupdat0 setupdat1 : UInt32) :
    Does (cyFxSlFifoApplnUSBSetupCB setupdat0 setupdat1)
      (fun os _ m' => RequestDoes (Setup.decode setupdat0 setupdat1).command? m os m' ∧
        m'.ep0.ep0HandlerInProgress = false) m := by
  unfold cyFxSlFifoApplnUSBSetupCB
  refine Quiet.bind_does (by simp : Quiet [.ep0] _) fun _ m₁ entered => ?_
  refine (setupRequest_does _).bind fun os isHandled m₂ done => ?_
  refine modify_bind_does ?_
  rw [does_pure, List.append_nil]
  refine ⟨done.frame (entered.mono (by simp)) ?_, rfl⟩
  constructor <;> first | exact fun _ => rfl | simp

/-! ## USB events -/

def startAppOps (xfer start : Bool) : List PipeOp :=
  [.dmaCreate, .setXfer xfer, .load, .start start]

def stopAppOps (ok : Bool) : List PipeOp := [.disable true, .dmaDestroy, .shdwn true ok]

abbrev appParts : List Part := [.console, .app, .pib, .buffers, .counter]

theorem startApplication_does :
    Does startApplication
      (fun os _ m' => (∃ xfer start, os = startAppOps xfer start) ∧
        m'.app.glIsApplnActive = true ∧ Unchanged appParts m m') m := by
  unfold startApplication
  refine call_bind_does fun _ _ => ?_
  refine debugPrint_bind_does _ _ fun m₁ s₁ => ?_
  refine call_bind_does fun _ _ => ?_
  refine Quiet.bind_does (checkStatus_quiet _ _ : Quiet [] _) fun _ m₂ s₂ => ?_
  refine Quiet.bind_does (by simp : Quiet [.pib, .buffers, .counter] _) fun _ m₃ s₃ => ?_
  refine call_bind_does fun _ _ => ?_
  refine Quiet.bind_does (checkStatus_quiet _ _ : Quiet [] _) fun _ m₄ s₄ => ?_
  refine void_bind_does fun _ _ => ?_
  refine call_bind_does fun _ _ => ?_
  refine Quiet.bind_does (checkStatus_quiet _ _ : Quiet [] _) fun _ m₅ s₅ => ?_
  refine call_bind_does fun xfer _ => ?_
  refine Quiet.bind_does (checkStatus_quiet _ _ : Quiet [] _) fun _ m₆ s₆ => ?_
  refine void_bind_does fun _ _ => ?_
  refine startGPIF_does.bind fun os start m₇ s₇ => ?_
  obtain ⟨rfl, s₇⟩ := s₇
  refine Quiet.bind_does (checkStatus_quiet _ _ : Quiet [] _) fun _ m₈ s₈ => ?_
  have upTo₃ : Unchanged appParts m m₃ :=
    ((s₁.trans s₂).mono (by simp)).trans (s₃.mono (by simp))
  have upTo₆ : Unchanged appParts m m₆ :=
    upTo₃.trans (((s₄.trans s₅).trans s₆).mono (by simp))
  have upTo₈ : Unchanged appParts m m₈ :=
    upTo₆.trans ((s₇.mono (by simp)).trans (s₈.mono (by simp)))
  refine ⟨⟨xfer == cyU3PSuccess, start == cyU3PSuccess, rfl⟩, rfl, upTo₈.trans ?_⟩
  constructor <;> first | exact fun _ => rfl | simp

theorem stopApplication_does :
    Does stopApplication
      (fun os _ m' => (∃ ok, os = stopAppOps ok) ∧
        m'.app.glIsApplnActive = false ∧ Unchanged appParts m m') m := by
  unfold stopApplication
  refine void_bind_does fun _ _ => ?_
  refine call_bind_does fun _ _ => ?_
  refine Quiet.bind_does (checkStatus_quiet _ _ : Quiet [] _) fun _ m₁ s₁ => ?_
  refine call_bind_does fun _ _ => ?_
  refine Quiet.bind_does (checkStatus_quiet _ _ : Quiet [] _) fun _ m₂ s₂ => ?_
  refine call_bind_does fun _ _ => ?_
  refine Quiet.bind_does (checkStatus_quiet _ _ : Quiet [] _) fun _ m₃ s₃ => ?_
  refine call_bind_does fun _ _ => ?_
  refine Quiet.bind_does (checkStatus_quiet _ _ : Quiet [] _) fun _ m₄ s₄ => ?_
  refine (does_bind _ _).mpr (rx888r2AdcStandby_does.mpr fun parked => ?_)
  have upTo₄ : Unchanged appParts m m₄ :=
    (((s₁.trans s₂).trans s₃).trans s₄).mono (by simp)
  refine ⟨⟨parked == cyU3PSuccess, rfl⟩, rfl, upTo₄.trans ?_⟩
  constructor <;> first | exact fun _ => rfl | simp

/-- What a USB event does: a configuration restarts the application, a reset or a
disconnect stops it, and anything else leaves the pipeline alone. -/
inductive UsbEventDoes (evtype : UInt8) (active : Bool) : List PipeOp → Bool → Prop where
  | restarted (ok xfer start : Bool) (event : evtype = cyU3PUsbEventSetconf)
      (was : active = true) :
      UsbEventDoes evtype active (stopAppOps ok ++ startAppOps xfer start) true
  | started (xfer start : Bool) (event : evtype = cyU3PUsbEventSetconf)
      (was : active = false) : UsbEventDoes evtype active (startAppOps xfer start) true
  | stopped (ok : Bool)
      (event : evtype = cyU3PUsbEventReset ∨ evtype = cyU3PUsbEventDisconnect)
      (was : active = true) : UsbEventDoes evtype active (stopAppOps ok) false
  | unaffected (event : evtype ≠ cyU3PUsbEventSetconf)
      (idle : active = false ∨
        (evtype ≠ cyU3PUsbEventReset ∧ evtype ≠ cyU3PUsbEventDisconnect)) :
      UsbEventDoes evtype active [] active

theorem usbEventCallback_does (evtype : UInt8) (evdata : UInt16) :
    Does (usbEventCallback evtype evdata)
      (fun os _ m' =>
        UsbEventDoes evtype m.app.glIsApplnActive os m'.app.glIsApplnActive ∧
        Unchanged appParts m m') m := by
  unfold usbEventCallback
  refine plain_bind_does (fun _ => rfl) (fun _ => rfl) ?_
  by_cases setconf : evtype = cyU3PUsbEventSetconf
  · rw [if_pos setconf]
    refine (does_bind _ _).mpr (does_ram.mpr ?_)
    by_cases was : m.app.glIsApplnActive = true
    · rw [if_pos was]
      refine stopApplication_does.bind fun os _ m₁ stopped => ?_
      obtain ⟨⟨ok, rfl⟩, -, same⟩ := stopped
      refine does_mono startApplication_does fun os _ m' started => ?_
      obtain ⟨⟨xfer, start, rfl⟩, active, same'⟩ := started
      rw [active]
      exact ⟨.restarted ok xfer start setconf was, same.trans same'⟩
    · rw [if_neg was]
      refine does_mono startApplication_does fun os _ m' started => ?_
      obtain ⟨⟨xfer, start, rfl⟩, active, same⟩ := started
      rw [active]
      exact ⟨.started xfer start setconf (Bool.eq_false_iff.mpr was), same⟩
  rw [if_neg setconf]
  by_cases gone : evtype = cyU3PUsbEventReset ∨ evtype = cyU3PUsbEventDisconnect
  · rw [if_pos gone]
    refine (does_bind _ _).mpr (does_ram.mpr ?_)
    by_cases was : m.app.glIsApplnActive = true
    · rw [if_pos was]
      refine stopApplication_does.bind fun os _ m₁ stopped => ?_
      obtain ⟨⟨ok, rfl⟩, inactive, same⟩ := stopped
      refine fun r _ => ⟨?_, same⟩
      have active : (memAfter m₁ .usbLPMEnable r).app.glIsApplnActive = false := inactive
      rw [active]
      exact .stopped ok gone was
    · rw [if_neg was]
      exact ⟨.unaffected setconf (.inl (Bool.eq_false_iff.mpr was)), Unchanged.refl _ _⟩
  · rw [if_neg gone]
    have others : Quiet [.counter] (if evtype = cyU3PUsbEventEpUnderrun then do
        countUp 2
        debugPrint "\r\nEP Underrun on %d" [.num evdata.toUInt32]
      else pure ()) := by simp
    refine does_mono others.does fun os _ m' q => ?_
    obtain ⟨rfl, same⟩ := q
    rw [same.app (by simp)]
    exact ⟨.unaffected setconf (.inr (not_or.mp gone)), same.mono (by simp)⟩

/-! ## The boot -/

theorem confGpioSimpleOut_quiet {pin : UInt8} (h : pin ≠ gpioShdwn) :
    Quiet [] (confGpioSimpleOut pin) := by
  simp [confGpioSimpleOut, call, Call.plain, h]

/-- Configured as an output, the SHDWN line is low. -/
theorem confGpioSimpleOut_shdwn_does :
    Does (confGpioSimpleOut gpioShdwn)
      (fun os _ m' => (∃ ok, os = [.shdwn false ok]) ∧ Unchanged [.console] m m') m := by
  unfold confGpioSimpleOut
  refine call_bind_does fun _ _ => ?_
  refine Quiet.bind_does (by simp : Quiet [] _) fun _ m₁ s₁ => ?_
  refine call_bind_does fun status _ => ?_
  refine does_mono (Quiet.does (by simp : Quiet [] _)) fun os _ m' q => ?_
  obtain ⟨rfl, s₂⟩ := q
  exact ⟨⟨status == cyU3PSuccess, rfl⟩, s₁.trans s₂⟩

theorem confOutputs_quiet {pins : List UInt8} (h : gpioShdwn ∉ pins) :
    Quiet [] (confOutputs pins) := by
  induction pins with
  | nil => exact within_pure _
  | cons pin pins ih =>
      have other : pin ≠ gpioShdwn := fun same => h (same ▸ List.mem_cons_self)
      refine within_bind.mpr ⟨confGpioSimpleOut_quiet other, fun _ _ => ?_⟩
      exact ih fun later => h (List.mem_cons_of_mem _ later)

/-- The front end's start-up: SHDWN is configured low, cleared with the other control
lines, and driven high at the end. -/
def gpioInitOps (ok₁ ok₂ ok₃ : Bool) : List PipeOp :=
  [.shdwn false ok₁, .shdwn false ok₂, .shdwn true ok₃]

theorem rx888r2GpioInitialize_does :
    Does rx888r2GpioInitialize
      (fun os _ m' => (∃ ok₁ ok₂ ok₃, os = gpioInitOps ok₁ ok₂ ok₃) ∧
        Unchanged [.console] m m') m := by
  have set {pin : UInt8} (h : pin ≠ gpioShdwn) (level : Bool) :
      Quiet [] (gpioSetValue pin level) := gpioSetValue_quiet level h
  unfold rx888r2GpioInitialize confOutputs
  refine (does_bind _ _).mpr (confGpioSimpleOut_shdwn_does.bind fun os _ m₁ configured => ?_)
  obtain ⟨⟨ok₁, rfl⟩, s₁⟩ := configured
  refine does_mono (confOutputs_quiet (by decide)).does fun os _ m₂ outputs => ?_
  obtain ⟨rfl, s₂⟩ := outputs
  refine (rx888r2GpioSet_does ledBlue).bind fun os _ m₃ cleared => ?_
  obtain ⟨⟨ok₂, rfl⟩, rfl⟩ := cleared
  refine Quiet.bind_does (set (by decide) false) fun _ m₄ s₄ => ?_
  refine Quiet.bind_does (set (by decide) false) fun _ m₅ s₅ => ?_
  refine Quiet.bind_does (set (by decide) false) fun _ m₆ s₆ => ?_
  refine Quiet.bind_does (set (by decide) true) fun _ m₇ s₇ => ?_
  refine Quiet.bind_does (set (by decide) true) fun _ m₈ s₈ => ?_
  refine rx888r2AdcStandby_does.mpr fun parked => ?_
  refine ⟨⟨ok₁, ok₂, parked == cyU3PSuccess, rfl⟩, (s₁.trans s₂).trans ?_⟩
  exact (((s₄.trans s₅).trans s₆).trans s₇).trans s₈

theorem setDescriptors_quiet (descriptors : List String) (overall : ReturnStatus) :
    Quiet [] (setDescriptors descriptors overall) := by
  induction descriptors generalizing overall with
  | nil => exact within_pure _
  | cons descr rest ih => simp [setDescriptors, call, Call.plain, ih]

/-- The operations of the USB start-up: the application is started at once when the
boot loader left the connection up. -/
inductive UsbInitOps : List PipeOp → Prop where
  | connect : UsbInitOps []
  | restart (xfer start : Bool) : UsbInitOps (startAppOps xfer start)

theorem setUSBdescriptors_quiet : Quiet [] setUSBdescriptors := by
  simp [setUSBdescriptors, setDescriptors_quiet, call, Call.plain]

theorem startUSBDriver_quiet : Quiet [] startUSBDriver := by
  simp [startUSBDriver, call, Call.plain]

theorem initializeUSB_does (inactive : m.app.glIsApplnActive = false) :
    Does initializeUSB (fun os _ m' => UsbInitOps os ∧
      m'.app.glIsApplnActive = !os.isEmpty ∧ Unchanged appParts m m') m := by
  unfold initializeUSB
  refine startUSBDriver_quiet.bind_does fun needToRenumerate m₁ s₁ => ?_
  refine plain_bind_does (fun _ => rfl) (fun _ => rfl) ?_
  refine setUSBdescriptors_quiet.bind_does fun status m₂ s₂ => ?_
  refine Quiet.bind_does (checkStatus_quiet _ _ : Quiet [] _) fun _ m₃ s₃ => ?_
  have sofar := (s₁.trans s₂).trans s₃
  have app₃ : m₃.app.glIsApplnActive = false := by
    rw [sofar.app (by simp), inactive]
  cases needToRenumerate with
  | true =>
      refine call_bind_does fun _ _ => ?_
      refine Quiet.bind_does (checkStatus_quiet _ _ : Quiet [] _) fun _ m₄ s₄ => ?_
      have all := sofar.trans s₄
      refine ⟨.connect, ?_, all.mono (by simp)⟩
      rw [all.app (by simp), inactive]
      rfl
  | false =>
      refine (does_bind _ _).mpr (does_ram.mpr ?_)
      rw [if_neg (by simp [app₃])]
      refine startApplication_does.bind fun os _ m₄ started => ?_
      obtain ⟨⟨xfer, start, rfl⟩, active, s₄⟩ := started
      exact ⟨.restart xfer start, active, (sofar.mono (by simp)).trans s₄⟩

/-- The operations of a boot, by those of its USB start-up. -/
inductive BootOps (usb : List PipeOp) : List PipeOp → Prop where
  | booted {clock : List PipeOp} (ok₁ ok₂ ok₃ : Bool) (idle : Idle clock)
      (init : UsbInitOps usb) :
      BootOps usb (.deviceInit :: (clock ++ gpioInitOps ok₁ ok₂ ok₃ ++ usb))

theorem healthInit_does :
    Does healthInit
      (fun os _ m' => os = [] ∧ m'.ep0.ep0HandlerInProgress = false ∧
        m'.health.glBootCount = m.health.glBootCount + 1 ∧ Unchanged [.ep0, .health] m m') m := by
  intro _ _ _ _
  refine ⟨rfl, rfl, rfl, ?_⟩
  constructor <;> first | exact fun _ => rfl | simp

theorem cyFxApplicationDefine_does :
    Does cyFxApplicationDefine
      (fun os _ m' => os = [] ∧ m'.ep0.ep0HandlerInProgress = false ∧
        m'.health.glBootCount = m.health.glBootCount + 1 ∧
        Unchanged [.console, .ep0, .health] m m') m := by
  have console : Quiet [.console] initializeDebugConsole := by
    simp [initializeDebugConsole, call, Call.plain]
  unfold cyFxApplicationDefine
  refine Quiet.bind_does (indicateError_quiet 0 : Quiet [] _) fun _ m₁ s₁ => ?_
  refine console.bind_does fun _ m₂ s₂ => ?_
  refine Quiet.bind_does (checkStatus_quiet _ _ : Quiet [] _) fun _ m₃ s₃ => ?_
  refine healthInit_does.bind fun os _ m₄ init => ?_
  obtain ⟨rfl, idle, counted, s₄⟩ := init
  refine does_mono (Quiet.does (by simp [call, Call.plain] : Quiet [] _)) fun os _ m' rest => ?_
  obtain ⟨rfl, s₅⟩ := rest
  have upTo₃ : Unchanged [.console] m m₃ :=
    ((s₁.mono (by simp)).trans (s₂.mono (by simp))).trans (s₃.mono (by simp))
  refine ⟨rfl, ?_, ?_, ?_⟩
  · rw [s₅.ep0 (by simp), idle]
  · rw [s₅.health (by simp), counted, upTo₃.health (by simp)]
  · have upTo₃ : Unchanged [.console, .ep0, .health] m m₃ := upTo₃.mono (by simp)
    exact upTo₃.trans ((s₄.mono (by simp)).trans (s₅.mono (by simp)))

theorem applicationThreadStart_does (input : UInt32) (inactive : m.app.glIsApplnActive = false) :
    Does (applicationThreadStart input)
      (fun os _ m' => ∃ clock ok₁ ok₂ ok₃ usb, os = clock ++ gpioInitOps ok₁ ok₂ ok₃ ++ usb ∧
        Idle clock ∧ UsbInitOps usb ∧ m'.app.glIsApplnActive = !usb.isEmpty ∧
        Unchanged appParts m m') m := by
  unfold applicationThreadStart
  refine modify_bind_does ?_
  have model : Unchanged appParts m { m with app := { m.app with glHWconfig := rx888r2 } } := by
    constructor <;> first | exact fun _ => rfl | simp
  have clock : Quiet [] gpioInitClock := by simp [gpioInitClock, call, Call.plain]
  have chip : Idling [.counter] initClock := by simp [initClock]
  refine clock.bind_does fun _ m₁ s₁ => ?_
  refine chip.bind_does fun osClock _ m₂ idle s₂ => ?_
  refine (does_bind _ _).mpr (does_ram.mpr ?_)
  refine debugPrint_bind_does _ _ fun m₃ s₃ => ?_
  refine rx888r2GpioInitialize_does.bind fun os _ m₄ gpio => ?_
  obtain ⟨⟨ok₁, ok₂, ok₃, rfl⟩, s₄⟩ := gpio
  have app₄ : m₄.app.glIsApplnActive = false := by
    rw [(s₃.trans s₄).app (by simp), s₂.app (by simp), s₁.app (by simp)]
    exact inactive
  refine (initializeUSB_does app₄).bind fun osUsb status m₅ usb => ?_
  obtain ⟨init, active, s₅⟩ := usb
  have report : Quiet [] (do
      checkStatus "Initialize USB" status
      if status = cyU3PSuccess then
        debugPrint "\r\nApplication started with %d" [.num input]
      else
        debugPrint "\r\nApplication failed to initialize. Error code: %d.\r\n" [.num status]) := by
    simp
  refine does_mono report.does fun os _ m' reported => ?_
  obtain ⟨rfl, s₆⟩ := reported
  refine ⟨osClock, ok₁, ok₂, ok₃, osUsb, by simp, idle, init, ?_, ?_⟩
  · rw [s₆.app (by simp), active]
  · have upTo₄ : Unchanged appParts m m₄ :=
      model.trans (((s₁.mono (by simp)).trans (s₂.mono (by simp))).trans
        ((s₃.trans s₄).mono (by simp)))
    exact upTo₄.trans (s₅.trans (s₆.mono (by simp)))

/-- A boot leaves a fresh session, no handler in progress and the test hooks unarmed. -/
theorem boot_does :
    Does boot
      (fun os _ m' => ∃ usb, BootOps usb os ∧ m'.app.glIsApplnActive = !usb.isEmpty ∧
        m'.ep0.ep0HandlerInProgress = false ∧
        Unchanged ([.ep0, .health] ++ appParts) Ram.init m') m := by
  unfold boot
  refine void_bind_does fun _ _ => ?_
  refine modify_bind_does ?_
  refine cyFxApplicationDefine_does.bind fun os _ m₁ defined => ?_
  obtain ⟨rfl, idle, -, s₁⟩ := defined
  have app₁ : m₁.app.glIsApplnActive = false := by
    rw [s₁.app (by simp)]
    rfl
  refine does_mono (applicationThreadStart_does 0 app₁) fun os _ m' started => ?_
  obtain ⟨clock, ok₁, ok₂, ok₃, usb, rfl, chip, init, active, s₂⟩ := started
  refine ⟨usb, ?_, active, ?_, (s₁.mono (by simp)).trans (s₂.mono (by simp))⟩
  · exact .booted ok₁ ok₂ ok₃ chip init
  · rw [s₂.ep0 (by simp), idle]

/-- Every boot counts from zero. -/
theorem boot_counts : Does boot (fun _ _ m' => m'.health.glBootCount = 1) m := by
  unfold boot
  refine void_bind_does fun _ _ => ?_
  refine modify_bind_does ?_
  refine cyFxApplicationDefine_does.bind fun os _ m₁ defined => ?_
  obtain ⟨-, -, counted, s₁⟩ := defined
  have app₁ : m₁.app.glIsApplnActive = false := by
    rw [s₁.app (by simp)]
    rfl
  refine does_mono (applicationThreadStart_does 0 app₁) fun os _ m' started => ?_
  obtain ⟨clock, ok₁, ok₂, ok₃, usb, -, -, -, -, s₂⟩ := started
  rw [s₂.health (by simp), counted]
  rfl

end Rx888
