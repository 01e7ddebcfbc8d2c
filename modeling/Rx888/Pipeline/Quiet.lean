import Rx888.Pipeline.Op

/-! # Programs that leave the pipeline alone

`Quiet parts p`: no call of `p` is a pipeline operation or an I2C transfer, and its
writes stay within the listed parts of the memory. Most of the firmware is quiet;
the rules below are a simp set, so that a function's quietness follows from its
text and its callees'. `Idling` programs may also read the state machine and talk to
the I2C devices.
-/

namespace Rx888

open CallProgram

inductive Part where
  | ep0
  | session
  | health
  | hooks
  | pib
  | app
  | console
  | usb
  | buffers
  | qevent
  | counter
  deriving DecidableEq, Repr

/-- The two memories agree outside the parts `but`. -/
structure Unchanged (but : List Part) (m m' : Ram) : Prop where
  ep0 : Part.ep0 ∉ but → m'.ep0 = m.ep0
  session : Part.session ∉ but → m'.session = m.session
  health : Part.health ∉ but → m'.health = m.health
  hooks : Part.hooks ∉ but → m'.hooks = m.hooks
  pib : Part.pib ∉ but → m'.pib = m.pib
  app : Part.app ∉ but → m'.app = m.app
  console : Part.console ∉ but → m'.console = m.console
  usb : Part.usb ∉ but → m'.usb = m.usb
  buffers : Part.buffers ∉ but → m'.glDMACount = m.glDMACount
  qevent : Part.qevent ∉ but → m'.glQevent = m.glQevent
  counter : Part.counter ∉ but → m'.glCounter = m.glCounter

section Unchanged

variable {but but' : List Part} {m m' m'' : Ram}

theorem Unchanged.refl (but : List Part) (m : Ram) : Unchanged but m m := by
  constructor <;> exact fun _ => rfl

theorem Unchanged.trans (h : Unchanged but m m') (h' : Unchanged but m' m'') :
    Unchanged but m m'' where
  ep0 out := (h'.ep0 out).trans (h.ep0 out)
  session out := (h'.session out).trans (h.session out)
  health out := (h'.health out).trans (h.health out)
  hooks out := (h'.hooks out).trans (h.hooks out)
  pib out := (h'.pib out).trans (h.pib out)
  app out := (h'.app out).trans (h.app out)
  console out := (h'.console out).trans (h.console out)
  usb out := (h'.usb out).trans (h.usb out)
  buffers out := (h'.buffers out).trans (h.buffers out)
  qevent out := (h'.qevent out).trans (h.qevent out)
  counter out := (h'.counter out).trans (h.counter out)

theorem Unchanged.mono (h : Unchanged but m m') (sub : but ⊆ but') : Unchanged but' m m' where
  ep0 out := h.ep0 fun hin => out (sub hin)
  session out := h.session fun hin => out (sub hin)
  health out := h.health fun hin => out (sub hin)
  hooks out := h.hooks fun hin => out (sub hin)
  pib out := h.pib fun hin => out (sub hin)
  app out := h.app fun hin => out (sub hin)
  console out := h.console fun hin => out (sub hin)
  usb out := h.usb fun hin => out (sub hin)
  buffers out := h.buffers fun hin => out (sub hin)
  qevent out := h.qevent fun hin => out (sub hin)
  counter out := h.counter fun hin => out (sub hin)

end Unchanged

/-- A debug message changes the console's buffer only. -/
theorem debugPrint2USB_unchanged (m : Ram) (text : Option (List UInt8)) :
    Unchanged [.console] m (debugPrint2USB m text) := by
  cases text with
  | none => exact Unchanged.refl _ m
  | some text =>
      simp only [debugPrint2USB]
      split
      · constructor <;> first | exact fun _ => rfl | simp
      · exact Unchanged.refl _ m

/-- An answered call changes the console's buffer only. -/
theorem memAfter_unchanged (m : Ram) (c : Call) (r : c.Ans) :
    Unchanged [.console] m (memAfter m c r) := by
  cases c with
  | debugPrint fmt args => exact debugPrint2USB_unchanged m r
  | _ => exact Unchanged.refl _ m

/-! ## Quiet programs -/

/-- Neither a pipeline operation nor an I2C transfer. -/
def Call.plain : Call → Bool
  | .deviceInit | .gpifControlSWInput _ | .gpifDisable _ | .gpifLoad | .gpifSMStart _ _
  | .gpifGetSMState | .dmaMultiChannelCreate | .dmaMultiChannelDestroy | .dmaMultiChannelReset
  | .dmaMultiChannelSetXfer _ _ | .i2cReceiveBytes _ _ | .i2cTransmitBytes _ _ => false
  | .gpioSetSimpleConfig pin _ | .gpioSetValue pin _ => pin != gpioShdwn
  | _ => true

attribute [local simp] Call.plain

theorem opOf_plain {c : Call} (r : c.Ans) (h : c.plain = true) : opOf c r = none := by
  cases c <;> simp_all [opOf]

/-- The writes stay within `parts` and the calls satisfy `calls`. -/
def Within {α : Type} (parts : List Part) (calls : Call → Bool) (p : Fw α) : Prop :=
  p.Uses (fun f => ∀ m, Unchanged parts m (f m)) fun c => calls c = true

abbrev allParts : List Part :=
  [.ep0, .session, .health, .hooks, .pib, .app, .console, .usb, .buffers, .qevent, .counter]

abbrev Quiet {α : Type} (parts : List Part) (p : Fw α) : Prop := Within parts Call.plain p

/-- Plain, or a read of the state machine, or an I2C transfer. -/
def Call.idle : Call → Bool
  | .gpifGetSMState | .i2cReceiveBytes _ _ | .i2cTransmitBytes _ _ => true
  | c => c.plain

/-- Leaves the pipeline as it is, but may look at it and talk to the I2C devices. -/
abbrev Idling {α : Type} (parts : List Part) (p : Fw α) : Prop := Within parts Call.idle p

/-- Any calls at all. -/
abbrev Confined {α : Type} (parts : List Part) (p : Fw α) : Prop := Within parts (fun _ => true) p

section Within

variable {α β : Type} {parts : List Part} {calls : Call → Bool} {p q : Fw α} {f : α → Fw β}

@[simp] theorem within_pure (a : α) : Within parts calls (pure a : Fw α) := trivial

@[simp] theorem within_ret (a : α) : Within parts calls (Prog.ret a : Fw α) := trivial

@[simp] theorem within_bind : Within parts calls (p >>= f) ↔
    Within parts calls p ∧ ∀ a, p.Returns a → Within parts calls (f a) :=
  Prog.uses_bind p f

@[simp] theorem within_map (g : α → β) :
    Within parts calls (g <$> p) ↔ Within parts calls p :=
  Prog.uses_map p g

@[simp] theorem within_ite (c : Prop) [Decidable c] :
    Within parts calls (if c then p else q) ↔
      (c → Within parts calls p) ∧ (¬ c → Within parts calls q) :=
  Prog.uses_ite c p q

@[simp] theorem within_ram : Within parts calls ram := fun _ => trivial

@[simp] theorem within_call (c : Call) (k : c.Ans → Fw α) :
    Within parts calls (Prog.call c k) ↔ calls c = true ∧ ∀ r, Within parts calls (k r) :=
  Iff.rfl

@[simp] theorem within_void (c : Call) : Within parts calls (void c) ↔ calls c = true :=
  ⟨fun h => h.1, fun h => ⟨h, fun _ => trivial⟩⟩

theorem within_modify {g : Ram → Ram} (h : ∀ m, Unchanged parts m (g m)) :
    Within parts calls (modify g) :=
  ⟨h, trivial⟩

theorem Within.mono {parts' : List Part} {calls' : Call → Bool} (h : Within parts calls p)
    (sub : parts ⊆ parts') (le : ∀ c, calls c = true → calls' c = true) :
    Within parts' calls' p :=
  Prog.Uses.mono h (fun _ hg m => (hg m).mono sub) le

@[simp] theorem idling_of_quiet (h : Quiet parts p) : Idling parts p :=
  Within.mono h (List.Subset.refl _) fun c hc => by
    cases c <;> first | exact hc | rfl

@[simp] theorem confined_of_quiet (h : Quiet parts p) : Confined parts p :=
  Within.mono h (List.Subset.refl _) fun _ _ => rfl

@[simp] theorem confined_of_idling (h : Idling parts p) : Confined parts p :=
  Within.mono h (List.Subset.refl _) fun _ _ => rfl

@[simp] theorem within_modifyEp0 (g : Ep0Ram → Ep0Ram) (h : Part.ep0 ∈ parts) :
    Within parts calls (modifyEp0 g) :=
  within_modify fun _ => by constructor <;> first | exact fun _ => rfl | exact absurd h

@[simp] theorem within_modifySession (g : SessionRam → SessionRam) (h : Part.session ∈ parts) :
    Within parts calls (modifySession g) :=
  within_modify fun _ => by constructor <;> first | exact fun _ => rfl | exact absurd h

@[simp] theorem within_modifyHealth (g : HealthRam → HealthRam) (h : Part.health ∈ parts) :
    Within parts calls (modifyHealth g) :=
  within_modify fun _ => by constructor <;> first | exact fun _ => rfl | exact absurd h

@[simp] theorem within_modifyHooks (g : HookRam → HookRam) (h : Part.hooks ∈ parts) :
    Within parts calls (modifyHooks g) :=
  within_modify fun _ => by constructor <;> first | exact fun _ => rfl | exact absurd h

@[simp] theorem within_modifyPib (g : PibRam → PibRam) (h : Part.pib ∈ parts) :
    Within parts calls (modifyPib g) :=
  within_modify fun _ => by constructor <;> first | exact fun _ => rfl | exact absurd h

@[simp] theorem within_modifyApp (g : AppRam → AppRam) (h : Part.app ∈ parts) :
    Within parts calls (modifyApp g) :=
  within_modify fun _ => by constructor <;> first | exact fun _ => rfl | exact absurd h

@[simp] theorem within_modifyConsole (g : ConsoleRam → ConsoleRam) (h : Part.console ∈ parts) :
    Within parts calls (modifyConsole g) :=
  within_modify fun _ => by constructor <;> first | exact fun _ => rfl | exact absurd h

@[simp] theorem within_modifyUsb (g : UsbRam → UsbRam) (h : Part.usb ∈ parts) :
    Within parts calls (modifyUsb g) :=
  within_modify fun _ => by constructor <;> first | exact fun _ => rfl | exact absurd h

@[simp] theorem within_modifyDMACount (g : UInt32 → UInt32) (h : Part.buffers ∈ parts) :
    Within parts calls (modifyDMACount g) :=
  within_modify fun _ => by constructor <;> first | exact fun _ => rfl | exact absurd h

@[simp] theorem within_setQevent (message : UInt32) (h : Part.qevent ∈ parts) :
    Within parts calls (setQevent message) :=
  within_modify fun _ => by constructor <;> first | exact fun _ => rfl | exact absurd h

@[simp] theorem within_countUp (i : Fin 20) (h : Part.counter ∈ parts) :
    Within parts calls (countUp i) :=
  within_modify fun _ => by constructor <;> first | exact fun _ => rfl | exact absurd h

@[simp] theorem within_countClear (i : Fin 20) (h : Part.counter ∈ parts) :
    Within parts calls (countClear i) :=
  within_modify fun _ => by constructor <;> first | exact fun _ => rfl | exact absurd h

end Within

/-! ## The quiet functions of the firmware -/

section Firmware

variable {parts : List Part}

@[simp] theorem debugPrint_quiet (fmt : String) (args : List DebugArg) :
    Quiet parts (debugPrint fmt args) := by
  simp [debugPrint]

@[simp] theorem indicateError_quiet (errorCode : UInt16) :
    Quiet parts (indicateError errorCode) := by
  simp [indicateError, gpioLedBluePin, gpioShdwn]

@[simp] theorem errorBlink_quiet (count : Nat) : Quiet parts (errorBlink count) := by
  induction count with
  | zero => exact within_pure ()
  | succ count ih => simp [errorBlink, ih, gpioLedBluePin, gpioShdwn]

@[simp] theorem errorBlinkAndReset_quiet : Quiet parts errorBlinkAndReset := by
  simp [errorBlinkAndReset]

@[simp] theorem checkStatus_quiet (name : String) (status : ReturnStatus) :
    Quiet parts (checkStatus name status) := by
  simp [checkStatus]

@[simp] theorem checkStatusSilent_quiet (name : String) (status : ReturnStatus) :
    Quiet parts (checkStatusSilent name status) := by
  simp [checkStatusSilent]

@[simp] theorem consoleAccumulateChar_quiet (ch : UInt8) (h : Part.console ∈ parts) :
    Quiet parts (consoleAccumulateChar ch) := by
  simp [consoleAccumulateChar, h]

@[simp] theorem i2cInit_quiet : Quiet parts i2cInit := by
  simp [i2cInit, call]

@[simp] theorem countI2cFailure_quiet (status : ReturnStatus) (h : Part.counter ∈ parts) :
    Quiet parts (countI2cFailure status) := by
  simp [countI2cFailure, h]

/-! ### The front end, the SHDWN line apart -/

theorem gpioSetValue_quiet {pin : UInt8} (level : Bool) (h : pin ≠ gpioShdwn) :
    Quiet parts (gpioSetValue pin level) := by
  simp [gpioSetValue, h]

@[simp] theorem gpioBit_quiet (pin : UInt8) (level : Bool) (bit s : UInt32) :
    Quiet parts (gpioBit pin level bit s) := by
  unfold gpioBit
  refine within_bind.mpr ⟨by simp [call], fun v _ => ?_⟩
  cases v <;> simp

@[simp] theorem rx888r2ReadGpioState_quiet : Quiet parts rx888r2ReadGpioState := by
  simp [rx888r2ReadGpioState]

theorem gpioShiftBits_quiet (mask : UInt8) (bits : Nat) (value : UInt8) :
    Quiet parts (gpioShiftBits mask bits value) := by
  induction bits generalizing value with
  | zero => exact within_pure ()
  | succ bits ih =>
      simp [gpioShiftBits, ih, gpioSetValue, gpioAttData, gpioAttClk, gpioShdwn]

theorem gpioShiftOut_quiet {latchPin : UInt8} (value : UInt8) (bits : Nat)
    (h : latchPin ≠ gpioShdwn) : Quiet parts (gpioShiftOut latchPin value bits) := by
  simp [gpioShiftOut, gpioShiftBits_quiet, gpioSetValue_quiet _ h,
    gpioSetValue_quiet _ (show gpioAttClk ≠ gpioShdwn by decide)]

@[simp] theorem rx888r2SetAttenuator_quiet (value : UInt8) :
    Quiet parts (rx888r2SetAttenuator value) := by
  have latch : gpioAttLe ≠ gpioShdwn := by decide
  simp [rx888r2SetAttenuator, gpioShiftOut_quiet _ _ latch, gpioSetValue_quiet _ latch]

@[simp] theorem rx888r2SetGain_quiet (value : UInt8) : Quiet parts (rx888r2SetGain value) := by
  have latch : gpioVgaLe ≠ gpioShdwn := by decide
  have data : gpioAttData ≠ gpioShdwn := by decide
  simp [rx888r2SetGain, gpioShiftOut_quiet _ _ latch, gpioSetValue_quiet _ data]

/-! ### Health -/

@[simp] theorem healthMainHeartbeat_quiet (h : Part.health ∈ parts) :
    Quiet parts healthMainHeartbeat := by
  simp [healthMainHeartbeat, h]

@[simp] theorem healthInit_quiet (he : Part.ep0 ∈ parts) (hh : Part.health ∈ parts) :
    Quiet parts healthInit := by
  simp [healthInit, he, hh]

@[simp] theorem healthBootCount_quiet : Quiet parts healthBootCount := by
  simp [healthBootCount]

@[simp] theorem healthRecordEvent_quiet (e : HealthEvent) (h : Part.ep0 ∈ parts) :
    Quiet parts (healthRecordEvent e) := by
  cases e <;> simp [healthRecordEvent, h, call]

@[simp] theorem healthSetMaxRecovery_quiet (max : UInt8) (h : Part.health ∈ parts) :
    Quiet parts (healthSetMaxRecovery max) := by
  simp [healthSetMaxRecovery, h]

@[simp] theorem healthResetRecoveryCount_quiet (h : Part.session ∈ parts) :
    Quiet parts healthResetRecoveryCount := by
  simp [healthResetRecoveryCount, h]

@[simp] theorem healthSetResetEscalation_quiet (enabled : Bool) (h : Part.health ∈ parts) :
    Quiet parts (healthSetResetEscalation enabled) := by
  simp [healthSetResetEscalation, h]

/-! ### Requests -/

@[simp] theorem ep0Put_quiet (off : Nat) (bytes : List UInt8) (h : Part.usb ∈ parts) :
    Quiet parts (ep0Put off bytes) := by
  simp [ep0Put, h]

@[simp] theorem ep0Clear_quiet (h : Part.usb ∈ parts) : Quiet parts ep0Clear := by
  simp [ep0Clear, h]

@[simp] theorem getEP0Data_quiet (wLength : UInt16) (h : Part.usb ∈ parts) :
    Quiet parts (getEP0Data wLength) := by
  unfold getEP0Data
  refine within_bind.mpr ⟨by simp [call], fun answer _ => ?_⟩
  cases answer <;> simp [h]

@[simp] theorem sendEP0Data_quiet (count : UInt16) : Quiet parts (sendEP0Data count) := by
  simp [sendEP0Data]

@[simp] theorem stallEP0_quiet : Quiet parts stallEP0 := by
  simp [stallEP0]

@[simp] theorem countVendorRqt_quiet (h : Part.usb ∈ parts) : Quiet parts countVendorRqt := by
  simp [countVendorRqt, h]

@[simp] theorem traceCommand_quiet (bRequest : UInt8) : Quiet parts (traceCommand bRequest) := by
  unfold traceCommand
  split <;> simp

@[simp] theorem traceArguments_quiet (bRequest : UInt8) (wValue wIndex : UInt16) :
    Quiet parts (traceArguments bRequest wValue wIndex) := by
  unfold traceArguments
  split
  · split <;> simp
  all_goals simp

@[simp] theorem traceSerial_quiet (bRequest : UInt8) (wValue wIndex : UInt16) :
    Quiet parts (traceSerial bRequest wValue wIndex) := by
  simp [traceSerial]

@[simp] theorem setargfx3_quiet (s : Setup) (hu : Part.usb ∈ parts) (hh : Part.health ∈ parts) :
    Quiet parts (setargfx3 s) := by
  unfold setargfx3
  refine within_bind.mpr ⟨getEP0Data_quiet _ hu, fun _ _ => ?_⟩
  cases ArgumentList.ofIndex? s.wIndex with
  | none => simp
  | some arg => cases arg <;> simp [hu, hh]

@[simp] theorem resetfx3_quiet (s : Setup) (h : Part.usb ∈ parts) : Quiet parts (resetfx3 s) := by
  simp [resetfx3, h]

@[simp] theorem testfx3_quiet (s : Setup) (hu : Part.usb ∈ parts) (hc : Part.console ∈ parts) :
    Quiet parts (testfx3 s) := by
  simp [testfx3, hu, hc]

@[simp] theorem hangfx3_quiet (s : Setup) : Quiet parts (hangfx3 s) := by
  simp [hangfx3]

@[simp] theorem hangcoldstart_quiet (s : Setup) (h : Part.hooks ∈ parts) :
    Quiet parts (hangcoldstart s) := by
  simp [hangcoldstart, h]

@[simp] theorem hangmain_quiet (s : Setup) (h : Part.hooks ∈ parts) :
    Quiet parts (hangmain s) := by
  simp [hangmain, h]

@[simp] theorem readinfodebug_quiet (s : Setup) (hq : Part.qevent ∈ parts) (hu : Part.usb ∈ parts)
    (hc : Part.console ∈ parts) : Quiet parts (readinfodebug s) := by
  simp [readinfodebug, hq, hu, hc, call]

@[simp] theorem unknownRequest_quiet (s : Setup) : Quiet parts (unknownRequest s) := by
  simp [unknownRequest]

@[simp] theorem standardRequest_quiet (s : Setup) : Quiet parts (standardRequest s) := by
  simp [standardRequest]

/-! ### The application -/

@[simp] theorem clearStreamCounters_quiet (hp : Part.pib ∈ parts) (hb : Part.buffers ∈ parts)
    (hc : Part.counter ∈ parts) : Quiet parts clearStreamCounters := by
  simp [clearStreamCounters, hp, hb, hc]

/-! ## The idling functions -/

@[simp] theorem gpifGetSMState_idling : Idling parts gpifGetSMState := by
  simp [gpifGetSMState, call, Call.idle]

@[simp] theorem i2cTransferRead_idling (byteAddress devAddr byteCount : UInt8)
    (h : Part.counter ∈ parts) :
    Idling parts (i2cTransferRead byteAddress devAddr byteCount) := by
  simp [i2cTransferRead, call, Call.idle, h]

@[simp] theorem i2cTransferWrite_idling (byteAddress devAddr byteCount : UInt8)
    (buffer : List UInt8) (h : Part.counter ∈ parts) :
    Idling parts (i2cTransferWrite byteAddress devAddr byteCount buffer) := by
  simp [i2cTransferWrite, call, Call.idle, h]

@[simp] theorem i2cTransferW1_idling (byteAddress devAddr data : UInt8)
    (h : Part.counter ∈ parts) : Idling parts (i2cTransferW1 byteAddress devAddr data) := by
  simp [i2cTransferW1, h]

theorem writeRegisters_idling (regs : List (UInt8 × UInt8)) (h : Part.counter ∈ parts) :
    Idling parts (writeRegisters regs) := by
  induction regs with
  | nil => exact within_pure _
  | cons entry rest ih => simp [writeRegisters, h, ih]

@[simp] theorem si5351Init_idling (h : Part.counter ∈ parts) : Idling parts si5351Init :=
  writeRegisters_idling _ h

@[simp] theorem si5351aSetFrequencyA_idling (freq : UInt32) (h : Part.counter ∈ parts) :
    Idling parts (si5351aSetFrequencyA freq) := by
  simp [si5351aSetFrequencyA, setupPLL, setupMultisynth, call, Call.idle, h]

@[simp] theorem si5351PllLocked_idling (h : Part.counter ∈ parts) :
    Idling parts si5351PllLocked := by
  refine within_bind.mpr ⟨i2cTransferRead_idling _ _ _ h, fun data _ => ?_⟩
  cases data <;> exact within_pure _

@[simp] theorem si5351Clk0Enabled_idling (h : Part.counter ∈ parts) :
    Idling parts si5351Clk0Enabled := by
  refine within_bind.mpr ⟨i2cTransferRead_idling _ _ _ h, fun data _ => ?_⟩
  cases data <;> exact within_pure _

@[simp] theorem pollPllLocked_idling (rounds : Nat) (h : Part.counter ∈ parts) :
    Idling parts (pollPllLocked rounds) := by
  induction rounds with
  | zero => exact within_pure _
  | succ rounds ih => simp [pollPllLocked, h, ih]

@[simp] theorem readRegisterOr_idling (reg initial : UInt8) (h : Part.counter ∈ parts) :
    Idling parts (readRegisterOr reg initial) := by
  refine within_bind.mpr ⟨i2cTransferRead_idling _ _ _ h, fun data _ => ?_⟩
  cases data <;> exact within_pure _

@[simp] theorem getstats_idling (s : Setup) (hu : Part.usb ∈ parts) (hc : Part.counter ∈ parts) :
    Idling parts (getstats s) := by
  simp [getstats, hu, hc]

@[simp] theorem i2cwfx3_idling (s : Setup) (hu : Part.usb ∈ parts) (hc : Part.counter ∈ parts) :
    Idling parts (i2cwfx3 s) := by
  simp [i2cwfx3, hu, hc, call, Call.idle]

@[simp] theorem i2crfx3_idling (s : Setup) (hu : Part.usb ∈ parts) (hc : Part.counter ∈ parts) :
    Idling parts (i2crfx3 s) := by
  unfold i2crfx3
  refine (within_ite _).mpr ⟨fun _ => by simp [hc], fun _ => within_bind.mpr ⟨?_, fun _ _ => ?_⟩⟩
  · simp [hu]
  · refine within_bind.mpr ⟨i2cTransferRead_idling _ _ _ hc, fun data _ => ?_⟩
    cases data with
    | error e => simp [call, Call.idle]
    | ok data => simp [hu]

end Firmware

/-! ## What a request may write -/

/-- What the case of a command may write. -/
def commandParts : Option FX3Command → List Part
  | some .gpiofx3 | some .resetfx3 => [.usb]
  | some .startadc | some .getstats | some .i2cwfx3 | some .i2crfx3 => [.usb, .counter]
  | some .setargfx3 => [.usb, .health]
  | some .startfx3 => [.usb, .counter, .session, .buffers, .pib]
  | some .stopfx3 => [.usb, .session, .buffers]
  | some .testfx3 => [.usb, .console]
  | some .readinfodebug => [.qevent, .usb, .console]
  | some .hangcoldstart | some .hangmain => [.hooks]
  | some .hangfx3 | none => []

theorem startfx3_confined (s : Setup) :
    Confined [.usb, .counter, .session, .buffers, .pib] (startfx3 s) := by
  simp [startfx3, gpifPreflightCheck, restartStream, startGPIF, reportStart, rx888r2AdcStandby,
    gpioSetValue, call]

theorem stopfx3_confined (s : Setup) : Confined [.usb, .session, .buffers] (stopfx3 s) := by
  simp [stopfx3, softStop, rx888r2AdcStandby, gpioSetValue]

theorem startadc_confined (s : Setup) : Confined [.usb, .counter] (startadc s) := by
  simp [startadc, implicitStop]

theorem gpiofx3_confined (s : Setup) : Confined [.usb] (gpiofx3 s) := by
  simp [gpiofx3, rx888r2GpioSet, gpioSetValue]

theorem vendorCommand_confined (s : Setup) (command : Option FX3Command) :
    Confined (commandParts command) (vendorCommand s command) := by
  cases command with
  | none => simp [vendorCommand]
  | some c =>
      cases c with
      | startfx3 => exact startfx3_confined s
      | stopfx3 => exact stopfx3_confined s
      | startadc => exact startadc_confined s
      | gpiofx3 => exact gpiofx3_confined s
      | _ => simp [vendorCommand, commandParts]

end Rx888
