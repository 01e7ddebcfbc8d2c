import Rx888.Device.Bench

/-! # The clock chip's reserved registers

The Si5351 sets its register pointer to the byte address sent and moves it on by one,
modulo 256, with every byte read or written. No program of the firmware makes it touch
a register outside the documented set, and the guard on the host's I2C path refuses
nothing else.
-/

namespace Rx888

open CallProgram

/-- The registers an access of `n` bytes walks over. -/
def registersFrom (byteAddress : UInt8) (n : Nat) : List UInt8 :=
  (List.range n).map fun k => byteAddress + UInt8.ofNat k

def touched (devAddr byteAddress : UInt8) (n : Nat) : List UInt8 :=
  if devAddr &&& 0xFE == 0xC0 then registersFrom byteAddress n else []

def Call.si5351Registers : Call → List UInt8
  | .i2cReceiveBytes preamble byteCount =>
      touched (preamble.buffer.getD 0 0) (preamble.buffer.getD 1 0) byteCount.toNat
  | .i2cTransmitBytes preamble bytes =>
      touched (preamble.buffer.getD 0 0) (preamble.buffer.getD 1 0) bytes.length
  | _ => []

def Call.guarded (c : Call) : Bool := c.si5351Registers.all si5351RegWritable

/-! ## Programs that stay within the documented registers -/

abbrev Guarded {α : Type} (p : Fw α) : Prop := Within allParts Call.guarded p

section Guarded

variable {α : Type}

theorem plain_guarded {c : Call} (h : c.plain = true) : c.guarded = true := by
  cases c <;> first | rfl | simp [Call.plain] at h

@[simp] theorem guarded_of_quiet {p : Fw α} (h : Quiet allParts p) : Guarded p :=
  Within.mono h (List.Subset.refl _) fun _ hc => plain_guarded hc

theorem i2cTransferRead_guarded (byteAddress devAddr byteCount : UInt8)
    (h : (touched devAddr byteAddress byteCount.toNat).all si5351RegWritable = true) :
    Guarded (i2cTransferRead byteAddress devAddr byteCount) := by
  simp [i2cTransferRead, call, Call.guarded, Call.si5351Registers, h]

/-- A shorter access touches no more. -/
theorem touched_le (devAddr byteAddress : UInt8) {n n' : Nat} (shorter : n' ≤ n)
    (h : (touched devAddr byteAddress n).all si5351RegWritable = true) :
    (touched devAddr byteAddress n').all si5351RegWritable = true := by
  unfold touched at h ⊢
  split
  next at_chip =>
    rw [if_pos at_chip] at h
    rw [List.all_eq_true] at h ⊢
    intro r hr
    obtain ⟨k, hk, rfl⟩ := List.mem_map.mp hr
    have inside : k < n := by
      rw [List.mem_range] at hk
      omega
    exact h _ (List.mem_map.mpr ⟨k, List.mem_range.mpr inside, rfl⟩)
  next => rfl

theorem touched_one (byteAddress : UInt8) : touched si5351Addr byteAddress 1 = [byteAddress] := by
  have at_chip : (si5351Addr &&& 0xFE == 0xC0) = true := by decide
  rw [touched, if_pos at_chip]
  simp [registersFrom]

theorem i2cTransferWrite_guarded (byteAddress devAddr byteCount : UInt8) (buffer : List UInt8)
    (h : (touched devAddr byteAddress byteCount.toNat).all si5351RegWritable = true) :
    Guarded (i2cTransferWrite byteAddress devAddr byteCount buffer) := by
  unfold i2cTransferWrite
  refine (within_ite _).mpr ⟨fun _ => within_pure _, fun _ => within_bind.mpr ⟨?_, ?_⟩⟩
  · refine (within_call _ _).mpr ⟨?_, fun _ => within_ret _⟩
    have short : (buffer.take byteCount.toNat).length ≤ byteCount.toNat := by
      rw [List.length_take]
      omega
    exact touched_le devAddr byteAddress short h
  · intro status _
    simp

theorem i2cTransferW1_guarded (byteAddress data : UInt8)
    (h : si5351RegWritable byteAddress = true) :
    Guarded (i2cTransferW1 byteAddress si5351Addr data) := by
  refine i2cTransferWrite_guarded _ _ _ _ ?_
  show (touched si5351Addr byteAddress 1).all si5351RegWritable = true
  rw [touched_one]
  simpa using h

theorem writeRegisters_guarded {regs : List (UInt8 × UInt8)}
    (h : ∀ entry ∈ regs, si5351RegWritable entry.1 = true) : Guarded (writeRegisters regs) := by
  induction regs with
  | nil => exact within_pure _
  | cons entry rest ih =>
      have later := ih fun e he => h e (List.mem_cons_of_mem _ he)
      have first := i2cTransferW1_guarded entry.1 entry.2 (h entry (by simp))
      unfold writeRegisters
      refine within_bind.mpr ⟨first, fun status _ => ?_⟩
      simp [later]

/-- The power-up programming writes documented registers only. -/
theorem si5351Init_guarded : Guarded si5351Init :=
  writeRegisters_guarded (List.all_eq_true.mp (by decide))

theorem si5351aSetFrequencyA_guarded (freq : UInt32) : Guarded (si5351aSetFrequencyA freq) := by
  have clk0 (data : UInt8) : Guarded (i2cTransferW1 siClk0Control si5351Addr data) :=
    i2cTransferW1_guarded _ _ (by decide)
  have reset (data : UInt8) : Guarded (i2cTransferW1 siPllReset si5351Addr data) :=
    i2cTransferW1_guarded _ _ (by decide)
  have pll (mult : UInt8) (num denom : UInt32) : Guarded (setupPLL siSynthPllA mult num denom) :=
    i2cTransferWrite_guarded _ _ _ _ (by decide)
  have synth (divider : UInt32) (rDiv : UInt8) :
      Guarded (setupMultisynth siSynthMs0 divider rDiv) :=
    i2cTransferWrite_guarded _ _ _ _ (by decide)
  have failed : Call.guarded .i2cGetErrorCode = true := rfl
  simp [si5351aSetFrequencyA, clk0, reset, pll, synth, call, failed]

@[simp] theorem si5351PllLocked_guarded : Guarded si5351PllLocked := by
  refine within_bind.mpr ⟨i2cTransferRead_guarded _ _ _ (by decide), fun data _ => ?_⟩
  cases data <;> exact within_pure _

@[simp] theorem si5351Clk0Enabled_guarded : Guarded si5351Clk0Enabled := by
  refine within_bind.mpr ⟨i2cTransferRead_guarded _ _ _ (by decide), fun data _ => ?_⟩
  cases data <;> exact within_pure _

@[simp] theorem pollPllLocked_guarded (rounds : Nat) : Guarded (pollPllLocked rounds) := by
  have sleep : Call.guarded (.threadSleep 1) = true := rfl
  induction rounds with
  | zero => exact within_pure _
  | succ rounds ih => simp [pollPllLocked, ih, sleep]

theorem readRegisterOr_guarded (reg initial : UInt8) (h : si5351RegWritable reg = true) :
    Guarded (readRegisterOr reg initial) := by
  refine within_bind.mpr ⟨i2cTransferRead_guarded _ _ _ ?_, fun data _ => ?_⟩
  · show (touched si5351Addr reg 1).all si5351RegWritable = true
    rw [touched_one]
    simpa using h
  · cases data <;> exact within_pure _

@[simp] theorem gpifGetSMState_guarded : Guarded gpifGetSMState := by
  simp [gpifGetSMState, call, Call.guarded, Call.si5351Registers]

end Guarded

/-! ## The guard on the host's path -/

/-- The loop refuses exactly when a register of the access is reserved. -/
theorem reservedFrom_eq_false (wIndex : UInt16) (left : Nat) (k : UInt16) :
    reservedFrom wIndex left k = false ↔
      ∀ j < left, si5351RegWritable (wIndex + (k + UInt16.ofNat j)).toUInt8 = true := by
  induction left generalizing k with
  | zero => simp [reservedFrom]
  | succ left ih =>
      have shift (j : Nat) : k + 1 + UInt16.ofNat j = k + UInt16.ofNat (j + 1) := by
        rw [UInt16.ofNat_add, UInt16.add_assoc, UInt16.add_comm 1]
        rfl
      unfold reservedFrom
      by_cases first : si5351RegWritable (wIndex + k).toUInt8 = true
      · rw [if_neg (by simpa using first), ih]
        constructor
        · intro h j hj
          cases j with
          | zero => simpa using first
          | succ j => exact shift j ▸ h j (by omega)
        · intro h j hj
          rw [shift]
          exact h (j + 1) (by omega)
      · rw [if_pos (by simpa using first)]
        constructor
        · intro h
          cases h
        · intro h
          exact absurd (by simpa using h 0 (by omega)) first

theorem toUInt8_walk (wIndex : UInt16) (k : Nat) :
    (wIndex + (0 + UInt16.ofNat k)).toUInt8 = wIndex.toUInt8 + UInt8.ofNat k := by
  rw [UInt16.zero_add, UInt16.toUInt8_add, UInt16.toUInt8_ofNat']

/-- What the guard lets through touches documented registers only, after the address,
the register and the count have lost their upper bytes. -/
theorem touched_of_unblocked {wValue wIndex wLength : UInt16}
    (h : si5351AccessBlocked wValue wIndex wLength = false) :
    (touched wValue.toUInt8 wIndex.toUInt8 wLength.toUInt8.toNat).all si5351RegWritable = true := by
  have count : wLength.toUInt8.toNat ≤ wLength.toNat := by
    rw [UInt16.toNat_toUInt8]
    omega
  unfold touched
  split
  next at_chip =>
    have chip : wValue.toUInt8 &&& 0xFE = 0xC0 := by simpa using at_chip
    rw [List.all_eq_true]
    intro r hr
    obtain ⟨k, hk, rfl⟩ := List.mem_map.mp hr
    rw [List.mem_range] at hk
    unfold si5351AccessBlocked at h
    by_cases none : wLength = 0
    · subst none
      simp at hk
    rw [if_neg none, if_neg (by simpa using chip)] at h
    by_cases odd : wValue.toUInt8 &&& 0x01 ≠ 0
    · rw [if_pos odd] at h
      cases h
    · rw [if_neg odd] at h
      have writable := (reservedFrom_eq_false wIndex wLength.toNat 0).mp h k (by omega)
      rwa [toUInt8_walk] at writable
  next => rfl

/-- What touches documented registers only, or another device, the guard lets through. -/
theorem unblocked_of_allowed {wValue wIndex wLength : UInt16}
    (h : wValue.toUInt8 &&& 0xFE ≠ 0xC0 ∨ wValue.toUInt8 = 0xC0 ∧
      ∀ k < wLength.toNat, si5351RegWritable (wIndex.toUInt8 + UInt8.ofNat k) = true) :
    si5351AccessBlocked wValue wIndex wLength = false := by
  unfold si5351AccessBlocked
  by_cases none : wLength = 0
  · rw [if_pos none]
  rw [if_neg none]
  rcases h with other | ⟨chip, documented⟩
  · rw [if_pos other]
  · rw [chip, if_neg (by decide), if_neg (by decide), reservedFrom_eq_false]
    intro k hk
    rw [toUInt8_walk]
    exact documented k hk

/-! ## The handlers -/

theorem i2cwfx3_guarded (s : Setup) : Guarded (i2cwfx3 s) := by
  have failed : Call.guarded .i2cGetErrorCode = true := rfl
  have transfer (buffer : List UInt8)
      (h : si5351AccessBlocked s.wValue s.wIndex s.wLength = false) :
      Guarded (i2cTransferWrite s.wIndex.toUInt8 s.wValue.toUInt8 s.wLength.toUInt8 buffer) :=
    i2cTransferWrite_guarded _ _ _ _ (touched_of_unblocked h)
  simp +contextual [i2cwfx3, call, failed, transfer]

theorem i2crfx3_guarded (s : Setup) : Guarded (i2crfx3 s) := by
  unfold i2crfx3
  refine (within_ite _).mpr ⟨fun _ => by simp, fun pass => within_bind.mpr ⟨by simp, fun _ _ => ?_⟩⟩
  have transfer := i2cTransferRead_guarded s.wIndex.toUInt8 s.wValue.toUInt8 s.wLength.toUInt8
    (touched_of_unblocked (by simpa using pass))
  refine within_bind.mpr ⟨transfer, fun data _ => ?_⟩
  cases data with
  | error e =>
      have failed : Call.guarded .i2cGetErrorCode = true := rfl
      simp [call, failed]
  | ok data => simp

theorem getstats_guarded (s : Setup) : Guarded (getstats s) := by
  have status : Guarded (readRegisterOr 0x00 0) := readRegisterOr_guarded _ _ (by decide)
  have clk0 : Guarded (readRegisterOr siClk0Control 0xFF) := readRegisterOr_guarded _ _ (by decide)
  simp [getstats, status, clk0]

theorem gpioSetValue_guarded (pin : UInt8) (level : Bool) : Guarded (gpioSetValue pin level) :=
  (within_void _).mpr rfl

theorem rx888r2GpioSet_guarded (mdata : UInt32) : Guarded (rx888r2GpioSet mdata) := by
  simp [rx888r2GpioSet, gpioSetValue_guarded]

theorem softStop_guarded (failed : String) : Guarded (softStop failed) := by
  simp [softStop, Call.guarded, Call.si5351Registers]

theorem startadc_guarded (s : Setup) : Guarded (startadc s) := by
  have stop : Guarded implicitStop := by
    simp [implicitStop, Call.guarded, Call.si5351Registers]
  simp [startadc, stop, si5351aSetFrequencyA_guarded]

theorem gpifPreflightCheck_guarded : Guarded gpifPreflightCheck := by
  simp [gpifPreflightCheck]

theorem startGPIF_guarded : Guarded startGPIF := by
  simp [startGPIF, call, Call.guarded, Call.si5351Registers]

theorem startfx3_guarded (s : Setup) : Guarded (startfx3 s) := by
  have restart : Guarded restartStream := by
    simp [restartStream, rx888r2AdcStandby, gpioSetValue_guarded, startGPIF_guarded, call,
      Call.guarded, Call.si5351Registers]
  have report (status : ReturnStatus) : Guarded (reportStart status) := by
    simp [reportStart]
  simp [startfx3, restart, report, gpifPreflightCheck_guarded, Call.guarded, Call.si5351Registers]

theorem stopfx3_guarded (s : Setup) : Guarded (stopfx3 s) := by
  simp [stopfx3, softStop_guarded, rx888r2AdcStandby, gpioSetValue_guarded, Call.guarded,
    Call.si5351Registers]

theorem gpiofx3_guarded (s : Setup) : Guarded (gpiofx3 s) := by
  simp [gpiofx3, rx888r2GpioSet_guarded]

theorem vendorCommand_guarded (s : Setup) (command : Option FX3Command) :
    Guarded (vendorCommand s command) := by
  cases command with
  | none => simp [vendorCommand]
  | some c =>
      cases c with
      | startfx3 => exact startfx3_guarded s
      | stopfx3 => exact stopfx3_guarded s
      | startadc => exact startadc_guarded s
      | gpiofx3 => exact gpiofx3_guarded s
      | getstats => exact getstats_guarded s
      | i2cwfx3 => exact i2cwfx3_guarded s
      | i2crfx3 => exact i2crfx3_guarded s
      | _ => exact guarded_of_quiet (by simp [vendorCommand])

theorem setupRequest_guarded (s : Setup) : Guarded (setupRequest s) := by
  have vendor : Guarded (vendorRequest s) := by
    simp [vendorRequest, vendorCommand_guarded]
  simp [setupRequest, vendor]

theorem startApplication_guarded : Guarded startApplication := by
  simp [startApplication, startGPIF_guarded, call, Call.guarded, Call.si5351Registers]

theorem stopApplication_guarded : Guarded stopApplication := by
  simp [stopApplication, rx888r2AdcStandby, gpioSetValue_guarded, call, Call.guarded,
    Call.si5351Registers]

theorem usbEventCallback_guarded (evtype : UInt8) (evdata : UInt16) :
    Guarded (usbEventCallback evtype evdata) := by
  simp [usbEventCallback, startApplication_guarded, stopApplication_guarded, Call.guarded,
    Call.si5351Registers]

theorem clockHealthy_guarded : Guarded clockHealthy := by
  simp [clockHealthy]

theorem streamingWedgeDetected_guarded : Guarded streamingWedgeDetected := by
  simp [streamingWedgeDetected, stallSample, coldStartSample, clearStrikes]

theorem healthRecover_guarded (hs : HealthStatus) : Guarded (healthRecover hs) := by
  have capped : Guarded recoverCapped := by
    simp [recoverCapped, clockHealthy_guarded, Call.guarded, Call.si5351Registers]
  have restart (hwOk : Bool) : Guarded (recoverRestart hwOk) := by
    simp [recoverRestart, call, Call.guarded, Call.si5351Registers]
  have light : Guarded recoverLight := by
    simp [recoverLight, softStop_guarded, clockHealthy_guarded, restart, call, Call.guarded,
      Call.si5351Registers]
  cases hs with
  | wedgedEp0 => simp [healthRecover, Call.guarded, Call.si5351Registers]
  | wedgedStreaming => simp [healthRecover, capped, light]
  | _ => exact within_pure ()

theorem healthTick_guarded : Guarded healthTick := by
  have evaluate : Guarded healthEvaluate := by
    simp [healthEvaluate, streamingWedgeDetected_guarded, call, Call.guarded,
      Call.si5351Registers]
  have remedy (hs : HealthStatus) : Guarded (healthRemedy hs) := by
    simp [healthRemedy, healthRecover_guarded]
  simp [healthTick, healthMainHeartbeat, evaluate, remedy]

theorem boot_guarded : Guarded boot := by
  have init : Guarded (modify fun _ => Ram.init) :=
    within_modify fun _ => by constructor <;> simp
  have define : Guarded cyFxApplicationDefine :=
    guarded_of_quiet (by
      simp [cyFxApplicationDefine, initializeDebugConsole, call, Call.plain])
  have clock : Guarded initClock := by
    simp [initClock, si5351Init_guarded]
  have pin (p : UInt8) : Guarded (confGpioSimpleOut p) := by
    simp [confGpioSimpleOut, call, Call.guarded, Call.si5351Registers]
  have gpio : Guarded rx888r2GpioInitialize := by
    simp [rx888r2GpioInitialize, confOutputs, pin, rx888r2GpioSet_guarded, rx888r2AdcStandby,
      gpioSetValue_guarded]
  have quiet {α : Type} {p : Fw α} (h : Quiet [] p) : Guarded p :=
    guarded_of_quiet (Within.mono h (by simp) fun _ hc => hc)
  have usb : Guarded initializeUSB := by
    simp [initializeUSB, quiet startUSBDriver_quiet, quiet setUSBdescriptors_quiet,
      startApplication_guarded, stopApplication_guarded, call, Call.guarded, Call.si5351Registers]
  have thread : Guarded (applicationThreadStart 0) := by
    simp [applicationThreadStart, gpioInitClock, clock, gpio, usb, call, Call.guarded,
      Call.si5351Registers]
  simp [boot, init, define, thread, Call.guarded, Call.si5351Registers]

/-- No action takes the clock chip to a reserved register. -/
theorem prog_guarded (a : Act) : Guarded a.prog := by
  cases a with
  | boot => exact boot_guarded
  | request setupdat0 setupdat1 =>
      simp [Act.prog, cyFxSlFifoApplnUSBSetupCB, setupRequest_guarded]
  | usbEvent evtype evdata => exact usbEventCallback_guarded evtype evdata
  | tick => exact healthTick_guarded
  | buffers count => simp [Act.prog]
  | active flag => simp [Act.prog]

/-! ## What passes through -/

/-- Bytes on the EP0 data phase or on the I2C bus; a failed read, on either, delivered none. -/
inductive Traffic where
  | fromHost (count : UInt16) (bytes : Option (List UInt8))
  | toHost (bytes : List UInt8)
  | read (preamble : I2cPreamble) (byteCount : UInt8) (bytes : Option (List UInt8))
  | written (preamble : I2cPreamble) (bytes : List UInt8)
  deriving DecidableEq, Repr

def trafficOf : (c : Call) → c.Ans → Option Traffic
  | .usbGetEP0Data count, answer =>
      some (.fromHost count (answer.map Vector.toList).toOption)
  | .usbSendEP0Data bytes, _ => some (.toHost bytes)
  | .i2cReceiveBytes preamble byteCount, answer =>
      some (.read preamble byteCount (answer.map Vector.toList).toOption)
  | .i2cTransmitBytes preamble bytes, _ => some (.written preamble bytes)
  | _, _ => none

def traffic (tr : List FwCall) : List Traffic := tr.filterMap fun t => trafficOf t.call t.ans

@[simp] theorem traffic_nil : traffic [] = [] := rfl

@[simp] theorem traffic_append (tr tr' : List FwCall) :
    traffic (tr ++ tr') = traffic tr ++ traffic tr' :=
  List.filterMap_append

@[simp] theorem traffic_cons (t : FwCall) (tr : List FwCall) :
    traffic (t :: tr) = (trafficOf t.call t.ans).toList ++ traffic tr := by
  cases h : trafficOf t.call t.ans <;> simp [traffic, h]

/-- The traffic of a request that goes through to the I2C bus as the host asked. -/
inductive PassedThrough (s : Setup) : FX3Command → List Traffic → Prop where
  | nothingToRead (none : s.wLength = 0) : PassedThrough s .i2crfx3 [.toHost []]
  | read (byteCount : UInt8) (count : byteCount.toNat = s.wLength.toNat) (any : s.wLength ≠ 0)
      (bytes : List UInt8) (all : bytes.length = s.wLength.toNat) :
      PassedThrough s .i2crfx3
        [.read ⟨[s.wValue.toUInt8, s.wIndex.toUInt8, s.wValue.toUInt8 ||| 0x01], 0x0002⟩ byteCount
          (some bytes), .toHost bytes]
  | readFailed (byteCount : UInt8) (count : byteCount.toNat = s.wLength.toNat)
      (any : s.wLength ≠ 0) :
      PassedThrough s .i2crfx3
        [.read ⟨[s.wValue.toUInt8, s.wIndex.toUInt8, s.wValue.toUInt8 ||| 0x01], 0x0002⟩ byteCount
          none]
  | noData : PassedThrough s .i2cwfx3 [.fromHost s.wLength none]
  | nothingToWrite (none : s.wLength = 0) :
      PassedThrough s .i2cwfx3 [.fromHost s.wLength (some [])]
  | written (any : s.wLength ≠ 0) (bytes : List UInt8) (all : bytes.length = s.wLength.toNat) :
      PassedThrough s .i2cwfx3
        [.fromHost s.wLength (some bytes),
          .written ⟨[s.wValue.toUInt8, s.wIndex.toUInt8], 0x0000⟩ bytes]

def Call.silent : Call → Bool
  | .usbGetEP0Data _ | .usbSendEP0Data _ | .i2cReceiveBytes _ _ | .i2cTransmitBytes _ _ => false
  | _ => true

theorem trafficOf_silent {c : Call} (r : c.Ans) (h : c.silent = true) : trafficOf c r = none := by
  cases c <;> first | rfl | simp [Call.silent] at h

section PassThrough

variable {α : Type} {w : World}

theorem silent_ensures {parts : List Part} {p : Fw α} (h : Within parts Call.silent p) :
    p.Ensures sdk (fun tr _ _ => traffic tr = []) w := by
  refine ensures_of_runs fun tr a w' run => ?_
  have calls := run.calls h
  rw [traffic, List.filterMap_eq_nil_iff]
  intro t ht
  exact trafficOf_silent t.ans (calls t ht)

theorem i2cTransferRead_ensures (byteAddress devAddr byteCount : UInt8) :
    (i2cTransferRead byteAddress devAddr byteCount).Ensures sdk (fun tr a _ =>
      if byteCount = 0 then traffic tr = [] ∧ a = .ok []
      else ∃ answer : Except Failure (Vector UInt8 byteCount.toNat),
        traffic tr = [.read ⟨[devAddr, byteAddress, devAddr ||| 0x01], 0x0002⟩ byteCount
          (answer.map Vector.toList).toOption] ∧ a = answer.map Vector.toList) w := by
  unfold i2cTransferRead
  by_cases none : byteCount = 0
  · simp [none]
  · simp only [if_neg none]
    intro answer _
    have failures : Within [.counter] Call.silent (countI2cFailure (statusOf answer)) := by
      simp [countI2cFailure]
    refine (silent_ensures failures).bind fun tr _ _ quiet => ?_
    refine ⟨answer, ?_, rfl⟩
    simp [trafficOf, quiet]

theorem i2cTransferWrite_ensures (byteAddress devAddr byteCount : UInt8) (buffer : List UInt8) :
    (i2cTransferWrite byteAddress devAddr byteCount buffer).Ensures sdk (fun tr _ _ =>
      traffic tr = if byteCount = 0 then []
        else [.written ⟨[devAddr, byteAddress], 0x0000⟩ (buffer.take byteCount.toNat)]) w := by
  unfold i2cTransferWrite
  by_cases none : byteCount = 0
  · simp [none]
  · simp only [if_neg none]
    intro status _
    have failures : Within [.counter] Call.silent (countI2cFailure status) := by
      simp [countI2cFailure]
    refine (silent_ensures failures).bind fun tr _ _ quiet => ?_
    simp [trafficOf, quiet]

theorem getEP0Data_ensures (wLength : UInt16) :
    (getEP0Data wLength).Ensures sdk (fun tr status w' =>
      (status ≠ cyU3PSuccess ∧ traffic tr = [.fromHost wLength none]) ∨
      (status = cyU3PSuccess ∧ ∃ bytes, bytes.length = wLength.toNat ∧
        traffic tr = [.fromHost wLength (some bytes)] ∧
        w'.mem.usb.glEp0Buffer.take wLength.toNat = bytes)) w := by
  intro answer _
  cases answer with
  | error e => exact .inl ⟨e.2, rfl⟩
  | ok bytes =>
      refine .inr ⟨rfl, bytes.toList, by simp, rfl, ?_⟩
      simp [memcpyAt]

/-- The bytes read go back to the host by way of the EP0 buffer. -/
theorem reply_ensures (data : List UInt8) (count : UInt16) :
    Prog.Ensures sdk (do
      ep0Put 0 data
      sendEP0Data count
      return true)
      (fun tr _ _ =>
        traffic tr = [.toHost ((memcpyAt w.mem.usb.glEp0Buffer 0 data).take count.toNat)]) w := by
  intro status _
  rfl

theorem take_memcpyAt (buffer bytes : List UInt8) {n : Nat} (len : bytes.length = n) :
    (memcpyAt buffer 0 bytes).take n = bytes := by
  simp [memcpyAt, ← len]

theorem toUInt8_count {wLength : UInt16} (short : wLength.toNat ≤ 64) :
    wLength.toUInt8.toNat = wLength.toNat ∧ (wLength.toUInt8 = 0 ↔ wLength = 0) := by
  have count : wLength.toUInt8.toNat = wLength.toNat := by
    rw [UInt16.toNat_toUInt8]
    omega
  refine ⟨count, ?_⟩
  rw [← UInt8.toNat_inj, ← UInt16.toNat_inj, count]
  rfl

theorem i2crfx3_ensures {s : Setup} (pass : si5351AccessBlocked s.wValue s.wIndex s.wLength = false)
    (short : s.wLength.toNat ≤ 64) :
    (i2crfx3 s).Ensures sdk (fun tr _ _ => PassedThrough s .i2crfx3 (traffic tr)) w := by
  obtain ⟨count, none_iff⟩ := toUInt8_count short
  unfold i2crfx3
  rw [if_neg (by simp [pass])]
  refine (i2cTransferRead_ensures _ _ _).bind fun tr a w₁ transfer => ?_
  by_cases none : s.wLength = 0
  · rw [if_pos (none_iff.mpr none)] at transfer
    obtain ⟨quiet, rfl⟩ := transfer
    refine ensures_mono (reply_ensures [] s.wLength) fun tr' _ _ sent => ?_
    rw [traffic_append, quiet, sent, none]
    exact .nothingToRead none
  · rw [if_neg (mt none_iff.mp none)] at transfer
    obtain ⟨answer, transfer, rfl⟩ := transfer
    cases answer with
    | error e =>
        have report : Within [] Call.silent (do
            let i2cec : UInt32 ← call .i2cGetErrorCode
            debugPrint "\r\nI2CRD a=0x%x r=0x%x fail:%d ec=%d"
              [.num s.wValue.toUInt32, .num s.wIndex.toUInt32, .num e.1, .num i2cec]
            return false) := by
          simp [call, debugPrint, Call.silent]
        refine ensures_mono (silent_ensures report) fun tr' _ _ quiet => ?_
        rw [traffic_append, transfer, quiet]
        exact .readFailed s.wLength.toUInt8 count none
    | ok bytes =>
        have len : bytes.toList.length = s.wLength.toNat := by
          rw [Vector.length_toList, count]
        refine ensures_mono (reply_ensures bytes.toList s.wLength) fun tr' _ _ sent => ?_
        rw [traffic_append, transfer, sent, take_memcpyAt _ _ len]
        exact .read s.wLength.toUInt8 count none bytes.toList len

theorem i2cwfx3_ensures {s : Setup} (pass : si5351AccessBlocked s.wValue s.wIndex s.wLength = false)
    (short : s.wLength.toNat ≤ 64) :
    (i2cwfx3 s).Ensures sdk (fun tr _ _ => PassedThrough s .i2cwfx3 (traffic tr)) w := by
  obtain ⟨count, none_iff⟩ := toUInt8_count short
  unfold i2cwfx3
  refine (getEP0Data_ensures s.wLength).bind fun tr status w₁ got => ?_
  rcases got with ⟨failed, quiet⟩ | ⟨rfl, bytes, len, got, held⟩
  · rw [if_neg failed, ensures_pure, List.append_nil, quiet]
    exact .noData
  · rw [if_pos rfl, if_neg (by simp [pass])]
    refine (i2cTransferWrite_ensures _ _ _ _).bind fun tr' status w₂ transfer => ?_
    rw [count, held] at transfer
    have report : Within [] Call.silent (if status = cyU3PSuccess then pure true else do
        let i2cec : UInt32 ← call .i2cGetErrorCode
        debugPrint "\r\nI2CWR a=0x%x r=0x%x fail:%d ec=%d"
          [.num s.wValue.toUInt32, .num s.wIndex.toUInt32, .num status, .num i2cec]
        return false) := by
      simp [call, debugPrint, Call.silent]
    refine ensures_mono (silent_ensures report) fun tr'' _ _ quiet => ?_
    rw [traffic_append, traffic_append, got, transfer, quiet, List.append_nil]
    by_cases none : s.wLength = 0
    · rw [if_pos (none_iff.mpr none)]
      rw [none] at len
      rw [List.length_eq_zero_iff.mp len]
      exact .nothingToWrite none
    · rw [if_neg (mt none_iff.mp none)]
      exact .written none bytes len

end PassThrough

/-- Addresses another device, or the clock chip at its write address and documented
registers only. -/
def Setup.avoidsReserved (s : Setup) : Prop :=
  s.wValue.toUInt8 &&& 0xFE ≠ 0xC0 ∨ s.wValue.toUInt8 = 0xC0 ∧
    ∀ k < s.wLength.toNat, si5351RegWritable (s.wIndex.toUInt8 + UInt8.ofNat k) = true

/-- An I2C command that avoids the reserved registers goes through. -/
theorem vendorCommand_passes {s : Setup} {c : FX3Command} {w : World}
    (i2c : c = .i2cwfx3 ∨ c = .i2crfx3) (allowed : s.avoidsReserved)
    (short : s.wLength.toNat ≤ 64) :
    (vendorCommand s (some c)).Ensures sdk (fun tr _ _ => PassedThrough s c (traffic tr)) w := by
  have pass := unblocked_of_allowed allowed
  rcases i2c with rfl | rfl
  · exact i2cwfx3_ensures pass short
  · exact i2crfx3_ensures pass short

theorem traceSerial_silent (bRequest : UInt8) (wValue wIndex : UInt16) :
    Within allParts Call.silent (traceSerial bRequest wValue wIndex) := by
  have command : Within allParts Call.silent (traceCommand bRequest) := by
    unfold traceCommand
    split <;> simp [debugPrint, Call.silent]
  have arguments : Within allParts Call.silent (traceArguments bRequest wValue wIndex) := by
    unfold traceArguments
    split
    · split <;> simp [debugPrint, Call.silent]
    all_goals simp [debugPrint, Call.silent]
  simp [traceSerial, command, arguments, debugPrint, Call.silent]

/-- Around the command the callback makes no traffic. -/
theorem setupRequest_ensures {s : Setup} {c : FX3Command} {P : List Traffic → Prop}
    (command : s.command? = some c)
    (h : ∀ w, (vendorCommand s (some c)).Ensures sdk (fun tr _ _ => P (traffic tr)) w) (w : World) :
    (setupRequest s).Ensures sdk (fun tr _ _ => P (traffic tr)) w := by
  unfold Setup.command? at command
  split at command
  next accepted =>
    obtain ⟨vendor, short, direction⟩ := accepted
    have other : ¬ s.bType = cyU3PUsbStandardRqt := by
      rw [vendor]
      decide
    unfold setupRequest vendorRequest
    rw [if_neg other, if_pos vendor, if_neg short, if_neg direction, command]
    refine (h w).bind fun tr isHandled w₁ passed => ?_
    refine (silent_ensures (traceSerial_silent _ _ _)).bind fun tr' _ w₂ quiet => ?_
    rw [ensures_pure, List.append_nil, traffic_append, quiet, List.append_nil]
    exact passed
  next => cases command

theorem request_ensures {setupdat0 setupdat1 : UInt32} {c : FX3Command} {P : List Traffic → Prop}
    (command : (Setup.decode setupdat0 setupdat1).command? = some c)
    (h : ∀ w, (vendorCommand (Setup.decode setupdat0 setupdat1) (some c)).Ensures sdk
      (fun tr _ _ => P (traffic tr)) w) (w : World) :
    (Act.request setupdat0 setupdat1).prog.Ensures sdk (fun tr _ _ => P (traffic tr)) w := by
  have enter : Within allParts Call.silent (healthRecordEvent .ep0HandlerEnter) := by
    simp [healthRecordEvent, call, Call.silent]
  have exit : Within allParts Call.silent (healthRecordEvent .ep0HandlerExit) := by
    simp [healthRecordEvent]
  unfold Act.prog cyFxSlFifoApplnUSBSetupCB
  simp only [bind_assoc]
  refine (silent_ensures enter).bind fun tr _ w₁ entered => ?_
  refine (setupRequest_ensures command h w₁).bind fun tr' isHandled w₂ passed => ?_
  refine (silent_ensures exit).bind fun tr'' _ w₃ left => ?_
  simp only [pure_bind, ensures_pure, traffic_append, entered, left, List.nil_append,
    List.append_nil, traffic_nil]
  exact passed

/-- Whatever the state it is taken in, and so along every run, a step takes the clock chip
to documented registers only; and an I2C request that does so, or is for another device,
goes through as it is. -/
theorem clock_registers_guarded (t : device.Step) :
    (∀ c ∈ t.trace, ∀ r ∈ c.call.si5351Registers, si5351RegWritable r = true) ∧
    ∀ setupdat0 setupdat1, t.act = .request setupdat0 setupdat1 →
      ∀ c, c = .i2cwfx3 ∨ c = .i2crfx3 → (Setup.decode setupdat0 setupdat1).command? = some c →
        (Setup.decode setupdat0 setupdat1).avoidsReserved →
        PassedThrough (Setup.decode setupdat0 setupdat1) c (traffic t.trace) := by
  constructor
  · intro c made r walked
    have guarded := t.runs.calls (prog_guarded t.act) c made
    exact List.all_eq_true.mp guarded r walked
  · intro setupdat0 setupdat1 act c i2c command allowed
    have short : (Setup.decode setupdat0 setupdat1).wLength.toNat ≤ 64 := by
      unfold Setup.command? at command
      split at command
      next accepted => exact UInt16.le_iff_toNat_le.mp (UInt16.not_lt.mp accepted.2.1)
      next => cases command
    have runs := t.runs
    have prog : device.prog t.act = (Act.request setupdat0 setupdat1).prog := congrArg Act.prog act
    rw [prog] at runs
    exact runs.ensures (request_ensures command (fun _ => vendorCommand_passes i2c allowed short) _)

def statusRead : device.Step :=
  device.perform Bench.idle.oracle (.request 0x00C0AFC0 0x00010000) (benchRun []).2

def pllReset : device.Step :=
  device.perform { Bench.idle with hostData := [0x20] }.oracle (.request 0x00C0AE40 0x000100B1)
    (benchRun []).2

theorem clock_registers_guarded_statusRead :
    PassedThrough (Setup.decode 0x00C0AFC0 0x00010000) .i2crfx3 (traffic statusRead.trace) ∧
      PassedThrough (Setup.decode 0x00C0AE40 0x000100B1) .i2cwfx3 (traffic pllReset.trace) ∧
        traffic pllReset.trace =
          [.fromHost 1 (some [0x20]), .written ⟨[0xC0, 0xB1], 0x0000⟩ [0x20]] :=
  ⟨(clock_registers_guarded statusRead).2 0x00C0AFC0 0x00010000 rfl .i2crfx3 (.inr rfl)
      (by decide) (.inr ⟨by decide, by decide⟩),
    (clock_registers_guarded pllReset).2 0x00C0AE40 0x000100B1 rfl .i2cwfx3 (.inl rfl)
      (by decide) (.inr ⟨by decide, by decide⟩),
    by decide +kernel⟩

end Rx888
