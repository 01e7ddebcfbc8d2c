import Rx888.CallProgram.Tally
import Rx888.Device.HostBus
import Rx888.Device.BootCount

/-! # The failures on the bus

Every transfer on the I2C bus that fails is counted, and so is every access to the clock chip that
is refused. The firmware's counter follows the tally of them, modulo `2 ^ 32`, from one start of
the application to the next.
-/

namespace Rx888

open CallProgram

attribute [local simp] Call.kind

/-! ## The tallies -/

/-- A boot lays out the counters anew, and a start of the application, which asks for the bus
speed first, clears them. -/
def Call.startsOver : Call → Bool
  | .deviceInit | .usbGetSpeed => true
  | _ => false

def Call.i2cFailed : (c : Call) → c.Ans → Bool
  | .i2cReceiveBytes _ _, answer => statusOf answer != cyU3PSuccess
  | .i2cTransmitBytes _ _, status => status != cyU3PSuccess
  | _, _ => false

def i2cTally (n : Nat) (u : FwCall) : Nat :=
  if u.call.startsOver then 0 else if u.call.i2cFailed u.ans then n + 1 else n

/-- The accesses to the clock chip that a command refuses. A write is refused when its payload is
there. -/
def refusals (c : FX3Command) (s : Setup) (tr : List FwCall) : Nat :=
  match c with
  | .i2crfx3 => if si5351AccessBlocked s.wValue s.wIndex s.wLength then 1 else 0
  | .i2cwfx3 =>
      if si5351AccessBlocked s.wValue s.wIndex s.wLength && (receivedBytes? tr).isSome then 1
      else 0
  | _ => 0

/-- The failures on the bus, with those of another step. -/
def i2cFailuresAfter (n : Nat) (t : device.Step) : Nat :=
  let transfers := t.trace.foldl i2cTally n
  match t.act with
  | .request setupdat0 setupdat1 =>
      let s := Setup.decode setupdat0 setupdat1
      match s.command? with
      | some c => transfers + refusals c s t.trace
      | none => transfers
  | _ => transfers

/-! ## Counters in memory -/

/-- The counter holds `n` as far as its 32 bits go. -/
def CounterShows (i : Fin 20) (m : Ram) (n : Nat) : Prop := m.glCounter.get i = UInt32.ofNat n

/-- The counters with one of them a count up. -/
def countedUp {size : Nat} (counters : Vector UInt32 size) (k : Fin size) : Vector UInt32 size :=
  counters.set k (counters.get k + 1)

/-- No write of the program changes the counter. -/
abbrev CounterKept {α : Type} (i : Fin 20) (p : Fw α) : Prop :=
  p.Uses (fun f => ∀ m, (f m).glCounter.get i = m.glCounter.get i) fun _ => True

section Counters

variable {α : Type} {p : Fw α} {i j : Fin 20} {w w' : World} {tr : List FwCall} {a : α} {n : Nat}
variable {m : Ram}

theorem get_set_self {size : Nat} (counters : Vector UInt32 size) (k : Fin size) (x : UInt32) :
    (counters.set k x).get k = x :=
  Vector.getElem_set_self k.isLt

theorem get_set_of_ne {size : Nat} (counters : Vector UInt32 size) (x : UInt32) {k l : Fin size}
    (apart : k ≠ l) : (counters.set k x).get l = counters.get l := by
  have ne : k.val ≠ l.val := fun same => apart (Fin.ext same)
  exact Vector.getElem_set_ne k.isLt l.isLt ne

theorem CounterShows.up (shown : CounterShows i m n) :
    CounterShows i { m with glCounter := countedUp m.glCounter i } (n + 1) := by
  unfold CounterShows countedUp at *
  rw [get_set_self, UInt32.ofNat_add, ← shown]
  rfl

@[simp] theorem countUp_kept (apart : i ≠ j) : CounterKept j (countUp i) :=
  ⟨fun m => get_set_of_ne m.glCounter _ apart, trivial⟩

@[simp] theorem countClear_kept (apart : i ≠ j) : CounterKept j (countClear i) :=
  ⟨fun m => get_set_of_ne m.glCounter _ apart, trivial⟩

theorem Within.counterKept {parts : List Part} {calls : Call → Bool} (within : Within parts calls p)
    (out : .counter ∉ parts) (i : Fin 20) : CounterKept i p := by
  refine Prog.Uses.mono within (fun f writes m => ?_) fun _ _ => trivial
  rw [(writes m).counter out]

@[simp] theorem ram_kept : CounterKept i ram := fun _ => trivial

@[simp] theorem call_kept (c : Call) : CounterKept i (call c) := ⟨trivial, fun _ => trivial⟩

@[simp] theorem void_kept (c : Call) : CounterKept i (void c) := ⟨trivial, fun _ => trivial⟩

@[simp] theorem debugPrint_kept (fmt : String) (args : List DebugArg) :
    CounterKept i (debugPrint fmt args) :=
  void_kept _

theorem CounterKept.run (kept : CounterKept i p) (runs : Runs sdk p w tr a w') :
    w'.mem.glCounter.get i = w.mem.glCounter.get i := by
  refine runs.frame (fun s => s.mem.glCounter.get i = w.mem.glCounter.get i) kept ?_ ?_ rfl
  · intro f s writes same
    exact (writes s.mem).trans same
  · intro s c r _ _ same
    show (memAfter s.mem c r).glCounter.get i = _
    rw [(memAfter_unchanged s.mem c r).counter (by simp)]
    exact same

/-- A program that leaves the counter alone keeps a tally of other calls than it makes. -/
theorem CounterKept.tallies {kinds marks : List Kind} {f : Nat → FwCall → Nat}
    (kept : CounterKept i p) (makes : Makes kinds p) (apart : ∀ k ∈ kinds, k ∉ marks)
    (marked : ∀ n (u : FwCall), u.call.kind ∉ marks → f n u = n) :
    p.Tallies sdk (CounterShows i) f := by
  apply Prog.tallies_of_uses (Prog.Uses.and kept makes)
  · intro g m n writes shown
    exact (writes.1 m).trans shown
  · intro s c r n made allowed shown
    show (memAfter s.mem c r).glCounter.get i = _
    rw [(memAfter_unchanged s.mem c r).counter (by simp)]
    exact shown
  · intro t n made
    exact marked n t (apart _ made.2)

end Counters

/-! ## Failures on the bus -/

section I2c

variable {α : Type} {p : Fw α} {n : Nat} {w : World}

/-- The calls that make a difference to the failures. -/
abbrev i2cMarks : List Kind := [.deviceInit, .speed, .i2cRead, .i2cWrite]

theorem i2cTally_of_kind (n : Nat) (u : FwCall) (other : u.call.kind ∉ i2cMarks) :
    i2cTally n u = n := by
  obtain ⟨w, c, answer⟩ := u
  cases c <;> first | rfl | exact absurd (by simp) other

abbrev I2cTallied (p : Fw α) : Prop := p.Tallies sdk (CounterShows 1) i2cTally

theorem CounterKept.i2c {kinds : List Kind} (kept : CounterKept 1 p) (makes : Makes kinds p)
    (apart : ∀ k ∈ kinds, k ∉ i2cMarks) : I2cTallied p :=
  kept.tallies makes apart i2cTally_of_kind

/-- A failed transfer is counted right after it. -/
theorem countI2cFailure_shows (status : ReturnStatus) (shown : CounterShows 1 w.mem n) :
    (countI2cFailure status).Ensures sdk (fun tr _ w' =>
      tr = [] ∧ CounterShows 1 w'.mem (if status != cyU3PSuccess then n + 1 else n)) w := by
  unfold countI2cFailure
  by_cases ok : status = cyU3PSuccess
  · rw [if_neg (not_not_intro ok)]
    have kept : (status != cyU3PSuccess) = false := by simp [ok]
    rw [kept]
    exact ⟨rfl, shown⟩
  · rw [if_pos ok]
    have failed : (status != cyU3PSuccess) = true := by simp [ok]
    rw [failed]
    exact ⟨rfl, shown.up⟩

theorem i2cTransferRead_tallied (byteAddress devAddr byteCount : UInt8) :
    I2cTallied (i2cTransferRead byteAddress devAddr byteCount) := by
  unfold i2cTransferRead
  apply Prog.Tallies.ite
  · exact fun _ => Prog.tallies_pure _
  · intro _
    apply Prog.tallies_call_bind
    intro s answer n _ shown
    apply (countI2cFailure_shows (statusOf answer) shown).bind
    rintro _ _ w₁ ⟨rfl, counted⟩
    exact counted

theorem i2cTransferWrite_tallied (byteAddress devAddr byteCount : UInt8) (buffer : List UInt8) :
    I2cTallied (i2cTransferWrite byteAddress devAddr byteCount buffer) := by
  unfold i2cTransferWrite
  apply Prog.Tallies.ite
  · exact fun _ => Prog.tallies_pure _
  · intro _
    apply Prog.tallies_call_bind
    intro s status n _ shown
    apply (countI2cFailure_shows _ shown).bind
    rintro _ _ w₁ ⟨rfl, counted⟩
    exact counted

theorem Within.i2c {parts : List Part} {kinds : List Kind} {calls : Call → Bool}
    (within : Within parts calls p) (out : .counter ∉ parts) (makes : Makes kinds p)
    (apart : ∀ k ∈ kinds, k ∉ i2cMarks) : I2cTallied p :=
  (within.counterKept out 1).i2c makes apart

theorem call_tallied {c : Call} (other : c.kind ∉ i2cMarks) : I2cTallied (call c) := by
  have within : Confined [] (call c) := by simp [call]
  have makes : Makes [c.kind] (call c) := by simp [call]
  apply within.i2c (by simp) makes
  intro k mem
  rw [List.mem_singleton.mp mem]
  exact other

theorem void_tallied {c : Call} (other : c.kind ∉ i2cMarks) : I2cTallied (void c) := by
  have within : Confined [] (void c) := by simp
  have makes : Makes [c.kind] (void c) := by simp
  apply within.i2c (by simp) makes
  intro k mem
  rw [List.mem_singleton.mp mem]
  exact other

theorem debugPrint_tallied (fmt : String) (args : List DebugArg) :
    I2cTallied (debugPrint fmt args) :=
  void_tallied (by simp)

theorem i2cTransferW1_tallied (byteAddress devAddr data : UInt8) :
    I2cTallied (i2cTransferW1 byteAddress devAddr data) :=
  i2cTransferWrite_tallied _ _ _ _

theorem writeRegisters_tallied (regs : List (UInt8 × UInt8)) :
    I2cTallied (writeRegisters regs) := by
  induction regs with
  | nil => exact Prog.tallies_pure _
  | cons r rest ih =>
      apply (i2cTransferW1_tallied _ _ _).bind
      intro status
      apply Prog.Tallies.ite
      · exact fun _ => Prog.tallies_pure _
      · exact fun _ => ih

theorem read_bind_tallied {byteAddress devAddr byteCount : UInt8}
    {k : Except Failure (List UInt8) → Fw α} (hk : ∀ data, I2cTallied (k data)) :
    I2cTallied (i2cTransferRead byteAddress devAddr byteCount >>= k) :=
  (i2cTransferRead_tallied _ _ _).bind hk

theorem si5351PllLocked_tallied : I2cTallied si5351PllLocked := by
  apply read_bind_tallied
  intro data
  cases data <;> exact Prog.tallies_pure _

theorem si5351Clk0Enabled_tallied : I2cTallied si5351Clk0Enabled := by
  apply read_bind_tallied
  intro data
  cases data <;> exact Prog.tallies_pure _

theorem readRegisterOr_tallied (reg initial : UInt8) : I2cTallied (readRegisterOr reg initial) := by
  apply read_bind_tallied
  intro data
  cases data <;> exact Prog.tallies_pure _

theorem clockHealthy_tallied : I2cTallied clockHealthy := by
  apply si5351Clk0Enabled_tallied.bind
  intro enabled
  apply Prog.Tallies.ite
  · exact fun _ => si5351PllLocked_tallied
  · exact fun _ => Prog.tallies_pure _

theorem gpifPreflightCheck_tallied : I2cTallied gpifPreflightCheck := by
  unfold gpifPreflightCheck
  apply si5351Clk0Enabled_tallied.bind
  intro enabled
  apply Prog.Tallies.ite
  · exact fun _ => (debugPrint_tallied _ _).bind fun _ => Prog.tallies_pure _
  · intro _
    apply si5351PllLocked_tallied.bind
    intro locked
    apply Prog.Tallies.ite
    · exact fun _ => (debugPrint_tallied _ _).bind fun _ => Prog.tallies_pure _
    · exact fun _ => Prog.tallies_pure _

/-- After a write of the clock's driver, which ends the sequence when it fails. -/
theorem report_tallied {fmt : String} {args : List DebugArg} {status : ReturnStatus} :
    I2cTallied (do
      debugPrint fmt args
      return status) :=
  (debugPrint_tallied _ _).bind fun _ => Prog.tallies_pure _

theorem si5351aSetFrequencyA_tallied (freq : UInt32) : I2cTallied (si5351aSetFrequencyA freq) := by
  unfold si5351aSetFrequencyA
  apply Prog.Tallies.ite
  · exact fun _ => i2cTransferW1_tallied _ _ _
  · intro _
    apply (i2cTransferWrite_tallied _ _ _ _).bind
    intro status
    apply Prog.Tallies.ite
    · exact fun _ => (call_tallied (by simp)).bind fun _ => report_tallied
    · intro _
      apply (i2cTransferWrite_tallied _ _ _ _).bind
      intro status
      apply Prog.Tallies.ite
      · exact fun _ => report_tallied
      · intro _
        apply (i2cTransferW1_tallied _ _ _).bind
        intro status
        apply Prog.Tallies.ite
        · exact fun _ => report_tallied
        · intro _
          apply (i2cTransferW1_tallied _ _ _).bind
          intro status
          apply Prog.Tallies.ite
          · exact fun _ => report_tallied
          · exact fun _ => Prog.tallies_pure _

theorem pollPllLocked_tallied (rounds : Nat) : I2cTallied (pollPllLocked rounds) := by
  induction rounds with
  | zero => exact Prog.tallies_pure _
  | succ rounds ih =>
      apply (void_tallied (by simp)).bind
      intro _
      apply si5351PllLocked_tallied.bind
      intro locked
      apply Prog.Tallies.ite
      · exact fun _ => Prog.tallies_pure _
      · exact fun _ => ih

theorem getEP0Data_tallied (wLength : UInt16) : I2cTallied (getEP0Data wLength) := by
  have quiet : Quiet [.usb] (getEP0Data wLength) := by simp
  have makes : Makes [.dataOut] (getEP0Data wLength) := by simp
  exact quiet.i2c (by decide) makes (by decide)

theorem ep0Put_tallied (off : Nat) (bytes : List UInt8) : I2cTallied (ep0Put off bytes) := by
  have quiet : Quiet [.usb] (ep0Put off bytes) := by simp
  have makes : Makes [] (ep0Put off bytes) := by simp
  exact quiet.i2c (by decide) makes (by decide)

theorem sendEP0Data_tallied (count : UInt16) : I2cTallied (sendEP0Data count) := by
  have quiet : Quiet [] (sendEP0Data count) := by simp
  have makes : Makes [.dataIn] (sendEP0Data count) := by simp
  exact quiet.i2c (by decide) makes (by decide)

theorem ram_tallied : I2cTallied ram := fun _ _ shown => shown

end I2c

/-! ### The requests -/

section Requests

variable {α : Type} {n : Nat} {w : World}

theorem startadc_tallied (s : Setup) : I2cTallied (startadc s) := by
  have stops : I2cTallied implicitStop := by
    have within : Confined [] implicitStop := by simp [implicitStop]
    have makes : Makes [.smState, .text, .gpif, .transfer, .endpoint] implicitStop := by
      simp [implicitStop]
    exact within.i2c (by decide) makes (by decide)
  apply (getEP0Data_tallied _).bind
  intro status
  apply Prog.Tallies.ite
  · intro _
    apply ram_tallied.bind
    intro m
    apply stops.bind
    intro _
    apply (si5351aSetFrequencyA_tallied _).bind
    intro status
    apply Prog.Tallies.ite
    · exact fun _ => (pollPllLocked_tallied _).bind fun _ => Prog.tallies_pure _
    · exact fun _ => (debugPrint_tallied _ _).bind fun _ => Prog.tallies_pure _
  · exact fun _ => Prog.tallies_pure _

theorem put_bind_tallied {off : Nat} {g : Ram → List UInt8} {k : Unit → Fw α}
    (hk : I2cTallied (k ())) : I2cTallied (ram >>= fun m => ep0Put off (g m) >>= k) :=
  ram_tallied.bind fun _ => (ep0Put_tallied _ _).bind fun _ => hk

theorem getstats_tallied (s : Setup) : I2cTallied (getstats s) := by
  have state : I2cTallied gpifGetSMState := by
    have within : Idling [] gpifGetSMState := by simp
    have makes : Makes [.smState] gpifGetSMState := by simp
    exact within.i2c (by decide) makes (by decide)
  have gpio : I2cTallied rx888r2ReadGpioState := by
    have within : Quiet [] rx888r2ReadGpioState := by simp
    have makes : Makes [.gpioRead] rx888r2ReadGpioState := by simp
    exact within.i2c (by decide) makes (by decide)
  apply (ep0Put_tallied _ _).bind
  intro _
  apply state.bind
  intro state
  apply put_bind_tallied
  apply (ep0Put_tallied _ _).bind
  intro _
  apply put_bind_tallied
  apply put_bind_tallied
  apply put_bind_tallied
  apply put_bind_tallied
  apply (readRegisterOr_tallied _ _).bind
  intro siStatus
  apply (ep0Put_tallied _ _).bind
  intro _
  apply (show I2cTallied healthBootCount from ram_tallied).bind
  intro bootCount
  apply (ep0Put_tallied _ _).bind
  intro _
  apply (readRegisterOr_tallied _ _).bind
  intro clk0Reg16
  apply (ep0Put_tallied _ _).bind
  intro _
  apply si5351Clk0Enabled_tallied.bind
  intro enabled
  apply (ep0Put_tallied _ _).bind
  intro _
  apply gpio.bind
  intro gpioState
  apply (ep0Put_tallied _ _).bind
  intro _
  exact (sendEP0Data_tallied _).bind fun _ => Prog.tallies_pure _

theorem startfx3_tallied (s : Setup) : I2cTallied (startfx3 s) := by
  have restarts : I2cTallied restartStream := by
    have within : Confined [.session, .buffers, .pib] restartStream := by
      simp [restartStream, startGPIF, rx888r2AdcStandby, gpioSetValue, call]
    have makes : Makes ([.gpif, .transfer, .endpoint] ++ checkKinds) restartStream := by
      simp [restartStream, call]
    exact within.i2c (by decide) makes (by decide)
  have reports (status : ReturnStatus) : I2cTallied (reportStart status) := by
    have within : Confined [] (reportStart status) := by simp [reportStart]
    have makes : Makes [.text, .stall, .smState] (reportStart status) := by simp [reportStart]
    exact within.i2c (by decide) makes (by decide)
  have stalled : I2cTallied stallEP0 := void_tallied (by simp)
  apply (void_tallied (by simp)).bind
  intro _
  apply (getEP0Data_tallied _).bind
  intro _
  apply gpifPreflightCheck_tallied.bind
  intro passed
  apply Prog.Tallies.ite
  · exact fun _ => stalled.bind fun _ => Prog.tallies_pure _
  · intro _
    apply restarts.bind
    intro status
    exact (reports status).bind fun _ => Prog.tallies_pure _

theorem i2cwfx3_tallied {s : Setup}
    (pass : si5351AccessBlocked s.wValue s.wIndex s.wLength = false) :
    I2cTallied (i2cwfx3 s) := by
  unfold i2cwfx3
  apply (getEP0Data_tallied _).bind
  intro status
  apply Prog.Tallies.ite
  · intro _
    rw [pass, if_neg Bool.false_ne_true]
    apply ram_tallied.bind
    intro m
    apply (i2cTransferWrite_tallied _ _ _ _).bind
    intro status
    apply Prog.Tallies.ite
    · exact fun _ => Prog.tallies_pure _
    · intro _
      apply (call_tallied (by simp)).bind
      intro ec
      exact (debugPrint_tallied _ _).bind fun _ => Prog.tallies_pure _
  · exact fun _ => Prog.tallies_pure _

theorem i2crfx3_tallied {s : Setup}
    (pass : si5351AccessBlocked s.wValue s.wIndex s.wLength = false) :
    I2cTallied (i2crfx3 s) := by
  unfold i2crfx3
  rw [pass, if_neg Bool.false_ne_true]
  apply (ep0Put_tallied _ _).bind
  intro _
  apply (i2cTransferRead_tallied _ _ _).bind
  intro data
  cases data with
  | ok data =>
      apply (ep0Put_tallied _ _).bind
      intro _
      exact (sendEP0Data_tallied _).bind fun _ => Prog.tallies_pure _
  | error e =>
      apply (call_tallied (by simp)).bind
      intro ec
      exact (debugPrint_tallied _ _).bind fun _ => Prog.tallies_pure _

/-- What a refusal of I2CWFX3 makes of the failures. -/
theorem i2cwfx3_refuses {s : Setup}
    (blocked : si5351AccessBlocked s.wValue s.wIndex s.wLength = true)
    (shown : CounterShows 1 w.mem n) :
    (i2cwfx3 s).Ensures sdk (fun tr _ w' =>
      CounterShows 1 w'.mem (tr.foldl i2cTally n + refusals .i2cwfx3 s tr)) w := by
  unfold i2cwfx3
  have read : (getEP0Data s.wLength).Ensures sdk
      (fun tr status w' => transfersTo 0 tr = [] ∧ _) w :=
    getEP0Data_payload s.wLength w
  apply (ensures_and (getEP0Data_tallied s.wLength w n shown) read).bind
  rintro tr status w₁ ⟨shown₁, -, ⟨failed, none⟩ | ⟨rfl, bytes, payload, -, -⟩⟩
  · rw [if_neg failed, ensures_pure, List.append_nil]
    have zero : refusals .i2cwfx3 s tr = 0 := by simp [refusals, none]
    rw [zero]
    exact shown₁
  · rw [if_pos rfl, if_pos blocked]
    apply (debugPrint_tallied _ _ w₁ _ shown₁).bind
    intro tr' _ w₂ shown₂
    have one : refusals .i2cwfx3 s (tr ++ (tr' ++ [])) = 1 := by
      simp [refusals, blocked, receivedBytes?_append, payload]
    show CounterShows 1 _ _
    rw [one, List.append_nil, List.foldl_append]
    exact shown₂.up

theorem i2crfx3_refuses {s : Setup}
    (blocked : si5351AccessBlocked s.wValue s.wIndex s.wLength = true)
    (shown : CounterShows 1 w.mem n) :
    (i2crfx3 s).Ensures sdk (fun tr _ w' =>
      CounterShows 1 w'.mem (tr.foldl i2cTally n + refusals .i2crfx3 s tr)) w := by
  unfold i2crfx3
  rw [if_pos blocked]
  apply (debugPrint_tallied _ _ w n shown).bind
  intro tr _ w₁ shown₁
  have one : refusals .i2crfx3 s (tr ++ []) = 1 := by
    simp [refusals, blocked]
  show CounterShows 1 _ _
  rw [one, List.append_nil]
  exact shown₁.up

theorem command_tallied {c : FX3Command} (s : Setup) (parts : .counter ∉ commandParts (some c))
    (kinds : ∀ k ∈ commandKinds (some c), k ∉ i2cMarks) :
    I2cTallied (vendorCommand s (some c)) :=
  (vendorCommand_confined s (some c)).i2c parts (vendorCommand_makes s (some c)) kinds

/-- Every command counts its failed transfers, and a refusal besides. -/
theorem vendorCommand_counts (s : Setup) (c : FX3Command) (shown : CounterShows 1 w.mem n) :
    (vendorCommand s (some c)).Ensures sdk (fun tr _ w' =>
      CounterShows 1 w'.mem (tr.foldl i2cTally n + refusals c s tr)) w := by
  cases c with
  | startadc => exact startadc_tallied s w n shown
  | getstats => exact getstats_tallied s w n shown
  | startfx3 => exact startfx3_tallied s w n shown
  | i2cwfx3 =>
      cases blocked : si5351AccessBlocked s.wValue s.wIndex s.wLength with
      | true => exact i2cwfx3_refuses blocked shown
      | false =>
          have none (tr : List FwCall) : refusals .i2cwfx3 s tr = 0 := by simp [refusals, blocked]
          simp only [none]
          exact i2cwfx3_tallied blocked w n shown
  | i2crfx3 =>
      cases blocked : si5351AccessBlocked s.wValue s.wIndex s.wLength with
      | true => exact i2crfx3_refuses blocked shown
      | false =>
          have none (tr : List FwCall) : refusals .i2crfx3 s tr = 0 := by simp [refusals, blocked]
          simp only [none]
          exact i2crfx3_tallied blocked w n shown
  | _ => exact command_tallied s (by decide) (by decide) w n shown

end Requests

/-! ## Starting anew -/

/-- A tally that begins anew with each boot and each start of the application, as a counter does
that is cleared then. -/
structure Restarting (i : Fin 20) (f : Nat → FwCall → Nat) : Prop where
  cleared : i = 1 ∨ i = 2
  booted : ∀ n w answer, f n ⟨w, .deviceInit, answer⟩ = 0
  started : ∀ n w answer, f n ⟨w, .usbGetSpeed, answer⟩ = 0
  marked : ∀ n (u : FwCall), u.call.kind ∉ i2cMarks → f n u = n

theorem i2cTally_restarting : Restarting 1 i2cTally where
  cleared := .inl rfl
  booted _ _ _ := rfl
  started _ _ _ := rfl
  marked := i2cTally_of_kind

section Restarting

variable {α : Type} {p : Fw α} {i : Fin 20} {f : Nat → FwCall → Nat} {n : Nat} {w : World}

theorem Restarting.aside (restarting : Restarting i f) {parts : List Part} {kinds : List Kind}
    {calls : Call → Bool} (within : Within parts calls p) (out : .counter ∉ parts)
    (makes : Makes kinds p) (apart : ∀ k ∈ kinds, k ∉ i2cMarks) :
    p.Tallies sdk (CounterShows i) f :=
  (within.counterKept out i).tallies makes apart restarting.marked

theorem Restarting.printed (restarting : Restarting i f) (fmt : String) (args : List DebugArg) :
    (debugPrint fmt args).Tallies sdk (CounterShows i) f := by
  have quiet : Quiet [] (debugPrint fmt args) := by simp
  have makes : Makes [.text] (debugPrint fmt args) := by simp
  exact restarting.aside quiet (by decide) makes (by decide)

theorem Restarting.checked (restarting : Restarting i f) (name : String) (status : ReturnStatus) :
    (checkStatus name status).Tallies sdk (CounterShows i) f := by
  have quiet : Quiet [] (checkStatus name status) := by simp
  have makes : Makes checkKinds (checkStatus name status) := by simp
  exact restarting.aside quiet (by decide) makes (by decide)

theorem Restarting.uncounted (restarting : Restarting i f) {kinds : List Kind}
    (makes : Makes kinds p) (apart : ∀ k ∈ kinds, k ∉ i2cMarks) (n : Nat) (w : World) :
    p.Ensures sdk (fun tr _ _ => tr.foldl f n = n) w := by
  have blank : p.Tallies sdk (fun _ k => k = n) f := by
    apply Prog.tallies_of_uses makes
    · exact fun _ _ _ _ same => same
    · exact fun _ _ _ _ _ _ same => same
    · exact fun t k made => restarting.marked k t (apart _ made)
  exact blank w n rfl

/-- What a program that has nothing to do with the counter leaves as it was. -/
theorem Restarting.around (restarting : Restarting i f) {parts : List Part} {kinds : List Kind}
    {calls : Call → Bool} (within : Within parts calls p) (out : .counter ∉ parts)
    (makes : Makes kinds p) (apart : ∀ k ∈ kinds, k ∉ i2cMarks) (shown : CounterShows i w.mem n) :
    p.Ensures sdk (fun tr _ w' => CounterShows i w'.mem n ∧ ∀ k, tr.foldl f k = k) w := by
  apply ensures_of_runs
  intro tr a w' runs
  refine ⟨((within.counterKept out i).run runs).trans shown, ?_⟩
  intro k
  exact runs.ensures (restarting.uncounted makes apart k w)

theorem clearStreamCounters_clears (cleared : i = 1 ∨ i = 2) :
    clearStreamCounters.Ensures sdk (fun tr _ w' => tr = [] ∧ CounterShows i w'.mem 0) w := by
  refine ⟨rfl, ?_⟩
  rcases cleared with rfl | rfl
  · show (((w.mem.glCounter.set 2 0).set 1 0).set 0 0)[1] = 0
    simp
  · show (((w.mem.glCounter.set 2 0).set 1 0).set 0 0)[2] = 0
    simp

/-- The start of the application once the counters are cleared. -/
def startCleared : Fw Unit := do
  let status : ReturnStatus ← call (.setEpConfig cyFxEpConsumer true)
  checkStatus "CyU3PSetEpConfig Consumer" status
  void (.usbFlushEp cyFxEpConsumer)
  let status : ReturnStatus ← call .dmaMultiChannelCreate
  checkStatus "CyU3PDmaMultiChannelCreate" status
  let status : ReturnStatus ← call (.dmaMultiChannelSetXfer fifoDmaRxSize 0)
  checkStatus "CyU3PDmaMultiChannelSetXfer" status
  void .pibRegisterCallback
  let status ← startGPIF
  checkStatus "GpifStart" status
  modifyApp fun a => { a with glIsApplnActive := true }

theorem startApplication_eq : startApplication = (do
    let usbSpeed : Fin 4 ← call .usbGetSpeed
    debugPrint "\r\n@StartApplication, running at %sSpeed" [.text (glBusSpeed usbSpeed)]
    let status : ReturnStatus ← call .pibInit
    checkStatus "Start GPIF Clock" status
    clearStreamCounters
    startCleared) :=
  rfl

theorem Restarting.starts (restarting : Restarting i f) :
    startApplication.Tallies sdk (CounterShows i) f := by
  have rest : startCleared.Tallies sdk (CounterShows i) f := by
    have within : Confined [.pib, .app] startCleared := by simp [startCleared, startGPIF, call]
    have makes : Makes ([.pib, .endpoint, .dma, .transfer, .gpif] ++ checkKinds) startCleared := by
      simp [startCleared, call]
    exact restarting.aside within (by decide) makes (by decide)
  intro w n _
  rw [startApplication_eq]
  apply call_bind_ensures.mpr
  intro speed _
  simp only [List.foldl_cons, restarting.started]
  -- nothing is counted before the counters are cleared
  apply (restarting.uncounted (by simp : Makes [.text] _) (by decide) 0 _).bind
  intro tr₁ _ w₁ zero₁
  apply (restarting.uncounted (by simp [call] : Makes [.pib] (call .pibInit)) (by decide) 0 _).bind
  intro tr₂ status w₂ zero₂
  apply (restarting.uncounted (by simp : Makes checkKinds _) (by decide) 0 _).bind
  intro tr₃ _ w₃ zero₃
  apply (clearStreamCounters_clears restarting.cleared).bind
  rintro _ _ w₄ ⟨rfl, clear⟩
  apply ensures_mono (rest w₄ 0 clear)
  intro tr _ w' shown
  simp only [List.foldl_append, zero₁, zero₂, zero₃, List.foldl_nil]
  exact shown

theorem Restarting.stops (restarting : Restarting i f) :
    stopApplication.Tallies sdk (CounterShows i) f := by
  have within : Confined [.app] stopApplication := by
    simp [stopApplication, rx888r2AdcStandby, gpioSetValue, call]
  exact restarting.aside within (by decide) stopApplication_makes (by decide)

theorem Restarting.voided (restarting : Restarting i f) {c : Call} (other : c.kind ∉ i2cMarks) :
    (void c).Tallies sdk (CounterShows i) f := by
  have within : Confined [] (void c) := by simp
  have makes : Makes [c.kind] (void c) := by simp
  apply restarting.aside within (by simp) makes
  intro k mem
  rw [List.mem_singleton.mp mem]
  exact other

theorem Restarting.usbEvent (restarting : Restarting i f) {evtype : UInt8} (evdata : UInt16)
    (other : evtype ≠ cyU3PUsbEventEpUnderrun) :
    (usbEventCallback evtype evdata).Tallies sdk (CounterShows i) f := by
  have reads : ram.Tallies sdk (CounterShows i) f := fun _ _ shown => shown
  unfold usbEventCallback
  apply (restarting.voided (by simp)).bind
  intro _
  apply Prog.Tallies.ite
  · intro _
    apply reads.bind
    intro m
    apply Prog.Tallies.ite
    · exact fun _ => restarting.stops.bind fun _ => restarting.starts
    · exact fun _ => restarting.starts
  · intro _
    apply Prog.Tallies.ite
    · intro _
      apply reads.bind
      intro m
      apply Prog.Tallies.ite
      · exact fun _ => restarting.stops.bind fun _ => restarting.voided (by simp)
      · exact fun _ => Prog.tallies_pure _
    · intro _
      rw [if_neg other]
      exact Prog.tallies_pure _

/-- The enumeration, which may start the application. -/
theorem Restarting.enumerates (restarting : Restarting i f) :
    initializeUSB.Tallies sdk (CounterShows i) f := by
  have starts : startUSBDriver.Tallies sdk (CounterShows i) f := by
    have within : Confined [] startUSBDriver := by simp [startUSBDriver, call]
    have makes : Makes (.setup :: checkKinds) startUSBDriver := by simp [startUSBDriver, call]
    exact restarting.aside within (by decide) makes (by decide)
  have descriptors : setUSBdescriptors.Tallies sdk (CounterShows i) f := by
    have within (names : List String) (overall : ReturnStatus) :
        Confined [] (setDescriptors names overall) := by
      induction names generalizing overall with
      | nil => exact within_pure _
      | cons name rest ih => simp [setDescriptors, call, ih]
    have makes (names : List String) (overall : ReturnStatus) :
        Makes (.setup :: checkKinds) (setDescriptors names overall) := by
      induction names generalizing overall with
      | nil => exact makes_pure _
      | cons name rest ih => simp [setDescriptors, call, ih]
    have within : Confined [] setUSBdescriptors := by simp [setUSBdescriptors, call, within]
    have makes : Makes (.setup :: checkKinds) setUSBdescriptors := by
      simp [setUSBdescriptors, call, makes]
    exact restarting.aside within (by decide) makes (by decide)
  have connects : (call (.connectState true true)).Tallies sdk (CounterShows i) f := by
    have within : Confined [] (call (.connectState true true)) := by simp [call]
    have makes : Makes [.setup] (call (.connectState true true)) := by simp [call]
    exact restarting.aside within (by decide) makes (by decide)
  have reads : ram.Tallies sdk (CounterShows i) f := fun _ _ shown => shown
  unfold initializeUSB
  apply starts.bind
  intro needToRenumerate
  apply (restarting.voided (by simp)).bind
  intro _
  apply descriptors.bind
  intro status
  apply (restarting.checked _ _).bind
  intro _
  apply Prog.Tallies.ite
  · intro _
    apply connects.bind
    intro status
    exact (restarting.checked _ _).bind fun _ => Prog.tallies_pure _
  · intro _
    apply reads.bind
    intro m
    apply Prog.Tallies.ite
    · intro _
      apply restarting.stops.bind
      intro _
      exact restarting.starts.bind fun _ => Prog.tallies_pure _
    · exact fun _ => restarting.starts.bind fun _ => Prog.tallies_pure _

/-- A boot, given what the bring-up of the clock does to the counter. -/
theorem Restarting.boots (restarting : Restarting i f)
    (clock : initClock.Tallies sdk (CounterShows i) f) (n : Nat) (w : World) :
    boot.Ensures sdk (fun tr _ w' => CounterShows i w'.mem (tr.foldl f n)) w := by
  have reads : ram.Tallies sdk (CounterShows i) f := fun _ _ shown => shown
  have defines : cyFxApplicationDefine.Tallies sdk (CounterShows i) f := by
    have within : Confined [.ep0, .health, .console] cyFxApplicationDefine := by
      simp [cyFxApplicationDefine, initializeDebugConsole, call]
    have makes : Makes (.setup :: .queue :: checkKinds) cyFxApplicationDefine := by
      simp [cyFxApplicationDefine, initializeDebugConsole, healthInit, call]
    exact restarting.aside within (by decide) makes (by decide)
  have sets (g : AppRam → AppRam) : (modifyApp g).Tallies sdk (CounterShows i) f := by
    have within : Confined [.app] (modifyApp g) := by simp
    have makes : Makes [] (modifyApp g) := by simp
    exact restarting.aside within (by decide) makes (by decide)
  have begins : gpioInitClock.Tallies sdk (CounterShows i) f := by
    have within : Confined [] gpioInitClock := by simp [gpioInitClock, call]
    have makes : Makes (.setup :: checkKinds) gpioInitClock := by simp [gpioInitClock, call]
    exact restarting.aside within (by decide) makes (by decide)
  have before : bootBeforeClock.Ensures sdk
      (fun tr _ w' => CounterShows i w'.mem (tr.foldl f n)) w := by
    apply call_bind_ensures.mpr
    intro answer _
    simp only [List.foldl_cons, restarting.booted]
    apply modify_bind_ensures.mpr
    have clear : CounterShows i Ram.init 0 := by
      rcases restarting.cleared with rfl | rfl <;> rfl
    exact (defines.bind fun _ => (sets _).bind fun _ => begins) _ 0 clear
  have levels : rx888r2GpioInitialize.Tallies sdk (CounterShows i) f := by
    have within (pins : List UInt8) : Confined [] (confOutputs pins) := by
      induction pins with
      | nil => exact within_pure ()
      | cons pin pins ih => simp [confOutputs, confGpioSimpleOut, call, ih]
    have makes (pins : List UInt8) : Makes (.gpio :: checkKinds) (confOutputs pins) := by
      induction pins with
      | nil => exact makes_pure ()
      | cons pin pins ih => simp [confOutputs, confGpioSimpleOut, call, ih]
    have within : Confined [] rx888r2GpioInitialize := by
      simp [rx888r2GpioInitialize, rx888r2GpioSet, rx888r2AdcStandby, gpioSetValue, within]
    have makes : Makes (.gpio :: checkKinds) rx888r2GpioInitialize := by
      simp [rx888r2GpioInitialize, makes]
    exact restarting.aside within (by decide) makes (by decide)
  have after : bootAfterClock.Tallies sdk (CounterShows i) f := by
    apply reads.bind
    intro m
    apply (restarting.printed _ _).bind
    intro _
    apply levels.bind
    intro _
    apply restarting.enumerates.bind
    intro status
    apply (restarting.checked _ _).bind
    intro _
    apply Prog.Tallies.ite
    · exact fun _ => restarting.printed _ _
    · exact fun _ => restarting.printed _ _
  rw [boot_clock_eq]
  apply before.bind
  intro tr _ w₁ shown
  apply ensures_mono ((clock.bind fun _ => after) w₁ _ shown)
  intro tr' _ w' shown'
  rw [List.foldl_append]
  exact shown'

end Restarting

/-! ## Failures after a step -/

section Failures

variable {n : Nat}

theorem initClock_tallied : I2cTallied initClock := by
  have begins : I2cTallied i2cInit := by
    have within : Quiet [] i2cInit := by simp
    have makes : Makes [.setup] i2cInit := by simp [i2cInit, call]
    exact within.i2c (by decide) makes (by decide)
  apply begins.bind
  intro status
  apply Prog.Tallies.ite
  · exact fun _ => debugPrint_tallied _ _
  · intro _
    apply (writeRegisters_tallied si5351InitSequence).bind
    intro status
    apply Prog.Tallies.ite
    · exact fun _ => debugPrint_tallied _ _
    · exact fun _ => Prog.tallies_pure _

/-- A streaming fault is not one on the bus. -/
theorem countFault_tallied : I2cTallied (countUp 2) :=
  (countUp_kept (by decide)).i2c (makes_countUp 2 : Makes [] _) (by decide)

theorem underrun_tallied (evdata : UInt16) :
    I2cTallied (usbEventCallback cyU3PUsbEventEpUnderrun evdata) := by
  apply (void_tallied (by simp)).bind
  intro _
  exact countFault_tallied.bind fun _ => debugPrint_tallied _ _

theorem modifySession_tallied (g : SessionRam → SessionRam) : I2cTallied (modifySession g) := by
  have within : Confined [.session] (modifySession g) := by simp
  exact within.i2c (by decide) (makes_modifySession g : Makes [] _) (by decide)

theorem healthEvaluate_makes : Makes [.time, .smState, .text] healthEvaluate := by
  simp [healthEvaluate, streamingWedgeDetected, stallSample, coldStartSample, clearStrikes, call]

theorem healthEvaluate_confined : Confined [.session] healthEvaluate := by
  simp [healthEvaluate, streamingWedgeDetected, stallSample, coldStartSample, clearStrikes, call]

theorem recoverCapped_tallied : I2cTallied recoverCapped := by
  have gives : I2cTallied (do
      debugPrint "\r\nWDG: recovery limit (%d), waiting for STARTFX3"
        [.num (← ram).health.glWdgMaxRecovery.toUInt32]) :=
    ram_tallied.bind fun _ => debugPrint_tallied _ _
  unfold recoverCapped
  apply ram_tallied.bind
  intro m
  apply Prog.Tallies.ite
  · intro _
    apply clockHealthy_tallied.bind
    intro healthy
    apply Prog.Tallies.ite
    · intro _
      apply (modifySession_tallied _).bind
      intro _
      apply countFault_tallied.bind
      intro _
      apply ram_tallied.bind
      intro m
      apply (debugPrint_tallied _ _).bind
      intro _
      exact (void_tallied (by simp)).bind fun _ => gives
    · exact fun _ => gives
  · exact fun _ => gives

theorem recoverLight_tallied : I2cTallied recoverLight := by
  have state : I2cTallied gpifGetSMState := by
    have within : Idling [] gpifGetSMState := by simp
    exact within.i2c (by decide) (gpifGetSMState_makes (by simp) : Makes [.smState] _) (by decide)
  have stops : I2cTallied (softStop "\r\nWDG: soft-stop fail SM=%d, forcing") := by
    have within : Confined [] (softStop "\r\nWDG: soft-stop fail SM=%d, forcing") := by
      simp [softStop]
    exact within.i2c (by decide)
      (softStop_makes _ (by simp) : Makes [.gpif, .sleep, .smState, .text] _) (by decide)
  have restarts (hwOk : Bool) : I2cTallied (recoverRestart hwOk) := by
    have within : Confined [] (recoverRestart hwOk) := by simp [recoverRestart, call]
    have makes : Makes [.transfer, .gpif] (recoverRestart hwOk) := by simp [recoverRestart, call]
    exact within.i2c (by decide) makes (by decide)
  have clears : I2cTallied (modifyDMACount fun _ => 0) := by
    have within : Confined [.buffers] (modifyDMACount fun _ => 0) := by simp
    exact within.i2c (by decide) (makes_modifyDMACount _ : Makes [] _) (by decide)
  unfold recoverLight
  apply ram_tallied.bind
  intro m
  apply state.bind
  intro smState
  apply (modifySession_tallied _).bind
  intro _
  apply ram_tallied.bind
  intro m₁
  apply ram_tallied.bind
  intro m₂
  apply (debugPrint_tallied _ _).bind
  intro _
  apply stops.bind
  intro _
  apply (call_tallied (by simp)).bind
  intro rcReset
  apply (call_tallied (by simp)).bind
  intro rcFlush
  apply clockHealthy_tallied.bind
  intro hwOk
  apply (restarts hwOk).bind
  intro rcs
  apply countFault_tallied.bind
  intro _
  apply (debugPrint_tallied _ _).bind
  intro _
  exact (modifySession_tallied _).bind fun _ => clears

theorem healthTick_tallied : I2cTallied healthTick := by
  have beats : I2cTallied healthMainHeartbeat := by
    have within : Quiet [.health] healthMainHeartbeat := by simp
    have makes : Makes [] healthMainHeartbeat := by simp [healthMainHeartbeat]
    exact within.i2c (by decide) makes (by decide)
  have evaluates : I2cTallied healthEvaluate :=
    healthEvaluate_confined.i2c (by decide) healthEvaluate_makes (by decide)
  have recovers (hs : HealthStatus) : I2cTallied (healthRecover hs) := by
    cases hs with
    | ok => exact Prog.tallies_pure _
    | wedgedUnknown => exact Prog.tallies_pure _
    | wedgedEp0 => exact void_tallied (by simp)
    | wedgedStreaming =>
        apply ram_tallied.bind
        intro m
        apply ram_tallied.bind
        intro m'
        apply ram_tallied.bind
        intro m''
        apply Prog.Tallies.ite
        · exact fun _ => recoverCapped_tallied
        · exact fun _ => recoverLight_tallied
  apply beats.bind
  intro _
  apply evaluates.bind
  intro hs
  apply Prog.Tallies.ite
  · exact fun _ => (debugPrint_tallied _ _).bind fun _ => recovers hs
  · exact fun _ => Prog.tallies_pure _

theorem refused_makes {s : Setup} (refused : s.command? = none) :
    Makes [.text, .ack, .stall, .endpoint] (setupRequest s) := by
  unfold setupRequest
  split
  next => exact (standardRequest_makes s).mono (by decide)
  next =>
    split
    next vendor =>
      unfold vendorRequest
      split
      next => simp
      next short =>
        split
        next => simp
        next right =>
          have unknown : FX3Command.ofCode? s.bRequest = none := by
            rw [← refused, Setup.command?, if_pos ⟨vendor, short, right⟩]
          rw [unknown]
          simp [vendorCommand, unknownRequest]
    next => exact makes_pure _

theorem refused_confined {s : Setup} (refused : s.command? = none) :
    Confined [] (setupRequest s) := by
  unfold setupRequest
  split
  next => simp
  next =>
    split
    next vendor =>
      unfold vendorRequest
      split
      next => simp
      next short =>
        split
        next => simp
        next right =>
          have unknown : FX3Command.ofCode? s.bRequest = none := by
            rw [← refused, Setup.command?, if_pos ⟨vendor, short, right⟩]
          rw [unknown]
          simp [vendorCommand]
    next => exact within_pure _

theorem around_counts {α : Type} {p : Fw α} {parts : List Part} {w : World} (quiet : Quiet parts p)
    (out : .counter ∉ parts) (makes : Makes [.time, .text] p) (shown : CounterShows 1 w.mem n) :
    p.Ensures sdk (fun tr _ w' => CounterShows 1 w'.mem n ∧ (∀ k, tr.foldl i2cTally k = k) ∧
      receivedBytes? tr = none) w := by
  apply ensures_mono (ensures_and
    (i2cTally_restarting.around quiet out makes (by decide) shown)
    (aside_ensures makes (by decide) (by decide) 0))
  rintro tr _ w' ⟨⟨shown', same⟩, -, unread⟩
  exact ⟨shown', same, unread⟩

theorem refusals_around {c : FX3Command} {s : Setup} {before made after : List FwCall}
    (first : receivedBytes? before = none) (last : receivedBytes? after = none) :
    refusals c s (before ++ (made ++ after)) = refusals c s made := by
  have same : receivedBytes? (before ++ (made ++ after)) = receivedBytes? made := by
    rw [receivedBytes?_append, receivedBytes?_append, first, last]
    simp
  unfold refusals
  rw [same]

theorem command_counts {setupdat0 setupdat1 : UInt32} {c : FX3Command} {w : World}
    (executes : (Setup.decode setupdat0 setupdat1).command? = some c)
    (shown : CounterShows 1 w.mem n) :
    (Act.prog (.request setupdat0 setupdat1)).Ensures sdk (fun tr _ w' => CounterShows 1 w'.mem
      (tr.foldl i2cTally n + refusals c (Setup.decode setupdat0 setupdat1) tr)) w := by
  simp only [Act.prog, cyFxSlFifoApplnUSBSetupCB, setupRequest_eq executes, bind_assoc, pure_bind]
  apply (around_counts (by simp : Quiet [.ep0] _) (by decide) (by simp) shown).bind
  rintro before _ w₁ ⟨shown₁, first, unread⟩
  apply (vendorCommand_counts _ c shown₁).bind
  intro made handled w₂ shown₂
  apply ensures_mono (around_counts (by simp : Quiet [.ep0] _) (by decide) (by simp) shown₂)
  rintro after _ w' ⟨shown₃, last, unread'⟩
  rw [refusals_around unread unread', List.foldl_append, List.foldl_append, first, last]
  exact shown₃

theorem refused_tallied {setupdat0 setupdat1 : UInt32}
    (refused : (Setup.decode setupdat0 setupdat1).command? = none) :
    I2cTallied (Act.prog (.request setupdat0 setupdat1)) := by
  have serves : I2cTallied (setupRequest (Setup.decode setupdat0 setupdat1)) :=
    (refused_confined refused).i2c (by decide) (refused_makes refused) (by decide)
  have records (e : HealthEvent) : I2cTallied (healthRecordEvent e) := by
    have quiet : Quiet [.ep0] (healthRecordEvent e) := by simp
    exact quiet.i2c (by decide) (healthRecordEvent_makes e (by simp) : Makes [.time] _) (by decide)
  apply Prog.Tallies.bind
  · apply (records _).bind
    intro _
    apply serves.bind
    intro handled
    exact (records _).bind fun _ => Prog.tallies_pure _
  · exact fun _ => Prog.tallies_pure _

/-- A step adds its failures to the count. -/
theorem step_failures (t : device.Step) (before : t.act = .boot ∨ CounterShows 1 t.before.mem n) :
    CounterShows 1 t.after.mem (i2cFailuresAfter n t) := by
  have runs := t.runs
  unfold i2cFailuresAfter
  cases act : t.act with
  | boot =>
      rw [act] at runs
      exact runs.ensures (i2cTally_restarting.boots initClock_tallied n _)
  | request setupdat0 setupdat1 =>
      rw [act] at runs before
      have shown := before.resolve_left (by simp)
      simp only
      cases command : (Setup.decode setupdat0 setupdat1).command? with
      | none => exact (refused_tallied command).run runs shown
      | some c => exact runs.ensures (command_counts command shown)
  | usbEvent evtype evdata =>
      rw [act] at runs before
      have shown := before.resolve_left (by simp)
      by_cases underrun : evtype = cyU3PUsbEventEpUnderrun
      · subst underrun
        exact (underrun_tallied evdata).run runs shown
      · exact (i2cTally_restarting.usbEvent evdata underrun).run runs shown
  | tick =>
      rw [act] at runs before
      exact healthTick_tallied.run runs (before.resolve_left (by simp))
  | buffers count =>
      rw [act] at runs before
      have within : Confined [.buffers] (Act.prog (.buffers count)) := by simp [Act.prog]
      have makes : Makes [] (Act.prog (.buffers count)) := by simp [Act.prog]
      have tallied : I2cTallied (Act.prog (.buffers count)) :=
        within.i2c (by decide) makes (by decide)
      exact tallied.run runs (before.resolve_left (by simp))
  | active flag =>
      rw [act] at runs before
      have within : Confined [.app] (Act.prog (.active flag)) := by simp [Act.prog]
      have makes : Makes [] (Act.prog (.active flag)) := by simp [Act.prog]
      have tallied : I2cTallied (Act.prog (.active flag)) :=
        within.i2c (by decide) makes (by decide)
      exact tallied.run runs (before.resolve_left (by simp))

end Failures

end Rx888
