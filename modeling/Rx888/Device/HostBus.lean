import Rx888.Device.ClockGuard
import Rx888.Device.Bus

/-! # The host's way to the I2C bus

Besides the clock chip the firmware leaves the devices on the bus to the host. What is known of
such a device is what I2CWFX3 has written there, and I2CRFX3 reads that back.
-/

namespace Rx888

open CallProgram

abbrev Known := UInt8 → Option UInt8

namespace Known

def Of (known : Known) (regs : ClockRegs) : Prop := ∀ r v, known r = some v → regs r = v

def written (known : Known) (reg : UInt8) (bytes : List UInt8) (acked : Bool) : Known := fun r =>
  match bytes[(r - reg).toNat]? with
  | some v => if acked then some v else none
  | none => known r

def after (known : Known) (t : ClockTransfer) : Known :=
  known.written t.reg t.bytes (t.status == cyU3PSuccess)

variable {known : Known} {regs regs' : ClockRegs} {t : ClockTransfer} {ts : List ClockTransfer}

@[simp] theorem written_nil (reg : UInt8) (acked : Bool) : known.written reg [] acked = known := rfl

theorem Of.store (holds : known.Of regs) (ok : t.status = cyU3PSuccess) :
    (known.after t).Of (regs.store t.reg t.bytes) := by
  intro r v known'
  unfold after written at known'
  unfold ClockRegs.store
  rw [List.getD_eq_getElem?_getD]
  split at known'
  case h_1 value here =>
    rw [if_pos (beq_iff_eq.mpr ok)] at known'
    rw [here]
    exact Option.some.inj known'
  case h_2 apart =>
    rw [apart]
    exact holds r v known'

/-- What part of a failed write was stored does not matter. -/
theorem Of.store_part (holds : known.Of regs) (failed : t.status ≠ cyU3PSuccess) (stored : Nat) :
    (known.after t).Of (regs.store t.reg (t.bytes.take stored)) := by
  intro r v known'
  unfold after written at known'
  split at known'
  case h_1 =>
    rw [if_neg (by simpa using failed)] at known'
    cases known'
  case h_2 apart =>
    rw [ClockRegs.store_apart]
    · exact holds r v known'
    · have past := List.getElem?_eq_none_iff.mp apart
      exact Nat.le_trans (List.length_take_le' _ _) past

theorem Of.evolves {parts : List Nat} (holds : known.Of regs)
    (evolves : Evolves regs ts parts regs') : (ts.foldl after known).Of regs' := by
  induction evolves generalizing known with
  | nil => exact holds
  | acked ok rest ih => exact ih (holds.store ok)
  | failed stored most failed rest ih => exact ih (holds.store_part failed stored)

end Known

/-! ## Who writes to a device -/

/-- The call writes to no device but the clock chip. -/
def Call.clockOnly : Call → Bool
  | .i2cTransmitBytes preamble _ => preamble.buffer.headD 0 == si5351Addr
  | _ => true

abbrev ClockOnly {α : Type} (p : Fw α) : Prop :=
  p.Uses (fun _ => True) fun c => c.clockOnly = true

section Programs

variable {α : Type} {addr : UInt8}

theorem Makes.clockOnly {p : Fw α} (makes : Makes offBus p) : ClockOnly p := by
  apply Prog.Uses.mono makes (fun _ => id)
  intro c kind
  cases c with
  | i2cTransmitBytes preamble bytes =>
      have on : Kind.i2cWrite ∉ offBus := by decide
      exact absurd kind on
  | _ => rfl

theorem transferTo?_clockOnly (apart : addr ≠ si5351Addr) {c : Call} (only : c.clockOnly = true)
    (r : c.Ans) : c.transferTo? addr r = none := by
  cases c with
  | i2cTransmitBytes preamble bytes =>
      unfold Call.clockOnly at only
      unfold Call.transferTo?
      simp only at only ⊢
      split
      case h_1 device reg same =>
        rw [same, List.headD_cons, beq_iff_eq] at only
        rw [if_neg]
        rw [only]
        exact apart.symm
      case h_2 => rfl
  | _ => rfl

theorem i2cTransferWrite_clockOnly (byteAddress byteCount : UInt8) (buffer : List UInt8) :
    ClockOnly (i2cTransferWrite byteAddress si5351Addr byteCount buffer) := by
  have counts (status : ReturnStatus) : ClockOnly (countI2cFailure status) :=
    Makes.clockOnly (countI2cFailure_makes status)
  have writes (bytes : List UInt8) :
      (Call.i2cTransmitBytes ⟨[si5351Addr, byteAddress], 0x0000⟩ bytes).clockOnly = true := rfl
  simp [i2cTransferWrite, call, writes, counts]

theorem writeRegisters_clockOnly (regs : List (UInt8 × UInt8)) :
    ClockOnly (writeRegisters regs) := by
  induction regs with
  | nil => exact Prog.uses_pure _
  | cons entry rest ih =>
      simp [writeRegisters, i2cTransferW1, i2cTransferWrite_clockOnly, ih]

theorem boot_clockOnly : ClockOnly boot := by
  have bus : ClockOnly i2cInit := by
    apply Makes.clockOnly
    simp [i2cInit, call, Call.kind]
  have prints (fmt : String) (args : List DebugArg) : ClockOnly (debugPrint fmt args) := by
    apply Makes.clockOnly
    simp
  have init : ClockOnly initClock := by
    simp [initClock, bus, prints, si5351Init, writeRegisters_clockOnly]
  rw [boot_clock_eq]
  simp [bootBeforeClock_offBus.clockOnly, bootAfterClock_offBus.clockOnly, init]

theorem startadc_clockOnly (s : Setup) : ClockOnly (startadc s) := by
  have received : ClockOnly (getEP0Data s.wLength) :=
    Makes.clockOnly (getEP0Data_makes s.wLength (by decide))
  have stops : ClockOnly implicitStop := by
    apply Makes.clockOnly
    simp [implicitStop, Call.kind]
  have polls : ClockOnly (pollPllLocked 100) := by
    apply Makes.clockOnly
    simp
  have prints (fmt : String) (args : List DebugArg) : ClockOnly (debugPrint fmt args) := by
    apply Makes.clockOnly
    simp
  have tunes (freq : UInt32) : ClockOnly (si5351aSetFrequencyA freq) := by
    have failed : Call.clockOnly .i2cGetErrorCode = true := rfl
    simp [si5351aSetFrequencyA, i2cTransferW1, setupPLL, setupMultisynth,
      i2cTransferWrite_clockOnly, call, failed, prints]
  have reads : ClockOnly ram := fun _ => trivial
  simp [startadc, received, stops, polls, prints, tunes, reads]

end Programs

/-! ## Writing -/

/-- What I2CWFX3 makes of what is known: its payload is what it writes. -/
def Known.afterStep (addr : UInt8) (known : Known) (t : device.Step) : Known :=
  match t.act with
  | .request setupdat0 setupdat1 =>
      let s := Setup.decode setupdat0 setupdat1
      if s.command? = some .i2cwfx3 ∧ s.wValue.toUInt8 = addr then
        match receivedBytes? t.trace with
        | some bytes =>
            known.written s.wIndex.toUInt8 bytes (allAcked (transfersTo addr t.trace))
        | none => known
      else known
  | _ => known

section Writing

variable {addr : UInt8} {w : World} {t : device.Step} {known : Known}

theorem countI2cFailure_aside (status : ReturnStatus) (w : World) :
    (countI2cFailure status).Ensures sdk (fun tr _ _ => tr = []) w := by
  unfold countI2cFailure
  split <;> rfl

theorem i2cTransferWrite_writes (addr byteAddress devAddr byteCount : UInt8) (buffer : List UInt8)
    (w : World) :
    (i2cTransferWrite byteAddress devAddr byteCount buffer).Ensures sdk (fun tr status _ =>
      receivedBytes? tr = none ∧ transfersTo addr tr =
        if byteCount = 0 ∨ devAddr ≠ addr then []
        else [⟨byteAddress, buffer.take byteCount.toNat, status⟩]) w := by
  unfold i2cTransferWrite
  by_cases none : byteCount = 0
  · rw [if_pos none]
    exact ⟨rfl, by simp [none]⟩
  · rw [if_neg none]
    intro status _
    apply (countI2cFailure_aside status _).bind
    rintro tr _ _ rfl
    refine ⟨rfl, ?_⟩
    by_cases here : devAddr = addr
    · simp [transfersTo, Call.transferTo?, none, here]
    · simp [transfersTo, Call.transferTo?, here]

theorem getEP0Data_payload (count : UInt16) (w : World) :
    (getEP0Data count).Ensures sdk (fun tr status w' => transfersTo addr tr = [] ∧
      ((status ≠ cyU3PSuccess ∧ receivedBytes? tr = none) ∨
        (status = cyU3PSuccess ∧ ∃ bytes, receivedBytes? tr = some bytes ∧
          bytes.length = count.toNat ∧ w'.mem.usb.glEp0Buffer.take count.toNat = bytes))) w := by
  intro answer _
  cases answer with
  | error e => exact ⟨rfl, Or.inl ⟨e.2, rfl⟩⟩
  | ok bytes =>
      refine ⟨rfl, Or.inr ⟨rfl, bytes.toList, rfl, by simp, ?_⟩⟩
      exact take_memcpyAt _ _ (by simp)

/-- Of the payload nothing is lost on the way. -/
theorem i2cwfx3_writes {s : Setup} (short : s.wLength.toNat ≤ 64)
    (pass : s.wValue.toUInt8 = addr → si5351AccessBlocked s.wValue s.wIndex s.wLength = false) :
    (i2cwfx3 s).Ensures sdk (fun tr _ _ =>
      (receivedBytes? tr = none ∧ transfersTo addr tr = []) ∨
      ∃ bytes status, receivedBytes? tr = some bytes ∧ transfersTo addr tr =
        if bytes = [] ∨ s.wValue.toUInt8 ≠ addr then []
        else [⟨s.wIndex.toUInt8, bytes, status⟩]) w := by
  obtain ⟨count, none_iff⟩ := toUInt8_count short
  unfold i2cwfx3
  apply (getEP0Data_payload s.wLength w).bind
  rintro tr status w₁ ⟨none, ⟨failed, noPayload⟩ | ⟨rfl, bytes, payload, length, held⟩⟩
  · rw [if_neg failed, ensures_pure, List.append_nil]
    exact Or.inl ⟨noPayload, none⟩
  · rw [if_pos rfl]
    have prints {α : Type} {p : Fw α} (makes : Makes [.text, .i2cError] p) (w : World) :=
      aside_ensures (w := w) makes (by decide) (by decide) addr
    by_cases blocked : si5351AccessBlocked s.wValue s.wIndex s.wLength = true
    · have other : s.wValue.toUInt8 ≠ addr := by
        intro here
        rw [pass here] at blocked
        cases blocked
      rw [if_pos blocked]
      apply ensures_mono (prints (by simp) w₁)
      rintro tr' _ _ ⟨none', _⟩
      right
      refine ⟨bytes, cyU3PSuccess, ?_, ?_⟩
      · rw [receivedBytes?_append, payload, Option.some_or]
      · rw [transfersTo_append, none, none', if_pos (Or.inr other)]
        rfl
    · rw [if_neg blocked]
      apply (i2cTransferWrite_writes addr s.wIndex.toUInt8 s.wValue.toUInt8
        s.wLength.toUInt8 w₁.mem.usb.glEp0Buffer w₁).bind
      rintro tr' status w₂ ⟨_, writes⟩
      apply ensures_mono (prints (by simp [call, Call.kind]) w₂)
      rintro tr'' _ _ ⟨none'', _⟩
      right
      refine ⟨bytes, status, ?_, ?_⟩
      · rw [receivedBytes?_append, payload, Option.some_or]
      · have empty : bytes = [] ↔ s.wLength.toUInt8 = 0 := by
          rw [← List.length_eq_zero_iff, length, ← count, ← UInt8.toNat_inj]
          rfl
        rw [transfersTo_append, transfersTo_append, none, writes, none'', count, held,
          List.nil_append, List.append_nil]
        simp only [empty]

theorem clockOnly_of_kind {c : Call} (other : c.kind ≠ .i2cWrite) : c.clockOnly = true := by
  cases c <;> first | rfl | exact absurd rfl other

theorem step_spares (apart : addr ≠ si5351Addr) (other : t.act.command? ≠ some .i2cwfx3) :
    transfersTo addr t.trace = [] := by
  have only : ∀ u ∈ t.trace, u.call.clockOnly = true := by
    have runs := t.runs
    by_cases booted : t.act = .boot
    · rw [booted] at runs
      exact runs.calls boot_clockOnly
    · by_cases adc : t.act.command? = some .startadc
      · cases act : t.act with
        | request setupdat0 setupdat1 =>
            rw [act] at adc
            obtain ⟨before, made, after, w₁, isHandled, w₂, trace, tunes, kinds⟩ :=
              device_split act adc
            obtain ⟨first, last⟩ := List.forall_mem_append.mp kinds
            have aside {tr : List FwCall} (kinds : ∀ u ∈ tr, u.call.kind ∈ [.time, .text]) :
                ∀ u ∈ tr, u.call.clockOnly = true := by
              intro u mem
              apply clockOnly_of_kind
              intro same
              have kind := kinds u mem
              rw [same] at kind
              revert kind
              decide
            rw [trace]
            have makes := tunes.calls (startadc_clockOnly _)
            exact List.forall_mem_append.mpr
              ⟨aside first, List.forall_mem_append.mpr ⟨makes, aside last⟩⟩
        | _ => simp [act, Act.command?] at adc
      · have none := step_unwritten booted fun c command =>
          ⟨fun same => adc (same ▸ command), fun same => other (same ▸ command)⟩
        exact fun u mem => clockOnly_of_kind (none u mem)
  apply List.filterMap_eq_nil_iff.mpr
  intro u mem
  exact transferTo?_clockOnly apart (only u mem) u.ans

theorem unblocked_apart {s : Setup} (apart : addr &&& 0xFE ≠ 0xC0)
    (here : s.wValue.toUInt8 = addr) :
    si5351AccessBlocked s.wValue s.wIndex s.wLength = false := by
  apply unblocked_of_allowed
  left
  rw [here]
  exact apart

theorem short_of_command {s : Setup} {c : FX3Command} (command : s.command? = some c) :
    s.wLength.toNat ≤ 64 := by
  obtain ⟨-, short, -⟩ := command?_eq_some command
  exact UInt16.le_iff_toNat_le.mp (UInt16.not_lt.mp short)

theorem step_writes (apart : addr &&& 0xFE ≠ 0xC0) {setupdat0 setupdat1 : UInt32}
    (act : t.act = .request setupdat0 setupdat1)
    (command : (Setup.decode setupdat0 setupdat1).command? = some .i2cwfx3) :
    (receivedBytes? t.trace = none ∧ transfersTo addr t.trace = []) ∨
    ∃ bytes status, receivedBytes? t.trace = some bytes ∧ transfersTo addr t.trace =
      if bytes = [] ∨ (Setup.decode setupdat0 setupdat1).wValue.toUInt8 ≠ addr then []
      else [⟨(Setup.decode setupdat0 setupdat1).wIndex.toUInt8, bytes, status⟩] := by
  obtain ⟨before, made, after, w₁, isHandled, w₂, trace, runs, kinds⟩ := device_split act command
  obtain ⟨first, last⟩ := List.forall_mem_append.mp kinds
  have transfers : transfersTo addr t.trace = transfersTo addr made := by
    rw [trace, transfersTo_append, transfersTo_append, around_unwritten first,
      around_unwritten last, List.nil_append, List.append_nil]
  have received : receivedBytes? t.trace = receivedBytes? made := by
    rw [trace, receivedBytes?_append, receivedBytes?_append,
      receivedBytes?_none (by decide) first, receivedBytes?_none (by decide) last, Option.none_or,
      Option.or_none]
  rw [transfers, received]
  exact runs.ensures (i2cwfx3_writes (short_of_command command) (unblocked_apart apart))

/-- The knowledge follows the writes. -/
theorem afterStep_eq (apart : addr &&& 0xFE ≠ 0xC0) (known : Known) (t : device.Step) :
    known.afterStep addr t = (transfersTo addr t.trace).foldl Known.after known := by
  have chip : addr ≠ si5351Addr := by
    rintro rfl
    exact apart (by decide)
  by_cases command : t.act.command? = some .i2cwfx3
  · cases act : t.act with
    | request setupdat0 setupdat1 =>
        rw [act] at command
        have writes := step_writes apart act command
        unfold Act.command? at command
        unfold Known.afterStep
        rw [act]
        simp only [command, true_and]
        rcases writes with ⟨none, quiet⟩ | ⟨bytes, status, received, sent⟩
        · rw [none, quiet]
          split <;> rfl
        · rw [received, sent]
          by_cases here : (Setup.decode setupdat0 setupdat1).wValue.toUInt8 = addr
          · rw [if_pos here]
            by_cases empty : bytes = []
            · rw [if_pos (Or.inl empty), empty]
              rfl
            · rw [if_neg (by simp [empty, here])]
              simp [allAcked, Known.after]
          · rw [if_neg here, if_pos (Or.inr here)]
            rfl
    | _ => simp [act, Act.command?] at command
  · rw [step_spares chip command, List.foldl_nil]
    unfold Known.afterStep
    cases act : t.act with
    | request setupdat0 setupdat1 =>
        rw [act] at command
        simp only
        rw [if_neg fun hit => command hit.1]
    | _ => rfl

end Writing

/-! ## Reading -/

/-- The device answers a read with what its registers hold, from the one addressed on. -/
def ClockRegs.answers (regs : ClockRegs) (addr : UInt8) : (c : Call) → c.Ans → Bool
  | .i2cReceiveBytes preamble byteCount, .ok bytes =>
      match preamble.buffer with
      | [device, reg, _] => device != addr ||
          bytes.toList == (List.range byteCount.toNat).map fun k => regs (reg + UInt8.ofNat k)
      | _ => true
  | _, _ => true

theorem answers_of_traffic {addr : UInt8} {regs : ClockRegs} {tr : List FwCall}
    (truthful : ∀ u ∈ tr, regs.answers addr u.call u.ans = true) {reg byteCount : UInt8}
    {ctrlMask : UInt16} {bytes : List UInt8}
    (read : .read ⟨[addr, reg, addr ||| 0x01], ctrlMask⟩ byteCount (some bytes) ∈ traffic tr) :
    bytes = (List.range byteCount.toNat).map fun k => regs (reg + UInt8.ofNat k) := by
  obtain ⟨⟨w, c, answer⟩, mem, made⟩ := List.mem_filterMap.mp read
  have answers := truthful _ mem
  cases c with
  | i2cReceiveBytes preamble count =>
      cases answer with
      | error e => simp [trafficOf, Except.map, Except.toOption] at made
      | ok data =>
          simp only [trafficOf, Except.map, Except.toOption, Option.some.injEq, Traffic.read.injEq]
            at made
          obtain ⟨rfl, rfl, rfl⟩ := made
          simpa [ClockRegs.answers] using answers
  | _ => simp [trafficOf] at made

/-- Whatever else the firmware has done, what the host reads from a device is what it last wrote
there, wherever that write was acknowledged. -/
theorem i2c_reads_back {addr : UInt8} (apart : addr &&& 0xFE ≠ 0xC0) {start regs : ClockRegs}
    {steps : List device.Step} {parts : List Nat}
    (evolves : Evolves start (steps.flatMap fun t => transfersTo addr t.trace) parts regs)
    {t : device.Step} {setupdat0 setupdat1 : UInt32} (act : t.act = .request setupdat0 setupdat1)
    (command : (Setup.decode setupdat0 setupdat1).command? = some .i2crfx3)
    (here : (Setup.decode setupdat0 setupdat1).wValue.toUInt8 = addr)
    (truthful : ∀ u ∈ t.trace, regs.answers addr u.call u.ans = true) {bytes : List UInt8}
    (reply : .toHost bytes ∈ traffic t.trace) :
    bytes.length = (Setup.decode setupdat0 setupdat1).wLength.toNat ∧
    ∀ k < bytes.length, ∀ v, steps.foldl (Known.afterStep addr) (fun _ => none)
      ((Setup.decode setupdat0 setupdat1).wIndex.toUInt8 + UInt8.ofNat k) = some v →
        bytes[k]? = some v := by
  have known : (steps.foldl (Known.afterStep addr) fun _ => none).Of regs := by
    have follows : steps.foldl (Known.afterStep addr) (fun _ => none) =
        (steps.flatMap fun t => transfersTo addr t.trace).foldl Known.after fun _ => none := by
      rw [List.foldl_flatMap]
      congr 1
      funext known t
      exact afterStep_eq apart known t
    rw [follows]
    exact Known.Of.evolves (by rintro r v ⟨⟩) evolves
  have runs := t.runs
  rw [act] at runs
  have passes := runs.ensures (request_ensures command (fun _ => vendorCommand_passes (.inr rfl)
    (.inl (by rw [here]; exact apart)) (short_of_command command)) _)
  have reads (reg byteCount : UInt8) (ctrlMask : UInt16) (bytes : List UInt8) :
      .read ⟨[addr, reg, addr ||| 0x01], ctrlMask⟩ byteCount (some bytes) ∈ traffic t.trace →
        bytes = (List.range byteCount.toNat).map fun k => regs (reg + UInt8.ofNat k) :=
    answers_of_traffic truthful
  generalize traffic t.trace = tr at passes reply reads
  cases passes with
  | nothingToRead none =>
      rw [List.mem_singleton, Traffic.toHost.injEq] at reply
      subst reply
      exact ⟨by rw [none]; rfl, fun k past => absurd past (Nat.not_lt_zero k)⟩
  | read byteCount count any bytes' all =>
      have same : bytes = bytes' := by simpa using reply
      subst same
      refine ⟨all, ?_⟩
      intro k within v last
      have data := reads _ _ _ bytes (by rw [here]; exact List.mem_cons_self)
      have value := known _ v last
      rw [data, List.getElem?_map, List.getElem?_range (by omega), Option.map_some, value]
  | readFailed byteCount count any => simp at reply

/-- The host writes two registers of a device, and reads them back. -/
def twoWritten : List device.Step :=
  (benchRun [(vendorSetup false .i2cwfx3 0xA0 0x20 2,
    { Bench.idle with hostData := [0x5A, 0x5A] })]).1

def twoRead : device.Step :=
  device.perform (Bench.oracle { Bench.idle with pllStatus := 0x5A })
    (.request 0x00A0AFC0 0x00020020) powerUp

theorem i2c_reads_back_two :
    .toHost [0x5A, 0x5A] ∈ traffic twoRead.trace ∧
    twoWritten.foldl (Known.afterStep 0xA0) (fun _ => none) 0x21 = some 0x5A ∧
    ([0x5A, 0x5A] : List UInt8)[1]? = some 0x5A := by
  have transfers : (twoWritten.flatMap fun t => transfersTo 0xA0 t.trace) =
      [⟨0x20, [0x5A, 0x5A], cyU3PSuccess⟩] := rfl
  have evolves : Evolves (fun _ => 0) (twoWritten.flatMap fun t => transfersTo 0xA0 t.trace) [2]
      (ClockRegs.store (fun _ => 0) 0x20 [0x5A, 0x5A]) := by
    rw [transfers]
    exact .acked rfl .nil
  have truthful : twoRead.trace.all (fun u => ClockRegs.answers
      (ClockRegs.store (fun _ => 0) 0x20 [0x5A, 0x5A]) 0xA0 u.call u.ans) = true := rfl
  have reply : .toHost [0x5A, 0x5A] ∈ traffic twoRead.trace := by
    have all : traffic twoRead.trace =
        [.read ⟨[0xA0, 0x20, 0xA1], 0x0002⟩ 2 (some [0x5A, 0x5A]), .toHost [0x5A, 0x5A]] := rfl
    rw [all]
    exact List.mem_cons_of_mem _ List.mem_cons_self
  have act : twoRead.act = .request 0x00A0AFC0 0x00020020 := rfl
  have written : twoWritten.foldl (Known.afterStep 0xA0) (fun _ => none) 0x21 = some 0x5A := rfl
  have reads := i2c_reads_back (by decide) evolves act (by decide) (by decide)
    (List.all_eq_true.mp truthful) reply
  exact ⟨reply, written, reads.2 1 (by decide) 0x5A written⟩

end Rx888
