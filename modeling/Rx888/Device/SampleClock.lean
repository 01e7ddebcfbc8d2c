import Rx888.Clock.FailedRetune
import Rx888.Device.Bus
import Rx888.Device.StartGate
import Rx888.FrontEnd.Readback

/-! # The sample clock as last commanded

The clock chip is written in three places: at boot, by STARTADC, and by I2CWFX3 where the host
addresses it. Between these nothing changes it, whatever streams, stalls or recovers meanwhile.
-/

namespace Rx888

open CallProgram

/-- What the steps so far have made of the sample clock. -/
inductive ClockCommand where
  | unknown
  | off
  | tuned (freq : UInt32)
  deriving DecidableEq, Repr

/-- A boot switches CLK0 off, and STARTADC sets it as its payload says; either leaves the chip in
doubt when not all of it is acknowledged, as a host does that writes to the chip itself. -/
def ClockCommand.after (x : ClockCommand) (t : device.Step) : ClockCommand :=
  match t.act with
  | .boot =>
      if acknowledged (clockTransfers t.trace) = si5351InitSequence.length then .off else .unknown
  | .request setupdat0 setupdat1 =>
      let s := Setup.decode setupdat0 setupdat1
      match s.command? with
      | some .startadc =>
          match receivedWord? t.trace with
          | none => x
          | some freq =>
              if s.wLength = 4 ∧ allAcked (clockTransfers t.trace) then
                if freq = 0 then .off else .tuned freq
              else .unknown
      | some .i2cwfx3 => if (clockTransfers t.trace).isEmpty then x else .unknown
      | _ => x
  | _ => x

def ClockCommand.Holds (regs : ClockRegs) : ClockCommand → Prop
  | .unknown => True
  | .off => regs.clk0Down = true
  | .tuned freq => freq ≠ 0 ∧ regs.Tuned freq

/-! ## The sequences -/

section Sequences

theorem writeRegisters_sends (regs : List (UInt8 × UInt8)) (w : World) :
    (writeRegisters regs).Ensures sdk (fun tr status _ =>
      Sent (regs.map fun x => (x.1, [x.2])) (clockTransfers tr) status) w := by
  induction regs generalizing w with
  | nil => exact .done
  | cons x rest ih =>
      unfold writeRegisters i2cTransferW1
      apply sent_write (by decide)
      · intro status w failed
        rw [if_pos failed]
        exact ⟨rfl, rfl⟩
      · intro w
        rw [if_neg (by simp)]
        exact ih w

/-- After the whole of the bring-up CLK0 is off. -/
theorem clk0Down_of_init {regs regs' : ClockRegs} {ts : List ClockTransfer} {parts : List Nat}
    (sent : Sent (si5351InitSequence.map fun x => (x.1, [x.2])) ts cyU3PSuccess)
    (evolves : Evolves regs ts parts regs') : regs'.clk0Down = true := by
  have apart : ∀ (ws : List (UInt8 × UInt8)) (regs : ClockRegs),
      (∀ x ∈ ws, x.1 ≠ siClk0Control) →
        (ws.map fun x => (x.1, [x.2])).foldl (fun regs x => regs.store x.1 x.2) regs
          siClk0Control = regs siClk0Control := by
    intro ws
    induction ws with
    | nil => exact fun _ _ => rfl
    | cons x ws ih =>
        intro regs other
        rw [List.map_cons, List.foldl_cons, ih _ fun y hy => other y (List.mem_cons_of_mem _ hy)]
        apply ClockRegs.store_apart
        have ne := other x List.mem_cons_self
        apply Nat.one_le_iff_ne_zero.mpr
        intro zero
        apply ne
        have same : siClk0Control - x.1 = 0 := UInt8.toNat_inj.mp zero
        rw [UInt8.sub_eq_iff_eq_add.mp same, UInt8.zero_add]
  have split : si5351InitSequence = (siOutputEnableCtrl, 0xFF) :: (siClk0Control, 0x80) ::
      si5351InitSequence.drop 2 := by decide
  have stored : ((regs.store siOutputEnableCtrl [0xFF]).store siClk0Control [0x80]) siClk0Control =
      0x80 := rfl
  have others : ∀ x ∈ si5351InitSequence.drop 2, x.1 ≠ siClk0Control := by
    have all : (si5351InitSequence.drop 2).all (fun x => x.1 != siClk0Control) = true := by decide
    intro x mem
    exact bne_iff_ne.mp (List.all_eq_true.mp all x mem)
  unfold ClockRegs.clk0Down
  rw [sent.fed_success rfl evolves, ClockRegs.fed_all, split, List.map_cons, List.map_cons,
    List.foldl_cons, List.foldl_cons, apart _ _ others, stored]
  rfl

end Sequences

/-! ## The three places -/

section Places

variable {w w' : World} {tr : List FwCall}

theorem initClock_sends (w : World) :
    initClock.Ensures sdk (fun tr _ _ => clockTransfers tr = [] ∨ ∃ status,
      Sent (si5351InitSequence.map fun x => (x.1, [x.2])) (clockTransfers tr) status) w := by
  have bus : Makes [.setup] i2cInit := by simp [i2cInit, call, Call.kind]
  have prints (fmt : String) (args : List DebugArg) : Makes [.text] (debugPrint fmt args) := by simp
  unfold initClock
  apply (bus.spares_clock (by decide)).bind
  intro tr status w₁ none
  apply ensures_ite
  · intro _
    apply ensures_mono ((prints _ _).spares_clock (by decide))
    intro tr' _ _ none'
    left
    rw [clockTransfers_append, none, none']
    rfl
  · intro _
    apply (writeRegisters_sends si5351InitSequence w₁).bind
    intro tr' status w₂ sent
    have rest : (if status ≠ cyU3PSuccess then
        debugPrint "Si5351Init failed to initialize. Error code: %d." [.num status]
          else pure ()).Ensures sdk (fun tr _ _ => clockTransfers tr = []) w₂ := by
      apply ensures_ite
      · exact fun _ => (prints _ _).spares_clock (by decide)
      · exact fun _ => rfl
    apply ensures_mono rest
    intro tr'' _ _ none''
    right
    refine ⟨status, ?_⟩
    rw [clockTransfers_append, clockTransfers_append, none, none'', List.append_nil]
    exact sent

theorem boot_sends (runs : Runs sdk boot w tr () w') : clockTransfers tr = [] ∨ ∃ status,
    Sent (si5351InitSequence.map fun x => (x.1, [x.2])) (clockTransfers tr) status := by
  rw [boot_clock_eq] at runs
  obtain ⟨first, _, w₁, rest, rfl, before, runs⟩ := runs.split
  obtain ⟨clock, _, w₂, last, rfl, init, after⟩ := runs.split
  have none := bootBeforeClock_offBus.spares before si5351Addr
  have none' := bootAfterClock_offBus.spares after si5351Addr
  have sends := init.ensures (initClock_sends w₁)
  rw [← clockTransfers_eq] at none none'
  rw [clockTransfers_append, clockTransfers_append, none, none', List.nil_append, List.append_nil]
  exact sends

theorem clock_aside {α : Type} {kinds : List Kind} {p : Fw α} (makes : Makes kinds p)
    (bus : .i2cWrite ∉ kinds) (payload : .dataOut ∉ kinds) :
    p.Ensures sdk (fun tr _ _ => clockTransfers tr = [] ∧ receivedWord? tr = none) w := by
  apply ensures_mono (aside_ensures makes bus payload si5351Addr)
  rintro tr _ _ ⟨quiet, noBytes⟩
  exact ⟨quiet, Option.map_eq_none_iff.mpr noBytes⟩

theorem getEP0Data_received (count : UInt16) (w : World) :
    (getEP0Data count).Ensures sdk (fun tr status w' => clockTransfers tr = [] ∧
      ((status ≠ cyU3PSuccess ∧ receivedWord? tr = none) ∨
        (status = cyU3PSuccess ∧ ∃ word, receivedWord? tr = some word ∧
          (count = 4 → word = leWord32 w'.mem.usb.glEp0Buffer)))) w := by
  apply ensures_of_runs
  intro tr status w' runs
  have none := runs.ensures ((getEP0Data_makes count (by simp) : Makes [.dataOut] _).spares_clock
    (by decide))
  refine ⟨none, ?_⟩
  by_cases four : count = 4
  · rcases (runs.ensures (getEP0Data_word four w)).2 with failed | ⟨ok, word⟩
    · exact Or.inl failed
    · exact Or.inr ⟨ok, _, word, fun _ => rfl⟩
  · have received : (getEP0Data count).Ensures sdk (fun tr status _ =>
        (status ≠ cyU3PSuccess ∧ receivedWord? tr = Option.none) ∨
          status = cyU3PSuccess ∧ ∃ word, receivedWord? tr = some word) w := by
      intro answer _
      cases answer with
      | error e => exact Or.inl ⟨e.2, rfl⟩
      | ok bytes => exact Or.inr ⟨rfl, _, rfl⟩
    rcases runs.ensures received with failed | ⟨ok, word, got⟩
    · exact Or.inl failed
    · exact Or.inr ⟨ok, word, got, fun h => absurd h four⟩

/-- STARTADC sends what the driver does for the payload, if there is one. -/
def AdcSends (s : Setup) (tr : List FwCall) : Prop :=
  (receivedWord? tr = none ∧ clockTransfers tr = []) ∨
    ∃ word freq w₁ made status w₂, receivedWord? tr = some word ∧ (s.wLength = 4 → word = freq) ∧
      Runs sdk (si5351aSetFrequencyA freq) w₁ made status w₂ ∧
        clockTransfers tr = clockTransfers made

theorem startadc_sends (s : Setup) (w : World) :
    (startadc s).Ensures sdk (fun tr _ _ => AdcSends s tr) w := by
  unfold startadc
  apply (getEP0Data_received s.wLength w).bind
  rintro tr status w₁ ⟨none, ⟨failed, noWord⟩ | ⟨rfl, word, got, four⟩⟩
  · rw [if_neg failed]
    left
    rw [List.append_nil]
    exact ⟨noWord, none⟩
  · rw [if_pos rfl, ram_bind_ensures]
    have stop : Makes [.smState, .text, .gpif, .transfer, .endpoint] implicitStop := by
      simp [implicitStop, Call.kind]
    apply (clock_aside stop (by decide) (by decide)).bind
    rintro tr₁ _ w₂ ⟨none₁, noWord₁⟩
    have tunes : (si5351aSetFrequencyA (leWord32 w₁.mem.usb.glEp0Buffer)).Ensures sdk
        (fun made status w₃ => Runs sdk (si5351aSetFrequencyA (leWord32 w₁.mem.usb.glEp0Buffer)) w₂
          made status w₃) w₂ := ensures_of_runs fun _ _ _ runs => runs
    apply tunes.bind
    intro made status w₃ runs
    have rest : Makes [.sleep, .i2cRead, .text] (if status = cyU3PSuccess then do
        pollPllLocked 100
        return true
      else do
        debugPrint "STARTADC si5351 failed: %d" [.num status]
        return false) := by
      simp
    apply ensures_mono (clock_aside rest (by decide) (by decide))
    rintro tr₂ _ _ ⟨none₂, noWord₂⟩
    right
    refine ⟨word, _, _, made, status, _, ?_, four, runs, ?_⟩
    · rw [receivedWord?_append, got, Option.some_or]
    · rw [clockTransfers_append, clockTransfers_append, clockTransfers_append, none, none₁, none₂,
        List.nil_append, List.nil_append, List.append_nil]

end Places

/-! ## Steps -/

section Steps

variable {t : device.Step} {regs regs' : ClockRegs} {x : ClockCommand} {parts : List Nat}

theorem holds_kept {ts : List ClockTransfer} (none : ts = []) (holds : x.Holds regs)
    (evolves : Evolves regs ts parts regs') : x.Holds regs' := by
  rw [none] at evolves
  cases evolves
  exact holds

theorem holds_booted (act : t.act = .boot)
    (evolves : Evolves regs (clockTransfers t.trace) parts regs') : (x.after t).Holds regs' := by
  have runs := t.runs
  rw [act] at runs
  unfold ClockCommand.after
  rw [act]
  simp only
  split
  case isFalse => exact trivial
  case isTrue all =>
    rcases boot_sends runs with none | ⟨status, sent⟩
    · rw [none] at all
      cases all
    · have ok := sent.success_iff.mpr (by rw [all, List.length_map])
      rw [ok] at sent
      exact clk0Down_of_init sent evolves

/-- What STARTADC sends and has acknowledged is as it says. -/
theorem holds_adc {setupdat0 setupdat1 : UInt32} (act : t.act = .request setupdat0 setupdat1)
    (command : (Setup.decode setupdat0 setupdat1).command? = some .startadc)
    (holds : x.Holds regs) (evolves : Evolves regs (clockTransfers t.trace) parts regs') :
    (x.after t).Holds regs' := by
  obtain ⟨before, made, after, w₁, isHandled, w₂, trace, runs, kinds⟩ := device_split act command
  obtain ⟨first, last⟩ := List.forall_mem_append.mp kinds
  have sends := runs.ensures (startadc_sends (Setup.decode setupdat0 setupdat1) w₁)
  have transfers : clockTransfers t.trace = clockTransfers made := by
    rw [trace, clockTransfers_append, clockTransfers_append, clockTransfers_eq before,
      clockTransfers_eq after, around_unwritten first, around_unwritten last, List.nil_append,
      List.append_nil]
  have received : receivedWord? t.trace = receivedWord? made := by
    rw [trace, receivedWord?_append, receivedWord?_append, receivedWord?_none (by decide) first,
      receivedWord?_none (by decide) last, Option.none_or, Option.or_none]
  rw [transfers] at evolves
  unfold ClockCommand.after
  rw [act]
  simp only [command, transfers, received]
  rcases sends with ⟨noWord, none⟩ | ⟨word, freq, w₃, tuning, status, w₄, got, four, tunes, same⟩
  · rw [noWord]
    exact holds_kept none holds evolves
  · rw [got]
    simp only
    split
    case isFalse => exact trivial
    case isTrue whole =>
      obtain ⟨length, acked⟩ := whole
      rw [four length]
      rw [same] at acked evolves
      split
      case isTrue zero =>
        rw [zero] at tunes
        rw [tunes.ensures (switchOff_sends w₃)] at acked evolves
        have ok : status = cyU3PSuccess := by
          unfold allAcked at acked
          simpa using acked
        rw [ok] at evolves
        exact clk0Down_of_switchOff evolves
      case isFalse nonzero =>
        have ok := (tunes.ensures (si5351aSetFrequencyA_sends nonzero)).all_acked acked
        rw [ok] at tunes
        exact ⟨nonzero, tuned_of_success nonzero tunes evolves⟩

theorem holds_i2c {setupdat0 setupdat1 : UInt32} (act : t.act = .request setupdat0 setupdat1)
    (command : (Setup.decode setupdat0 setupdat1).command? = some .i2cwfx3)
    (holds : x.Holds regs) (evolves : Evolves regs (clockTransfers t.trace) parts regs') :
    (x.after t).Holds regs' := by
  unfold ClockCommand.after
  rw [act]
  simp only [command]
  split
  case isFalse => exact trivial
  case isTrue none => exact holds_kept (List.isEmpty_iff.mp none) holds evolves

theorem after_unwritten (booted : t.act ≠ .boot)
    (other : ∀ c, t.act.command? = some c → c ≠ .startadc ∧ c ≠ .i2cwfx3) : x.after t = x := by
  unfold ClockCommand.after
  cases act : t.act with
  | boot => exact absurd act booted
  | request setupdat0 setupdat1 =>
      simp only
      rw [act] at other
      unfold Act.command? at other
      simp only at other
      cases command : (Setup.decode setupdat0 setupdat1).command? with
      | none => rfl
      | some c =>
          obtain ⟨adc, i2c⟩ := other c command
          cases c with
          | startadc => exact absurd rfl adc
          | i2cwfx3 => exact absurd rfl i2c
          | _ => rfl
  | usbEvent evtype evdata => rfl
  | tick => rfl
  | buffers count => rfl
  | active flag => rfl

theorem holds_after (t : device.Step) (holds : x.Holds regs)
    (evolves : Evolves regs (clockTransfers t.trace) parts regs') : (x.after t).Holds regs' := by
  by_cases booted : t.act = .boot
  · exact holds_booted booted evolves
  · by_cases other : ∀ c, t.act.command? = some c → c ≠ .startadc ∧ c ≠ .i2cwfx3
    · have none : transfersTo si5351Addr t.trace = [] :=
        transfersTo_eq_nil (step_unwritten booted other)
      rw [after_unwritten booted other]
      exact holds_kept none holds evolves
    · cases act : t.act with
      | request setupdat0 setupdat1 =>
          rw [act] at other
          unfold Act.command? at other
          simp only at other
          cases command : (Setup.decode setupdat0 setupdat1).command? with
          | none => simp [command] at other
          | some c =>
              rw [command] at other
              by_cases adc : c = .startadc
              · subst adc
                exact holds_adc act command holds evolves
              · by_cases i2c : c = .i2cwfx3
                · subst i2c
                  exact holds_i2c act command holds evolves
                · exact absurd (by intro c' same; cases same; exact ⟨adc, i2c⟩) other
      | boot => exact absurd act booted
      | usbEvent evtype evdata => simp [act, Act.command?] at other
      | tick => simp [act, Act.command?] at other
      | buffers count => simp [act, Act.command?] at other
      | active flag => simp [act, Act.command?] at other

end Steps

/-! ## Runs -/

theorem holds_run {start regs : ClockRegs} {steps : List device.Step} {parts : List Nat}
    (evolves : Evolves start (steps.flatMap fun t => clockTransfers t.trace) parts regs)
    (x : ClockCommand) (holds : x.Holds start) :
    (steps.foldl ClockCommand.after x).Holds regs := by
  induction steps generalizing start parts x with
  | nil => exact holds_kept rfl holds evolves
  | cons t steps ih =>
      rw [List.flatMap_cons] at evolves
      obtain ⟨_, _, _, -, first, rest⟩ := evolves.split
      exact ih rest _ (holds_after t holds first)

/-- While the reads report CLK0 off, no step starts a stream. -/
theorem unraised_of_clk0Down {regs : ClockRegs} (down : regs.clk0Down = true) (t : device.Step)
    (truthful : ∀ u ∈ t.trace, regs.truthful u.call u.ans) : .fwTrg true ∉ stepOps t := by
  apply (step_gated t).1.unraised
  rintro ⟨up, -⟩
  obtain ⟨⟨w, c, r⟩, mem, op⟩ := List.mem_filterMap.mp up
  have report := truthful _ mem
  cases c with
  | i2cReceiveBytes preamble byteCount =>
      unfold opOf at op
      simp only at op report r
      split at op
      case isTrue asked =>
        obtain ⟨-, rfl⟩ := asked
        cases r with
        | error e => simp [bitClear] at op
        | ok bytes =>
            have head : bytes.toList.head? = some (regs siClk0Control) := report rfl
            simp only [bitClear, List.headD_eq_head?_getD, head, Option.getD_some,
              Option.some.injEq, PipeOp.clk0.injEq, beq_iff_eq] at op
            unfold ClockRegs.clk0Down at down
            rw [op] at down
            cases down
      case isFalse =>
        split at op
        · simp at op
        · cases op
  | _ => simp [opOf] at op

/-- After any steps the chip is as the last command left it: tuned accurately to its frequency with
CLK0 up, or with CLK0 off, and then no step starts a stream before the next command. -/
theorem sampleClock_as_commanded {start regs : ClockRegs} {steps : List device.Step}
    {parts : List Nat}
    (evolves : Evolves start (steps.flatMap fun t => clockTransfers t.trace) parts regs) :
    match steps.foldl ClockCommand.after .unknown with
    | .unknown => True
    | .off => regs.clk0Down = true ∧ ∀ t : device.Step,
        (∀ u ∈ t.trace, regs.truthful u.call u.ans) → .fwTrg true ∉ stepOps t
    | .tuned freq => regs.clk0Down = false ∧
        (7813 ≤ freq.toNat → freq.toNat ≤ 150000000 → ∃ s : ClockSetting,
          s.Encoded (regs.block siSynthPllA) (regs.block siSynthMs0) ∧ s.Accurate freq.toNat) := by
  have holds := holds_run evolves .unknown trivial
  split
  case h_1 => exact trivial
  case h_2 off =>
    rw [off] at holds
    exact ⟨holds, fun t => unraised_of_clk0Down holds t⟩
  case h_3 freq tuned =>
    rw [tuned] at holds
    obtain ⟨nonzero, pll, multisynth, up⟩ := holds
    constructor
    · unfold ClockRegs.clk0Down
      rw [up]
      rfl
    · intro low high
      rw [pll, multisynth]
      exact ⟨settingOf freq, settingOf_encoded low high, settingOf_accurate low high⟩

/-- A boot, and 32 MHz set by the host. -/
def bootedAndTuned : List device.Step :=
  (benchRun [(vendorSetup false .startadc 0 0 4,
    { Bench.idle with hostData := [0x00, 0x48, 0xE8, 0x01] })]).1

theorem sampleClock_as_commanded_32MHz :
    bootedAndTuned.foldl ClockCommand.after .unknown = .tuned 32000000 ∧
    ∃ parts regs,
      Evolves (fun _ => 0) (bootedAndTuned.flatMap fun t => clockTransfers t.trace) parts regs ∧
        regs.clk0Down = false ∧ ∃ s : ClockSetting,
          s.Encoded (regs.block siSynthPllA) (regs.block siSynthMs0) ∧ s.Accurate 32000000 := by
  have tuned : bootedAndTuned.foldl ClockCommand.after .unknown = .tuned 32000000 := by
    decide +kernel
  have acked : (bootedAndTuned.flatMap fun t => clockTransfers t.trace).all
      (·.status == cyU3PSuccess) = true := by decide +kernel
  have evolves := Evolves.of_acked acked fun _ => 0
  have commanded := sampleClock_as_commanded evolves
  rw [tuned] at commanded
  exact ⟨tuned, _, _, evolves, commanded.1, commanded.2 (by decide) (by decide)⟩

end Rx888
