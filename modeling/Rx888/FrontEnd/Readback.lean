import Rx888.FrontEnd.SerialLines
import Rx888.Ep0.Stats

/-! # Reading the pins back

`rx888r2_GpioSet` and `rx888r2_ReadGpioState` map the control word to the pins and the pins to the
word; in between the requests drive the same pins.
-/

namespace Rx888

open CallProgram SerialBus

attribute [local simp] Call.kind

/-! ## The word of the pins -/

/-- The bits of the control word that are implemented. -/
def implementedBits : UInt32 :=
  shdwn ||| dith ||| rando ||| biasHf ||| biasVhf ||| ledBlue ||| vhfEn ||| pgaEn

/-- The control word as last commanded, and the ADC's standby. -/
structure Commanded where
  word : UInt32
  standby : Bool
  deriving DecidableEq, Repr

/-- The implemented bits of the word, except that SHDWN tells the standby. -/
def Commanded.readback (g : Commanded) : UInt32 :=
  if g.standby then (g.word &&& implementedBits) ||| shdwn
  else (g.word &&& implementedBits) &&& ~~~shdwn

structure Commanded.Shown (g : Commanded) (level : UInt8 → Bool) : Prop where
  standby : level gpioShdwn = g.standby
  others : ∀ write ∈ controlWave g.word, write.1 ≠ gpioShdwn → level write.1 = write.2

/-- A read reports the level of its pin. -/
def Call.reports (level : UInt8 → Bool) : (c : Call) → c.Ans → Bool
  | .gpioGetValue pin, .ok v => v == level pin
  | .gpioGetValue _, .error _ => false
  | _, _ => true

/-- What one read adds to the word. -/
def addBit (level : UInt8 → Bool) (pin : UInt8) (asserted : Bool) (bit s : UInt32) : UInt32 :=
  if level pin == asserted then s ||| bit else s

/-- The word of the pins at these levels. -/
def pinWord (level : UInt8 → Bool) : UInt32 :=
  addBit level gpioPga false pgaEn <| addBit level gpioVhfEn true vhfEn <|
    addBit level gpioLedBlue true ledBlue <| addBit level gpioBiasVhf true biasVhf <|
      addBit level gpioBiasHf true biasHf <| addBit level gpioRando true rando <|
        addBit level gpioDith true dith <| addBit level gpioShdwn true shdwn 0

def Reports (level : UInt8 → Bool) (tr : List FwCall) : Prop :=
  ∀ u ∈ tr, u.call.reports level u.ans = true

section Reading

variable {level : UInt8 → Bool} {w w' : World} {tr : List FwCall}

theorem gpioBit_reports (level : UInt8 → Bool) (pin : UInt8) (asserted : Bool) (bit s : UInt32) :
    (gpioBit pin asserted bit s).Ensures sdk
      (fun tr a _ => Reports level tr → a = addBit level pin asserted bit s) w := by
  intro v _
  cases v with
  | ok v =>
      intro reports
      have same : v = level pin := beq_iff_eq.mp (reports _ (List.mem_singleton_self _))
      rw [addBit, ← same]
  | error e =>
      intro reports
      cases reports _ (List.mem_singleton_self _)

theorem Reports.of_append {tr' : List FwCall} (reports : Reports level (tr ++ tr')) :
    Reports level tr ∧ Reports level tr' :=
  List.forall_mem_append.mp reports

theorem gpioBit_then {pin : UInt8} {asserted : Bool} {bit s : UInt32} {f : UInt32 → Fw UInt32}
    {a : UInt32}
    (later : ∀ w, (f (addBit level pin asserted bit s)).Ensures sdk
      (fun tr b _ => Reports level tr → b = a) w) :
    (gpioBit pin asserted bit s >>= f).Ensures sdk (fun tr b _ => Reports level tr → b = a) w := by
  apply ensures_of_runs
  intro tr b w' runs reports
  obtain ⟨tr₁, s₁, w₁, tr₂, rfl, runs₁, runs₂⟩ := runs.split
  obtain ⟨reports₁, reports₂⟩ := reports.of_append
  have added := runs₁.ensures (gpioBit_reports level pin asserted bit s) reports₁
  rw [added] at runs₂
  exact runs₂.ensures (later w₁) reports₂

/-- The reader packs the levels that the reads report. -/
theorem rx888r2ReadGpioState_reports :
    rx888r2ReadGpioState.Ensures sdk (fun tr s _ => Reports level tr → s = pinWord level) w := by
  unfold rx888r2ReadGpioState
  apply gpioBit_then
  intro w
  apply gpioBit_then
  intro w
  apply gpioBit_then
  intro w
  apply gpioBit_then
  intro w
  apply gpioBit_then
  intro w
  apply gpioBit_then
  intro w
  apply gpioBit_then
  intro w
  exact gpioBit_reports level gpioPga false pgaEn _

end Reading

/-! ## The round trip of a word -/

theorem and_bit (word : UInt32) {bit : UInt32} {i : Nat} (single : bit.toNat = 2 ^ i) :
    word &&& bit = 0 ∨ word &&& bit = bit := by
  have value : (word &&& bit).toNat = (word.toNat.testBit i).toNat * 2 ^ i := by
    rw [UInt32.toNat_and, single, Nat.and_two_pow]
  cases set : word.toNat.testBit i with
  | false =>
      left
      rw [← UInt32.toNat_inj, value, set]
      simp
  | true =>
      right
      rw [← UInt32.toNat_inj, value, set, single]
      simp

theorem and_or (word a b : UInt32) : word &&& (a ||| b) = (word &&& a) ||| (word &&& b) :=
  UInt32.toBitVec_inj.mp BitVec.and_or_distrib_left

theorem addBit_eq {level : UInt8 → Bool} {pin : UInt8} {asserted : Bool} {word bit : UInt32}
    {i : Nat} (single : bit.toNat = 2 ^ i)
    (shown : (level pin == asserted) = ((word &&& bit) == bit)) (s : UInt32) :
    addBit level pin asserted bit s = s ||| (word &&& bit) := by
  have set : bit ≠ 0 := by
    intro none
    rw [none] at single
    exact absurd single (Nat.ne_of_lt (Nat.two_pow_pos i))
  rw [addBit, shown]
  rcases and_bit word single with clear | same
  · simp [clear, Ne.symm set]
  · simp [same]

/-- The bits besides SHDWN. -/
def steadyBits : UInt32 :=
  dith ||| rando ||| biasHf ||| biasVhf ||| ledBlue ||| vhfEn ||| pgaEn

theorem Commanded.readback_eq (g : Commanded) :
    g.readback = (if g.standby then shdwn else 0) ||| (g.word &&& steadyBits) := by
  have apart : implementedBits = shdwn ||| steadyBits := by decide
  have cleared : implementedBits &&& ~~~shdwn = steadyBits := by decide
  rw [readback]
  cases g.standby with
  | true =>
      simp only [if_true]
      rw [apart, and_or]
      rcases and_bit g.word (show shdwn.toNat = 2 ^ 5 from rfl) with clear | same
      · rw [clear, UInt32.zero_or, UInt32.or_comm]
      · rw [same, UInt32.or_comm, ← UInt32.or_assoc, UInt32.or_self]
  | false => simp [UInt32.and_assoc, cleared]

/-- Pins at the levels commanded read back as commanded. -/
theorem Commanded.Shown.pinWord_eq {g : Commanded} {level : UInt8 → Bool} (shown : g.Shown level) :
    pinWord level = g.readback := by
  have others := shown.others
  simp only [controlWave, List.forall_mem_cons] at others
  obtain ⟨-, dithered, randomized, biased, vhfBiased, led, pga, vhf, -⟩ := others
  have standby : addBit level gpioShdwn true shdwn 0 = if g.standby then shdwn else 0 := by
    rw [addBit, shown.standby]
    cases g.standby <;> rfl
  -- the PGA's pin is inverted
  have inverted : (level gpioPga == false) = ((g.word &&& pgaEn) == pgaEn) := by
    simp [pga (by decide), bne]
  have asserted {pin : UInt8} {bit : UInt32} (same : level pin = ((g.word &&& bit) == bit)) :
      (level pin == true) = ((g.word &&& bit) == bit) := by
    rw [beq_true, same]
  rw [pinWord, standby, addBit_eq (i := 6) rfl (asserted (dithered (by decide))),
    addBit_eq (i := 7) rfl (asserted (randomized (by decide))),
    addBit_eq (i := 8) rfl (asserted (biased (by decide))),
    addBit_eq (i := 9) rfl (asserted (vhfBiased (by decide))),
    addBit_eq (i := 11) rfl (asserted (led (by decide))),
    addBit_eq (i := 15) rfl (asserted (vhf (by decide))), addBit_eq (i := 16) rfl inverted,
    g.readback_eq, steadyBits]
  simp only [and_or, UInt32.or_assoc]

/-! ## Runs -/

/-- The payload of a data phase that succeeded. -/
def Call.received? : (c : Call) → c.Ans → Option (List UInt8)
  | .usbGetEP0Data _, .ok bytes => some bytes.toList
  | _, _ => none

/-- The control word that reached the device. -/
def receivedWord? (tr : List FwCall) : Option UInt32 :=
  (tr.findSome? fun u => u.call.received? u.ans).map leWord32

/-- What a step makes of the commands; from a reset to the initialization there are none. -/
def commandedAfter (g : Option Commanded) (t : frontEnd.Step) : Option Commanded :=
  if resetsDevice t then none
  else
    match t.act with
    | .gpioInitialize => some { word := ledBlue, standby := true }
    | a =>
        match a.command? with
        | some (_, .gpiofx3) =>
            match receivedWord? t.trace with
            | some word => g.map fun _ => { word := word, standby := (word &&& shdwn) == shdwn }
            | none => g
        | _ => g.map fun g => { g with standby := (standbyAction? t).getD g.standby }

/-- A GPIOFX3 request has a payload of four bytes. -/
def fourBytes (t : frontEnd.Step) : Bool :=
  match t.act.command? with
  | some (s, .gpiofx3) => s.wLength == 4
  | _ => true

section Runs

variable {t : frontEnd.Step} {g : Commanded}

/-- A data phase of four bytes puts its word at the front of the EP0 buffer, if it succeeds. -/
theorem getEP0Data_word {count : UInt16} (four : count = 4) (w : World) :
    (getEP0Data count).Ensures sdk (fun tr status w' => waveform tr = [] ∧
      ((status ≠ cyU3PSuccess ∧ receivedWord? tr = none) ∨
        (status = cyU3PSuccess ∧
          receivedWord? tr = some (leWord32 w'.mem.usb.glEp0Buffer)))) w := by
  intro answer _
  cases answer with
  | error e => exact ⟨rfl, .inl ⟨e.2, rfl⟩⟩
  | ok bytes =>
      have length : bytes.toList.length = 4 := by
        rw [Vector.length_toList, four]
        rfl
      have front : leWord32 (memcpyAt w.mem.usb.glEp0Buffer 0 bytes.toList) =
          leWord32 bytes.toList :=
        leWord32_of_front (prefix_memcpyAt List.nil_prefix bytes.toList) (by omega)
      exact ⟨rfl, .inr ⟨rfl, congrArg some front.symm⟩⟩

theorem receivedWord?_append (tr tr' : List FwCall) :
    receivedWord? (tr ++ tr') = (receivedWord? tr).or (receivedWord? tr') := by
  simp only [receivedWord?, List.findSome?_append, Option.map_or]

/-- Calls that receive nothing. -/
theorem receivedWord?_none {tr : List FwCall} {kinds : List Kind} (apart : .dataOut ∉ kinds)
    (h : ∀ u ∈ tr, u.call.kind ∈ kinds) : receivedWord? tr = none := by
  have none : (tr.findSome? fun u => u.call.received? u.ans) = none := by
    apply List.findSome?_eq_none_iff.mpr
    rintro ⟨w, c, answer⟩ mem
    have kind := h _ mem
    cases c with
    | usbGetEP0Data count => exact absurd kind apart
    | _ => rfl
  rw [receivedWord?, none]
  rfl

/-- GPIOFX3 writes the word it received, if it did. -/
theorem gpiofx3_ensures {s : Setup} (four : s.wLength = 4) (w : World) :
    (gpiofx3 s).Ensures sdk (fun tr _ _ => (∀ u ∈ tr, setSucceeds u) →
      waveform tr = ((receivedWord? tr).map controlWave).getD []) w := by
  unfold gpiofx3
  apply (getEP0Data_word four w).bind
  rintro tr status w₁ ⟨silent, ⟨failed, none⟩ | ⟨rfl, word⟩⟩
  · rw [if_neg failed]
    intro _
    rw [List.append_nil, silent, none]
    rfl
  · have sets : Waves setSucceeds (· = controlWave (leWord32 w₁.mem.usb.glEp0Buffer))
        (rx888r2GpioSet (leWord32 w₁.mem.usb.glEp0Buffer) >>= fun _ => pure true) :=
      (rx888r2GpioSet_waves _).then_silent fun _ => waves_pure true rfl
    rw [if_pos rfl, ram_bind_ensures]
    apply ensures_mono (sets w₁)
    intro tr' _ _ wave all
    have same := wave fun u mem => all u (List.mem_append_right tr mem)
    rw [waveform_append, silent, same, receivedWord?_append, word, Option.some_or]
    rfl

theorem fourBytes_command {s : Setup} (command : t.act.command? = some (s, .gpiofx3))
    (four : fourBytes t = true) : s.wLength = 4 := by
  unfold fourBytes at four
  rw [command] at four
  exact beq_iff_eq.mp four

theorem gpiofx3_wave {s : Setup} (command : t.act.command? = some (s, .gpiofx3))
    (ok : setsSucceed t) (four : fourBytes t = true) :
    waveform t.trace = ((receivedWord? t.trace).map controlWave).getD [] := by
  obtain ⟨before, made, after, w₁, isHandled, w₂, trace, runs, kinds⟩ := step_split command
  obtain ⟨first, last⟩ := List.forall_mem_append.mp kinds
  have wave := runs.ensures (gpiofx3_ensures (fourBytes_command command four) w₁)
    fun u mem => ok u (by simp [trace, mem])
  have none_before := receivedWord?_none (by decide) first
  have none_after := receivedWord?_none (by decide) last
  rw [trace, waveform_append, waveform_append, waveform_beside first, waveform_beside last,
    List.nil_append, List.append_nil, wave, receivedWord?_append, receivedWord?_append, none_before,
    none_after, Option.none_or, Option.or_none]

def serialPins : List UInt8 := [gpioAttLe, gpioAttClk, gpioAttData, gpioVgaLe]

theorem setArgWave_onPins (argument : Option ArgumentList) (value : UInt8) :
    OnPins serialPins (setArgWave argument value) := by
  unfold setArgWave
  split
  next =>
    intro write mem
    rcases List.mem_append.mp mem with transferred | lowered
    · rcases transfer_pins transferred with pin | pin | pin <;> rw [pin] <;> decide
    · rw [List.mem_singleton.mp lowered]
      decide
  next =>
    intro write mem
    rcases List.mem_append.mp mem with transferred | cleared
    · rcases transfer_pins transferred with pin | pin | pin <;> rw [pin] <;> decide
    · rw [List.mem_singleton.mp cleared]
      decide
  next => exact onPins_nil _

/-- The serial lines are no pins of the control word. -/
theorem serialPins_apart {pin : UInt8} (control : pin ∈ controlPins) : pin ∉ serialPins := by
  have all : (controlPins.all fun pin => decide (pin ∉ serialPins)) = true := by decide
  exact of_decide_eq_true (List.all_eq_true.mp all pin control)

/-! ### The steps -/

theorem shown_initialized (initial : t.act = .gpioInitialize) (ok : setsSucceed t) :
    (Commanded.mk ledBlue true).Shown t.after.env.gpio := by
  obtain ⟨before, wave⟩ := initialize_wave initial ok
  rw [step_levels, wave, settle_append]
  constructor
  · rfl
  · intro write mem _
    simp only [controlWave, List.mem_cons, List.not_mem_nil, or_false] at mem
    rcases mem with rfl | rfl | rfl | rfl | rfl | rfl | rfl | rfl
    · contradiction
    all_goals rfl

theorem shown_received {s : Setup} {word : UInt32}
    (command : t.act.command? = some (s, .gpiofx3)) (ok : setsSucceed t)
    (four : fourBytes t = true) (received : receivedWord? t.trace = some word) :
    (Commanded.mk word ((word &&& shdwn) == shdwn)).Shown t.after.env.gpio := by
  have wave := gpiofx3_wave command ok four
  rw [received] at wave
  have once : ((controlWave word).map Prod.fst).Nodup := by
    rw [show (controlWave word).map Prod.fst = controlPins from rfl]
    decide
  rw [step_levels, wave]
  constructor
  · exact settle_of_nodup _ once (List.mem_cons_self)
  · exact fun write mem _ => settle_of_nodup _ once mem

/-- A SETARGFX3 request leaves the pins of the control word as they are. -/
theorem Commanded.Shown.kept {s : Setup} (shown : g.Shown t.before.env.gpio)
    (command : t.act.command? = some (s, .setargfx3)) (ok : setsSucceed t) :
    g.Shown t.after.env.gpio := by
  have untouched {pin : UInt8} (control : pin ∈ controlPins) :
      ∀ write ∈ waveform t.trace, write.1 ≠ pin := by
    intro write mem same
    rw [setArg_wave command ok] at mem
    exact serialPins_apart control (same ▸ setArgWave_onPins _ _ write mem)
  rw [step_levels]
  constructor
  · rw [settle_of_notMem (untouched List.mem_cons_self)]
    exact shown.standby
  · intro write mem other
    have control : write.1 ∈ controlPins := by
      rw [← show (controlWave g.word).map Prod.fst = controlPins from rfl]
      exact List.mem_map_of_mem mem
    rw [settle_of_notMem (untouched control)]
    exact shown.others write mem other

/-- The other steps leave the word as it was shown, and SHDWN as they command. -/
theorem Commanded.Shown.apart (shown : g.Shown t.before.env.gpio)
    (wave : waveform t.trace = ((standbyAction? t).map (gpioShdwn, ·)).toList) :
    (Commanded.mk g.word ((standbyAction? t).getD g.standby)).Shown t.after.env.gpio := by
  rw [step_levels, wave]
  constructor
  · cases standbyAction? t with
    | none => exact shown.standby
    | some standby => exact settle_concat t.before.env.gpio [] (gpioShdwn, standby)
  · intro write mem other
    have untouched : ∀ write' ∈ ((standbyAction? t).map (gpioShdwn, ·)).toList,
        write'.1 ≠ write.1 := by
      intro write' mem' same
      obtain ⟨standby, -, rfl⟩ := Option.map_eq_some_iff.mp (Option.mem_toList.mp mem')
      exact other same.symm
    rw [settle_of_notMem untouched]
    exact shown.others write mem other

theorem shown_step {before : Option Commanded}
    (shown : ∀ g, before = some g → g.Shown t.before.env.gpio) (ok : setsSucceed t)
    (four : fourBytes t = true) (up : commandedAfter before t = some g) :
    g.Shown t.after.env.gpio := by
  unfold commandedAfter at up
  split at up
  next => cases up
  next running =>
    have running : resetsDevice t = false := Bool.eq_false_iff.mpr running
    split at up
    next initial =>
      cases up
      exact shown_initialized initial ok
    next initial =>
      split at up
      next s command =>
        split at up
        next word received =>
          obtain ⟨g', _, rfl⟩ := Option.map_eq_some_iff.mp up
          exact shown_received command ok four received
        next none =>
          have wave := gpiofx3_wave command ok four
          rw [none] at wave
          rw [step_levels, wave]
          exact shown g up
      next other =>
        obtain ⟨g', had, rfl⟩ := Option.map_eq_some_iff.mp up
        by_cases set : ∃ s, t.act.command? = some (s, .setargfx3)
        · obtain ⟨s, command⟩ := set
          rw [standbyAction?_command command]
          exact (shown g' had).kept command ok
        · refine (shown g' had).apart (standby_wave ok running initial fun s c command => ⟨?_, ?_⟩)
          · rintro rfl
            exact other s command
          · rintro rfl
            exact set ⟨s, command⟩

/-! ### Reading at the end of a run -/

/-- `CyU3PGpioGetValue` reports success, and the level of the pin. -/
def readSucceeds (u : FwCall) : Prop := u.call.reports u.before.env.gpio u.ans = true

instance : DecidablePred readSucceeds := fun _ => inferInstanceAs (Decidable (_ = true))

/-- Between writes to the pins their levels stand. -/
theorem levels_within {α : Type} {p : Fw α} {w w' : World} {tr : List FwCall} {a : α}
    (runs : Runs sdk p w tr a w') (off : ∀ u ∈ tr, u.call.kind ∈ offPins) :
    ∀ u ∈ tr, u.before.env.gpio = w.env.gpio := by
  induction runs with
  | ret =>
      intro u mem
      cases mem
  | read _ ih => exact ih off
  | write _ ih => exact ih off
  | @call c k w w' tr a r _ _ ih =>
      obtain ⟨first, rest⟩ := List.forall_mem_cons.mp off
      have powered : c ≠ .deviceInit := by
        rintro rfl
        exact absurd (show Call.deviceInit.kind ∈ offPins from first) (by decide)
      have silent : writeOf ⟨w, c, r⟩ = none := by
        apply writeOf_eq_none
        intro same
        rw [same] at first
        exact absurd first (by decide)
      have stands : (sdk.exec w c r).env.gpio = w.env.gpio := by
        have settled := after_gpio w powered r
        rw [silent] at settled
        exact settled
      intro u mem
      rcases List.mem_cons.mp mem with rfl | mem
      · rfl
      · rw [ih rest u mem, stands]

theorem reports_of_reads {α : Type} {p : Fw α} {w w' : World} {tr : List FwCall} {a : α}
    (runs : Runs sdk p w tr a w') (makes : Makes offPins p) (reads : ∀ u ∈ tr, readSucceeds u) :
    Reports w.env.gpio tr := by
  intro u mem
  have read : u.call.reports u.before.env.gpio u.ans = true := reads u mem
  rw [levels_within runs (makes.run runs) u mem] at read
  exact read

theorem readGpioState_pins {w w' : World} {tr : List FwCall} {word : UInt32}
    (runs : Runs sdk rx888r2ReadGpioState w tr word w') (reads : ∀ u ∈ tr, readSucceeds u) :
    word = pinWord w.env.gpio :=
  runs.ensures rx888r2ReadGpioState_reports (reports_of_reads runs (by simp) reads)

/-- GETSTATS carries the word of the pins in its last four bytes. -/
theorem getstats_pins {s : Setup} {w w' : World} {tr : List FwCall} {isHandled : Bool}
    (runs : Runs sdk (getstats s) w tr isHandled w') (reads : ∀ u ∈ tr, readSucceeds u) :
    ∃ reply, replies tr = [reply] ∧ reply.length = 30 ∧
      reply.drop 26 = leBytes32 (pinWord w.env.gpio) := by
  obtain ⟨st, sampled, reply⟩ := getstats_replies runs
  have makes : Makes offPins (getstats s) :=
    (vendorCommand_makes s (some .getstats)).mono (by decide)
  have reports := reports_of_reads runs makes reads
  obtain ⟨sm, status, reg16, enabled, gpio, send, clk0Enabled, same, -, -, -, -, -, read, -⟩ :=
    sampled.reads
  obtain ⟨w₁, w₂, read⟩ := read
  have word : st.gpioState = pinWord w.env.gpio := by
    apply read.ensures rx888r2ReadGpioState_reports
    intro u mem
    exact reports u (by simp [same, mem])
  rw [← word]
  exact ⟨st.payload, reply, st.payload_length, rfl⟩

/-- Whatever the requests, events and ticks since the initialization, the pins read back as the
last control word, with SHDWN as last commanded; so do the last four bytes of GETSTATS. -/
theorem gpioState_commanded {steps : List frontEnd.Step} {w : World} (run : frontEnd.Run steps w)
    (ok : ∀ t ∈ steps, setsSucceed t) (four : ∀ t ∈ steps, fourBytes t = true) {g : Commanded}
    (up : steps.foldl commandedAfter none = some g) :
    (∀ tr word w', Runs sdk rx888r2ReadGpioState w tr word w' → (∀ u ∈ tr, readSucceeds u) →
      word = g.readback) ∧
    (∀ s tr isHandled w', Runs sdk (getstats s) w tr isHandled w' → (∀ u ∈ tr, readSucceeds u) →
      ∃ reply, replies tr = [reply] ∧ reply.length = 30 ∧
        reply.drop 26 = leBytes32 g.readback) := by
  have both : ∀ t ∈ steps, setsSucceed t ∧ fourBytes t = true :=
    fun t mem => ⟨ok t mem, four t mem⟩
  have shown : ∀ g, steps.foldl commandedAfter none = some g → g.Shown w.env.gpio := by
    refine run.summary (f := commandedAfter) (z := none)
      (fun before w => ∀ g, before = some g → g.Shown w.env.gpio) ?_ ?_ both
    · intro t _ both g up
      exact shown_step (fun g none => by cases none) both.1 both.2 up
    · intro before t both shown g up
      exact shown_step shown both.1 both.2 up
  have word := (shown g up).pinWord_eq
  constructor
  · intro tr read w' runs reads
    rw [← word]
    exact readGpioState_pins runs reads
  · intro s tr isHandled w' runs reads
    rw [← word]
    exact getstats_pins runs reads

/-- Reads that deliver these levels. -/
def levelAnswer (level : UInt8 → Bool) (n : Nat) : (c : Call) → c.Ans
  | .gpioGetValue pin => .ok (level pin)
  | c => Bench.idle.answer n c

theorem levelAnswer_allowed (level : UInt8 → Bool) (w : World) (n : Nat) (c : Call) :
    sdk.allows w c (levelAnswer level n c) := by
  cases c with
  | debugPrint fmt args =>
      intro bytes h
      cases h
  | _ => trivial

/-- The front end initialized, a control word, the stream started. -/
def started : List frontEnd.Step × World :=
  frontEnd.performAll
    [(FrontAct.gpioInitialize, Bench.idle.oracle),
      (.request 0xAD40 0x40000, { Bench.idle with hostData := [0xE0, 0x0B, 0x01, 0x00] }.oracle),
      (.request 0xAA40 0, Bench.idle.oracle)] powerUp

def startedWord : List FwCall × UInt32 × World :=
  rx888r2ReadGpioState.exec sdk (levelAnswer started.2.env.gpio) 0 started.2

def startedStats : List FwCall × Bool × World :=
  (getstats (Setup.decode 0xB3C0 0x1E0000)).exec sdk (levelAnswer started.2.env.gpio) 0 started.2

theorem started_run : frontEnd.Run started.1 started.2 := System.performAll_run rfl _ _ _

theorem gpioState_commanded_started :
    startedWord.2.1 = Commanded.readback ⟨0x10BE0, false⟩ ∧
      ∃ reply, replies startedStats.1 = [reply] ∧ reply.length = 30 ∧
        reply.drop 26 = leBytes32 (Commanded.readback ⟨0x10BE0, false⟩) := by
  have up : started.1.foldl commandedAfter none = some ⟨0x10BE0, false⟩ := by decide +kernel
  have answers := levelAnswer_allowed started.2.env.gpio
  obtain ⟨read, stats⟩ :=
    gpioState_commanded started_run (by decide +kernel) (by decide +kernel) up
  constructor
  · exact read _ _ _ (exec_runs sdk _ 0 _ _ (exec_allowed answers 0 _ _)) (by decide +kernel)
  · exact stats _ _ _ _ (exec_runs sdk _ 0 _ _ (exec_allowed answers 0 _ _)) (by decide +kernel)

end Runs

end Rx888
