import Rx888.Calls.Kind
import Rx888.Device.Bench

/-! # GETSTATS and its host decoder

The handler fills the EP0 buffer field by field at running offsets; `read_stats` of the
host tools (`tests/fx3_stats.c`) takes it apart at fixed ones.
-/

namespace Rx888

open CallProgram

/-! ## Words in memory -/

/-- The half word `memcpy` picks up from the first two bytes of a buffer. -/
def leWord16 (buffer : List UInt8) : UInt16 :=
  let byte (i : Nat) : UInt16 := (buffer.getD i 0).toUInt16
  byte 0 ||| (byte 1 <<< 8)

theorem leWord16_leBytes16 (n : UInt16) (rest : List UInt8) :
    leWord16 (leBytes16 n ++ rest) = n := by
  apply UInt16.toNat_inj.mp
  have word : (leWord16 (leBytes16 n ++ rest)).toNat =
      n.toNat % 2 ^ 8 ||| (n.toNat >>> 8 % 2 ^ 8) <<< 8 % 2 ^ 16 := by
    simp [leWord16, leBytes16]
  have beyond (i : Nat) (hi : 16 ≤ i) : n.toNat.testBit i = false :=
    Nat.testBit_lt_two_pow (Nat.lt_of_lt_of_le n.toNat_lt (Nat.pow_le_pow_right (by decide) hi))
  rw [word]
  apply Nat.eq_of_testBit_eq
  intro i
  have beyond_i := beyond i
  simp only [Nat.testBit_or, Nat.testBit_shiftLeft, Nat.testBit_mod_two_pow,
    Nat.testBit_shiftRight]
  grind

/-- A byte above what has been collected adds its value. -/
theorem or_shiftLeft {low k : Nat} (b : UInt8) (h : low < 2 ^ k) (fits : k ≤ 24) :
    low ||| b.toNat <<< k % 2 ^ 32 = low + 2 ^ k * b.toNat := by
  have small : b.toNat < 2 ^ 8 := b.toNat_lt
  have bound : 2 ^ k * b.toNat < 2 ^ 32 := by
    calc 2 ^ k * b.toNat < 2 ^ k * 2 ^ 8 := Nat.mul_lt_mul_of_pos_left small (Nat.two_pow_pos k)
      _ ≤ 2 ^ 24 * 2 ^ 8 := Nat.mul_le_mul_right _ (Nat.pow_le_pow_right (by decide) fits)
  rw [Nat.shiftLeft_eq, Nat.mul_comm, Nat.mod_eq_of_lt bound, Nat.or_comm,
    ← Nat.two_pow_add_eq_or_of_lt h, Nat.add_comm]

theorem leWord32_toNat (buffer : List UInt8) :
    (leWord32 buffer).toNat = (buffer.getD 0 0).toNat + 2 ^ 8 * (buffer.getD 1 0).toNat +
      2 ^ 16 * (buffer.getD 2 0).toNat + 2 ^ 24 * (buffer.getD 3 0).toNat := by
  have small (i : Nat) : (buffer.getD i 0).toNat < 2 ^ 8 := (buffer.getD i 0).toNat_lt
  have h0 := small 0
  have h1 := small 1
  have h2 := small 2
  simp only [leWord32, UInt32.toNat_or, UInt32.toNat_shiftLeft, UInt8.toNat_toUInt32]
  show (buffer.getD 0 0).toNat ||| (buffer.getD 1 0).toNat <<< 8 % 2 ^ 32 |||
    (buffer.getD 2 0).toNat <<< 16 % 2 ^ 32 ||| (buffer.getD 3 0).toNat <<< 24 % 2 ^ 32 = _
  have one := or_shiftLeft (k := 8) (buffer.getD 1 0) h0 (by omega)
  rw [one]
  have two := or_shiftLeft (k := 16) (buffer.getD 2 0)
    (show (buffer.getD 0 0).toNat + 2 ^ 8 * (buffer.getD 1 0).toNat < 2 ^ 16 by omega) (by omega)
  rw [two, or_shiftLeft _ (by omega) (by omega)]

theorem leWord32_leBytes32 (n : UInt32) (rest : List UInt8) :
    leWord32 (leBytes32 n ++ rest) = n := by
  apply UInt32.toNat_inj.mp
  rw [leWord32_toNat]
  simp only [leBytes32, List.cons_append, List.nil_append, List.getD_cons_zero, List.getD_cons_succ,
    UInt32.toNat_toUInt8, UInt32.toNat_shiftRight]
  have lt := n.toNat_lt
  show n.toNat % 2 ^ 8 + 2 ^ 8 * (n.toNat >>> 8 % 2 ^ 8) + 2 ^ 16 * (n.toNat >>> 16 % 2 ^ 8) +
    2 ^ 24 * (n.toNat >>> 24 % 2 ^ 8) = n.toNat
  simp only [Nat.shiftRight_eq_div_pow]
  omega

theorem getD_of_front {filled buffer : List UInt8} (front : filled <+: buffer) {i : Nat}
    (h : i < filled.length) : buffer.getD i 0 = filled.getD i 0 := by
  obtain ⟨rest, rfl⟩ := front
  rw [List.getD_eq_getElem?_getD, List.getElem?_append_left h, List.getD_eq_getElem?_getD]

theorem leWord32_of_front {filled buffer : List UInt8} (front : filled <+: buffer)
    (long : 4 ≤ filled.length) : leWord32 buffer = leWord32 filled := by
  simp only [leWord32]
  rw [getD_of_front front (by omega), getD_of_front front (by omega),
    getD_of_front front (by omega), getD_of_front front (by omega)]

/-! ## The host side -/

/-- `struct fx3_stats`. -/
structure Fx3Stats where
  dmaCount : UInt32
  gpifState : UInt8
  pibErrors : UInt32
  lastPibArg : UInt16
  i2cFailures : UInt32
  streamingFaults : UInt32
  si5351Status : UInt8
  bootCount : UInt32
  clk0Reg16 : UInt8
  clk0Result : UInt8
  gpioState : UInt32
  deriving DecidableEq, Repr

def getstatsLen : Nat := 30
def libusbErrorIo : Int := -1

/-- `read_stats`, given what its `ctrl_read` brought: the bytes the device sent or a
libusb error. -/
def readStats (transfer : Except Int (List UInt8)) : Except Int Fx3Stats := do
  let buf ← transfer
  if buf.length < getstatsLen then
    throw libusbErrorIo
  return {
    dmaCount := leWord32 buf
    gpifState := buf.getD 4 0
    pibErrors := leWord32 (buf.drop 5)
    lastPibArg := leWord16 (buf.drop 9)
    i2cFailures := leWord32 (buf.drop 11)
    streamingFaults := leWord32 (buf.drop 15)
    si5351Status := buf.getD 19 0
    bootCount := leWord32 (buf.drop 20)
    clk0Reg16 := buf.getD 24 0
    clk0Result := buf.getD 25 0
    gpioState := leWord32 (buf.drop 26) }

/-! ## The reply -/

def Fx3Stats.payload (st : Fx3Stats) : List UInt8 :=
  leBytes32 st.dmaCount ++ (st.gpifState :: (leBytes32 st.pibErrors ++ (leBytes16 st.lastPibArg ++
    (leBytes32 st.i2cFailures ++ (leBytes32 st.streamingFaults ++ (st.si5351Status ::
      (leBytes32 st.bootCount ++ (st.clk0Reg16 :: st.clk0Result :: leBytes32 st.gpioState))))))))

theorem Fx3Stats.payload_length (st : Fx3Stats) :
    st.payload.length = getstatsPayloadLen.toNat := rfl

/-- The host reads the values it was sent. -/
theorem readStats_payload (st : Fx3Stats) : readStats (.ok st.payload) = .ok st := by
  have dmaCount : leWord32 st.payload = st.dmaCount :=
    leWord32_leBytes32 _ (st.payload.drop 4)
  have pibErrors : leWord32 (st.payload.drop 5) = st.pibErrors :=
    leWord32_leBytes32 _ (st.payload.drop 9)
  have lastPibArg : leWord16 (st.payload.drop 9) = st.lastPibArg :=
    leWord16_leBytes16 _ (st.payload.drop 11)
  have i2cFailures : leWord32 (st.payload.drop 11) = st.i2cFailures :=
    leWord32_leBytes32 _ (st.payload.drop 15)
  have streamingFaults : leWord32 (st.payload.drop 15) = st.streamingFaults :=
    leWord32_leBytes32 _ (st.payload.drop 19)
  have bootCount : leWord32 (st.payload.drop 20) = st.bootCount :=
    leWord32_leBytes32 _ (st.payload.drop 24)
  have gpioState : leWord32 (st.payload.drop 26) = st.gpioState :=
    leWord32_leBytes32 _ (st.payload.drop 30)
  have long : ¬ st.payload.length < getstatsLen := by
    rw [st.payload_length]
    decide
  have read : readStats (.ok st.payload) =
      if st.payload.length < getstatsLen then .error libusbErrorIo
      else .ok {
        dmaCount := leWord32 st.payload
        gpifState := st.gpifState
        pibErrors := leWord32 (st.payload.drop 5)
        lastPibArg := leWord16 (st.payload.drop 9)
        i2cFailures := leWord32 (st.payload.drop 11)
        streamingFaults := leWord32 (st.payload.drop 15)
        si5351Status := st.si5351Status
        bootCount := leWord32 (st.payload.drop 20)
        clk0Reg16 := st.clk0Reg16
        clk0Result := st.clk0Result
        gpioState := leWord32 (st.payload.drop 26) } := rfl
  rw [read, if_neg long, dmaCount, pibErrors, lastPibArg, i2cFailures, streamingFaults, bootCount,
    gpioState]

/-! ## Filling the buffer -/

/-- `tr` is a run of `p` that returned `a`. -/
def Made {α : Type} (p : Fw α) (tr : List FwCall) (a : α) : Prop :=
  ∃ w w', Runs sdk p w tr a w'

/-- The values the firmware has for a reply, given the memory it starts with and the calls of
the handler: those it keeps in memory, and those its reads returned. -/
structure Sampled (m : Ram) (tr : List FwCall) (st : Fx3Stats) : Prop where
  dmaCount : st.dmaCount = m.glDMACount
  pibErrors : st.pibErrors = m.glCounter.get 0
  lastPibArg : st.lastPibArg = m.pib.glLastPibArg
  i2cFailures : st.i2cFailures = m.glCounter.get 1
  streamingFaults : st.streamingFaults = m.glCounter.get 2
  bootCount : st.bootCount = m.health.glBootCount
  reads : ∃ sm status reg16 enabled gpio send clk0Enabled,
    tr = sm ++ (status ++ (reg16 ++ (enabled ++ (gpio ++ send)))) ∧
    Made gpifGetSMState sm st.gpifState ∧
    Made (readRegisterOr 0x00 0) status st.si5351Status ∧
    Made (readRegisterOr siClk0Control 0xFF) reg16 st.clk0Reg16 ∧
    Made si5351Clk0Enabled enabled clk0Enabled ∧
    st.clk0Result = (if clk0Enabled then 1 else 0) ∧
    Made rx888r2ReadGpioState gpio st.gpioState ∧
    send.map (·.call) = [.usbSendEP0Data st.payload]

/-- The buffer begins with `filled`, and outside `but` the memory is that the handler began
with. -/
structure Filling (but : List Part) (m₀ : Ram) (filled : List UInt8) (w : World) : Prop where
  front : filled <+: w.mem.usb.glEp0Buffer
  same : Unchanged but m₀ w.mem

section Handler

variable {α β : Type} {w : World} {but : List Part} {m₀ : Ram} {filled : List UInt8}
variable {Q : List FwCall → β → World → Prop}

theorem Filling.put (filling : Filling but m₀ filled w) (usb : Part.usb ∈ but) {off : Nat}
    {bytes : List UInt8} (at_end : off = filled.length) {f : Unit → Fw β}
    (hf : ∀ w₁, Filling but m₀ (filled ++ bytes) w₁ → (f ()).Ensures sdk Q w₁) :
    (ep0Put off bytes >>= f).Ensures sdk Q w := by
  refine hf ⟨{ w.mem with usb := { w.mem.usb with
    glEp0Buffer := memcpyAt w.mem.usb.glEp0Buffer off bytes } }, w.env⟩ ⟨?_, ?_⟩
  · rw [at_end]
    exact prefix_memcpyAt filling.front bytes
  · refine Unchanged.trans filling.same ?_
    constructor <;> first | exact fun _ => rfl | exact absurd usb

theorem Filling.putKept (filling : Filling but m₀ filled w) (usb : Part.usb ∈ but) {off : Nat}
    (at_end : off = filled.length) {g : Ram → List UInt8} (kept : g w.mem = g m₀) {f : Unit → Fw β}
    (hf : ∀ w₁, Filling but m₀ (filled ++ g m₀) w₁ → (f ()).Ensures sdk Q w₁) :
    (ram >>= fun m => ep0Put off (g m) >>= f).Ensures sdk Q w := by
  show (ep0Put off (g w.mem) >>= f).Ensures sdk Q w
  rw [kept]
  exact filling.put usb at_end hf

theorem Filling.read (filling : Filling but m₀ filled w) (parts : List Part) {p : Fw α}
    (idling : Idling parts p) (sub : .console :: parts ⊆ but) (usb : Part.usb ∉ parts)
    {f : α → Fw β}
    (hf : ∀ tr a w₁, Made p tr a → Filling but m₀ filled w₁ →
      (f a).Ensures sdk (fun tr' => Q (tr ++ tr')) w₁) :
    (p >>= f).Ensures sdk Q w := by
  have reads : p.Ensures sdk
      (fun tr a w₁ => Made p tr a ∧ Unchanged (.console :: parts) w.mem w₁.mem) w :=
    ensures_of_runs fun tr a w₁ run => ⟨⟨w, w₁, run⟩, (does_of_runs run idling.does).2⟩
  refine reads.bind fun tr a w₁ q => hf tr a w₁ q.1 ⟨?_, filling.same.trans (q.2.mono sub)⟩
  rw [q.2.usb (by simp [usb])]
  exact filling.front

theorem Filling.mono (filling : Filling but m₀ filled w) (but' : List Part) (sub : but ⊆ but') :
    Filling but' m₀ filled w :=
  ⟨filling.front, filling.same.mono sub⟩

theorem Filling.send (filling : Filling but m₀ filled w) {count : UInt16}
    (all : count.toNat = filled.length) {f : Unit → Fw β}
    (hf : ∀ r, (f ()).Ensures sdk (fun tr => Q (⟨w, .usbSendEP0Data filled, r⟩ :: tr)) w) :
    (sendEP0Data count >>= f).Ensures sdk Q w := by
  intro r _
  have sent : w.mem.usb.glEp0Buffer.take count.toNat = filled := by
    rw [all]
    exact (List.prefix_iff_eq_take.mp filling.front).symm
  rw [sent]
  exact hf r

theorem getstats_ensures (s : Setup) :
    (getstats s).Ensures sdk (fun tr _ _ => ∃ st, Sampled w.mem tr st) w := by
  have begun : Filling [.console, .usb] w.mem [] w := ⟨List.nil_prefix, Unchanged.refl _ _⟩
  unfold getstats
  refine begun.put (by simp) (by rfl) fun w₁ cleared => ?_
  have begun : Filling [.console, .usb] w.mem [] w₁ := ⟨List.nil_prefix, cleared.same⟩
  refine begun.read [] gpifGetSMState_idling (by simp) (by simp) ?_
  intro sm state w₂ sm_made at₀
  refine at₀.putKept (by simp) (by rfl) (by rw [at₀.same.buffers (by simp)]) fun w₃ at₄ => ?_
  refine at₄.put (by simp) (by rfl) fun w₄ at₅ => ?_
  refine at₅.putKept (by simp) (by rfl) (by rw [at₅.same.counter (by simp)]) fun w₅ at₉ => ?_
  refine at₉.putKept (by simp) (by rfl) (by rw [at₉.same.pib (by simp)]) fun w₆ at₁₁ => ?_
  refine at₁₁.putKept (by simp) (by rfl) (by rw [at₁₁.same.counter (by simp)]) fun w₇ at₁₅ => ?_
  refine at₁₅.putKept (by simp) (by rfl) (by rw [at₁₅.same.counter (by simp)]) fun w₈ at₁₉ => ?_
  -- from here on a failed transfer may count
  have at₁₉ := at₁₉.mono [.console, .usb, .counter] (by simp)
  refine at₁₉.read [.counter] (readRegisterOr_idling _ _ (by simp)) (by simp) (by simp) ?_
  intro status siStatus w₉ status_made at₁₉
  refine at₁₉.put (by simp) (by rfl) fun w₁₀ at₂₀ => ?_
  show (ram >>= fun m => ep0Put 20 (leBytes32 m.health.glBootCount) >>= _).Ensures _ _ _
  refine at₂₀.putKept (by simp) (by rfl) (by rw [at₂₀.same.health (by simp)]) fun w₁₁ at₂₄ => ?_
  refine at₂₄.read [.counter] (readRegisterOr_idling _ _ (by simp)) (by simp) (by simp) ?_
  intro reg16 clk0Reg16 w₁₂ reg16_made at₂₄
  refine at₂₄.put (by simp) (by rfl) fun w₁₃ at₂₅ => ?_
  refine at₂₅.read [.counter] (si5351Clk0Enabled_idling (by simp)) (by simp) (by simp) ?_
  intro enabled clk0Enabled w₁₄ enabled_made at₂₅
  refine at₂₅.put (by simp) (by rfl) fun w₁₅ at₂₆ => ?_
  refine at₂₆.read [] (idling_of_quiet rx888r2ReadGpioState_quiet) (by simp) (by simp) ?_
  intro gpio gpioState w₁₆ gpio_made at₂₆
  refine at₂₆.put (by simp) (by rfl) fun w₁₇ at₃₀ => ?_
  refine at₃₀.send (by rfl) fun r => ?_
  let st : Fx3Stats := {
    dmaCount := w.mem.glDMACount
    gpifState := state
    pibErrors := w.mem.glCounter.get 0
    lastPibArg := w.mem.pib.glLastPibArg
    i2cFailures := w.mem.glCounter.get 1
    streamingFaults := w.mem.glCounter.get 2
    si5351Status := siStatus
    bootCount := w.mem.health.glBootCount
    clk0Reg16 := clk0Reg16
    clk0Result := if clk0Enabled then 1 else 0
    gpioState := gpioState }
  refine ⟨st, rfl, rfl, rfl, rfl, rfl, rfl, sm, status, reg16, enabled, gpio, _, clk0Enabled,
    rfl, ?_⟩
  refine ⟨sm_made, status_made, reg16_made, enabled_made, rfl, gpio_made, ?_⟩
  simp [Fx3Stats.payload, st]

end Handler

/-! ## The round trip -/

def replies (tr : List FwCall) : List (List UInt8) :=
  tr.filterMap fun t =>
    match t.call with
    | .usbSendEP0Data bytes => some bytes
    | _ => none

@[simp] theorem replies_append (tr tr' : List FwCall) :
    replies (tr ++ tr') = replies tr ++ replies tr' :=
  List.filterMap_append

@[simp] theorem replies_nil : replies [] = [] := rfl

@[simp] theorem replies_send (w : World) (bytes : List UInt8) (status : ReturnStatus)
    (tr : List FwCall) : replies (⟨w, .usbSendEP0Data bytes, status⟩ :: tr) = bytes :: replies tr :=
  rfl

theorem mem_replies {tr : List FwCall} {bytes : List UInt8} :
    bytes ∈ replies tr ↔ ∃ t ∈ tr, t.call = .usbSendEP0Data bytes := by
  rw [replies, List.mem_filterMap]
  refine exists_congr fun t => and_congr_right fun _ => ?_
  split
  next sent same =>
    rw [same, Option.some.injEq, Call.usbSendEP0Data.injEq]
  next other =>
    constructor
    · intro h
      cases h
    · intro same
      exact absurd same (other bytes)

theorem replies_nil_of_kinds {tr : List FwCall} {kinds : List Kind} (none : .dataIn ∉ kinds)
    (h : ∀ t ∈ tr, t.call.kind ∈ kinds) : replies tr = [] := by
  refine List.eq_nil_iff_forall_not_mem.mpr fun bytes sent => ?_
  obtain ⟨t, ht, same⟩ := mem_replies.mp sent
  have other := h t ht
  rw [same] at other
  exact none other

theorem Made.replies {α : Type} {p : Fw α} {tr : List FwCall} {a : α} (made : Made p tr a)
    (kinds : List Kind) (h : Makes kinds p) (none : .dataIn ∉ kinds) : Rx888.replies tr = [] := by
  obtain ⟨w, w', run⟩ := made
  exact replies_nil_of_kinds none (h.run run)

theorem getstats_replies {s : Setup} {w w' : World} {tr : List FwCall} {handled : Bool}
    (run : Runs sdk (getstats s) w tr handled w') :
    ∃ st, Sampled w.mem tr st ∧ replies tr = [st.payload] := by
  obtain ⟨st, sampled⟩ := run.ensures (getstats_ensures s)
  refine ⟨st, sampled, ?_⟩
  obtain ⟨sm, status, reg16, enabled, gpio, send, clk0Enabled, rfl, sm_made, status_made,
    reg16_made, enabled_made, -, gpio_made, sent⟩ := sampled.reads
  have reply : replies send = [st.payload] := by
    obtain ⟨t, rfl, made⟩ := List.map_eq_singleton_iff.mp sent
    simp [replies, made]
  have sm_none := sm_made.replies [.smState] (by simp) (by simp)
  have status_none := status_made.replies [.i2cRead] (by simp) (by simp)
  have reg16_none := reg16_made.replies [.i2cRead] (by simp) (by simp)
  have enabled_none := enabled_made.replies [.i2cRead] (by simp) (by simp)
  have gpio_none := gpio_made.replies [.gpioRead] (by simp) (by simp)
  simp [sm_none, status_none, reg16_none, enabled_none, gpio_none, reply]

/-- Whatever the state and the answers, the handler sends one reply. It is made of the values the
firmware has and of nothing else, has the announced length, and the host reads these values
back from it. -/
theorem getstats_decoded {s : Setup} {w w' : World} {tr : List FwCall} {handled : Bool}
    (run : Runs sdk (getstats s) w tr handled w') :
    ∃ st, Sampled w.mem tr st ∧ replies tr = [st.payload] ∧
      st.payload.length = getstatsPayloadLen.toNat ∧ readStats (.ok st.payload) = .ok st := by
  obtain ⟨st, sampled, reply⟩ := getstats_replies run
  exact ⟨st, sampled, reply, st.payload_length, readStats_payload st⟩

/-- A device that has streamed and seen faults of each kind. -/
def statsMemory : World :=
  { (benchRun []).2 with
    mem := { (benchRun []).2.mem with
      glDMACount := 0x01020304
      pib := { (benchRun []).2.mem.pib with glLastPibArg := 0x0506 }
      health := { (benchRun []).2.mem.health with glBootCount := 7 }
      glCounter := Vector.ofFn fun i => 0x08090A0B + i.val.toUInt32 * 0x04040404 } }

def statsBench : Bench := { Bench.idle with smState := fun _ => 5, pllStatus := 0xA1 }

/-- The odd pins are high. -/
def statsAnswer (n : Nat) : (c : Call) → c.Ans
  | .gpioGetValue pin => .ok (pin % 2 == 1)
  | c => statsBench.answer n c

theorem statsAnswer_allowed (w : World) (n : Nat) (c : Call) :
    sdk.allows w c (statsAnswer n c) := by
  cases c with
  | gpioGetValue pin => trivial
  | _ => exact statsBench.allowed w n _

/-- A host asks it for the statistics. -/
def statsRun : List FwCall × Bool × World :=
  (getstats (Setup.decode 0x0000B3C0 0x001E0000)).exec sdk statsAnswer 0 statsMemory

theorem getstats_decoded_streaming :
    (∃ st, Sampled statsMemory.mem statsRun.1 st ∧ replies statsRun.1 = [st.payload] ∧
      st.payload.length = getstatsPayloadLen.toNat ∧ readStats (.ok st.payload) = .ok st) ∧
    replies statsRun.1 = [[4, 3, 2, 1, 5, 11, 10, 9, 8, 6, 5, 15, 14, 13, 12, 19, 18, 17, 16, 0xA1,
      7, 0, 0, 0, 0x4F, 1, 64, 137, 1, 0]] :=
  ⟨getstats_decoded (exec_runs sdk statsAnswer 0 (getstats (Setup.decode 0x0000B3C0 0x001E0000))
    _ (exec_allowed statsAnswer_allowed 0 _ _)), by decide +kernel⟩

end Rx888
