import Rx888.CallProgram.Couple
import Rx888.Ep0.Reply

/-! # What a request shows of earlier ones

All vendor requests share one EP0 buffer. Two executions of a request from states that differ
in that buffer only are run side by side; they show the same as long as every byte the command
reads from the buffer is one this request has put there.
-/

namespace Rx888

open CallProgram

/-- A GPIO access, an I2C transfer or a reply, which the board and the host can see. -/
def Call.shown? (c : Call) : Option Call :=
  if c.kind ∈ [.gpio, .i2cRead, .i2cWrite, .dataIn] then some c else none

/-- What an execution shows, the debug text excepted. -/
def shown (tr : List FwCall) : List Call := tr.filterMap fun t => t.call.shown?

def Ram.withEp0 (m : Ram) (buffer : List UInt8) : Ram :=
  { m with usb := { m.usb with glEp0Buffer := buffer } }

def World.withBuffer (w : World) (buffer : Vector UInt8 cyfxSdrappMaxEp0len) : World :=
  ⟨w.mem.withEp0 buffer.toList, w.env⟩

/-- How a data phase out of `count` bytes goes. -/
abbrev Delivery (count : UInt16) := Except Failure (Vector UInt8 count.toNat)

/-- The host's data phase goes as `delivery`. -/
def Delivers (ω : Oracle sdk) {count : UInt16} (delivery : Delivery count) : Prop :=
  ∀ n, ω.answer n (.usbGetEP0Data count) = delivery

/-- Whatever the SDK answers, what a request shows does not depend on what earlier requests
left in the EP0 buffer. -/
def Leakless (setupdat0 setupdat1 : UInt32)
    (delivery : Delivery (Setup.decode setupdat0 setupdat1).wLength) (w : World) : Prop :=
  ∀ ω : Oracle sdk, Delivers ω delivery → ∀ buffer buffer',
    let execute (buffer : Vector UInt8 cyfxSdrappMaxEp0len) :=
      (cyFxSlFifoApplnUSBSetupCB setupdat0 setupdat1).exec sdk ω.answer 0 (w.withBuffer buffer)
    shown (execute buffer).1 = shown (execute buffer').1

/-- The command takes a word from the buffer of which the host has not sent all it uses: the
control word of GPIOFX3 ends with its third byte, the frequency of STARTADC with its fourth. -/
def Setup.readsStale (s : Setup) (delivery : Delivery s.wLength) : Prop :=
  (∃ bytes, delivery = .ok bytes) ∧
    (s.command? = some .gpiofx3 ∧ s.wLength.toNat < 3 ∨
      s.command? = some .startadc ∧ s.wLength.toNat < 4)

/-! ## Side by side -/

/-- The same calls, except that one debug message may be printed for another, and the same
answers, the data phase's being `delivery`. -/
def sameShow {count : UInt16} (delivery : Delivery count) : Coupling Call.Ans where
  calls c c' := c = c' ∨ c.kind = .text ∧ c'.kind = .text
  answers {c c'} r r' := (c = c' → HEq r r') ∧ (c = .usbGetEP0Data count → HEq r delivery)

theorem sameShow_diagonal {count : UInt16} (delivery : Delivery count) :
    (sameShow delivery).Diagonal where
  calls _ := .inl rfl
  answers h := eq_of_heq (h.1 rfl)

/-- Memories that differ in the EP0 buffer only, which begins with `filled` in both. The debug
buffer is the array it is declared to be. -/
structure Shared (filled : List UInt8) (m m' : Ram) : Prop where
  front : filled <+: m.usb.glEp0Buffer
  front' : filled <+: m'.usb.glEp0Buffer
  off : ∃ buffer, m' = m.withEp0 buffer
  sized : m.console.glBufDebug.length = maxlenDUsb

theorem memAfter_withEp0 (m : Ram) (buffer : List UInt8) (c : Call) (r : c.Ans) :
    memAfter (m.withEp0 buffer) c r = (memAfter m c r).withEp0 buffer := by
  cases c with
  | debugPrint fmt args =>
      cases r with
      | none => rfl
      | some text =>
          simp only [memAfter, debugPrint2USB]
          by_cases fits : (m.app.glIsApplnActive && m.console.glFlagDebug &&
              decide (m.console.glDebTxtLen.toNat + text.length < maxlenDUsb)) = true
          · rw [if_pos fits]
            exact if_pos fits
          · rw [if_neg fits]
            exact if_neg fits
  | _ => rfl

theorem memAfter_usb (m : Ram) (c : Call) (r : c.Ans) : (memAfter m c r).usb = m.usb :=
  (memAfter_unchanged m c r).usb (by simp)

theorem memAfter_sized {m : Ram} (sized : m.console.glBufDebug.length = maxlenDUsb) (c : Call)
    (r : c.Ans) : (memAfter m c r).console.glBufDebug.length = maxlenDUsb := by
  cases c with
  | debugPrint fmt args =>
      cases r with
      | none => exact sized
      | some text =>
          simp only [memAfter, debugPrint2USB]
          split
          next fits =>
            simp only [Bool.and_eq_true, decide_eq_true_eq] at fits
            exact (memcpyAt_length (by omega)).trans sized
          next => exact sized
  | _ => exact sized

theorem Shared.exec {filled : List UInt8} (w w' : World) (c : Call) (r : c.Ans)
    (shared : Shared filled w.mem w'.mem) :
    Shared filled (sdk.exec w c r).mem (sdk.exec w' c r).mem := by
  obtain ⟨front, front', ⟨buffer, same⟩, sized⟩ := shared
  refine ⟨?_, ?_, ⟨buffer, ?_⟩, memAfter_sized sized c r⟩
  · show filled <+: (memAfter w.mem c r).usb.glEp0Buffer
    rwa [memAfter_usb]
  · show filled <+: (memAfter w'.mem c r).usb.glEp0Buffer
    rwa [memAfter_usb]
  · show memAfter w'.mem c r = _
    rw [same]
    exact memAfter_withEp0 w.mem buffer c r

section Blind

variable {α β : Type} {filled : List UInt8}

theorem steady_modify {f : Ram → Ram}
    (beside : ∀ m buffer, f (m.withEp0 buffer) = (f m).withEp0 buffer)
    (kept : ∀ m, (f m).usb.glEp0Buffer = m.usb.glEp0Buffer)
    (sized : ∀ m, (f m).console.glBufDebug.length = m.console.glBufDebug.length) :
    (modify f).Steady (Shared filled) := by
  refine ⟨fun m m' shared => ⟨?_, ?_, ?_, (sized m).trans shared.sized⟩, trivial⟩
  · rw [kept]
    exact shared.front
  · rw [kept]
    exact shared.front'
  · obtain ⟨buffer, rfl⟩ := shared.off
    exact ⟨buffer, beside m buffer⟩

theorem steady_ram {f : Ram → Fw α} (blind : ∀ m buffer, f (m.withEp0 buffer) = f m)
    (rest : ∀ m, (f m).Steady (Shared filled)) : (ram >>= f).Steady (Shared filled) := by
  refine ⟨fun m m' shared => ?_, rest⟩
  obtain ⟨buffer, rfl⟩ := shared.off
  exact (blind m buffer).symm

@[simp] theorem steady_call (c : Call) (k : c.Ans → Fw α)
    (rest : ∀ r, (k r).Steady (Shared filled)) : (Prog.call c k).Steady (Shared filled) :=
  rest

@[simp] theorem steady_void (c : Call) : (void c).Steady (Shared filled) := fun _ => trivial

@[simp] theorem modifyEp0_steady (f : Ep0Ram → Ep0Ram) : (modifyEp0 f).Steady (Shared filled) :=
  steady_modify (fun _ _ => rfl) (fun _ => rfl) fun _ => rfl

@[simp] theorem modifySession_steady (f : SessionRam → SessionRam) :
    (modifySession f).Steady (Shared filled) :=
  steady_modify (fun _ _ => rfl) (fun _ => rfl) fun _ => rfl

@[simp] theorem modifyHealth_steady (f : HealthRam → HealthRam) :
    (modifyHealth f).Steady (Shared filled) :=
  steady_modify (fun _ _ => rfl) (fun _ => rfl) fun _ => rfl

@[simp] theorem modifyHooks_steady (f : HookRam → HookRam) :
    (modifyHooks f).Steady (Shared filled) :=
  steady_modify (fun _ _ => rfl) (fun _ => rfl) fun _ => rfl

@[simp] theorem modifyPib_steady (f : PibRam → PibRam) : (modifyPib f).Steady (Shared filled) :=
  steady_modify (fun _ _ => rfl) (fun _ => rfl) fun _ => rfl

@[simp] theorem modifyDMACount_steady (f : UInt32 → UInt32) :
    (modifyDMACount f).Steady (Shared filled) :=
  steady_modify (fun _ _ => rfl) (fun _ => rfl) fun _ => rfl

@[simp] theorem modifyConsole_steady {f : ConsoleRam → ConsoleRam}
    (sized : ∀ c, (f c).glBufDebug.length = c.glBufDebug.length) :
    (modifyConsole f).Steady (Shared filled) :=
  steady_modify (fun _ _ => rfl) (fun _ => rfl) fun m => sized m.console

@[simp] theorem setQevent_steady (message : UInt32) : (setQevent message).Steady (Shared filled) :=
  steady_modify (fun _ _ => rfl) (fun _ => rfl) fun _ => rfl

@[simp] theorem countUp_steady (i : Fin 20) : (countUp i).Steady (Shared filled) :=
  steady_modify (fun _ _ => rfl) (fun _ => rfl) fun _ => rfl

@[simp] theorem countVendorRqt_steady : countVendorRqt.Steady (Shared filled) :=
  steady_modify (fun _ _ => rfl) (fun _ => rfl) fun _ => rfl

@[simp] theorem debugPrint_steady (fmt : String) (args : List DebugArg) :
    (debugPrint fmt args).Steady (Shared filled) :=
  steady_void _

@[simp] theorem gpioSetValue_steady (pin : UInt8) (level : Bool) :
    (gpioSetValue pin level).Steady (Shared filled) :=
  steady_void _

@[simp] theorem stallEP0_steady : stallEP0.Steady (Shared filled) := steady_void _

@[simp] theorem gpifGetSMState_steady : gpifGetSMState.Steady (Shared filled) := by
  simp [gpifGetSMState, call]

@[simp] theorem countI2cFailure_steady (status : ReturnStatus) :
    (countI2cFailure status).Steady (Shared filled) := by
  simp [countI2cFailure]

@[simp] theorem i2cTransferRead_steady (byteAddress devAddr byteCount : UInt8) :
    (i2cTransferRead byteAddress devAddr byteCount).Steady (Shared filled) := by
  simp [i2cTransferRead, call]

@[simp] theorem i2cTransferWrite_steady (byteAddress devAddr byteCount : UInt8)
    (buffer : List UInt8) :
    (i2cTransferWrite byteAddress devAddr byteCount buffer).Steady (Shared filled) := by
  simp [i2cTransferWrite, call]

@[simp] theorem si5351PllLocked_steady : si5351PllLocked.Steady (Shared filled) := by
  refine (Prog.steady_bind (by simp)).mpr fun rc _ => ?_
  cases rc <;> simp

@[simp] theorem si5351Clk0Enabled_steady : si5351Clk0Enabled.Steady (Shared filled) := by
  refine (Prog.steady_bind (by simp)).mpr fun rc _ => ?_
  cases rc <;> simp

@[simp] theorem si5351aSetFrequencyA_steady (freq : UInt32) :
    (si5351aSetFrequencyA freq).Steady (Shared filled) := by
  simp [si5351aSetFrequencyA, setupPLL, setupMultisynth, i2cTransferW1, call]

@[simp] theorem rx888r2GpioSet_steady (mdata : UInt32) :
    (rx888r2GpioSet mdata).Steady (Shared filled) := by
  simp [rx888r2GpioSet]

@[simp] theorem gpioShiftBits_steady (mask : UInt8) (bits : Nat) (value : UInt8) :
    (gpioShiftBits mask bits value).Steady (Shared filled) := by
  induction bits generalizing value with
  | zero => exact Prog.steady_pure ()
  | succ bits ih => simp [gpioShiftBits, ih]

@[simp] theorem gpioShiftOut_steady (latchPin value : UInt8) (bits : Nat) :
    (gpioShiftOut latchPin value bits).Steady (Shared filled) := by
  simp [gpioShiftOut]

@[simp] theorem implicitStop_steady : implicitStop.Steady (Shared filled) := by
  simp [implicitStop]

@[simp] theorem pollPllLocked_steady (rounds : Nat) :
    (pollPllLocked rounds).Steady (Shared filled) := by
  induction rounds with
  | zero => exact Prog.steady_pure ()
  | succ rounds ih => simp [pollPllLocked, ih]

@[simp] theorem softStop_steady (failed : String) : (softStop failed).Steady (Shared filled) := by
  simp [softStop]

@[simp] theorem checkStatus_steady (name : String) (status : ReturnStatus) :
    (checkStatus name status).Steady (Shared filled) := by
  have blink (count : Nat) : (errorBlink count).Steady (Shared filled) := by
    induction count with
    | zero => exact Prog.steady_pure ()
    | succ count ih => simp [errorBlink, ih]
  exact steady_ram (fun _ _ => rfl) fun m => by simp [errorBlinkAndReset, indicateError, blink]

@[simp] theorem consoleInput_steady (wValue : UInt16) :
    (consoleInput wValue).Steady (Shared filled) := by
  have collects (ch : UInt8) : (consoleAccumulateChar ch).Steady (Shared filled) :=
    steady_ram (fun _ _ => rfl) fun m => by simp
  have posts : (ram >>= fun m => void (.queueSend m.glQevent)).Steady (Shared filled) :=
    steady_ram (fun _ _ => rfl) fun m => by simp
  simp [consoleInput, collects, posts]

@[simp] theorem startGPIF_steady : startGPIF.Steady (Shared filled) := by
  simp [startGPIF, call]

@[simp] theorem restartStream_steady : restartStream.Steady (Shared filled) := by
  simp [restartStream, rx888r2AdcStandby, healthResetRecoveryCount, call]

@[simp] theorem steady_active {p q : Fw α} :
    (ram >>= fun m => if m.app.glIsApplnActive = true then p else q).Steady (Shared filled) ↔
      p.Steady (Shared filled) ∧ q.Steady (Shared filled) := by
  constructor
  · intro h
    exact ⟨h.2 { Ram.init with app := { Ram.init.app with glIsApplnActive := true } },
      h.2 Ram.init⟩
  · rintro ⟨hp, hq⟩
    exact steady_ram (fun _ _ => rfl) fun m => by simp [hp, hq]

@[simp] theorem standardRequest_steady (s : Setup) :
    (standardRequest s).Steady (Shared filled) := by
  simp [standardRequest]

/-- What is put into the buffer leaves it as different as it was, or less. -/
@[simp] theorem ep0Put_steady (off : Nat) (bytes : List UInt8) :
    (ep0Put off bytes).Steady (Shared []) := by
  refine ⟨fun m m' shared => ⟨List.nil_prefix, List.nil_prefix, ?_, shared.sized⟩, trivial⟩
  obtain ⟨buffer, rfl⟩ := shared.off
  exact ⟨_, rfl⟩

@[simp] theorem getEP0Data_steady (wLength : UInt16) :
    (getEP0Data wLength).Steady (Shared []) := by
  refine fun answer => ?_
  cases answer with
  | ok bytes => exact (Prog.steady_bind (ep0Put_steady 0 _)).mpr fun _ _ => trivial
  | error e => trivial

end Blind

/-! ## The words in the buffer -/

def controlBits : UInt32 := 0x00FFFFFF

theorem shiftLeft_controlBits (x : UInt32) : (x <<< 24) &&& controlBits = 0 := by
  apply UInt32.toBitVec_inj.mp
  apply BitVec.eq_of_getLsbD_eq
  intro i hi
  have bits : ∀ i < 32, 24 ≤ i → controlBits.toBitVec.getLsbD i = false := by decide
  by_cases h : 24 ≤ i
  · simp [bits i hi h]
  · simp [BitVec.getLsbD_shiftLeft]
    omega

theorem or_and_controlBits (x y : UInt32) :
    (x ||| y) &&& controlBits = (x &&& controlBits) ||| (y &&& controlBits) := by
  apply UInt32.toBitVec_inj.mp
  exact BitVec.and_or_distrib_right

theorem rx888r2GpioSet_controlBits (mdata : UInt32) :
    rx888r2GpioSet (mdata &&& controlBits) = rx888r2GpioSet mdata := by
  have bit (b : UInt32) (h : controlBits &&& b = b) :
      (mdata &&& controlBits) &&& b = mdata &&& b := by
    rw [UInt32.and_assoc, h]
  unfold rx888r2GpioSet
  rw [bit shdwn (by decide), bit dith (by decide), bit rando (by decide), bit biasHf (by decide),
    bit biasVhf (by decide), bit ledBlue (by decide), bit vhfEn (by decide), bit pgaEn (by decide)]

theorem leWord32_controlBits {filled buffer : List UInt8} (front : filled <+: buffer)
    (long : 3 ≤ filled.length) :
    leWord32 buffer &&& controlBits = leWord32 filled &&& controlBits := by
  simp only [leWord32, or_and_controlBits, shiftLeft_controlBits]
  rw [getD_of_front front (by omega), getD_of_front front (by omega),
    getD_of_front front (by omega)]

/-! ## Rules -/

section Rules

variable {α β : Type} {count : UInt16} {delivery : Delivery count} {w w' : World}
variable {filled : List UInt8} {p : Fw α} {f : α → Fw β}

/-- From the two states the program shows the same. -/
abbrev Together (delivery : Delivery count) (p : Fw α) (w w' : World) : Prop :=
  p.Coupled (sameShow delivery) sdk p (fun a b _ _ => a = b) w w'

theorem Shared.together (shared : Shared filled w.mem w'.mem) (steady : p.Steady (Shared filled)) :
    Together delivery p w w' :=
  (steady.coupled (sameShow_diagonal delivery) Shared.exec shared).mono
    fun _ _ _ _ h => h.1

theorem Shared.keep (shared : Shared filled w.mem w'.mem) (steady : p.Steady (Shared filled))
    (rest : ∀ a w w', Shared filled w.mem w'.mem → Together delivery (f a) w w') :
    Together delivery (p >>= f) w w' := by
  refine (steady.coupled (sameShow_diagonal delivery) Shared.exec shared).bind ?_
  rintro a _ w₁ w₁' ⟨rfl, shared⟩
  exact rest a w₁ w₁' shared

theorem together_ram {f : Ram → Fw β} (same : f w'.mem = f w.mem)
    (rest : Together delivery (f w.mem) w w') : Together delivery (ram >>= f) w w' := by
  show (f w.mem).Coupled _ _ (f w'.mem) _ w w'
  rw [same]
  exact rest

/-- What is put right behind what the buffers share, they share as well. -/
theorem Shared.put (shared : Shared filled w.mem w'.mem) {off : Nat} {bytes : List UInt8}
    (at_end : off = filled.length) {f : Unit → Fw β}
    (rest : ∀ w w', Shared (filled ++ bytes) w.mem w'.mem → Together delivery (f ()) w w') :
    Together delivery (ep0Put off bytes >>= f) w w' := by
  refine rest _ _ ⟨?_, ?_, ?_, shared.sized⟩
  · rw [at_end]
    exact prefix_memcpyAt shared.front bytes
  · rw [at_end]
    exact prefix_memcpyAt shared.front' bytes
  · obtain ⟨buffer, same⟩ := shared.off
    exact ⟨memcpyAt buffer off bytes, by rw [same]; rfl⟩

theorem Shared.send (shared : Shared filled w.mem w'.mem) {n : UInt16}
    (covered : n.toNat ≤ filled.length) {f : Unit → Fw β}
    (rest : ∀ w w', Shared filled w.mem w'.mem → Together delivery (f ()) w w') :
    Together delivery (sendEP0Data n >>= f) w w' := by
  have sent {buffer : List UInt8} (front : filled <+: buffer) :
      buffer.take n.toNat = filled.take n.toNat := by
    obtain ⟨tail, rfl⟩ := front
    exact List.take_append_of_le_length covered
  show (void (.usbSendEP0Data (w.mem.usb.glEp0Buffer.take n.toNat)) >>= f).Coupled _ _
    (void (.usbSendEP0Data (w'.mem.usb.glEp0Buffer.take n.toNat)) >>= f) _ w w'
  rw [sent shared.front, sent shared.front']
  exact shared.keep (steady_void _) fun _ => rest

/-- The data phase: on success the buffers share what the host has sent. -/
theorem Shared.receive (shared : Shared [] w.mem w'.mem) {f : ReturnStatus → Fw β}
    (ok : ∀ bytes, delivery = .ok bytes → ∀ w w', Shared bytes.toList w.mem w'.mem →
      Together delivery (f cyU3PSuccess) w w')
    (error : ∀ e, delivery = .error e → ∀ w w', Shared [] w.mem w'.mem →
      Together delivery (f e.1) w w') :
    Together delivery (getEP0Data count >>= f) w w' := by
  refine ⟨.inl rfl, fun r r' answers => ?_⟩
  cases eq_of_heq (answers.1 rfl)
  have delivered : r = delivery := eq_of_heq (answers.2 rfl)
  cases r with
  | ok bytes =>
      show Together delivery (ep0Put 0 bytes.toList >>= fun _ => f cyU3PSuccess) _ _
      exact shared.put rfl fun w w' shared => ok bytes delivered.symm w w' shared
  | error e => exact error e delivered.symm _ _ shared

end Rules

/-! ## The commands -/

section Commands

variable {s : Setup} {delivery : Delivery s.wLength} {w w' : World}

theorem gpiofx3_together (shared : Shared [] w.mem w'.mem)
    (sent : ∀ bytes, delivery = .ok bytes → 3 ≤ s.wLength.toNat) :
    Together delivery (gpiofx3 s) w w' := by
  unfold gpiofx3
  refine shared.receive (fun bytes ok w w' shared => ?_) fun e _ w w' shared => ?_
  · have long : 3 ≤ bytes.toList.length := by simpa using sent bytes ok
    rw [if_pos rfl]
    refine together_ram ?_ (shared.together (by simp))
    rw [← rx888r2GpioSet_controlBits, ← rx888r2GpioSet_controlBits (leWord32 w.mem.usb.glEp0Buffer),
      leWord32_controlBits shared.front long, leWord32_controlBits shared.front' long]
  · rw [if_neg e.2]
    exact shared.together (by simp)

theorem startadc_together (shared : Shared [] w.mem w'.mem)
    (sent : ∀ bytes, delivery = .ok bytes → 4 ≤ s.wLength.toNat) :
    Together delivery (startadc s) w w' := by
  unfold startadc
  refine shared.receive (fun bytes ok w w' shared => ?_) fun e _ w w' shared => ?_
  · have long : 4 ≤ bytes.toList.length := by simpa using sent bytes ok
    rw [if_pos rfl]
    refine together_ram ?_ (shared.together (by simp))
    rw [leWord32_of_front shared.front long, leWord32_of_front shared.front' long]
  · rw [if_neg e.2]
    exact shared.together (by simp)

theorem i2cwfx3_together (shared : Shared [] w.mem w'.mem) :
    Together delivery (i2cwfx3 s) w w' := by
  unfold i2cwfx3
  refine shared.receive (fun bytes _ w w' shared => ?_) fun e _ w w' shared => ?_
  · rw [if_pos rfl]
    by_cases blocked : si5351AccessBlocked s.wValue s.wIndex s.wLength
    · simp only [if_pos blocked]
      exact shared.together (by simp)
    · simp only [if_neg blocked]
      refine together_ram ?_ (shared.together (by simp [call]))
      have fits : s.wLength.toUInt8.toNat ≤ bytes.toList.length := by
        rw [Vector.length_toList, UInt16.toNat_toUInt8]
        exact Nat.mod_le _ _
      have same {buffer : List UInt8} (front : bytes.toList <+: buffer) :
          i2cTransferWrite s.wIndex.toUInt8 s.wValue.toUInt8 s.wLength.toUInt8 buffer =
            i2cTransferWrite s.wIndex.toUInt8 s.wValue.toUInt8 s.wLength.toUInt8 bytes.toList := by
        obtain ⟨tail, rfl⟩ := front
        unfold i2cTransferWrite
        rw [List.take_append_of_le_length fits]
      rw [same shared.front, same shared.front']
  · rw [if_neg e.2]
    exact shared.together (by simp)

theorem cleared_together {β : Type} {f : Unit → Fw β} (shared : Shared [] w.mem w'.mem)
    (sized : w.mem.usb.glEp0Buffer.length = cyfxSdrappMaxEp0len)
    (sized' : w'.mem.usb.glEp0Buffer.length = cyfxSdrappMaxEp0len) :
    Together delivery (ep0Clear >>= f) w w' := by
  have cleared (buffer : List UInt8) (h : buffer.length = cyfxSdrappMaxEp0len) :
      memcpyAt buffer 0 (List.replicate cyfxSdrappMaxEp0len 0) =
        List.replicate cyfxSdrappMaxEp0len 0 := by
    simp [memcpyAt, h]
  obtain ⟨buffer, same⟩ := shared.off
  let clear (m : Ram) : Ram := { m with usb := { m.usb with
    glEp0Buffer := memcpyAt m.usb.glEp0Buffer 0 (List.replicate cyfxSdrappMaxEp0len 0) } }
  have equal : clear w.mem = clear w'.mem := by
    simp only [clear]
    rw [cleared _ sized, cleared _ sized', same]
    rfl
  have exec (s s' : World) (c : Call) (r : c.Ans) (h : s.mem = s'.mem) :
      (sdk.exec s c r).mem = (sdk.exec s' c r).mem :=
    congrArg (memAfter · c r) h
  show (f ()).Coupled _ _ (f ()) _ ⟨clear w.mem, w.env⟩ ⟨clear w'.mem, w'.env⟩
  exact ((Prog.steady_eq (f ())).coupled (sameShow_diagonal delivery) exec equal).mono
    fun _ _ _ _ h => h.1

theorem testfx3_together (shared : Shared [] w.mem w'.mem) :
    Together delivery (testfx3 s) w w' := by
  have same {m m' : Ram} {filled : List UInt8} (shared : Shared filled m m') :
      m'.app = m.app ∧ m'.usb.glVendorRqtCnt = m.usb.glVendorRqtCnt := by
    obtain ⟨buffer, rfl⟩ := shared.off
    exact ⟨rfl, rfl⟩
  unfold testfx3
  refine together_ram (by rw [(same shared).1]) (shared.put (by rfl) fun w w' shared => ?_)
  refine together_ram (by rw [(same shared).1]) (shared.put (by rfl) fun w w' shared => ?_)
  refine together_ram (by rw [(same shared).1]) (shared.put (by rfl) fun w w' shared => ?_)
  refine together_ram (by rw [(same shared).2]) (shared.put (by rfl) fun w w' shared => ?_)
  exact shared.send (by exact Nat.le_refl 4) fun w w' shared => shared.together (by simp)

theorem i2crfx3_together (shared : Shared [] w.mem w'.mem)
    (sized : w.mem.usb.glEp0Buffer.length = cyfxSdrappMaxEp0len)
    (sized' : w'.mem.usb.glEp0Buffer.length = cyfxSdrappMaxEp0len) :
    Together delivery (i2crfx3 s) w w' := by
  unfold i2crfx3
  by_cases blocked : si5351AccessBlocked s.wValue s.wIndex s.wLength
  · rw [if_pos blocked]
    exact shared.together (by simp)
  · rw [if_neg blocked]
    exact cleared_together shared sized sized'

theorem Shared.console {filled : List UInt8} {m m' : Ram} (shared : Shared filled m m') :
    m'.console = m.console := by
  obtain ⟨buffer, rfl⟩ := shared.off
  rfl

theorem takeText_together {β : Type} {f : UInt16 → Fw β} (shared : Shared [] w.mem w'.mem)
    (rest : ∀ len text w w', text.length = len.toNat → len.toNat < cyfxSdrappMaxEp0len →
      Shared text w.mem w'.mem → Together delivery (f len) w w') :
    Together delivery (takeText >>= f) w w' := by
  unfold takeText
  simp only [bind_assoc]
  refine shared.keep (by simp [call]) fun intMask w w' shared => ?_
  refine together_ram (by rw [shared.console]) (together_ram (by rw [shared.console]) ?_)
  refine shared.put rfl fun w₁ w₁' taken => ?_
  have length := taken_length shared.sized
  refine together_ram (by rw [taken.console]) ?_
  have slides (n remain : Nat) (buffer : List UInt8) :
      (memcpyAt buffer 0 ((buffer.drop n).take remain)).length = buffer.length :=
    memcpyAt_length (by simp only [List.length_take, List.length_drop]; omega)
  by_cases left : w₁.mem.console.glDebTxtLen - infoLen w.mem.console.glDebTxtLen > 0
  · simp only [if_pos left, bind_assoc, pure_bind]
    refine taken.keep (by simp [slides]) fun _ w₂ w₂' taken => ?_
    refine taken.keep (by simp) fun _ w₃ w₃' taken => ?_
    refine taken.keep (by simp) fun _ w₄ w₄' taken => ?_
    exact rest _ _ w₄ w₄' length (infoLen_lt _) taken
  · simp only [if_neg left, bind_assoc, pure_bind]
    refine taken.keep (by simp) fun _ w₃ w₃' taken => ?_
    refine taken.keep (by simp) fun _ w₄ w₄' taken => ?_
    exact rest _ _ w₄ w₄' length (infoLen_lt _) taken

theorem readinfodebug_together (shared : Shared [] w.mem w'.mem) :
    Together delivery (readinfodebug s) w w' := by
  rw [readinfodebug_eq]
  refine shared.keep (by simp) fun _ w w' shared => ?_
  unfold pollText
  refine together_ram (by rw [shared.console]) ?_
  by_cases some : w.mem.console.glDebTxtLen > 0
  · rw [if_pos some]
    refine takeText_together shared fun len text w w' length short shared => ?_
    refine shared.put length.symm fun w w' shared => ?_
    refine shared.send ?_ fun w w' shared => shared.together (by simp)
    rw [List.length_append, length, UInt16.toNat_add]
    exact Nat.mod_le _ _
  · rw [if_neg some]
    exact shared.together (by simp)

theorem vendorCommand_together (shared : Shared [] w.mem w'.mem)
    (sized : w.mem.usb.glEp0Buffer.length = cyfxSdrappMaxEp0len)
    (sized' : w'.mem.usb.glEp0Buffer.length = cyfxSdrappMaxEp0len)
    (c : Option FX3Command)
    (fresh : ∀ bytes, delivery = .ok bytes → (c = some .gpiofx3 → 3 ≤ s.wLength.toNat) ∧
      (c = some .startadc → 4 ≤ s.wLength.toNat)) :
    Together delivery (vendorCommand s c) w w' := by
  cases c with
  | none => exact shared.together (by simp [vendorCommand, unknownRequest])
  | some c =>
      cases c with
      | gpiofx3 => exact gpiofx3_together shared fun bytes ok => (fresh bytes ok).1 rfl
      | startadc => exact startadc_together shared fun bytes ok => (fresh bytes ok).2 rfl
      | getstats => exact cleared_together shared sized sized'
      | i2cwfx3 => exact i2cwfx3_together shared
      | i2crfx3 => exact i2crfx3_together shared sized sized'
      | setargfx3 =>
          refine shared.together ((Prog.steady_bind (by simp)).mpr fun _ _ => ?_)
          cases ArgumentList.ofIndex? s.wIndex with
          | none => simp
          | some arg =>
              cases arg <;>
                simp [rx888r2SetAttenuator, rx888r2SetGain, healthSetMaxRecovery,
                  healthSetResetEscalation]
      | startfx3 =>
          exact shared.together (by simp [vendorCommand, startfx3, gpifPreflightCheck, reportStart])
      | stopfx3 =>
          exact shared.together (by
            simp [vendorCommand, stopfx3, healthResetRecoveryCount, rx888r2AdcStandby])
      | resetfx3 => exact shared.together (by simp [vendorCommand, resetfx3])
      | testfx3 => exact testfx3_together shared
      | hangfx3 => exact shared.together (by simp [vendorCommand, hangfx3])
      | hangcoldstart => exact shared.together (by simp [vendorCommand, hangcoldstart])
      | hangmain => exact shared.together (by simp [vendorCommand, hangmain])
      | readinfodebug => exact readinfodebug_together shared

end Commands

/-! ## The request -/

section Request

variable {s : Setup} {delivery : Delivery s.wLength} {w w' : World}

/-- The trace reads the buffer for what it prints only. -/
theorem traceSerial_coupled (bRequest : UInt8) (wValue wIndex : UInt16) (w w' : World) :
    (traceSerial bRequest wValue wIndex).Coupled (sameShow delivery) sdk
      (traceSerial bRequest wValue wIndex) (fun _ _ _ _ => True) w w' := by
  have ends (w w' : World) : (debugPrint "\r\n\n" []).Coupled (sameShow delivery) sdk
      (debugPrint "\r\n\n" []) (fun _ _ _ _ => True) w w' :=
    ⟨.inr ⟨rfl, rfl⟩, fun _ _ _ => trivial⟩
  unfold traceSerial
  split
  · refine Prog.Coupled.bind (Q := fun _ _ _ _ => True) ?_ fun _ _ w w' _ => ?_
    · unfold traceCommand
      split <;> exact ⟨.inr ⟨rfl, rfl⟩, fun _ _ _ => trivial⟩
    · refine Prog.Coupled.bind (Q := fun _ _ _ _ => True) ?_ fun _ _ w w' _ => ends w w'
      unfold traceArguments
      split
      · split <;> exact ⟨.inr ⟨rfl, rfl⟩, fun _ _ _ => trivial⟩
      · exact ⟨.inr ⟨rfl, rfl⟩, fun _ _ _ => trivial⟩
      · exact ⟨.inr ⟨rfl, rfl⟩, fun _ _ _ => trivial⟩
      · trivial
      · trivial
      · trivial
      · exact ⟨.inr ⟨rfl, rfl⟩, fun _ _ _ => trivial⟩
  · trivial

theorem setupRequest_together (shared : Shared [] w.mem w'.mem)
    (sized : w.mem.usb.glEp0Buffer.length = cyfxSdrappMaxEp0len)
    (sized' : w'.mem.usb.glEp0Buffer.length = cyfxSdrappMaxEp0len)
    (fresh : ¬ s.readsStale delivery) : Together delivery (setupRequest s) w w' := by
  by_cases vendor : s.bType = cyU3PUsbVendorRqt
  · have command := command?_vendor vendor
    rw [setupRequest_vendor vendor]
    cases refused : s.refused with
    | true =>
        rw [if_pos rfl]
        exact shared.together (by simp)
    | false =>
        rw [if_neg (by simp)]
        rw [refused, if_neg (by simp)] at command
        refine Prog.Coupled.bind (Q := fun a b _ _ => a = b) ?_ ?_
        · refine vendorCommand_together shared sized sized' _ fun bytes ok => ?_
          rw [← command]
          constructor
          · intro gpio
            exact Nat.le_of_not_lt fun short => fresh ⟨⟨bytes, ok⟩, .inl ⟨gpio, short⟩⟩
          · intro adc
            exact Nat.le_of_not_lt fun short => fresh ⟨⟨bytes, ok⟩, .inr ⟨adc, short⟩⟩
        · rintro a _ w₁ w₁' rfl
          exact (traceSerial_coupled _ _ _ w₁ w₁').bind fun _ _ _ _ _ => rfl
  · rw [setupRequest, if_neg vendor]
    exact shared.together (by simp)

/-- What earlier requests have left in the buffer is not shown. -/
theorem leakless_of_fresh {setupdat0 setupdat1 : UInt32}
    {delivery : Delivery (Setup.decode setupdat0 setupdat1).wLength}
    (sized : w.mem.console.glBufDebug.length = maxlenDUsb)
    (fresh : ¬ (Setup.decode setupdat0 setupdat1).readsStale delivery) :
    Leakless setupdat0 setupdat1 delivery w := by
  intro ω delivers buffer buffer'
  have together : Together delivery (cyFxSlFifoApplnUSBSetupCB setupdat0 setupdat1)
      (w.withBuffer buffer) (w.withBuffer buffer') := by
    refine ⟨.inl rfl, fun now now' answers => ?_⟩
    cases eq_of_heq (answers.1 rfl)
    let served : Fw Bool := do
      let isHandled ← setupRequest (Setup.decode setupdat0 setupdat1)
      healthRecordEvent .ep0HandlerExit
      return isHandled
    show Together delivery served ((w.withBuffer buffer).entered now)
      ((w.withBuffer buffer').entered now)
    refine Prog.Coupled.bind (Q := fun a b _ _ => a = b) (setupRequest_together ?_ ?_ ?_ fresh) ?_
    · exact ⟨List.nil_prefix, List.nil_prefix, ⟨buffer'.toList, rfl⟩, sized⟩
    · exact buffer.length_toList
    · exact buffer'.length_toList
    · rintro a _ w₁ w₁' rfl
      rfl
  refine together.exec (fun n c c' _ => ⟨?_, ?_⟩) (fun c c' goes => ?_) 0
  · rintro rfl
    rfl
  · rintro rfl
    exact heq_of_eq (delivers n)
  · rcases goes with rfl | ⟨text, text'⟩
    · rfl
    · simp [Call.shown?, text, text']

end Request

/-! ## What is left in the buffer shows -/

/-- The PGA's bit is the lowest of the third byte. -/
theorem leWord32_pgaEn (buffer : List UInt8) :
    leWord32 buffer &&& pgaEn = pgaEn ↔ (buffer.getD 2 0).toNat % 2 = 1 := by
  have small (i : Nat) : (buffer.getD i 0).toNat < 2 ^ 8 := (buffer.getD i 0).toNat_lt
  have h0 := small 0
  have h1 := small 1
  have h2 := small 2
  have word := leWord32_toNat buffer
  have bit : (leWord32 buffer).toNat.testBit 16 = true ↔ (buffer.getD 2 0).toNat % 2 = 1 := by
    rw [Nat.testBit_eq_decide_div_mod_eq, decide_eq_true_eq]
    omega
  have pga (i : Nat) : pgaEn.toNat.testBit i = decide (16 = i) := by
    rw [show pgaEn.toNat = 2 ^ 16 from rfl]
    exact Nat.testBit_two_pow
  rw [← bit, ← UInt32.toNat_inj, UInt32.toNat_and]
  constructor
  · intro same
    have at_16 := congrArg (Nat.testBit · 16) same
    simpa [pga] using at_16
  · intro set
    apply Nat.eq_of_testBit_eq
    intro i
    rw [Nat.testBit_and, pga]
    by_cases h : 16 = i
    · rw [← h, set]
      rfl
    · simp [h]

/-- Beyond the bytes just put, the buffer keeps its own. -/
theorem memcpyAt_getD {buffer bytes : List UInt8} {i : Nat} (beyond : bytes.length ≤ i) :
    (memcpyAt buffer 0 bytes).getD i 0 = buffer.getD i 0 := by
  rw [memcpyAt, List.take_zero, List.nil_append, Nat.zero_add, List.getD_eq_getElem?_getD,
    List.getElem?_append_right beyond, List.getElem?_drop, List.getD_eq_getElem?_getD,
    Nat.add_sub_cancel' beyond]
@[simp] theorem shown_append (tr tr' : List FwCall) : shown (tr ++ tr') = shown tr ++ shown tr' :=
  List.filterMap_append

theorem shown_nil_of_kinds {tr : List FwCall} {kinds : List Kind}
    (none : ∀ kind ∈ kinds, kind ∉ [Kind.gpio, .i2cRead, .i2cWrite, .dataIn])
    (h : ∀ t ∈ tr, t.call.kind ∈ kinds) : shown tr = [] := by
  refine List.filterMap_eq_nil_iff.mpr fun t ht => ?_
  exact if_neg (none _ (h t ht))

theorem Makes.shown_exec {α : Type} {kinds : List Kind} {p : Fw α} (h : Makes kinds p)
    (none : ∀ kind ∈ kinds, kind ∉ [Kind.gpio, .i2cRead, .i2cWrite, .dataIn]) (ω : Oracle sdk)
    (n : Nat) (w : World) : shown (p.exec sdk ω.answer n w).1 = [] :=
  shown_nil_of_kinds none (h.run (exec_runs sdk ω.answer n p w (exec_allowed ω.allowed n p w)))

section Shows

variable {s : Setup} {w : World}

theorem shown_request {setupdat0 setupdat1 : UInt32} {c : FX3Command}
    (command : (Setup.decode setupdat0 setupdat1).command? = some c) (ω : Oracle sdk) (w : World) :
    shown ((cyFxSlFifoApplnUSBSetupCB setupdat0 setupdat1).exec sdk ω.answer 0 w).1 =
      shown ((vendorCommand (Setup.decode setupdat0 setupdat1) (some c)).exec sdk ω.answer 1
        (w.entered (ω.answer 0 .getTime))).1 := by
  obtain ⟨vendor, served, known⟩ := command?_some command
  have entered : shown ((cyFxSlFifoApplnUSBSetupCB setupdat0 setupdat1).exec sdk ω.answer 0 w).1 =
      shown ((do
        let isHandled ← setupRequest (Setup.decode setupdat0 setupdat1)
        healthRecordEvent .ep0HandlerExit
        return isHandled : Fw Bool).exec sdk ω.answer 1 (w.entered (ω.answer 0 .getTime))).1 :=
    rfl
  have tail (isHandled : Bool) : Makes [.text] (do
      traceSerial (Setup.decode setupdat0 setupdat1).bRequest
        (Setup.decode setupdat0 setupdat1).wValue (Setup.decode setupdat0 setupdat1).wIndex
      let isHandled ← pure isHandled
      healthRecordEvent .ep0HandlerExit
      return isHandled) := by
    simp [healthRecordEvent]
  rw [entered, setupRequest_vendor vendor, if_neg (by simp [served]), known]
  simp only [bind_assoc]
  rw [exec_bind]
  dsimp only
  rw [shown_append, (tail _).shown_exec (by decide) ω, List.append_nil]

def World.received (w : World) (bytes : List UInt8) : World :=
  ⟨w.mem.withEp0 (memcpyAt w.mem.usb.glEp0Buffer 0 bytes), w.env⟩

theorem getEP0Data_exec {count : UInt16} {bytes : Vector UInt8 count.toNat} {ω : Oracle sdk}
    (delivers : Delivers ω (.ok bytes : Delivery count)) (n : Nat) (w : World) :
    (getEP0Data count).exec sdk ω.answer n w =
      ([⟨w, .usbGetEP0Data count, .ok bytes⟩], cyU3PSuccess, w.received bytes.toList) := by
  have answer : ω.answer n (.usbGetEP0Data count) = .ok bytes := delivers n
  rw [getEP0Data, exec_bind]
  simp only [call, Prog.exec, answer]
  rfl

theorem gpiofx3_shows {bytes : Vector UInt8 s.wLength.toNat} {ω : Oracle sdk}
    (delivers : Delivers ω (.ok bytes : Delivery s.wLength)) (n : Nat) (w : World) :
    (shown ((gpiofx3 s).exec sdk ω.answer n w).1)[6]? =
      some (.gpioSetValue gpioPga
        (leWord32 (memcpyAt w.mem.usb.glEp0Buffer 0 bytes.toList) &&& pgaEn != pgaEn)) := by
  rw [gpiofx3, exec_bind, getEP0Data_exec delivers]
  rfl

/-- A high frequency shows its divider in the second write. -/
theorem si5351aSetFrequencyA_shows {freq : UInt32} (fast : ¬ freq < 1000000) (b : Bench) (n : Nat)
    (w : World) : (shown ((si5351aSetFrequencyA freq).exec sdk b.answer n w).1)[1]? =
      some (.i2cTransmitBytes ⟨[si5351Addr, siSynthMs0], 0⟩
        (synthBytes (128 * (synthSetup freq).divider - 512) 0 1 0)) := by
  have positive : ¬ freq = 0 := by
    rintro rfl
    exact fast (by decide)
  have scaled : scaleFrequency 20 freq siRDiv1 = (freq, siRDiv1) := by
    rw [scaleFrequency, if_neg fast]
  rw [si5351aSetFrequencyA, if_neg positive, scaled]
  rfl

/-- The host sends `bytes` while the state machine is in reset. -/
def Bench.sending (bytes : List UInt8) : Bench :=
  { Bench.idle with smState := fun _ => gpifReset, hostData := bytes }

theorem sending_delivers {count : UInt16} (bytes : Vector UInt8 count.toNat) :
    Delivers (Bench.sending bytes.toList).oracle (.ok bytes : Delivery count) := by
  intro n
  show (Except.ok (Vector.ofFn fun (i : Fin count.toNat) => bytes.toList.getD i 0) :
    Delivery count) = _
  congr 1
  ext i hi
  simp

theorem startadc_shows (bytes : Vector UInt8 s.wLength.toNat) (n : Nat) (w : World)
    (fast : ¬ leWord32 (memcpyAt w.mem.usb.glEp0Buffer 0 bytes.toList) < 1000000) :
    (shown ((startadc s).exec sdk (Bench.sending bytes.toList).oracle.answer n w).1)[1]? =
      some (.i2cTransmitBytes ⟨[si5351Addr, siSynthMs0], 0⟩ (synthBytes (128 *
        (synthSetup (leWord32 (memcpyAt w.mem.usb.glEp0Buffer 0 bytes.toList))).divider - 512)
        0 1 0)) := by
  have first {l l' : List Call} {c : Call} (h : l[1]? = some c) : (l ++ l')[1]? = some c := by
    rw [List.getElem?_append_left, h]
    exact (List.getElem?_eq_some_iff.mp h).1
  have writes (n : Nat) (w : World) :=
    si5351aSetFrequencyA_shows fast (Bench.sending bytes.toList) n w
  rw [startadc, exec_bind, getEP0Data_exec (sending_delivers bytes)]
  dsimp only
  rw [if_pos rfl, shown_append]
  -- nothing is shown before the frequency is programmed
  show (shown (Prog.exec sdk _ _ (si5351aSetFrequencyA (leWord32
    (memcpyAt w.mem.usb.glEp0Buffer 0 bytes.toList)) >>= _) _).1)[1]? = _
  rw [exec_bind]
  dsimp only
  rw [shown_append]
  exact first (writes _ _)

end Shows

theorem synthSetup_divider {freq : UInt32} {k : Nat} (small : k < 2 ^ 32)
    (low : k * freq.toNat ≤ 900000000) (high : 900000000 < (k + 1) * freq.toNat) :
    (synthSetup freq).divider =
      if UInt32.ofNat k % 2 ≠ 0 then UInt32.ofNat k - 1 else UInt32.ofNat k := by
  have quotient : 900000000 / freq = UInt32.ofNat k := by
    apply UInt32.toNat_inj.mp
    rw [UInt32.toNat_div, UInt32.toNat_ofNat_of_lt' small]
    exact Nat.div_eq_of_lt_le low high
  rw [← quotient]
  rfl

section Stale

variable {s : Setup} (bytes : Vector UInt8 s.wLength.toNat)

/-- A buffer full of one byte, and the word a command takes from it behind its data phase. -/
def filledWith (b : UInt8) : Vector UInt8 cyfxSdrappMaxEp0len :=
  Vector.replicate cyfxSdrappMaxEp0len b

def staleWord (bytes : List UInt8) (b : UInt8) : UInt32 :=
  leWord32 (memcpyAt (filledWith b).toList 0 bytes)

theorem filledWith_getD (b : UInt8) {bytes : List UInt8} {i : Nat} (beyond : bytes.length ≤ i)
    (inside : i < cyfxSdrappMaxEp0len) :
    (memcpyAt (filledWith b).toList 0 bytes).getD i 0 = b := by
  rw [memcpyAt_getD beyond, filledWith, Vector.toList_replicate, List.getD_eq_getElem?_getD,
    List.getElem?_replicate_of_lt inside]
  rfl

/-- Without a fourth byte from the host the highest byte of the word is stale. -/
theorem staleWord_toNat (short : s.wLength.toNat < 4) (b : UInt8) :
    ∃ low < 2 ^ 24, (staleWord bytes.toList b).toNat = low + 2 ^ 24 * b.toNat := by
  have length : bytes.toList.length = s.wLength.toNat := bytes.length_toList
  have small (i : Nat) := ((memcpyAt (filledWith b).toList 0 bytes.toList).getD i 0).toNat_lt
  have h0 := small 0
  have h1 := small 1
  have h2 := small 2
  rw [staleWord, leWord32_toNat,
    filledWith_getD b (show bytes.toList.length ≤ 3 by omega) (by decide)]
  exact ⟨_, by omega, rfl⟩

/-- The PGA takes the bit an earlier request has left. -/
theorem gpiofx3_leaks (short : s.wLength.toNat < 3) (ω : Oracle sdk)
    (delivers : Delivers ω (.ok bytes : Delivery s.wLength)) {w w' : World}
    (zeros : w.mem.usb.glEp0Buffer = (filledWith 0).toList)
    (ones : w'.mem.usb.glEp0Buffer = (filledWith 1).toList) (n : Nat) :
    shown ((gpiofx3 s).exec sdk ω.answer n w).1 ≠ shown ((gpiofx3 s).exec sdk ω.answer n w').1 := by
  intro same
  have length : bytes.toList.length = s.wLength.toNat := bytes.length_toList
  have pga := congrArg (·[6]?) same
  rw [gpiofx3_shows delivers, gpiofx3_shows delivers, zeros, ones] at pga
  have bit (b : UInt8) : staleWord bytes.toList b &&& pgaEn = pgaEn ↔ b.toNat % 2 = 1 := by
    rw [staleWord, leWord32_pgaEn, filledWith_getD b (by omega) (by decide)]
  have low : ¬ staleWord bytes.toList 0 &&& pgaEn = pgaEn := (not_congr (bit 0)).mpr (by decide)
  have high : staleWord bytes.toList 1 &&& pgaEn = pgaEn := (bit 1).mpr (by decide)
  have level : (staleWord bytes.toList 0 &&& pgaEn != pgaEn) =
      (staleWord bytes.toList 1 &&& pgaEn != pgaEn) :=
    (Call.gpioSetValue.inj (Option.some.inj pga)).2
  rw [high, bne_self_eq_false, bne_eq_false_iff_eq] at level
  exact low level

/-- The clock takes the highest byte of its frequency from an earlier request. -/
theorem startadc_leaks (short : s.wLength.toNat < 4) {w w' : World}
    (low : w.mem.usb.glEp0Buffer = (filledWith 0x10).toList)
    (high : w'.mem.usb.glEp0Buffer = (filledWith 0xFF).toList) (n : Nat) :
    shown ((startadc s).exec sdk (Bench.sending bytes.toList).oracle.answer n w).1 ≠
      shown ((startadc s).exec sdk (Bench.sending bytes.toList).oracle.answer n w').1 := by
  intro same
  obtain ⟨_, low_lt, low_eq⟩ := staleWord_toNat bytes short 0x10
  obtain ⟨_, high_lt, high_eq⟩ := staleWord_toNat bytes short 0xFF
  change _ = _ + 2 ^ 24 * 16 at low_eq
  change _ = _ + 2 ^ 24 * 255 at high_eq
  have fast {freq : UInt32} (h : 1000000 ≤ freq.toNat) : ¬ freq < 1000000 :=
    fun slow => absurd (UInt32.lt_iff_toNat_lt.mp slow) (Nat.not_lt.mpr h)
  have fast_low : ¬ staleWord bytes.toList 0x10 < 1000000 := fast (by omega)
  have fast_high : ¬ staleWord bytes.toList 0xFF < 1000000 := fast (by omega)
  have write := startadc_shows bytes n w (by rw [low]; exact fast_low)
  have write' := startadc_shows bytes n w' (by rw [high]; exact fast_high)
  have divider := congrArg (·[1]?) same
  rw [write, write', low, high] at divider
  change some (Call.i2cTransmitBytes _
      (synthBytes (128 * (synthSetup (staleWord bytes.toList 0x10)).divider - 512) 0 1 0)) =
    some (Call.i2cTransmitBytes _ (synthBytes
      (128 * (synthSetup (staleWord bytes.toList 0xFF)).divider - 512) 0 1 0)) at divider
  rw [synthSetup_divider (k := 3) (by decide) (by omega) (by omega),
    synthSetup_divider (k := 0) (by decide) (by omega) (by omega)] at divider
  exact absurd (Call.i2cTransmitBytes.inj (Option.some.inj divider)).2 (by decide)

end Stale

/-- A command that reads stale bytes shows them. -/
theorem not_leakless_of_stale {setupdat0 setupdat1 : UInt32} {w : World}
    {delivery : Delivery (Setup.decode setupdat0 setupdat1).wLength}
    (stale : (Setup.decode setupdat0 setupdat1).readsStale delivery) :
    ¬ Leakless setupdat0 setupdat1 delivery w := by
  intro leakless
  obtain ⟨⟨bytes, rfl⟩, command⟩ := stale
  have delivers := sending_delivers bytes
  rcases command with ⟨gpio, short⟩ | ⟨adc, short⟩
  · have same := leakless _ delivers (filledWith 0) (filledWith 1)
    dsimp only at same
    rw [shown_request gpio, shown_request gpio] at same
    exact gpiofx3_leaks bytes short _ delivers rfl rfl 1 same
  · have same := leakless _ delivers (filledWith 0x10) (filledWith 0xFF)
    dsimp only at same
    rw [shown_request adc, shown_request adc] at same
    exact startadc_leaks bytes short rfl rfl 1 same

/-- Whatever the state, a request keeps what earlier ones have left in the buffer to itself,
unless it reads a word of which the host has not sent all it uses. -/
theorem no_stale_data {setupdat0 setupdat1 : UInt32} {w : World}
    (sized : w.mem.console.glBufDebug.length = maxlenDUsb)
    (delivery : Delivery (Setup.decode setupdat0 setupdat1).wLength) :
    Leakless setupdat0 setupdat1 delivery w ↔
      ¬ (Setup.decode setupdat0 setupdat1).readsStale delivery := by
  constructor
  · intro leakless stale
    exact not_leakless_of_stale stale leakless
  · exact leakless_of_fresh sized

/-- A whole control word sent after a boot. -/
theorem no_stale_data_gpiofx3 :
    Leakless 0x0000AD40 0x00040000 (.ok (Vector.replicate 4 0)) bootedDevice ↔
      ¬ (Setup.decode 0x0000AD40 0x00040000).readsStale (.ok (Vector.replicate 4 0)) :=
  no_stale_data bootedDevice_sized _

/-- A control word of which the host sends two bytes. -/
theorem gpiofx3_shows_stale : ¬ ∀ (steps : List device.Step) (w : World)
    (setupdat0 setupdat1 : UInt32) (delivery : Delivery (Setup.decode setupdat0 setupdat1).wLength),
    device.Run steps w →
    (Setup.decode setupdat0 setupdat1).bType = cyU3PUsbVendorRqt →
      Leakless setupdat0 setupdat1 delivery w := by
  intro always
  have leakless := always _ _ 0x0000AD40 0x00020000 (.ok (Vector.replicate 2 0)) bootedDevice_run
    (by decide)
  exact not_leakless_of_stale ⟨⟨_, rfl⟩, .inl ⟨by decide, by decide⟩⟩ leakless

end Rx888
