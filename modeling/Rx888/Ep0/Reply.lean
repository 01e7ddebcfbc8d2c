import Rx888.Console.Poll
import Rx888.Ep0.Discipline

/-! # How long the replies are

Four requests reply, and each finds the length of its reply in its own way: two send a fixed
number of bytes, one what the host asked for, and one the debug text it takes and a NUL. A
reply fits the host's transfer just when that length does.
-/

namespace Rx888

open CallProgram

attribute [local simp] Call.kind

/-- The reply of a request fits the transfer the host has set up, and the debug text it takes
from the channel is in what the host receives of it. -/
structure InFits (s : Setup) (w : World) (tr : List FwCall) (w' : World) : Prop where
  fits : ∀ bytes ∈ replies tr, bytes.length ≤ s.wLength.toNat ∧ bytes.length ≤ cyfxSdrappMaxEp0len
  received : s.command? = some .readinfodebug →
    w.mem.console.glBufDebug.take
        (w.mem.console.glDebTxtLen.toNat - w'.mem.console.glDebTxtLen.toNat) <+:
      (replies tr).flatten.take s.wLength.toNat

/-- The host has room for what the command replies. -/
def Setup.roomFor (s : Setup) (m : Ram) : Prop :=
  match s.command? with
  | some .getstats => getstatsPayloadLen.toNat ≤ s.wLength.toNat
  | some .testfx3 => 4 ≤ s.wLength.toNat
  | some .readinfodebug => m.console.glDebTxtLen = 0 ∨
      min m.console.glDebTxtLen.toNat (cyfxSdrappMaxEp0len - 1) + 1 ≤ s.wLength.toNat
  | _ => True

/-! ## The four replies -/

section Replies

variable {s : Setup} {w w' : World} {tr : List FwCall} {handled : Bool}

theorem getstats_reply (run : Runs sdk (getstats s) w tr handled w') :
    ∃ bytes, replies tr = [bytes] ∧ bytes.length = getstatsPayloadLen.toNat := by
  obtain ⟨st, -, reply⟩ := getstats_replies run
  exact ⟨st.payload, reply, st.payload_length⟩

theorem testfx3_reply (run : Runs sdk (testfx3 s) w tr handled w') :
    ∃ bytes, replies tr = [bytes] ∧ bytes.length = 4 := by
  have four : (testfx3 s).Ensures sdk
      (fun tr _ _ => ∃ bytes, replies tr = [bytes] ∧ bytes.length = 4) w := by
    have begun : Filling allParts w.mem [] w := ⟨List.nil_prefix, Unchanged.refl _ _⟩
    unfold testfx3
    refine ram_bind_ensures.mpr (begun.put (by simp) (by rfl) fun w₁ at₁ => ?_)
    refine ram_bind_ensures.mpr (at₁.put (by simp) (by rfl) fun w₂ at₂ => ?_)
    refine ram_bind_ensures.mpr (at₂.put (by simp) (by rfl) fun w₃ at₃ => ?_)
    refine ram_bind_ensures.mpr (at₃.put (by simp) (by rfl) fun w₄ at₄ => ?_)
    exact at₄.send (by rfl) fun r => ⟨_, rfl, rfl⟩
  exact run.ensures four

/-- An I2CRFX3 sends at most what the host asked for. -/
theorem i2crfx3_reply (run : Runs sdk (i2crfx3 s) w tr handled w') :
    ∀ bytes ∈ replies tr, bytes.length ≤ s.wLength.toNat := by
  let short (c : Call) : Prop := ∀ bytes, c = .usbSendEP0Data bytes → bytes.length ≤ s.wLength.toNat
  have silent {α : Type} {p : Fw α} (h : Makes otherKinds p) : p.Uses (fun _ => True) short := by
    refine Prog.Uses.mono h (fun _ => id) fun c kind bytes same => ?_
    subst same
    simp at kind
  have send : (sendEP0Data s.wLength).Uses (fun _ => True) short := by
    refine fun m => ⟨fun bytes same => ?_, fun _ => trivial⟩
    rw [← Call.usbSendEP0Data.inj same, List.length_take]
    omega
  have sends : (i2crfx3 s).Uses (fun _ => True) short := by
    unfold i2crfx3
    refine (Prog.uses_ite _ _ _).mpr ⟨fun _ => silent (by simp), fun _ => ?_⟩
    refine (Prog.uses_bind _ _).mpr ⟨silent (by simp), fun _ _ => ?_⟩
    refine (Prog.uses_bind _ _).mpr ⟨silent (by simp), fun data _ => ?_⟩
    cases data with
    | error e => exact silent (by simp [call])
    | ok data =>
        refine (Prog.uses_bind _ _).mpr ⟨silent (by simp), fun _ _ => ?_⟩
        exact (Prog.uses_bind _ _).mpr ⟨send, fun _ _ => trivial⟩
  intro bytes sent
  obtain ⟨t, ht, same⟩ := mem_replies.mp sent
  exact run.calls sends t ht bytes same

end Replies

/-! ## The request -/

section Request

variable {s : Setup} {w w' : World} {tr : List FwCall} {handled : Bool}

theorem command?_vendor (vendor : s.bType = cyU3PUsbVendorRqt) :
    s.command? = if s.refused then none else FX3Command.ofCode? s.bRequest := by
  by_cases long : s.wLength > UInt16.ofNat cyfxSdrappMaxEp0len
  · simp [Setup.command?, Setup.refused, long]
  · by_cases mismatch : s.directionMismatch <;>
      simp [Setup.command?, Setup.refused, vendor, long, mismatch]

theorem command?_some {c : FX3Command} (command : s.command? = some c) :
    s.bType = cyU3PUsbVendorRqt ∧ s.refused = false ∧ FX3Command.ofCode? s.bRequest = some c := by
  have vendor : s.bType = cyU3PUsbVendorRqt := by
    rcases Decidable.em (s.bType = cyU3PUsbVendorRqt) with vendor | other
    · exact vendor
    · simp [Setup.command?, other] at command
  rw [command?_vendor vendor] at command
  cases refused : s.refused with
  | true => simp [refused] at command
  | false => exact ⟨vendor, rfl, by simpa [refused] using command⟩

theorem command?_short {c : FX3Command} (command : s.command? = some c) :
    s.wLength.toNat ≤ cyfxSdrappMaxEp0len := by
  have fits : ¬ s.wLength > UInt16.ofNat cyfxSdrappMaxEp0len := by
    intro long
    simp [Setup.command?, long] at command
  exact Nat.le_of_not_lt fun long => fits (UInt16.lt_iff_toNat_lt.mpr long)

theorem replies_of_none (none : s.command? = none)
    (run : Runs sdk (setupRequest s) w tr handled w') : replies tr = [] := by
  by_cases vendor : s.bType = cyU3PUsbVendorRqt
  · rw [command?_vendor vendor] at none
    cases refused : s.refused with
    | true =>
        have calls := (refused_run vendor refused run).1
        obtain ⟨t, rfl, call⟩ := List.map_eq_singleton_iff.mp calls
        exact replies_nil_of_kinds (show Kind.dataIn ∉ [Kind.stall] by simp)
          (by simp [call])
    | false =>
        simp only [refused, Bool.false_eq_true, if_false] at none
        refine replies_nil_of_kinds ?_ (served_kinds vendor refused run)
        rw [none]
        decide
  · rw [setupRequest, if_neg vendor] at run
    have makes : Makes [.ack, .stall, .endpoint]
        (if s.bType = cyU3PUsbStandardRqt then standardRequest s else pure false) := by
      simp [standardRequest_makes]
    exact replies_nil_of_kinds (by decide) (makes.run run)

theorem ofCode?_readinfodebug {bRequest : UInt8}
    (h : FX3Command.ofCode? bRequest = some .readinfodebug) :
    bRequest = FX3Command.readinfodebug.code := by
  have found := List.find?_some h
  simpa using (beq_iff_eq.mp found).symm

theorem run_of_command {c : FX3Command} (command : s.command? = some c)
    (run : Runs sdk (setupRequest s) w tr handled w') :
    ∃ tr₁ isHandled w₁ tr₂, tr = tr₁ ++ tr₂ ∧
      Runs sdk (vendorCommand s (some c)) w tr₁ isHandled w₁ ∧
      Runs sdk (traceSerial s.bRequest s.wValue s.wIndex) w₁ tr₂ () w' := by
  obtain ⟨vendor, served, known⟩ := command?_some command
  have dispatched := served_run vendor served run
  rw [known] at dispatched
  obtain ⟨tr₁, isHandled, w₁, rest, rfl, runs, after⟩ := dispatched.split
  obtain ⟨tr₂, _, w₂, tr₃, rfl, traces, returns⟩ := after.split
  cases returns
  exact ⟨tr₁, _, w₁, tr₂, by simp, runs, traces⟩

/-- A command's reply is the packet's, and no trace follows a READINFODEBUG. -/
theorem reply_of_command {c : FX3Command} (command : s.command? = some c)
    (run : Runs sdk (setupRequest s) w tr handled w') :
    ∃ tr₁ isHandled w₁, Runs sdk (vendorCommand s (some c)) w tr₁ isHandled w₁ ∧
      replies tr = replies tr₁ ∧ (c = .readinfodebug → w' = w₁) := by
  obtain ⟨tr₁, isHandled, w₁, tr₂, rfl, runs, traces⟩ := run_of_command command run
  refine ⟨tr₁, isHandled, w₁, runs, ?_, fun info => ?_⟩
  · have silent : replies tr₂ = [] := by
      refine replies_nil_of_kinds (show Kind.dataIn ∉ [Kind.text] by simp) (Makes.run ?_ traces)
      simp
    rw [replies_append, silent, List.append_nil]
  · subst info
    have untraced : traceSerial s.bRequest s.wValue s.wIndex = pure () := by
      rw [ofCode?_readinfodebug (command?_some command).2.2]
      rfl
    rw [untraced] at traces
    cases traces
    rfl

end Request

theorem inFits_of_silent {s : Setup} {w w' : World} {tr : List FwCall} (silent : replies tr = [])
    (other : s.command? ≠ some .readinfodebug) : InFits s w tr w' where
  fits := by simp [silent]
  received := fun info => absurd info other

/-- A reply of a fixed length fits just when the host has room for it. -/
theorem inFits_of_fixed {s : Setup} {w w' : World} {tr : List FwCall} {bytes : List UInt8}
    (reply : replies tr = [bytes]) (other : s.command? ≠ some .readinfodebug)
    (short : bytes.length ≤ cyfxSdrappMaxEp0len) :
    InFits s w tr w' ↔ bytes.length ≤ s.wLength.toNat := by
  constructor
  · intro h
    exact (h.fits bytes (by simp [reply])).1
  · intro room
    exact ⟨by simp [reply, room, short], fun info => absurd info other⟩

/-- A poll's reply fits just when the host has room for the text and the NUL. -/
theorem inFits_of_info {s : Setup} {w w' : World} {tr : List FwCall}
    (sized : w.mem.console.glBufDebug.length = maxlenDUsb) (info : InfoRead w.mem tr w'.mem) :
    InFits s w tr w' ↔ w.mem.console.glDebTxtLen = 0 ∨
      min w.mem.console.glDebTxtLen.toNat (cyfxSdrappMaxEp0len - 1) + 1 ≤ s.wLength.toNat := by
  have length := taken_length sized
  have short := infoLen_lt w.mem.console.glDebTxtLen
  rw [← infoLen_toNat]
  by_cases empty : w.mem.console.glDebTxtLen = 0
  · have silent : replies tr = [] := by rw [info.reply, if_pos empty]
    refine iff_of_true ⟨by simp [silent], fun _ => ?_⟩ (.inl empty)
    simp [empty]
  have reply := info.reply
  rw [if_neg empty] at reply
  have removed : w.mem.console.glDebTxtLen.toNat - w'.mem.console.glDebTxtLen.toNat =
      (infoLen w.mem.console.glDebTxtLen).toNat := by
    have le : infoLen w.mem.console.glDebTxtLen ≤ w.mem.console.glDebTxtLen := by
      rw [UInt16.le_iff_toNat_le, infoLen_toNat]
      omega
    rw [info.left, UInt16.toNat_sub_of_le _ _ le]
    have le := UInt16.le_iff_toNat_le.mp le
    omega
  generalize (infoLen w.mem.console.glDebTxtLen).toNat = len at *
  constructor
  · intro h
    have fits := (h.fits _ (by rw [reply]; exact List.mem_singleton.mpr rfl)).1
    rw [List.length_append, length] at fits
    exact .inr fits
  · intro room
    have room : len + 1 ≤ s.wLength.toNat := room.resolve_left empty
    refine ⟨fun bytes sent => ?_, fun _ => ?_⟩
    · rw [reply, List.mem_singleton] at sent
      rw [sent, List.length_append, length]
      exact ⟨room, short⟩
    · have whole : (w.mem.console.glBufDebug.take len ++ [0]).take s.wLength.toNat =
          w.mem.console.glBufDebug.take len ++ [0] :=
        List.take_of_length_le (by rw [List.length_append, length]; exact room)
      rw [removed, reply, List.flatten_singleton, whole]
      exact List.prefix_append _ _

/-- A vendor request's reply fits, and takes no text the host does not receive, just when the
host has room for what its command replies. -/
theorem in_reply_fits {setupdat0 setupdat1 : UInt32} {w w' : World} {tr : List FwCall}
    {handled : Bool} (sized : w.mem.console.glBufDebug.length = maxlenDUsb)
    (run : Runs sdk (cyFxSlFifoApplnUSBSetupCB setupdat0 setupdat1) w tr handled w') :
    InFits (Setup.decode setupdat0 setupdat1) w tr w' ↔
      (Setup.decode setupdat0 setupdat1).roomFor w.mem := by
  obtain ⟨now, served, w₁, rfl, serves, rfl⟩ := callback_split run
  generalize Setup.decode setupdat0 setupdat1 = s at *
  have same : replies (⟨w, .getTime, now⟩ :: served) = replies served := rfl
  cases command : s.command? with
  | none =>
      have silent := replies_of_none command serves
      simp only [Setup.roomFor, command, iff_true]
      exact inFits_of_silent (same.trans silent) (by simp [command])
  | some c =>
      obtain ⟨tr₁, isHandled, w₂, runs, reply, untraced⟩ := reply_of_command command serves
      have reply := same.trans reply
      simp only [Setup.roomFor, command]
      cases c with
      | getstats =>
          obtain ⟨bytes, sent, length⟩ := getstats_reply (s := s) runs
          rw [← length]
          exact inFits_of_fixed (reply.trans sent) (by simp [command]) (by rw [length]; decide)
      | testfx3 =>
          obtain ⟨bytes, sent, length⟩ := testfx3_reply (s := s) runs
          rw [← length]
          exact inFits_of_fixed (reply.trans sent) (by simp [command]) (by rw [length]; decide)
      | readinfodebug =>
          have info := runs.ensures (readinfodebug_ensures s sized)
          rw [untraced rfl]
          exact inFits_of_info sized ⟨reply.trans info.reply, info.left⟩
      | i2crfx3 =>
          have room := i2crfx3_reply runs
          rw [iff_true]
          refine ⟨fun bytes sent => ?_, fun info => by simp [command] at info⟩
          rw [reply] at sent
          exact ⟨room bytes sent, Nat.le_trans (room bytes sent) (command?_short command)⟩
      | _ =>
          have silent : replies tr₁ = [] :=
            replies_nil_of_kinds (by decide) ((vendorCommand_makes s _).run runs)
          rw [iff_true]
          exact inFits_of_silent (reply.trans silent) (by simp [command])

def bootedDevice : World := (benchRun []).2

theorem bootedDevice_run : device.Run (benchRun []).1 bootedDevice := benchRun_run []

theorem bootedDevice_sized : bootedDevice.mem.console.glBufDebug.length = maxlenDUsb := by
  decide +kernel

theorem in_reply_fits_getstats :
    InFits (Setup.decode 0x0000B3C0 0x001E0000) bootedDevice
        (requestRun Bench.idle 0x0000B3C0 0x001E0000 bootedDevice).1
        (requestRun Bench.idle 0x0000B3C0 0x001E0000 bootedDevice).2.2 ↔
      (Setup.decode 0x0000B3C0 0x001E0000).roomFor bootedDevice.mem :=
  in_reply_fits bootedDevice_sized (requestRun_runs _ _ _ _)

/-- A host that asks for one byte of the statistics is sent thirty. -/
theorem getstats_oversends : ¬ ∀ (steps : List device.Step) (w w' : World)
    (setupdat0 setupdat1 : UInt32) (tr : List FwCall) (handled : Bool), device.Run steps w →
    (Setup.decode setupdat0 setupdat1).bType = cyU3PUsbVendorRqt →
    (Setup.decode setupdat0 setupdat1).hostIn = true →
    (Setup.decode setupdat0 setupdat1).wLength.toNat ≤ cyfxSdrappMaxEp0len →
    Runs sdk (cyFxSlFifoApplnUSBSetupCB setupdat0 setupdat1) w tr handled w' →
      InFits (Setup.decode setupdat0 setupdat1) w tr w' := by
  intro always
  have fits := always _ _ _ 0x0000B3C0 0x00010000 _ _ bootedDevice_run (by decide) (by decide)
    (by decide) (requestRun_runs Bench.idle _ _ _)
  have sent : ∃ bytes ∈ replies (requestRun Bench.idle 0x0000B3C0 0x00010000 bootedDevice).1,
      ¬ bytes.length ≤ 1 := by
    decide +kernel
  obtain ⟨bytes, sent, long⟩ := sent
  exact long (fits.fits bytes sent).1

end Rx888
