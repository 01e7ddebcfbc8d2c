import Rx888.Ep0.Stats

/-! # READINFODEBUG

The request in its two halves: the console character in `wValue`, then the poll of the
debug channel, whose interrupts-off section takes text from the front of the buffer.
-/

namespace Rx888

open CallProgram

/-- How much of `full` bytes of debug text one poll takes. -/
def infoLen (full : UInt16) : UInt16 :=
  if full > UInt16.ofNat (cyfxSdrappMaxEp0len - 1) then UInt16.ofNat (cyfxSdrappMaxEp0len - 1)
  else full

theorem infoLen_toNat (full : UInt16) :
    (infoLen full).toNat = min full.toNat (cyfxSdrappMaxEp0len - 1) := by
  unfold infoLen
  split
  next long =>
      have long := UInt16.lt_iff_toNat_lt.mp long
      exact (Nat.min_eq_right (Nat.le_of_lt long)).symm
  next small =>
      have small := Nat.le_of_not_lt fun long => small (UInt16.lt_iff_toNat_lt.mpr long)
      exact (Nat.min_eq_left small).symm

theorem infoLen_lt (full : UInt16) : (infoLen full).toNat < cyfxSdrappMaxEp0len := by
  have positive : 0 < cyfxSdrappMaxEp0len := by decide
  rw [infoLen_toNat]
  omega

/-- A carriage return posts a command, any other character is collected. -/
def consoleInput (wValue : UInt16) : Fw Unit :=
  if wValue > 0 then
    if wValue.toUInt8 = 0x0d then do
      setQevent (userCommandAvailable <<< 24)
      void (.queueSend (← ram).glQevent)
    else consoleAccumulateChar wValue.toUInt8
  else pure ()

/-- The interrupts-off section: text goes to the EP0 buffer and what is left slides to the
front; the number of bytes taken. -/
def takeText : Fw UInt16 := do
  let intMask : UInt32 ← call .vicDisableAllInterrupts
  let len := infoLen (← ram).console.glDebTxtLen
  ep0Put 0 ((← ram).console.glBufDebug.take len.toNat)
  let remain := (← ram).console.glDebTxtLen - len
  if remain > 0 then
    modifyConsole fun c =>
      { c with
        glBufDebug :=
          memcpyAt c.glBufDebug 0 ((c.glBufDebug.drop len.toNat).take remain.toNat) }
  modifyConsole fun c => { c with glDebTxtLen := remain }
  void (.vicEnableInterrupts intMask)
  return len

def pollText : Fw Bool := do
  if (← ram).console.glDebTxtLen > 0 then
    let len ← takeText
    ep0Put len.toNat [0]
    sendEP0Data (len + 1)
    countVendorRqt
    return true
  else
    stallEP0
    return true

theorem readinfodebug_eq (s : Setup) :
    readinfodebug s = (do consoleInput s.wValue; pollText) := by
  unfold readinfodebug consoleInput pollText takeText infoLen
  by_cases input : s.wValue > 0
  · by_cases cr : s.wValue.toUInt8 = 0x0d
    · simp only [if_pos input, if_pos cr, bind_assoc, pure_bind, Prog.ite_bind]
    · simp only [if_pos input, if_neg cr, bind_assoc, pure_bind, Prog.ite_bind]
  · simp only [if_neg input, pure_bind, bind_assoc, Prog.ite_bind]

/-! ## What a request takes from the channel -/

/-- What an uninterrupted READINFODEBUG replies and leaves in the channel. -/
structure InfoRead (m : Ram) (tr : List FwCall) (m' : Ram) : Prop where
  reply : replies tr =
    if m.console.glDebTxtLen = 0 then []
    else [m.console.glBufDebug.take (infoLen m.console.glDebTxtLen).toNat ++ [0]]
  left : m'.console.glDebTxtLen = m.console.glDebTxtLen - infoLen m.console.glDebTxtLen

theorem taken_length {c : ConsoleRam} (sized : c.glBufDebug.length = maxlenDUsb) :
    (c.glBufDebug.take (infoLen c.glDebTxtLen).toNat).length = (infoLen c.glDebTxtLen).toNat := by
  have short := infoLen_lt c.glDebTxtLen
  have fits : cyfxSdrappMaxEp0len ≤ maxlenDUsb := by decide
  rw [List.length_take, sized]
  omega

section Spec

variable {w : World}

/-- The debug text is the same. -/
structure SameText (m m' : Ram) : Prop where
  len : m'.console.glDebTxtLen = m.console.glDebTxtLen
  text : m'.console.glBufDebug = m.console.glBufDebug

theorem consoleInput_ensures (wValue : UInt16) :
    (consoleInput wValue).Ensures sdk (fun tr _ w' => replies tr = [] ∧ SameText w.mem w'.mem)
      w := by
  unfold consoleInput consoleAccumulateChar
  refine ensures_ite _ (fun _ => ensures_ite _ (fun _ => ?_) fun _ => ?_) fun _ => ⟨rfl, rfl, rfl⟩
  · exact fun _ _ => ⟨rfl, rfl, rfl⟩
  · exact ram_bind_ensures.mpr
      (ensures_ite _ (fun _ => ⟨rfl, rfl, rfl⟩) fun _ => ⟨rfl, rfl, rfl⟩)

/-- The section leaves the text it took at the front of the EP0 buffer. -/
theorem takeText_ensures :
    takeText.Ensures sdk (fun tr len w' => replies tr = [] ∧
      len = infoLen w.mem.console.glDebTxtLen ∧
      w.mem.console.glBufDebug.take len.toNat <+: w'.mem.usb.glEp0Buffer ∧
      w'.mem.console.glDebTxtLen = w.mem.console.glDebTxtLen - len) w := by
  have front (buffer : List UInt8) :
      w.mem.console.glBufDebug.take (infoLen w.mem.console.glDebTxtLen).toNat <+:
        memcpyAt buffer 0
          (w.mem.console.glBufDebug.take (infoLen w.mem.console.glDebTxtLen).toNat) :=
    prefix_memcpyAt List.nil_prefix _
  unfold takeText
  intro intMask _
  refine ram_bind_ensures.mpr (ram_bind_ensures.mpr (modify_bind_ensures.mpr ?_))
  refine ram_bind_ensures.mpr (ensures_ite _ (fun _ => ?_) fun _ => ?_)
  · exact fun _ _ => ⟨rfl, rfl, front _, rfl⟩
  · exact fun _ _ => ⟨rfl, rfl, front _, rfl⟩

theorem readinfodebug_ensures (s : Setup) (sized : w.mem.console.glBufDebug.length = maxlenDUsb) :
    (readinfodebug s).Ensures sdk (fun tr _ w' => InfoRead w.mem tr w'.mem) w := by
  rw [readinfodebug_eq]
  refine (consoleInput_ensures s.wValue).bind fun tr₁ _ w₁ input => ?_
  obtain ⟨silent, same⟩ := input
  unfold pollText
  refine ram_bind_ensures.mpr (ensures_ite _ (fun some => ?_) fun none => ?_)
  · refine takeText_ensures.bind fun tr₂ len w₂ taken => ?_
    obtain ⟨silent', rfl, front, left⟩ := taken
    rw [same.len, same.text] at front
    rw [same.len] at left ⊢
    have length := taken_length sized
    generalize text_eq :
      w.mem.console.glBufDebug.take (infoLen w.mem.console.glDebTxtLen).toNat = text
      at front length
    have count : (infoLen w.mem.console.glDebTxtLen + 1).toNat = (text ++ [0]).length := by
      have short := infoLen_lt w.mem.console.glDebTxtLen
      have small : cyfxSdrappMaxEp0len < 2 ^ 16 := by decide
      rw [UInt16.toNat_add, List.length_append, length]
      exact Nat.mod_eq_of_lt (by show _ + 1 < _; omega)
    have sent : (memcpyAt w₂.mem.usb.glEp0Buffer (infoLen w.mem.console.glDebTxtLen).toNat [0]).take
        (infoLen w.mem.console.glDebTxtLen + 1).toNat = text ++ [0] := by
      rw [← length, count]
      exact (List.prefix_iff_eq_take.mp (prefix_memcpyAt front [0])).symm
    have nonempty : ¬ w.mem.console.glDebTxtLen = 0 := by
      intro empty
      rw [same.len, empty] at some
      exact absurd some (by decide)
    refine fun r _ => ⟨?_, left⟩
    rw [if_neg nonempty, replies_append, replies_append, silent, silent', text_eq]
    exact congrArg (fun bytes => [bytes]) sent
  · have empty : w.mem.console.glDebTxtLen = 0 := by
      rw [← same.len]
      simpa using none
    refine fun r _ => ⟨?_, ?_⟩
    · rw [replies_append, silent, if_pos empty]
      rfl
    · show w₁.mem.console.glDebTxtLen = _
      rw [same.len, empty]
      rfl

end Spec

end Rx888
