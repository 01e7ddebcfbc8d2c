import Rx888.Console.Formatter

/-! # Printing step by step

`DebugPrint2USB` formats on its caller's stack and appends to the channel in a section with the
interrupts off.
-/

namespace Rx888

open CallProgram

/-- A call of `DebugPrint2USB`, with what its local `buf` happens to hold. -/
structure Message where
  msg : CString
  argp : List VaArg
  buf : Vector UInt8 maxlenDUsb

section Print

variable (cyU3PDebugIntToStr : UInt32 → UInt8 → CString)

def Message.formatted (m : Message) : Option (List UInt8 × UInt16) :=
  myDebugSNPrint cyU3PDebugIntToStr m.buf.toList (UInt16.ofNat maxlenDUsb) m.msg m.argp

def Message.text (m : Message) : Option (List UInt8) :=
  (m.formatted cyU3PDebugIntToStr).map fun (buf, len) => buf.take len.toNat

/-- The interrupts-off section of `DebugPrint2USB`. -/
def appendText (buf : List UInt8) (len : UInt16) : Fw Unit := do
  let intMask : UInt32 ← call .vicDisableAllInterrupts
  if (← ram).console.glDebTxtLen.toNat + len.toNat < maxlenDUsb then
    modifyConsole fun c =>
      { c with
        glBufDebug := memcpyAt c.glBufDebug c.glDebTxtLen.toNat (buf.take len.toNat) }
    modifyConsole fun c => { c with glDebTxtLen := c.glDebTxtLen + len }
  void (.vicEnableInterrupts intMask)

/-- `DebugPrint2USB` as its thread runs it; `debugPrint2USB` is what comes of it when nothing
intervenes. -/
def debugPrint2USBSteps (m : Message) : Fw Unit := do
  if (← ram).app.glIsApplnActive then
    if (← ram).console.glFlagDebug then
      match m.formatted cyU3PDebugIntToStr with
      | none => pure ()
      | some (buf, len) => appendText buf len

end Print

section Text

variable {intToStr : UInt32 → UInt8 → CString} {m : Message}

theorem formatted_within {buf : List UInt8} {len : UInt16}
    (formatted : m.formatted intToStr = some (buf, len)) :
    buf.length = maxlenDUsb ∧ len.toNat + 2 ≤ maxlenDUsb :=
  myDebugSNPrint_within m.buf.size_toArray (by decide) formatted

theorem take_formatted_length {buf : List UInt8} {len : UInt16}
    (formatted : m.formatted intToStr = some (buf, len)) :
    (buf.take len.toNat).length = len.toNat := by
  have within := formatted_within formatted
  rw [List.length_take]
  omega

theorem text_mayAnswer (fmt : String) (args : List DebugArg) :
    (Call.debugPrint fmt args).mayAnswer (m.text intToStr) := by
  intro bytes spelled
  obtain ⟨⟨buf, len⟩, formatted, same⟩ := Option.map_eq_some_iff.mp spelled
  have bound : len.toNat + 2 ≤ 256 := (formatted_within formatted).2
  rw [← same, take_formatted_length formatted]
  omega

/-- Run in one go, the steps do what the call does as a whole. -/
theorem debugPrint2USBSteps_ensures {w : World} :
    (debugPrint2USBSteps intToStr m).Ensures sdk
      (fun _ _ w' => w'.mem = debugPrint2USB w.mem (m.text intToStr)) w := by
  unfold debugPrint2USBSteps Message.text
  refine ram_bind_ensures.mpr (ensures_ite _ (fun active => ?_) fun inactive => ?_)
  · refine ram_bind_ensures.mpr (ensures_ite _ (fun flag => ?_) fun silent => ?_)
    · rcases formatted : m.formatted intToStr with _ | ⟨buf, len⟩
      · rfl
      · have length := take_formatted_length formatted
        have len_eq : UInt16.ofNat (buf.take len.toNat).length = len := by
          rw [length]
          exact UInt16.ofNat_toNat
        show (appendText buf len).Ensures sdk _ w
        unfold appendText
        intro intMask _
        refine ram_bind_ensures.mpr (ensures_ite _ (fun fits => ?_) fun full => ?_)
        · intro _ _
          have goes : (w.mem.app.glIsApplnActive && w.mem.console.glFlagDebug &&
              decide (w.mem.console.glDebTxtLen.toNat + (buf.take len.toNat).length <
                maxlenDUsb)) = true := by
            rw [active, flag, length]
            exact decide_eq_true fits
          refine (Eq.trans (if_pos goes) ?_).symm
          rw [len_eq]
          rfl
        · intro _ _
          have stays : ¬ (w.mem.app.glIsApplnActive && w.mem.console.glFlagDebug &&
              decide (w.mem.console.glDebTxtLen.toNat + (buf.take len.toNat).length <
                maxlenDUsb)) = true := by
            rw [active, flag, length]
            exact fun fits => full (of_decide_eq_true fits)
          exact (if_neg stays).symm
    · have quiet : w.mem.console.glFlagDebug = false := by simpa using silent
      cases (m.formatted intToStr).map fun (buf, len) => buf.take len.toNat with
      | none => rfl
      | some text => simp [debugPrint2USB, quiet]
  · have quiet : w.mem.app.glIsApplnActive = false := by simpa using inactive
    cases (m.formatted intToStr).map fun (buf, len) => buf.take len.toNat with
    | none => rfl
    | some text => simp [debugPrint2USB, quiet]

end Text

end Rx888
