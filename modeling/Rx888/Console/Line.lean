import Rx888.Console.EventDelivery

/-! # Console lines

Characters are collected by `ConsoleAccumulateChar` and a line ends with `ParseCommand`, which
puts the index back and leaves the text. The terminator is written behind each character, so a
line with no character shows what the one before it left.
-/

namespace Rx888

open CallProgram

attribute [local simp] Call.kind

/-! ## Input and lines -/

def lineText (line : List UInt8) : List UInt8 := (line.take 31).map (· ||| 0x20)

/-- The buffer begins with the text of the line and its NUL. -/
def Shows (line buffer : List UInt8) : Prop := lineText line ++ [0] <+: buffer

def lineOf (m : Ram) : List UInt8 × UInt32 :=
  (m.console.glConsoleInBuffer, m.console.glConsoleInIndex)

/-- A character comes in by a poll of READINFODEBUG, or over the UART. -/
inductive Keyed (w : World) : UInt8 → World → Prop where
  | poll {w' : World} {tr : List FwCall} {isHandled : Bool} (s : Setup) (some : s.wValue > 0)
      (runs : Runs sdk (readinfodebug s) w tr isHandled w') : Keyed w s.wValue.toUInt8 w'
  | uart {w' : World} {tr : List FwCall} {c : UInt8}
      (runs : Runs sdk (uartCallback true) w tr () w')
      (received : ∃ w₁, (⟨w₁, .consoleChannelGetBuffer, c⟩ : FwCall) ∈ tr) : Keyed w c w'

/-- Lines typed at the console, each with the buffer `ParseCommand` found for it, and the
characters of the next. A line is parsed before the next one begins; all others leave its part of
the memory alone. -/
inductive Entered : List (List UInt8 × List UInt8) → List UInt8 → World → Prop where
  | start {w : World} (statics : w.mem.console = Ram.init.console) : Entered [] [] w
  | others {history : List (List UInt8 × List UInt8)} {line : List UInt8} {w w' : World}
      (entered : Entered history line w) (kept : lineOf w'.mem = lineOf w.mem) :
      Entered history line w'
  | char {history : List (List UInt8 × List UInt8)} {line : List UInt8} {w w' : World} {c : UInt8}
      (entered : Entered history line w) (plain : c ≠ 0x0d) (keyed : Keyed w c w') :
      Entered history (line ++ [c]) w'
  | line {history : List (List UInt8 × List UInt8)} {line : List UInt8} {w w₁ w₂ w' : World}
      {tr : List FwCall} (entered : Entered history line w) (keyed : Keyed w 0x0d w₁)
      (kept : lineOf w₂.mem = lineOf w₁.mem) (runs : Runs sdk parseCommand w₂ tr () w') :
      Entered (history ++ [(line, w₂.mem.console.glConsoleInBuffer)]) [] w'

/-! ## What the programs do to a line -/

section Kept

variable {α : Type} {p : Fw α} {w w' : World} {tr : List FwCall} {a : α}

/-- The writes leave the line alone. -/
def KeepsLine (p : Fw α) : Prop := p.Uses (fun g => ∀ m, lineOf (g m) = lineOf m) fun _ => True

theorem memAfter_lineOf (m : Ram) (c : Call) (r : c.Ans) : lineOf (memAfter m c r) = lineOf m := by
  cases c with
  | debugPrint fmt args =>
      show lineOf (debugPrint2USB m r) = lineOf m
      unfold debugPrint2USB
      split
      · rfl
      · split <;> rfl
  | _ => rfl

theorem KeepsLine.run (keeps : KeepsLine p) (runs : Runs sdk p w tr a w') :
    lineOf w'.mem = lineOf w.mem := by
  apply runs.frame (fun s => lineOf s.mem = lineOf w.mem) keeps
  · intro g s keep same
    exact (keep s.mem).trans same
  · intro s c r _ _ same
    exact (memAfter_lineOf s.mem c r).trans same
  · rfl

theorem keepsLine_of_confined {l : List Part} (confined : Confined l p)
    (apart : Part.console ∉ l) : KeepsLine p := by
  apply Prog.Uses.mono confined
  · intro g unchanged m
    unfold lineOf
    rw [(unchanged m).console apart]
  · intro _ _
    trivial

/-- The requests other than READINFODEBUG keep the line. -/
theorem vendorCommand_keepsLine (s : Setup) {command : Option FX3Command}
    (other : command ≠ some .readinfodebug) : KeepsLine (vendorCommand s command) := by
  by_cases test : command = some .testfx3
  · subst test
    simp [KeepsLine, lineOf, vendorCommand, testfx3, sendEP0Data, countVendorRqt, ep0Put, modifyUsb,
      modifyConsole, modify, void, ram]
  · apply keepsLine_of_confined (vendorCommand_confined s command)
    cases command with
    | none => simp [commandParts]
    | some c => cases c <;> simp_all [commandParts]

end Kept

/-! ## Characters -/

/-- A character is stored while there is room for it and its NUL. -/
def stored (line : List UInt8 × UInt32) (c : UInt8) : List UInt8 × UInt32 :=
  if line.2 < 32 - 1 then
    (memcpyAt (memcpyAt line.1 line.2.toNat [c ||| 0x20]) (line.2 + 1).toNat [0], line.2 + 1)
  else line

/-- What a character makes of the line. -/
def lineAfter (line : List UInt8 × UInt32) (c : UInt8) : List UInt8 × UInt32 :=
  if c = 0x0d then line else stored line c

theorem consoleAccumulateChar_stores (c : UInt8) (w : World) :
    (consoleAccumulateChar c).Ensures sdk (fun _ _ w' => lineOf w'.mem = stored (lineOf w.mem) c)
      w := by
  unfold consoleAccumulateChar stored
  show (if w.mem.console.glConsoleInIndex < 32 - 1 then _ else _ : Fw Unit).Ensures sdk _ w
  by_cases room : w.mem.console.glConsoleInIndex < 32 - 1
  · rw [if_pos room]
    exact (if_pos room).symm
  · rw [if_neg room]
    exact (if_neg room).symm

def typed (c : UInt8) : Fw Unit :=
  if c = 0x0d then do
    setQevent (userCommandAvailable <<< 24)
    void (.queueSend (← ram).glQevent)
  else consoleAccumulateChar c

theorem typed_line (c : UInt8) (w : World) :
    (typed c).Ensures sdk (fun _ _ w' => lineOf w'.mem = lineAfter (lineOf w.mem) c) w := by
  unfold typed lineAfter
  split
  · intro _ _
    rfl
  · exact consoleAccumulateChar_stores c w

theorem pollText_keepsLine : KeepsLine pollText := by
  simp [KeepsLine, lineOf, pollText, takeText, sendEP0Data, stallEP0, countVendorRqt, ep0Put,
    modifyUsb, modifyConsole, modify, void, call, ram]

/-- `UartCallback` once the character is echoed. -/
def uartCollect (inputChar : UInt8) : Fw Unit := do
  typed inputChar
  void .consoleChannelDiscardBuffer
  void (.uartRxSetBlockXfer 1)

theorem uartCallback_collects : uartCallback true = (do
    void .consoleChannelSetWrapUp
    let inputChar : UInt8 ← call .consoleChannelGetBuffer
    debugPrint "%c" [.num inputChar.toUInt32]
    uartCollect inputChar) := by
  simp only [uartCallback, uartCollect, typed, Prog.ite_bind, bind_assoc, if_true]

theorem uartCollect_line (c : UInt8) (w : World) :
    (uartCollect c).Ensures sdk (fun tr _ w' => lineOf w'.mem = lineAfter (lineOf w.mem) c ∧
      ∀ t ∈ tr, t.call ≠ .consoleChannelGetBuffer) w := by
  have last : KeepsLine (do
      void .consoleChannelDiscardBuffer
      void (.uartRxSetBlockXfer 1)) := by
    simp [KeepsLine, void]
  have others : (uartCollect c).Uses (fun _ => True) (· ≠ .consoleChannelGetBuffer) := by
    simp [uartCollect, typed, setQevent, consoleAccumulateChar, modifyConsole, modify, ram, void]
  apply ensures_of_runs
  intro tr _ w' runs
  constructor
  · obtain ⟨_, _, w₁, _, -, input, rest⟩ := runs.split
    rw [last.run rest]
    exact input.ensures (typed_line c w)
  · exact runs.calls others

theorem uartCallback_line (w : World) : (uartCallback true).Ensures sdk (fun tr _ w' => ∀ w₁ c,
    (⟨w₁, .consoleChannelGetBuffer, c⟩ : FwCall) ∈ tr →
      lineOf w'.mem = lineAfter (lineOf w.mem) c) w := by
  rw [uartCallback_collects]
  intro _ _ inputChar _ text _
  apply ensures_mono (uartCollect_line inputChar _)
  rintro tr _ w' ⟨made, others⟩ w₁ c received
  have same : c = inputChar := by
    have other := others ⟨w₁, .consoleChannelGetBuffer, c⟩
    simp at received other
    grind
  rw [made, same]
  exact congrArg (lineAfter · inputChar) (memAfter_lineOf w.mem (.debugPrint _ _) text)

theorem Keyed.line {w w' : World} {c : UInt8} (keyed : Keyed w c w') :
    lineOf w'.mem = lineAfter (lineOf w.mem) c := by
  cases keyed with
  | poll s some runs =>
      rw [readinfodebug_eq, consoleInput, if_pos some] at runs
      obtain ⟨_, _, w₁, _, -, input, rest⟩ := runs.split
      rw [pollText_keepsLine.run rest]
      exact input.ensures (typed_line _ w)
  | uart runs received =>
      obtain ⟨w₁, received⟩ := received
      exact runs.ensures (uartCallback_line w) w₁ _ received

/-! ## The command -/

section Command

variable {w : World} {Q : List FwCall → Unit → World → Prop}

def commandOf (buffer : List UInt8) : Fw Unit :=
  let is (name : String) : Prop := cText buffer = name.toList.map Char.toUInt8
  if is "" then helpCommand
  else if is "?" then helpCommand
  else if is "threads" then threadsCommand
  else if is "stack" then stackCommand
  else if is "reset" then resetCommand
  else if is "gpif" then gpifCommand
  else echoCommand

theorem isCommand_ensures (name : String) (p q : Fw Unit) :
    (isCommand name >>= fun yes => if yes = true then p else q).Ensures sdk Q w ↔
      if cText w.mem.console.glConsoleInBuffer = name.toList.map Char.toUInt8 then
        p.Ensures sdk Q w
      else q.Ensures sdk Q w := by
  show (if decide (cText w.mem.console.glConsoleInBuffer = _) = true then p
    else q).Ensures sdk Q w ↔ _
  split
  next named => rw [if_pos (of_decide_eq_true named)]
  next other => rw [if_neg fun named => other (decide_eq_true named)]

theorem ensures_ite_iff (c : Prop) [Decidable c] {p q : Fw Unit} :
   (if c then p else q).Ensures sdk Q w ↔ if c then p.Ensures sdk Q w else q.Ensures sdk Q w := by
  split <;> rfl

theorem parseCommand_ensures :
    parseCommand.Ensures sdk Q w ↔ (do
      commandOf w.mem.console.glConsoleInBuffer
      modifyConsole fun c => { c with glConsoleInIndex := 0 }).Ensures sdk Q w := by
  unfold parseCommand commandOf
  simp only [isCommand_ensures, Prog.ite_bind, ensures_ite_iff]

theorem commandOf_keepsLine (buffer : List UInt8) : KeepsLine (commandOf buffer) := by
  have found (names : List String) : Confined [] (printFound names) := by
    induction names with
    | nil => exact within_pure ()
    | cons name rest ih => simp [printFound, ih]
  apply keepsLine_of_confined (l := [])
  · simp [commandOf, helpCommand, threadsCommand, stackCommand, resetCommand, gpifCommand,
      echoCommand, call, found]
  · simp

theorem parseCommand_line (w : World) : parseCommand.Ensures sdk
    (fun _ _ w' => lineOf w'.mem = (w.mem.console.glConsoleInBuffer, 0)) w := by
  rw [parseCommand_ensures, ensures_bind]
  apply ensures_of_runs
  intro tr _ w₁ runs
  have kept := (commandOf_keepsLine _).run runs
  show (w₁.mem.console.glConsoleInBuffer, (0 : UInt32)) = _
  exact congrArg (fun line => (line.1, (0 : UInt32))) kept

end Command

/-! ## The collected text -/

theorem lineText_length (line : List UInt8) : (lineText line).length = min 31 line.length := by
  simp [lineText]

theorem lineText_concat {line : List UInt8} (c : UInt8) (room : line.length < 31) :
    lineText (line ++ [c]) = lineText line ++ [c ||| 0x20] := by
  have short : (line ++ [c]).length ≤ 31 := by
    rw [List.length_append]
    exact room
  unfold lineText
  rw [List.take_of_length_le short, List.take_of_length_le (Nat.le_of_lt room), List.map_append]
  rfl

theorem lineText_full {line : List UInt8} (c : UInt8) (full : 31 ≤ line.length) :
    lineText (line ++ [c]) = lineText line := by
  unfold lineText
  rw [List.take_append_of_le_length full]

theorem or_space_ne_zero (c : UInt8) : c ||| 0x20 ≠ 0 := by
  intro zero
  exact absurd (UInt8.or_eq_zero_iff.mp zero).2 (by decide)

theorem lineText_ne_zero {line : List UInt8} {c : UInt8} (mem : c ∈ lineText line) : c ≠ 0 := by
  obtain ⟨d, -, rfl⟩ := List.mem_map.mp mem
  exact or_space_ne_zero d

theorem Shows.cText {line buffer : List UInt8} (shows : Shows line buffer) :
    cText buffer = lineText line := by
  obtain ⟨rest, rfl⟩ := shows
  have text : ∀ c ∈ lineText line, decide (c ≠ 0) = true := fun c mem =>
    decide_eq_true (lineText_ne_zero mem)
  unfold Rx888.cText
  rw [List.append_assoc, List.takeWhile_append_of_pos text]
  simp

/-- What the memory holds of a line after the lines of the history. -/
structure Collects (history : List (List UInt8 × List UInt8)) (line : List UInt8)
    (l : List UInt8 × UInt32) : Prop where
  sized : l.1.length = 32
  index : l.2.toNat = (lineText line).length
  text : lineText line <+: l.1
  shown : Shows line l.1 ↔ line ≠ [] ∨ ∀ e ∈ history, e.1 = []
  again : line = [] → ∀ e ∈ history.getLast?, l.1 = e.2

theorem Collects.char {history : List (List UInt8 × List UInt8)} {line : List UInt8}
    {l : List UInt8 × UInt32} (collects : Collects history line l) (c : UInt8) :
    Collects history (line ++ [c]) (stored l c) := by
  have index := collects.index
  rw [lineText_length] at index
  have nonempty : line ++ [c] ≠ [] := by simp
  unfold stored
  split
  next room =>
      have room : l.2.toNat < 31 := UInt32.lt_iff_toNat_lt.mp room
      have next : (l.2 + 1).toNat = l.2.toNat + 1 := by
        rw [UInt32.toNat_add]
        exact Nat.mod_eq_of_lt (by simp; omega)
      have longer : lineText (line ++ [c]) = lineText line ++ [c ||| 0x20] :=
        lineText_concat c (by omega)
      have text := prefix_memcpyAt collects.text [c ||| 0x20]
      have shows := prefix_memcpyAt text [0]
      rw [List.length_append, ← collects.index, ← longer] at shows
      have first : (memcpyAt l.1 l.2.toNat [c ||| 0x20]).length = l.1.length := by
        apply memcpyAt_length
        rw [collects.sized, List.length_singleton]
        omega
      have second : (memcpyAt (memcpyAt l.1 l.2.toNat [c ||| 0x20]) (l.2 + 1).toNat [0]).length =
          (memcpyAt l.1 l.2.toNat [c ||| 0x20]).length := by
        apply memcpyAt_length
        rw [first, collects.sized, next, List.length_singleton]
        omega
      constructor
      · exact second.trans (first.trans collects.sized)
      · rw [next, longer, collects.index, List.length_append, List.length_singleton]
      · rw [next]
        exact (List.prefix_append _ _).trans shows
      · rw [next]
        exact iff_of_true shows (Or.inl nonempty)
      · exact fun empty => absurd empty nonempty
  next full =>
      have full : 31 ≤ l.2.toNat :=
        Nat.le_of_not_lt fun room => full (UInt32.lt_iff_toNat_lt.mpr room)
      have same : lineText (line ++ [c]) = lineText line := lineText_full c (by omega)
      have shows : Shows line l.1 := collects.shown.mpr (Or.inl (by
        rintro rfl
        simp at index
        omega))
      constructor
      · exact collects.sized
      · rw [same]
        exact collects.index
      · rw [same]
        exact collects.text
      · unfold Shows
        rw [same]
        exact iff_of_true shows (Or.inl nonempty)
      · exact fun empty => absurd empty nonempty

/-- A parsed line leaves its text behind, which the next line shows only if it is empty too. -/
theorem Collects.parsed {history : List (List UInt8 × List UInt8)} {line : List UInt8}
    {l : List UInt8 × UInt32} (collects : Collects history line l) :
    Collects (history ++ [(line, l.1)]) [] (l.1, 0) := by
  have every : (∀ e ∈ history ++ [(line, l.1)], e.1 = []) ↔
      line = [] ∧ ∀ e ∈ history, e.1 = [] := by
    simp [or_imp, forall_and, and_comm]
  constructor
  · exact collects.sized
  · rfl
  · exact List.nil_prefix
  · rw [every]
    by_cases empty : line = []
    · have shown := collects.shown
      rw [empty] at shown
      simpa [empty] using shown
    · have text := (collects.shown.mpr (Or.inl empty)).cText
      have other : ¬ Shows [] l.1 := by
        intro shows
        have lengths := congrArg List.length (shows.cText.symm.trans text)
        rw [lineText_length, lineText_length, List.length_nil] at lengths
        exact empty (List.length_eq_zero_iff.mp (by omega))
      simp [empty, other]
  · intro _ e last
    simp at last
    rw [← last]

theorem collects_init : Collects [] [] (lineOf Ram.init) := by
  constructor
  · rfl
  · rfl
  · exact List.nil_prefix
  · exact iff_of_true ⟨List.replicate 31 0, rfl⟩ (Or.inr (by simp))
  · intro _ e last
    simp at last

/-- What the memory holds of a line, whatever the lines before it. -/
theorem Entered.collects {history : List (List UInt8 × List UInt8)} {line : List UInt8} {w : World}
    (entered : Entered history line w) : Collects history line (lineOf w.mem) := by
  induction entered with
  | start statics =>
      unfold lineOf
      rw [statics]
      exact collects_init
  | others _ kept ih =>
      rw [kept]
      exact ih
  | char _ plain keyed ih =>
      rw [keyed.line, lineAfter, if_neg plain]
      exact ih.char _
  | line _ keyed kept runs ih =>
      have same := kept.trans keyed.line
      rw [lineAfter, if_pos rfl] at same
      rw [← same] at ih
      rw [runs.ensures (parseCommand_line _)]
      exact ih.parsed

theorem Entered.at {history before after : List (List UInt8 × List UInt8)} {line l v : List UInt8}
    {w : World} (entered : Entered history line w) (at_l : history = before ++ (l, v) :: after) :
    ∃ w', Entered before l w' ∧ w'.mem.console.glConsoleInBuffer = v := by
  induction entered generalizing after with
  | start => simp at at_l
  | others _ _ ih => exact ih at_l
  | char _ _ _ ih => exact ih at_l
  | @line history line w w₁ w₂ w' tr entered keyed kept runs ih =>
      rcases List.eq_nil_or_concat after with rfl | ⟨after', e, rfl⟩
      · obtain ⟨rfl, last⟩ := List.append_inj' at_l rfl
        have same := kept.trans keyed.line
        rw [lineAfter, if_pos rfl] at same
        simp only [List.cons.injEq, Prod.mk.injEq, and_true] at last
        rw [← last.1]
        exact ⟨w₂, .others entered same, last.2⟩
      · rw [List.concat_eq_append, ← List.cons_append, ← List.append_assoc] at at_l
        exact ih (List.append_inj' at_l rfl).1

/-! ## Line by line -/

/-- `ParseCommand` sees the line, and an empty line asks for help. -/
def DispatchedLine (line buffer : List UInt8) : Prop :=
  Shows line buffer ∧ (line = [] → commandOf buffer = helpCommand)

theorem dispatchedLine_iff (line buffer : List UInt8) :
    DispatchedLine line buffer ↔ Shows line buffer := by
  constructor
  · exact fun dispatched => dispatched.1
  · intro shows
    refine ⟨shows, fun empty => ?_⟩
    have text := shows.cText
    rw [empty] at text
    unfold commandOf
    rw [text]
    rfl

/-- No write leaves the buffer; `ParseCommand` sees a line exactly if the line has a character
or no earlier line has one. -/
theorem line_dispatched_iff {history : List (List UInt8 × List UInt8)} {line : List UInt8}
    {w : World} (entered : Entered history line w) :
    (w.mem.console.glConsoleInBuffer.length = 32 ∧ w.mem.console.glConsoleInIndex < 32) ∧
      ∀ before l v after, history = before ++ (l, v) :: after → v.length = 32 ∧
        (DispatchedLine l v ↔ l ≠ [] ∨ ∀ e ∈ before, e.1 = []) := by
  constructor
  · have collects := entered.collects
    have index := collects.index
    rw [lineText_length] at index
    refine ⟨collects.sized, UInt32.lt_iff_toNat_lt.mpr ?_⟩
    show (lineOf w.mem).2.toNat < 32
    omega
  · intro before l v after at_l
    obtain ⟨w', entered', rfl⟩ := entered.at at_l
    rw [dispatchedLine_iff]
    exact ⟨entered'.collects.sized, entered'.collects.shown⟩

theorem empty_sees_before {history before after : List (List UInt8 × List UInt8)}
    {line : List UInt8} {e : List UInt8 × List UInt8} {v : List UInt8} {w : World}
    (entered : Entered history line w) (at_v : history = (before ++ [e]) ++ ([], v) :: after) :
    v = e.2 := by
  obtain ⟨w', entered', rfl⟩ := entered.at at_v
  exact entered'.collects.again rfl e (by simp)

/-! ## Lines typed -/

/-- A character polled in the low byte of `wValue`. -/
def keySetup (c : UInt8) : Setup := { carriageReturnSetup with wValue := 0x100 ||| c.toUInt16 }

theorem exists_keyed (w : World) (c : UInt8) : ∃ w', Keyed w c w' := by
  have total (s : World) (call : Call) : ∃ r, sdk.allows s call r :=
    ⟨_, Bench.idle.allowed s 0 call⟩
  have char : (keySetup c).wValue.toUInt8 = c := by
    have high : (0x100 : UInt8) = 0 := rfl
    simp [keySetup, high]
  have some : (keySetup c).wValue > 0 := by
    apply UInt16.pos_iff_ne_zero.mpr
    intro zero
    exact absurd (UInt16.or_eq_zero_iff.mp zero).1 (by decide)
  obtain ⟨tr, isHandled, w', runs⟩ := exists_runs total (readinfodebug (keySetup c)) w
  rw [← char]
  exact ⟨w', .poll _ some runs⟩

theorem Entered.exists_chars {history : List (List UInt8 × List UInt8)} {line : List UInt8}
    {w : World} (entered : Entered history line w) {chars : List UInt8} (plain : 0x0d ∉ chars) :
    ∃ w', Entered history (line ++ chars) w' := by
  induction chars generalizing line w with
  | nil =>
      rw [List.append_nil]
      exact ⟨w, entered⟩
  | cons c rest ih =>
      rw [List.mem_cons, not_or] at plain
      obtain ⟨w', keyed⟩ := exists_keyed w c
      have next := entered.char (Ne.symm plain.1) keyed
      rw [List.append_cons]
      exact ih next plain.2

theorem exists_entered {lines : List (List UInt8)} (plain : ∀ l ∈ lines, 0x0d ∉ l) :
    ∃ history w, Entered history [] w ∧ history.map Prod.fst = lines := by
  have total (s : World) (call : Call) : ∃ r, sdk.allows s call r :=
    ⟨_, Bench.idle.allowed s 0 call⟩
  induction lines using List.reverseRecOn with
  | nil => exact ⟨[], ⟨Ram.init, Hw.reset⟩, .start rfl, rfl⟩
  | append_singleton lines l ih =>
      obtain ⟨history, w, entered, same⟩ := ih fun l mem => plain l (by simp [mem])
      obtain ⟨w₁, entered⟩ := entered.exists_chars (plain l (by simp))
      obtain ⟨w₂, keyed⟩ := exists_keyed w₁ 0x0d
      obtain ⟨tr, _, w₃, runs⟩ := exists_runs total parseCommand w₂
      refine ⟨_, w₃, entered.line keyed rfl runs, ?_⟩
      rw [List.map_append, same]
      rfl

def stackLine : List UInt8 := [0x73, 0x74, 0x61, 0x63, 0x6b]

/-- A line that the buffer has no room for. -/
def longLine : List UInt8 := List.replicate 40 0x61

theorem line_dispatched_iff_stack : ∃ v₁ v₂ v₃ v₄ w,
    Entered [([], v₁), (stackLine, v₂), (longLine, v₃), ([], v₄)] [] w ∧
      (w.mem.console.glConsoleInBuffer.length = 32 ∧ w.mem.console.glConsoleInIndex < 32) ∧
      (v₁.length = 32 ∧ DispatchedLine [] v₁) ∧
      (v₂.length = 32 ∧ DispatchedLine stackLine v₂) ∧
      (v₃.length = 32 ∧ DispatchedLine longLine v₃) ∧
      (v₄.length = 32 ∧ ¬ DispatchedLine [] v₄) := by
  obtain ⟨history, w, entered, same⟩ := @exists_entered [[], stackLine, longLine, []] (by decide)
  match history, same with
  | [(l₁, v₁), (l₂, v₂), (l₃, v₃), (l₄, v₄)], same =>
      simp only [List.map_cons, List.map_nil, List.cons.injEq, and_true] at same
      obtain ⟨rfl, rfl, rfl, rfl⟩ := same
      obtain ⟨room, sees⟩ := line_dispatched_iff entered
      have first := sees [] [] v₁ _ rfl
      have second := sees [([], v₁)] stackLine v₂ _ rfl
      have third := sees [([], v₁), (stackLine, v₂)] longLine v₃ _ rfl
      have last := sees [([], v₁), (stackLine, v₂), (longLine, v₃)] [] v₄ [] rfl
      refine ⟨v₁, v₂, v₃, v₄, w, entered, room, ⟨first.1, ?_⟩, ⟨second.1, ?_⟩, ⟨third.1, ?_⟩,
        ⟨last.1, ?_⟩⟩
      · exact first.2.mpr (.inr fun _ none_ => nomatch none_)
      · exact second.2.mpr (.inl (by decide))
      · exact third.2.mpr (.inl (by decide))
      · intro dispatched
        rcases last.2.mp dispatched with typed | empty
        · exact typed rfl
        · have none_ : stackLine = [] := empty (stackLine, v₂) (by simp)
          cases none_

/-- A carriage return alone after `stack` runs the command again. -/
theorem empty_line_repeats : ∃ v₁ v₂ w, Entered [(stackLine, v₁), ([], v₂)] [] w ∧
    ¬ DispatchedLine [] v₂ ∧ commandOf v₂ = stackCommand := by
  obtain ⟨history, w, entered, same⟩ := @exists_entered [stackLine, []] (by decide)
  match history, same with
  | [(l₁, v₁), (l₂, v₂)], same =>
      simp only [List.map_cons, List.map_nil, List.cons.injEq, and_true] at same
      obtain ⟨rfl, rfl⟩ := same
      have first : [(stackLine, v₁), ([], v₂)] = [] ++ (stackLine, v₁) :: [([], v₂)] := rfl
      have second : [(stackLine, v₁), ([], v₂)] = ([] ++ [(stackLine, v₁)]) ++ [([], v₂)] := rfl
      have again : v₂ = v₁ := empty_sees_before entered second
      obtain ⟨w₁, entered₁, found⟩ := entered.at first
      have text : cText v₂ = lineText stackLine := by
        rw [again, ← found]
        exact (entered₁.collects.shown.mpr (Or.inl (by decide))).cText
      refine ⟨v₁, v₂, w, entered, fun dispatched => ?_, ?_⟩
      · exact absurd (dispatched.1.cText.symm.trans text) (by decide)
      · unfold commandOf
        rw [text]
        rfl

end Rx888
