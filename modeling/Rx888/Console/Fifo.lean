import Rx888.Console.Channel

/-! # The debug channel is a FIFO

Each job keeps the ledger balanced, so every run does.
-/

namespace Rx888

open CallProgram Function

/-! ## The jobs -/

section Jobs

variable {τ : Type} [DecidableEq τ] {intToStr : UInt32 → UInt8 → CString} {usb t : τ} {l : Own}
variable {g : Ledger τ} {m : Ram} {msg : Message}

theorem noteEp0_keep {f : Ram → Ram} (kept : (f m).usb.glEp0Buffer = g.ep0) :
    g.noteEp0 usb m t (.write f) = g := by
  unfold Ledger.noteEp0
  simp only
  split
  next => rw [kept]
  next => rfl

theorem print_noted {s : World} {f : Ram → Ram} (kept : (f s.mem).usb.glEp0Buffer = g.ep0) :
    (channelContract intToStr usb).Noted g s t (.own (.print msg) (.write f)) g :=
  ⟨trivial, noteEp0_keep kept⟩

theorem fate_own (g : Ledger τ) (t : τ) (f : Fate) :
    (Ledger.own usb { g with fate := update g.fate t f } t).fate = f := by
  show update g.fate t f t = f
  rw [update_self]

theorem fate_told {f : Fate} {P : Prop} (told : f ≠ .underWay)
    (underWay : (Ledger.own usb { g with fate := update g.fate t f } t).fate = .underWay) : P := by
  rw [fate_own] at underWay
  exact absurd underWay told

theorem own_taken {g' : Ledger τ} (same : g.own usb t = l) (taken : g'.taken = g.taken) :
    (g'.own usb t).taken = l.taken := by
  rw [← same]
  simp [Ledger.own, taken]

theorem done_safe (calm : l.taken = [])
    (told : l.fate = .underWay → msg.text intToStr = none) :
    ((channelContract intToStr usb).Safe t (.print msg) (pure ())).on l := by
  refine Pool.Contract.on_ret calm fun g s inv same _ => ?_
  refine ⟨g, ⟨fun underWay => told (same ▸ underWay), rfl⟩, inv, ?_⟩
  exact (own_taken same rfl).trans calm

theorem note_look (intToStr : UInt32 → UInt8 → CString) (usb : τ) (g : Ledger τ) (m : Ram) (t : τ)
    (msg : Message) :
    ∃ fate : Fate, g.noteStep intToStr usb m t .read (.print msg) =
        { g with fate := update g.fate t fate } ∧
      ((m.app.glIsApplnActive && m.console.glFlagDebug) = false → fate = .disabled) := by
  show ∃ fate : Fate, (ite _ _ _ : Ledger τ) = _ ∧ _
  split
  next enabled =>
    refine ⟨g.fate t, by rw [update_eq_self], fun off => ?_⟩
    rw [enabled] at off
    cases off
  next => exact ⟨.disabled, rfl, fun _ => rfl⟩

theorem appendText_safe {buf : List UInt8} {len : UInt16} (calm : l.taken = [])
    (formatted : msg.formatted intToStr = some (buf, len)) :
    ((channelContract intToStr usb).Safe t (.print msg) (appendText buf len)).on l := by
  have length := take_formatted_length formatted
  have text : (msg.text intToStr).getD [] = buf.take len.toNat := by
    rw [Message.text, formatted]
    rfl
  refine Pool.Contract.on_lock calm rfl fun g s inv same _ intMask _ =>
    ⟨{ g with entry := s.mem.console }, ⟨trivial, rfl⟩, ?_⟩
  obtain ⟨fate, looked, _⟩ :=
    note_look intToStr usb { g with entry := s.mem.console } s.mem t msg
  refine Pool.Contract.off_read inv.short ⟨trivial, looked⟩ ?_
  have kept : s.mem.usb.glEp0Buffer = g.ep0 := inv.ep0
  show ((channelContract intToStr usb).Safe t (.print msg) (ite _ _ _)).off _ _
  split
  next fits =>
    have fits : s.mem.console.glDebTxtLen.toNat + len.toNat < maxlenDUsb := fits
    have balanced := Ledger.Balanced.append inv length fits
    refine Pool.Contract.off_write inv.short (print_noted kept) ?_
    refine Pool.Contract.off_write inv.short (print_noted kept) ?_
    refine Pool.Contract.off_unlock balanced.short ⟨rfl, rfl⟩ fun _ _ => ?_
    have room : s.mem.console.glDebTxtLen.toNat + ((msg.text intToStr).getD []).length <
        maxlenDUsb := by
      rw [text, length]
      exact fits
    refine ⟨_, ⟨trivial, if_pos room⟩, ?_, ?_⟩
    · rw [text]
      exact ⟨balanced.size, balanced.short, balanced.content, balanced.ep0⟩
    · exact done_safe ((own_taken same rfl).trans calm) (fate_told (by decide))
  next full =>
    have full : ¬ s.mem.console.glDebTxtLen.toNat + len.toNat < maxlenDUsb := full
    refine Pool.Contract.off_unlock inv.short ⟨rfl, rfl⟩ fun _ _ => ?_
    have room : ¬ s.mem.console.glDebTxtLen.toNat + ((msg.text intToStr).getD []).length <
        maxlenDUsb := by
      rw [text, length]
      exact full
    refine ⟨_, ⟨trivial, if_neg room⟩, ?_, ?_⟩
    · exact ⟨inv.size, inv.short, inv.content, inv.ep0⟩
    · exact done_safe ((own_taken same rfl).trans calm) (fate_told (by decide))

theorem look_safe {k : Ram → Fw Unit} (calm : l.taken = [])
    (next : ∀ (m : Ram) (l : Own), l.taken = [] →
      ((m.app.glIsApplnActive && m.console.glFlagDebug) = false → l.fate = .disabled) →
        ((channelContract intToStr usb).Safe t (.print msg) (k m)).on l) :
    ((channelContract intToStr usb).Safe t (.print msg) (.read k)).on l := by
  refine Pool.Contract.on_read calm fun g s inv same _ => ?_
  obtain ⟨fate, looked, tells⟩ := note_look intToStr usb g s.mem t msg
  refine ⟨_, ⟨trivial, looked⟩, ⟨inv.size, inv.short, inv.content, inv.ep0⟩, ?_⟩
  exact next s.mem _ ((own_taken same rfl).trans calm) fun off =>
    (fate_own g t fate).trans (tells off)

/-- A thread that has found the channel disabled is done. -/
theorem disabled_safe (calm : l.taken = []) (disabled : l.fate = .disabled) :
    ((channelContract intToStr usb).Safe t (.print msg) (pure ())).on l := by
  refine done_safe calm fun underWay => ?_
  rw [disabled] at underWay
  cases underWay

theorem print_safe (calm : l.taken = []) :
    ((channelContract intToStr usb).Safe t (.print msg) (debugPrint2USBSteps intToStr msg)).on
      l := by
  refine look_safe calm fun m l calm off => ?_
  show ((channelContract intToStr usb).Safe t (.print msg) (ite _ _ _)).on _
  split
  next active =>
    refine look_safe calm fun m l calm off => ?_
    show ((channelContract intToStr usb).Safe t (.print msg) (ite _ _ _)).on _
    split
    next flag =>
      rcases formatted : msg.formatted intToStr with _ | ⟨buf, len⟩
      · have unformatted : msg.text intToStr = none := by
          rw [Message.text, formatted]
          rfl
        exact done_safe calm fun _ => unformatted
      · exact appendText_safe calm formatted
    next silent => exact disabled_safe calm (off (by simp [silent]))
  next inactive => exact disabled_safe calm (off (by simp [inactive]))

/-! The poll, in its USB thread. -/

variable {r : Setup}

theorem own_usb_taken (usb : τ) (g : Ledger τ) : (g.own usb usb).taken = g.taken := if_pos rfl

theorem own_usb_ep0 (g : Ledger τ) : (g.own usb usb).ep0 = g.ep0 := if_pos rfl

theorem taken_of_own (same : g.own usb usb = l) : g.taken = l.taken :=
  (own_usb_taken usb g).symm.trans (congrArg Own.taken same)

theorem ep0_of_own (same : g.own usb usb = l) : g.ep0 = l.ep0 :=
  (own_usb_ep0 g).symm.trans (congrArg Own.ep0 same)

theorem poll_read_noted (s : World) :
    (channelContract intToStr usb).Noted g s usb (.own (.poll r) .read) g :=
  ⟨trivial, if_pos rfl⟩

theorem poll_write_noted (s : World) (f : Ram → Ram) :
    (channelContract intToStr usb).Noted g s usb (.own (.poll r) (.write f))
      { g with ep0 := (f s.mem).usb.glEp0Buffer } :=
  ⟨trivial, (if_pos rfl).trans (if_pos rfl)⟩

/-- The console character does not touch the channel. -/
theorem consoleInput_uses (wValue : UInt16) :
    (consoleInput wValue).Uses (Aside False) fun c => ∃ message, c = .queueSend message := by
  have aside {f : Ram → Ram} (text : ∀ m, SameText m (f m))
      (ep0 : ∀ m, (f m).usb.glEp0Buffer = m.usb.glEp0Buffer) : Aside False f := ⟨text, .inr ep0⟩
  have same (m : Ram) : SameText m m := ⟨rfl, rfl⟩
  unfold consoleInput consoleAccumulateChar
  refine (Prog.uses_ite _ _ _).mpr ⟨fun _ => (Prog.uses_ite _ _ _).mpr ⟨fun _ => ?_, fun _ => ?_⟩,
    fun _ => trivial⟩
  · exact ⟨aside (fun _ => ⟨rfl, rfl⟩) (fun _ => rfl), fun m => ⟨⟨_, rfl⟩, fun _ => trivial⟩⟩
  · refine fun m => (Prog.uses_ite _ _ _).mpr ⟨fun _ => ?_, fun _ => trivial⟩
    exact ⟨aside (fun _ => ⟨rfl, rfl⟩) (fun _ => rfl), aside (fun _ => ⟨rfl, rfl⟩) (fun _ => rfl),
      trivial⟩

omit [DecidableEq τ] in
theorem Ledger.Balanced.aside (balanced : g.Balanced m) {f : Ram → Ram}
    (same : SameText m (f m)) : Ledger.Balanced { g with ep0 := (f m).usb.glEp0Buffer } (f m) := by
  refine ⟨?_, ?_, ?_, rfl⟩
  · rw [same.text]
    exact balanced.size
  · rw [same.len]
    exact balanced.short
  · rw [same.text, same.len]
    exact balanced.content

theorem takeText_safe {k : UInt16 → Fw Unit} (calm : l.taken = [])
    (rest : ∀ (len : UInt16) (l : Own), l.taken.length = len.toNat → l.taken <+: l.ep0 →
      len.toNat < cyfxSdrappMaxEp0len →
        ((channelContract intToStr usb).Safe usb (.poll r) (k len)).on l) :
    ((channelContract intToStr usb).Safe usb (.poll r) (takeText >>= k)).on l := by
  refine Pool.Contract.on_lock trivial rfl fun g s inv same _ intMask _ =>
    ⟨{ g with entry := s.mem.console }, ⟨trivial, if_pos rfl⟩, ?_⟩
  refine Pool.Contract.off_read inv.short (poll_read_noted _) ?_
  refine Pool.Contract.off_read inv.short (poll_read_noted _) ?_
  refine Pool.Contract.off_write inv.short (poll_write_noted _ _) ?_
  refine Pool.Contract.off_read inv.short (poll_read_noted _) ?_
  have idle : g.taken = [] := (own_usb_taken usb g).symm.trans ((own_taken same rfl).trans calm)
  have length := taken_length inv.size
  have moved := slid_length inv
  have front (len : UInt16) (same : len = infoLen s.mem.console.glDebTxtLen) (l : Own)
      (taken : l.taken = s.mem.console.glBufDebug.take len.toNat)
      (ep0 : l.ep0 = memcpyAt s.mem.usb.glEp0Buffer 0 (s.mem.console.glBufDebug.take len.toNat)) :
      ((channelContract intToStr usb).Safe usb (.poll r) (k len)).on l := by
    subst same
    refine rest _ l (taken ▸ length) ?_ (infoLen_lt _)
    rw [taken, ep0]
    exact prefix_memcpyAt List.nil_prefix _
  show ((channelContract intToStr usb).Safe usb (.poll r) (@ite (Fw UInt16) _ _ _ _ >>= k)).off _ _
  rw [Prog.ite_bind]
  split
  next remains =>
    refine Pool.Contract.off_write inv.short (poll_write_noted _ _) ?_
    refine Pool.Contract.off_write inv.short (poll_write_noted _ _) ?_
    have room : 0 + ((s.mem.console.glBufDebug.drop
        (infoLen s.mem.console.glDebTxtLen).toNat).take (s.mem.console.glDebTxtLen -
          infoLen s.mem.console.glDebTxtLen).toNat).length ≤ s.mem.console.glBufDebug.length := by
      rw [Nat.zero_add, List.length_take, List.length_drop]
      omega
    have slid := take_append_memcpyAt s.mem.console.glBufDebug
      ((s.mem.console.glBufDebug.drop (infoLen s.mem.console.glDebTxtLen).toNat).take
        (s.mem.console.glDebTxtLen - infoLen s.mem.console.glDebTxtLen).toNat) (Nat.zero_le _)
    rw [moved, Nat.zero_add] at slid
    have balanced := Ledger.Balanced.take inv idle
      (memcpyAt s.mem.usb.glEp0Buffer 0
        (s.mem.console.glBufDebug.take (infoLen s.mem.console.glDebTxtLen).toNat)) slid
      ((memcpyAt_length room).trans inv.size)
    refine Pool.Contract.off_unlock balanced.short ⟨rfl, rfl⟩ fun _ _ => ?_
    refine ⟨_, ⟨trivial, if_pos rfl⟩, ?_, front _ rfl _ (if_pos rfl) (if_pos rfl)⟩
    exact ⟨balanced.size, balanced.short, balanced.content, balanced.ep0⟩
  next empty =>
    have none : (s.mem.console.glDebTxtLen - infoLen s.mem.console.glDebTxtLen).toNat = 0 :=
      Nat.eq_zero_of_not_pos fun some => empty (UInt16.lt_iff_toNat_lt.mpr some)
    have slid : s.mem.console.glBufDebug.take
        (s.mem.console.glDebTxtLen - infoLen s.mem.console.glDebTxtLen).toNat =
          (s.mem.console.glBufDebug.drop (infoLen s.mem.console.glDebTxtLen).toNat).take
            (s.mem.console.glDebTxtLen - infoLen s.mem.console.glDebTxtLen).toNat := by
      rw [none, List.take_zero, List.take_zero]
    have balanced := Ledger.Balanced.take inv idle
      (memcpyAt s.mem.usb.glEp0Buffer 0
        (s.mem.console.glBufDebug.take (infoLen s.mem.console.glDebTxtLen).toNat)) slid inv.size
    refine Pool.Contract.off_write inv.short (poll_write_noted _ _) ?_
    refine Pool.Contract.off_unlock balanced.short ⟨rfl, rfl⟩ fun _ _ => ?_
    refine ⟨_, ⟨trivial, if_pos rfl⟩, ?_, front _ rfl _ (if_pos rfl) (if_pos rfl)⟩
    exact ⟨balanced.size, balanced.short, balanced.content, balanced.ep0⟩

theorem poll_done_safe (calm : l.taken = []) :
    ((channelContract intToStr usb).Safe usb (.poll r) (pure ())).on l :=
  Pool.Contract.on_ret trivial fun g _ inv same _ =>
    ⟨g, ⟨trivial, rfl⟩, inv, (own_taken same rfl).trans calm⟩

theorem countVendorRqt_safe (calm : l.taken = []) :
    ((channelContract intToStr usb).Safe usb (.poll r) countVendorRqt).on l := by
  refine Pool.Contract.on_write trivial fun g s inv same _ => ?_
  refine ⟨_, poll_write_noted _ _, ⟨inv.size, inv.short, inv.content, rfl⟩, ?_⟩
  exact poll_done_safe ((own_taken same rfl).trans calm)

theorem reply_safe {bytes : List UInt8} (text : bytes = l.taken ++ [0])
    (short : l.taken.length < cyfxSdrappMaxEp0len) :
    ((channelContract intToStr usb).Safe usb (.poll r)
      (.call (.usbSendEP0Data bytes) fun _ => countVendorRqt)).on l := by
  refine Pool.Contract.on_call trivial rfl fun g s inv same _ status _ => ?_
  have taken : Ledger.taken g = l.taken := taken_of_own same
  rw [← taken] at text short
  refine ⟨_, ⟨⟨text, short⟩, if_pos rfl⟩, ⟨inv.size, inv.short, ?_, inv.ep0⟩, ?_⟩
  · have content := inv.content
    show g.handed ++ bytes.dropLast ++ [] ++ _ = _
    rw [text, List.dropLast_concat, List.append_nil]
    exact content
  · exact countVendorRqt_safe (own_usb_taken usb _)

theorem handOver_safe {len : UInt16} (length : l.taken.length = len.toNat)
    (front : l.taken <+: l.ep0) (short : len.toNat < cyfxSdrappMaxEp0len) :
    ((channelContract intToStr usb).Safe usb (.poll r) (do
      ep0Put len.toNat [0]
      sendEP0Data (len + 1)
      countVendorRqt)).on l := by
  refine Pool.Contract.on_write trivial fun g s inv same _ => ?_
  refine ⟨_, poll_write_noted _ _, ⟨inv.size, inv.short, inv.content, rfl⟩, ?_⟩
  have before : s.mem.usb.glEp0Buffer = l.ep0 := inv.ep0.trans (ep0_of_own same)
  refine Pool.Contract.on_read trivial fun g' s' inv' same' _ => ⟨g', poll_read_noted _, inv', ?_⟩
  have taken : (Ledger.own usb g' usb).taken = l.taken :=
    (congrArg Own.taken same').trans (own_taken same rfl)
  have ep0 : s'.mem.usb.glEp0Buffer = memcpyAt l.ep0 l.taken.length [0] := by
    rw [← before, length]
    exact inv'.ep0.trans ((ep0_of_own same').trans (own_usb_ep0 _))
  have count : (len + 1).toNat = (l.taken ++ [0]).length := by
    have small : cyfxSdrappMaxEp0len < 2 ^ 16 := by decide
    rw [UInt16.toNat_add, List.length_append, length]
    exact Nat.mod_eq_of_lt (by show _ + 1 < _; omega)
  have sent : s'.mem.usb.glEp0Buffer.take (len + 1).toNat = l.taken ++ [0] := by
    rw [ep0, count]
    exact (List.prefix_iff_eq_take.mp (prefix_memcpyAt front [0])).symm
  exact reply_safe (taken ▸ sent) (taken ▸ length ▸ short)

theorem pollText_safe (calm : l.taken = []) :
    ((channelContract intToStr usb).Safe usb (.poll r) (pollText >>= fun _ => pure ())).on l := by
  refine Pool.Contract.on_read trivial fun g s inv same _ => ⟨g, poll_read_noted _, inv, ?_⟩
  have calm : (Ledger.own usb g usb).taken = [] := (own_taken same rfl).trans calm
  show ((channelContract intToStr usb).Safe usb (.poll r) (@ite (Fw Bool) _ _ _ _ >>= _)).on _
  rw [Prog.ite_bind]
  split
  next some =>
    rw [bind_assoc]
    exact takeText_safe calm fun len l length front short => handOver_safe length front short
  next none =>
    refine Pool.Contract.on_call trivial rfl fun g s inv same _ status _ => ?_
    exact ⟨g, ⟨trivial, if_pos rfl⟩, inv, poll_done_safe ((own_taken same rfl).trans calm)⟩

theorem poll_safe (calm : l.taken = []) :
    ((channelContract intToStr usb).Safe usb (.poll r) (readinfodebug r >>= fun _ => pure ())).on
      l := by
  rw [readinfodebug_eq, bind_assoc]
  refine Pool.Contract.safe_of_uses (K := channelContract intToStr usb) (t := usb) (j := .poll r)
    (L := fun l : Own => l.taken = []) (consoleInput_uses r.wValue) (fun _ _ => trivial) ?_ ?_ ?_
    (fun _ l calm => pollText_safe calm) l calm
  · exact fun g s inv own => (poll_read_noted s).apart rfl inv own
  · intro f aside g s inv own
    refine (poll_write_noted s f).apart rfl (inv.aside (aside.text s.mem)) ?_
    exact (own_taken rfl rfl).trans own
  · rintro c ⟨message, rfl⟩ status g s inv own _
    exact Pool.Contract.Noted.apart ⟨trivial, if_pos rfl⟩ rfl inv own

theorem memAfter_aside {c : Call} (aside : asideCall c) (r : c.Ans) : memAfter m c r = m := by
  cases c <;> first | rfl | cases aside

theorem asideCall_on {c : Call} (aside : asideCall c) (r : c.Ans) :
    (channelThreads intToStr usb).offAfter false (.call c r) = false := by
  cases c <;> first | rfl | cases aside

theorem other_safe {p : Fw Unit} (uses : p.Uses (Aside (t = usb)) asideCall)
    (calm : l.taken = []) :
    ((channelContract intToStr usb).Safe t (.other p) p).on l := by
  have safe := Pool.Contract.safe_of_uses (K := channelContract intToStr usb) (t := t)
    (j := .other p) (L := fun l : Own => l.taken = []) (k := fun _ => pure ()) uses
    (fun _ calm => calm) ?_ ?_ ?_ ?_ l calm
  · rw [show (p >>= fun _ => pure ()) = p from bind_pure p] at safe
    exact safe
  · exact fun g s inv own => Pool.Contract.Noted.apart ⟨trivial, rfl⟩ rfl inv own
  · intro f aside g s inv own
    by_cases mine : t = usb
    · refine Pool.Contract.Noted.apart ⟨trivial, if_pos mine⟩ rfl (inv.aside (aside.text s.mem)) ?_
      exact (own_taken rfl rfl).trans own
    · have kept := aside.ep0.resolve_left mine s.mem
      have balanced := inv.aside (aside.text s.mem)
      refine Pool.Contract.Noted.apart ⟨trivial, if_neg mine⟩ rfl ?_ own
      exact ⟨balanced.size, balanced.short, balanced.content, kept.trans inv.ep0⟩
  · intro c aside r g s inv own _
    refine Pool.Contract.Noted.apart ⟨trivial, rfl⟩ (asideCall_on aside r) ?_ own
    show g.Balanced (memAfter s.mem c r)
    rw [memAfter_aside aside]
    exact inv
  · intro _ l calm
    refine Pool.Contract.on_ret calm fun g s inv same _ => ⟨g, ⟨trivial, rfl⟩, inv, ?_⟩
    exact (own_taken same rfl).trans calm

theorem channel_met : (channelContract intToStr usb).Met := by
  intro t j offered g s inv calm
  cases j with
  | print msg => exact ⟨trivial, ⟨inv.size, inv.short, inv.content, inv.ep0⟩, print_safe calm⟩
  | poll r =>
      have same : usb = t := Eq.symm offered
      subst same
      exact ⟨trivial, inv, poll_safe calm⟩
  | other p => exact ⟨trivial, inv, other_safe offered calm⟩

end Jobs

/-! ## Every run -/

section Run

variable {τ : Type} [DecidableEq τ] (intToStr : UInt32 → UInt8 → CString) (usb : τ)

def channelIdle (s₀ : World) : Pool.Config (channelThreads intToStr usb) :=
  ⟨s₀, fun _ => none, none⟩

def Ledger.start (m : Ram) : Ledger τ where
  entry := m.console
  accepted := []
  taken := []
  handed := []
  ep0 := m.usb.glEp0Buffer
  fate _ := .underWay

def ledgerOf (s₀ : World) (turns : List (World × τ × (channelThreads intToStr usb).Deed)) :
    Ledger τ :=
  (channelContract intToStr usb).noted (Ledger.start s₀.mem) turns

def ConsoleRam.pending (c : ConsoleRam) : List UInt8 := c.glBufDebug.take c.glDebTxtLen.toNat

/-- What was accepted has been handed to the host, is on its way there in the poll that took it
or lies in the channel, in the order of acceptance; what was not accepted found the channel
disabled or full or could not be formatted. -/
theorem debugChannel_fifo {s₀ : World} (size : s₀.mem.console.glBufDebug.length = maxlenDUsb)
    (empty : s₀.mem.console.glDebTxtLen = 0)
    {turns : List (World × τ × (channelThreads intToStr usb).Deed)}
    {c : Pool.Config (channelThreads intToStr usb)}
    (run : Pool.Run (channelIdle intToStr usb s₀) turns c) :
    (c.owner = none →
      (ledgerOf intToStr usb s₀ turns).handed ++ (ledgerOf intToStr usb s₀ turns).taken ++
          c.state.mem.console.pending =
        (ledgerOf intToStr usb s₀ turns).accepted.flatten) ∧
      (c.owner ≠ some usb → (∀ s p, c.todo usb ≠ some (.poll s, p)) →
        (ledgerOf intToStr usb s₀ turns).taken = []) ∧
      c.state.mem.console.glDebTxtLen.toNat ≤ maxlenDUsb - 1 ∧
      ∀ pre s t d post, turns = pre ++ (s, t, d) :: post →
        (ledgerOf intToStr usb s₀ pre).ensures intToStr usb t d := by
  have balanced : (Ledger.start (τ := τ) s₀.mem).Balanced s₀.mem := by
    refine ⟨size, ?_, ?_, rfl⟩
    · rw [empty]
      decide
    · rw [empty]
      rfl
  have calm (t : τ) : ((Ledger.start s₀.mem).own usb t).taken = [] := ite_self _
  have start := Pool.Contract.sound_idle (K := channelContract intToStr usb) balanced calm
  obtain ⟨sound, ensures⟩ := channel_met.run run start
  refine ⟨fun free => (sound.shared free).content, fun apart outside => ?_, ?_, ensures⟩
  · have during := sound.during usb apart
    rw [← own_usb_taken usb (ledgerOf intToStr usb s₀ turns)]
    rcases works : c.todo usb with _ | ⟨j, p⟩
    · rw [works] at during
      exact during
    · rw [works] at during
      cases j with
      | print m => exact during
      | poll s => exact absurd works (outside s p)
      | other q => exact during
  · have held : c.state.mem.console.glDebTxtLen.toNat < maxlenDUsb := sound.held
    omega

end Run

/-! ## A poll in progress -/

def debugging : World where
  mem :=
    { Ram.init with
      app := { Ram.init.app with glIsApplnActive := true }
      console := { Ram.init.console with glFlagDebug := true } }
  env := Hw.reset

def bench : Threads.Responder sdk where
  answer _ c := Bench.idle.answer 0 c
  allowed s c := Bench.idle.allowed s 0 c

def sample : Message where
  msg := ⟨['n'.toUInt8, '='.toUInt8, '%'.toUInt8, 'd'.toUInt8], by decide, by decide⟩
  argp := [.num 42]
  buf := Vector.replicate maxlenDUsb 0

def pollSetup : Setup where
  bReqType := 0xC0
  bRequest := FX3Command.readinfodebug.code
  wValue := 0
  wIndex := 0
  wLength := 64

/-- The main thread prints, then the USB thread polls; the threads are told apart by whether
they are the USB thread. -/
def printed (steps : Nat) : Pool.Replay (channelThreads spellNumber true) :=
  Pool.replay (channelIdle spellNumber true debugging)
    [.start false (.print sample) trivial, .own false bench 10, .done false,
      .start true (.poll pollSetup) rfl, .own true bench steps]

theorem printed_run (steps : Nat) :
    Pool.Run (channelIdle spellNumber true debugging) (printed steps).turns
      (printed steps).config :=
  Pool.replay_run _ _

/-- The printed text has reached the host. -/
theorem debugChannel_fifo_printed :
    (ledgerOf spellNumber true debugging (printed 20).turns).handed ++
          (ledgerOf spellNumber true debugging (printed 20).turns).taken ++
          (printed 20).config.state.mem.console.pending =
        (ledgerOf spellNumber true debugging (printed 20).turns).accepted.flatten ∧
      (ledgerOf spellNumber true debugging (printed 20).turns).handed =
        ['n', '=', '4', '2'].map Char.toUInt8 :=
  ⟨(debugChannel_fifo spellNumber true List.length_replicate rfl (printed_run 20)).1
    (by decide +kernel), by decide +kernel⟩

/-- Between its section and its reply the text of a poll is neither in the channel nor with the
host. -/
theorem polled_text_between : ∃ turns c,
    Pool.Run (channelIdle spellNumber true debugging) turns c ∧ c.owner = none ∧
      (ledgerOf spellNumber true debugging turns).handed ++ c.state.mem.console.pending ≠
        (ledgerOf spellNumber true debugging turns).accepted.flatten :=
  ⟨(printed 8).turns, (printed 8).config, printed_run 8, by decide +kernel, by decide +kernel⟩

end Rx888
