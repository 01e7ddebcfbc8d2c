import Rx888.Console.EventQueue
import Rx888.Console.Poll
import Rx888.Device.Bench

/-! # The delivery of events

Each step keeps the log's accounts, and a dispatch delivers its word exactly if `glQevent` is
undisturbed.
-/

namespace Rx888

open CallProgram Function

attribute [local simp] Call.kind

/-! ## What the steps keep -/

section Steps

variable {capacity : Nat} {g g' : EventLog} {s : QueuedWorld} {m : Ram} {t : EventThread}
variable {j : EventJob}

theorem assigns_of_keeps {f : Ram → Ram} (keeps : keepsQevent f) (m : Ram) :
    EventLog.assigns f m = false := by
  simp [EventLog.assigns, keeps { m with glQevent := 0 }]

/-- What is dispatched is the word received if `glQevent` is undisturbed, and only then. -/
theorem dispatched_iff (accounts : g.Accounts s) {word : UInt32} (pending : g.pending = some word) :
    s.mem.glQevent = word ↔ g.Undisturbed capacity .main (.own j .read) := by
  have value := accounts.pending word pending
  constructor
  · intro same _ word' pending' assigned
    rw [pending] at pending'
    cases pending'
    rw [if_pos assigned] at value
    exact same.symm.trans value
  · intro undisturbed
    by_cases assigned : g.assigned = true
    · rw [if_pos assigned] at value
      exact value.trans (undisturbed rfl word pending assigned).symm
    · rw [if_neg assigned] at value
      exact value

/-- The last word is dispatched as it is, or not at all. -/
theorem delivered_dispatch {word q : UInt32} (pending : g.pending = some word)
    (last : ∃ before, g.received = before ++ [word]) :
    EventLog.Delivered { g with dispatched := g.dispatched ++ [q], pending := none } ↔
      g.Delivered ∧ q = word := by
  obtain ⟨before, received⟩ := last
  simp only [EventLog.Delivered, pending, received, Option.toList_none, Option.toList_some,
    List.append_nil]
  constructor
  · intro same
    obtain ⟨front, back⟩ := List.append_inj' same rfl
    have back : q = word := by simpa using back
    exact ⟨by rw [front], back⟩
  · rintro ⟨same, rfl⟩
    exact same

theorem delivered_receive {word : UInt32} (none : g.pending = none) :
    EventLog.Delivered
        { g with received := g.received ++ [word], pending := some word, assigned := false } ↔
      g.Delivered := by
  simp [EventLog.Delivered, none]

theorem memReceived_beside {c : Call} (beside : c.kind ≠ .queue) (r : c.Ans) :
    (memReceived m c r).glQevent = m.glQevent := by
  have same : memReceived m c r = memAfter m c r := by
    cases c with
    | queueReceive => exact absurd rfl beside
    | _ => rfl
  rw [same]
  exact (memAfter_unchanged m c r).qevent (by simp)

theorem queueAfter_beside {c : Call} (beside : c.kind ≠ .queue) (queue : List UInt32)
    (r : c.Ans) : queueAfter queue c r = queue := by
  cases c with
  | queueReceive => exact absurd rfl beside
  | queueSend message => exact absurd rfl beside
  | _ => rfl

/-- A call beside the queue is not noted. -/
theorem noteStep_beside {c : Call} (beside : c.kind ≠ .queue) (r : c.Ans) :
    g.noteStep m t (.call c r) = g := by
  cases c with
  | queueReceive => exact absurd rfl beside
  | queueSend message => exact absurd rfl beside
  | _ => rfl

theorem EventLog.Accounts.same (accounts : g.Accounts s) {s' : QueuedWorld}
    (qevent : s'.mem.glQevent = s.mem.glQevent) (queue : s'.env.queue = s.env.queue) :
    g.Accounts s' := by
  constructor
  · rw [queue]
    exact accounts.queue
  · exact accounts.last
  · rw [qevent]
    exact accounts.pending
  · rw [qevent]
    exact accounts.posting

theorem EventLog.Accounts.assign (accounts : g.Accounts s) {s' : QueuedWorld}
    (qevent : s'.mem.glQevent = carriageReturn) (queue : s'.env.queue = s.env.queue) :
    EventLog.Accounts { g with assigned := true, posting := update g.posting t true } s' := by
  constructor
  · rw [queue]
    exact accounts.queue
  · exact accounts.last
  · exact fun _ _ => qevent
  · exact fun _ _ => qevent

theorem EventLog.Accounts.send (accounts : g.Accounts s) (message : UInt32)
    (status : ReturnStatus) :
    EventLog.Accounts (g.noteStep m t (.call (.queueSend message) status))
      ((queuedSdk capacity).exec s (.queueSend message) status) := by
  constructor
  · show g.received ++ (ite _ _ _) = ite _ _ _
    by_cases ok : status = cyU3PSuccess
    · rw [if_pos ok, if_pos ok, ← List.append_assoc, accounts.queue]
    · rw [if_neg ok, if_neg ok, accounts.queue]
  · exact accounts.last
  · exact accounts.pending
  · intro t' posting
    by_cases same : t' = t
    · subst same
      simp [EventLog.noteStep] at posting
    · have posting : update g.posting t false t' = true := posting
      rw [update_of_ne same] at posting
      exact accounts.posting t' posting

theorem EventLog.Accounts.receive (accounts : g.Accounts s) {message : UInt32}
    (head : s.env.queue.head? = some message) (idle : ∀ t, g.posting t = false) :
    EventLog.Accounts
      { g with received := g.received ++ [message], pending := some message, assigned := false }
      ((queuedSdk capacity).exec s .queueReceive (.ok message)) := by
  obtain ⟨rest, queue⟩ := List.head?_eq_some_iff.mp head
  constructor
  · show g.received ++ [message] ++ s.env.queue.tail = g.accepted
    rw [← accounts.queue, queue]
    simp
  · intro word same
    have same : message = word := by simpa using same
    exact ⟨g.received, by rw [same]⟩
  · intro word same
    have same : message = word := by simpa using same
    exact same
  · intro t posting
    rw [idle t] at posting
    cases posting

theorem EventLog.Accounts.dispatch (accounts : g.Accounts s) (q : UInt32) :
    EventLog.Accounts { g with dispatched := g.dispatched ++ [q], pending := none } s :=
  ⟨accounts.queue, by simp, by simp, accounts.posting⟩

end Steps

/-! ## The jobs -/

section Jobs

variable {capacity : Nat} {g g' : EventLog} {s : QueuedWorld} {t : EventThread} {j : EventJob}
variable {l : EventOwn}

theorem own_pending (calm : (g.own t).pending = none) (main : t = .main) : g.pending = none := by
  rw [EventLog.own, if_pos main] at calm
  exact calm

theorem noted_plain {a : Access Ram Call.Ans} (noted : g.noteStep s.mem t a = g')
    (sends : EventLog.sends capacity (.own j a))
    (undisturbed : g.Undisturbed capacity t (.own j a)) (delivered : g'.Delivered ↔ g.Delivered) :
    (eventContract capacity).Noted g s t (.own j a) g' := by
  subst noted
  refine ⟨⟨sends, ?_⟩, rfl⟩
  exact delivered.trans ⟨fun right => ⟨right, undisturbed⟩, fun right => right.1⟩

theorem noted_read (calm : (g.own t).pending = none) :
    (eventContract capacity).Noted g s t (.own j .read) g := by
  have silent : ¬ (t = .main ∧ g.pending.isSome) := by
    rintro ⟨main, some⟩
    rw [own_pending calm main] at some
    cases some
  refine noted_plain (if_neg silent) (by cases j <;> trivial) ?_ Iff.rfl
  intro main word pending
  rw [own_pending calm main] at pending
  cases pending

theorem noted_keeps {f : Ram → Ram} (keeps : keepsQevent f) :
    (eventContract capacity).Noted g s t (.own j (.write f)) g := by
  have silent : ¬ EventLog.assigns f s.mem = true := by
    rw [assigns_of_keeps keeps]
    decide
  exact noted_plain (if_neg silent) (by cases j <;> trivial) trivial Iff.rfl

theorem noted_assigns {f : Ram → Ram} (assigns : EventLog.assigns f s.mem = true) :
    (eventContract capacity).Noted g s t (.own j (.write f))
      { g with assigned := true, posting := update g.posting t true } := by
  refine noted_plain ?_ (by cases j <;> trivial) trivial Iff.rfl
  simp [EventLog.noteStep, assigns]

theorem noted_beside {c : Call} (beside : c.kind ≠ .queue) (r : c.Ans) :
    (eventContract capacity).Noted g s t (.own j (.call c r)) g := by
  refine noted_plain (noteStep_beside beside r) ?_ trivial Iff.rfl
  cases c with
  | queueSend message => exact absurd rfl beside
  | _ => cases j <;> trivial

theorem beside_safe {α : Type} {p : Fw α} {k : α → Fw Unit} (beside : Beside p)
    (rest : ∀ a l, EventOwn.Calm l → ((eventContract capacity).Safe t j (k a)).on l)
    (calm : l.Calm) : ((eventContract capacity).Safe t j (p >>= k)).on l := by
  refine Pool.Contract.safe_of_uses (K := eventContract capacity) (t := t) (j := j)
    (L := EventOwn.Calm) beside (fun _ _ => trivial) ?_ ?_ ?_ rest l calm
  · exact fun g s inv own => (noted_read own.pending).apart rfl inv own
  · intro f keeps g s inv own
    exact (noted_keeps keeps).apart rfl (inv.same (keeps s.mem) rfl) own
  · intro c beside r g s inv own _
    refine (noted_beside beside r).apart rfl ?_ own
    exact inv.same (memReceived_beside beside r) (queueAfter_beside beside _ r)

end Jobs

/-! ## Code beside the queue -/

section Beside

variable {α : Type} {p : Fw α}

/-- Everything but `glQevent`. -/
abbrev besideParts : List Part :=
  [.ep0, .session, .health, .hooks, .pib, .app, .console, .usb, .buffers, .counter]

theorem beside_of (kinds : List Kind) (confined : Confined besideParts p) (makes : Makes kinds p)
    (none : Kind.queue ∉ kinds) : Beside p := by
  refine Prog.Uses.mono (confined.and makes) (fun f h m => (h.1 m).qevent (by simp)) ?_
  exact fun c h same => none (same ▸ h.2)

theorem ram_beside : Beside ram := fun _ => trivial

theorem call_beside {c : Call} (apart : c.kind ≠ .queue) : Beside (call c) :=
  ⟨apart, fun _ => trivial⟩

theorem void_beside {c : Call} (apart : c.kind ≠ .queue) : Beside (void c) :=
  ⟨apart, fun _ => trivial⟩

theorem debugPrint_beside (fmt : String) (args : List DebugArg) : Beside (debugPrint fmt args) :=
  beside_of [.text] (by simp) (by simp) (by decide)

theorem consoleAccumulateChar_beside (ch : UInt8) : Beside (consoleAccumulateChar ch) :=
  beside_of [] (by simp) (by simp) (by decide)

theorem pollText_beside : Beside pollText := by
  refine beside_of [.interrupts, .dataIn, .stall] ?_ ?_ (by decide)
  · simp [pollText, takeText, call]
  · simp [pollText, takeText, call]

theorem startApplication_beside : Beside startApplication := by
  refine beside_of startAppKinds ?_ startApplication_makes (by decide)
  simp [startApplication, startGPIF, call]

theorem stopApplication_beside : Beside stopApplication := by
  refine beside_of stopAppKinds ?_ stopApplication_makes (by decide)
  simp [stopApplication, rx888r2AdcStandby, gpioSetValue, call]

/-- What a USB event causes once it has been posted. -/
def usbEventRest (evtype : UInt8) (evdata : UInt16) : Fw Unit := do
  if evtype = cyU3PUsbEventSetconf then
    if (← ram).app.glIsApplnActive then
      stopApplication
    startApplication
  else if evtype = cyU3PUsbEventReset ∨ evtype = cyU3PUsbEventDisconnect then
    if (← ram).app.glIsApplnActive then
      stopApplication
      void .usbLPMEnable
  else if evtype = cyU3PUsbEventEpUnderrun then
    countUp 2
    debugPrint "\r\nEP Underrun on %d" [.num evdata.toUInt32]

theorem usbEventCallback_eq (evtype : UInt8) (evdata : UInt16) :
    usbEventCallback evtype evdata = (do
      void (.queueSend evtype.toUInt32)
      usbEventRest evtype evdata) := rfl

theorem usbEventRest_beside (evtype : UInt8) (evdata : UInt16) :
    Beside (usbEventRest evtype evdata) := by
  have start : Beside startApplication := startApplication_beside
  have stop : Beside stopApplication := stopApplication_beside
  have leave : Beside (do
      stopApplication
      void .usbLPMEnable) :=
    (Prog.uses_bind _ _).mpr ⟨stop, fun _ _ => ⟨by decide, fun _ => trivial⟩⟩
  have underrun : Beside (do
      countUp 2
      debugPrint "\r\nEP Underrun on %d" [.num evdata.toUInt32]) :=
    beside_of [.text] (by simp) (by simp) (by decide)
  refine (Prog.uses_ite _ _ _).mpr ⟨fun _ m => ?_, fun _ => ?_⟩
  · refine (Prog.uses_ite _ _ _).mpr ⟨fun _ => ?_, fun _ => start⟩
    exact (Prog.uses_bind _ _).mpr ⟨stop, fun _ _ => start⟩
  · refine (Prog.uses_ite _ _ _).mpr ⟨fun _ m => ?_, fun _ => ?_⟩
    · exact (Prog.uses_ite _ _ _).mpr ⟨fun _ => leave, fun _ => trivial⟩
    · exact (Prog.uses_ite _ _ _).mpr ⟨fun _ => underrun, fun _ => trivial⟩

/-- The calls the commands of the console make. -/
abbrev consoleKinds : List Kind := [.threads, .smState] ++ checkKinds

theorem printFound_confined (names : List String) : Confined besideParts (printFound names) := by
  induction names with
  | nil => exact within_pure ()
  | cons name rest ih => simp [printFound, ih]

theorem printFound_makes {kinds : List Kind} (names : List String) (text : .text ∈ kinds) :
    Makes kinds (printFound names) := by
  induction names with
  | nil => exact makes_pure ()
  | cons name rest ih => simp [printFound, ih, text]

theorem parseCommand_beside : Beside parseCommand := by
  refine beside_of consoleKinds ?_ ?_ (by decide)
  · simp [parseCommand, isCommand, helpCommand, threadsCommand, stackCommand, resetCommand,
      gpifCommand, echoCommand, call, printFound_confined]
  · simp [parseCommand, isCommand, helpCommand, threadsCommand, stackCommand, resetCommand,
      gpifCommand, echoCommand, call, printFound_makes]

theorem msgParsing_beside (qevent : UInt32) : Beside (msgParsing qevent) := by
  have prints := debugPrint_beside
  unfold msgParsing
  refine (Prog.uses_ite _ _ _).mpr ⟨fun _ => prints _ _, fun _ => ?_⟩
  refine (Prog.uses_ite _ _ _).mpr ⟨fun _ => prints _ _, fun _ => ?_⟩
  refine (Prog.uses_ite _ _ _).mpr ⟨fun _ => prints _ _, fun _ => ?_⟩
  exact (Prog.uses_ite _ _ _).mpr ⟨fun _ => parseCommand_beside, fun _ => trivial⟩

end Beside

/-! ## The callbacks -/

section Callbacks

variable {capacity : Nat} {t : EventThread} {j : EventJob} {l : EventOwn}

theorem ended_safe (calm : l.Calm) : ((eventContract capacity).Safe t j (pure ())).on l := by
  refine Pool.Contract.on_ret trivial fun g s inv same _ => ⟨g, ⟨⟨trivial, ?_⟩, rfl⟩, inv, ?_⟩
  · exact ⟨fun right => ⟨right, trivial⟩, fun right => right.1⟩
  · exact same.symm ▸ calm

theorem beside_ends {p : Fw Unit} (beside : Beside p) (calm : l.Calm) :
    ((eventContract capacity).Safe t j p).on l := by
  have safe : ((eventContract capacity).Safe t j (p >>= fun _ => pure ())).on l :=
    beside_safe beside (fun _ _ calm => ended_safe calm) calm
  rw [show (p >>= fun _ => pure ()) = p from bind_pure p] at safe
  exact safe

theorem send_safe {message : UInt32} {k : ReturnStatus → Fw Unit}
    (pending : l.pending = none) (sends : ∀ status : ReturnStatus,
      EventLog.sends capacity (.own j (.call (.queueSend message) status)))
    (rest : ∀ status l, EventOwn.Calm l → ((eventContract capacity).Safe t j (k status)).on l) :
    ((eventContract capacity).Safe t j (.call (.queueSend message) k)).on l := by
  refine Pool.Contract.on_call trivial rfl fun g s inv same _ status _ => ?_
  refine ⟨_, noted_plain rfl (sends status) trivial Iff.rfl, inv.send message status, ?_⟩
  exact rest status _ ⟨update_self .., (congrArg EventOwn.pending same).trans pending⟩

theorem post_safe {k : Unit → Fw Unit} (calm : l.Calm)
    (rest : ∀ l, EventOwn.Calm l → ((eventContract capacity).Safe t j (k ())).on l) :
    ((eventContract capacity).Safe t j ((do
      setQevent (userCommandAvailable <<< 24)
      void (.queueSend (← ram).glQevent)) >>= k)).on l := by
  refine Pool.Contract.on_write trivial fun g s inv same _ => ?_
  refine ⟨_, noted_assigns rfl, inv.assign rfl rfl, ?_⟩
  have pending : (g.own t).pending = none := (congrArg EventOwn.pending same).trans calm.pending
  refine Pool.Contract.on_read trivial fun g' s' inv' same' _ => ?_
  have posting : (EventLog.own g' t).posting = true :=
    (congrArg EventOwn.posting same').trans (update_self ..)
  have pending' : (EventLog.own g' t).pending = none :=
    (congrArg EventOwn.pending same').trans pending
  have message : s'.mem.glQevent = carriageReturn := inv'.posting t posting
  refine ⟨g', noted_read pending', inv', ?_⟩
  refine send_safe (k := fun _ => k ()) pending' (fun status => ?_) fun status l calm => rest l calm
  cases j <;> first | exact message | trivial

theorem usbEvent_safe (evtype : UInt8) (evdata : UInt16) (calm : l.Calm) :
    ((eventContract capacity).Safe t (.usbEvent evtype evdata)
      (usbEventCallback evtype evdata)).on l := by
  rw [usbEventCallback_eq]
  exact send_safe calm.pending (fun _ => trivial) fun _ l calm =>
    beside_ends (usbEventRest_beside evtype evdata) calm

theorem pibError_safe (isError : Bool) (cbArg : UInt16) (calm : l.Calm) :
    ((eventContract capacity).Safe t (.pibError isError cbArg)
      (pibErrorCallback isError cbArg)).on l := by
  have counted : Beside (countUp 0) := beside_of [] (by simp) (by simp) (by decide)
  have noticed : Beside (modifyPib fun s => { s with glLastPibArg := cbArg }) :=
    beside_of [] (by simp) (by simp) (by decide)
  have notified : Beside (modifyPib fun s => { s with glPibNotified := true }) :=
    beside_of [] (by simp) (by simp) (by decide)
  unfold pibErrorCallback
  split
  next =>
    refine beside_safe counted (fun _ l calm => ?_) calm
    refine beside_safe noticed (fun _ l calm => ?_) calm
    refine beside_safe ram_beside (fun m l calm => ?_) calm
    split
    next =>
      refine send_safe calm.pending (fun _ => trivial) fun _ l calm => ?_
      exact beside_ends notified calm
    next => exact ended_safe calm
  next => exact ended_safe calm

theorem poll_posts (r : Setup) (calm : l.Calm) :
    ((eventContract capacity).Safe t (.poll r) (readinfodebug r >>= fun _ => pure ())).on l := by
  have rest (l : EventOwn) (calm : l.Calm) :
      ((eventContract capacity).Safe t (.poll r) (pollText >>= fun _ => pure ())).on l :=
    beside_safe pollText_beside (fun _ _ calm => ended_safe calm) calm
  rw [readinfodebug_eq, bind_assoc]
  unfold consoleInput
  split
  next =>
    split
    next => exact post_safe calm rest
    next => exact beside_safe (consoleAccumulateChar_beside _) (fun _ => rest) calm
  next => exact rest l calm

theorem uart_safe (isRxDone : Bool) (calm : l.Calm) :
    ((eventContract capacity).Safe t (.uart isRxDone) (uartCallback isRxDone)).on l := by
  have last (l : EventOwn) (calm : l.Calm) :
      ((eventContract capacity).Safe t (.uart isRxDone) (do
        void .consoleChannelDiscardBuffer
        void (.uartRxSetBlockXfer 1))).on l :=
    beside_ends (beside_of [.setup] (by simp) (by simp) (by decide)) calm
  unfold uartCallback
  split
  next =>
    refine beside_safe (void_beside (by decide)) (fun _ l calm => ?_) calm
    refine beside_safe (call_beside (by decide)) (fun inputChar l calm => ?_) calm
    refine beside_safe (debugPrint_beside _ _) (fun _ l calm => ?_) calm
    show ((eventContract capacity).Safe t (.uart isRxDone) (ite _ _ _)).on _
    split
    next => exact post_safe calm last
    next => exact beside_safe (consoleAccumulateChar_beside _) (fun _ => last) calm
  next => exact ended_safe calm

/-! ## The drain loop -/

/-- The word received last is dispatched as `glQevent` has it. -/
theorem dispatch_safe {word : UInt32} (posting : l.posting = false)
    (pending : l.pending = some word) :
    ((eventContract capacity).Safe .main j (do msgParsing (← ram).glQevent)).on l := by
  refine Pool.Contract.on_read trivial fun g s inv same _ => ?_
  have pending : g.pending = some word := (congrArg EventOwn.pending same).trans pending
  have noted : g.noteStep s.mem .main .read =
      { g with dispatched := g.dispatched ++ [s.mem.glQevent], pending := none } := by
    simp [EventLog.noteStep, pending]
  refine ⟨_, ⟨⟨by cases j <;> trivial, ?_⟩, noted⟩, inv.dispatch _, ?_⟩
  · show (g.noteStep s.mem .main .read).Delivered ↔ _
    rw [noted, delivered_dispatch pending (inv.last word pending)]
    exact and_congr_right fun _ => dispatched_iff inv pending
  · refine beside_ends (msgParsing_beside _) ⟨?_, rfl⟩
    exact (congrArg EventOwn.posting same).trans posting

theorem drain_safe (firstLine : Bool) (calm : l.Calm) :
    ((eventContract capacity).Safe .main (.drain firstLine) (drainOnce firstLine)).on l := by
  refine Pool.Contract.on_call trivial rfl fun g s inv same above received allowed => ?_
  have none : g.pending = none := (congrArg EventOwn.pending same).trans calm.pending
  have posting : g.posting .main = false := (congrArg EventOwn.posting same).trans calm.posting
  have idle : ∀ t, g.posting t = false := by
    intro t
    cases t with
    | main => exact posting
    | usb => exact (above .usb (by simp)).posting
    | uart => exact (above .uart (by simp)).posting
    | pib => exact (above .pib (by simp)).posting
  cases received with
  | error e =>
      refine ⟨g, noted_plain rfl trivial trivial Iff.rfl, inv.same rfl rfl, ?_⟩
      exact ended_safe (same.symm ▸ calm)
  | ok message =>
      have noted : g.noteStep s.mem .main (.call .queueReceive (.ok message)) =
          { g with received := g.received ++ [message], pending := some message,
                   assigned := false } := by
        simp [EventLog.noteStep]
      refine ⟨_, noted_plain noted trivial trivial (delivered_receive none),
        inv.receive allowed.2 idle, ?_⟩
      show ((eventContract capacity).Safe .main (.drain firstLine) (ite _ _ _)).on _
      split
      next =>
        refine Pool.Contract.on_call trivial rfl fun g' s' inv' same' _ text _ => ?_
        have apart : (Call.debugPrint "\r\n" []).kind ≠ .queue := by decide
        refine ⟨g', noted_beside apart text,
          inv'.same (memReceived_beside apart text) (queueAfter_beside apart _ text), ?_⟩
        exact dispatch_safe ((congrArg EventOwn.posting same').trans posting)
          (congrArg EventOwn.pending same')
      next => exact dispatch_safe posting rfl

theorem event_met : (eventContract capacity).Met := by
  intro t j offered g s inv calm
  refine ⟨⟨trivial, ⟨fun right => ⟨right, trivial⟩, fun right => right.1⟩⟩, inv, ?_⟩
  have calm : EventOwn.Calm (g.own t) := calm
  cases j with
  | drain firstLine =>
      have main : t = .main := by cases t <;> exact offered
      subst main
      exact drain_safe firstLine calm
  | usbEvent evtype evdata => exact usbEvent_safe evtype evdata calm
  | pibError isError cbArg => exact pibError_safe isError cbArg calm
  | poll r => exact poll_posts r calm
  | uart isRxDone => exact uart_safe isRxDone calm
  | other p =>
      have beside : Beside p := by cases t <;> exact offered
      exact beside_ends beside calm

end Callbacks

/-! ## Every run -/

section Run

variable (capacity : Nat)

def eventIdle (s₀ : QueuedWorld) : Pool.Config (eventThreads capacity) :=
  ⟨s₀, fun _ => none, none⟩

def EventLog.start : EventLog where
  accepted := []
  received := []
  dispatched := []
  pending := none
  assigned := false
  posting _ := false

def eventLog (turns : List (QueuedWorld × EventThread × (eventThreads capacity).Deed)) : EventLog :=
  (eventContract capacity).noted EventLog.start turns

/-- The words received are those the queue accepted, in order, and the console inputs post
carriage returns; what is dispatched is what was received as long as no dispatch finds a
carriage return in `glQevent` instead of its word. -/
theorem events_delivered_iff {s₀ : QueuedWorld} (empty : s₀.env.queue = [])
    {turns : List (QueuedWorld × EventThread × (eventThreads capacity).Deed)}
    {c : Pool.Config (eventThreads capacity)}
    (run : Pool.Run (eventIdle capacity s₀) turns c) :
    (eventLog capacity turns).received ++ c.state.env.queue = (eventLog capacity turns).accepted ∧
      (∀ pre s t d post, turns = pre ++ (s, t, d) :: post → EventLog.sends capacity d) ∧
      ((∀ pre post, turns = pre ++ post → (eventLog capacity pre).Delivered) ↔
        ∀ pre s t d post, turns = pre ++ (s, t, d) :: post →
          (eventLog capacity pre).Undisturbed capacity t d) := by
  have accounts : EventLog.start.Accounts s₀ :=
    ⟨by rw [empty]; rfl, by simp [EventLog.start], by simp [EventLog.start],
      by simp [EventLog.start]⟩
  have calm (t : EventThread) : EventOwn.Calm (EventLog.start.own t) := ⟨rfl, ite_self _⟩
  have start := Pool.Contract.sound_idle (K := eventContract capacity) accounts calm
  obtain ⟨sound, ensures⟩ := event_met.run run start
  refine ⟨sound.held.queue, fun pre s t d post at_t => (ensures pre s t d post at_t).1, ?_⟩
  have first : EventLog.start.Delivered := rfl
  exact Pool.Contract.right_iff (K := eventContract capacity) EventLog.Delivered
    (fun g _ t d => g.Undisturbed capacity t d) first
    fun pre s t d post at_t => (ensures pre s t d post at_t).2

end Run

/-! ## A word overwritten -/

/-- The queue is empty after the boot. -/
def quietQueue : QueuedWorld := ⟨Ram.init, ⟨Hw.reset, []⟩⟩

def cyU3PErrorQueueEmpty : Failure := ⟨10, by decide⟩

def cyU3PErrorQueueFull : Failure := ⟨11, by decide⟩

/-- The bench's answers, but for the queue. -/
def queuedAnswer (capacity : Nat) (w : QueuedWorld) : (c : Call) → c.Ans
  | .queueSend _ =>
      if w.env.queue.length < capacity then cyU3PSuccess else cyU3PErrorQueueFull.1
  | .queueReceive =>
      match w.env.queue with
      | [] => .error cyU3PErrorQueueEmpty
      | message :: _ => .ok message
  | c => Bench.idle.answer 0 c

theorem queued_allowed (capacity : Nat) (w : QueuedWorld) (c : Call) :
    (queuedSdk capacity).allows w c (queuedAnswer capacity w c) := by
  have prints := Bench.idle.allowed ⟨w.mem, w.env.hw⟩ 0 c
  cases c with
  | queueSend message =>
      refine ⟨trivial, ?_⟩
      show (ite _ _ _ : ReturnStatus) = _ ↔ _
      split
      next room => exact ⟨fun _ => room, fun _ => rfl⟩
      next full =>
        exact ⟨fun same => absurd same cyU3PErrorQueueFull.2, fun room => absurd room full⟩
  | queueReceive =>
      refine ⟨trivial, ?_⟩
      rcases queue : w.env.queue with _ | ⟨message, rest⟩
      · simp [queuedAnswer, queue, Call.byQueue]
      · simp [queuedAnswer, queue, Call.byQueue]
  | _ => exact ⟨prints, trivial⟩

def queueBench (capacity : Nat) : Threads.Responder (eventThreads capacity).env where
  answer := queuedAnswer capacity
  allowed := queued_allowed capacity

/-- The queue of the firmware holds sixteen words. -/
def eventCapacity : Nat := 16

def carriageReturnSetup : Setup where
  bReqType := 0xC0
  bRequest := FX3Command.readinfodebug.code
  wValue := 0x0d
  wIndex := 0
  wLength := 64

/-- The USB suspend event is posted and received; before it is dispatched the host sends a
carriage return. -/
def overwritten : Pool.Replay (eventThreads eventCapacity) :=
  Pool.replay (eventIdle eventCapacity quietQueue)
    [.start .usb (.usbEvent 2 0) rfl, .own .usb (queueBench eventCapacity) 1, .done .usb,
      .start .main (.drain false) rfl, .own .main (queueBench eventCapacity) 1,
      .start .usb (.poll carriageReturnSetup) rfl, .own .usb (queueBench eventCapacity) 6,
      .done .usb, .own .main (queueBench eventCapacity) 20, .done .main,
      .start .main (.drain false) rfl, .own .main (queueBench eventCapacity) 20, .done .main]

theorem overwritten_run :
    Pool.Run (eventIdle eventCapacity quietQueue) overwritten.turns overwritten.config :=
  Pool.replay_run _ _

/-- The carriage return is dispatched twice, the event not at all. -/
theorem overwritten_log :
    (eventLog eventCapacity overwritten.turns).received = [2, carriageReturn] ∧
    (eventLog eventCapacity overwritten.turns).dispatched = [carriageReturn, carriageReturn] ∧
    ¬ (eventLog eventCapacity overwritten.turns).Delivered := by
  have received : (eventLog eventCapacity overwritten.turns).received = [2, carriageReturn] := by
    decide +kernel
  have dispatched : (eventLog eventCapacity overwritten.turns).dispatched =
      [carriageReturn, carriageReturn] := by
    decide +kernel
  have pending : (eventLog eventCapacity overwritten.turns).pending = none := by
    decide +kernel
  refine ⟨received, dispatched, ?_⟩
  rw [EventLog.Delivered, received, dispatched, pending]
  decide

theorem events_delivered_overwritten :
    (eventLog eventCapacity overwritten.turns).received ++ overwritten.config.state.env.queue =
        (eventLog eventCapacity overwritten.turns).accepted ∧
      (eventLog eventCapacity overwritten.turns).accepted = [2, carriageReturn] ∧
      (∀ pre s t d post, overwritten.turns = pre ++ (s, t, d) :: post →
        EventLog.sends eventCapacity d) ∧
      ¬ ∀ pre s t d post, overwritten.turns = pre ++ (s, t, d) :: post →
        (eventLog eventCapacity pre).Undisturbed eventCapacity t d := by
  obtain ⟨queue, sends, delivered⟩ := events_delivered_iff eventCapacity rfl overwritten_run
  refine ⟨queue, by decide +kernel, sends, fun calm => ?_⟩
  exact overwritten_log.2.2 (delivered.mpr calm overwritten.turns [] (List.append_nil _).symm)

theorem event_lost : ∃ turns c, Pool.Run (eventIdle eventCapacity quietQueue) turns c ∧
    (eventLog eventCapacity turns).received = [2, carriageReturn] ∧
      (eventLog eventCapacity turns).dispatched = [carriageReturn, carriageReturn] ∧
      ¬ (eventLog eventCapacity turns).Delivered :=
  ⟨_, _, overwritten_run, overwritten_log⟩

end Rx888
