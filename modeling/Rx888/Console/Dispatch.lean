import Rx888.Console.EventDelivery

/-! # The dispatch of posted words

The callbacks pack an event into a word by hand and `MsgParsing` unpacks it. Each word reaches
the branch it was meant for; the table of names is shorter than the SDK's enumeration.
-/

namespace Rx888

open CallProgram

attribute [local simp] Call.kind

/-- `CyU3PUsbEventType_t` declares the values below. -/
def usbEventTypes : Nat := 25

namespace EventJob

/-- A callback, with an event type the SDK declares. -/
def Produces : EventJob → Prop
  | .usbEvent evtype _ => evtype.toNat < usbEventTypes
  | .pibError _ _ | .poll _ | .uart _ => True
  | .drain _ | .other _ => False

def word : EventJob → UInt32
  | .usbEvent evtype _ => evtype.toUInt32
  | .pibError _ cbArg => ((2 : UInt32) <<< 24) ||| cbArg.toUInt32
  | _ => carriageReturn

def branch : EventJob → Fw Unit
  | .usbEvent evtype _ =>
      debugPrint "\r\nEvent received = %s   \r\n" [.text (eventName.getD evtype.toNat "")]
  | .pibError _ cbArg => debugPrint "\r\nPIB error 0x%x\r\n" [.num cbArg.toUInt32]
  | _ => parseCommand

end EventJob

def Call.posts? : Call → Option UInt32
  | .queueSend message => some message
  | _ => none

def posted (tr : List FwCall) : List UInt32 := tr.filterMap (·.call.posts?)

/-- Callbacks one after the other, each in whatever memory it finds, and the words they post. -/
inductive Posting : List (EventJob × UInt32) → Prop where
  | start : Posting []
  | callback {log : List (EventJob × UInt32)} {j : EventJob} {w w' : World} {tr : List FwCall}
      (earlier : Posting log) (produces : j.Produces) (runs : Runs sdk j.prog w tr () w') :
      Posting (log ++ (posted tr).map (j, ·))

/-- The index at which a dispatch reads the table of names. -/
def nameIndex (qevent : UInt32) : Option Nat :=
  if (qevent >>> 24).toUInt8 = 0 then some qevent.toUInt8.toNat else none

/-- The dispatch of a word takes the branch of its callback and reads no name beyond the
table. -/
def Dispatched (j : EventJob) (word : UInt32) : Prop :=
  msgParsing word = j.branch ∧ ∀ i, nameIndex word = some i → i < eventName.length

/-! ## The words posted -/

section Posts

variable {α β : Type} {w : World} {x : UInt32} {p : Fw α} {f : α → Fw β}

theorem posted_append (tr tr' : List FwCall) : posted (tr ++ tr') = posted tr ++ posted tr' :=
  List.filterMap_append

/-- Whatever the program posts is `x`. -/
def Posts (x : UInt32) (p : Fw α) : Prop :=
  ∀ w, p.Ensures sdk (fun tr _ _ => ∀ word ∈ posted tr, word = x) w

theorem Posts.bind (first : Posts x p) (later : ∀ a, Posts x (f a)) : Posts x (p >>= f) := by
  intro w
  apply (first w).bind
  intro tr a w₁ early
  apply ensures_mono (later a w₁)
  intro tr' b w' late word made
  rw [posted_append] at made
  rcases List.mem_append.mp made with made | made
  · exact early word made
  · exact late word made

theorem Posts.ite {c : Prop} [Decidable c] {q : Fw α} (yes : c → Posts x p)
    (no : ¬ c → Posts x q) : Posts x (if c then p else q) := by
  split
  · exact yes ‹c›
  · exact no ‹¬ c›

theorem Beside.posts (beside : Beside p) : Posts x p := by
  intro w
  apply ensures_of_runs
  intro tr a w' runs word made
  have ⟨t, ht, same⟩ := List.mem_filterMap.mp made
  have apart := runs.calls beside t ht
  cases call : t.call with
  | queueSend message => simp [call, Call.kind] at apart
  | _ => simp [call, Call.posts?] at same

theorem queueSend_posts : Posts x (void (.queueSend x)) := by
  intro w status _ word made
  simpa [posted, Call.posts?] using made

/-- A carriage return is posted by way of `glQevent`. -/
theorem carriageReturn_posts : Posts carriageReturn (do
    setQevent (userCommandAvailable <<< 24)
    void (.queueSend (← ram).glQevent)) := by
  intro w status _ word made
  have same : word = userCommandAvailable <<< 24 := by simpa [posted, Call.posts?] using made
  exact same

end Posts

theorem usbEvent_posts (evtype : UInt8) (evdata : UInt16) :
    Posts evtype.toUInt32 (usbEventCallback evtype evdata) := by
  rw [usbEventCallback_eq]
  apply queueSend_posts.bind
  intro _
  exact (usbEventRest_beside evtype evdata).posts

theorem pibError_posts (isError : Bool) (cbArg : UInt16) :
    Posts (((2 : UInt32) <<< 24) ||| cbArg.toUInt32) (pibErrorCallback isError cbArg) := by
  have done : Beside (pure () : Fw Unit) := trivial
  have counted : Beside (countUp 0) := beside_of [] (by simp) (by simp) (by decide)
  have noticed : Beside (modifyPib fun s => { s with glLastPibArg := cbArg }) :=
    beside_of [] (by simp) (by simp) (by decide)
  have notified : Beside (modifyPib fun s => { s with glPibNotified := true }) :=
    beside_of [] (by simp) (by simp) (by decide)
  unfold pibErrorCallback
  split
  · apply counted.posts.bind
    intro _
    apply noticed.posts.bind
    intro _
    apply ram_beside.posts.bind
    intro m
    apply Posts.ite
    · intro _
      apply queueSend_posts.bind
      intro _
      exact notified.posts
    · intro _
      exact done.posts
  · exact done.posts

theorem poll_posts_return (s : Setup) :
    Posts carriageReturn (readinfodebug s >>= fun _ => pure ()) := by
  have done : Beside (pure () : Fw Unit) := trivial
  rw [readinfodebug_eq, bind_assoc]
  apply Posts.bind
  · unfold consoleInput
    apply Posts.ite
    · intro _
      apply Posts.ite
      · exact fun _ => carriageReturn_posts
      · exact fun _ => (consoleAccumulateChar_beside _).posts
    · exact fun _ => done.posts
  · intro _
    apply pollText_beside.posts.bind
    intro _
    exact done.posts

theorem uart_posts_return (isRxDone : Bool) : Posts carriageReturn (uartCallback isRxDone) := by
  have done : Beside (pure () : Fw Unit) := trivial
  have last : Beside (do
      void .consoleChannelDiscardBuffer
      void (.uartRxSetBlockXfer 1)) := beside_of [.setup] (by simp) (by simp) (by decide)
  unfold uartCallback
  split
  · apply (void_beside (by decide)).posts.bind
    intro _
    apply (call_beside (by decide)).posts.bind
    intro inputChar
    apply (debugPrint_beside _ _).posts.bind
    intro _
    apply Posts.ite
    · exact fun _ => carriageReturn_posts.bind fun _ => last.posts
    · exact fun _ => (consoleAccumulateChar_beside inputChar).posts.bind fun _ => last.posts
  · exact done.posts

theorem EventJob.posts (j : EventJob) (produces : j.Produces) : Posts j.word j.prog := by
  cases j with
  | usbEvent evtype evdata => exact usbEvent_posts evtype evdata
  | pibError isError cbArg => exact pibError_posts isError cbArg
  | poll s => exact poll_posts_return s
  | uart isRxDone => exact uart_posts_return isRxDone
  | drain firstLine => exact produces.elim
  | other p => exact produces.elim

theorem Posting.words {log : List (EventJob × UInt32)} (posting : Posting log) :
    ∀ e ∈ log, e.1.Produces ∧ e.2 = e.1.word := by
  induction posting with
  | start => simp
  | @callback log j w w' tr earlier produces runs ih =>
      intro e he
      rcases List.mem_append.mp he with before | new
      · exact ih e before
      · have ⟨word, made, same⟩ := List.mem_map.mp new
        subst same
        exact ⟨produces, runs.ensures (j.posts produces w) word made⟩

/-! ## The branches -/

theorem usbEvent_label (evtype : UInt8) : (evtype.toUInt32 >>> 24).toUInt8 = 0 := by
  apply UInt8.toNat_inj.mp
  have small := evtype.toNat_lt
  rw [UInt32.toNat_toUInt8, UInt32.toNat_shiftRight, UInt8.toNat_toUInt32]
  show evtype.toNat >>> 24 % 2 ^ 8 = 0
  rw [Nat.shiftRight_eq_div_pow]
  omega

theorem pibError_toNat (cbArg : UInt16) :
    (((2 : UInt32) <<< 24) ||| cbArg.toUInt32).toNat = 2 * 2 ^ 24 + cbArg.toNat := by
  have small : cbArg.toNat < 2 ^ 24 := Nat.lt_of_lt_of_le cbArg.toNat_lt (by decide)
  have sum : 2 <<< 24 + cbArg.toNat = 2 <<< 24 ||| cbArg.toNat :=
    Nat.shiftLeft_add_eq_or_of_lt small 2
  rw [UInt32.toNat_or, UInt16.toNat_toUInt32]
  exact sum.symm

theorem pibError_label (cbArg : UInt16) :
    ((((2 : UInt32) <<< 24) ||| cbArg.toUInt32) >>> 24).toUInt8 = 2 := by
  apply UInt8.toNat_inj.mp
  have small := cbArg.toNat_lt
  rw [UInt32.toNat_toUInt8, UInt32.toNat_shiftRight, pibError_toNat]
  show (2 * 2 ^ 24 + cbArg.toNat) >>> 24 % 2 ^ 8 = 2
  rw [Nat.shiftRight_eq_div_pow]
  omega

theorem pibError_data (cbArg : UInt16) :
    (((2 : UInt32) <<< 24) ||| cbArg.toUInt32).toUInt16 = cbArg := by
  apply UInt16.toNat_inj.mp
  have small := cbArg.toNat_lt
  rw [UInt32.toNat_toUInt16, pibError_toNat]
  omega

theorem carriageReturn_label :
    (carriageReturn >>> 24).toUInt8 = userCommandAvailable.toUInt8 := by
  decide

theorem msgParsing_carriageReturn : msgParsing carriageReturn = parseCommand := by
  simp only [msgParsing, carriageReturn_label]
  rw [if_neg (by decide), if_neg (by decide), if_neg (by decide), if_true]

/-- Each word reaches its branch. -/
theorem msgParsing_word (j : EventJob) (produces : j.Produces) : msgParsing j.word = j.branch := by
  cases j with
  | usbEvent evtype evdata =>
      simp only [msgParsing, EventJob.word, usbEvent_label, EventJob.branch]
      rw [if_true, UInt8.toUInt8_toUInt32]
  | pibError isError cbArg =>
      simp only [msgParsing, EventJob.word, pibError_label, pibError_data, EventJob.branch]
      rw [if_neg (by decide), if_neg (by decide), if_true]
  | poll s => exact msgParsing_carriageReturn
  | uart isRxDone => exact msgParsing_carriageReturn
  | drain firstLine => exact produces.elim
  | other p => exact produces.elim

def EventJob.usbEvent? : EventJob → Option UInt8
  | .usbEvent evtype _ => some evtype
  | _ => none

theorem nameIndex_carriageReturn : nameIndex carriageReturn = none := by decide

/-- Only the words of USB events read the table of names, at the event itself. -/
theorem nameIndex_word (j : EventJob) (produces : j.Produces) :
    nameIndex j.word = j.usbEvent?.map (·.toNat) := by
  cases j with
  | usbEvent evtype evdata =>
      simp only [nameIndex, EventJob.word, usbEvent_label, EventJob.usbEvent?]
      rw [if_true, UInt8.toUInt8_toUInt32]
      rfl
  | pibError isError cbArg =>
      simp only [nameIndex, EventJob.word, pibError_label, EventJob.usbEvent?]
      rw [if_neg (by decide)]
      rfl
  | poll s => exact nameIndex_carriageReturn
  | uart isRxDone => exact nameIndex_carriageReturn
  | drain firstLine => exact produces.elim
  | other p => exact produces.elim

theorem dispatched_word_iff (j : EventJob) (produces : j.Produces) :
    Dispatched j j.word ↔ ∀ evtype, j.usbEvent? = some evtype → evtype.toNat < 23 := by
  have names : eventName.length = 23 := rfl
  unfold Dispatched
  rw [nameIndex_word j produces, names]
  constructor
  · intro dispatched evtype same
    exact dispatched.2 evtype.toNat (by rw [same]; rfl)
  · intro named
    constructor
    · exact msgParsing_word j produces
    · intro i same
      have ⟨evtype, event, index⟩ := Option.map_eq_some_iff.mp same
      rw [← index]
      exact named evtype event

/-- In a run of callbacks every posted word is dispatched as it was meant, without reading past
the names, just when no USB event beyond the twenty-three names was posted. -/
theorem posting_dispatched_iff {log : List (EventJob × UInt32)} (posting : Posting log) :
    (∀ e ∈ log, Dispatched e.1 e.2) ↔
      ∀ e ∈ log, ∀ evtype, e.1.usbEvent? = some evtype → evtype.toNat < 23 := by
  have words := posting.words
  constructor
  · intro all e he
    have ⟨produces, same⟩ := words e he
    have dispatched := all e he
    rw [same] at dispatched
    exact (dispatched_word_iff e.1 produces).mp dispatched
  · intro named e he
    have ⟨produces, same⟩ := words e he
    rw [same]
    exact (dispatched_word_iff e.1 produces).mpr (named e he)

/-- A failed exchange of link parameters, event 24 of the SDK. -/
def lmpExchFail : EventJob := .usbEvent 24 0

theorem lmpExchFail_posting : Posting [(lmpExchFail, 24)] := by
  have runs := exec_runs sdk Bench.idle.answer 0 lmpExchFail.prog powerUp
    (exec_allowed Bench.idle.allowed 0 _ _)
  have only : posted (lmpExchFail.prog.exec sdk Bench.idle.answer 0 powerUp).1 = [24] := by
    decide +kernel
  have declared : lmpExchFail.Produces := show (24 : UInt8).toNat < usbEventTypes by decide
  have posting := Posting.start.callback declared runs
  rw [only] at posting
  exact posting

theorem posting_dispatched_iff_lmpExchFail :
    (∀ e ∈ [(lmpExchFail, (24 : UInt32))], Dispatched e.1 e.2) ↔
      ∀ e ∈ [(lmpExchFail, (24 : UInt32))], ∀ evtype, e.1.usbEvent? = some evtype →
        evtype.toNat < 23 :=
  posting_dispatched_iff lmpExchFail_posting

/-- It is looked up past the end of the names. -/
theorem lmpExchFail_unnamed : Posting [(lmpExchFail, 24)] ∧
    ¬ ∀ e ∈ [(lmpExchFail, (24 : UInt32))], Dispatched e.1 e.2 := by
  constructor
  · exact lmpExchFail_posting
  · intro all
    have past := (all _ List.mem_cons_self).2 24 rfl
    exact absurd past (by decide)

end Rx888
