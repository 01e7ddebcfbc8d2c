import Rx888.Watchdog.Ep0Clock

/-! # The flag, the clock and the stamp

The liveness check reads the flag, samples the clock and reads the stamp, in three steps.
The USB thread may end the handler whose flag was read and enter another one in between; the
verdict is then about no handler at all.
-/

namespace Rx888

open CallProgram

/-- What has been noted: when the handler in progress entered, when the handler that stamped
last did, and the evaluation's sample of the clock if its next step is to read the stamp;
whether a handler has ended during the evaluation, and whether one in progress during it has
been running for the timeout. -/
structure Ep0Ghost where
  handler : Option Nat
  stamped : Nat
  sampled : Option Nat
  ended : Bool
  long : Bool
  deriving DecidableEq, Repr

/-- The handler in progress has been running for the timeout. -/
def Ep0Ghost.timedOut (g : Ep0Ghost) (ms : Nat) : Bool :=
  g.handler.any fun entered => entered + ep0HandlerTimeoutMs.toNat ≤ ms

/-- A write of a handler, the one that lowers the flag being its last. -/
def Ep0Ghost.wrote (g : Ep0Ghost) (m m' : Ram) : Ep0Ghost :=
  if m.ep0.ep0HandlerInProgress && !m'.ep0.ep0HandlerInProgress then
    { g with handler := none, ended := true }
  else { g with stamped := g.handler.getD g.stamped }

def Ep0Ghost.note (g : Ep0Ghost) (w : ClockedWorld) : evaluations.Turn → Ep0Ghost
  | .start _ => { g with sampled := none, ended := false, long := g.timedOut w.env.ms }
  | .own (.call .getTime _) => { g with sampled := some w.env.ms }
  | .own _ => { g with sampled := none }
  | .event (.elapse _) w' => { g with long := g.long || g.timedOut w'.env.ms }
  | .event (.step (.call .getTime _)) _ => { g with handler := some (g.handler.getD w.env.ms) }
  | .event (.step (.write _)) w' => g.wrote w.mem w'.mem
  | _ => g

/-- Where the handler whose flag was read has ended, none having timed out, the stamp is not
later than the clock sample nor the timeout older. -/
def timely (g : Ep0Ghost) (_ : ClockedWorld) : evaluations.Turn → Prop
  | .own .read => g.ended = true → g.long = false →
      ∀ now ∈ g.sampled, g.stamped ≤ now ∧ now < g.stamped + ep0HandlerTimeoutMs.toNat
  | _ => True

/-- A handler that was in progress during the evaluation had been running for the timeout
if the verdict is that it is wedged. -/
def noFalseWedge (g : Ep0Ghost) (_ : ClockedWorld) : evaluations.Turn → Prop
  | .done .wedgedEp0 => g.long = true
  | _ => True

instance (g : Ep0Ghost) (w : ClockedWorld) (t : evaluations.Turn) : Decidable (timely g w t) :=
  match t with
  | .own .read => inferInstanceAs (Decidable (g.ended = true → g.long = false →
      ∀ now ∈ g.sampled, g.stamped ≤ now ∧ now < g.stamped + ep0HandlerTimeoutMs.toNat))
  | .own (.write _) | .own (.call _ _) | .start _ | .done _ | .event _ _ => isTrue trivial

instance (g : Ep0Ghost) (w : ClockedWorld) (t : evaluations.Turn) :
    Decidable (noFalseWedge g w t) :=
  match t with
  | .done .wedgedEp0 => inferInstanceAs (Decidable (g.long = true))
  | .done .ok | .done .wedgedStreaming | .done .wedgedUnknown | .start _ | .own _
  | .event _ _ => isTrue trivial

/-! ## The handler, step by step -/

def stampEnter (now : UInt32) (m : Ram) : Ram :=
  { m with ep0 := { m.ep0 with ep0HandlerEnterMs := now } }

def setInProgress (flag : Bool) (m : Ram) : Ram :=
  { m with ep0 := { m.ep0 with ep0HandlerInProgress := flag } }

/-- What is left of a handler that still has `p` to do between its liveness events. -/
def serving (p : Fw Bool) : Fw Unit := p >>= fun _ => .write (setInProgress false) (.ret ())

theorem handler_eq (setupdat0 setupdat1 : UInt32) :
    handler setupdat0 setupdat1 = .call .getTime fun now =>
      .write (stampEnter now) (.write (setInProgress true)
        (serving (setupRequest (Setup.decode setupdat0 setupdat1)))) := by
  have exits (p : Fw Bool) : (p >>= fun isHandled => (do
      healthRecordEvent .ep0HandlerExit
      return isHandled)) >>= (fun _ => pure ()) = serving p := by
    rw [bind_assoc]
    rfl
  rw [← exits]
  rfl

/-- What a handler may touch between its liveness events. -/
abbrev servedParts : List Part :=
  [.session, .health, .hooks, .pib, .app, .console, .usb, .buffers, .qevent, .counter]

theorem setupRequest_confined (s : Setup) : Confined servedParts (setupRequest s) := by
  have command (c : Option FX3Command) : Confined servedParts (vendorCommand s c) := by
    refine Within.mono (vendorCommand_confined s c) ?_ fun _ => id
    cases c with
    | none => simp [commandParts]
    | some c => cases c <;> simp [commandParts]
  simp [setupRequest, vendorRequest, command]

/-! ## The contract -/

/-- How far the USB thread is in its handler: when that handler entered, when the one that
stamped last did, the flag, and what the thread has left to do. -/
inductive Phase : Option Nat → Nat → Bool → Fw Unit → Prop where
  | idle {stamped : Nat} : Phase none stamped false (.ret ())
  | entering {stamped : Nat} (setupdat0 setupdat1 : UInt32) :
      Phase none stamped false (handler setupdat0 setupdat1)
  | stamping {entered stamped : Nat} {p : Fw Bool} (confined : Confined servedParts p) :
      Phase (some entered) stamped false
        (.write (stampEnter (UInt32.ofNat entered)) (.write (setInProgress true) (serving p)))
  | raising {entered : Nat} {p : Fw Bool} (confined : Confined servedParts p) :
      Phase (some entered) entered false (.write (setInProgress true) (serving p))
  | serving {entered : Nat} {p : Fw Bool} (confined : Confined servedParts p) :
      Phase (some entered) entered true (serving p)

theorem Phase.started {handler : Option Nat} {stamped : Nat} {usb : Fw Unit}
    (h : Phase handler stamped true usb) : handler = some stamped := by
  cases h with
  | serving _ => rfl

structure Ep0Inv (g : Ep0Ghost) (w : ClockedWorld) : Prop where
  stamp : w.mem.ep0.ep0HandlerEnterMs = UInt32.ofNat g.stamped
  past : ∀ entered ∈ g.handler, entered ≤ w.env.ms
  late : g.timedOut w.env.ms = true → g.long = true
  phase : Phase g.handler g.stamped w.mem.ep0.ep0HandlerInProgress w.env.usb

/-- Where no stamp is read that does not go with the clock sample, no verdict is false. -/
def ep0Contract : Contract evaluations where
  Ghost := Ep0Ghost
  note := Ep0Ghost.note
  assumes := timely
  ensures := noFalseWedge
  inv := Ep0Inv

/-- Only the liveness state, the clock and the USB thread matter. -/
theorem Ep0Inv.frame {g : Ep0Ghost} {w : ClockedWorld} (inv : Ep0Inv g w) (m : Ram) (hw : Hw)
    (kept : m.ep0 = w.mem.ep0) (sampled : Option Nat) :
    Ep0Inv { g with sampled } ⟨m, { w.env with hw }⟩ where
  stamp := by
    rw [kept]
    exact inv.stamp
  past := inv.past
  late := inv.late
  phase := by
    rw [kept]
    exact inv.phase

theorem Ep0Inv.own {g : Ep0Ghost} {w : ClockedWorld} (inv : Ep0Inv g w)
    {a : Access Ram Call.Ans} (writes : ∀ f, a = .write f → ∀ m, Unchanged servedParts m (f m)) :
    Ep0Inv (g.note w (.own a)) (clockedSdk.step w a) := by
  cases a with
  | read => exact inv.frame w.mem w.env.hw rfl none
  | write f =>
      have kept : (f w.mem).ep0 = w.mem.ep0 := (writes f rfl w.mem).ep0 (by simp)
      exact inv.frame (f w.mem) w.env.hw kept none
  | call c r =>
      have kept : (memAfter w.mem c r).ep0 = w.mem.ep0 :=
        (memAfter_unchanged w.mem c r).ep0 (by simp)
      have after := inv.frame (memAfter w.mem c r) (w.env.hw.after c r) kept
      cases c with
      | getTime => exact after (some w.env.ms)
      | _ => exact after none

theorem Phase.free {handler : Option Nat} {stamped : Nat} {flag : Bool}
    (h : Phase handler stamped flag (.ret ())) : handler = none ∧ flag = false := by
  generalize usb : (.ret () : Fw Unit) = p at h
  cases h with
  | idle => exact ⟨rfl, rfl⟩
  | entering a b => exact ⟨rfl, rfl⟩
  | stamping confined => cases usb
  | raising confined => cases usb
  | @serving entered p confined => cases p <;> cases usb

/-- The steps of a handler, by how far it is. -/
inductive HandlerTakes (handler : Option Nat) (stamped : Nat) (flag : Bool) (m : Ram) :
    Access Ram Call.Ans → Fw Unit → Prop where
  | sample {now : UInt32} {p : Fw Bool} (free : handler = none) (low : flag = false)
      (confined : Confined servedParts p) : HandlerTakes handler stamped flag m
        (.call .getTime now) (.write (stampEnter now) (.write (setInProgress true) (serving p)))
  | stamp {entered : Nat} {p : Fw Bool} (started : handler = some entered) (low : flag = false)
      (confined : Confined servedParts p) : HandlerTakes handler stamped flag m
        (.write (stampEnter (UInt32.ofNat entered))) (.write (setInProgress true) (serving p))
  | raise {p : Fw Bool} (started : handler = some stamped) (low : flag = false)
      (confined : Confined servedParts p) : HandlerTakes handler stamped flag m
        (.write (setInProgress true)) (serving p)
  | serve {a : Access Ram Call.Ans} {p : Fw Bool} (started : handler = some stamped)
      (high : flag = true) (confined : Confined servedParts p)
      (writes : ∀ f, a = .write f → ∀ m, Unchanged servedParts m (f m)) :
      HandlerTakes handler stamped flag m a (serving p)
  | exit (started : handler = some stamped) (high : flag = true) :
      HandlerTakes handler stamped flag m (.write (setInProgress false)) (.ret ())

theorem Phase.takes {handler : Option Nat} {stamped : Nat} {flag : Bool} {usb p : Fw Unit}
    {m : Ram} {a : Access Ram Call.Ans} (phase : Phase handler stamped flag usb)
    (takes : usb.Takes m a p) : HandlerTakes handler stamped flag m a p := by
  cases phase with
  | idle => cases takes
  | entering b c =>
      rw [handler_eq] at takes
      cases takes with
      | call now => exact .sample rfl rfl (setupRequest_confined _)
  | stamping confined =>
      cases takes with
      | write => exact .stamp rfl rfl confined
  | raising confined =>
      cases takes with
      | write => exact .raise rfl rfl confined
  | serving confined =>
      rcases Prog.Takes.of_bind takes with ⟨p', taken, rfl⟩ | ⟨b, rfl, exits⟩
      · obtain ⟨rest, writes, -⟩ := confined.takes taken
        exact .serve rfl rfl rest writes
      · cases exits with
        | write => exact .exit rfl rfl

theorem Ep0Inv.elapse {g : Ep0Ghost} {w : ClockedWorld} (inv : Ep0Inv g w) (ms : Nat) :
    Ep0Inv { g with long := g.long || g.timedOut (w.env.ms + ms) }
      ⟨w.mem, { w.env with ms := w.env.ms + ms }⟩ where
  stamp := inv.stamp
  past entered started := by
    have := inv.past entered started
    show entered ≤ w.env.ms + ms
    omega
  late timedOut := by
    have late : g.timedOut (w.env.ms + ms) = true := timedOut
    simp [late]
  phase := inv.phase

theorem note_serve {g : Ep0Ghost} {w w' : ClockedWorld} {a : Access Ram Call.Ans}
    (started : g.handler = some g.stamped) (high : w'.mem.ep0.ep0HandlerInProgress = true) :
    g.note w (.event (.step a) w') = g := by
  obtain ⟨handler, stamped, sampled, ended, long⟩ := g
  obtain rfl : handler = some stamped := started
  cases a with
  | read => rfl
  | write f => simp [Ep0Ghost.note, Ep0Ghost.wrote, high]
  | call c r => cases c <;> rfl

theorem Ep0Inv.step {g : Ep0Ghost} {w : ClockedWorld} (inv : Ep0Inv g w)
    {a : Access Ram Call.Ans} {p : Fw Unit} (takes : w.env.usb.Takes w.mem a p)
    (allowed : clockedSdk.allowsStep w a) :
    let w' : ClockedWorld :=
      ⟨(clockedSdk.step w a).mem, { (clockedSdk.step w a).env with usb := p }⟩
    Ep0Inv (g.note w (.event (.step a) w')) w' := by
  intro w'
  obtain ⟨stamp, past, late, phase⟩ := inv
  cases phase.takes takes with
  | @sample now p free low confined =>
      obtain rfl : now = UInt32.ofNat w.env.ms := allowed.2
      have noted : g.note w (.event (.step (.call .getTime (UInt32.ofNat w.env.ms))) w') =
          { g with handler := some w.env.ms } := by
        simp [Ep0Ghost.note, free]
      rw [noted]
      constructor
      · exact stamp
      · intro entered started
        cases started
        exact Nat.le_refl _
      · intro timedOut
        have passed : w.env.ms + ep0HandlerTimeoutMs.toNat ≤ w.env.ms :=
          of_decide_eq_true timedOut
        have timeout : 0 < ep0HandlerTimeoutMs.toNat := by decide
        omega
      · show Phase _ _ w.mem.ep0.ep0HandlerInProgress _
        rw [low]
        exact .stamping confined
  | @stamp entered p started low confined =>
      have noted : g.note w (.event (.step (.write (stampEnter (UInt32.ofNat entered)))) w') =
          { g with stamped := entered } := by
        simp [Ep0Ghost.note, Ep0Ghost.wrote, low, started]
      rw [noted]
      constructor
      · rfl
      · exact past
      · exact late
      · show Phase g.handler _ w.mem.ep0.ep0HandlerInProgress _
        rw [low, started]
        exact .raising confined
  | @raise p started low confined =>
      have noted : g.note w (.event (.step (.write (setInProgress true))) w') = g :=
        note_serve started rfl
      rw [noted]
      constructor
      · exact stamp
      · exact past
      · exact late
      · show Phase g.handler _ true _
        rw [started]
        exact .serving confined
  | @serve a p started high confined writes =>
      have kept : w'.mem.ep0 = w.mem.ep0 := by
        cases a with
        | read => rfl
        | write f => exact (writes f rfl w.mem).ep0 (by simp)
        | call c r => exact (memAfter_unchanged w.mem c r).ep0 (by simp)
      have ms : w'.env.ms = w.env.ms := by
        cases a <;> rfl
      rw [note_serve started (by rw [kept, high])]
      constructor
      · rw [kept]
        exact stamp
      · rw [ms]
        exact past
      · rw [ms]
        exact late
      · rw [kept, high, started]
        exact .serving confined
  | exit started high =>
      have noted : g.note w (.event (.step (.write (setInProgress false))) w') =
          { g with handler := none, ended := true } := by
        show g.wrote w.mem (setInProgress false w.mem) = _
        simp [Ep0Ghost.wrote, high, setInProgress]
      rw [noted]
      constructor
      · exact stamp
      · intro entered started
        cases started
      · intro timedOut
        cases timedOut
      · exact .idle

theorem Ep0Inv.event {g : Ep0Ghost} {w w' : ClockedWorld} {e : HandlerEvent} (inv : Ep0Inv g w)
    (occurs : HandlerOccurs w e w') : Ep0Inv (g.note w (.event e w')) w' := by
  cases occurs with
  | elapse ms => exact inv.elapse ms
  | enter setupdat0 setupdat1 idle =>
      have phase := inv.phase
      rw [idle] at phase
      obtain ⟨free, low⟩ := phase.free
      refine ⟨inv.stamp, inv.past, inv.late, ?_⟩
      show Phase g.handler _ w.mem.ep0.ep0HandlerInProgress _
      rw [free, low]
      exact .entering setupdat0 setupdat1
  | step takes allowed => exact inv.step takes allowed

/-! ## The evaluation -/

/-- Nothing but the handlers touches the liveness state. -/
def ep0Kept : Policy Ram Call.Ans where
  reads _ := True
  answers _ _ := True
  writes f := ∀ m, Unchanged servedParts m (f m)
  calls _ := True

/-- The sampler reports no wedged handler. -/
theorem sampler_ep0Kept : Prog.Keeps ep0Kept (fun hs => hs ≠ .wedgedEp0) (do
    if (← ram).app.glIsApplnActive then
      if ← streamingWedgeDetected then
        return HealthStatus.wedgedStreaming
    return .ok : Fw HealthStatus) := by
  have sampler : Confined servedParts streamingWedgeDetected := by
    simp [streamingWedgeDetected, stallSample, coldStartSample, clearStrikes]
  have keeps : streamingWedgeDetected.Keeps ep0Kept fun _ => True :=
    sampler.keeps (fun _ h => h) fun _ _ => trivial
  refine ram_bind_keeps fun m _ => ?_
  by_cases active : m.app.glIsApplnActive = true
  · rw [if_pos active]
    refine keeps.bind fun hit _ => ?_
    cases hit <;> simp
  · rw [if_neg active]
    simp

/-! ### What the events leave of its findings -/

section Events

variable {g : Ep0Ghost} {w w' : ClockedWorld} {e : HandlerEvent}

theorem note_ended (h : g.ended = true) : (g.note w (.event e w')).ended = true := by
  cases e with
  | elapse ms => exact h
  | enter a b => exact h
  | step a =>
      cases a with
      | read => exact h
      | write f =>
          simp only [Ep0Ghost.note, Ep0Ghost.wrote]
          split
          · rfl
          · exact h
      | call c r => cases c <;> exact h

theorem note_long (h : g.long = true) : (g.note w (.event e w')).long = true := by
  cases e with
  | elapse ms => simp [Ep0Ghost.note, h]
  | enter a b => exact h
  | step a =>
      cases a with
      | read => exact h
      | write f =>
          simp only [Ep0Ghost.note, Ep0Ghost.wrote]
          split <;> exact h
      | call c r => cases c <;> exact h

theorem note_sampled : (g.note w (.event e w')).sampled = g.sampled := by
  cases e with
  | elapse ms => rfl
  | enter a b => rfl
  | step a =>
      cases a with
      | read => rfl
      | write f =>
          simp only [Ep0Ghost.note, Ep0Ghost.wrote]
          split <;> rfl
      | call c r => cases c <;> rfl

theorem HandlerOccurs.ms_le (occurs : HandlerOccurs w e w') : w.env.ms ≤ w'.env.ms := by
  cases occurs with
  | elapse ms => exact Nat.le_add_right _ _
  | enter a b idle => exact Nat.le_refl _
  | @step a p takes allowed => cases a <;> exact Nat.le_refl _

theorem Ep0Inv.ends (inv : Ep0Inv g w) (occurs : HandlerOccurs w e w')
    (high : w.mem.ep0.ep0HandlerInProgress = true) :
    (g.note w (.event e w')).ended = true ∨
      w'.mem.ep0.ep0HandlerInProgress = true ∧ (g.note w (.event e w')).stamped = g.stamped := by
  cases occurs with
  | elapse ms => exact .inr ⟨high, rfl⟩
  | enter a b idle => exact .inr ⟨high, rfl⟩
  | @step a p takes allowed =>
      cases inv.phase.takes takes with
      | sample free low confined =>
          rw [high] at low
          cases low
      | stamp started low confined =>
          rw [high] at low
          cases low
      | raise started low confined =>
          rw [high] at low
          cases low
      | serve started _ confined writes =>
          right
          have kept : (clockedSdk.step w a).mem.ep0 = w.mem.ep0 := by
            cases a with
            | read => rfl
            | write f => exact (writes f rfl w.mem).ep0 (by simp)
            | call c r => exact (memAfter_unchanged w.mem c r).ep0 (by simp)
          have still : (clockedSdk.step w a).mem.ep0.ep0HandlerInProgress = true := by
            rw [kept, high]
          exact ⟨still, congrArg Ep0Ghost.stamped (note_serve started still)⟩
      | exit started _ =>
          left
          show (g.wrote w.mem (setInProgress false w.mem)).ended = true
          simp [Ep0Ghost.wrote, high, setInProgress]

end Events

/-- The handler whose flag was read is in progress, unless it has ended. -/
def sawHandler (g : Ep0Ghost) (w : ClockedWorld) : Prop :=
  g.ended = true ∨ w.mem.ep0.ep0HandlerInProgress = true

/-- The clock was sampled at `now`, while the handler was in progress unless it has ended. -/
def sawClock (now : Nat) (g : Ep0Ghost) (w : ClockedWorld) : Prop :=
  g.sampled = some now ∧ now ≤ w.env.ms ∧
    (g.ended = true ∨ w.mem.ep0.ep0HandlerInProgress = true ∧ g.stamped ≤ now)

theorem sawHandler_stable : ep0Contract.Stable sawHandler := by
  intro (g : Ep0Ghost) w e w' inv saw occurs _
  rcases saw with ended | high
  · exact .inl (note_ended ended)
  · exact (inv.ends occurs high).imp_right fun h => h.1

theorem sawClock_stable (now : Nat) : ep0Contract.Stable (sawClock now) := by
  intro (g : Ep0Ghost) w e w' inv saw occurs _
  obtain ⟨sampled, past, handler⟩ := saw
  refine ⟨note_sampled.trans sampled, Nat.le_trans past occurs.ms_le, ?_⟩
  rcases handler with ended | ⟨high, before⟩
  · exact .inl (note_ended ended)
  · rcases inv.ends occurs high with ended | ⟨still, same⟩
    · exact .inl ended
    · right
      exact ⟨still, Nat.le_trans (Nat.le_of_eq same) before⟩

theorem long_stable : ep0Contract.Stable fun g _ => g.long = true := by
  intro (g : Ep0Ghost) w e w' _ long _ _
  exact note_long long

/-- A verdict on the stamp and the clock sample is about a handler that timed out. -/
theorem sawClock_long {now : Nat} {g : Ep0Ghost} {w : ClockedWorld} (inv : Ep0Inv g w)
    (saw : sawClock now g w) (goes : timely g w (.own .read))
    (verdict : UInt32.ofNat now - w.mem.ep0.ep0HandlerEnterMs ≥ ep0HandlerTimeoutMs) :
    g.long = true := by
  obtain ⟨sampled, past, handler⟩ := saw
  rw [inv.stamp, ge_iff_le, UInt32.le_iff_toNat_le] at verdict
  rcases handler with ended | ⟨high, before⟩
  · by_cases long : g.long = true
    · exact long
    · obtain ⟨before, recent⟩ := goes ended (Bool.eq_false_iff.mpr long) now sampled
      rw [ofNat_sub before] at verdict
      have least := Nat.mod_le (now - g.stamped) (2 ^ 32)
      omega
  · rw [ofNat_sub before] at verdict
    have least := Nat.mod_le (now - g.stamped) (2 ^ 32)
    have phase := inv.phase
    rw [high] at phase
    apply inv.late
    rw [Ep0Ghost.timedOut, phase.started]
    apply decide_eq_true
    omega

/-- The evaluation takes a step that is no write. -/
theorem ep0_step {A next : Ep0Ghost → ClockedWorld → Prop} {g : Ep0Ghost} {w : ClockedWorld}
    {a : Access Ram Call.Ans} (stable : ep0Contract.Stable A) (h : A g w)
    (reads : ∀ f, a ≠ .write f)
    (taken : ∀ g w, Ep0Inv g w → A g w → clockedSdk.allowsStep w a → timely g w (.own a) →
      next (g.note w (.own a)) (clockedSdk.step w a)) : ep0Contract.Step a next g w := by
  refine stable.step h fun (g : Ep0Ghost) w inv h allowed goes => ⟨trivial, ?_, ?_⟩
  · exact Ep0Inv.own inv fun f same => absurd same (reads f)
  · exact taken g w inv h allowed goes

/-- What the evaluation returns in. -/
def evaluated (hs : HealthStatus) (g : Ep0Ghost) (_ : ClockedWorld) : Prop :=
  hs = .wedgedEp0 → g.long = true

theorem sampler_holds (g : Ep0Ghost) (w : ClockedWorld) : ep0Contract.Holds (do
    if (← ram).app.glIsApplnActive then
      if ← streamingWedgeDetected then
        return HealthStatus.wedgedStreaming
    return .ok : Fw HealthStatus) evaluated g w := by
  have holds := Contract.holds_of_policy (K := ep0Contract) sampler_ep0Kept ?_ ?_ g w
  · exact holds.mono fun hs g w _ other verdict => absurd verdict other
  · intro _ _ a _ _ _
    cases a <;> trivial
  · intro (g : Ep0Ghost) w a permits inv _ _
    have kept : Ep0Inv (g.note w (.own a)) (clockedSdk.step w a) :=
      Ep0Inv.own inv fun f same => by
        subst same
        exact permits
    exact ⟨trivial, kept⟩

theorem sawHandler.clock {g : Ep0Ghost} {w : ClockedWorld} (inv : Ep0Inv g w)
    (saw : sawHandler g w) (now : UInt32) : sawClock w.env.ms
      (g.note w (.own (.call .getTime now))) (clockedSdk.step w (.call .getTime now)) := by
  refine ⟨rfl, Nat.le_refl _, saw.imp_right fun high => ⟨high, ?_⟩⟩
  have phase := inv.phase
  have up : w.mem.ep0.ep0HandlerInProgress = true := high
  rw [up] at phase
  exact inv.past _ phase.started

theorem healthEvaluate_holds (g : Ep0Ghost) (w : ClockedWorld) :
    ep0Contract.Holds healthEvaluate evaluated g w := by
  have always : ep0Contract.Stable fun _ _ => True := fun _ _ _ _ _ _ _ _ => trivial
  unfold healthEvaluate
  apply ram_bind_holds
  refine ep0_step always trivial (by simp) fun g w _ _ _ _ => ?_
  show ep0Contract.Holds (if w.mem.ep0.ep0HandlerInProgress = true then _ else _) _ _ _
  by_cases busy : w.mem.ep0.ep0HandlerInProgress = true
  · rw [if_pos busy]
    apply call_bind_holds
    intro now
    have saw : sawHandler (g.note w (.own .read)) w := .inr busy
    refine ep0_step sawHandler_stable saw (by simp) fun g w inv saw allowed _ => ?_
    obtain rfl : now = UInt32.ofNat w.env.ms := allowed.2
    apply ram_bind_holds
    refine ep0_step (sawClock_stable _) (saw.clock inv _) (by simp) fun g w' inv saw _ goes => ?_
    show ep0Contract.Holds (if UInt32.ofNat w.env.ms - w'.mem.ep0.ep0HandlerEnterMs ≥
      ep0HandlerTimeoutMs then _ else _) _ _ _
    by_cases verdict :
        UInt32.ofNat w.env.ms - w'.mem.ep0.ep0HandlerEnterMs ≥ ep0HandlerTimeoutMs
    · rw [if_pos verdict]
      have long : g.long = true := sawClock_long inv saw goes verdict
      have returned (g : Ep0Ghost) (w : ClockedWorld) (_ : ep0Contract.inv g w)
          (long : g.long = true) : evaluated .wedgedEp0 g w := fun _ => long
      exact Contract.holds_ret (g := g.note w' (.own .read)) long_stable long returned
    · rw [if_neg verdict]
      exact sampler_holds _ _
  · rw [if_neg busy]
    exact sampler_holds _ _

theorem ep0Contract_met : ep0Contract.Met evaluated := by
  constructor
  · intro (g : Ep0Ghost) w t inv _
    have started : Ep0Inv (g.note w (.start t)) w :=
      ⟨inv.stamp, inv.past, fun late => late, inv.phase⟩
    exact ⟨trivial, started, healthEvaluate_holds _ _⟩
  · intro (g : Ep0Ghost) w out inv post _
    refine ⟨?_, inv⟩
    cases out with
    | wedgedEp0 => exact post rfl
    | _ => trivial
  · intro (g : Ep0Ghost) w e w' inv occurs _
    exact ⟨trivial, Ep0Inv.event inv occurs⟩

/-- Nothing has been noted yet but the stamp in the memory. -/
def Ep0Ghost.init (w : ClockedWorld) : Ep0Ghost where
  handler := none
  stamped := w.mem.ep0.ep0HandlerEnterMs.toNat
  sampled := none
  ended := false
  long := false

/-- From any state in which the USB thread is in no handler and in any interleaving, every
verdict is about a handler that has been running for the timeout, unless a stamp was read
that does not go with the clock sample. -/
theorem no_false_wedge {w₀ w : ClockedWorld} {turns : List (ClockedWorld × evaluations.Turn)}
    {todo : evaluations.Todo} (free : w₀.env.usb = .ret ())
    (low : w₀.mem.ep0.ep0HandlerInProgress = false) (run : evaluations.Run w₀ turns todo w)
    (goes : Threads.Throughout Ep0Ghost.note timely (Ep0Ghost.init w₀) turns) :
    Threads.Throughout Ep0Ghost.note noFalseWedge (Ep0Ghost.init w₀) turns := by
  have init : Ep0Inv (Ep0Ghost.init w₀) w₀ := by
    constructor
    · exact UInt32.ofNat_toNat.symm
    · intro entered started
      cases started
    · intro late
      cases late
    · rw [free, low]
      exact .idle
  exact (ep0Contract_met.run run init goes).1

/-! ## A false verdict -/

def testRequest : evaluations.Reaction := enter 0x0000ACC0 0x00040000

def usbSteps (steps : Nat) : List evaluations.Order :=
  List.replicate steps (.event Bench.idle.usb)

/-- A TESTFX3 is in progress for two seconds. -/
def testedLong : evaluations.Config :=
  evaluations.replay booted ([.event testRequest] ++ usbSteps 3 ++ [.event (elapse 2000)] ++
    [.start (), .own Bench.idle.clockedResponder 60, .done])

theorem testedLong_run : evaluations.Run booted testedLong.turns testedLong.todo testedLong.state :=
  evaluations.replay_run booted _

theorem no_false_wedge_late :
    Threads.Throughout Ep0Ghost.note noFalseWedge (Ep0Ghost.init booted) testedLong.turns :=
  no_false_wedge rfl (by decide +kernel) testedLong_run (by decide +kernel)

/-- The evaluation reads the flag of a TESTFX3 and samples the clock; the handler goes on to
its end, and a millisecond later the stamp that is read is another TESTFX3's. -/
def testedTwice : evaluations.Config :=
  evaluations.replay booted ([.event testRequest] ++ usbSteps 3 ++
    [.start (), .own Bench.idle.clockedResponder 2] ++ usbSteps 17 ++
    [.event (elapse 1), .event testRequest] ++ usbSteps 2 ++
    [.own Bench.idle.clockedResponder 60, .done])

theorem testedTwice_run :
    evaluations.Run booted testedTwice.turns testedTwice.todo testedTwice.state :=
  evaluations.replay_run booted _

/-- One millisecond after the power-up a handler is found wedged. -/
theorem false_wedge : ¬ ∀ (turns : List (ClockedWorld × evaluations.Turn))
    (todo : evaluations.Todo) (w : ClockedWorld), evaluations.Run booted turns todo w →
      Threads.Throughout Ep0Ghost.note noFalseWedge (Ep0Ghost.init booted) turns := by
  intro always
  obtain ⟨turns, todo, w, run, wedged⟩ : ∃ turns todo w, evaluations.Run booted turns todo w ∧
      ¬ Threads.Throughout Ep0Ghost.note noFalseWedge (Ep0Ghost.init booted) turns :=
    ⟨_, _, _, testedTwice_run, by decide +kernel⟩
  exact wedged (always turns todo w run)

end Rx888
