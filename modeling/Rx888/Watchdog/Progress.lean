import Rx888.Watchdog.Escalation
import Rx888.Watchdog.StopRace

/-! # Progress and the cold start

A session that has delivered a buffer is never taken for one that has not. Light recovery
restarts the stream and clears the buffer count afterwards, and what the DMA callback has
counted in between is lost.
-/

namespace Rx888

open CallProgram

def raises (e : Interrupt × List FwCall) : Bool := decide (PipeOp.fwTrg true ∈ ops e.2)

def renews (e : Interrupt × List FwCall) : Bool := commandResetsSession (ops e.2) e.1.command?

/-- What has been noted: no buffer has been counted since FW_TRG was raised; the main loop
has cleared the count since the last buffer, when it was not zero, and so it had when the
current task was taken up; a new session has begun during the task. -/
structure ProgressGhost where
  owed : Bool
  erased : Bool
  erasedAtStart : Bool
  renewed : Bool
  deriving DecidableEq, Repr

def ProgressGhost.note (g : ProgressGhost) (w : World) : mainLoop.Turn → ProgressGhost
  | .start _ => { g with erasedAtStart := g.erased, renewed := false }
  | .own (.write f) =>
      if w.mem.glDMACount ≠ 0 ∧ (f w.mem).glDMACount = 0 then { g with erased := true } else g
  | .own (.call (.gpifControlSWInput true) _) => { g with owed := true, erased := false }
  | .event (.produce, _) _ => { g with owed := false, erased := false }
  | .event e _ =>
      if renews e then { g with owed := raises e, erased := false, renewed := true } else g
  | _ => g

/-- A buffer is counted after each rise of FW_TRG before the next check, the cold-start hook is
not armed and the count does not wrap. -/
def delivers (g : ProgressGhost) (w : World) : mainLoop.Turn → Prop
  | .start .check => g.owed = false
  | .event (.produce, _) _ =>
      w.mem.hooks.glHealthForceColdStart = false ∧ w.mem.glDMACount + 1 ≠ 0
  | _ => True

/-- The state machine is read as streaming when one cold-start strike is left. -/
def Call.lastStrike (m : Ram) : (c : Call) → c.Ans → Bool
  | .gpifGetSMState, state => gpifStateIsStreamingActive (state.getD 0xFF) &&
      m.session.glColdStartCount + 1 == coldStartWedgeTicks
  | _, _ => false

/-- No check that was taken up with the count erased is about to make the last strike. -/
def unerased (g : ProgressGhost) (w : World) : mainLoop.Turn → Prop
  | .own (.call c r) => g.erasedAtStart = true → c.lastStrike w.mem r = false
  | _ => True

/-- No wedge is taken for a cold start, and the main loop does not reset the device. -/
def neverCold (_ : ProgressGhost) (w : World) : mainLoop.Turn → Prop
  | .own (.call c _) => w.mem.session.glWdgFaultKind ≠ .coldStart ∧ c.isDeviceReset = false
  | _ => w.mem.session.glWdgFaultKind ≠ .coldStart

instance (g : ProgressGhost) (w : World) (t : mainLoop.Turn) : Decidable (delivers g w t) :=
  match t with
  | .start .check => inferInstanceAs (Decidable (g.owed = false))
  | .event (.produce, _) _ => inferInstanceAs (Decidable
      (w.mem.hooks.glHealthForceColdStart = false ∧ w.mem.glDMACount + 1 ≠ 0))
  | .start .heartbeat | .event (.request _ _, _) _ | .own _ | .done _ => isTrue trivial

instance (g : ProgressGhost) (w : World) (t : mainLoop.Turn) : Decidable (unerased g w t) :=
  match t with
  | .own (.call c r) =>
      inferInstanceAs (Decidable (g.erasedAtStart = true → c.lastStrike w.mem r = false))
  | .own .read | .own (.write _) | .start _ | .done _ | .event _ _ => isTrue trivial

instance (g : ProgressGhost) (w : World) (t : mainLoop.Turn) : Decidable (neverCold g w t) :=
  match t with
  | .own (.call c _) => inferInstanceAs
      (Decidable (w.mem.session.glWdgFaultKind ≠ .coldStart ∧ c.isDeviceReset = false))
  | .own .read | .own (.write _) | .start _ | .done _ | .event _ _ =>
      inferInstanceAs (Decidable (w.mem.session.glWdgFaultKind ≠ .coldStart))

/-! ## The session's state -/

/-- FW_TRG is high, or has been while the state machine ran. -/
def Pipe.triggered (p : Pipe) : Prop := p.fwTrg = true ∨ p.leftIdle = true

theorem triggered_after {p : Pipe} {o : PipeOp} (other : o ≠ .fwTrg true)
    (h : (p.after o).triggered) : p.triggered := by
  cases o with
  | fwTrg set =>
      cases set with
      | true => exact absurd rfl other
      | false =>
          right
          simpa [Pipe.after, Pipe.triggered] using h
  | start ok =>
      rcases h with high | left
      · exact .inl high
      · simp only [Pipe.after, Bool.or_eq_true, Bool.and_eq_true] at left
        rcases left with left | ⟨-, high⟩
        · exact .inr left
        · exact .inl high
  | deviceInit => simp [Pipe.after, Pipe.triggered, Pipe.reset] at h
  | disable forceReload =>
      left
      simpa [Pipe.after, Pipe.triggered] using h
  | shdwn level ok => cases ok <;> exact h
  | _ => exact h

theorem triggered_foldl {os : List PipeOp} {p : Pipe} (other : .fwTrg true ∉ os)
    (h : (os.foldl Pipe.after p).triggered) : p.triggered := by
  induction os generalizing p with
  | nil => exact h
  | cons o os ih =>
      have rest := ih (fun later => other (List.mem_cons_of_mem _ later)) h
      exact triggered_after (fun first => other (first ▸ List.mem_cons_self)) rest

structure ProgressInv (g : ProgressGhost) (w : World) : Prop where
  kind : w.mem.session.glWdgFaultKind ≠ .coldStart
  strikes : w.mem.session.glColdStartCount < coldStartWedgeTicks
  idle : w.mem.ep0.ep0HandlerInProgress = false
  counted : w.env.pipe.triggered → w.mem.glDMACount ≠ 0 ∨ g.owed = true ∨ g.erased = true

/-- Where buffers are counted and no count is erased for long, a streaming session's wedge
is never a cold start. -/
def progressContract : Contract mainLoop where
  Ghost := ProgressGhost
  note := ProgressGhost.note
  assumes g w t := truthful w t = true ∧ delivers g w t ∧ unerased g w t
  ensures := neverCold
  inv := ProgressInv

/-! ### The steps of the main loop -/

/-- A write that takes no wedge for a cold start and uses up no strikes. -/
structure Cautious (f : Ram → Ram) : Prop where
  kind : ∀ m, m.session.glWdgFaultKind ≠ .coldStart →
    (f m).session.glWdgFaultKind ≠ .coldStart
  strikes : ∀ m, m.session.glColdStartCount < coldStartWedgeTicks →
    (f m).session.glColdStartCount < coldStartWedgeTicks
  ep0 : ∀ m, (f m).ep0 = m.ep0

/-- With no cold start classified and strikes left, the device is not reset. -/
def cautious : Policy Ram Call.Ans where
  reads m := m.session.glWdgFaultKind ≠ .coldStart ∧
    m.session.glColdStartCount < coldStartWedgeTicks ∧ m.ep0.ep0HandlerInProgress = false
  answers _ _ := True
  writes := Cautious
  calls c := c.noReset = true

theorem ProgressInv.write {g : ProgressGhost} {w : World} (inv : ProgressInv g w)
    {f : Ram → Ram} (kind : (f w.mem).session.glWdgFaultKind ≠ .coldStart)
    (strikes : (f w.mem).session.glColdStartCount < coldStartWedgeTicks)
    (ep0 : (f w.mem).ep0 = w.mem.ep0) :
    ProgressInv (g.note w (.own (.write f))) (sdk.step w (.write f)) := by
  have idle : (f w.mem).ep0.ep0HandlerInProgress = false := by
    rw [ep0]
    exact inv.idle
  refine ⟨kind, strikes, idle, fun triggered => ?_⟩
  simp only [ProgressGhost.note]
  by_cases clears : w.mem.glDMACount ≠ 0 ∧ (f w.mem).glDMACount = 0
  · rw [if_pos clears]
    exact .inr (.inr rfl)
  · rw [if_neg clears]
    rcases inv.counted triggered with counted | excused
    · left
      intro zero
      exact clears ⟨counted, zero⟩
    · exact .inr excused

theorem note_call {g : ProgressGhost} {w : World} {c : Call} (r : c.Ans)
    (other : c ≠ .gpifControlSWInput true) : g.note w (.own (.call c r)) = g := by
  cases c with
  | gpifControlSWInput set =>
      cases set with
      | true => exact absurd rfl other
      | false => rfl
  | _ => rfl

theorem opOf_fwTrg {c : Call} {r : c.Ans} (h : opOf c r = some (.fwTrg true)) :
    c = .gpifControlSWInput true := by
  cases restarts : c.restarts with
  | false => cases opOf_unrestarted restarts h
  | true =>
      cases c with
      | gpifSMStart stateIndex initialAlpha => cases h
      | gpifControlSWInput set =>
          cases set with
          | true => rfl
          | false => cases restarts
      | _ => cases restarts

theorem ProgressInv.call {g : ProgressGhost} {w : World} (inv : ProgressInv g w) (c : Call)
    (r : c.Ans) : ProgressInv (g.note w (.own (.call c r))) (sdk.step w (.call c r)) := by
  have printed := memAfter_unchanged w.mem c r
  have session : (memAfter w.mem c r).session = w.mem.session := printed.session (by simp)
  have ep0 : (memAfter w.mem c r).ep0 = w.mem.ep0 := printed.ep0 (by simp)
  have count : (memAfter w.mem c r).glDMACount = w.mem.glDMACount := printed.buffers (by simp)
  constructor
  · show (memAfter w.mem c r).session.glWdgFaultKind ≠ .coldStart
    rw [session]
    exact inv.kind
  · show (memAfter w.mem c r).session.glColdStartCount < coldStartWedgeTicks
    rw [session]
    exact inv.strikes
  · show (memAfter w.mem c r).ep0.ep0HandlerInProgress = false
    rw [ep0]
    exact inv.idle
  · show (w.env.after c r).pipe.triggered → (memAfter w.mem c r).glDMACount ≠ 0 ∨ _
    rw [count, pipe_after]
    intro triggered
    by_cases raise : c = .gpifControlSWInput true
    · subst raise
      exact .inr (.inl rfl)
    · rw [note_call r raise]
      apply inv.counted
      refine triggered_foldl (fun op => raise ?_) triggered
      exact opOf_fwTrg (Option.mem_toList.mp op)

/-! ### The interrupts -/

theorem note_request {g : ProgressGhost} {w w' : World} {a b : UInt32} {tr : List FwCall} :
    g.note w (.event (.request a b, tr) w') =
      if renews (.request a b, tr) then
        { g with owed := raises (.request a b, tr), erased := false, renewed := true }
      else g :=
  rfl

/-- A request that begins a session triggers the state machine only by raising FW_TRG. -/
theorem RequestDoes.raises {command : Option FX3Command} {m m' : Ram} {os : List PipeOp}
    {p : Pipe} (h : RequestDoes command m os m') (renews : commandResetsSession os command = true)
    (triggered : (os.foldl Pipe.after p).triggered) : .fwTrg true ∈ os := by
  unfold RequestDoes at h
  split at h
  · obtain ⟨passed, starts, -⟩ := h
    cases starts with
    | refused check =>
        have passed : preflightPassed os = true := renews
        rw [(StartOps.refused check).preflight] at passed
        cases passed
    | @restarted rest up ok sm restart =>
        cases restart with
        | noXfer => cases ok <;> simp [restartPrelude, Pipe.after, Pipe.triggered] at triggered
        | noStart => cases ok <;> simp [restartPrelude, Pipe.after, Pipe.triggered] at triggered
        | started => simp
  · have still := h.1.still p
    rcases triggered with high | left
    · rw [still.2.2] at high
      cases high
    · rw [still.2.1] at left
      cases left
  all_goals simp [commandResetsSession] at renews

/-- A request that begins no session triggers nothing. -/
theorem RequestDoes.untriggered {command : Option FX3Command} {m m' : Ram} {os : List PipeOp}
    {p : Pipe} (h : RequestDoes command m os m') (kept : commandResetsSession os command = false)
    (triggered : (os.foldl Pipe.after p).triggered) : p.triggered := by
  have quiet : ∀ o ∈ os, o.restarts = false := by
    apply h.unrestarted
    rintro ⟨rfl, passed⟩
    have resets : preflightPassed os = false := kept
    rw [resets] at passed
    cases passed
  refine triggered_foldl (fun raise => ?_) triggered
  cases quiet _ raise

theorem ProgressInv.event {g : ProgressGhost} {w w' : World} {e : Interrupt × List FwCall}
    (inv : ProgressInv g w) (occurs : mainLoop.occurs w e w')
    (delivers : delivers g w (.event e w')) : ProgressInv (g.note w (.event e w')) w' := by
  obtain ⟨i, tr⟩ := e
  cases i with
  | produce =>
      obtain ⟨-, rfl⟩ := produce_occurs occurs
      obtain ⟨unarmed, fits⟩ := delivers
      have produced : w.mem.produced = { w.mem with glDMACount := w.mem.glDMACount + 1 } := by
        simp [Ram.produced, unarmed]
      rw [produced]
      exact ⟨inv.kind, inv.strikes, inv.idle, fun _ => .inl fits⟩
  | request setupdat0 setupdat1 =>
      obtain ⟨does, idle⟩ := request_occurs occurs
      have pipe := interrupt_pipe occurs
      rw [note_request]
      cases renewed : renews (.request setupdat0 setupdat1, tr) with
      | true =>
          rw [if_pos rfl]
          have fresh := does.fresh renewed
          constructor
          · rw [fresh.1]
            decide
          · rw [fresh.1]
            decide
          · exact idle
          · intro triggered
            rw [pipe] at triggered
            exact .inr (.inl (decide_eq_true (does.raises renewed triggered)))
      | false =>
          rw [if_neg (by simp)]
          have kept := does.kept renewed
          constructor
          · rw [kept.session (by simp)]
            exact inv.kind
          · rw [kept.session (by simp)]
            exact inv.strikes
          · exact idle
          · intro triggered
            rw [pipe] at triggered
            rw [kept.buffers (by simp)]
            exact inv.counted (does.untriggered renewed triggered)

/-! ### The functions of the main loop -/

abbrev sparedParts : List Part :=
  [.health, .hooks, .pib, .app, .console, .usb, .buffers, .qevent, .counter]

/-- All writes are cautious. -/
abbrev Spares {α : Type} (p : Fw α) : Prop := p.Uses Cautious fun _ => True

theorem spares_of_confined {α : Type} {p : Fw α} (h : Confined sparedParts p) : Spares p := by
  refine Prog.Uses.mono h (fun f same => ?_) fun _ _ => trivial
  have session (m : Ram) : (f m).session = m.session := (same m).session (by simp)
  constructor
  · intro m kind
    rw [session]
    exact kind
  · intro m strikes
    rw [session]
    exact strikes
  · intro m
    exact (same m).ep0 (by simp)

theorem modifySession_spares {f : SessionRam → SessionRam}
    (kind : ∀ s, (f s).glWdgFaultKind = s.glWdgFaultKind ∨ (f s).glWdgFaultKind ≠ .coldStart)
    (strikes : ∀ s, (f s).glColdStartCount = s.glColdStartCount ∨ (f s).glColdStartCount = 0) :
    Spares (modifySession f) := by
  refine ⟨⟨fun m h => ?_, fun m h => ?_, fun _ => rfl⟩, trivial⟩
  · show (f m.session).glWdgFaultKind ≠ .coldStart
    rcases kind m.session with same | other
    · rw [same]
      exact h
    · exact other
  · show (f m.session).glColdStartCount < coldStartWedgeTicks
    rcases strikes m.session with same | zero
    · rw [same]
      exact h
    · rw [zero]
      decide

theorem stallSample_spares (curDMA : UInt32) (gpifState : UInt8) :
    Spares (stallSample curDMA gpifState) := by
  simp [stallSample, modifySession_spares, spares_of_confined]

theorem clearStrikes_spares (message : String) (args : List DebugArg) :
    Spares (clearStrikes message args) := by
  simp [clearStrikes, modifySession_spares, spares_of_confined]

theorem recoverLight_spares : Spares recoverLight := by
  have clock : Spares clockHealthy := spares_of_confined (by simp [clockHealthy])
  simp [recoverLight, modifySession_spares, spares_of_confined, softStop, recoverRestart, clock,
    call]

theorem cautious_of_spares {α : Type} {p : Fw α} (spares : Spares p)
    (noReset : Within allParts Call.noReset p) : p.Keeps cautious fun _ => True :=
  (spares.and noReset).keeps (fun _ h => h.1) fun _ h => h.2

theorem debugPrint_cautious (fmt : String) (args : List DebugArg) :
    (debugPrint fmt args).Keeps cautious fun _ => True :=
  cautious_of_spares (spares_of_confined (by simp)) (debugPrint_noReset fmt args)

theorem recoverCapped_cautious : recoverCapped.Keeps cautious fun _ => True := by
  refine ram_bind_keeps fun m known => ?_
  have warm : m.session.glWdgFaultKind ≠ .coldStart := known.1
  rw [if_neg (by simp [warm])]
  exact ram_bind_keeps fun m' _ => debugPrint_cautious _ _

theorem healthRecover_cautious : (healthRecover .wedgedStreaming).Keeps cautious fun _ => True := by
  refine ram_bind_keeps fun m _ => ram_bind_keeps fun m' _ => ram_bind_keeps fun m'' _ => ?_
  refine Prog.keeps_ite _ (fun _ => recoverCapped_cautious) fun _ => ?_
  exact cautious_of_spares recoverLight_spares recoverLight_noReset

theorem healthRemedy_cautious {hs : HealthStatus} (h : hs ≠ .wedgedEp0) :
    (healthRemedy hs).Keeps cautious fun _ => True := by
  cases hs with
  | ok => simp [healthRemedy]
  | wedgedEp0 => exact absurd rfl h
  | wedgedStreaming =>
      exact (debugPrint_cautious _ _).bind fun _ _ => healthRecover_cautious
  | wedgedUnknown => exact (debugPrint_cautious _ _).bind fun _ _ => trivial

theorem healthMainHeartbeat_cautious : healthMainHeartbeat.Keeps cautious fun _ => True :=
  cautious_of_spares (spares_of_confined (by simp)) (by simp [healthMainHeartbeat])

/-! ### Cautious programs among the interrupts -/

theorem ProgressInv.own {g : ProgressGhost} {w : World} (inv : ProgressInv g w)
    {a : Access Ram Call.Ans} (permits : cautious.permits a) :
    neverCold g w (.own a) ∧ ProgressInv (g.note w (.own a)) (sdk.step w a) := by
  cases a with
  | read => exact ⟨inv.kind, inv⟩
  | write f =>
      have careful : Cautious f := permits
      refine ⟨inv.kind, inv.write ?_ ?_ ?_⟩
      · exact careful.kind _ inv.kind
      · exact careful.strikes _ inv.strikes
      · exact careful.ep0 _
  | call c r =>
      have spared : c.isDeviceReset = false := by
        simpa [Call.noReset] using (show c.noReset = true from permits)
      exact ⟨⟨inv.kind, spared⟩, inv.call c r⟩

theorem holds_of_cautious {α : Type} {p : Fw α} {R : α → Prop} (keeps : p.Keeps cautious R)
    (g : ProgressGhost) (w : World) : progressContract.Holds p (fun a _ _ => R a) g w := by
  apply Contract.holds_of_policy keeps
  · intro g w a inv _ _
    cases a with
    | read => exact ⟨inv.kind, inv.strikes, inv.idle⟩
    | write f => trivial
    | call c r => trivial
  · intro g w a permits inv _ _
    exact ProgressInv.own inv permits

/-! ### The sampler among the interrupts -/

/-- What an event makes of the count and the session. -/
theorem progress_event {g : ProgressGhost} {w w' : World} {e : Interrupt × List FwCall}
    (occurs : mainLoop.occurs w e w') (delivers : delivers g w (.event e w')) :
    (∃ owed erased, g.note w (.event e w') = { g with owed, erased } ∧
      w'.mem.session = w.mem.session ∧
      (w'.env.pipe.triggered → w.env.pipe.triggered) ∧
      (w'.mem.glDMACount = w.mem.glDMACount ∨ w'.mem.glDMACount ≠ 0)) ∨
    ((g.note w (.event e w')).renewed = true ∧ w'.mem.session = SessionRam.fresh) := by
  obtain ⟨i, tr⟩ := e
  cases i with
  | produce =>
      left
      obtain ⟨-, rfl⟩ := produce_occurs occurs
      obtain ⟨unarmed, fits⟩ := delivers
      have produced : w.mem.produced = { w.mem with glDMACount := w.mem.glDMACount + 1 } := by
        simp [Ram.produced, unarmed]
      refine ⟨false, false, rfl, ?_, id, .inr ?_⟩
      · rw [produced]
      · rw [produced]
        exact fits
  | request setupdat0 setupdat1 =>
      obtain ⟨does, -⟩ := request_occurs occurs
      rw [note_request]
      cases renewed : renews (.request setupdat0 setupdat1, tr) with
      | true =>
          right
          rw [if_pos rfl]
          exact ⟨rfl, (does.fresh renewed).1⟩
      | false =>
          left
          rw [if_neg (by simp)]
          have kept := does.kept renewed
          refine ⟨g.owed, g.erased, rfl, kept.session (by simp), fun triggered => ?_, .inl ?_⟩
          · rw [interrupt_pipe occurs] at triggered
            exact does.untriggered renewed triggered
          · exact kept.buffers (by simp)

/-- A session that is not new and was not found erased has counted a buffer once it is
triggered. -/
def begun (g : ProgressGhost) (w : World) : Prop :=
  g.renewed = true ∨ g.erasedAtStart = true ∨
    (w.env.pipe.triggered → w.mem.glDMACount ≠ 0)

/-- A session that is not new and was not found erased is not triggered. -/
def untriggered (g : ProgressGhost) (w : World) : Prop :=
  g.renewed = true ∨ g.erasedAtStart = true ∨ ¬ w.env.pipe.triggered

/-- A new session has no strikes. -/
def unstruck (g : ProgressGhost) (w : World) : Prop :=
  g.renewed = true → w.mem.session.glColdStartCount = 0

theorem begun_stable : progressContract.Stable begun := by
  intro (g : ProgressGhost) w e w' _ h occurs assumes
  rcases progress_event occurs assumes.2.1 with
    ⟨owed, erased, noted, -, triggered, count⟩ | ⟨renewed, -⟩
  · show begun (g.note w (.event e w')) w'
    rw [noted]
    rcases h with renewed | erased | counted
    · exact .inl renewed
    · exact .inr (.inl erased)
    · refine .inr (.inr fun h => ?_)
      rcases count with same | counted'
      · rw [same]
        exact counted (triggered h)
      · exact counted'
  · exact .inl renewed

theorem untriggered_stable : progressContract.Stable untriggered := by
  intro (g : ProgressGhost) w e w' _ h occurs assumes
  rcases progress_event occurs assumes.2.1 with
    ⟨owed, erased, noted, -, triggered, -⟩ | ⟨renewed, -⟩
  · show untriggered (g.note w (.event e w')) w'
    rw [noted]
    exact h.imp_right fun h => h.imp_right fun h triggered' => h (triggered triggered')
  · exact .inl renewed

theorem unstruck_stable : progressContract.Stable unstruck := by
  intro (g : ProgressGhost) w e w' _ h occurs assumes
  rcases progress_event occurs assumes.2.1 with ⟨owed, erased, noted, session, -⟩ | ⟨-, fresh⟩
  · show unstruck (g.note w (.event e w')) w'
    rw [noted]
    intro renewed
    rw [session]
    exact h renewed
  · intro _
    rw [fresh]
    rfl

/-- A strike is left. -/
def spared (_ : ProgressGhost) (w : World) : Prop :=
  w.mem.session.glColdStartCount + 1 < coldStartWedgeTicks

theorem spared_stable : progressContract.Stable spared := by
  intro (g : ProgressGhost) w e w' _ h occurs assumes
  have session : w'.mem.session = w.mem.session ∨ w'.mem.session = SessionRam.fresh := by
    rcases progress_event occurs assumes.2.1 with ⟨-, -, -, session, -⟩ | ⟨-, fresh⟩
    · exact .inl session
    · exact .inr fresh
  show w'.mem.session.glColdStartCount + 1 < coldStartWedgeTicks
  rcases session with same | fresh
  · rw [same]
    exact h
  · rw [fresh]
    decide

theorem progress_step {A next : ProgressGhost → World → Prop} {g : ProgressGhost} {w : World}
    {a : Access Ram Call.Ans} (stable : progressContract.Stable A) (h : A g w)
    (permits : cautious.permits a)
    (taken : ∀ g w, ProgressInv g w → A g w → truthful w (.own a) = true →
      unerased g w (.own a) → next (g.note w (.own a)) (sdk.step w a)) :
    progressContract.Step a next g w := by
  refine stable.step h fun (g : ProgressGhost) w inv h _ assumes => ?_
  obtain ⟨ensures, inv'⟩ := ProgressInv.own inv permits
  exact ⟨ensures, inv', taken g w inv h assumes.1 assumes.2.2⟩

theorem one_left {strikes : UInt8} (h : strikes < coldStartWedgeTicks)
    (h' : strikes + 1 ≠ coldStartWedgeTicks) : strikes + 1 < coldStartWedgeTicks := by
  simp only [coldStartWedgeTicks, UInt8.lt_iff_toNat_lt, ne_eq, ← UInt8.toNat_inj,
    UInt8.toNat_add] at *
  simp at *
  omega

/-- What is left of the cold-start sample once the strike is made. -/
theorem coldStartVerdict_cautious (gpifState : UInt8) : Prog.Keeps cautious (fun _ => True) (do
    debugPrint "\r\nWDG: cold-start %d/%d SM=%d DMA=0"
      [.num (← ram).session.glColdStartCount.toUInt32, .num coldStartWedgeTicks.toUInt32,
        .num gpifState.toUInt32]
    if (← ram).session.glColdStartCount ≥ coldStartWedgeTicks then
      modifySession fun ss => { ss with glColdStartCount := 0 }
      modifySession fun ss => { ss with glWdgFaultKind := .coldStart }
      return true
    return false : Fw Bool) := by
  refine ram_bind_keeps fun m _ => (debugPrint_cautious _ _).bind fun _ _ => ?_
  refine ram_bind_keeps fun m known => ?_
  have left : m.session.glColdStartCount < coldStartWedgeTicks := known.2.1
  rw [if_neg (UInt8.not_le.mpr left)]
  trivial

/-- With a strike left, the cold-start sample does not run out of them. -/
theorem coldStartSample_holds {g : ProgressGhost} {w : World} (gpifState : UInt8)
    (h : spared g w) :
    progressContract.Holds (coldStartSample gpifState) (fun _ _ _ => True) g w := by
  have clears : Spares (modifySession fun ss => { ss with glStallCount := 0 }) :=
    modifySession_spares (fun _ => .inl rfl) fun _ => .inl rfl
  unfold coldStartSample
  apply modify_bind_holds
  refine progress_step spared_stable h clears.1 fun g w _ h _ _ => ?_
  apply modify_bind_holds
  refine spared_stable.step h fun (g : ProgressGhost) w inv h _ _ => ?_
  refine ⟨inv.kind, ?_, ?_⟩
  · exact ProgressInv.write inv
      (f := fun m => { m with session :=
        { m.session with glColdStartCount := m.session.glColdStartCount + 1 } }) inv.kind h rfl
  · exact (holds_of_cautious (coldStartVerdict_cautious gpifState) _ _).mono
      fun _ _ _ _ _ => trivial

/-- The state machine is read as streaming with a strike left, unless the session is new. -/
theorem spared_of_untriggered {g : ProgressGhost} {w : World} {state : Option UInt8}
    (inv : ProgressInv g w) (h : untriggered g w) (h' : unstruck g w)
    (honest : truthful w (.own (.call .gpifGetSMState state)) = true)
    (unerased : unerased g w (.own (.call .gpifGetSMState state)))
    (active : gpifStateIsStreamingActive (state.getD 0xFF) = true) : spared g w := by
  rcases h with renewed | erased | idle
  · show w.mem.session.glColdStartCount + 1 < coldStartWedgeTicks
    rw [h' renewed]
    decide
  · have last := unerased erased
    simp only [Call.lastStrike, active, Bool.true_and, beq_eq_false_iff_ne] at last
    exact one_left inv.strikes last
  · have left : w.env.smLeftIdle = true := by
      simpa [truthful, Call.truthful, active] using honest
    exact absurd (.inr left) idle

theorem holds_of_spares {α : Type} {p : Fw α} (spares : Spares p)
    (noReset : Within allParts Call.noReset p) (g : ProgressGhost) (w : World) :
    progressContract.Holds p (fun _ _ _ => True) g w :=
  holds_of_cautious (cautious_of_spares spares noReset) g w

theorem sample_holds {g : ProgressGhost} {w : World} (curDMA : UInt32)
    (h : (curDMA = 0 → untriggered g w) ∧ unstruck g w) : progressContract.Holds (do
      let prevDMA := (← ram).session.glPrevDMACount
      if curDMA = prevDMA then
        let gpifState ← gpifGetSMState
        if curDMA > 0 ∧ gpifStateIsBusyWait gpifState then
          stallSample curDMA gpifState
        else if curDMA = 0 ∧ gpifStateIsStreamingActive gpifState then
          coldStartSample gpifState
        else
          clearStrikes "\r\nWDG: stall cleared SM=%d" [.num gpifState.toUInt32]
          return false
      else
        clearStrikes "\r\nWDG: DMA resumed (%u->%u), stall cleared" [.num prevDMA, .num curDMA]
        modifySession fun ss => { ss with glPrevDMACount := curDMA }
        return false : Fw Bool) (fun _ _ _ => True) g w := by
  have stable : progressContract.Stable fun g w =>
      (curDMA = 0 → untriggered g w) ∧ unstruck g w := by
    intro g w e w' inv h occurs assumes
    exact ⟨fun zero => untriggered_stable g w e w' inv (h.1 zero) occurs assumes,
      unstruck_stable g w e w' inv h.2 occurs assumes⟩
  apply ram_bind_holds
  refine progress_step stable h trivial fun g w _ h _ _ => ?_
  by_cases frozen : curDMA = w.mem.session.glPrevDMACount
  · show progressContract.Holds (if curDMA = w.mem.session.glPrevDMACount then _ else _) _ _ _
    rw [if_pos frozen]
    apply gpifGetSMState_bind_holds
    intro state
    refine progress_step stable h rfl fun g w inv h honest unerased => ?_
    by_cases stalled : curDMA > 0 ∧ gpifStateIsBusyWait (state.getD 0xFF)
    · rw [if_pos stalled]
      apply holds_of_spares (stallSample_spares _ _)
      simp [stallSample, debugPrint_noReset]
    rw [if_neg stalled]
    by_cases cold : curDMA = 0 ∧ gpifStateIsStreamingActive (state.getD 0xFF)
    · rw [if_pos cold]
      apply coldStartSample_holds
      exact spared_of_untriggered inv (h.1 cold.1) h.2 honest unerased cold.2
    · rw [if_neg cold]
      apply holds_of_spares
      · simp [clearStrikes_spares]
      · simp [clearStrikes, debugPrint_noReset]
  · show progressContract.Holds (if curDMA = w.mem.session.glPrevDMACount then _ else _) _ _ _
    rw [if_neg frozen]
    apply holds_of_spares
    · simp [clearStrikes_spares, modifySession_spares]
    · simp [clearStrikes, debugPrint_noReset]

/-- A check makes the last strike of no session. -/
theorem streamingWedgeDetected_holds {g : ProgressGhost} {w : World} (h : begun g w)
    (h' : unstruck g w) :
    progressContract.Holds streamingWedgeDetected (fun _ _ _ => True) g w := by
  unfold streamingWedgeDetected
  apply ram_bind_holds
  refine progress_step (begun_stable.and unstruck_stable) ⟨h, h'⟩ trivial
    fun g w _ ⟨counted, fresh⟩ _ _ => sample_holds _ ⟨fun zero => ?_, fresh⟩
  have zero : w.mem.glDMACount = 0 := zero
  exact counted.imp_right fun h => h.imp_right fun counted triggered => counted triggered zero

theorem healthEvaluate_progress {g : ProgressGhost} {w : World} (h : begun g w)
    (h' : unstruck g w) :
    progressContract.Holds healthEvaluate (fun hs _ _ => hs ≠ .wedgedEp0) g w := by
  have returns {hs : HealthStatus} (other : hs ≠ .wedgedEp0) (g : ProgressGhost) (w : World) :
      progressContract.Holds (.ret hs) (fun hs _ _ => hs ≠ .wedgedEp0) g w :=
    holds_of_cautious (p := .ret hs) (R := fun hs => hs ≠ .wedgedEp0) other g w
  have stable := begun_stable.and unstruck_stable
  unfold healthEvaluate
  apply ram_bind_holds
  refine progress_step stable ⟨h, h'⟩ trivial fun g w inv h _ _ => ?_
  show progressContract.Holds (if w.mem.ep0.ep0HandlerInProgress = true then _ else _) _ _ _
  rw [if_neg (by simp [inv.idle])]
  apply ram_bind_holds
  refine progress_step stable h trivial fun g w inv h _ _ => ?_
  show progressContract.Holds (if w.mem.app.glIsApplnActive = true then _ else _) _ _ _
  by_cases active : w.mem.app.glIsApplnActive = true
  · rw [if_pos active]
    refine (streamingWedgeDetected_holds h.1 h.2).bind (fun hit g w _ _ => ?_) inv
    cases hit with
    | true => exact returns (by simp) g w
    | false => exact returns (by simp) g w
  · rw [if_neg active]
    exact returns (by simp) _ _

theorem progressContract_met : progressContract.Met fun _ _ _ => True := by
  constructor
  · intro (g : ProgressGhost) w t inv assumes
    have started : ProgressInv (g.note w (.start t)) w :=
      ⟨inv.kind, inv.strikes, inv.idle, inv.counted⟩
    refine ⟨inv.kind, started, ?_⟩
    cases t with
    | heartbeat => exact holds_of_cautious healthMainHeartbeat_cautious _ _
    | check =>
        have owed : g.owed = false := assumes.2.1
        have counted : begun (g.note w (.start .check)) w := by
          cases erased : g.erased with
          | true => exact .inr (.inl erased)
          | false =>
              refine .inr (.inr fun triggered => ?_)
              simpa [owed, erased] using inv.counted triggered
        have fresh : unstruck (g.note w (.start .check)) w := fun renewed => by cases renewed
        refine (healthEvaluate_progress counted fresh).bind (fun hs g w _ known => ?_) started
        exact holds_of_cautious (healthRemedy_cautious known) g w
  · intro (g : ProgressGhost) w out inv _ _
    exact ⟨inv.kind, inv⟩
  · intro (g : ProgressGhost) w e w' inv occurs assumes
    exact ⟨inv.kind, ProgressInv.event inv occurs assumes.2.1⟩

/-- No session has been started. -/
structure Unstarted (w : World) : Prop where
  session : w.mem.session = SessionRam.fresh
  idle : w.mem.ep0.ep0HandlerInProgress = false
  fwTrg : w.env.fwTrg = false
  leftIdle : w.env.smLeftIdle = false

def ProgressGhost.init : ProgressGhost := ⟨false, false, false, false⟩

/-- From any state in which no session has been started and in any interleaving in which the
buffers come, no wedge is taken for a cold start and the main loop never resets the device,
unless a check that was taken up with the count erased is about to make the last strike. -/
theorem stall_never_cold {w₀ w : World} {turns : List (World × mainLoop.Turn)}
    {todo : mainLoop.Todo} (unstarted : Unstarted w₀) (run : mainLoop.Run w₀ turns todo w)
    (honest : Threads.Throughout ProgressGhost.note (fun _ w t => truthful w t = true)
      ProgressGhost.init turns)
    (delivered : Threads.Throughout ProgressGhost.note delivers ProgressGhost.init turns)
    (counted : Threads.Throughout ProgressGhost.note unerased ProgressGhost.init turns) :
    Threads.Throughout ProgressGhost.note neverCold ProgressGhost.init turns ∧
      w.mem.session.glWdgFaultKind ≠ .coldStart := by
  have init : ProgressInv ProgressGhost.init w₀ := by
    constructor
    · rw [unstarted.session]
      decide
    · rw [unstarted.session]
      decide
    · exact unstarted.idle
    · intro triggered
      rcases triggered with high | left
      · have low : w₀.env.pipe.fwTrg = false := unstarted.fwTrg
        rw [low] at high
        cases high
      · have idle : w₀.env.pipe.leftIdle = false := unstarted.leftIdle
        rw [idle] at left
        cases left
  obtain ⟨never, inv⟩ :=
    progressContract_met.run run init (honest.and (delivered.and counted))
  exact ⟨never, inv.kind⟩

/-! ## An erased count -/

/-- The application is active, the stream not started. -/
def applicationUp : World := (benchRun (streamStart.take 1)).2

theorem applicationUp_run : device.Run (benchRun (streamStart.take 1)).1 applicationUp :=
  benchRun_run _

theorem applicationUp_unstarted : Unstarted applicationUp where
  session := by decide +kernel
  idle := by decide +kernel
  fwTrg := by decide +kernel
  leftIdle := by decide +kernel

def startRequest : Interrupt := .request 0x0000AA40 0

/-- The host starts the stream, and it delivers a buffer. -/
def firstBuffer : List mainLoop.Order :=
  [.event (startRequest.on Bench.idle), .event (Interrupt.produce.on Bench.idle)]

def busyTicks (ticks : Nat) : List mainLoop.Order :=
  (List.replicate ticks (tickOn Bench.busy)).flatten

/-- A tick that restarts the stream, which delivers a buffer after `steps` steps of the check. -/
def recoveredTick (steps : Nat) : List mainLoop.Order :=
  MainTask.heartbeat.whole Bench.busy ++ [.start .check, .own Bench.busy.responder steps,
    .event (Interrupt.produce.on Bench.idle), .own Bench.busy.responder 60, .done]

/-- The stream stalls and is restarted; the buffer comes when the check is over. -/
def stalledOnce : mainLoop.Config :=
  mainLoop.replay applicationUp (firstBuffer ++ busyTicks 3 ++ recoveredTick 60 ++ busyTicks 2)

theorem stalledOnce_run :
    mainLoop.Run applicationUp stalledOnce.turns stalledOnce.todo stalledOnce.state :=
  mainLoop.replay_run applicationUp _

theorem stall_never_cold_once :
    Threads.Throughout ProgressGhost.note neverCold ProgressGhost.init stalledOnce.turns ∧
      stalledOnce.state.mem.session.glWdgFaultKind ≠ .coldStart :=
  stall_never_cold applicationUp_unstarted stalledOnce_run (by decide +kernel) (by decide +kernel)
    (by decide +kernel)

/-- After each of five restarts the stream delivers a buffer between FW_TRG and the clear, and
stalls. -/
def stalledToTheCap : mainLoop.Config :=
  mainLoop.replay applicationUp (firstBuffer ++ busyTicks 3 ++ recoveredTick 34 ++
    (List.replicate 4 (busyTicks 4 ++ recoveredTick 34)).flatten ++ busyTicks 5)

theorem stalledToTheCap_run :
    mainLoop.Run applicationUp stalledToTheCap.turns stalledToTheCap.todo stalledToTheCap.state :=
  mainLoop.replay_run applicationUp _

/-- The device is reset although the session, and each restart, delivered a buffer before the
next check. -/
theorem stall_taken_for_cold : ¬ ∀ (steps : List device.Step) (w₀ : World),
    device.Run steps w₀ → Unstarted w₀ →
    ∀ (turns : List (World × mainLoop.Turn)) (todo : mainLoop.Todo) (w : World),
      mainLoop.Run w₀ turns todo w →
      Threads.Throughout ProgressGhost.note (fun _ w t => truthful w t = true)
        ProgressGhost.init turns →
      Threads.Throughout ProgressGhost.note delivers ProgressGhost.init turns →
        Threads.Throughout ProgressGhost.note neverCold ProgressGhost.init turns := by
  intro always
  obtain ⟨turns, todo, w, run, honest, delivered, cold⟩ : ∃ turns todo w,
      mainLoop.Run applicationUp turns todo w ∧
      Threads.Throughout ProgressGhost.note (fun _ w t => truthful w t = true)
        ProgressGhost.init turns ∧
      Threads.Throughout ProgressGhost.note delivers ProgressGhost.init turns ∧
      ¬ Threads.Throughout ProgressGhost.note neverCold ProgressGhost.init turns :=
    ⟨_, _, _, stalledToTheCap_run, by decide +kernel, by decide +kernel, by decide +kernel⟩
  exact cold
    (always _ _ applicationUp_run applicationUp_unstarted turns todo w run honest delivered)

end Rx888
