import Rx888.Watchdog.Loop
import Rx888.Watchdog.Session
import Rx888.Device.Typestate

/-! # Stops and the watchdog

A STOPFX3 may come in at any point of a tick. Once it has completed, nothing the watchdog
finds out afterwards makes it restart the stream; but a tick that had already decided to
recover goes through with it.
-/

namespace Rx888

open CallProgram

/-- The calls that set the stream going. -/
def Call.restarts : Call → Bool
  | .gpifSMStart _ _ | .gpifControlSWInput true => true
  | _ => false

def PipeOp.restarts : PipeOp → Bool
  | .start _ | .fwTrg true => true
  | _ => false

/-- What has been noted: the host has stopped the stream, since when no STARTFX3 has passed
its preflight check; and it has done so since the current task was taken up. -/
structure StopGhost where
  stopped : Bool
  pending : Bool
  deriving DecidableEq, Repr

def stops (e : Interrupt × List FwCall) : Bool := e.1.command? == some .stopfx3

/-- The interrupt is a STARTFX3 that passes its preflight check. -/
def startsStream (e : Interrupt × List FwCall) : Bool :=
  e.1.command? == some .startfx3 && preflightPassed (ops e.2)

def StopGhost.note (g : StopGhost) (_ : World) : mainLoop.Turn → StopGhost
  | .start _ => { g with pending := false }
  | .event e _ =>
      if stops e then ⟨true, true⟩ else if startsStream e then ⟨false, false⟩ else g
  | _ => g

/-- The main loop does not restart the stream in a task during which it was stopped. -/
def unraced (g : StopGhost) (_ : World) : mainLoop.Turn → Prop
  | .own (.call c _) => c.restarts = true → g.pending = false
  | _ => True

/-- Nothing restarts a stopped stream but a STARTFX3 that passes its preflight check. -/
def staysStopped (g : StopGhost) (_ : World) : mainLoop.Turn → Prop
  | .own (.call c _) => c.restarts = true → g.stopped = false
  | .event e _ => (∃ c ∈ e.2, c.call.restarts = true) → g.stopped = false ∨ startsStream e = true
  | _ => True

instance (g : StopGhost) (w : World) (t : mainLoop.Turn) : Decidable (unraced g w t) :=
  match t with
  | .own (.call c _) => inferInstanceAs (Decidable (c.restarts = true → g.pending = false))
  | .own .read | .own (.write _) | .start _ | .done _ | .event _ _ => isTrue trivial

instance (g : StopGhost) (w : World) (t : mainLoop.Turn) : Decidable (staysStopped g w t) :=
  match t with
  | .own (.call c _) => inferInstanceAs (Decidable (c.restarts = true → g.stopped = false))
  | .event e _ => inferInstanceAs
      (Decidable ((∃ c ∈ e.2, c.call.restarts = true) → g.stopped = false ∨ startsStream e = true))
  | .own .read | .own (.write _) | .start _ | .done _ => isTrue trivial

/-! ## The watchdog's own decisions -/

/-- With the state machine not streaming, nothing may be restarted. -/
def calm : Policy Ram Call.Ans where
  reads _ := True
  answers
    | .gpifGetSMState, state => gpifStateIsStreamingActive (state.getD 0xFF) = false
    | _, _ => True
  writes _ := True
  calls c := c.restarts = false

theorem calm_of_within {α : Type} {parts : List Part} {p : Fw α}
    (h : Within parts (fun c => !c.restarts) p) : p.Keeps calm fun _ => True := by
  refine h.keeps (fun _ _ => trivial) fun c hc => ?_
  show c.restarts = false
  simpa using hc

theorem busyWait_active {state : UInt8} (h : gpifStateIsBusyWait state = true) :
    gpifStateIsStreamingActive state = true := by
  simp only [gpifStateIsBusyWait, gpifStateIsStreamingActive, Bool.or_eq_true] at h ⊢
  rcases h with ((h | h) | h) | h <;> simp [h]

theorem clearStrikes_calm (message : String) (args : List DebugArg) :
    (clearStrikes message args).Keeps calm fun _ => True := by
  have within : Within allParts (fun c => !c.restarts) (clearStrikes message args) := by
    simp [clearStrikes, debugPrint, Call.restarts]
  exact calm_of_within within

theorem streamingWedgeDetected_calm :
    streamingWedgeDetected.Keeps calm fun hit => hit = false := by
  unfold streamingWedgeDetected
  refine ram_bind_keeps fun m _ => ram_bind_keeps fun m' _ => ?_
  by_cases frozen : m.glDMACount = m'.session.glPrevDMACount
  · rw [if_pos frozen]
    refine gpifGetSMState_bind_keeps rfl fun state quiet => ?_
    have idle : gpifStateIsStreamingActive (state.getD 0xFF) = false := quiet
    have notBusy : ¬ gpifStateIsBusyWait (state.getD 0xFF) = true := by
      intro busy
      rw [busyWait_active busy] at idle
      cases idle
    rw [if_neg (by simp [notBusy]), if_neg (by simp [idle])]
    exact (clearStrikes_calm _ _).bind fun _ _ => rfl
  · rw [if_neg frozen]
    exact (clearStrikes_calm _ _).bind fun _ _ => ⟨trivial, rfl⟩

theorem healthEvaluate_calm : healthEvaluate.Keeps calm fun hs => hs ≠ .wedgedStreaming := by
  have sampler : Prog.Keeps calm (fun hs => hs ≠ .wedgedStreaming) (do
      if (← ram).app.glIsApplnActive then
        if ← streamingWedgeDetected then
          return HealthStatus.wedgedStreaming
      return .ok : Fw HealthStatus) := by
    refine ram_bind_keeps fun m _ => ?_
    by_cases active : m.app.glIsApplnActive = true
    · rw [if_pos active]
      refine streamingWedgeDetected_calm.bind fun hit missed => ?_
      subst missed
      simp
    · rw [if_neg active]
      simp
  unfold healthEvaluate
  refine ram_bind_keeps fun m _ => ?_
  by_cases busy : m.ep0.ep0HandlerInProgress = true
  · rw [if_pos busy]
    refine call_bind_keeps rfl fun now _ => ram_bind_keeps fun m' _ => ?_
    by_cases late : now - m'.ep0.ep0HandlerEnterMs ≥ ep0HandlerTimeoutMs
    · rw [if_pos late]
      simp
    · rw [if_neg late]
      exact sampler
  · rw [if_neg busy]
    exact sampler

theorem healthRemedy_calm {hs : HealthStatus} (h : hs ≠ .wedgedStreaming) :
    (healthRemedy hs).Keeps calm fun _ => True := by
  have within : Within allParts (fun c => !c.restarts) (healthRemedy hs) := by
    cases hs with
    | wedgedStreaming => exact absurd rfl h
    | _ => simp [healthRemedy, healthRecover, debugPrint, Call.restarts]
  exact calm_of_within within

theorem MainTask.prog_calm (t : MainTask) : t.prog.Keeps calm fun _ => True := by
  cases t with
  | heartbeat => exact ⟨trivial, trivial⟩
  | check => exact healthEvaluate_calm.bind fun hs known => healthRemedy_calm known

/-! ## The state machine at rest -/

/-- The state machine does not run and has not left its idle state, and FW_TRG is low. -/
def Pipe.still (p : Pipe) : Prop := p.running = false ∧ p.leftIdle = false ∧ p.fwTrg = false

theorem still_foldl {os : List PipeOp} (h : ∀ o ∈ os, o.restarts = false) {p : Pipe}
    (still : p.still) : (os.foldl Pipe.after p).still := by
  induction os generalizing p with
  | nil => exact still
  | cons o os ih =>
      obtain ⟨first, rest⟩ := List.forall_mem_cons.mp h
      refine ih rest ?_
      obtain ⟨running, leftIdle, low⟩ := still
      cases o with
      | start ok => cases first
      | fwTrg set =>
          cases set with
          | true => cases first
          | false => exact ⟨running, by simp [Pipe.after, leftIdle], rfl⟩
      | disable forceReload => exact ⟨rfl, rfl, low⟩
      | deviceInit => exact ⟨rfl, rfl, rfl⟩
      | shdwn level ok => cases ok <;> exact ⟨running, leftIdle, low⟩
      | _ => exact ⟨running, leftIdle, low⟩

theorem opOf_restarts {c : Call} {r : c.Ans} (h : c.restarts = true) :
    ∃ o, opOf c r = some o ∧ o.restarts = true := by
  cases c with
  | gpifSMStart stateIndex initialAlpha => exact ⟨_, rfl, rfl⟩
  | gpifControlSWInput set =>
      cases set with
      | true => exact ⟨_, rfl, rfl⟩
      | false => cases h
  | _ => cases h

theorem opOf_unrestarted {c : Call} {r : c.Ans} {o : PipeOp} (h : c.restarts = false)
    (op : opOf c r = some o) : o.restarts = false := by
  cases c with
  | gpifSMStart stateIndex initialAlpha => cases h
  | gpifControlSWInput set =>
      cases op
      cases set with
      | true => cases h
      | false => rfl
  | i2cReceiveBytes preamble byteCount =>
      simp only [opOf] at op
      split at op
      · cases op; rfl
      · split at op <;> cases op; rfl
  | _ =>
      first
      | cases op; rfl
      | cases op
      | simp only [opOf, Option.ite_none_right_eq_some, Option.some.injEq] at op
        rw [← op.2]
        rfl

/-- A trace whose operations restart nothing makes no such call. -/
theorem no_restart {tr : List FwCall} (h : ∀ o ∈ ops tr, o.restarts = false) :
    ¬ ∃ c ∈ tr, c.call.restarts = true := by
  rintro ⟨c, made, restarts⟩
  obtain ⟨o, op, restarts⟩ := opOf_restarts (r := c.ans) restarts
  have quiet := h o (List.mem_filterMap.mpr ⟨c, made, op⟩)
  rw [restarts] at quiet
  cases quiet

theorem still_after {hw : Hw} {c : Call} (r : c.Ans) (h : c.restarts = false)
    (still : hw.pipe.still) : (hw.after c r).pipe.still := by
  rw [pipe_after]
  refine still_foldl (fun o ho => ?_) still
  exact opOf_unrestarted h (Option.mem_toList.mp ho)

theorem unrestarted {os : List PipeOp} (unbuilt : ∀ o ∈ os, o.builds = false)
    (unraised : .fwTrg true ∉ os) : ∀ o ∈ os, o.restarts = false := by
  intro o ho
  have none := unbuilt o ho
  cases o with
  | start ok => cases none
  | fwTrg set =>
      cases set with
      | true => exact absurd ho unraised
      | false => rfl
  | _ => rfl

/-- A request restarts nothing unless it is a STARTFX3 that passes its preflight check. -/
theorem RequestDoes.unrestarted {command : Option FX3Command} {m m' : Ram} {os : List PipeOp}
    (h : RequestDoes command m os m')
    (other : ¬ (command = some .startfx3 ∧ preflightPassed os = true)) :
    ∀ o ∈ os, o.restarts = false := by
  unfold RequestDoes at h
  split at h
  · obtain ⟨passed, starts, -⟩ := h
    cases starts with
    | refused check => exact Rx888.unrestarted check.idle.builds check.unraised
    | restarted ok sm restart => exact absurd ⟨rfl, rfl⟩ other
  · exact Rx888.unrestarted h.1.builds h.1.unraised
  · exact Rx888.unrestarted h.1.builds h.1.unraised
  · exact Rx888.unrestarted h.1.builds h.1.unraised
  · exact Rx888.unrestarted h.1.builds h.1.unraised

theorem StopOps.still {os : List PipeOp} (h : StopOps os) (p : Pipe) :
    (os.foldl Pipe.after p).still := by
  cases h with
  | stopped sm sm' ok => cases ok <;> simp [Pipe.after, Pipe.still]

/-! ## The contract -/

/-- Reading the state machine as it is and never restarting in a task that was raced, the
main loop leaves a stopped stream at rest. -/
def stopContract : Contract mainLoop where
  Ghost := StopGhost
  note := StopGhost.note
  assumes g w t := truthful w t = true ∧ unraced g w t
  ensures := staysStopped
  inv g w := g.stopped = true → w.env.pipe.still

theorem stopContract_event {g : StopGhost} {w w' : World} {e : Interrupt × List FwCall}
    (inv : g.stopped = true → w.env.pipe.still) (occurs : mainLoop.occurs w e w') :
    staysStopped g w (.event e w') ∧
      ((g.note w (.event e w')).stopped = true → w'.env.pipe.still) := by
  obtain ⟨i, tr⟩ := e
  have pipe := interrupt_pipe occurs
  cases i with
  | produce =>
      obtain ⟨rfl, rfl⟩ := produce_occurs occurs
      exact ⟨fun ⟨c, made, _⟩ => absurd made (List.not_mem_nil), inv⟩
  | request setupdat0 setupdat1 =>
      obtain ⟨does, -⟩ := request_occurs occurs
      by_cases starts : startsStream (.request setupdat0 setupdat1, tr) = true
      · refine ⟨fun _ => .inr starts, fun stopped => ?_⟩
        have other : stops (.request setupdat0 setupdat1, tr) = false := by
          simp only [startsStream, Bool.and_eq_true, beq_iff_eq] at starts
          simp [stops, starts.1]
        simp [StopGhost.note, other, starts] at stopped
      · have quiet := does.unrestarted fun h => starts (by
          simp only [startsStream, Bool.and_eq_true, beq_iff_eq]
          exact h)
        refine ⟨fun h => absurd h (no_restart quiet), fun stopped => ?_⟩
        rw [pipe]
        by_cases stop : stops (.request setupdat0 setupdat1, tr) = true
        · have command : (Setup.decode setupdat0 setupdat1).command? = some .stopfx3 := by
            simpa [stops, Interrupt.command?] using stop
          rw [command] at does
          exact does.1.still _
        · refine still_foldl quiet (inv ?_)
          simpa [StopGhost.note, stop, starts] using stopped

/-- A step of the main loop that restarts nothing while the stream is stopped. -/
theorem stopContract_own {g : StopGhost} {w : World} {a : Access Ram Call.Ans}
    (inv : g.stopped = true → w.env.pipe.still)
    (live : staysStopped g w (.own a)) :
    stopContract.ensures g w (.own a) ∧ stopContract.inv g (sdk.step w a) := by
  refine ⟨live, fun stopped => ?_⟩
  cases a with
  | read => exact inv stopped
  | write f => exact inv stopped
  | call c r =>
      refine still_after r (Bool.eq_false_iff.mpr fun restarts => ?_) (inv stopped)
      have running := live restarts
      rw [stopped] at running
      cases running

/-- The host has the stream running, or has stopped it during the task. -/
def StopGhost.free (g : StopGhost) : Prop := g.stopped = false ∨ g.pending = true

/-- The stream was stopped before the task. -/
def StopGhost.strict (g : StopGhost) : Prop := g.stopped = true ∧ g.pending = false

theorem StopGhost.free_or_strict (g : StopGhost) : g.free ∨ g.strict := by
  obtain ⟨stopped, pending⟩ := g
  cases stopped <;> cases pending <;> simp [StopGhost.free, StopGhost.strict]

theorem free_stable : stopContract.Stable fun g _ => g.free := by
  intro (g : StopGhost) w e w' _ h _ _
  by_cases stop : stops e = true
  · right
    simp [stopContract, StopGhost.note, stop]
  by_cases starts : startsStream e = true
  · left
    simp [stopContract, StopGhost.note, stop, starts]
  · have same : StopGhost.note g w (.event e w') = g := by
      simp [StopGhost.note, stop, starts]
    show StopGhost.free (StopGhost.note g w (.event e w'))
    rw [same]
    exact h

/-- In a task that was not raced there is nothing to show then. -/
theorem free_leads (a : Access Ram Call.Ans) :
    stopContract.Leads (fun g _ => g.free) (fun g _ => g.free) a := by
  intro g w inv h _ assumes
  have live : staysStopped g w (.own a) := by
    cases a with
    | read => trivial
    | write f => trivial
    | call c r =>
        intro restarts
        have unpending : g.pending = false := assumes.2 restarts
        rcases h with stopped | pending
        · exact stopped
        · rw [unpending] at pending
          cases pending
  obtain ⟨ensures, inv'⟩ := stopContract_own inv live
  exact ⟨ensures, inv', h⟩

/-- While the stream is stopped the state machine is not read as streaming. -/
theorem strict_calm (g : StopGhost) (w : World) (a : Access Ram Call.Ans)
    (inv : g.stopped = true → w.env.pipe.still) (h : g.strict)
    (honest : truthful w (.own a) = true) : calm.relies w a := by
  cases a with
  | read => trivial
  | write f => trivial
  | call c r =>
      have idle : w.env.smLeftIdle = false := (inv h.1).2.1
      cases c with
      | gpifGetSMState =>
          have quiet : gpifStateIsStreamingActive (Option.getD r 0xFF) = false := by
            simpa [truthful, Call.truthful, idle] using honest
          exact quiet
      | _ => trivial

theorem strict_leads (a : Access Ram Call.Ans) (permits : calm.permits a) :
    stopContract.Leads (fun g _ => g.strict) (fun g _ => g.free ∨ g.strict) a := by
  intro g w inv h _ _
  have live : staysStopped g w (.own a) := by
    cases a with
    | read => trivial
    | write f => trivial
    | call c r =>
        intro restarts
        have quiet : c.restarts = false := permits
        rw [restarts] at quiet
        cases quiet
  obtain ⟨ensures, inv'⟩ := stopContract_own inv live
  exact ⟨ensures, inv', StopGhost.free_or_strict _⟩

theorem stopContract_met : stopContract.Met fun _ _ _ => True := by
  constructor
  · intro g w t inv _
    have holds := Contract.holds_of_keeps (s := w) (MainTask.prog_calm t)
      (fun _ _ _ _ _ _ _ _ => StopGhost.free_or_strict _) free_stable free_leads
      (fun g w a inv h _ assumes => strict_calm g w a inv h assumes.1) strict_leads
      (StopGhost.free_or_strict (g.note w (.start t)))
    exact ⟨trivial, inv, holds.mono fun _ _ _ _ _ => trivial⟩
  · intro g w out inv _ _
    exact ⟨trivial, inv⟩
  · intro g w e w' inv occurs _
    exact stopContract_event inv occurs

def StopGhost.init : StopGhost := ⟨false, false⟩

/-- A task was raced only if the stream is stopped. -/
theorem pending_note (g : StopGhost) (w : World) (t : mainLoop.Turn)
    (h : g.pending = true → g.stopped = true) :
    (g.note w t).pending = true → (g.note w t).stopped = true := by
  cases t with
  | start t => exact fun pending => by cases pending
  | own a => exact h
  | done out => exact h
  | event e w' =>
      simp only [StopGhost.note]
      by_cases stop : stops e = true
      · simp [stop]
      · by_cases starts : startsStream e = true
        · simp [stop, starts]
        · simpa [stop, starts] using h

/-- From any state and in any interleaving, the main loop and the requests leave a stopped
stream stopped just when no task restarts the stream after it was stopped in that task;
FW_TRG is then low and the state machine at rest until the host starts the stream. -/
theorem stop_not_undone {w₀ w : World} {turns : List (World × mainLoop.Turn)}
    {todo : mainLoop.Todo} (run : mainLoop.Run w₀ turns todo w)
    (honest : Threads.Throughout StopGhost.note (fun _ w t => truthful w t = true)
      StopGhost.init turns) :
    (Threads.Throughout StopGhost.note staysStopped StopGhost.init turns ↔
      Threads.Throughout StopGhost.note unraced StopGhost.init turns) ∧
    (Threads.Throughout StopGhost.note unraced StopGhost.init turns →
      (Threads.noted StopGhost.note StopGhost.init turns).stopped = true →
        w.env.fwTrg = false ∧ w.env.smRunning = false) := by
  have met (free : Threads.Throughout StopGhost.note unraced StopGhost.init turns) :
      Threads.Throughout StopGhost.note staysStopped StopGhost.init turns ∧
        ((Threads.noted StopGhost.note StopGhost.init turns).stopped = true →
          w.env.pipe.still) := by
    have init : stopContract.inv StopGhost.init w₀ := fun h => by cases h
    exact stopContract_met.run run init (honest.and free)
  refine ⟨⟨fun stays => ?_, fun free => (met free).1⟩, fun free stopped => ?_⟩
  · refine stays.imp (fun g => g.pending = true → g.stopped = true) (fun h => by cases h)
      pending_note fun g w t h stays => ?_
    cases t with
    | own a =>
        cases a with
        | read => trivial
        | write f => trivial
        | call c r =>
            refine fun restarts => Bool.eq_false_iff.mpr fun pending => ?_
            have live := stays restarts
            rw [h pending] at live
            cases live
    | _ => trivial
  · have still := (met free).2 stopped
    exact ⟨still.2.2, still.1⟩

/-! ## A raced tick -/

def stopRequest : Interrupt := .request 0x0000AB40 0

def streaming : World := (benchRun streamStart).2

theorem streaming_run : device.Run (benchRun streamStart).1 streaming := benchRun_run streamStart

/-- The stream delivers a buffer and stalls for three ticks; the host stops it when the check
of the third has taken `steps` steps. -/
def stalledThenStopped (steps : Nat) : mainLoop.Config :=
  mainLoop.replay streaming ([.event (Interrupt.produce.on Bench.idle)] ++ tickOn Bench.busy ++
    tickOn Bench.busy ++ tickOn Bench.busy ++ MainTask.heartbeat.whole Bench.busy ++
    [.start .check, .own Bench.busy.responder steps, .event (stopRequest.on Bench.idle),
      .own Bench.idle.responder 60, .done])

theorem stalledThenStopped_run (steps : Nat) : mainLoop.Run streaming
    (stalledThenStopped steps).turns (stalledThenStopped steps).todo
    (stalledThenStopped steps).state :=
  mainLoop.replay_run streaming _

/-- Stopped at the start of the check, the stream stays stopped. -/
theorem stop_not_undone_early :
    Threads.Throughout StopGhost.note staysStopped StopGhost.init (stalledThenStopped 0).turns ↔
      Threads.Throughout StopGhost.note unraced StopGhost.init (stalledThenStopped 0).turns :=
  (stop_not_undone (stalledThenStopped_run 0) (by decide +kernel)).1

/-- Stopped when the verdict is out, after 13 steps, it is restarted. -/
theorem stop_undone : ¬ ∀ (steps : List device.Step) (w₀ : World), device.Run steps w₀ →
    ∀ (turns : List (World × mainLoop.Turn)) (todo : mainLoop.Todo) (w : World),
      mainLoop.Run w₀ turns todo w →
      Threads.Throughout StopGhost.note (fun _ w t => truthful w t = true) StopGhost.init turns →
        Threads.Throughout StopGhost.note staysStopped StopGhost.init turns := by
  intro always
  obtain ⟨turns, todo, w, run, honest, restarted⟩ : ∃ turns todo w,
      mainLoop.Run streaming turns todo w ∧
      Threads.Throughout StopGhost.note (fun _ w t => truthful w t = true) StopGhost.init turns ∧
      ¬ Threads.Throughout StopGhost.note staysStopped StopGhost.init turns :=
    ⟨_, _, _, stalledThenStopped_run 13, by decide +kernel, by decide +kernel⟩
  exact restarted (always _ _ streaming_run turns todo w run honest)

end Rx888
