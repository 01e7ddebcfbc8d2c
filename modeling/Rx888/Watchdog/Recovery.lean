import Rx888.Watchdog.Sampler

/-! # The remedy and the whole tick

`healthRecover` by its branches: nothing, a device reset, the cap with its
escalation, and light recovery. `healthTick_does` puts the verdict and the remedy
together.
-/

namespace Rx888

open CallProgram

variable {m : Ram}

/-- The recovery cap `max` is in force and reached. -/
def SessionRam.capped (s : SessionRam) (max : UInt8) : Prop :=
  max > 0 ∧ s.glWdgRecoveryCount ≥ max

/-- A capped wedge of this session may still escalate to a device reset. -/
def SessionRam.escalatable (s : SessionRam) (enabled : Bool) : Prop :=
  s.glWdgFaultKind = .coldStart ∧ enabled = true ∧ ¬ s.glWdgEscalated = true

/-- The operations of light recovery, by the state read after the soft stop and the
outcome of the clock check. -/
inductive LightOps (sm : UInt8) : Bool → List PipeOp → Prop where
  | recovered {clk : List PipeOp} {ok : Bool} (sm₀ : UInt8) (xfer start : Bool)
      (check : ClockCheck clk ok) :
      LightOps sm ok (.smState sm₀ :: [.fwTrg false, .smState sm, .disable (sm != gpifIdle),
        .dmaReset] ++ clk ++ if ok then [.setXfer xfer, .start start, .fwTrg true] else [])

/-- What the remedy for a verdict does under the settings `h`, from the session state `s`
and the buffer count `n`, and what it makes of the two. -/
inductive Remedied (h : HealthRam) (s : SessionRam) (n : UInt32) :
    HealthStatus → List PipeOp → SessionRam → UInt32 → Prop where
  | nothing : Remedied h s n .ok [] s n
  | deviceReset : Remedied h s n .wedgedEp0 [] s n
  | waiting (capped : s.capped h.glWdgMaxRecovery) {os : List PipeOp}
      (idle : os = [] ∨ ClockCheck os false) : Remedied h s n .wedgedStreaming os s n
  | escalated (capped : s.capped h.glWdgMaxRecovery)
      (may : s.escalatable h.glWdgResetEscalationEn) :
      Remedied h s n .wedgedStreaming [.clk0 true, .pll true]
        { s with glWdgEscalated := true } n
  | light (below : ¬ s.capped h.glWdgMaxRecovery) {sm : UInt8} {ok : Bool} {os : List PipeOp}
      (ops : LightOps sm ok os) :
      Remedied h s n .wedgedStreaming os
        { s with glWdgRecoveryCount := s.glWdgRecoveryCount + 1, glPrevDMACount := 0 } 0

/-- The remedy of the memory `m` for a verdict. -/
abbrev RemediedIn (m : Ram) (hs : HealthStatus) (os : List PipeOp) (m' : Ram) : Prop :=
  Remedied m.health m.session m.glDMACount hs os m'.session m'.glDMACount

abbrev remedyParts : List Part := [.console, .session, .buffers, .counter]

theorem recoverCapped_does (capped : m.session.capped m.health.glWdgMaxRecovery) :
    Does recoverCapped
      (fun os _ m' => RemediedIn m .wedgedStreaming os m' ∧
        Unchanged remedyParts m m') m := by
  have finish : ∀ m₁ : Ram, Does (do
      debugPrint "\r\nWDG: recovery limit (%d), waiting for STARTFX3"
        [.num (← ram).health.glWdgMaxRecovery.toUInt32])
      (fun os _ m' => os = [] ∧ Unchanged [.console] m₁ m') m₁ := by
    intro m₁
    exact Quiet.does (by simp : Quiet [] _)
  unfold recoverCapped
  refine (does_bind _ _).mpr (does_ram.mpr ?_)
  by_cases may : m.session.escalatable m.health.glWdgResetEscalationEn
  · rw [if_pos (by simpa [SessionRam.escalatable] using may)]
    refine clockHealthy_does.bind fun os ok m₁ checked => ?_
    obtain ⟨check, u₁⟩ := checked
    cases ok with
    | true =>
        cases check
        refine modifySession_bind_does fun m₂ e₂ u₂ => ?_
        refine Quiet.bind_does (by simp : Quiet [.counter] _) fun _ m₃ u₃ => ?_
        refine (does_bind _ _).mpr (does_ram.mpr ?_)
        refine debugPrint_bind_does _ _ fun m₄ u₄ => ?_
        refine plain_bind_does (fun _ => rfl) (fun _ => rfl) ?_
        refine does_mono (finish m₄) fun os _ m' done => ?_
        obtain ⟨rfl, u₅⟩ := done
        have later : Unchanged [.console, .counter] m₂ m' :=
          u₃.trans ((u₄.trans u₅).mono (by simp))
        rw [RemediedIn, later.session (by simp), e₂, u₁.session (by simp), later.buffers (by simp),
          u₂.buffers (by simp), u₁.buffers (by simp)]
        refine ⟨.escalated capped may, (u₁.mono (by simp)).trans ?_⟩
        exact (u₂.mono (by simp)).trans (later.mono (by simp))
    | false =>
        refine does_mono (finish m₁) fun os' _ m' done => ?_
        obtain ⟨rfl, u₂⟩ := done
        rw [RemediedIn, u₂.session (by simp), u₂.buffers (by simp), u₁.session (by simp),
          u₁.buffers (by simp), List.append_nil]
        exact ⟨.waiting capped (.inr check), (u₁.mono (by simp)).trans (u₂.mono (by simp))⟩
  · rw [if_neg (by simpa [SessionRam.escalatable] using may)]
    refine does_mono (finish m) fun os _ m' done => ?_
    obtain ⟨rfl, u⟩ := done
    rw [RemediedIn, u.session (by simp), u.buffers (by simp)]
    exact ⟨.waiting capped (.inl rfl), u.mono (by simp)⟩

theorem recoverRestart_does (hwOk : Bool) :
    Does (recoverRestart hwOk)
      (fun os _ m' => (∃ xfer start,
        os = if hwOk then [.setXfer xfer, .start start, .fwTrg true] else []) ∧ m' = m) m := by
  cases hwOk with
  | true =>
      intro xfer _ start _ _ _
      exact ⟨⟨xfer == cyU3PSuccess, start == cyU3PSuccess, rfl⟩, rfl⟩
  | false => exact ⟨⟨false, false, rfl⟩, rfl⟩

theorem recoverLight_does (below : ¬ m.session.capped m.health.glWdgMaxRecovery) :
    Does recoverLight
      (fun os _ m' => RemediedIn m .wedgedStreaming os m' ∧
        Unchanged remedyParts m m') m := by
  unfold recoverLight
  refine (does_bind _ _).mpr (does_ram.mpr ?_)
  refine (does_bind _ _).mpr (gpifGetSMState_does.mpr fun state => ?_)
  refine modifySession_bind_does fun m₁ e₁ u₁ => ?_
  refine (does_bind _ _).mpr (does_ram.mpr ?_)
  refine (does_bind _ _).mpr (does_ram.mpr ?_)
  refine debugPrint_bind_does _ _ fun m₂ u₂ => ?_
  refine (softStop_does _).bind fun os _ m₃ stopped => ?_
  obtain ⟨⟨sm, rfl⟩, u₃⟩ := stopped
  refine call_bind_does fun reset _ => ?_
  refine plain_call_bind_does (fun _ => rfl) (fun _ => rfl) fun flush _ => ?_
  refine clockHealthy_does.bind fun clk ok m₄ checked => ?_
  obtain ⟨check, u₄⟩ := checked
  have u₄ : Unchanged [.console, .counter] m₃ m₄ := u₄
  refine (recoverRestart_does ok).bind fun os rcs m₅ restarted => ?_
  obtain ⟨⟨xfer, start, rfl⟩, rfl⟩ := restarted
  refine Quiet.bind_does (by simp : Quiet [.counter] _) fun _ m₆ u₆ => ?_
  refine debugPrint_bind_does _ _ fun m₇ u₇ => ?_
  refine modifySession_bind_does fun m₈ e₈ u₈ => ?_
  have before : Unchanged [.console, .counter] m₁ m₇ :=
    ((u₂.trans u₃).mono (by simp)).trans (u₄.trans (u₆.trans (u₇.mono (by simp))))
  have session : m₈.session = { m.session with
      glWdgRecoveryCount := m.session.glWdgRecoveryCount + 1, glPrevDMACount := 0 } := by
    rw [e₈, before.session (by simp), e₁]
  refine ⟨?_, ?_⟩
  · have ops : LightOps sm ok _ := .recovered (state.getD 0xFF) xfer start check
    have light : Remedied m.health m.session m.glDMACount _ _ _ _ := .light below ops
    simpa [RemediedIn, opOf, ← session] using light
  · have cleared : Unchanged remedyParts m₈ { m₈ with glDMACount := 0 } := by
      constructor <;> first | exact fun _ => rfl | simp
    refine Unchanged.trans ?_ cleared
    exact (u₁.mono (by simp)).trans ((before.mono (by simp)).trans (u₈.mono (by simp)))

theorem healthRecover_does (hs : HealthStatus) :
    Does (healthRecover hs)
      (fun os _ m' => (hs ≠ .wedgedUnknown →
        RemediedIn m hs os m') ∧ Unchanged remedyParts m m') m := by
  cases hs with
  | ok => exact ⟨fun _ => .nothing, Unchanged.refl _ _⟩
  | wedgedUnknown => exact ⟨fun h => absurd rfl h, Unchanged.refl _ _⟩
  | wedgedEp0 =>
      exact fun _ _ => ⟨fun _ => .deviceReset, Unchanged.refl _ _⟩
  | wedgedStreaming =>
      unfold healthRecover
      refine (does_bind _ _).mpr (does_ram.mpr ?_)
      refine (does_bind _ _).mpr (does_ram.mpr ?_)
      refine (does_bind _ _).mpr (does_ram.mpr ?_)
      by_cases capped : m.session.capped m.health.glWdgMaxRecovery
      · rw [if_pos (by simpa [SessionRam.capped] using capped)]
        exact does_mono (recoverCapped_does capped) fun os _ m' h => ⟨fun _ => h.1, h.2⟩
      · rw [if_neg (by simpa [SessionRam.capped] using capped)]
        exact does_mono (recoverLight_does capped) fun os _ m' h => ⟨fun _ => h.1, h.2⟩

/-! ## The tick -/

abbrev tickParts : List Part := .health :: remedyParts

/-- A tick evaluates and remedies; the settings outlive it. -/
structure TickDoes (m : Ram) (os : List PipeOp) (m' : Ram) : Prop where
  verdict : ∃ os₁ hs s os₂, os = os₁ ++ os₂ ∧ Evaluated m os₁ hs s ∧
    Remedied m.health s m.glDMACount hs os₂ m'.session m'.glDMACount
  maxRecovery : m'.health.glWdgMaxRecovery = m.health.glWdgMaxRecovery
  escalationEn : m'.health.glWdgResetEscalationEn = m.health.glWdgResetEscalationEn
  others : Unchanged tickParts m m'

theorem healthRemedy_does (hs : HealthStatus) :
    Does (healthRemedy hs)
      (fun os _ m' => (hs ≠ .wedgedUnknown → RemediedIn m hs os m') ∧
        Unchanged remedyParts m m') m := by
  by_cases ok : hs = .ok
  · subst ok
    exact ⟨fun _ => .nothing, Unchanged.refl _ _⟩
  · rw [healthRemedy, if_pos ok]
    refine debugPrint_bind_does _ _ fun m₁ printed => ?_
    refine does_mono (healthRecover_does hs) fun os _ m' recovered => ?_
    refine ⟨fun known => ?_, (printed.mono (by simp)).trans recovered.2⟩
    have remedied := recovered.1 known
    rwa [RemediedIn, printed.health (by simp), printed.session (by simp),
      printed.buffers (by simp)] at remedied

theorem Evaluated.known {os : List PipeOp} {hs : HealthStatus} {s : SessionRam}
    (h : Evaluated m os hs s) : hs ≠ .wedgedUnknown := by
  cases h with
  | overdue now late => simp
  | inactive off => simp
  | sampled state on => split <;> simp

/-- Remedies look at the settings only. -/
theorem Remedied.settings {h h' : HealthRam} {s s' : SessionRam} {n n' : UInt32}
    {hs : HealthStatus} {os : List PipeOp} (r : Remedied h s n hs os s' n')
    (max : h'.glWdgMaxRecovery = h.glWdgMaxRecovery)
    (en : h'.glWdgResetEscalationEn = h.glWdgResetEscalationEn) :
    Remedied h' s n hs os s' n' := by
  cases r with
  | nothing => exact .nothing
  | deviceReset => exact .deviceReset
  | waiting capped idle => exact .waiting (max ▸ capped) idle
  | escalated capped may => exact .escalated (max ▸ capped) (en ▸ may)
  | light below ops => exact .light (max ▸ below) ops

/-- An evaluation looks at four parts of the memory. -/
theorem Evaluated.transport {m₁ : Ram} {os : List PipeOp} {hs : HealthStatus} {s : SessionRam}
    (h : Evaluated m₁ os hs s) (ep0 : m₁.ep0 = m.ep0) (app : m₁.app = m.app)
    (session : m₁.session = m.session) (buffers : m₁.glDMACount = m.glDMACount) :
    Evaluated m os hs s := by
  have ops : ∀ state, sampleOps m₁ state = sampleOps m state := by
    intro state
    rw [sampleOps, sampleOps, session, buffers]
  cases h with
  | overdue now late =>
      rw [session]
      exact .overdue now (ep0 ▸ late)
  | inactive off =>
      rw [session]
      exact .inactive (app ▸ off)
  | sampled state on =>
      rw [ops, session, buffers]
      exact .sampled state (app ▸ on)

theorem healthTick_does : Does healthTick (fun os _ m' => TickDoes m os m') m := by
  unfold healthTick
  refine modify_bind_does ?_
  refine healthEvaluate_does.bind fun os₁ hs m₂ evaluated => ?_
  obtain ⟨found, u₂⟩ := evaluated
  refine does_mono (healthRemedy_does hs) fun os₂ _ m' remedied => ?_
  obtain ⟨remedy, u₃⟩ := remedied
  have verdict : Evaluated m os₁ hs m₂.session := found.transport rfl rfl rfl rfl
  have health : m'.health = _ := (u₃.health (by simp)).trans (u₂.health (by simp))
  have heartbeat : Unchanged tickParts m
      { m with health := { m.health with glMainHeartbeat := m.health.glMainHeartbeat + 1 } } := by
    constructor <;> first | exact fun _ => rfl | simp
  refine ⟨⟨os₁, hs, m₂.session, os₂, rfl, verdict, ?_⟩, ?_, ?_, ?_⟩
  · have done := remedy found.known
    rw [RemediedIn, u₂.health (by simp), u₂.buffers (by simp)] at done
    exact done.settings rfl rfl
  · rw [health]
  · rw [health]
  · exact heartbeat.trans ((u₂.mono (by simp)).trans (u₃.mono (by simp)))

end Rx888
