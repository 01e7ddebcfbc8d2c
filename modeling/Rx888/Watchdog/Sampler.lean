import Rx888.Pipeline.Commands

/-! # The streaming sampler and the verdict

`SessionRam.sample` is one sample of the stall detector as a function of the session
state, the buffer count and the state of the state machine. `healthEvaluate` is
that function behind the EP0 check.
-/

namespace Rx888

open CallProgram

/-- One sample: the next session state, and whether a wedge is reported. -/
def SessionRam.sample (s : SessionRam) (curDMA : UInt32) (state : UInt8) : SessionRam × Bool :=
  if curDMA = s.glPrevDMACount then
    if curDMA > 0 ∧ gpifStateIsBusyWait state then
      if s.glStallCount + 1 ≥ streamingStallTicks then
        ({ s with glColdStartCount := 0, glStallCount := 0, glWdgFaultKind := .progressStall },
          true)
      else ({ s with glColdStartCount := 0, glStallCount := s.glStallCount + 1 }, false)
    else if curDMA = 0 ∧ gpifStateIsStreamingActive state then
      if s.glColdStartCount + 1 ≥ coldStartWedgeTicks then
        ({ s with glStallCount := 0, glColdStartCount := 0, glWdgFaultKind := .coldStart }, true)
      else ({ s with glStallCount := 0, glColdStartCount := s.glColdStartCount + 1 }, false)
    else ({ s with glStallCount := 0, glColdStartCount := 0 }, false)
  else ({ s with glStallCount := 0, glColdStartCount := 0, glPrevDMACount := curDMA }, false)

variable {m : Ram}

/-- The state machine is read only when the count has not moved. -/
def sampleOps (m : Ram) (state : UInt8) : List PipeOp :=
  if m.glDMACount = m.session.glPrevDMACount then [.smState state] else []

theorem stallSample_does (curDMA : UInt32) (gpifState : UInt8) :
    Does (stallSample curDMA gpifState)
      (fun os hit m' => os = [] ∧ Unchanged [.console, .session] m m' ∧
        (m'.session, hit) =
          if m.session.glStallCount + 1 ≥ streamingStallTicks then
            ({ m.session with
              glColdStartCount := 0, glStallCount := 0, glWdgFaultKind := .progressStall }, true)
          else
            ({ m.session with
              glColdStartCount := 0, glStallCount := m.session.glStallCount + 1 }, false)) m := by
  unfold stallSample
  refine modifySession_bind_does fun m₁ e₁ u₁ => ?_
  refine modifySession_bind_does fun m₂ e₂ u₂ => ?_
  refine (does_bind _ _).mpr (does_ram.mpr ?_)
  refine debugPrint_bind_does _ _ fun m₃ u₃ => ?_
  refine (does_bind _ _).mpr (does_ram.mpr ?_)
  have e₃ : m₃.session = { m.session with
      glColdStartCount := 0, glStallCount := m.session.glStallCount + 1 } := by
    rw [u₃.session (by simp), e₂, e₁]
  have same₃ : Unchanged [.console, .session] m m₃ :=
    ((u₁.trans u₂).mono (by simp)).trans (u₃.mono (by simp))
  rw [e₃]
  by_cases strikes : m.session.glStallCount + 1 ≥ streamingStallTicks
  · rw [if_pos strikes, if_pos strikes]
    refine modifySession_bind_does fun m₄ e₄ u₄ => ?_
    refine modifySession_bind_does fun m₅ e₅ u₅ => ?_
    refine ⟨rfl, same₃.trans ((u₄.trans u₅).mono (by simp)), ?_⟩
    rw [e₅, e₄, e₃]
  · rw [if_neg strikes, if_neg strikes]
    exact ⟨rfl, same₃, by rw [e₃]⟩

theorem coldStartSample_does (gpifState : UInt8) :
    Does (coldStartSample gpifState)
      (fun os hit m' => os = [] ∧ Unchanged [.console, .session] m m' ∧
        (m'.session, hit) =
          if m.session.glColdStartCount + 1 ≥ coldStartWedgeTicks then
            ({ m.session with
              glStallCount := 0, glColdStartCount := 0, glWdgFaultKind := .coldStart }, true)
          else
            ({ m.session with
              glStallCount := 0, glColdStartCount := m.session.glColdStartCount + 1 }, false))
      m := by
  unfold coldStartSample
  refine modifySession_bind_does fun m₁ e₁ u₁ => ?_
  refine modifySession_bind_does fun m₂ e₂ u₂ => ?_
  refine (does_bind _ _).mpr (does_ram.mpr ?_)
  refine debugPrint_bind_does _ _ fun m₃ u₃ => ?_
  refine (does_bind _ _).mpr (does_ram.mpr ?_)
  have e₃ : m₃.session = { m.session with
      glStallCount := 0, glColdStartCount := m.session.glColdStartCount + 1 } := by
    rw [u₃.session (by simp), e₂, e₁]
  have same₃ : Unchanged [.console, .session] m m₃ :=
    ((u₁.trans u₂).mono (by simp)).trans (u₃.mono (by simp))
  rw [e₃]
  by_cases strikes : m.session.glColdStartCount + 1 ≥ coldStartWedgeTicks
  · rw [if_pos strikes, if_pos strikes]
    refine modifySession_bind_does fun m₄ e₄ u₄ => ?_
    refine modifySession_bind_does fun m₅ e₅ u₅ => ?_
    refine ⟨rfl, same₃.trans ((u₄.trans u₅).mono (by simp)), ?_⟩
    rw [e₅, e₄, e₃]
  · rw [if_neg strikes, if_neg strikes]
    exact ⟨rfl, same₃, by rw [e₃]⟩

theorem clearStrikes_does (message : String) (args : List DebugArg) :
    Does (clearStrikes message args)
      (fun os _ m' => os = [] ∧ Unchanged [.console, .session] m m' ∧
        m'.session = { m.session with glStallCount := 0, glColdStartCount := 0 }) m := by
  have clear : ∀ m₁, Unchanged [.console] m m₁ → Does (do
      modifySession fun ss => { ss with glStallCount := 0 }
      modifySession fun ss => { ss with glColdStartCount := 0 })
      (fun os _ m' => os = [] ∧ Unchanged [.console, .session] m m' ∧
        m'.session = { m.session with glStallCount := 0, glColdStartCount := 0 }) m₁ := by
    intro m₁ u₁
    refine modifySession_bind_does fun m₂ e₂ u₂ => ?_
    refine does_mono (modifySession_does _) fun os _ m' cleared => ?_
    obtain ⟨rfl, e₃, u₃⟩ := cleared
    refine ⟨rfl, (u₁.mono (by simp)).trans ((u₂.trans u₃).mono (by simp)), ?_⟩
    rw [e₃, e₂, u₁.session (by simp)]
  unfold clearStrikes
  refine (does_bind _ _).mpr (does_ram.mpr ?_)
  by_cases h : m.session.glStallCount > 0 ∨ m.session.glColdStartCount > 0
  · rw [if_pos h]
    exact debugPrint_bind_does _ _ fun m₁ u₁ => clear m₁ u₁
  · rw [if_neg h]
    exact clear m (Unchanged.refl _ _)

theorem streamingWedgeDetected_does :
    Does streamingWedgeDetected
      (fun os hit m' => ∃ state, os = sampleOps m state ∧
        (m'.session, hit) = m.session.sample m.glDMACount state ∧
        Unchanged [.console, .session] m m') m := by
  unfold streamingWedgeDetected
  refine (does_bind _ _).mpr (does_ram.mpr ?_)
  refine (does_bind _ _).mpr (does_ram.mpr ?_)
  by_cases frozen : m.glDMACount = m.session.glPrevDMACount
  · simp only [if_pos frozen, sampleOps, SessionRam.sample]
    refine (does_bind _ _).mpr (gpifGetSMState_does.mpr fun answer => ?_)
    by_cases stall : m.glDMACount > 0 ∧ gpifStateIsBusyWait (answer.getD 0xFF)
    · rw [if_pos stall]
      refine does_mono (stallSample_does _ _) fun os hit m' sampled => ?_
      obtain ⟨rfl, same, session⟩ := sampled
      refine ⟨answer.getD 0xFF, rfl, ?_, same⟩
      rw [if_pos stall, session]
    rw [if_neg stall]
    by_cases cold : m.glDMACount = 0 ∧ gpifStateIsStreamingActive (answer.getD 0xFF)
    · rw [if_pos cold]
      refine does_mono (coldStartSample_does _) fun os hit m' sampled => ?_
      obtain ⟨rfl, same, session⟩ := sampled
      refine ⟨answer.getD 0xFF, rfl, ?_, same⟩
      rw [if_neg stall, if_pos cold, session]
    · rw [if_neg cold]
      refine (clearStrikes_does _ _).bind fun os _ m₁ cleared => ?_
      obtain ⟨rfl, same, session⟩ := cleared
      refine ⟨answer.getD 0xFF, rfl, ?_, same⟩
      rw [if_neg stall, if_neg cold, session]
  · simp only [if_neg frozen, sampleOps, SessionRam.sample]
    refine (clearStrikes_does _ _).bind fun os _ m₁ cleared => ?_
    obtain ⟨rfl, same, session⟩ := cleared
    refine modifySession_bind_does fun m₂ e₂ u₂ => ?_
    refine ⟨0, rfl, ?_, same.trans (u₂.mono (by simp))⟩
    rw [e₂, session]

/-! ## The verdict -/

/-- An EP0 handler is in progress and, by the clock sample `now`, has timed out. -/
def Ep0Ram.overdue (e : Ep0Ram) (now : UInt32) : Bool :=
  e.ep0HandlerInProgress && decide (now - e.ep0HandlerEnterMs ≥ ep0HandlerTimeoutMs)

/-- What an evaluation finds. -/
inductive Evaluated (m : Ram) : List PipeOp → HealthStatus → SessionRam → Prop where
  | overdue (now : UInt32) (late : m.ep0.overdue now = true) :
      Evaluated m [] .wedgedEp0 m.session
  | inactive (off : m.app.glIsApplnActive = false) : Evaluated m [] .ok m.session
  | sampled (state : UInt8) (on : m.app.glIsApplnActive = true) :
      Evaluated m (sampleOps m state)
        (if (m.session.sample m.glDMACount state).2 then .wedgedStreaming else .ok)
        (m.session.sample m.glDMACount state).1

theorem healthEvaluate_does :
    Does healthEvaluate
      (fun os hs m' => Evaluated m os hs m'.session ∧ Unchanged [.console, .session] m m') m := by
  have sampler : Does (do
      if (← ram).app.glIsApplnActive then
        if ← streamingWedgeDetected then
          return .wedgedStreaming
      return .ok)
      (fun os hs m' => Evaluated m os hs m'.session ∧ Unchanged [.console, .session] m m') m := by
    refine (does_bind _ _).mpr (does_ram.mpr ?_)
    by_cases active : m.app.glIsApplnActive = true
    · rw [if_pos active]
      refine streamingWedgeDetected_does.bind fun os hit m₁ sampled => ?_
      obtain ⟨state, rfl, outcome, same⟩ := sampled
      have found : Evaluated m _ _ _ := .sampled state active
      rw [← outcome] at found
      cases hit with
      | true => exact ⟨by simpa using found, same⟩
      | false => exact ⟨by simpa using found, same⟩
    · rw [if_neg active]
      exact ⟨.inactive (Bool.eq_false_iff.mpr active), Unchanged.refl _ _⟩
  unfold healthEvaluate
  refine (does_bind _ _).mpr (does_ram.mpr ?_)
  by_cases busy : m.ep0.ep0HandlerInProgress = true
  · rw [if_pos busy]
    refine plain_call_bind_does (fun _ => rfl) (fun _ => rfl) fun now _ => ?_
    refine (does_bind _ _).mpr (does_ram.mpr ?_)
    by_cases late : now - m.ep0.ep0HandlerEnterMs ≥ ep0HandlerTimeoutMs
    · rw [if_pos late]
      exact ⟨.overdue now (by simp [Ep0Ram.overdue, busy, late]), Unchanged.refl _ _⟩
    · rw [if_neg late]
      exact sampler
  · rw [if_neg busy]
    exact sampler

end Rx888
