import Rx888.Watchdog.Session

/-! # What a tick does to the pipeline

A tick makes a light recovery exactly when one is due by the memory it starts from and
the state it reads of the state machine; any other tick only looks.
-/

namespace Rx888

open CallProgram

/-- The first state of the state machine a handler reads. -/
def firstState (os : List PipeOp) : UInt8 :=
  (os.findSome? fun
    | .smState state => some state
    | _ => none).getD 0

/-- The state a soft stop reads, right after it has lowered FW_TRG. -/
def softStopState (os : List PipeOp) : UInt8 :=
  firstState (os.dropWhile fun o => o != .fwTrg false)

/-- With the state machine in `state`, the sampler reports a wedge and the cap is not
reached. -/
def Ram.recoveryDue (m : Ram) (state : UInt8) : Prop :=
  m.app.glIsApplnActive = true ∧ (m.session.sample m.glDMACount state).2 = true ∧
    ¬ (m.session.sample m.glDMACount state).1.capped m.health.glWdgMaxRecovery

instance (s : SessionRam) (max : UInt8) : Decidable (s.capped max) :=
  inferInstanceAs (Decidable (max > 0 ∧ s.glWdgRecoveryCount ≥ max))

instance (m : Ram) (state : UInt8) : Decidable (m.recoveryDue state) :=
  inferInstanceAs (Decidable (_ ∧ _ ∧ ¬ SessionRam.capped _ _))

/-- The operations of a tick that recovers: the sampler's read, then light recovery. -/
def recoveryOps (state sm₀ sm : UInt8) (clk : List PipeOp) (ok xfer start : Bool) : List PipeOp :=
  [.smState state, .smState sm₀, .fwTrg false, .smState sm, .disable (sm != gpifIdle), .dmaReset] ++
    clk ++ if ok then [.setXfer xfer, .start start, .fwTrg true] else []

theorem softStopState_recoveryOps (state sm₀ sm : UInt8) (clk : List PipeOp)
    (ok xfer start : Bool) : softStopState (recoveryOps state sm₀ sm clk ok xfer start) = sm := rfl

theorem healthyClock_recoveryOps {state sm₀ sm : UInt8} {clk : List PipeOp} {ok xfer start : Bool}
    (check : ClockCheck clk ok) :
    healthyClock (recoveryOps state sm₀ sm clk ok xfer start) = ok := by
  cases check with
  | clk0Down => simp [healthyClock, recoveryOps]
  | clk0Up => cases ok <;> simp [healthyClock, recoveryOps]

theorem frozen_of_hit {s : SessionRam} {curDMA : UInt32} {state : UInt8}
    (hit : (s.sample curDMA state).2 = true) : curDMA = s.glPrevDMACount := by
  unfold SessionRam.sample at hit
  split at hit
  next frozen => exact frozen
  next => cases hit

/-- The read the sampler made, or that it would not have mattered. -/
theorem sample_firstState (m : Ram) (state : UInt8) (os : List PipeOp) :
    m.session.sample m.glDMACount (firstState (sampleOps m state ++ os)) =
      m.session.sample m.glDMACount state := by
  by_cases frozen : m.glDMACount = m.session.glPrevDMACount
  · rw [sampleOps, if_pos frozen]
    rfl
  · simp only [SessionRam.sample, if_neg frozen]

/-- Either a light recovery was due and made, or the tick left the pipeline as it was. -/
theorem tick_ops {t : device.Step} (tick : Act.isTick t.act = true)
    (idle : t.before.mem.ep0.ep0HandlerInProgress = false) :
    (t.before.mem.recoveryDue (firstState (stepOps t)) ∧
      ∃ state sm₀ sm clk ok xfer start, ClockCheck clk ok ∧
        stepOps t = recoveryOps state sm₀ sm clk ok xfer start) ∨
    (¬ t.before.mem.recoveryDue (firstState (stepOps t)) ∧ Idle (stepOps t)) := by
  obtain ⟨os₁, hs, s, os₂, split, sampler, -, remedied⟩ := tick_verdict tick idle
  rw [split]
  rcases sampler with ⟨off, rfl, rfl, rfl⟩ | ⟨on, state, rfl, rfl, rfl⟩
  · right
    generalize t.after.mem.session = s', t.after.mem.glDMACount = n' at remedied
    cases remedied
    exact ⟨fun due => by simp [Ram.recoveryDue, off] at due, by simp⟩
  · have same := sample_firstState t.before.mem state os₂
    have looks : Idle (sampleOps t.before.mem state) := by
      unfold sampleOps
      split <;> simp
    unfold Ram.recoveryDue
    rw [same]
    generalize t.after.mem.session = s', t.after.mem.glDMACount = n' at remedied
    by_cases hit : (t.before.mem.session.sample t.before.mem.glDMACount state).2 = true
    · rw [if_pos hit] at remedied
      cases remedied with
      | waiting capped idle =>
          right
          refine ⟨fun due => due.2.2 capped, ?_⟩
          rcases idle with rfl | check
          · simpa using looks
          · simp [looks, check.idle]
      | escalated capped may =>
          right
          exact ⟨fun due => due.2.2 capped, by simp [looks]⟩
      | light below ops =>
          left
          refine ⟨⟨on, hit, below⟩, ?_⟩
          rw [sampleOps, if_pos (frozen_of_hit hit)]
          cases ops with
          | @recovered clk ok sm₀ xfer start check =>
              exact ⟨state, sm₀, _, clk, _, xfer, start, check, rfl⟩
    · right
      rw [if_neg hit] at remedied
      refine ⟨fun due => hit due.2.1, ?_⟩
      cases remedied
      simpa using looks

end Rx888
