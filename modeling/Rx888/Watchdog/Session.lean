import Rx888.Device.Bench

/-! # Streaming sessions

A session begins at a boot, at a STOPFX3 and at a STARTFX3 that passes its preflight
check. What the watchdog remembers of a session is tied here to the steps taken in it:
its recovery count to the light recoveries, its cold-start strikes to the samples, and
its escalation flag to the device resets.
-/

namespace Rx888

open CallProgram

/-! ## The history -/

/-- STARTFX3's preflight check read CLK0 up and PLL A locked. -/
def preflightPassed (os : List PipeOp) : Bool := [.clk0 true, .pll true].isPrefixOf os

def commandResetsSession (os : List PipeOp) : Option FX3Command → Bool
  | some .stopfx3 => true
  | some .startfx3 => preflightPassed os
  | _ => false

def Act.resetsSession (os : List PipeOp) : Act → Bool
  | .boot => true
  | a => commandResetsSession os a.command?

def resetsSession (t : device.Step) : Bool := Act.resetsSession (stepOps t) t.act

def Act.isTick : Act → Bool
  | .tick => true
  | _ => false

/-- A tick that stops the pipeline and resets the DMA channel. -/
def lightRecovery (t : device.Step) : Bool :=
  Act.isTick t.act && (stepOps t).contains .dmaReset

def sampled (t : device.Step) : Bool := Act.isTick t.act && t.before.mem.app.glIsApplnActive

/-- The sampler finds no buffer, none at its last run, and the state machine streaming. -/
def sawColdStart (t : device.Step) : Bool :=
  t.before.mem.glDMACount == 0 && t.before.mem.session.glPrevDMACount == 0 &&
    match stepOps t with
    | .smState state :: _ => gpifStateIsStreamingActive state
    | _ => false

def Call.isDeviceReset : Call → Bool
  | .deviceReset _ => true
  | _ => false

def streamReset (t : device.Step) : Bool :=
  Act.isTick t.act && t.trace.any fun c => c.call.isDeviceReset

/-- The steps of the current session after the one that started it. -/
def session (steps : List device.Step) : List device.Step := since resetsSession steps

def lightRecoveries (steps : List device.Step) : Nat := (session steps).countP lightRecovery

/-- How many of the session's sampler runs, counted back from the last, saw a cold start. -/
def coldSamples (steps : List device.Step) : Nat :=
  (((session steps).filter sampled).reverse.takeWhile sawColdStart).length

/-! ## What a step makes of the session -/

theorem StartOps.preflight {os : List PipeOp} {passed : Bool} (h : StartOps os passed) :
    preflightPassed os = passed := by
  cases h with
  | refused check => cases check <;> rfl
  | restarted ok sm restart => rfl

theorem RequestDoes.fresh {command : Option FX3Command} {m m' : Ram} {os : List PipeOp}
    (h : RequestDoes command m os m') (resets : commandResetsSession os command = true) :
    NewSession m' := by
  unfold RequestDoes at h
  split at h
  · obtain ⟨passed, starts, fresh, -⟩ := h
    exact fresh (starts.preflight.symm.trans resets)
  · exact h.2.1
  all_goals simp [commandResetsSession] at resets

/-- A request that starts no session keeps what is remembered of the current one. -/
theorem RequestDoes.kept {command : Option FX3Command} {m m' : Ram} {os : List PipeOp}
    (h : RequestDoes command m os m') (same : commandResetsSession os command = false) :
    Unchanged requestParts m m' := by
  unfold RequestDoes at h
  split at h
  · obtain ⟨passed, starts, -, refused, -⟩ := h
    exact refused (starts.preflight.symm.trans same)
  · cases same
  all_goals exact h.2

/-- Starting a session clears all that the watchdog remembers of the last one. -/
theorem session_fresh {t : device.Step} (resets : resetsSession t = true) :
    t.after.mem.session = SessionRam.fresh := by
  have does := step_does t
  unfold resetsSession at resets
  cases act : t.act with
  | boot =>
      rw [act] at does
      obtain ⟨usb, -, -, -, same⟩ := does
      rw [same.session (by simp)]
      rfl
  | request setupdat0 setupdat1 =>
      rw [act] at does resets
      exact (does.1.fresh resets).1
  | usbEvent evtype evdata => rw [act] at resets; cases resets
  | tick => rw [act] at resets; cases resets
  | buffers count => rw [act] at resets; cases resets
  | active flag => rw [act] at resets; cases resets

/-- Outside the ticks nothing else touches it. -/
theorem session_kept {t : device.Step} (same : resetsSession t = false)
    (other : Act.isTick t.act = false) : t.after.mem.session = t.before.mem.session := by
  have does := step_does t
  unfold resetsSession at same
  cases act : t.act with
  | boot => rw [act] at same; cases same
  | request setupdat0 setupdat1 =>
      rw [act] at does same
      exact (does.1.kept same).session (by simp)
  | usbEvent evtype evdata =>
      rw [act] at does
      exact does.2.session (by simp)
  | tick => rw [act] at other; cases other
  | buffers count =>
      rw [act] at does
      rw [does.2]
  | active flag =>
      rw [act] at does
      rw [does.2]

/-! ## The sampler -/

section Sample

variable (s : SessionRam) (curDMA : UInt32) (state : UInt8)

theorem sample_recoveryCount :
    (s.sample curDMA state).1.glWdgRecoveryCount = s.glWdgRecoveryCount := by
  unfold SessionRam.sample
  repeat' split
  all_goals rfl

theorem sample_escalated : (s.sample curDMA state).1.glWdgEscalated = s.glWdgEscalated := by
  unfold SessionRam.sample
  repeat' split
  all_goals rfl

/-- A sample that does not see a cold start leaves no strike. -/
theorem sample_other (h : ¬ (curDMA = 0 ∧ s.glPrevDMACount = 0 ∧
      gpifStateIsStreamingActive state = true)) :
    (s.sample curDMA state).1.glColdStartCount = 0 := by
  unfold SessionRam.sample
  split
  next frozen =>
    split
    · split <;> rfl
    · split
      next cold =>
        exact absurd ⟨cold.1, frozen ▸ cold.1, cold.2⟩ h
      next => rfl
  next => rfl

/-- A sample that sees one adds a strike, or reports the wedge at the last and starts
over. -/
theorem sample_cold (none : curDMA = 0) (before : s.glPrevDMACount = 0)
    (active : gpifStateIsStreamingActive state = true) :
    s.sample curDMA state =
      if s.glColdStartCount + 1 ≥ coldStartWedgeTicks then
        ({ s with glStallCount := 0, glColdStartCount := 0, glWdgFaultKind := .coldStart }, true)
      else ({ s with glStallCount := 0, glColdStartCount := s.glColdStartCount + 1 }, false) := by
  have frozen : curDMA = s.glPrevDMACount := none.trans before.symm
  have still : ¬ (curDMA > 0 ∧ gpifStateIsBusyWait state) := by
    rw [none]
    simp
  rw [SessionRam.sample, if_pos frozen, if_neg still, if_pos ⟨none, active⟩]

/-- The strikes go up by at most one, only for a cold start, and stay below the limit. -/
theorem sample_strikes :
    (s.sample curDMA state).1.glColdStartCount.toNat ≤
      (if curDMA = 0 ∧ s.glPrevDMACount = 0 ∧ gpifStateIsStreamingActive state = true then
        s.glColdStartCount.toNat + 1 else 0) ∧
    (s.sample curDMA state).1.glColdStartCount < coldStartWedgeTicks := by
  by_cases cold : curDMA = 0 ∧ s.glPrevDMACount = 0 ∧ gpifStateIsStreamingActive state = true
  · obtain ⟨none, before, active⟩ := cold
    rw [if_pos ⟨none, before, active⟩, sample_cold s curDMA state none before active]
    by_cases strikes : s.glColdStartCount + 1 ≥ coldStartWedgeTicks
    · rw [if_pos strikes]
      have zero : (0 : UInt8) < coldStartWedgeTicks := by decide
      exact ⟨Nat.zero_le _, zero⟩
    · rw [if_neg strikes]
      refine ⟨?_, by simpa using strikes⟩
      rw [UInt8.toNat_add]
      exact Nat.mod_le _ _
  · rw [if_neg cold, sample_other s curDMA state cold]
    exact ⟨Nat.le_refl _, by decide⟩

/-- A wedge of the cold-start kind is reported only by a fifth strike. -/
theorem sample_coldStart (hit : (s.sample curDMA state).2 = true)
    (kind : (s.sample curDMA state).1.glWdgFaultKind = .coldStart) :
    curDMA = 0 ∧ s.glPrevDMACount = 0 ∧ gpifStateIsStreamingActive state = true ∧
      s.glColdStartCount + 1 ≥ coldStartWedgeTicks := by
  unfold SessionRam.sample at hit kind
  split at hit
  next frozen =>
    rw [if_pos frozen] at kind
    split at hit
    next stall =>
      rw [if_pos stall] at kind
      split at hit
      next strikes =>
        rw [if_pos strikes] at kind
        cases kind
      next => cases hit
    next still =>
      rw [if_neg still] at kind
      split at hit
      next cold =>
        split at hit
        next strikes => exact ⟨cold.1, frozen ▸ cold.1, cold.2, strikes⟩
        next => cases hit
      next => cases hit
  next => cases hit

end Sample

/-! ## The remedy -/

theorem ClockCheck.noDmaReset {os : List PipeOp} {ok : Bool} (h : ClockCheck os ok) :
    .dmaReset ∉ os := by
  cases h <;> simp

theorem Evaluated.noDmaReset {m : Ram} {os : List PipeOp} {hs : HealthStatus} {s : SessionRam}
    (h : Evaluated m os hs s) : .dmaReset ∉ os := by
  cases h with
  | overdue now late => simp
  | inactive off => simp
  | sampled state on =>
      unfold sampleOps
      split <;> simp

/-- The recovery count counts the light recoveries, and each was below the cap. -/
theorem Remedied.recoveryCount {h : HealthRam} {s s' : SessionRam} {n n' : UInt32}
    {hs : HealthStatus} {os : List PipeOp} (r : Remedied h s n hs os s' n') :
    (.dmaReset ∉ os ∧ s'.glWdgRecoveryCount = s.glWdgRecoveryCount) ∨
    (.dmaReset ∈ os ∧ ¬ s.capped h.glWdgMaxRecovery ∧
      s'.glWdgRecoveryCount = s.glWdgRecoveryCount + 1) := by
  cases r with
  | nothing => exact .inl ⟨by simp, rfl⟩
  | deviceReset => exact .inl ⟨by simp, rfl⟩
  | waiting capped idle =>
      left
      rcases idle with rfl | check
      · exact ⟨by simp, rfl⟩
      · exact ⟨check.noDmaReset, rfl⟩
  | escalated capped may => exact .inl ⟨by simp, rfl⟩
  | light below ops =>
      cases ops
      exact .inr ⟨by simp, below, rfl⟩

theorem Remedied.coldStartCount {h : HealthRam} {s s' : SessionRam} {n n' : UInt32}
    {hs : HealthStatus} {os : List PipeOp} (r : Remedied h s n hs os s' n') :
    s'.glColdStartCount = s.glColdStartCount := by
  cases r <;> rfl

/-- Once escalated, a session stays so. -/
theorem Remedied.escalated_mono {h : HealthRam} {s s' : SessionRam} {n n' : UInt32}
    {hs : HealthStatus} {os : List PipeOp} (r : Remedied h s n hs os s' n')
    (was : s.glWdgEscalated = true) : s'.glWdgEscalated = true := by
  cases r <;> first | exact was | rfl

/-! ## Along a run -/

theorem tick_of_isTick {a : Act} (h : a.isTick = true) : a = .tick := by
  cases a <;> first | rfl | cases h

theorem not_resetsSession_of_tick {t : device.Step} (tick : Act.isTick t.act = true) :
    resetsSession t = false := by
  rw [resetsSession, tick_of_isTick tick]
  rfl

theorem session_concat (steps : List device.Step) (t : device.Step) :
    session (steps ++ [t]) = if resetsSession t then [] else session steps ++ [t] :=
  since_concat resetsSession steps t

theorem lightRecoveries_concat (steps : List device.Step) (t : device.Step) :
    lightRecoveries (steps ++ [t]) =
      if resetsSession t then 0 else lightRecoveries steps + (lightRecovery t).toNat := by
  unfold lightRecoveries
  rw [session_concat]
  cases resetsSession t with
  | true => rfl
  | false =>
      rw [if_neg (by simp), if_neg (by simp), List.countP_append]
      cases h : lightRecovery t <;> simp [h]

theorem coldSamples_concat (steps : List device.Step) (t : device.Step) :
    coldSamples (steps ++ [t]) =
      if resetsSession t then 0
      else if sampled t then (if sawColdStart t then coldSamples steps + 1 else 0)
      else coldSamples steps := by
  unfold coldSamples
  rw [session_concat]
  cases resetsSession t with
  | true => rfl
  | false =>
      rw [if_neg (by simp), if_neg (by simp), List.filter_append]
      cases hs : sampled t with
      | false => simp [hs]
      | true =>
          cases hc : sawColdStart t <;> simp [hs, hc]

/-- What the watchdog's counters say of the session so far. -/
structure SessionInv (steps : List device.Step) (s : SessionRam) : Prop where
  recoveries : s.glWdgRecoveryCount.toNat = lightRecoveries steps % 256
  strikes : s.glColdStartCount.toNat ≤ coldSamples steps
  unreported : s.glColdStartCount < coldStartWedgeTicks

theorem SessionInv.fresh {steps : List device.Step} {t : device.Step}
    (resets : resetsSession t = true) : SessionInv (steps ++ [t]) t.after.mem.session := by
  rw [session_fresh resets]
  constructor
  · rw [lightRecoveries_concat, if_pos resets]
    rfl
  · exact Nat.zero_le _
  · decide

/-- A tick's verdict and remedy when no EP0 handler is in progress. -/
theorem tick_verdict {t : device.Step} (tick : Act.isTick t.act = true)
    (idle : t.before.mem.ep0.ep0HandlerInProgress = false) :
    ∃ os₁ hs s os₂, stepOps t = os₁ ++ os₂ ∧
      (t.before.mem.app.glIsApplnActive = false ∧ os₁ = [] ∧ hs = .ok ∧
          s = t.before.mem.session ∨
        t.before.mem.app.glIsApplnActive = true ∧ ∃ state, os₁ = sampleOps t.before.mem state ∧
          s = (t.before.mem.session.sample t.before.mem.glDMACount state).1 ∧
          hs = if (t.before.mem.session.sample t.before.mem.glDMACount state).2 then
            .wedgedStreaming else .ok) ∧
      .dmaReset ∉ os₁ ∧
      Remedied t.before.mem.health s t.before.mem.glDMACount hs os₂ t.after.mem.session
        t.after.mem.glDMACount := by
  have does := step_does t
  rw [tick_of_isTick tick] at does
  obtain ⟨os₁, hs, s, os₂, split, evaluated, remedied⟩ := TickDoes.verdict does
  refine ⟨os₁, hs, s, os₂, split, ?_, evaluated.noDmaReset, remedied⟩
  generalize t.before.mem = m at evaluated idle ⊢
  cases evaluated with
  | overdue now late => simp [Ep0Ram.overdue, idle] at late
  | inactive off => exact .inl ⟨off, rfl, rfl, rfl⟩
  | sampled state on => exact .inr ⟨on, state, rfl, rfl, rfl⟩

/-- What a sampling tick saw, as its operations show it. -/
theorem sawColdStart_iff {t : device.Step} {state : UInt8} {os₂ : List PipeOp}
    (ops : stepOps t = sampleOps t.before.mem state ++ os₂) :
    sawColdStart t = true ↔ t.before.mem.glDMACount = 0 ∧
      t.before.mem.session.glPrevDMACount = 0 ∧ gpifStateIsStreamingActive state = true := by
  unfold sawColdStart
  rw [ops, sampleOps]
  by_cases none : t.before.mem.glDMACount = 0
  · by_cases before : t.before.mem.session.glPrevDMACount = 0
    · simp [none, before]
    · simp [none, before]
  · simp [none]

theorem SessionInv.tick {steps : List device.Step} {t : device.Step}
    (inv : SessionInv steps t.before.mem.session) (tick : Act.isTick t.act = true)
    (idle : t.before.mem.ep0.ep0HandlerInProgress = false) :
    SessionInv (steps ++ [t]) t.after.mem.session := by
  have same := not_resetsSession_of_tick tick
  obtain ⟨os₁, hs, s, os₂, split, sampler, noReset, remedied⟩ := tick_verdict tick idle
  have light : lightRecovery t = os₂.contains .dmaReset := by
    rw [lightRecovery, tick, split]
    simp [noReset]
  have count : s.glWdgRecoveryCount = t.before.mem.session.glWdgRecoveryCount := by
    rcases sampler with ⟨-, -, -, rfl⟩ | ⟨-, state, -, rfl, -⟩
    · rfl
    · exact sample_recoveryCount _ _ _
  have recoveries : t.after.mem.session.glWdgRecoveryCount.toNat =
      lightRecoveries (steps ++ [t]) % 256 := by
    rw [lightRecoveries_concat, if_neg (by simp [same]), light]
    rcases remedied.recoveryCount with ⟨none, kept⟩ | ⟨some, -, up⟩
    · rw [kept, count, inv.recoveries]
      simp [none]
    · rw [up, UInt8.toNat_add, count, inv.recoveries]
      simp [some]
  have strikes : t.after.mem.session.glColdStartCount = s.glColdStartCount :=
    remedied.coldStartCount
  rcases sampler with ⟨off, -, -, rfl⟩ | ⟨on, state, rfl, rfl, -⟩
  · have unsampled : sampled t = false := by
      rw [sampled, off, Bool.and_false]
    refine ⟨recoveries, ?_, ?_⟩
    · rw [strikes, coldSamples_concat, if_neg (by simp [same]), if_neg (by simp [unsampled])]
      exact inv.strikes
    · rw [strikes]
      exact inv.unreported
  · have ran : sampled t = true := by
      rw [sampled, tick, on]
      rfl
    have few := sample_strikes t.before.mem.session t.before.mem.glDMACount state
    refine ⟨recoveries, ?_, ?_⟩
    · rw [strikes, coldSamples_concat, if_neg (by simp [same]), if_pos ran]
      have seen := sawColdStart_iff split
      by_cases cold : sawColdStart t = true
      · rw [if_pos cold]
        have up := few.1
        rw [if_pos (seen.mp cold)] at up
        have := inv.strikes
        omega
      · rw [if_neg cold]
        have none := few.1
        rwa [if_neg (mt seen.mpr cold)] at none
    · rw [strikes]
      exact few.2

theorem SessionInv.other {steps : List device.Step} {t : device.Step}
    (inv : SessionInv steps t.before.mem.session) (same : resetsSession t = false)
    (other : Act.isTick t.act = false) : SessionInv (steps ++ [t]) t.after.mem.session := by
  rw [session_kept same other]
  have noRecovery : lightRecovery t = false := by
    rw [lightRecovery, other, Bool.false_and]
  have unsampled : sampled t = false := by
    rw [sampled, other, Bool.false_and]
  refine ⟨?_, ?_, inv.unreported⟩
  · rw [lightRecoveries_concat, if_neg (by simp [same]), noRecovery]
    exact inv.recoveries
  · rw [coldSamples_concat, if_neg (by simp [same]), if_neg (by simp [unsampled])]
    exact inv.strikes

/-- The counters tell the truth about every run. -/
theorem run_sessionInv {steps : List device.Step} {w : World} (run : device.Run steps w) :
    SessionInv steps w.mem.session := by
  induction run with
  | start t first =>
      have boot : t.act = .boot := first
      have resets : resetsSession t = true := by
        rw [resetsSession, boot]
        rfl
      exact (SessionInv.fresh resets : SessionInv ([] ++ [t]) _)
  | @step steps w run t from_w ih =>
      subst from_w
      cases resets : resetsSession t with
      | true => exact .fresh resets
      | false =>
          cases tick : Act.isTick t.act with
          | true => exact ih.tick tick (run_noHandler run)
          | false => exact ih.other resets tick

end Rx888
