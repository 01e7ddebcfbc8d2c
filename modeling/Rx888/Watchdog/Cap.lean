import Rx888.Watchdog.Session

/-! # The recovery cap

While the cap in force is nonzero and at most `M`, a session sees at most `M` light
recoveries; once the cap is reached the remedy leaves the pipeline alone.
-/

namespace Rx888

open CallProgram

/-- A light recovery is made below the cap in force, which it may then have reached. -/
theorem lightRecovery_below_cap {steps : List device.Step} {w : World}
    (run : device.Run steps w) {t : device.Step} (next : t.before = w)
    (light : lightRecovery t = true) (few : lightRecoveries steps < 256)
    (cap : 0 < t.before.mem.health.glWdgMaxRecovery) :
    lightRecoveries steps < t.before.mem.health.glWdgMaxRecovery.toNat := by
  subst next
  rw [lightRecovery, Bool.and_eq_true] at light
  obtain ⟨tick, resets⟩ := light
  obtain ⟨os₁, hs, s, os₂, split, sampler, noReset, remedied⟩ :=
    tick_verdict tick (run_noHandler run)
  have count : s.glWdgRecoveryCount = t.before.mem.session.glWdgRecoveryCount := by
    rcases sampler with ⟨-, -, -, rfl⟩ | ⟨-, state, -, rfl, -⟩
    · rfl
    · exact sample_recoveryCount _ _ _
  have told := (run_sessionInv run).recoveries
  rw [Nat.mod_eq_of_lt few, ← count] at told
  rcases remedied.recoveryCount with ⟨none, -⟩ | ⟨-, below, -⟩
  · rw [split] at resets
    simp [noReset, none] at resets
  · rw [← told]
    apply UInt8.lt_iff_toNat_lt.mp
    rw [← UInt8.not_le]
    exact fun reached => below ⟨cap, reached⟩

/-- Each tick of the session runs under a cap between one and `M`. -/
def CapsWithin (M : Nat) (steps : List device.Step) : Prop :=
  ∀ t ∈ session steps, Act.isTick t.act = true →
    0 < t.before.mem.health.glWdgMaxRecovery ∧ t.before.mem.health.glWdgMaxRecovery.toNat ≤ M

theorem capsWithin_concat {M : Nat} {steps : List device.Step} {t : device.Step}
    (h : CapsWithin M (steps ++ [t])) (same : resetsSession t = false) :
    CapsWithin M steps ∧ (Act.isTick t.act = true →
      0 < t.before.mem.health.glWdgMaxRecovery ∧
        t.before.mem.health.glWdgMaxRecovery.toNat ≤ M) := by
  unfold CapsWithin at h
  rw [session_concat, if_neg (by simp [same])] at h
  exact ⟨fun u hu => h u (List.mem_append_left _ hu), h t (by simp)⟩

/-- The cap bounds the session's light recoveries. -/
theorem lightRecoveries_le {steps : List device.Step} {w : World} (run : device.Run steps w)
    {M : Nat} (caps : CapsWithin M steps) :
    lightRecoveries steps ≤ M ∧ lightRecoveries steps < 256 := by
  induction run with
  | start t first =>
      have boot : t.act = .boot := first
      have resets : resetsSession t = true := by
        rw [resetsSession, boot]
        rfl
      have none := lightRecoveries_concat [] t
      rw [if_pos resets, List.nil_append] at none
      omega
  | @step steps w run t next ih =>
      rw [lightRecoveries_concat]
      cases resets : resetsSession t with
      | true =>
          rw [if_pos rfl]
          omega
      | false =>
          rw [if_neg (by simp)]
          obtain ⟨earlier, now⟩ := capsWithin_concat caps resets
          have bound := ih earlier
          cases light : lightRecovery t with
          | false =>
              simp only [Bool.toNat_false, Nat.add_zero]
              exact bound
          | true =>
              have tick : Act.isTick t.act = true := by
                rw [lightRecovery, Bool.and_eq_true] at light
                exact light.1
              obtain ⟨cap, le⟩ := now tick
              have below := lightRecovery_below_cap run next light bound.2 cap
              have byte := UInt8.toNat_lt t.before.mem.health.glWdgMaxRecovery
              simp only [Bool.toNat_true]
              omega

/-! ## Past the cap -/

/-- Calls that touch neither the GPIF block, the DMA channel nor the endpoint. -/
def Call.sparesPipeline : Call → Bool
  | .debugPrint _ _ | .deviceReset _ | .i2cReceiveBytes _ _ => true
  | _ => false

/-- The pipeline, the buffer count and the sampler's baseline are as they were. -/
structure Spared (w : World) (tr : List FwCall) (w' : World) : Prop where
  calls : ∀ c ∈ tr, c.call.sparesPipeline = true
  chip : w'.env = w.env
  buffers : w'.mem.glDMACount = w.mem.glDMACount
  baseline : w'.mem.session.glPrevDMACount = w.mem.session.glPrevDMACount

theorem chip_spared {c : Call} (h : c.sparesPipeline = true) (hw : Hw) (r : c.Ans) :
    hw.after c r = hw := by
  cases c <;> first | rfl | cases h

theorem recoverCapped_spares : Within allParts Call.sparesPipeline recoverCapped := by
  have read (reg : UInt8) :
      Within allParts Call.sparesPipeline (i2cTransferRead reg si5351Addr 1) := by
    simp [i2cTransferRead, countI2cFailure, call, Call.sparesPipeline]
  have clk0 : Within allParts Call.sparesPipeline si5351Clk0Enabled := by
    refine within_bind.mpr ⟨read siClk0Control, fun data _ => ?_⟩
    cases data <;> exact within_pure _
  have pll : Within allParts Call.sparesPipeline si5351PllLocked := by
    refine within_bind.mpr ⟨read 0x00, fun data _ => ?_⟩
    cases data <;> exact within_pure _
  have clock : Within allParts Call.sparesPipeline clockHealthy := by
    simp [clockHealthy, clk0, pll]
  simp [recoverCapped, clock, debugPrint, Call.sparesPipeline]

theorem recoverCapped_spared {w : World}
    (capped : w.mem.session.capped w.mem.health.glWdgMaxRecovery) :
    recoverCapped.Ensures sdk (fun tr _ w' => Spared w tr w') w := by
  refine ensures_of_runs fun tr _ w' run => ?_
  obtain ⟨remedied, -⟩ := does_of_runs run (recoverCapped_does capped)
  have chip : w'.env = w.env :=
    run.frame (fun s => s.env = w.env) recoverCapped_spares (fun _ _ _ same => same)
      (fun s c r spares _ same => (chip_spared spares s.env r).trans same) rfl
  have counts : w'.mem.glDMACount = w.mem.glDMACount ∧
      w'.mem.session.glPrevDMACount = w.mem.session.glPrevDMACount := by
    unfold RemediedIn at remedied
    generalize ops tr = os, w'.mem.session = s', w'.mem.glDMACount = n' at remedied ⊢
    cases remedied with
    | waiting _ idle => exact ⟨rfl, rfl⟩
    | escalated _ may => exact ⟨rfl, rfl⟩
    | light below ops => exact absurd capped below
  exact ⟨run.calls recoverCapped_spares, chip, counts.1, counts.2⟩

/-- An evaluation neither recovers nor changes the cap. -/
theorem evaluate_does {m : Ram} :
    Does (do
      healthMainHeartbeat
      healthEvaluate)
      (fun _ _ m' => m'.session.glWdgRecoveryCount = m.session.glWdgRecoveryCount ∧
        m'.health.glWdgMaxRecovery = m.health.glWdgMaxRecovery) m := by
  refine modify_bind_does ?_
  refine does_mono healthEvaluate_does fun os hs m' evaluated => ?_
  obtain ⟨found, same⟩ := evaluated
  refine ⟨?_, by rw [same.health (by simp)]⟩
  have found : Evaluated m os hs m'.session := found.transport rfl rfl rfl rfl
  generalize m'.session = s at found
  cases found with
  | overdue now late => rfl
  | inactive off => rfl
  | sampled state on => exact sample_recoveryCount _ _ _

theorem healthRecover_spared {w : World}
    (capped : w.mem.session.capped w.mem.health.glWdgMaxRecovery) :
    (healthRecover .wedgedStreaming).Ensures sdk (fun tr _ w' => Spared w tr w') w := by
  have reads : (healthRecover .wedgedStreaming).Ensures sdk (fun tr _ w' => Spared w tr w') w ↔
      (if w.mem.health.glWdgMaxRecovery > 0 ∧
          w.mem.session.glWdgRecoveryCount ≥ w.mem.health.glWdgMaxRecovery then recoverCapped
        else recoverLight).Ensures sdk (fun tr _ w' => Spared w tr w') w := Iff.rfl
  have reached : w.mem.health.glWdgMaxRecovery > 0 ∧
      w.mem.session.glWdgRecoveryCount ≥ w.mem.health.glWdgMaxRecovery := capped
  rw [reads, if_pos reached]
  exact recoverCapped_spared capped

/-- A session whose caps lie between one and `M` sees at most `M` light recoveries, and
each remedy made once the cap in force is reached spares the pipeline. -/
theorem recovery_cap {steps : List device.Step} {w : World} (run : device.Run steps w) {M : Nat}
    (caps : CapsWithin M steps) :
    lightRecoveries steps ≤ M ∧
    ∀ tr₁ w₁ fmt args tr₂ w₂ tr₃ w₃,
      Runs sdk (do
        healthMainHeartbeat
        healthEvaluate) w tr₁ .wedgedStreaming w₁ →
      Runs sdk (debugPrint fmt args) w₁ tr₂ () w₂ →
      Runs sdk (healthRecover .wedgedStreaming) w₂ tr₃ () w₃ →
      0 < w.mem.health.glWdgMaxRecovery →
      w.mem.health.glWdgMaxRecovery.toNat ≤ lightRecoveries steps → Spared w₂ tr₃ w₃ := by
  have bound := lightRecoveries_le run caps
  refine ⟨bound.1, fun tr₁ w₁ fmt args tr₂ w₂ tr₃ w₃ evaluate print recover cap reached => ?_⟩
  obtain ⟨count, max⟩ := does_of_runs evaluate evaluate_does
  have printed := (does_of_runs print (Quiet.does (debugPrint_quiet fmt args : Quiet [] _))).2
  have told := (run_sessionInv run).recoveries
  rw [Nat.mod_eq_of_lt bound.2] at told
  have capped : w₂.mem.session.capped w₂.mem.health.glWdgMaxRecovery := by
    rw [printed.session (by simp), printed.health (by simp), max]
    refine ⟨cap, ?_⟩
    rw [count]
    apply UInt8.le_iff_toNat_le.mpr
    omega
  exact recover.ensures (healthRecover_spared capped)

def coldTick : Act × Bench := (.tick, { Bench.idle with smState := fun _ => gpifTh0Busy })

/-- The host limits the watchdog to one recovery and starts a stream that never delivers
a buffer. -/
def deadStart (ticks : Nat) : List (Act × Bench) :=
  [(.usbEvent cyU3PUsbEventSetconf 0, Bench.idle),
    (vendorSetup false .setargfx3 1 14 0, Bench.idle),
    (vendorSetup false .startfx3 0 0 0, Bench.idle)] ++ List.replicate ticks coldTick

/-- A program on the bench of those ticks. -/
def onColdTick {α : Type} (p : Fw α) (w : World) : List FwCall × α × World :=
  p.exec sdk coldTick.2.answer 0 w

theorem onColdTick_runs {α : Type} {p : Fw α} {w : World} {tr : List FwCall} {a : α} {w' : World}
    (made : onColdTick p w = (tr, a, w')) : Runs sdk p w tr a w' := by
  have run := exec_runs sdk coldTick.2.answer 0 p w (exec_allowed coldTick.2.allowed 0 p w)
  have same : p.exec sdk coldTick.2.answer 0 w = (tr, a, w') := made
  rw [same] at run
  exact run

/-- What the tenth tick finds, with the cap reached. -/
def cappedEvaluation : List FwCall × HealthStatus × World :=
  onColdTick (do
    healthMainHeartbeat
    healthEvaluate) (benchRun (deadStart 9)).2

def cappedPrint : List FwCall × Unit × World :=
  onColdTick
    (debugPrint "\r\nHEALTH: status=%d, recovering" [.num HealthStatus.wedgedStreaming.code])
    cappedEvaluation.2.2

def cappedRecovery : List FwCall × Unit × World :=
  onColdTick (healthRecover .wedgedStreaming) cappedPrint.2.2

theorem recovery_cap_deadStart : lightRecoveries (benchRun (deadStart 9)).1 ≤ 1 ∧
    cappedEvaluation.2.1 = .wedgedStreaming ∧
    Spared cappedPrint.2.2 cappedRecovery.1 cappedRecovery.2.2 := by
  have wedged : cappedEvaluation.2.1 = .wedgedStreaming := by decide +kernel
  have cap : 0 < (benchRun (deadStart 9)).2.mem.health.glWdgMaxRecovery := by decide +kernel
  have reached : (benchRun (deadStart 9)).2.mem.health.glWdgMaxRecovery.toNat ≤
      lightRecoveries (benchRun (deadStart 9)).1 := by decide +kernel
  obtain ⟨bound, spares⟩ := recovery_cap (benchRun_run (deadStart 9))
    (by unfold CapsWithin; decide +kernel : CapsWithin 1 (benchRun (deadStart 9)).1)
  refine ⟨bound, wedged, ?_⟩
  rcases evaluation : cappedEvaluation with ⟨tr₁, hs, w₁⟩
  rw [evaluation] at wedged
  have wedged : hs = .wedgedStreaming := wedged
  subst wedged
  rcases printing : cappedPrint with ⟨tr₂, _, w₂⟩
  rcases recovery : cappedRecovery with ⟨tr₃, _, w₃⟩
  have printed := onColdTick_runs printing
  have recovered := onColdTick_runs recovery
  rw [evaluation] at printed
  rw [printing] at recovered
  exact spares _ _ _ _ _ _ _ _ (onColdTick_runs evaluation) printed recovered cap reached

end Rx888
