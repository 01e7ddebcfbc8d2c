import Rx888.Watchdog.Cap

/-! # Escalation to a device reset

A tick resets the device only as the last resort for a cold start: the cap reached,
escalation enabled, the clock healthy, and not yet in this session.
-/

namespace Rx888

open CallProgram

/-! ## Where a trace resets the device -/

def NoReset (tr : List FwCall) : Prop := ∀ c ∈ tr, c.call.isDeviceReset = false

/-- What precedes any device reset of the trace satisfies `P`. -/
def ResetsAfter (P : List FwCall → Prop) (tr : List FwCall) : Prop :=
  ∀ pre c post, tr = pre ++ c :: post → c.call.isDeviceReset = true → P pre

theorem NoReset.resetsAfter {tr : List FwCall} (none : NoReset tr) (P : List FwCall → Prop) :
    ResetsAfter P tr := by
  intro pre c post split reset
  rw [none c (by simp [split])] at reset
  cases reset

theorem NoReset.append {tr tr' : List FwCall} (h : NoReset tr) (h' : NoReset tr') :
    NoReset (tr ++ tr') := by
  intro c hc
  rcases List.mem_append.mp hc with hc | hc
  · exact h c hc
  · exact h' c hc

theorem resetsAfter_append {P : List FwCall → Prop} {tr tr' : List FwCall} (none : NoReset tr)
    (h : ResetsAfter (fun pre => P (tr ++ pre)) tr') : ResetsAfter P (tr ++ tr') := by
  intro pre c post split reset
  rcases List.append_eq_append_iff.mp split with ⟨mid, rfl, rest⟩ | ⟨mid, rfl, rest⟩
  · exact h mid c post rest reset
  · cases mid with
    | nil => simpa using h [] c post (by simpa using rest.symm) reset
    | cons d mid =>
        obtain ⟨rfl, -⟩ := List.cons.inj rest
        rw [none c (by simp)] at reset
        cases reset

theorem resetsAfter_cons {P : List FwCall → Prop} {c : FwCall} {tr : List FwCall} (first : P [])
    (none : NoReset tr) : ResetsAfter P (c :: tr) := by
  intro pre d post split reset
  cases pre with
  | nil => exact first
  | cons e pre =>
      obtain ⟨rfl, rfl⟩ := List.cons.inj split
      rw [none d (by simp)] at reset
      cases reset

def Call.noReset (c : Call) : Bool := !c.isDeviceReset

theorem noReset_ensures {α : Type} {p : Fw α} {w : World}
    (h : Within allParts Call.noReset p) :
    p.Ensures sdk (fun tr _ _ => NoReset tr) w := by
  refine ensures_of_runs fun tr a w' run c made => ?_
  have kept := run.calls h c made
  simpa [Call.noReset] using kept

theorem Does.ensures {α : Type} {p : Fw α} {Q : List PipeOp → α → Ram → Prop} {w : World}
    (h : Does p Q w.mem) : p.Ensures sdk (fun tr a w' => Q (ops tr) a w'.mem) w :=
  ensures_of_runs fun _ _ _ run => does_of_runs run h

/-! ## The functions that never reset -/

section Never

variable {parts : List Part}

theorem clockHealthy_noReset : Within allParts Call.noReset clockHealthy := by
  have read (reg : UInt8) :
      Within allParts Call.noReset (i2cTransferRead reg si5351Addr 1) := by
    simp [i2cTransferRead, countI2cFailure, call, Call.noReset, Call.isDeviceReset]
  have clk0 : Within allParts Call.noReset si5351Clk0Enabled := by
    refine within_bind.mpr ⟨read siClk0Control, fun data _ => ?_⟩
    cases data <;> exact within_pure _
  have pll : Within allParts Call.noReset si5351PllLocked := by
    refine within_bind.mpr ⟨read 0x00, fun data _ => ?_⟩
    cases data <;> exact within_pure _
  simp [clockHealthy, clk0, pll]

theorem debugPrint_noReset (fmt : String) (args : List DebugArg) :
    Within allParts Call.noReset (debugPrint fmt args) := by
  simp [debugPrint, Call.noReset, Call.isDeviceReset]

theorem healthEvaluate_noReset : Within allParts Call.noReset healthEvaluate := by
  simp [healthEvaluate, streamingWedgeDetected, stallSample, coldStartSample, clearStrikes,
    gpifGetSMState, debugPrint_noReset, call, Call.noReset, Call.isDeviceReset]

theorem recoverLight_noReset : Within allParts Call.noReset recoverLight := by
  have stop (failed : String) : Within allParts Call.noReset (softStop failed) := by
    simp [softStop, gpifGetSMState, debugPrint_noReset, call, Call.noReset, Call.isDeviceReset]
  have restart (hwOk : Bool) :
      Within allParts Call.noReset (recoverRestart hwOk) := by
    simp [recoverRestart, call, Call.noReset, Call.isDeviceReset]
  simp [recoverLight, stop, restart, gpifGetSMState, clockHealthy_noReset, debugPrint_noReset,
    call, Call.noReset, Call.isDeviceReset]

end Never

/-! ## The reset of a tick -/

theorem debugPrint_ensures (w : World) (fmt : String) (args : List DebugArg) :
    (debugPrint fmt args).Ensures sdk (fun tr _ w' => (NoReset tr ∧ ops tr = []) ∧
      Unchanged [.console] w.mem w'.mem) w := by
  have quiet := (Quiet.does (debugPrint_quiet fmt args : Quiet [] _)).ensures (w := w)
  refine ensures_mono (ensures_and (noReset_ensures (debugPrint_noReset fmt args)) quiet) ?_
  rintro tr _ w' ⟨none, ops, same⟩
  exact ⟨⟨none, ops⟩, same⟩

/-- Before its reset the capped remedy has read a healthy clock, for a cold start that may
still escalate. -/
theorem recoverCapped_resets {w : World} :
    recoverCapped.Ensures sdk (fun tr _ w' =>
      ResetsAfter (fun pre => w.mem.session.escalatable w.mem.health.glWdgResetEscalationEn ∧
        ops pre = [.clk0 true, .pll true] ∧ NoReset pre) tr ∧
      (¬ NoReset tr → w'.mem.session.glWdgEscalated = true)) w := by
  have finish (w : World) : Prog.Ensures sdk (do
      debugPrint "\r\nWDG: recovery limit (%d), waiting for STARTFX3"
        [.num (← ram).health.glWdgMaxRecovery.toUInt32])
      (fun tr _ w' => NoReset tr ∧ w'.mem.session = w.mem.session) w := by
    rw [ram_bind_ensures]
    refine ensures_mono (debugPrint_ensures w _ _) fun tr _ w' printed => ?_
    exact ⟨printed.1.1, printed.2.session (by simp)⟩
  unfold recoverCapped
  rw [ram_bind_ensures]
  by_cases may : w.mem.session.escalatable w.mem.health.glWdgResetEscalationEn
  · rw [if_pos (by simpa [SessionRam.escalatable] using may)]
    have clock := ensures_and (noReset_ensures clockHealthy_noReset)
      (clockHealthy_does.ensures (w := w))
    refine clock.bind fun tr ok w₁ checked => ?_
    obtain ⟨none, check, -⟩ := checked
    cases ok with
    | true =>
        generalize clk : ops tr = os at check
        cases check
        refine modify_bind_ensures.mpr (modify_bind_ensures.mpr (ram_bind_ensures.mpr ?_))
        refine (debugPrint_ensures _ _ _).bind fun tr₁ _ w₂ printed => ?_
        obtain ⟨⟨none₁, silent⟩, same⟩ := printed
        intro r _
        refine ensures_mono (finish _) fun tr₂ _ w' done => ?_
        obtain ⟨none₂, kept⟩ := done
        refine ⟨resetsAfter_append none (resetsAfter_append none₁ (resetsAfter_cons ?_ none₂)), ?_⟩
        · refine ⟨may, ?_, none.append (none₁.append (by simp [NoReset]))⟩
          rw [List.append_nil, ops_append, clk, silent, List.append_nil]
        · intro _
          have escalated : w₂.mem.session.glWdgEscalated = true := by
            rw [same.session (by simp)]
          rw [kept]
          exact escalated
    | false =>
        refine ensures_mono (finish w₁) fun tr' _ w' done => ?_
        have quiet := none.append done.1
        exact ⟨quiet.resetsAfter _, fun reset => absurd quiet reset⟩
  · rw [if_neg (by simpa [SessionRam.escalatable] using may)]
    refine ensures_mono (finish w) fun tr _ w' done => ?_
    exact ⟨done.1.resetsAfter _, fun reset => absurd done.1 reset⟩

theorem wedgedRemedy_resets {w : World} :
    (healthRemedy .wedgedStreaming).Ensures sdk (fun tr _ w' =>
      ResetsAfter (fun pre => (w.mem.session.capped w.mem.health.glWdgMaxRecovery ∧
        w.mem.session.escalatable w.mem.health.glWdgResetEscalationEn) ∧
        ops pre = [.clk0 true, .pll true] ∧ NoReset pre) tr ∧
      (¬ NoReset tr → w'.mem.session.glWdgEscalated = true)) w := by
  unfold healthRemedy
  rw [if_pos (by decide)]
  refine (debugPrint_ensures w _ _).bind fun tr _ w₁ printed => ?_
  obtain ⟨⟨none, silent⟩, same⟩ := printed
  refine ram_bind_ensures.mpr (ram_bind_ensures.mpr (ram_bind_ensures.mpr ?_))
  by_cases capped : w₁.mem.session.capped w₁.mem.health.glWdgMaxRecovery
  · rw [if_pos (by simpa [SessionRam.capped] using capped)]
    refine ensures_mono recoverCapped_resets fun tr' _ w' done => ?_
    obtain ⟨resets, escalates⟩ := done
    refine ⟨resetsAfter_append none ?_,
      fun reset => escalates fun quiet => reset (none.append quiet)⟩
    intro pre c post split reset
    obtain ⟨may, clk, quiet⟩ := resets pre c post split reset
    rw [same.session (by simp), same.health (by simp)] at may capped
    exact ⟨⟨capped, may⟩, by rw [ops_append, silent, clk]; rfl, none.append quiet⟩
  · rw [if_neg (by simpa [SessionRam.capped] using capped)]
    refine ensures_mono (noReset_ensures recoverLight_noReset) fun tr' _ w' quiet => ?_
    have all := none.append quiet
    exact ⟨all.resetsAfter _, fun reset => absurd all reset⟩

/-- What a tick has found before it resets the device. -/
structure ResetDue (m : Ram) (pre : List FwCall) (state : UInt8) : Prop where
  active : m.app.glIsApplnActive = true
  reported : (m.session.sample m.glDMACount state).2 = true
  capped : (m.session.sample m.glDMACount state).1.capped m.health.glWdgMaxRecovery
  may : (m.session.sample m.glDMACount state).1.escalatable m.health.glWdgResetEscalationEn
  ops : ops pre = sampleOps m state ++ [.clk0 true, .pll true]
  first : NoReset pre

theorem healthTick_resets {w : World} (idle : w.mem.ep0.ep0HandlerInProgress = false) :
    healthTick.Ensures sdk (fun tr _ w' =>
      ResetsAfter (fun pre => ∃ state, ResetDue w.mem pre state) tr ∧
      (¬ NoReset tr → w'.mem.session.glWdgEscalated = true)) w := by
  unfold healthTick
  refine modify_bind_ensures.mpr ?_
  have evaluate := ensures_and (noReset_ensures healthEvaluate_noReset)
    (healthEvaluate_does.ensures (w := ⟨{ w.mem with health :=
      { w.mem.health with glMainHeartbeat := w.mem.health.glMainHeartbeat + 1 } }, w.env⟩))
  refine evaluate.bind fun tr hs w₁ evaluated => ?_
  obtain ⟨none, found, same⟩ := evaluated
  have found : Evaluated w.mem (ops tr) hs w₁.mem.session := found.transport rfl rfl rfl rfl
  have calm : healthRemedy .ok = pure () := rfl
  generalize os_tr : ops tr = os, session : w₁.mem.session = s at found
  cases found with
  | overdue now late => simp [Ep0Ram.overdue, idle] at late
  | inactive off =>
      rw [calm, ensures_pure, List.append_nil]
      exact ⟨none.resetsAfter _, fun reset => absurd none reset⟩
  | sampled state on =>
      by_cases hit : (w.mem.session.sample w.mem.glDMACount state).2 = true
      · rw [if_pos hit]
        refine ensures_mono wedgedRemedy_resets fun tr' _ w' done => ?_
        obtain ⟨resets, escalates⟩ := done
        refine ⟨resetsAfter_append none ?_, fun reset =>
          escalates fun quiet => reset (none.append quiet)⟩
        intro pre c post split reset
        obtain ⟨⟨capped, may⟩, clk, quiet⟩ := resets pre c post split reset
        rw [session, same.health (by simp)] at capped may
        exact ⟨state, on, hit, capped, may, by rw [ops_append, os_tr, clk], none.append quiet⟩
      · rw [if_neg hit, calm, ensures_pure, List.append_nil]
        exact ⟨none.resetsAfter _, fun reset => absurd none reset⟩

/-! ## Along a run -/

theorem tick_runs {t : device.Step} (tick : Act.isTick t.act = true) :
    Runs sdk healthTick t.before t.trace () t.after := by
  have runs := t.runs
  have prog : device.prog t.act = healthTick := congrArg Act.prog (tick_of_isTick tick)
  rwa [prog] at runs

theorem streamReset_iff {t : device.Step} (tick : Act.isTick t.act = true) :
    streamReset t = true ↔ ¬ NoReset t.trace := by
  rw [streamReset, tick, Bool.true_and, List.any_eq_true, NoReset]
  simp

/-- A session in which the device was reset is marked as escalated. -/
theorem run_escalated {steps : List device.Step} {w : World} (run : device.Run steps w) :
    (∃ u ∈ session steps, streamReset u = true) → w.mem.session.glWdgEscalated = true := by
  induction run with
  | start t first =>
      have boot : t.act = .boot := first
      have resets : resetsSession t = true := by
        rw [resetsSession, boot]
        rfl
      have none := session_concat [] t
      rw [if_pos resets, List.nil_append] at none
      rw [none]
      simp
  | @step steps w run t next ih =>
      subst next
      rw [session_concat]
      cases resets : resetsSession t with
      | true =>
          rw [if_pos rfl]
          simp
      | false =>
          rw [if_neg (by simp)]
          rintro ⟨u, hu, reset⟩
          cases tick : Act.isTick t.act with
          | false =>
              rw [session_kept resets tick]
              rcases List.mem_append.mp hu with earlier | now
              · exact ih ⟨u, earlier, reset⟩
              · rw [List.mem_singleton.mp now, streamReset, tick] at reset
                cases reset
          | true =>
              rcases List.mem_append.mp hu with earlier | now
              · have before := ih ⟨u, earlier, reset⟩
                obtain ⟨os₁, hs, s, os₂, -, sampler, -, remedied⟩ :=
                  tick_verdict tick (run_noHandler run)
                apply remedied.escalated_mono
                rcases sampler with ⟨-, -, -, rfl⟩ | ⟨-, state, -, rfl, -⟩
                · exact before
                · rw [sample_escalated]
                  exact before
              · rw [List.mem_singleton.mp now] at reset
                have resetHere := (streamReset_iff tick).mp reset
                exact ((tick_runs tick).ensures (healthTick_resets (run_noHandler run))).2 resetHere

/-- What holds when the tick `t` resets the device after the steps of a run: the fifth
cold-start sample in a row of this session was its own, the cap in force is reached, the
escalation is enabled, the clock was found healthy just before, and the session has seen
no other reset. -/
structure LastResort (steps : List device.Step) (t : device.Step) (pre : List FwCall) : Prop where
  sampling : sampled t = true ∧ sawColdStart t = true
  coldStart : coldStartWedgeTicks.toNat ≤ coldSamples (steps ++ [t])
  cap : 0 < t.before.mem.health.glWdgMaxRecovery
  recovered : t.before.mem.health.glWdgMaxRecovery.toNat ≤ lightRecoveries steps
  enabled : t.before.mem.health.glWdgResetEscalationEn = true
  clock : ∃ os, ops pre = os ++ [.clk0 true, .pll true]
  once : (∀ u ∈ session steps, streamReset u = false) ∧ NoReset pre

theorem ResetDue.coldStart {m : Ram} {pre : List FwCall} {state : UInt8}
    (due : ResetDue m pre state) :
    m.glDMACount = 0 ∧ m.session.glPrevDMACount = 0 ∧ gpifStateIsStreamingActive state = true ∧
      m.session.glColdStartCount + 1 ≥ coldStartWedgeTicks :=
  sample_coldStart _ _ _ due.reported due.may.1

/-- A tick of any run resets the device as a last resort only. -/
theorem reset_is_last_resort {steps : List device.Step} {w : World} (run : device.Run steps w)
    {t : device.Step} (next : t.before = w) (tick : Act.isTick t.act = true)
    {pre post : List FwCall} {c : FwCall} (split : t.trace = pre ++ c :: post)
    (reset : c.call.isDeviceReset = true) : LastResort steps t pre := by
  subst next
  have idle := run_noHandler run
  have inv := run_sessionInv run
  have resets := ((tick_runs tick).ensures (healthTick_resets idle)).1
  obtain ⟨state, due⟩ := resets pre c post split reset
  obtain ⟨none, before, active, strikes⟩ := due.coldStart
  have ran : sampled t = true := by
    rw [sampled, tick, due.active]
    rfl
  have opsAll : stepOps t = sampleOps t.before.mem state ++
      ([.clk0 true, .pll true] ++ ops (c :: post)) := by
    rw [stepOps, split, ops_append, due.ops, List.append_assoc]
  have saw : sawColdStart t = true := (sawColdStart_iff opsAll).mpr ⟨none, before, active⟩
  have four : 4 ≤ t.before.mem.session.glColdStartCount.toNat := by
    have five := UInt8.le_iff_toNat_le.mp strikes
    rw [UInt8.toNat_add] at five
    have limit : coldStartWedgeTicks.toNat = 5 := rfl
    have one : (1 : UInt8).toNat = 1 := rfl
    omega
  refine ⟨⟨ran, saw⟩, ?_, due.capped.1, ?_, due.may.2.1, ⟨_, due.ops⟩, ?_, due.first⟩
  · rw [coldSamples_concat, if_neg (by simp [not_resetsSession_of_tick tick]), if_pos ran,
      if_pos saw]
    have := inv.strikes
    have limit : coldStartWedgeTicks.toNat = 5 := rfl
    omega
  · have reached := UInt8.le_iff_toNat_le.mp due.capped.2
    rw [sample_recoveryCount, inv.recoveries] at reached
    exact Nat.le_trans reached (Nat.mod_le _ _)
  · intro u hu
    cases was : streamReset u with
    | false => rfl
    | true =>
        have escalated := run_escalated run ⟨u, hu, was⟩
        have may := due.may.2.2
        rw [sample_escalated] at may
        exact absurd escalated may

/-- The tenth tick of the dead start. -/
def deadStartReset : device.Step :=
  device.perform coldTick.2.oracle .tick (benchRun (deadStart 9)).2

theorem reset_is_last_resort_deadStart :
    ∃ pre, LastResort (benchRun (deadStart 9)).1 deadStartReset pre := by
  have resets : (deadStartReset.trace.any fun c => c.call.isDeviceReset) = true := by
    decide +kernel
  obtain ⟨c, made, reset⟩ := List.any_eq_true.mp resets
  obtain ⟨pre, post, split⟩ := List.append_of_mem made
  have next : deadStartReset.before = (benchRun (deadStart 9)).2 := by
    unfold deadStartReset
    exact System.perform_before device _ _ _
  exact ⟨pre, reset_is_last_resort (benchRun_run (deadStart 9)) next rfl split reset⟩

end Rx888
