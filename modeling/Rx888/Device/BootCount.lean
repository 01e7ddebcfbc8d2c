import Rx888.Ep0.Reply

/-! # The boot count

`health_init` counts the boot in a static that the startup code has just laid out, so every boot
counts to one, and whatever a boot then serves leaves the count alone.
-/

namespace Rx888

open CallProgram

/-- The boot counts a host reads in what a step replies: bytes 20 to 23 of GETSTATS. -/
def bootCounts (t : device.Step) : List UInt32 :=
  if t.act.command? = some .getstats then
    (replies t.trace).map fun bytes => leWord32 (bytes.drop 20)
  else []

/-- Two replies carry different counts just when there is a boot between them. -/
structure ResetVisible (steps : List device.Step) : Prop where
  reset : ∀ pre t mid u post, steps = pre ++ t :: (mid ++ u :: post) →
    (∃ v ∈ mid, v.act = .boot) → ∀ a ∈ bootCounts t, ∀ b ∈ bootCounts u, a ≠ b
  same : ∀ pre t mid u post, steps = pre ++ t :: (mid ++ u :: post) →
    (∀ v ∈ mid, v.act ≠ .boot) → ∀ a ∈ bootCounts t, ∀ b ∈ bootCounts u, a = b

/-- The host asks for the statistics before and after some boot. -/
def AskedAcrossReset (steps : List device.Step) : Prop :=
  ∃ pre t mid u post, steps = pre ++ t :: (mid ++ u :: post) ∧
    t.act.command? = some .getstats ∧ u.act.command? = some .getstats ∧ ∃ v ∈ mid, v.act = .boot

/-! ## What keeps the count -/

abbrev CountKept {α : Type} (p : Fw α) : Prop :=
  p.Uses (fun f => ∀ m, (f m).health.glBootCount = m.health.glBootCount) fun _ => True

section CountKept

variable {α : Type} {p : Fw α} {w w' : World} {tr : List FwCall} {a : α}

theorem Within.countKept {parts : List Part} {calls : Call → Bool} (h : Within parts calls p)
    (out : .health ∉ parts) : CountKept p := by
  refine Prog.Uses.mono h (fun f writes m => ?_) fun _ _ => trivial
  rw [(writes m).health out]

theorem CountKept.run (h : CountKept p) (run : Runs sdk p w tr a w') :
    w'.mem.health.glBootCount = w.mem.health.glBootCount := by
  refine run.frame (fun s => s.mem.health.glBootCount = w.mem.health.glBootCount) h ?_ ?_ rfl
  · intro f s writes same
    exact (writes s.mem).trans same
  · intro s c r _ _ same
    show (memAfter s.mem c r).health.glBootCount = _
    rw [(memAfter_unchanged s.mem c r).health (by simp)]
    exact same

end CountKept

/-- The two settings of the watchdog stand beside the count. -/
theorem setargfx3_countKept (s : Setup) : CountKept (setargfx3 s) := by
  have received : CountKept (getEP0Data s.wLength) :=
    (getEP0Data_quiet s.wLength (by simp) : Quiet [.usb] _).countKept (by simp)
  have counted : CountKept countVendorRqt :=
    (countVendorRqt_quiet (by simp) : Quiet [.usb] _).countKept (by simp)
  have attenuated : CountKept (rx888r2SetAttenuator s.wValue.toUInt8) :=
    (rx888r2SetAttenuator_quiet _ : Quiet [] _).countKept (by simp)
  have amplified : CountKept (rx888r2SetGain s.wValue.toUInt8) :=
    (rx888r2SetGain_quiet _ : Quiet [] _).countKept (by simp)
  have limited (max : UInt8) : CountKept (healthSetMaxRecovery max) := ⟨fun _ => rfl, trivial⟩
  have escalated (enabled : Bool) : CountKept (healthSetResetEscalation enabled) :=
    ⟨fun _ => rfl, trivial⟩
  have stalled : CountKept stallEP0 := (stallEP0_quiet : Quiet [] _).countKept (by simp)
  refine (Prog.uses_bind _ _).mpr ⟨received, fun _ _ => ?_⟩
  cases ArgumentList.ofIndex? s.wIndex with
  | none => simp [stalled]
  | some arg => cases arg <;> simp [counted, attenuated, amplified, limited, escalated]

theorem vendorCommand_countKept (s : Setup) (command : Option FX3Command) :
    CountKept (vendorCommand s command) := by
  by_cases setarg : command = some .setargfx3
  · subst setarg
    exact setargfx3_countKept s
  · refine (vendorCommand_confined s command).countKept ?_
    cases command with
    | none => simp [commandParts]
    | some c => cases c <;> simp_all [commandParts]

theorem cyFxSlFifoApplnUSBSetupCB_countKept (setupdat0 setupdat1 : UInt32) :
    CountKept (cyFxSlFifoApplnUSBSetupCB setupdat0 setupdat1) := by
  have recorded (e : HealthEvent) : CountKept (healthRecordEvent e) :=
    (healthRecordEvent_quiet e (by simp) : Quiet [.ep0] _).countKept (by simp)
  have stalled : CountKept stallEP0 := (stallEP0_quiet : Quiet [] _).countKept (by simp)
  have traced (b : UInt8) (v i : UInt16) : CountKept (traceSerial b v i) :=
    (traceSerial_quiet b v i : Quiet [] _).countKept (by simp)
  have standard (s : Setup) : CountKept (standardRequest s) :=
    (standardRequest_quiet s : Quiet [] _).countKept (by simp)
  have served (s : Setup) : CountKept (setupRequest s) := by
    by_cases vendor : s.bType = cyU3PUsbVendorRqt
    · rw [setupRequest_vendor vendor]
      simp [stalled, traced, vendorCommand_countKept]
    · rw [setupRequest, if_neg vendor]
      simp [standard]
  simp [cyFxSlFifoApplnUSBSetupCB, recorded, served]

/-- A tick counts its heartbeat only. -/
theorem healthTick_countKept : CountKept healthTick := by
  have beat : CountKept healthMainHeartbeat := ⟨fun _ => rfl, trivial⟩
  have evaluated : Confined [.session] healthEvaluate := by
    simp [healthEvaluate, streamingWedgeDetected, stallSample, coldStartSample, clearStrikes, call]
  have remedied (hs : HealthStatus) :
      Confined [.session, .counter, .buffers] (healthRemedy hs) := by
    cases hs <;>
      simp [healthRemedy, healthRecover, recoverCapped, recoverLight, clockHealthy, softStop,
        recoverRestart, call]
  have remedied (hs : HealthStatus) : CountKept (healthRemedy hs) :=
    (remedied hs).countKept (by simp)
  simp [healthTick, beat, evaluated.countKept, remedied]

/-! ## Runs -/

theorem step_bootCount (t : device.Step)
    (counted : t.act = .boot ∨ t.before.mem.health.glBootCount = 1) :
    t.after.mem.health.glBootCount = 1 := by
  have does := step_does t
  have runs := t.runs
  cases act : t.act with
  | boot =>
      rw [act] at runs
      exact (does_of_runs runs boot_counts : _)
  | request setupdat0 setupdat1 =>
      rw [act] at runs counted
      have before := counted.resolve_left (by simp)
      have kept : CountKept (Act.prog (.request setupdat0 setupdat1)) := by
        simp [Act.prog, cyFxSlFifoApplnUSBSetupCB_countKept]
      exact (kept.run runs).trans before
  | usbEvent evtype evdata =>
      rw [act] at does counted
      rw [does.2.health (by simp)]
      exact counted.resolve_left (by simp)
  | tick =>
      rw [act] at runs counted
      exact (healthTick_countKept.run runs).trans (counted.resolve_left (by simp))
  | buffers count =>
      rw [act] at does counted
      rw [does.2]
      exact counted.resolve_left (by simp)
  | active flag =>
      rw [act] at does counted
      rw [does.2]
      exact counted.resolve_left (by simp)

theorem run_bootCount {steps : List device.Step} {w : World} (run : device.Run steps w) :
    w.mem.health.glBootCount = 1 :=
  run.invariant (fun s => s.mem.health.glBootCount = 1)
    (fun t first (_ : True) => step_bootCount t (.inl first))
    (fun t (_ : True) before => step_bootCount t (.inr before)) fun _ _ => trivial

theorem getstats_bootCounts {t : device.Step} (asked : t.act.command? = some .getstats) :
    bootCounts t = [t.before.mem.health.glBootCount] := by
  have runs := t.runs
  rw [bootCounts, if_pos asked]
  cases act : t.act with
  | request setupdat0 setupdat1 =>
      rw [act] at runs asked
      obtain ⟨tr, handled, w, tr', same, callback, rest⟩ := runs.split
      cases rest
      obtain ⟨now, served, w₁, rfl, serves, -⟩ := callback_split callback
      obtain ⟨tr₁, isHandled, w₂, stats, reply, -⟩ := reply_of_command asked serves
      obtain ⟨st, sampled, sent⟩ := getstats_replies (s := Setup.decode setupdat0 setupdat1) stats
      have all : replies t.trace = [st.payload] := by
        rw [same, List.append_nil]
        exact reply.trans sent
      have count : leWord32 (st.payload.drop 20) = st.bootCount :=
        leWord32_leBytes32 _ (st.payload.drop 24)
      rw [all, List.map_singleton, count, sampled.bootCount]
      rfl
  | _ =>
      rw [act] at asked
      cases asked

/-- Every reply of a run carries the count of the first boot. -/
theorem run_bootCounts {steps : List device.Step} {w : World} (run : device.Run steps w)
    {t : device.Step} (ht : t ∈ steps) : ∀ a ∈ bootCounts t, a = 1 := by
  by_cases asked : t.act.command? = some .getstats
  · obtain ⟨pre, post, split⟩ := List.append_of_mem ht
    rcases run.before split with ⟨-, boots⟩ | earlier
    · have boots : t.act = .boot := boots
      rw [boots] at asked
      cases asked
    · rw [getstats_bootCounts asked, run_bootCount earlier]
      simp
  · simp [bootCounts, asked]

theorem not_resetVisible {steps : List device.Step} {w : World} (run : device.Run steps w)
    (asked : AskedAcrossReset steps) : ¬ ResetVisible steps := by
  intro visible
  obtain ⟨pre, t, mid, u, post, split, first, second, boot⟩ := asked
  have ht : t ∈ steps := by simp [split]
  have hu : u ∈ steps := by simp [split]
  have counts := getstats_bootCounts first
  have counts' := getstats_bootCounts second
  have one := run_bootCounts run ht _ (by rw [counts]; exact List.mem_singleton.mpr rfl)
  have one' := run_bootCounts run hu _ (by rw [counts']; exact List.mem_singleton.mpr rfl)
  refine visible.reset pre t mid u post split boot 1 ?_ 1 ?_ rfl
  · rw [counts, one]
    exact List.mem_singleton.mpr rfl
  · rw [counts', one']
    exact List.mem_singleton.mpr rfl

/-- In a run with any number of boots, the boot count tells them apart just when the host never
asks for it across a reset. -/
theorem resetVisible_iff {steps : List device.Step} {w : World} (run : device.Run steps w) :
    ResetVisible steps ↔ ¬ AskedAcrossReset steps := by
  constructor
  · intro visible asked
    exact not_resetVisible run asked visible
  · intro unasked
    have asks {t : device.Step} {a : UInt32} (h : a ∈ bootCounts t) :
        t.act.command? = some .getstats := by
      rcases Decidable.em (t.act.command? = some .getstats) with asked | other
      · exact asked
      · simp [bootCounts, other] at h
    constructor
    · intro pre t mid u post split boot a ha b hb _
      exact unasked ⟨pre, t, mid, u, post, split, asks ha, asks hb, boot⟩
    · intro pre t mid u post split _ a ha b hb
      have one := run_bootCounts run (t := t) (by simp [split]) a ha
      have one' := run_bootCounts run (t := u) (by simp [split]) b hb
      rw [one, one']

/-- The host asks for the statistics, before and after a reset. -/
def askAcrossReset : List (Act × Bench) :=
  [(vendorSetup true .getstats 0 0 30, Bench.idle), (.boot, Bench.idle),
    (vendorSetup true .getstats 0 0 30, Bench.idle)]

theorem resetVisible_iff_booted :
    ResetVisible (benchRun askAcrossReset).1 ↔ ¬ AskedAcrossReset (benchRun askAcrossReset).1 :=
  resetVisible_iff (benchRun_run askAcrossReset)

theorem reset_invisible :
    ¬ ∀ (steps : List device.Step) (w : World), device.Run steps w → ResetVisible steps := by
  intro always
  refine not_resetVisible (benchRun_run askAcrossReset) ?_
    (always _ _ (benchRun_run askAcrossReset))
  exact ⟨[_], _, [_], _, [], rfl, by decide, by decide, _, List.mem_singleton.mpr rfl, rfl⟩

end Rx888
