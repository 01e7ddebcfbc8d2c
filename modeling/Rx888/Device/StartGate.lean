import Rx888.Device.Bench

/-! # FW_TRG is raised behind the clock check

Two handlers raise FW_TRG, STARTFX3 and the tick's light recovery, and each only after
reading CLK0 up and PLL A locked in the same handler.
-/

namespace Rx888

open CallProgram

/-- Each raise of FW_TRG comes after a read of CLK0 as up and one of PLL A as locked,
with no write to the clock chip since the first of them. -/
def Gated (os : List PipeOp) : Prop :=
  ∀ pre post, os = pre ++ .fwTrg true :: post →
    ∃ a b c, pre = a ++ .clk0 true :: (b ++ .pll true :: c) ∧ .clockWrite ∉ b ∧ .clockWrite ∉ c

theorem gated_of_not_mem {os : List PipeOp} (h : .fwTrg true ∉ os) : Gated os := by
  intro pre post at_raise
  rw [at_raise] at h
  simp at h

/-- A healthy clock check opens the gate until the clock is written. -/
theorem gated_of_check {before after : List PipeOp} (unraised : .fwTrg true ∉ before)
    (unwritten : .clockWrite ∉ after) :
    Gated ((before ++ [.clk0 true, .pll true]) ++ after) := by
  intro pre post at_raise
  rcases List.append_eq_append_iff.mp at_raise with ⟨c, rfl, rest⟩ | ⟨c, checked, rest⟩
  · refine ⟨before, [], c, by simp, by simp, ?_⟩
    rw [rest] at unwritten
    exact fun written => unwritten (List.mem_append_left _ written)
  · -- the raise would lie within the check or before it
    have inside : .fwTrg true ∈ before ++ [.clk0 true, .pll true] ∨ c = [] := by
      cases c with
      | nil => exact .inr rfl
      | cons o c =>
          obtain ⟨rfl, -⟩ := List.cons.inj rest
          rw [checked]
          exact .inl (by simp)
    rcases inside with early | rfl
    · simp [unraised] at early
    · rw [List.append_nil] at checked
      refine ⟨before, [], [], by simp [← checked], by simp, by simp⟩

/-! ## Who raises it -/

theorem Idle.unraised {os : List PipeOp} (idle : Idle os) : .fwTrg true ∉ os := by
  intro raised
  have := idle _ raised
  cases this

theorem ClockCheck.unraised {os : List PipeOp} {ok : Bool} (h : ClockCheck os ok) :
    .fwTrg true ∉ os :=
  h.idle.unraised

theorem RestartOps.unwritten {os : List PipeOp} {up : Bool} (h : RestartOps os up) :
    .clockWrite ∉ os := by
  cases h <;> simp

theorem StartOps.gated {os : List PipeOp} {passed : Bool} (h : StartOps os passed) :
    Gated os := by
  cases h with
  | refused check => exact gated_of_not_mem check.unraised
  | @restarted rest up ok sm restart =>
      have gate : Gated (([] ++ [.clk0 true, .pll true]) ++ (restartPrelude ok ++ rest ++
          [.smState sm])) :=
        gated_of_check (by simp) (by simp [restartPrelude, restart.unwritten])
      simpa using gate

theorem StopOps.unraised {os : List PipeOp} (h : StopOps os) : .fwTrg true ∉ os := by
  cases h
  simp

theorem AdcOps.unraised {os : List PipeOp} (h : AdcOps os) : .fwTrg true ∉ os := by
  cases h with
  | noData => simp
  | programmed sm idle =>
      unfold implicitStopOps
      split <;> simp [idle.unraised]

theorem GpioOps.unraised {os : List PipeOp} (h : GpioOps os) : .fwTrg true ∉ os := by
  cases h <;> simp

theorem UsbInitOps.unraised {os : List PipeOp} (h : UsbInitOps os) : .fwTrg true ∉ os := by
  cases h <;> simp [startAppOps]

theorem BootOps.unraised {usb os : List PipeOp} (h : BootOps usb os) : .fwTrg true ∉ os := by
  cases h with
  | booted ok₁ ok₂ ok₃ idle init =>
      simp [gpioInitOps, idle.unraised, init.unraised]

theorem UsbEventDoes.unraised {evtype : UInt8} {active active' : Bool} {os : List PipeOp}
    (h : UsbEventDoes evtype active os active') : .fwTrg true ∉ os := by
  cases h <;> simp [stopAppOps, startAppOps]

theorem sampleOps_unraised (m : Ram) (state : UInt8) : .fwTrg true ∉ sampleOps m state := by
  unfold sampleOps
  split <;> simp

theorem Evaluated.unraised {m : Ram} {os : List PipeOp} {hs : HealthStatus} {s : SessionRam}
    (h : Evaluated m os hs s) : .fwTrg true ∉ os := by
  cases h with
  | overdue now late => simp
  | inactive off => simp
  | sampled state on => exact sampleOps_unraised m state

/-- Light recovery raises FW_TRG behind its own check. -/
theorem LightOps.gated {sm : UInt8} {ok : Bool} {os before : List PipeOp} (h : LightOps sm ok os)
    (unraised : .fwTrg true ∉ before) : Gated (before ++ os) := by
  cases h with
  | @recovered clk _ sm₀ xfer start check =>
      cases check with
      | clk0Down => exact gated_of_not_mem (by simp [unraised])
      | clk0Up locked =>
          cases ok with
          | false => exact gated_of_not_mem (by simp [unraised])
          | true =>
              have gate : Gated (((before ++ [.smState sm₀, .fwTrg false, .smState sm,
                  .disable (sm != gpifIdle), .dmaReset]) ++ [.clk0 true, .pll true]) ++
                  [.setXfer xfer, .start start, .fwTrg true]) :=
                gated_of_check (by simp [unraised]) (by simp)
              simpa using gate

theorem TickDoes.gated {m m' : Ram} {os : List PipeOp} (h : TickDoes m os m') : Gated os := by
  obtain ⟨os₁, hs, s, os₂, rfl, evaluated, remedied⟩ := h.verdict
  have first := evaluated.unraised
  generalize m'.session = s', m'.glDMACount = n' at remedied
  cases remedied with
  | nothing => exact gated_of_not_mem (by simpa using first)
  | deviceReset => exact gated_of_not_mem (by simpa using first)
  | waiting capped idle =>
      rcases idle with rfl | check
      · exact gated_of_not_mem (by simpa using first)
      · exact gated_of_not_mem (by simp [first, check.unraised])
  | escalated capped may => exact gated_of_not_mem (by simp [first])
  | light below ops => exact ops.gated first

/-- The two actions that may raise FW_TRG. -/
def Act.mayRaise (a : Act) : Prop := a = .tick ∨ a.command? = some .startfx3

/-- A step raises FW_TRG only behind the check, and only in the two handlers. -/
theorem step_gated (t : device.Step) :
    Gated (stepOps t) ∧ (.fwTrg true ∈ stepOps t → Act.mayRaise t.act) := by
  have does := step_does t
  have never (h : .fwTrg true ∉ stepOps t) :
      Gated (stepOps t) ∧ (.fwTrg true ∈ stepOps t → Act.mayRaise t.act) :=
    ⟨gated_of_not_mem h, fun raised => absurd raised h⟩
  cases act : t.act with
  | boot =>
      rw [act] at does never
      obtain ⟨usb, boots, -⟩ := does
      exact never boots.unraised
  | request setupdat0 setupdat1 =>
      rw [act] at does never
      obtain ⟨does, -⟩ := does
      generalize command : (Setup.decode setupdat0 setupdat1).command? = c at does
      unfold RequestDoes at does
      split at does
      · obtain ⟨passed, starts, -⟩ := does
        exact ⟨starts.gated, fun _ => .inr command⟩
      · exact never does.1.unraised
      · exact never does.1.unraised
      · exact never does.1.unraised
      · exact never does.1.unraised
  | usbEvent evtype evdata =>
      rw [act] at does never
      exact never does.1.unraised
  | tick =>
      rw [act] at does
      exact ⟨does.gated, fun _ => .inl rfl⟩
  | buffers count =>
      rw [act] at does never
      exact never (by simp [does.1])
  | active flag =>
      rw [act] at does never
      exact never (by simp [does.1])

/-- Neither boot nor any handler that raises nothing leaves FW_TRG high. -/
theorem fwTrg_foldl {os : List PipeOp} (unraised : .fwTrg true ∉ os) (p : Pipe)
    (low : p.fwTrg = false) : (os.foldl Pipe.after p).fwTrg = false := by
  induction os generalizing p with
  | nil => exact low
  | cons o os ih =>
      have first : o ≠ .fwTrg true := fun h => unraised (h ▸ List.mem_cons_self)
      have rest : .fwTrg true ∉ os := fun h => unraised (List.mem_cons_of_mem _ h)
      refine ih rest (p.after o) ?_
      cases o with
      | fwTrg set =>
          cases set with
          | true => exact absurd rfl first
          | false => rfl
      | shdwn level ok =>
          cases ok <;> exact low
      | deviceInit => rfl
      | _ => exact low

theorem BootOps.fwTrg {usb os : List PipeOp} (h : BootOps usb os) (p : Pipe) :
    (os.foldl Pipe.after p).fwTrg = false := by
  have unraised := h.unraised
  cases h with
  | booted ok₁ ok₂ ok₃ idle init =>
      rw [List.mem_cons, not_or] at unraised
      exact fwTrg_foldl unraised.2 (p.after .deviceInit) rfl

/-- The checks of a step do not all report a healthy clock. -/
def unhealthy (t : device.Step) : Prop :=
  ¬ (.clk0 true ∈ stepOps t ∧ .pll true ∈ stepOps t)

theorem Gated.unraised {os : List PipeOp} (gated : Gated os)
    (bad : ¬ (.clk0 true ∈ os ∧ .pll true ∈ os)) : .fwTrg true ∉ os := by
  intro raised
  obtain ⟨pre, post, rfl⟩ := List.append_of_mem raised
  obtain ⟨a, b, c, rfl, -⟩ := gated pre post rfl
  exact bad ⟨by simp, by simp⟩

/-- FW_TRG is raised only behind a healthy check of the same handler, whatever the SDK
answers; and a run whose starts and ticks never read a healthy clock never raises it. -/
theorem fwTrg_behind_clock_check {steps : List device.Step} {w : World}
    (run : device.Run steps w) :
    (∀ t ∈ steps, Gated (stepOps t)) ∧
    ((∀ t ∈ steps, Act.mayRaise t.act → unhealthy t) →
      (∀ t ∈ steps, .fwTrg true ∉ stepOps t) ∧ w.env.fwTrg = false) := by
  refine ⟨fun t _ => (step_gated t).1, fun bad => ?_⟩
  have unraised : ∀ t ∈ steps, .fwTrg true ∉ stepOps t := by
    intro t taken raised
    have may := (step_gated t).2 raised
    exact (step_gated t).1.unraised (bad t taken may) raised
  refine ⟨unraised, ?_⟩
  refine run.invariant (fun s => s.env.pipe.fwTrg = false) (fun t first _ => ?_)
    (fun t raisesNot low => ?_) unraised
  · have does := step_does t
    have act : t.act = .boot := first
    rw [act] at does
    obtain ⟨usb, boots, -⟩ := does
    rw [step_pipe]
    exact boots.fwTrg _
  · rw [step_pipe]
    exact fwTrg_foldl raisesNot _ low

/-- The host starts the stream after a boot and a configuration. -/
def streamStart : List (Act × Bench) :=
  [(.usbEvent cyU3PUsbEventSetconf 0, Bench.idle),
    (vendorSetup false .startfx3 0 0 0, Bench.idle)]

theorem fwTrg_behind_clock_check_streamStart :
    (∀ t ∈ (benchRun streamStart).1, Gated (stepOps t)) ∧
      ∃ t ∈ (benchRun streamStart).1, .fwTrg true ∈ stepOps t :=
  ⟨(fwTrg_behind_clock_check (benchRun_run streamStart)).1, by decide +kernel⟩

end Rx888
