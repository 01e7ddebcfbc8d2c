import Rx888.Watchdog.Ep0Clock
import Rx888.Watchdog.Session

/-! # The remedy for a wedged EP0 handler

The handler that is wedged may hold any lock of the SDK, so the remedy should reset the
device without another call. The tick announces the verdict first.
-/

namespace Rx888

open CallProgram

/-- The handler in progress entered at `entered` and has timed out, less than a turn of the
clock ago. -/
structure Overdue (entered : Nat) (w : ClockedWorld) : Prop where
  busy : w.mem.ep0.ep0HandlerInProgress = true
  stamp : w.mem.ep0.ep0HandlerEnterMs = UInt32.ofNat entered
  late : entered + ep0HandlerTimeoutMs.toNat ≤ w.env.ms
  soon : w.env.ms < entered + 2 ^ 32

/-- The device is reset with no call before but reads of the time. -/
def resetsAtOnce (calls : List Call) : Prop :=
  ∃ pre isWarmReset post, calls = pre ++ .deviceReset isWarmReset :: post ∧
    ∀ c ∈ pre, c = .getTime

theorem Overdue.verdict {entered : Nat} {w : ClockedWorld} (h : Overdue entered w) :
    UInt32.ofNat w.env.ms - w.mem.ep0.ep0HandlerEnterMs ≥ ep0HandlerTimeoutMs := by
  have late := h.late
  have soon := h.soon
  have elapsed : (UInt32.ofNat w.env.ms - UInt32.ofNat entered).toNat = w.env.ms - entered := by
    rw [ofNat_sub (by omega)]
    apply Nat.mod_eq_of_lt
    omega
  rw [h.stamp, ge_iff_le, UInt32.le_iff_toNat_le, elapsed]
  omega

/-- The calls of a tick that finds a handler overdue. -/
def overdueCalls : List Call :=
  [.getTime, .debugPrint "\r\nHEALTH: status=%d, recovering" [.num HealthStatus.wedgedEp0.code],
    .deviceReset false]

theorem healthEvaluate_overdue {entered : Nat} {w : ClockedWorld} (h : Overdue entered w) :
    healthEvaluate.Ensures clockedSdk
      (fun tr hs _ => tr.map (·.call) = [.getTime] ∧ hs = .wedgedEp0) w := by
  unfold healthEvaluate
  refine ram_bind_ensures.mpr ?_
  rw [if_pos h.busy]
  refine call_bind_ensures.mpr fun now allowed => ram_bind_ensures.mpr ?_
  have time : now = UInt32.ofNat w.env.ms := allowed.2
  have verdict := h.verdict
  rw [← time] at verdict
  show Prog.Ensures clockedSdk
    (if now - w.mem.ep0.ep0HandlerEnterMs ≥ ep0HandlerTimeoutMs then _ else _) _ _
  rw [if_pos verdict]
  exact ⟨rfl, rfl⟩

theorem healthTick_overdue {entered : Nat} {w : ClockedWorld} (h : Overdue entered w) :
    healthTick.Ensures clockedSdk (fun tr _ _ => tr.map (·.call) = overdueCalls) w := by
  unfold healthTick
  refine modify_bind_ensures.mpr ?_
  generalize beat : (⟨_, w.env⟩ : ClockedWorld) = w₁
  have overdue : Overdue entered w₁ := by
    subst beat
    exact ⟨h.busy, h.stamp, h.late, h.soon⟩
  refine (healthEvaluate_overdue overdue).bind fun tr hs w₂ evaluated => ?_
  obtain ⟨calls, rfl⟩ := evaluated
  intro text _ reset _
  show (tr ++ _).map (·.call) = overdueCalls
  rw [List.map_append, calls]
  rfl

theorem overdueCalls_not_at_once : ¬ resetsAtOnce overdueCalls := by
  rintro ⟨pre, isWarmReset, post, split, quiet⟩
  unfold overdueCalls at split
  match pre with
  | [] => simp at split
  | [_] => simp at split
  | _ :: c :: pre =>
      have time := quiet c (by simp)
      simp [time] at split

/-- Whatever else the memory and the chip are like, a tick that finds a handler overdue
resets the device, but not without a debug message before: never at once. -/
theorem ep0_remedy_prints {entered : Nat} {w w' : ClockedWorld}
    {tr : List (Transition Ram Clocked Call.Ans)} (h : Overdue entered w)
    (runs : Runs clockedSdk healthTick w tr () w') :
    ¬ resetsAtOnce (tr.map (·.call)) ∧ .deviceReset false ∈ tr.map (·.call) := by
  have calls := runs.ensures (healthTick_overdue h)
  rw [calls]
  exact ⟨overdueCalls_not_at_once, by simp [overdueCalls]⟩

/-! ## A handler that hangs -/

theorem clockedSdk_total (w : ClockedWorld) (c : Call) : ∃ r, clockedSdk.allows w c r :=
  ⟨_, Bench.idle.clocked_allowed w c⟩

/-- A HANGFX3 of 2500 ms, two seconds into its sleep. -/
def hung : evaluations.Config :=
  evaluations.replay booted
    ([.event (enter 0x09C4CE40 0)] ++ List.replicate 4 (.event Bench.idle.usb) ++
      [.event (elapse 2000)])

theorem hung_run : evaluations.Run booted hung.turns hung.todo hung.state :=
  evaluations.replay_run booted _

theorem hung_overdue : Overdue 0 hung.state where
  busy := by decide +kernel
  stamp := by decide +kernel
  late := by decide +kernel
  soon := by decide +kernel

theorem ep0_remedy_prints_hung : ∃ tr w', Runs clockedSdk healthTick hung.state tr () w' ∧
    ¬ resetsAtOnce (tr.map (·.call)) ∧ .deviceReset false ∈ tr.map (·.call) := by
  obtain ⟨tr, a, w', runs⟩ := exists_runs clockedSdk_total healthTick hung.state
  exact ⟨tr, w', runs, ep0_remedy_prints hung_overdue runs⟩

/-- The state is reached from a boot, and the tick there prints before it resets. -/
theorem ep0_remedy_not_at_once : ¬ ∀ (turns : List (ClockedWorld × evaluations.Turn))
    (todo : evaluations.Todo) (w w' : ClockedWorld) (entered : Nat)
    (tr : List (Transition Ram Clocked Call.Ans)), evaluations.Run booted turns todo w →
    Overdue entered w → Runs clockedSdk healthTick w tr () w' →
      resetsAtOnce (tr.map (·.call)) := by
  intro always
  obtain ⟨tr, a, w', runs⟩ := exists_runs clockedSdk_total healthTick hung.state
  have atOnce := always _ _ _ w' 0 tr hung_run hung_overdue runs
  rw [runs.ensures (healthTick_overdue hung_overdue)] at atOnce
  exact overdueCalls_not_at_once atOnce

end Rx888
