import Rx888.Firmware.Health
import Rx888.CallProgram.System
import Rx888.Device.Bench

/-! # Clearing the hardware watchdog

The watchdog and the timer that clears it, as the SDK calls set them up, beside the heartbeat of
the main loop. The callback clears the watchdog just when the loop has turned since the last one,
so a device that turns in every window lives and one that stops is reset within eight seconds.
-/

namespace Rx888

open CallProgram

/-- The time in milliseconds, the watchdog with the time it was last cleared, and the timer. -/
structure Wdt where
  now : Nat
  period : Option Nat
  cleared : Nat
  due : Nat
  reschedule : Nat
  deriving DecidableEq, Repr

namespace Wdt

def off : Wdt := ⟨0, none, 0, 0, 0⟩

def after (d : Wdt) : Call → Wdt
  | .sysWatchDogConfigure enable period =>
      { d with period := if enable then some period.toNat else none, cleared := d.now }
  | .sysWatchDogClear => { d with cleared := d.now }
  | .timerCreate initialTicks rescheduleTicks =>
      { d with due := d.now + initialTicks.toNat, reschedule := rescheduleTicks.toNat }
  | _ => d

def watch (d : Wdt) (tr : List FwCall) : Wdt := tr.foldl (fun d t => d.after t.call) d

/-- Uncleared as it is, the watchdog has run out by `time`. -/
def expiredBy (d : Wdt) (time : Nat) : Prop :=
  ∃ period, d.period = some period ∧ d.cleared + period ≤ time

end Wdt

inductive WdEvent where
  | heartbeat (time : Nat)
  | callback (time : Nat) (cleared : Bool)
  deriving DecidableEq, Repr

namespace WdEvent

def isCallback : WdEvent → Bool
  | .callback _ _ => true
  | .heartbeat _ => false

def clears : WdEvent → Bool
  | .callback _ cleared => cleared
  | .heartbeat _ => false

end WdEvent

def Call.clearsWatchDog : Call → Bool
  | .sysWatchDogClear => true
  | _ => false

def beats (log : List WdEvent) : Nat := (since (·.isCallback) log).length

/-- Heartbeats and callbacks from `health_init` on. Time passes up to the next callback and not
beyond; the rest of the memory is left to all others. -/
inductive Petted : List WdEvent → World → Wdt → Prop where
  | init {w w' : World} {tr : List FwCall} (statics : w.mem.health = Ram.init.health)
      (runs : Runs sdk healthInit w tr () w') : Petted [] w' (Wdt.off.watch tr)
  | wait {log : List WdEvent} {w : World} {d : Wdt} (petted : Petted log w d) (ms : Nat)
      (early : d.now + ms ≤ d.due) : Petted log w { d with now := d.now + ms }
  | others {log : List WdEvent} {w w' : World} {d : Wdt} (petted : Petted log w d)
      (main : w'.mem.health.glMainHeartbeat = w.mem.health.glMainHeartbeat)
      (seen : w'.mem.health.glLastHeartbeatSeen = w.mem.health.glLastHeartbeatSeen) :
      Petted log w' d
  | heartbeat {log : List WdEvent} {w w' : World} {d : Wdt} {tr : List FwCall}
      (petted : Petted log w d) (runs : Runs sdk healthMainHeartbeat w tr () w') :
      Petted (log ++ [.heartbeat d.now]) w' (d.watch tr)
  | callback {log : List WdEvent} {w w' : World} {d : Wdt} {tr : List FwCall}
      (petted : Petted log w d) (due : d.now = d.due)
      (runs : Runs sdk healthWdClearCb w tr () w') :
      Petted (log ++ [.callback d.now (tr.any (·.call.clearsWatchDog))]) w'
        { d.watch tr with due := d.due + d.reschedule }

/-! ## The steps -/

theorem beats_heartbeat (log : List WdEvent) (time : Nat) :
    beats (log ++ [.heartbeat time]) = beats log + 1 := by
  simp [beats, WdEvent.isCallback]

theorem beats_callback (log : List WdEvent) {e : WdEvent} (callback : e.isCallback = true) :
    beats (log ++ [e]) = 0 := by
  simp [beats, callback]

/-- The callback clears just when the heartbeat has moved, and has then seen it. -/
theorem healthWdClearCb_ensures (w : World) :
    healthWdClearCb.Ensures sdk (fun tr _ w' =>
      (tr.any (·.call.clearsWatchDog) = true ↔
        w.mem.health.glMainHeartbeat ≠ w.mem.health.glLastHeartbeatSeen) ∧
      (∀ d : Wdt, d.watch tr =
        if w.mem.health.glMainHeartbeat ≠ w.mem.health.glLastHeartbeatSeen then
          { d with cleared := d.now }
        else d) ∧
      w'.mem.health.glMainHeartbeat = w.mem.health.glMainHeartbeat ∧
      w'.mem.health.glLastHeartbeatSeen = w.mem.health.glMainHeartbeat) w := by
  unfold healthWdClearCb
  show (if w.mem.health.glMainHeartbeat ≠ w.mem.health.glLastHeartbeatSeen then _ else _ :
    Fw Unit).Ensures sdk _ w
  by_cases moved : w.mem.health.glMainHeartbeat ≠ w.mem.health.glLastHeartbeatSeen
  · rw [if_pos moved]
    intro _ _
    constructor
    · exact iff_of_true rfl moved
    · constructor
      · intro d
        rw [if_pos moved]
        rfl
      · exact ⟨rfl, rfl⟩
  · rw [if_neg moved]
    have same : w.mem.health.glMainHeartbeat = w.mem.health.glLastHeartbeatSeen := by
      simpa using moved
    constructor
    · exact iff_of_false Bool.false_ne_true moved
    · constructor
      · intro d
        rw [if_neg moved]
        rfl
      · exact ⟨rfl, same.symm⟩

/-! ## The invariant -/

/-- The timer runs every 3000 ms, the watchdog over 5000 ms, and what the callback has not yet
seen are the heartbeats since the last one. -/
structure PetInv (log : List WdEvent) (w : World) (d : Wdt) : Prop where
  period : d.period = some 5000
  reschedule : d.reschedule = 3000
  due : d.due = 3000 * (log.countP (·.isCallback) + 1)
  early : d.now ≤ d.due
  near : d.due ≤ d.now + 3000
  cleared : d.cleared ≤ d.now
  unseen : w.mem.health.glMainHeartbeat =
    w.mem.health.glLastHeartbeatSeen + UInt32.ofNat (beats log)

theorem init_petInv {w w' : World} {tr : List FwCall} (statics : w.mem.health = Ram.init.health)
    (runs : Runs sdk healthInit w tr () w') : PetInv [] w' (Wdt.off.watch tr) := by
  have begun : healthInit.Ensures sdk (fun tr _ w' =>
      Wdt.off.watch tr = ⟨0, some 5000, 0, 3000, 3000⟩ ∧
      w'.mem.health = { w.mem.health with glBootCount := w.mem.health.glBootCount + 1 }) w := by
    intro _ _ _ _
    exact ⟨rfl, rfl⟩
  have ⟨wdt, health⟩ := runs.ensures begun
  rw [wdt]
  constructor
  · rfl
  · rfl
  · rfl
  · decide
  · decide
  · decide
  · rw [health, statics]
    rfl

/-- The callback clears just when there were heartbeats, up to a multiple of 2^32, and has seen
them then. -/
theorem PetInv.callback {log : List WdEvent} {w w' : World} {d : Wdt} {tr : List FwCall}
    (inv : PetInv log w d) (due : d.now = d.due) (runs : Runs sdk healthWdClearCb w tr () w') :
    (tr.any (·.call.clearsWatchDog) = true ↔ beats log % 2 ^ 32 ≠ 0) ∧
      (d.watch tr = if beats log % 2 ^ 32 ≠ 0 then { d with cleared := d.now } else d) ∧
      PetInv (log ++ [.callback d.now (tr.any (·.call.clearsWatchDog))]) w'
        { d.watch tr with due := d.due + d.reschedule } := by
  have ⟨clears, wdt, main, seen⟩ := runs.ensures (healthWdClearCb_ensures w)
  have moved : w.mem.health.glMainHeartbeat ≠ w.mem.health.glLastHeartbeatSeen ↔
      beats log % 2 ^ 32 ≠ 0 := by
    have seenLt := w.mem.health.glLastHeartbeatSeen.toNat_lt
    rw [ne_eq, ← UInt32.toNat_inj, inv.unseen, UInt32.toNat_add, UInt32.toNat_ofNat']
    omega
  have wdt' := wdt d
  rw [ite_cond_congr (propext moved)] at wdt'
  have kept : (d.watch tr).period = d.period ∧ (d.watch tr).reschedule = d.reschedule ∧
      (d.watch tr).now = d.now ∧ (d.watch tr).cleared ≤ d.now := by
    have before := inv.cleared
    rw [wdt']
    split
    · exact ⟨rfl, rfl, rfl, Nat.le_refl _⟩
    · exact ⟨rfl, rfl, rfl, before⟩
  obtain ⟨period, reschedule, now, cleared⟩ := kept
  have next := inv.due
  have every := inv.reschedule
  constructor
  · exact clears.trans moved
  · constructor
    · exact wdt'
    · constructor
      · rw [← inv.period]
        exact period
      · rw [← inv.reschedule]
        exact reschedule
      · show d.due + d.reschedule = _
        rw [List.countP_append, next, every]
        simp [WdEvent.isCallback]
        omega
      · show (d.watch tr).now ≤ d.due + d.reschedule
        omega
      · show d.due + d.reschedule ≤ (d.watch tr).now + 3000
        omega
      · show (d.watch tr).cleared ≤ (d.watch tr).now
        omega
      · rw [beats_callback log rfl, main, seen]
        simp

theorem PetInv.heartbeat {log : List WdEvent} {w w' : World} {d : Wdt} {tr : List FwCall}
    (inv : PetInv log w d) (runs : Runs sdk healthMainHeartbeat w tr () w') :
    d.watch tr = d ∧ PetInv (log ++ [.heartbeat d.now]) w' (d.watch tr) := by
  have beat : healthMainHeartbeat.Ensures sdk (fun tr _ w' => tr = [] ∧
      w'.mem.health.glMainHeartbeat = w.mem.health.glMainHeartbeat + 1 ∧
      w'.mem.health.glLastHeartbeatSeen = w.mem.health.glLastHeartbeatSeen) w :=
    ⟨rfl, rfl, rfl⟩
  have ⟨silent, main, seen⟩ := runs.ensures beat
  subst silent
  constructor
  · rfl
  · constructor
    · exact inv.period
    · exact inv.reschedule
    · rw [List.countP_append]
      exact inv.due
    · exact inv.early
    · exact inv.near
    · exact inv.cleared
    · rw [main, seen, inv.unseen, beats_heartbeat, UInt32.add_assoc]
      congr 1
      simp

theorem Petted.petInv {log : List WdEvent} {w : World} {d : Wdt} (petted : Petted log w d) :
    PetInv log w d := by
  induction petted with
  | init statics runs => exact init_petInv statics runs
  | @wait log w d petted ms early inv =>
      have near := inv.near
      have cleared := inv.cleared
      constructor
      · exact inv.period
      · exact inv.reschedule
      · exact inv.due
      · exact early
      · show d.due ≤ d.now + ms + 3000
        omega
      · show d.cleared ≤ d.now + ms
        omega
      · exact inv.unseen
  | others petted main seen inv =>
      exact { inv with unseen := by rw [main, seen, inv.unseen] }
  | heartbeat petted runs inv => exact (inv.heartbeat runs).2
  | callback petted due runs inv => exact (inv.callback due runs).2.2

/-! ## The whole schedule -/

/-- The callbacks come every three seconds, fewer than 2^32 heartbeats apart. -/
def Paced (log : List WdEvent) : Prop :=
  ∀ before time cleared later, log = before ++ .callback time cleared :: later →
    beats before < 2 ^ 32

/-- Every window between callbacks, the one from `health_init` on included, has a heartbeat. -/
def Turning (log : List WdEvent) : Prop :=
  ∀ before time cleared later, log = before ++ .callback time cleared :: later →
    0 < beats before

/-- The watchdog is cleared just after the windows with a heartbeat; with one in every window it
does not run out; and after a last heartbeat at `t` it has by `t + 8000`, cleared once more at
most. -/
structure PettingExact (log : List WdEvent) (d : Wdt) : Prop where
  scheduled : ∀ before time cleared later, log = before ++ .callback time cleared :: later →
    time = 3000 * (before.countP (·.isCallback) + 1)
  cleared_iff : ∀ before time cleared later, log = before ++ .callback time cleared :: later →
    (cleared = true ↔ 0 < beats before)
  alive : Turning log → ¬ d.expiredBy d.now
  dead : ∀ before t later, log = before ++ .heartbeat t :: later →
    (∀ e ∈ later, e.isCallback = true) →
      later.countP (·.clears) ≤ 1 ∧ (t + 8000 ≤ d.now → d.expiredBy (t + 8000))

theorem Paced.init {log : List WdEvent} {e : WdEvent} (paced : Paced (log ++ [e])) : Paced log := by
  intro before time cleared later split
  apply paced before time cleared (later ++ [e])
  rw [split]
  simp

theorem Turning.init {log : List WdEvent} {e : WdEvent} (turning : Turning (log ++ [e])) :
    Turning log := by
  intro before time cleared later split
  apply turning before time cleared (later ++ [e])
  rw [split]
  simp

/-- The last of a log, or one before it. -/
theorem split_concat {log before later : List WdEvent} {e e' : WdEvent}
    (split : log ++ [e] = before ++ e' :: later) :
    (later = [] ∧ log = before ∧ e = e') ∨
      ∃ earlier, later = earlier ++ [e] ∧ log = before ++ e' :: earlier := by
  rcases List.eq_nil_or_concat later with rfl | ⟨earlier, last, rfl⟩
  · have ⟨same, last⟩ := List.append_inj' split rfl
    exact .inl ⟨rfl, same, (List.cons.inj last).1⟩
  · rw [List.concat_eq_append, ← List.cons_append, ← List.append_assoc] at split
    have ⟨same, last⟩ := List.append_inj' split rfl
    obtain rfl := (List.cons.inj last).1
    exact .inr ⟨earlier, List.concat_eq_append, same⟩

namespace Petted

variable {log : List WdEvent} {w : World} {d : Wdt}

theorem scheduled (petted : Petted log w d) : ∀ before time cleared later,
    log = before ++ .callback time cleared :: later →
      time = 3000 * (before.countP (·.isCallback) + 1) := by
  induction petted with
  | init statics runs =>
      intro before time cleared later split
      simp at split
  | wait petted ms early ih => exact ih
  | others petted main seen ih => exact ih
  | heartbeat petted runs ih =>
      intro before time cleared later split
      rcases split_concat split with ⟨-, -, same⟩ | ⟨earlier, -, same⟩
      · exact WdEvent.noConfusion same
      · exact ih before time cleared earlier same
  | callback petted due runs ih =>
      intro before time cleared later split
      rcases split_concat split with ⟨-, rfl, same⟩ | ⟨earlier, -, same⟩
      · have next := petted.petInv.due
        have now := (WdEvent.callback.inj same).1
        omega
      · exact ih before time cleared earlier same

theorem cleared_iff (petted : Petted log w d) (paced : Paced log) : ∀ before time cleared later,
    log = before ++ .callback time cleared :: later → (cleared = true ↔ 0 < beats before) := by
  induction petted with
  | init statics runs =>
      intro before time cleared later split
      simp at split
  | wait petted ms early ih => exact ih paced
  | others petted main seen ih => exact ih paced
  | heartbeat petted runs ih =>
      intro before time cleared later split
      rcases split_concat split with ⟨-, -, same⟩ | ⟨earlier, -, same⟩
      · exact WdEvent.noConfusion same
      · exact ih paced.init before time cleared earlier same
  | callback petted due runs ih =>
      intro before time cleared later split
      have few := paced before time cleared later split
      rcases split_concat split with ⟨-, rfl, same⟩ | ⟨earlier, -, same⟩
      · have clears := (petted.petInv.callback due runs).1
        rw [(WdEvent.callback.inj same).2] at clears
        rw [clears]
        omega
      · exact ih paced.init before time cleared earlier same

/-- While the loop turns, the last callback has cleared the watchdog. -/
theorem cleared_eq (petted : Petted log w d) (paced : Paced log) (turning : Turning log) :
    d.cleared = 3000 * log.countP (·.isCallback) := by
  induction petted with
  | @init w w' tr statics runs =>
      have begun : healthInit.Ensures sdk (fun tr _ _ => (Wdt.off.watch tr).cleared = 0) w := by
        intro _ _ _ _
        rfl
      exact runs.ensures begun
  | wait petted ms early ih => exact ih paced turning
  | others petted main seen ih => exact ih paced turning
  | heartbeat petted runs ih =>
      rw [(petted.petInv.heartbeat runs).1, List.countP_append]
      exact ih paced.init (Turning.init turning)
  | @callback log w w' d tr petted due runs ih =>
      have few := paced log _ _ [] rfl
      have some := turning log _ _ [] rfl
      have moved : beats log % 2 ^ 32 ≠ 0 := by omega
      have wdt := (petted.petInv.callback due runs).2.1
      rw [if_pos moved] at wdt
      have next := petted.petInv.due
      show (d.watch tr).cleared = _
      rw [wdt, List.countP_append]
      show d.now = 3000 * (log.countP (·.isCallback) + 1)
      omega

/-- After a last heartbeat the watchdog is cleared at the next callback at the latest: the one
after it finds nothing new. -/
theorem dead (petted : Petted log w d) : ∀ before t later, log = before ++ .heartbeat t :: later →
    (∀ e ∈ later, e.isCallback = true) → later.countP (·.clears) ≤ 1 ∧ d.cleared ≤ t + 3000 ∧
      (later = [] → later.countP (·.clears) = 0 ∧ d.due ≤ t + 3000) := by
  induction petted with
  | init statics runs =>
      intro before t later split
      simp at split
  | wait petted ms early ih => exact ih
  | others petted main seen ih => exact ih
  | @heartbeat log w w' d tr petted runs ih =>
      intro before t later split quiet
      rw [(petted.petInv.heartbeat runs).1]
      rcases split_concat split with ⟨rfl, -, same⟩ | ⟨earlier, rfl, -⟩
      · have now := WdEvent.heartbeat.inj same
        have cleared := petted.petInv.cleared
        have near := petted.petInv.near
        constructor
        · exact Nat.zero_le 1
        · constructor
          · omega
          · intro _
            constructor
            · rfl
            · omega
      · have callback := quiet (.heartbeat d.now) (by simp)
        exact absurd callback Bool.false_ne_true
  | @callback log w w' d tr petted due runs ih =>
      intro before t later split quiet
      rcases split_concat split with ⟨-, -, same⟩ | ⟨earlier, rfl, same⟩
      · exact WdEvent.noConfusion same
      · obtain ⟨once, cleared, first⟩ := ih before t earlier same fun e he =>
          quiet e (List.mem_append_left _ he)
        have step := petted.petInv.callback due runs
        have wdt := step.2.1
        have nonempty : earlier ++ [.callback d.now (tr.any (·.call.clearsWatchDog))] ≠ [] := by
          simp
        rw [List.countP_append]
        show _ ∧ (d.watch tr).cleared ≤ _ ∧ _
        rcases List.eq_nil_or_concat earlier with rfl | ⟨earlier, e, rfl⟩
        · have one :
              [WdEvent.callback d.now (tr.any (·.call.clearsWatchDog))].countP (·.clears) ≤ 1 :=
            List.countP_le_length
          have before := first rfl
          constructor
          · omega
          · constructor
            · rw [wdt]
              split
              · show d.now ≤ _
                omega
              · exact cleared
            · intro none
              exact absurd none nonempty
        · have last : e.isCallback = true := quiet e (by simp)
          have none : beats log = 0 := by
            rw [same, List.concat_eq_append, ← List.cons_append, ← List.append_assoc]
            exact beats_callback _ last
          have still : ¬ beats log % 2 ^ 32 ≠ 0 := by
            rw [none]
            decide
          have off : tr.any (·.call.clearsWatchDog) = false := by
            rw [Bool.eq_false_iff]
            exact fun clears => still (step.1.mp clears)
          rw [if_neg still] at wdt
          rw [wdt, off]
          constructor
          · exact once
          · constructor
            · exact cleared
            · intro none
              exact absurd none (by simp)

end Petted

/-- Whatever the heartbeats, the watchdog is cleared and runs out as the schedule says. -/
theorem petting_exact {log : List WdEvent} {w : World} {d : Wdt} (petted : Petted log w d)
    (paced : Paced log) : PettingExact log d := by
  have inv := petted.petInv
  constructor
  · exact petted.scheduled
  · exact petted.cleared_iff paced
  · rintro turning ⟨period, same, out⟩
    rw [inv.period] at same
    have five := Option.some.inj same
    have cleared := petted.cleared_eq paced turning
    have due := inv.due
    have early := inv.early
    omega
  · intro before t later split quiet
    obtain ⟨once, cleared, -⟩ := petted.dead before t later split quiet
    constructor
    · exact once
    · intro _
      exact ⟨5000, inv.period, by omega⟩

/-- A heartbeat in the first window, seen by the first callback. -/
theorem petted_once : ∃ w, Petted [.heartbeat 100, .callback 3000 true] w
    ⟨3000, some 5000, 3000, 6000, 3000⟩ := by
  have begun := Petted.init rfl
    (exec_runs sdk Bench.idle.answer 0 healthInit powerUp (exec_allowed Bench.idle.allowed 0 _ _))
  have beaten := (begun.wait 100 (by decide)).heartbeat
    (exec_runs sdk Bench.idle.answer 0 healthMainHeartbeat _
      (exec_allowed Bench.idle.allowed 0 _ _))
  have seen := (beaten.wait 2900 (by decide)).callback rfl
    (exec_runs sdk Bench.idle.answer 0 healthWdClearCb _ (exec_allowed Bench.idle.allowed 0 _ _))
  exact ⟨_, seen⟩

theorem petting_exact_once : PettingExact [.heartbeat 100, .callback 3000 true]
    ⟨3000, some 5000, 3000, 6000, 3000⟩ := by
  have ⟨w, petted⟩ := petted_once
  apply petting_exact petted
  intro before time cleared later split
  have length := congrArg List.length split
  have window : beats before ≤ before.length := by
    unfold beats since
    have part := (List.takeWhile_sublist (fun e : WdEvent => !e.isCallback)
      (l := before.reverse)).length_le
    rw [List.length_reverse] at part
    rw [List.length_reverse]
    exact part
  simp only [List.length_append, List.length_cons, List.length_nil] at length
  omega

end Rx888
