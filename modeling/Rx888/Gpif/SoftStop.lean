import Rx888.Gpif.Acquisition
import Rx888.Device.Bench

/-! # The soft stop

`FW_TRG` is lowered, the state machine has a millisecond of sample clocks to come to rest, and its
configuration is kept if it has. With a clock, it comes to rest in a few edges from wherever it
was: the ready flags of the threads may hold it up, each time that one of them changes.
-/

namespace Rx888

open CallProgram Gpif PingPong Synchronous

def readyChanges (inputs : List Gpif.Inputs) : Nat := Reader.changes (inputs.map readerInputs)

/-- Wherever the machine is when `FW_TRG` is lowered, it is idle four clocks and three more for each
change of a ready flag later. -/
theorem engine_rests (dataCount : UInt32) {earlier inputs : List Gpif.Inputs}
    (lowered : ∀ i ∈ inputs, i.cpuDef = false)
    (enough : 4 + 3 * readyChanges inputs ≤ inputs.length) :
    (cyFxGpifConfig.engine.run (Config.started 0 dataCount) (earlier ++ inputs)).current =
      gpifIdle := by
  obtain ⟨d, loaded, placed⟩ := acquires.run (started_acquires dataCount) (earlier ++ inputs)
  have rests : (acquisition.run ⟨.reset, dataCount.toNat⟩ (earlier ++ inputs)).place = .idle := by
    unfold acquisition
    rw [Machine.run_append, Machine.run_adapt, Machine.run_adapt]
    apply Reader.run_stops (by decide)
    · intro i mem
      obtain ⟨j, from_, rfl⟩ := List.mem_map.mp mem
      exact lowered j from_
    · rw [List.length_map]
      exact enough
  have current : _ = d.state.index := loaded.current
  have state : d.state = _ := placed.state
  rw [current, state, rests]
  rfl

/-- A read of the machine's state that is answered with `state`. -/
def Call.readsState (state : UInt8) : (c : Call) → c.Ans → Bool
  | .gpifGetSMState, answer => answer == some state
  | _, _ => true

/-- A machine at rest is disabled with its configuration kept, and nothing is reported. -/
theorem softStop_keeps (failed : String) (w : World) :
    (softStop failed).Ensures sdk (fun tr _ _ =>
      (∀ u ∈ tr, u.call.readsState gpifIdle u.ans) →
        tr.map (fun u => u.call) =
          [.gpifControlSWInput false, .threadSleep 1, .gpifGetSMState, .gpifDisable false]) w := by
  apply call_bind_ensures.mpr
  intro _ _
  apply call_bind_ensures.mpr
  intro _ _
  apply call_bind_ensures.mpr
  intro state _
  show Prog.Ensures sdk (if state.getD 0xFF = gpifIdle then _ else _) _ _
  by_cases idle : state.getD 0xFF = gpifIdle
  · rw [if_pos idle]
    intro _ _ _
    rfl
  · rw [if_neg idle]
    apply ensures_of_runs
    intro tr _ _ _ reads
    have read : (state == some gpifIdle) = true :=
      reads _ (List.mem_cons_of_mem _ (List.mem_cons_of_mem _ List.mem_cons_self))
    rw [eq_of_beq read] at idle
    exact absurd rfl idle

/-- With enough clocks between, the soft stop finds the machine idle and keeps its configuration,
whatever the machine was doing. -/
theorem soft_stop_keeps (dataCount : UInt32) {earlier inputs : List Gpif.Inputs}
    (lowered : ∀ i ∈ inputs, i.cpuDef = false)
    (enough : 4 + 3 * readyChanges inputs ≤ inputs.length) {failed : String} {w w' : World}
    {tr : List FwCall} (runs : Runs sdk (softStop failed) w tr () w')
    (reads : ∀ u ∈ tr, u.call.readsState
      (cyFxGpifConfig.engine.run (Config.started 0 dataCount) (earlier ++ inputs)).current u.ans) :
    tr.map (fun u => u.call) =
      [.gpifControlSWInput false, .threadSleep 1, .gpifGetSMState, .gpifDisable false] := by
  rw [engine_rests dataCount lowered enough] at reads
  exact runs.ensures (softStop_keeps failed w) reads

/-- A clock on which both sockets are ready. -/
def socketsReady (fwTrg : Bool) : Gpif.Inputs where
  cpuDef := fwTrg
  dmaReady _ := true
  others _ := false

theorem soft_stop_keeps_streaming :
    (((softStop "").exec sdk Bench.idle.answer 0 powerUp).1.map fun u => u.call) =
      [.gpifControlSWInput false, .threadSleep 1, .gpifGetSMState, .gpifDisable false] :=
  @soft_stop_keeps 0 (.replicate 9 (socketsReady true)) (.replicate 8 (socketsReady false))
    (by decide) (by decide) "" powerUp _ _
    (exec_runs sdk Bench.idle.answer 0 (softStop "") powerUp
      (exec_allowed Bench.idle.allowed 0 _ _))
    (by decide +kernel)

end Rx888
