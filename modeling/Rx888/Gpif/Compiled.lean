import Rx888.Gpif.Tables
import Rx888.Gpif.Designer

/-! # What the designer tool made of the state machine

The tables of `SDDC_GPIF.h`, decoded, have the edges of `gpif2model.xml` with the same conditions,
and each state's betas are its actions; so the engine that runs them cannot be told from the
machine as it was designed.
-/

namespace Rx888

open Gpif

/-! ## The transition functions -/

theorem function_pass (a b c d : Bool) : cyFxGpifConfig.function 1 a b c d = d := by
  cases a <;> cases b <;> cases c <;> cases d <;> rfl

theorem function_invert (a b c d : Bool) : cyFxGpifConfig.function 2 a b c d = !d := by
  cases a <;> cases b <;> cases c <;> cases d <;> rfl

theorem function_one (a b c d : Bool) : cyFxGpifConfig.function 3 a b c d = true := by
  cases a <;> cases b <;> cases c <;> cases d <;> rfl

/-- True where the second input is down. -/
theorem function_secondLow (a b c d : Bool) : cyFxGpifConfig.function 4 a b c d = !c := by
  cases a <;> cases b <;> cases c <;> cases d <;> rfl

namespace GpifState

/-- The descriptors that enter a state, decoded. Nothing enters the start state. -/
def code : GpifState → Descriptor
  | reset => ⟨0, 0, 0, 0, 0, 0, 0, 0, 0, false, false⟩
  | idle => ⟨1, 30, 28, 28, 28, 1, 0, 0, 0, false, true⟩
  | th0Rd => ⟨2, 20, 30, 28, 28, 1, 4, 0x10080, 0, false, true⟩
  | th1RdLd => ⟨3, 26, 28, 28, 28, 1, 2, 0x20090, 0, false, true⟩
  | th0RdLd => ⟨4, 26, 28, 28, 28, 2, 1, 0x20080, 0, false, true⟩
  | th0Busy => ⟨5, 28, 28, 28, 28, 3, 0, 0x40000, 0, false, true⟩
  | th1Rd => ⟨6, 20, 30, 28, 28, 1, 4, 0x10090, 0, false, true⟩
  | th1Busy => ⟨7, 28, 28, 28, 28, 3, 0, 0x40000, 0, false, true⟩
  | th1Wait => ⟨8, 26, 30, 28, 28, 1, 4, 0x10, 0, false, true⟩
  | th0Wait => ⟨9, 26, 30, 28, 28, 1, 4, 0, 0, false, true⟩

def left : GpifState → Equation × GpifState
  | reset => (Trigger.logicOne.on, idle)
  | idle => (Trigger.fwTrg.on, th0RdLd)
  | th0Rd => (Trigger.dataCntHit.on, th1RdLd)
  | th1RdLd => (Trigger.dmaRdyTh1.on, th1Rd)
  | th0RdLd => (Trigger.dmaRdyTh0.off, th0Busy)
  | th0Busy => (Trigger.logicOne.on, th0Wait)
  | th1Rd => (Trigger.dataCntHit.on, th0RdLd)
  | th1Busy => (Trigger.logicOne.on, th1Wait)
  | th1Wait => (Trigger.dmaRdyTh1.on, th1RdLd)
  | th0Wait => (Trigger.dmaRdyTh0.on, th0RdLd)

def right : GpifState → Option (Equation × GpifState)
  | th0Rd | th1Rd | th1Wait | th0Wait => some (Trigger.fwTrg.off, idle)
  | th1RdLd => some (Trigger.dmaRdyTh1.off, th1Busy)
  | th0RdLd => some (Trigger.dmaRdyTh0.on, th0Rd)
  | _ => none

def entered : GpifState → Option Descriptor
  | reset => none
  | s => some s.code

/-- The descriptor of a right edge; a state without one has an invalid descriptor. -/
def rightCode (s : GpifState) : Descriptor := (s.right.map fun r => r.2.code).getD (code reset)

theorem entered_eq {s : GpifState} (started : s ≠ reset) : s.entered = some s.code := by
  cases s with
  | reset => exact absurd rfl started
  | _ => rfl

theorem descriptors_index (s : GpifState) :
    cyFxGpifConfig.descriptors s.index = (s.left.2.code, s.rightCode) := by
  cases s <;> rfl

end GpifState

/-- The engine is where the designed machine is. -/
structure Loaded (s : State) (d : Designed) : Prop where
  current : s.current = d.state.index
  entered : s.entered = d.state.entered
  count : s.dataCount = d.count

variable {s : State} {d : Designed}

theorem Loaded.beta (loaded : Loaded s d) : s.beta = d.state.code.beta := by
  unfold State.beta
  rw [loaded.entered]
  cases d.state <;> rfl

theorem Loaded.seen (loaded : Loaded s d) : s.seen = d.seen := by
  unfold State.seen
  rw [loaded.beta, loaded.current]
  unfold Designed.seen
  cases d.state <;> rfl

theorem Loaded.hit (loaded : Loaded s d) : cyFxGpifConfig.dataCountHit s = d.hit := by
  show (true && s.dataCount == counterLimit) = (d.count == counterLimit)
  rw [Bool.true_and, loaded.count]

theorem Loaded.fires_left (loaded : Loaded s d) (i : Inputs) (started : d.state ≠ .reset) :
    cyFxGpifConfig.fires d.state.code d.state.code.f0 (cyFxGpifConfig.lambda i s) =
      d.holds i d.state.left.1 := by
  have hit := loaded.hit
  have beta := loaded.beta
  unfold Config.fires Designed.holds Designed.level
  cases state : d.state with
  | reset => exact absurd state started
  | idle | th0Rd | th1Rd =>
      simp [GpifState.code, GpifState.left, Trigger.on, function_pass, hit]
  | th1RdLd | th1Wait | th0Wait =>
      rw [state] at beta
      simp [GpifState.code, GpifState.left, Trigger.on, function_pass, beta]
      rfl
  | th0RdLd =>
      rw [state] at beta
      simp [GpifState.code, GpifState.left, Trigger.off, function_invert, beta]
      rfl
  | th0Busy | th1Busy => exact function_one ..

theorem Loaded.fires_right (loaded : Loaded s d) (i : Inputs) {r : Equation × GpifState}
    (right : d.state.right = some r) :
    cyFxGpifConfig.fires d.state.code d.state.code.f1 (cyFxGpifConfig.lambda i s) =
      d.holds i r.1 := by
  have beta := loaded.beta
  unfold Config.fires Designed.holds Designed.level
  cases state : d.state with
  | reset | idle | th0Busy | th1Busy =>
      rw [state] at right
      cases right
  | th0Rd | th1Rd | th1Wait | th0Wait =>
      rw [state] at right
      cases right
      simp [GpifState.code, Trigger.off, function_secondLow]
  | th1RdLd =>
      rw [state] at right beta
      cases right
      simp [GpifState.code, Trigger.off, function_invert, beta]
      rfl
  | th0RdLd =>
      rw [state] at right beta
      cases right
      simp [GpifState.code, Trigger.on, function_pass, beta]
      rfl

theorem GpifState.left_valid (s : GpifState) : s.left.2.code.valid = true := by cases s <;> rfl

theorem GpifState.right_valid {s : GpifState} {r : Equation × GpifState}
    (right : s.right = some r) : r.2.code.valid = true := by
  cases s <;> cases right <;> rfl

def Designed.taken (i : Inputs) (d : Designed) : Option GpifState :=
  if d.holds i d.state.left.1 then some d.state.left.2
  else (d.state.right.filter fun r => d.holds i r.1).map Prod.snd

theorem Designed.taken_ne_reset {i : Inputs} {d : Designed} {t : GpifState}
    (taken : d.taken i = some t) : t ≠ .reset := by
  unfold Designed.taken at taken
  split at taken
  · cases taken
    cases d.state <;> simp [GpifState.left]
  · obtain ⟨r, right, rfl⟩ := Option.map_eq_some_iff.mp taken
    have edge := (Option.filter_eq_some_iff.mp right).1
    revert edge
    cases d.state <;> simp [GpifState.right] <;> rintro rfl <;> simp

theorem Loaded.edge (loaded : Loaded s d) (i : Inputs) :
    cyFxGpifConfig.edge i s = (d.taken i).map GpifState.code := by
  have descriptors := GpifState.descriptors_index d.state
  rw [← loaded.current] at descriptors
  unfold Designed.taken
  by_cases started : d.state = .reset
  · have entered := loaded.entered
    rw [started] at entered
    rw [Config.edge_start descriptors entered, started]
    rfl
  · have entered : s.entered = some d.state.code := by
      rw [loaded.entered]
      exact GpifState.entered_eq started
    rw [Config.edge_eq descriptors entered, loaded.fires_left i started, d.state.left_valid,
      Bool.true_and]
    cases d.holds i d.state.left.1 with
    | true => rfl
    | false =>
        cases right : d.state.right with
        | none =>
            rw [GpifState.rightCode, right]
            rfl
        | some r =>
            rw [loaded.fires_right i right, GpifState.rightCode, right]
            show (if r.2.code.valid && d.holds i r.1 then some r.2.code else none) = Option.map _ _
            rw [GpifState.right_valid right, Bool.true_and, Option.filter_some]
            cases d.holds i r.1 <;> rfl

/-- The tables have the edges of the design, in its order. -/
theorem GpifState.exits_eq (s : GpifState) :
    s.exits = ⟨s, s.left.2, s.left.1⟩ :: (s.right.map fun r => ⟨s, r.2, r.1⟩).toList := by
  cases s <;> rfl

theorem Designed.nextState_eq (i : Inputs) (d : Designed) :
    d.nextState i = (d.taken i).getD d.state := by
  unfold Designed.nextState Designed.taken
  rw [d.state.exits_eq, List.find?_cons]
  cases d.holds i d.state.left.1 with
  | true => rfl
  | false =>
      cases d.state.right with
      | none => rfl
      | some r =>
          rw [Option.filter_some]
          cases holds : d.holds i r.1 <;> simp [holds]

/-- The counter's registers are configured as the actions of the design have it. -/
theorem counted_eq (s : State) :
    cyFxGpifConfig.counted s =
      if s.dataCount = counterLimit then s.dataCount else s.dataCount + 1 :=
  rfl

theorem Loaded.dataCounted (loaded : Loaded s d) :
    cyFxGpifConfig.dataCounted s = d.state.actions.foldl Designed.act d.count := by
  unfold Config.dataCounted
  rw [loaded.beta, counted_eq, loaded.count]
  cases d.state <;> rfl

theorem GpifState.code_nextState (s : GpifState) : s.code.nextState = s.index := by cases s <;> rfl

theorem Loaded.clock (loaded : Loaded s d) (i : Inputs) :
    Loaded (cyFxGpifConfig.clock i s) (d.clock i) := by
  have next := d.nextState_eq i
  have edge := loaded.edge i
  unfold Config.clock
  rw [edge]
  cases taken : d.taken i with
  | none =>
      rw [taken] at next
      constructor
      · exact loaded.current.trans (congrArg _ next.symm)
      · exact loaded.entered.trans (congrArg _ next.symm)
      · exact loaded.dataCounted
  | some t =>
      rw [taken] at next
      have next : d.nextState i = t := next
      constructor
      · exact t.code_nextState.trans (congrArg _ next.symm)
      · exact (GpifState.entered_eq (Designed.taken_ne_reset taken)).symm.trans
          (congrArg _ next.symm)
      · exact loaded.dataCounted
/-- The engine and the design keep step. -/
def compiled : Synchronous.Simulation cyFxGpifConfig.engine designer where
  rel := Loaded
  next := fun i _ _ loaded => loaded.clock i
  out := fun _ _ loaded => loaded.seen

theorem started_loaded (dataCount : UInt32) :
    Loaded (Config.started 0 dataCount) ⟨.reset, dataCount⟩ :=
  ⟨rfl, rfl, rfl⟩

/-- Under any inputs, the engine that has the tables loaded shows what the design does on every
clock. -/
theorem tables_match (dataCount : UInt32) (inputs : List Inputs) :
    cyFxGpifConfig.engine.trace (Config.started 0 dataCount) inputs =
      designer.trace ⟨.reset, dataCount⟩ inputs :=
  compiled.trace (started_loaded dataCount) inputs

end Rx888
