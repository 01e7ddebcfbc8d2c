import Rx888.Gpif.Compiled
import Rx888.PingPong.Reader

/-! # The acquisition of samples

The state machine is a reader of two sockets, so that what the host gets of the samples, and when
the machine comes to rest, is what a reader gives.
-/

namespace Rx888

open Gpif PingPong Synchronous

/-- The states of the design by what the reader does there. -/
def GpifState.ofPlace : Place → GpifState
  | .reset => reset
  | .idle => idle
  | .load false => th0RdLd
  | .read false => th0Rd
  | .busy false => th0Busy
  | .wait false => th0Wait
  | .load true => th1RdLd
  | .read true => th1Rd
  | .busy true => th1Busy
  | .wait true => th1Wait

def threadOfSocket (t : Bool) : Thread := if t then .th1 else .th0

def readerInputs (i : Gpif.Inputs) : PingPong.Inputs where
  go := i.cpuDef
  ready t := i.dmaReady (threadOfSocket t)

def placeSeen (p : Place) : Seen where
  smState := (GpifState.ofPlace p).index
  push := p.push.map threadOfSocket
  interrupt := p.interrupts

def readerLimit : Nat := 8190

/-- The reader as the state machine is seen. -/
def acquisition : Machine Gpif.Inputs Reader Seen :=
  (reader readerLimit).adapt readerInputs placeSeen

/-- The designed machine is where the reader is. -/
structure Placed (d : Designed) (r : Reader) : Prop where
  state : d.state = GpifState.ofPlace r.place
  count : d.count.toNat = r.count
  bounded : r.Bounded readerLimit

variable {d : Designed} {r : Reader}

theorem Placed.seen (placed : Placed d r) : d.seen = placeSeen r.place := by
  unfold Designed.seen
  rw [placed.state]
  cases r.place with
  | reset | idle => rfl
  | load t | read t | busy t | wait t => cases t <;> rfl

theorem Placed.hit (placed : Placed d r) : d.hit = decide (r.count = readerLimit) := by
  rw [← placed.count]
  show (d.count == 8190) = decide (d.count.toNat = 8190)
  rw [Bool.eq_iff_iff, beq_iff_eq, decide_eq_true_iff, ← UInt32.toNat_inj]
  rfl

/-- The edge out of a state that is taken, by its equations. -/
theorem Designed.nextState_cases (i : Gpif.Inputs) (d : Designed) :
    d.nextState i =
      if d.holds i d.state.left.1 then d.state.left.2
      else match d.state.right with
        | some r => if d.holds i r.1 then r.2 else d.state
        | none => d.state := by
  rw [Designed.nextState_eq]
  unfold Designed.taken
  cases d.holds i d.state.left.1 with
  | true => rfl
  | false =>
      cases d.state.right with
      | none => rfl
      | some r =>
          rw [Option.filter_some]
          cases holds : d.holds i r.1 <;> simp [holds]

theorem Placed.next (placed : Placed d r) (i : Gpif.Inputs) :
    d.nextState i = GpifState.ofPlace (r.next readerLimit (readerInputs i)) := by
  have hit := placed.hit
  obtain ⟨state, count⟩ := d
  obtain ⟨place, n⟩ := r
  obtain ⟨rfl, -, -⟩ := placed
  rw [Designed.nextState_cases]
  cases place with
  | reset => rfl
  | idle =>
      show (if i.cpuDef then GpifState.th0RdLd else .idle) =
        GpifState.ofPlace (if i.cpuDef then .load false else .idle)
      cases i.cpuDef <;> rfl
  | load t =>
      cases t with
      | false =>
          show (if !i.dmaReady .th0 then GpifState.th0Busy
            else if i.dmaReady .th0 then .th0Rd else .th0RdLd) =
              GpifState.ofPlace (if i.dmaReady .th0 then .read false else .busy false)
          cases i.dmaReady .th0 <;> rfl
      | true =>
          show (if i.dmaReady .th1 then GpifState.th1Rd
            else if !i.dmaReady .th1 then .th1Busy else .th1RdLd) =
              GpifState.ofPlace (if i.dmaReady .th1 then .read true else .busy true)
          cases i.dmaReady .th1 <;> rfl
  | read t =>
      have next : Reader.next readerLimit (readerInputs i) ⟨.read t, n⟩ =
          if decide (n = readerLimit) then .load (!t) else if i.cpuDef then .read t else .idle := by
        show (if n = readerLimit then Place.load (!t) else if i.cpuDef then .read t else .idle) = _
        by_cases full : n = readerLimit
        · rw [if_pos full, if_pos (decide_eq_true full)]
        · simp only [full, decide_false, Bool.false_eq_true, ↓reduceIte]
      rw [next, ← hit]
      cases t with
      | false =>
          show (if Designed.hit _ then GpifState.th1RdLd
            else if !i.cpuDef then .idle else .th0Rd) = _
          cases Designed.hit _ <;> cases i.cpuDef <;> rfl
      | true =>
          show (if Designed.hit _ then GpifState.th0RdLd
            else if !i.cpuDef then .idle else .th1Rd) = _
          cases Designed.hit _ <;> cases i.cpuDef <;> rfl
  | busy t => cases t <;> rfl
  | wait t =>
      cases t with
      | false =>
          show (if i.dmaReady .th0 then GpifState.th0RdLd
            else if !i.cpuDef then .idle else .th0Wait) =
            GpifState.ofPlace
              (if i.dmaReady .th0 then .load false else if i.cpuDef then .wait false else .idle)
          cases i.dmaReady .th0 <;> cases i.cpuDef <;> rfl
      | true =>
          show (if i.dmaReady .th1 then GpifState.th1RdLd
            else if !i.cpuDef then .idle else .th1Wait) =
            GpifState.ofPlace
              (if i.dmaReady .th1 then .load true else if i.cpuDef then .wait true else .idle)
          cases i.dmaReady .th1 <;> cases i.cpuDef <;> rfl

theorem Placed.counted (placed : Placed d r) :
    (d.state.actions.foldl Designed.act d.count).toNat = r.counted readerLimit := by
  obtain ⟨state, count⟩ := d
  obtain ⟨place, n⟩ := r
  obtain ⟨rfl, same, bounded⟩ := placed
  have same : count.toNat = n := same
  subst same
  cases place with
  | reset | idle => rfl
  | busy t | wait t | load t => cases t <;> rfl
  | read t =>
      have bound : count.toNat ≤ 8190 := bounded t rfl
      have once : (if count = counterLimit then count else count + 1).toNat =
          if count.toNat = readerLimit then count.toNat else count.toNat + 1 := by
        have limit : count = counterLimit ↔ count.toNat = readerLimit := by
          rw [← UInt32.toNat_inj]
          rfl
        by_cases full : count = counterLimit
        · rw [if_pos full, if_pos (limit.mp full)]
        · rw [if_neg full, if_neg (mt limit.mpr full), UInt32.toNat_add]
          apply Nat.mod_eq_of_lt
          show count.toNat + 1 < 2 ^ 32
          omega
      cases t with
      | false => exact once
      | true => exact once

def placed : Simulation designer acquisition where
  rel := Placed
  next i _ _ placed := ⟨placed.next i, placed.counted, placed.bounded.clock (readerInputs i)⟩
  out _ _ placed := placed.seen

/-- The engine that has the tables loaded reads the two sockets by turns. -/
def acquires : Simulation cyFxGpifConfig.engine acquisition := compiled.trans placed

theorem started_acquires (dataCount : UInt32) :
    acquires.rel (Config.started 0 dataCount) ⟨.reset, dataCount.toNat⟩ :=
  ⟨⟨.reset, dataCount⟩, started_loaded dataCount, rfl, rfl, fun _ reads => nomatch reads⟩

end Rx888
