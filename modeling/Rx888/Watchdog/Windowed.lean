import Rx888.Device.Bench

/-! # The wedge detector as a window over its samples

The detector keeps two strike counters and a baseline that it updates only when the count has
moved. Seen from outside it looks at the samples since the session began: a report ends a run
of strikes of one kind, three of a pipeline that has stalled or five of one that never started.
-/

namespace Rx888

open CallProgram

/-! ## The windowed specification -/

/-- What an evaluation finds: the buffer count, and the state machine's state unless its read
fails. -/
structure Reading where
  dmaCount : UInt32
  smState : Option UInt8
  deriving DecidableEq, Repr

def busyWaitStates : List UInt8 := [gpifTh0Busy, gpifTh1Busy, gpifTh1Wait, gpifTh0Wait]

def activeStates : List UInt8 :=
  [gpifTh0Rd, gpifTh1RdLd, gpifTh0RdLd, gpifTh0Busy, gpifTh1Rd, gpifTh1Busy, gpifTh1Wait,
    gpifTh0Wait]

inductive Strike where
  | stall
  | cold
  deriving DecidableEq, Repr

/-- What a sample counts as after one with the count `previous`. -/
def Reading.strike? (previous : UInt32) (r : Reading) : Option Strike :=
  if r.dmaCount ≠ previous then none
  else if 0 < r.dmaCount then
    if r.smState.any busyWaitStates.contains then some .stall else none
  else if r.smState.any activeStates.contains then some .cold else none

/-- A sample, the strike it is, the verdict on it and the fault kind then on record. -/
structure Judgement where
  reading : Reading
  strike? : Option Strike
  verdict : HealthStatus
  fault : StreamFault
  deriving DecidableEq, Repr

/-- The count of the last sample, 0 before the first. -/
def lastCount (log : List Judgement) : UInt32 := (log.getLast?.map (·.reading.dmaCount)).getD 0

/-- A strike of another kind, no strike at all, or a report. -/
def Judgement.breaks (kind : Strike) (j : Judgement) : Bool :=
  j.verdict == .wedgedStreaming || j.strike? != some kind

/-- The strikes of one kind in a row, since the last report. -/
def strikes (kind : Strike) (log : List Judgement) : Nat := (since (·.breaks kind) log).length

/-- The sample ends a run of `n` strikes. -/
def Judgement.ends (kind : Strike) (n : Nat) (log : List Judgement) (j : Judgement) : Prop :=
  j.strike? = some kind ∧ strikes kind log + 1 = n

/-- The verdict after the samples `log`: a report just at the end of a run of three stall strikes
or of five cold ones, with the kind of the fault. -/
structure Judgement.Windowed (log : List Judgement) (j : Judgement) : Prop where
  reported : j.verdict = .wedgedStreaming ↔ j.ends .stall 3 log ∨ j.ends .cold 5 log
  healthy : j.verdict ≠ .wedgedStreaming → j.verdict = .ok
  stalled : j.ends .stall 3 log → j.fault = .progressStall
  unstarted : j.ends .cold 5 log → j.fault = .coldStart

/-! ## Evaluations -/

/-- A read of the state machine is answered by `state`, and a read of the time finds no EP0
handler overdue. -/
def Call.foundAs (m : Ram) (state : Option UInt8) : (c : Call) → c.Ans → Bool
  | .gpifGetSMState, r => r == state
  | .getTime, now => !m.ep0.overdue now
  | _, _ => true

/-- The evaluations since a session reset, with the memory left to all others in between but for
the session's own. -/
inductive Watched : List Judgement → World → Prop where
  | reset {w w' : World} {tr : List FwCall}
      (runs : Runs sdk healthResetRecoveryCount w tr () w') : Watched [] w'
  | evaluated {log : List Judgement} {w w₁ w' : World} {tr : List FwCall} {hs : HealthStatus}
      (watched : Watched log w) (r : Reading) (kept : w₁.mem.session = w.mem.session)
      (active : w₁.mem.app.glIsApplnActive = true) (count : w₁.mem.glDMACount = r.dmaCount)
      (runs : Runs sdk healthEvaluate w₁ tr hs w')
      (found : ∀ t ∈ tr, t.call.foundAs t.before.mem r.smState t.ans = true) :
      Watched (log ++ [⟨r, r.strike? (lastCount log), hs, w'.mem.session.glWdgFaultKind⟩]) w'

@[simp] theorem lastCount_nil : lastCount [] = 0 := rfl

@[simp] theorem lastCount_concat (log : List Judgement) (j : Judgement) :
    lastCount (log ++ [j]) = j.reading.dmaCount := by
  simp [lastCount]

@[simp] theorem strikes_nil (kind : Strike) : strikes kind [] = 0 := rfl

theorem strikes_concat (kind : Strike) (log : List Judgement) (j : Judgement) :
    strikes kind (log ++ [j]) = if j.breaks kind then 0 else strikes kind log + 1 := by
  unfold strikes
  rw [since_concat]
  split
  · rfl
  · rw [List.length_append, List.length_singleton]

/-! ## What a sample is read as -/

theorem busyWait_iff (r : Reading) :
    gpifStateIsBusyWait (r.smState.getD 0xFF) = r.smState.any busyWaitStates.contains := by
  cases r.smState with
  | none => rfl
  | some state =>
      rw [Bool.eq_iff_iff]
      simp [gpifStateIsBusyWait, busyWaitStates, or_assoc]

theorem active_iff (r : Reading) :
    gpifStateIsStreamingActive (r.smState.getD 0xFF) = r.smState.any activeStates.contains := by
  cases r.smState with
  | none => rfl
  | some state =>
      rw [Bool.eq_iff_iff]
      simp [gpifStateIsStreamingActive, activeStates, or_assoc]

/-- The session state after a strike, or after a sample that is none, and the report. -/
def SessionRam.struck (s : SessionRam) (count : UInt32) : Option Strike → SessionRam × Bool
  | some .stall =>
      if s.glStallCount + 1 ≥ streamingStallTicks then
        ({ s with glColdStartCount := 0, glStallCount := 0, glWdgFaultKind := .progressStall },
          true)
      else ({ s with glColdStartCount := 0, glStallCount := s.glStallCount + 1 }, false)
  | some .cold =>
      if s.glColdStartCount + 1 ≥ coldStartWedgeTicks then
        ({ s with glStallCount := 0, glColdStartCount := 0, glWdgFaultKind := .coldStart }, true)
      else ({ s with glStallCount := 0, glColdStartCount := s.glColdStartCount + 1 }, false)
  | none => ({ s with glStallCount := 0, glColdStartCount := 0, glPrevDMACount := count }, false)

theorem sample_struck (s : SessionRam) (r : Reading) :
    s.sample r.dmaCount (r.smState.getD 0xFF) =
      s.struck r.dmaCount (r.strike? s.glPrevDMACount) := by
  unfold SessionRam.sample Reading.strike?
  rw [busyWait_iff, active_iff]
  by_cases moved : r.dmaCount = s.glPrevDMACount
  · rw [if_pos moved, if_neg (not_not_intro moved)]
    by_cases positive : 0 < r.dmaCount
    · have nonzero : r.dmaCount ≠ 0 := fun zero => absurd (zero ▸ positive) (by decide)
      rw [if_pos positive]
      cases r.smState.any busyWaitStates.contains with
      | true =>
          rw [if_pos ⟨positive, rfl⟩]
          rfl
      | false =>
          rw [if_neg (fun busy => Bool.false_ne_true busy.2), if_neg (fun cold => nonzero cold.1),
            moved]
          rfl
    · have zero : r.dmaCount = 0 := by
        rw [UInt32.lt_iff_toNat_lt] at positive
        exact UInt32.toNat_inj.mp (Nat.eq_zero_of_not_pos positive)
      rw [if_neg positive, if_neg (fun stall => positive stall.1)]
      cases r.smState.any activeStates.contains with
      | true =>
          rw [if_pos ⟨zero, rfl⟩]
          rfl
      | false =>
          rw [if_neg (fun active => Bool.false_ne_true active.2), moved]
          rfl
  · rw [if_neg moved, if_pos moved]
    rfl

/-! ## One evaluation -/

theorem foundAs_smState {m : Ram} {answer : Option UInt8} {c : Call} {r : c.Ans} {state : UInt8}
    (op : opOf c r = some (.smState state)) (found : c.foundAs m answer r = true) :
    state = answer.getD 0xFF := by
  cases c with
  | gpifGetSMState =>
      have read : (r == answer) = true := found
      cases op
      rw [eq_of_beq read]
  | gpioSetSimpleConfig pin level =>
      dsimp only [opOf] at op
      split at op <;> cases op
  | gpioSetValue pin level =>
      dsimp only [opOf] at op
      split at op <;> cases op
  | i2cReceiveBytes preamble count =>
      dsimp only [opOf] at op
      repeat' split at op
      all_goals cases op
  | i2cTransmitBytes preamble bytes =>
      dsimp only [opOf] at op
      split at op <;> cases op
  | _ => cases op

/-- With no handler overdue the verdict is not about EP0. -/
theorem healthEvaluate_timely {w : World} {state : Option UInt8} :
    healthEvaluate.Ensures sdk
      (fun tr hs _ => (∀ t ∈ tr, t.call.foundAs t.before.mem state t.ans = true) → hs ≠ .wedgedEp0)
      w := by
  have sampler (w : World) : Prog.Ensures sdk (do
      if (← ram).app.glIsApplnActive then
        if ← streamingWedgeDetected then
          return .wedgedStreaming
      return HealthStatus.ok : Fw HealthStatus) (fun _ hs _ => hs ≠ .wedgedEp0) w := by
    refine ram_bind_ensures.mpr ?_
    refine ensures_ite _ (fun _ => ?_) (fun _ => by simp)
    refine (ensures_bind _ _).mpr (ensures_of_runs fun _ hit _ _ => ?_)
    cases hit <;> simp
  unfold healthEvaluate
  refine ram_bind_ensures.mpr (ensures_ite _ (fun busy => ?_) fun _ => ?_)
  · refine call_bind_ensures.mpr fun now _ => ram_bind_ensures.mpr ?_
    refine ensures_ite _ (fun late => ?_) fun _ => ?_
    · intro found
      have timely : (!w.mem.ep0.overdue now) = true := found _ List.mem_cons_self
      have late : now - w.mem.ep0.ep0HandlerEnterMs ≥ ep0HandlerTimeoutMs := late
      simp [Ep0Ram.overdue, busy, late] at timely
    · exact ensures_mono (sampler _) fun _ _ _ verdict _ => verdict
  · exact ensures_mono (sampler _) fun _ _ _ verdict _ => verdict

/-- What the strike does to the session decides the verdict. -/
structure Judged (s : SessionRam) (j : Judgement) (s' : SessionRam) : Prop where
  session : s' = (s.struck j.reading.dmaCount j.strike?).1
  verdict : j.verdict =
    if (s.struck j.reading.dmaCount j.strike?).2 then .wedgedStreaming else .ok
  fault : j.fault = s'.glWdgFaultKind

theorem healthEvaluate_struck {w w' : World} {tr : List FwCall} {hs : HealthStatus} {r : Reading}
    (runs : Runs sdk healthEvaluate w tr hs w') (active : w.mem.app.glIsApplnActive = true)
    (count : w.mem.glDMACount = r.dmaCount)
    (found : ∀ t ∈ tr, t.call.foundAs t.before.mem r.smState t.ans = true) :
    Judged w.mem.session ⟨r, r.strike? w.mem.session.glPrevDMACount, hs,
      w'.mem.session.glWdgFaultKind⟩ w'.mem.session := by
  have verdict := runs.ensures healthEvaluate_timely found
  obtain ⟨evaluated, -⟩ := does_of_runs runs healthEvaluate_does
  have sample : ∀ state, ops tr = sampleOps w.mem state →
      w.mem.session.sample w.mem.glDMACount state =
        w.mem.session.struck r.dmaCount (r.strike? w.mem.session.glPrevDMACount) := by
    intro state looked
    rw [← sample_struck, ← count]
    unfold sampleOps at looked
    by_cases frozen : w.mem.glDMACount = w.mem.session.glPrevDMACount
    · rw [if_pos frozen] at looked
      have read : PipeOp.smState state ∈ ops tr := by simp [looked]
      obtain ⟨t, made, op⟩ := List.mem_filterMap.mp read
      rw [foundAs_smState op (found t made)]
    · unfold SessionRam.sample
      rw [if_neg frozen, if_neg frozen]
  generalize looked : ops tr = os at evaluated
  generalize after : w'.mem.session = s' at evaluated
  cases evaluated with
  | overdue now late => exact absurd rfl verdict
  | inactive off => simp [active] at off
  | sampled state on =>
      rw [sample state looked]
      exact ⟨rfl, rfl, rfl⟩

/-! ## The counters and the runs -/

def Strike.limit : Strike → UInt8
  | .stall => streamingStallTicks
  | .cold => coldStartWedgeTicks

def Strike.fault : Strike → StreamFault
  | .stall => .progressStall
  | .cold => .coldStart

def SessionRam.counter (s : SessionRam) : Strike → UInt8
  | .stall => s.glStallCount
  | .cold => s.glColdStartCount

section Struck

variable (s : SessionRam) (count : UInt32) (kind : Strike)

theorem struck_none_counter : (s.struck count none).1.counter kind = 0 := by
  cases kind <;> rfl

theorem struck_report :
    (s.struck count (some kind)).2 = true ↔ s.counter kind + 1 ≥ kind.limit := by
  cases kind with
  | stall => by_cases due : s.glStallCount + 1 ≥ streamingStallTicks <;>
      simp [SessionRam.struck, SessionRam.counter, Strike.limit, due]
  | cold => by_cases due : s.glColdStartCount + 1 ≥ coldStartWedgeTicks <;>
      simp [SessionRam.struck, SessionRam.counter, Strike.limit, due]

theorem struck_baseline :
    (s.struck count (some kind)).1.glPrevDMACount = s.glPrevDMACount := by
  cases kind with
  | stall => dsimp only [SessionRam.struck]; split <;> rfl
  | cold => dsimp only [SessionRam.struck]; split <;> rfl

/-- A strike moves its own counter and clears the other. -/
theorem struck_counter (kind' : Strike) :
    (s.struck count (some kind)).1.counter kind' =
      if kind' = kind ∧ (s.struck count (some kind)).2 = false then s.counter kind + 1 else 0 := by
  cases kind with
  | stall => cases kind' <;> by_cases due : s.glStallCount + 1 ≥ streamingStallTicks <;>
      simp [SessionRam.struck, SessionRam.counter, due]
  | cold => cases kind' <;> by_cases due : s.glColdStartCount + 1 ≥ coldStartWedgeTicks <;>
      simp [SessionRam.struck, SessionRam.counter, due]

theorem struck_fault (reported : (s.struck count (some kind)).2 = true) :
    (s.struck count (some kind)).1.glWdgFaultKind = kind.fault := by
  rw [struck_report] at reported
  cases kind with
  | stall =>
      have due : s.glStallCount + 1 ≥ streamingStallTicks := reported
      rw [SessionRam.struck, if_pos due]
      rfl
  | cold =>
      have due : s.glColdStartCount + 1 ≥ coldStartWedgeTicks := reported
      rw [SessionRam.struck, if_pos due]
      rfl

end Struck

/-- The baseline is the last sample's count, and the counters are the lengths of the runs that
no report has ended. -/
structure WatchInv (log : List Judgement) (s : SessionRam) : Prop where
  baseline : s.glPrevDMACount = lastCount log
  counted : ∀ kind, (s.counter kind).toNat = strikes kind log
  few : ∀ kind : Strike, strikes kind log < kind.limit.toNat

/-- One more strike reaches the limit just when it is the last of them. -/
theorem reaches_iff {count limit : UInt8} {n : Nat} (counted : count.toNat = n)
    (few : n < limit.toNat) :
    (count + 1).toNat = n + 1 ∧ (count + 1 ≥ limit ↔ n + 1 = limit.toNat) := by
  have small := limit.toNat_lt
  have next : (count + 1).toNat = count.toNat + 1 := by
    rw [UInt8.toNat_add]
    exact Nat.mod_eq_of_lt (by change count.toNat + 1 < _; omega)
  rw [ge_iff_le, UInt8.le_iff_toNat_le, next]
  omega

variable {log : List Judgement} {s s' : SessionRam} {j : Judgement}

theorem ends_limit {k : Strike} (strike : j.strike? = some k) :
    j.ends .stall 3 log ∨ j.ends .cold 5 log ↔ strikes k log + 1 = k.limit.toNat := by
  cases k with
  | stall => simp [Judgement.ends, strike, Strike.limit, streamingStallTicks]
  | cold => simp [Judgement.ends, strike, Strike.limit, coldStartWedgeTicks]

theorem WatchInv.judge (inv : WatchInv log s) (judged : Judged s j s')
    (kind : j.strike? = j.reading.strike? (lastCount log)) :
    j.Windowed log ∧ WatchInv (log ++ [j]) s' := by
  obtain ⟨rfl, verdict, fault⟩ := judged
  have runs (k : Strike) := strikes_concat k log j
  cases strike : j.strike? with
  | none =>
      rw [strike] at verdict fault
      have healthy : j.verdict = .ok := verdict
      have broken (k : Strike) : strikes k (log ++ [j]) = 0 := by
        rw [runs, if_pos (by simp [Judgement.breaks, strike])]
      constructor
      · constructor <;> simp [Judgement.ends, strike, healthy]
      · constructor
        · rw [lastCount_concat]
          rfl
        · intro k
          rw [struck_none_counter, broken]
          rfl
        · intro k
          rw [broken]
          cases k <;> decide
  | some k =>
      have same : j.reading.dmaCount = lastCount log := by
        by_cases moved : j.reading.dmaCount = lastCount log
        · exact moved
        · rw [kind, Reading.strike?, if_pos moved] at strike
          cases strike
      obtain ⟨next, reaches⟩ := reaches_iff (inv.counted k) (inv.few k)
      rw [strike] at verdict fault
      have report : (s.struck j.reading.dmaCount (some k)).2 = true ↔
          strikes k log + 1 = k.limit.toNat := by
        rw [struck_report, reaches]
      have wedged : j.verdict = .wedgedStreaming ↔
          (s.struck j.reading.dmaCount (some k)).2 = true := by
        rw [verdict]
        cases (s.struck j.reading.dmaCount (some k)).2 <;> simp
      have kept (k' : Strike) : strikes k' (log ++ [j]) =
          if k' = k ∧ (s.struck j.reading.dmaCount (some k)).2 = false then strikes k log + 1
          else 0 := by
        rw [runs, Judgement.breaks, strike]
        by_cases own : k' = k
        · subst own
          cases hit : (s.struck j.reading.dmaCount (some k')).2 <;> simp [verdict, hit]
        · have other : some k ≠ some k' := fun same => own (Option.some.inj same).symm
          simp [own, other]
      have named (ended : strikes k log + 1 = k.limit.toNat) : j.fault = k.fault := by
        rw [fault]
        exact struck_fault _ _ _ (report.mpr ended)
      refine ⟨⟨?_, ?_, ?_, ?_⟩, ⟨?_, ?_, ?_⟩⟩
      · rw [wedged, report, ends_limit strike]
      · intro healthy
        rw [verdict, if_neg (fun hit => healthy (wedged.mpr hit))]
      · intro ended
        have own : k = .stall := Option.some.inj (strike.symm.trans ended.1)
        subst own
        exact named ended.2
      · intro ended
        have own : k = .cold := Option.some.inj (strike.symm.trans ended.1)
        subst own
        exact named ended.2
      · rw [struck_baseline, inv.baseline, lastCount_concat, same]
      · intro k'
        rw [struck_counter, kept]
        split
        · exact next
        · rfl
      · intro k'
        have few := inv.few k
        rw [kept]
        split
        next own =>
          have early : ¬ strikes k log + 1 = k.limit.toNat := by
            rw [← report, own.2]
            exact Bool.false_ne_true
          rw [own.1]
          omega
        next => cases k' <;> decide

theorem reset_watchInv {w w' : World} {tr : List FwCall}
    (runs : Runs sdk healthResetRecoveryCount w tr () w') : WatchInv [] w'.mem.session := by
  have ensured : healthResetRecoveryCount.Ensures sdk
      (fun _ _ w' => w'.mem.session = SessionRam.fresh) w := rfl
  have fresh := runs.ensures ensured
  rw [fresh]
  constructor
  · rfl
  · intro kind
    cases kind <;> rfl
  · intro kind
    cases kind <;> decide

theorem Watched.invariant {log : List Judgement} {w : World} (watched : Watched log w) :
    WatchInv log w.mem.session ∧
      ∀ before j later, log = before ++ j :: later → j.Windowed before := by
  induction watched with
  | reset runs => exact ⟨reset_watchInv runs, fun before j later split => by simp at split⟩
  | @evaluated log w w₁ w' tr hs watched r kept active count runs found ih =>
      obtain ⟨inv, earlier⟩ := ih
      have judged := healthEvaluate_struck runs active count found
      rw [← kept] at inv
      rw [inv.baseline] at judged
      obtain ⟨windowed, inv'⟩ := inv.judge judged rfl
      refine ⟨inv', fun before j later split => ?_⟩
      rcases List.eq_nil_or_concat later with rfl | ⟨later, last, rfl⟩
      · obtain ⟨rfl, same⟩ := List.append_inj' split rfl
        obtain ⟨rfl, -⟩ := List.cons.inj same
        exact windowed
      · rw [List.concat_eq_append, ← List.cons_append, ← List.append_assoc] at split
        exact earlier before j later (List.append_inj' split rfl).1

/-- Each evaluation of a session reports a wedge just when its sample ends a run of strikes of
full length. -/
theorem wedge_windowed {log before later : List Judgement} {j : Judgement} {w : World}
    (watched : Watched log w) (split : log = before ++ j :: later) : j.Windowed before :=
  watched.invariant.2 before j later split

/-! ## A stalled pipeline -/

/-- The state an evaluation meets: the application active and the buffers counted. -/
def World.counted (w : World) (count : UInt32) : World :=
  ⟨{ w.mem with app := { w.mem.app with glIsApplnActive := true }, glDMACount := count }, w.env⟩

def watch (log : List Judgement) (w : World) (b : Bench) (count : UInt32) :
    List FwCall × List Judgement × World :=
  let e := healthEvaluate.exec sdk b.answer 0 (w.counted count)
  let r : Reading := ⟨count, some (b.smState 0)⟩
  (e.1, log ++ [⟨r, r.strike? (lastCount log), e.2.1, e.2.2.mem.session.glWdgFaultKind⟩], e.2.2)

theorem Watched.watch {log : List Judgement} {w : World} (watched : Watched log w) (b : Bench)
    (count : UInt32) (found : ∀ t ∈ (watch log w b count).1,
      t.call.foundAs t.before.mem (some (b.smState 0)) t.ans = true) :
    Watched (Rx888.watch log w b count).2.1 (Rx888.watch log w b count).2.2 := by
  have runs := exec_runs sdk b.answer 0 healthEvaluate (w.counted count)
    (exec_allowed b.allowed 0 healthEvaluate (w.counted count))
  have kept : (w.counted count).mem.session = w.mem.session := rfl
  have active : (w.counted count).mem.app.glIsApplnActive = true := rfl
  exact .evaluated watched ⟨count, some (b.smState 0)⟩ kept active rfl runs found

/-- The log of a bench on which the count stands still and the state machine is busy. -/
def stalledLog : Nat → List Judgement × World
  | 0 => ([], (healthResetRecoveryCount.exec sdk Bench.idle.answer 0 powerUp).2.2)
  | n + 1 =>
      (watch (stalledLog n).1 (stalledLog n).2
        { Bench.idle with smState := fun _ => gpifTh0Busy } 7).2

theorem stalledLog_watched : Watched (stalledLog 4).1 (stalledLog 4).2 := by
  have begun : Watched (stalledLog 0).1 (stalledLog 0).2 :=
    .reset (exec_runs sdk Bench.idle.answer 0 _ _ (exec_allowed Bench.idle.allowed 0 _ _))
  have once := begun.watch { Bench.idle with smState := fun _ => gpifTh0Busy } 7
    (by decide +kernel)
  have twice := once.watch { Bench.idle with smState := fun _ => gpifTh0Busy } 7
    (by decide +kernel)
  have thrice := twice.watch { Bench.idle with smState := fun _ => gpifTh0Busy } 7
    (by decide +kernel)
  exact thrice.watch { Bench.idle with smState := fun _ => gpifTh0Busy } 7 (by decide +kernel)

/-- The fourth sample of a frozen count is the third strike. -/
theorem wedge_windowed_stalled :
    (⟨⟨7, some gpifTh0Busy⟩, some .stall, .wedgedStreaming, .progressStall⟩ :
      Judgement).Windowed (stalledLog 3).1 := by
  have split : (stalledLog 4).1 = (stalledLog 3).1 ++
      ⟨⟨7, some gpifTh0Busy⟩, some .stall, .wedgedStreaming, .progressStall⟩ :: [] := by
    decide +kernel
  exact wedge_windowed stalledLog_watched split

end Rx888
