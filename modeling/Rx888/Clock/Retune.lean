import Rx888.Clock.Registers

/-! # The transfers of a new frequency

`si5351aSetFrequencyA` sends four writes and ends with the first that fails. What a run leaves
in the chip is the bytes of the writes in their order, as far as they were stored.
-/

namespace Rx888

open CallProgram

/-- The writes of a sequence as they go out, up to the first that is not acknowledged, and the
status this leaves. -/
inductive Sent : List (UInt8 × List UInt8) → List ClockTransfer → ReturnStatus → Prop where
  | done : Sent [] [] cyU3PSuccess
  | failed {reg : UInt8} {bytes : List UInt8} {rest : List (UInt8 × List UInt8)}
      {status : ReturnStatus} (failed : status ≠ cyU3PSuccess) :
      Sent ((reg, bytes) :: rest) [⟨reg, bytes, status⟩] status
  | acked {reg : UInt8} {bytes : List UInt8} {rest : List (UInt8 × List UInt8)}
      {ts : List ClockTransfer} {status : ReturnStatus} (later : Sent rest ts status) :
      Sent ((reg, bytes) :: rest) (⟨reg, bytes, cyU3PSuccess⟩ :: ts) status

/-- The writes among them that the chip acknowledged. -/
def acknowledged (ts : List ClockTransfer) : Nat := ts.countP (·.status == cyU3PSuccess)

def byteCount (seq : List (UInt8 × List UInt8)) : Nat := (seq.map fun x => x.2.length).sum

/-- The registers when the first `n` bytes of a sequence are stored. -/
def ClockRegs.fed (regs : ClockRegs) : List (UInt8 × List UInt8) → Nat → ClockRegs
  | [], _ => regs
  | (reg, bytes) :: rest, n => (regs.store reg (bytes.take n)).fed rest (n - bytes.length)

theorem ClockRegs.fed_zero (regs : ClockRegs) (seq : List (UInt8 × List UInt8)) :
    regs.fed seq 0 = regs := by
  induction seq with
  | nil => rfl
  | cons x rest ih =>
      obtain ⟨reg, bytes⟩ := x
      rw [fed, List.take_zero, store_nil, Nat.zero_sub, ih]

theorem ClockRegs.fed_all (regs : ClockRegs) {seq : List (UInt8 × List UInt8)} :
    regs.fed seq (byteCount seq) = seq.foldl (fun regs x => regs.store x.1 x.2) regs := by
  induction seq generalizing regs with
  | nil => rfl
  | cons x rest ih =>
      obtain ⟨reg, bytes⟩ := x
      have count : byteCount ((reg, bytes) :: rest) = bytes.length + byteCount rest := by
        simp [byteCount]
      rw [fed, count, List.take_of_length_le (by omega), Nat.add_sub_cancel_left, ih]
      rfl

namespace Sent

variable {seq : List (UInt8 × List UInt8)} {ts : List ClockTransfer} {status : ReturnStatus}

theorem mem (sent : Sent seq ts status) : ∀ t ∈ ts, (t.reg, t.bytes) ∈ seq := by
  induction sent with
  | done => simp
  | failed => simp
  | acked later ih =>
      intro t ht
      rcases List.mem_cons.mp ht with rfl | ht
      · exact List.mem_cons_self
      · exact List.mem_cons_of_mem _ (ih t ht)

/-- All of them go through just when the whole reports success. -/
theorem success_iff (sent : Sent seq ts status) :
    status = cyU3PSuccess ↔ acknowledged ts = seq.length := by
  induction sent with
  | done => simp [acknowledged]
  | failed failed => simp [acknowledged, failed]
  | acked later ih =>
      rw [ih]
      simp only [acknowledged, List.countP_cons, List.length_cons, BEq.rfl, if_true]
      omega

variable {regs regs' : ClockRegs} {parts : List Nat}

theorem fed (sent : Sent seq ts status) (evolves : Evolves regs ts parts regs') :
    regs' = regs.fed seq parts.sum := by
  induction sent generalizing regs parts with
  | done =>
      cases evolves
      rfl
  | failed failed =>
      cases evolves with
      | acked ok rest => exact absurd ok failed
      | failed stored most _ rest =>
          cases rest
          rw [ClockRegs.fed, List.sum_cons, List.sum_nil, Nat.add_zero, Nat.sub_eq_zero_of_le most,
            ClockRegs.fed_zero]
  | acked later ih =>
      cases evolves with
      | failed stored most failed rest => exact absurd rfl failed
      | acked ok rest =>
          rw [ih rest, ClockRegs.fed, List.sum_cons, Nat.add_sub_cancel_left,
            List.take_of_length_le (Nat.le_add_right _ _)]

theorem parts_of_success (sent : Sent seq ts status) (ok : status = cyU3PSuccess)
    (evolves : Evolves regs ts parts regs') : parts.sum = byteCount seq := by
  induction sent generalizing regs parts with
  | done =>
      cases evolves
      rfl
  | failed failed => exact absurd ok failed
  | acked later ih =>
      cases evolves with
      | failed stored most failed rest => exact absurd rfl failed
      | acked _ rest =>
          rw [List.sum_cons, ih ok rest]
          simp [byteCount]

theorem fed_success (sent : Sent seq ts status) (ok : status = cyU3PSuccess)
    (evolves : Evolves regs ts parts regs') : regs' = regs.fed seq (byteCount seq) := by
  rw [sent.fed evolves, sent.parts_of_success ok evolves]

theorem all_acked (sent : Sent seq ts status)
    (acked : ts.all (·.status == cyU3PSuccess) = true) : status = cyU3PSuccess := by
  induction sent with
  | done => rfl
  | failed failed =>
      rw [List.all_cons, Bool.and_eq_true, beq_iff_eq] at acked
      exact absurd acked.1 failed
  | acked later ih =>
      rw [List.all_cons, Bool.and_eq_true] at acked
      exact ih acked.2

/-- What succeeds has sent every write, and each was acknowledged. -/
theorem mem_of_success (sent : Sent seq ts status) (ok : status = cyU3PSuccess) :
    ∀ x ∈ seq, ⟨x.1, x.2, cyU3PSuccess⟩ ∈ ts := by
  induction sent with
  | done => exact fun x mem => nomatch mem
  | failed failed => exact absurd ok failed
  | acked later ih =>
      intro x mem
      rcases List.mem_cons.mp mem with rfl | mem
      · exact List.mem_cons_self
      · exact List.mem_cons_of_mem _ (ih ok x mem)

end Sent

/-! ## Runs -/

theorem clockTransfer?_of_kind {c : Call} (r : c.Ans) (other : c.kind ≠ .i2cWrite) :
    c.clockTransfer? r = none := by
  cases c <;> first | rfl | exact absurd rfl other

variable {w : World}

/-- A program without writes on the bus leaves the clock chip alone. -/
theorem Makes.spares_clock {α : Type} {kinds : List Kind} {p : Fw α} (h : Makes kinds p)
    (other : .i2cWrite ∉ kinds) : p.Ensures sdk (fun tr _ _ => clockTransfers tr = []) w := by
  apply ensures_of_runs
  intro tr a w' runs
  apply List.filterMap_eq_nil_iff.mpr
  intro t ht
  apply clockTransfer?_of_kind
  intro same
  exact other (same ▸ h.run runs t ht)

theorem i2cTransferWrite_sends (reg byteCount : UInt8) (buffer : List UInt8) (any : byteCount ≠ 0) :
    (i2cTransferWrite reg si5351Addr byteCount buffer).Ensures sdk (fun tr status _ =>
      clockTransfers tr = [⟨reg, buffer.take byteCount.toNat, status⟩]) w := by
  unfold i2cTransferWrite
  rw [if_neg any]
  intro status _
  have makes : Makes [] (countI2cFailure status) := countI2cFailure_makes status
  apply (makes.spares_clock (by simp)).bind
  intro tr _ _ none
  simp [clockTransfers_cons, none, Call.clockTransfer?]

/-- A write, then what depends on its status: the end when it failed, the rest of the sequence
when it was acknowledged. -/
theorem sent_write {reg byteCount : UInt8} {buffer : List UInt8} (any : byteCount ≠ 0)
    {rest : List (UInt8 × List UInt8)} {k : ReturnStatus → Fw ReturnStatus}
    (failed : ∀ status w, status ≠ cyU3PSuccess → (k status).Ensures sdk (fun tr result _ =>
      clockTransfers tr = [] ∧ result = status) w)
    (acked : ∀ w, (k cyU3PSuccess).Ensures sdk (fun tr result _ =>
      Sent rest (clockTransfers tr) result) w) :
    (i2cTransferWrite reg si5351Addr byteCount buffer >>= k).Ensures sdk (fun tr result _ =>
      Sent ((reg, buffer.take byteCount.toNat) :: rest) (clockTransfers tr) result) w := by
  apply (i2cTransferWrite_sends reg byteCount buffer any).bind
  intro tr status w₁ first
  by_cases ok : status = cyU3PSuccess
  · subst ok
    apply ensures_mono (acked w₁)
    intro tr' result w' later
    rw [clockTransfers_append, first]
    exact .acked later
  · apply ensures_mono (failed status w₁ ok)
    rintro tr' result w' ⟨none, rfl⟩
    rw [clockTransfers_append, first, none]
    exact .failed ok

/-- The block written to PLL A, with its multiplier. -/
def pllBlock (setup : SynthSetup) : List UInt8 :=
  synthBytes (128 * setup.mult.toUInt32 + (128 * setup.num) / setup.denom - 512)
    (128 * setup.num - setup.denom * ((128 * setup.num) / setup.denom)) setup.denom 0

/-- The block written to MultiSynth 0, with its divider and the output divider's code. -/
def multisynthBlock (setup : SynthSetup) (rDiv : UInt8) : List UInt8 :=
  synthBytes (128 * setup.divider - 512) 0 1 rDiv

@[simp] theorem pllBlock_length (setup : SynthSetup) : (pllBlock setup).length = 8 := rfl

@[simp] theorem multisynthBlock_length (setup : SynthSetup) (rDiv : UInt8) :
    (multisynthBlock setup rDiv).length = 8 := rfl

/-- The writes that set a frequency. -/
def retuning (freq : UInt32) : List (UInt8 × List UInt8) :=
  let scaled := scaleFrequency 20 freq siRDiv1
  let setup := synthSetup scaled.1
  [(siSynthPllA, pllBlock setup), (siSynthMs0, multisynthBlock setup scaled.2.toUInt8),
    (siPllReset, [0x20]), (siClk0Control, [0x4F ||| siClkSrcPllA])]

theorem reports_failure {kinds : List Kind} {p : Fw Unit} (makes : Makes kinds p)
    (other : .i2cWrite ∉ kinds) (status : ReturnStatus) :
    (p >>= fun _ => (pure status : Fw ReturnStatus)).Ensures sdk (fun tr result _ =>
      clockTransfers tr = [] ∧ result = status) w := by
  apply (makes.spares_clock other).bind
  intro tr _ _ none
  simp [none]

/-- A run sends the four writes in order, up to the first that fails, and reports its status. -/
theorem si5351aSetFrequencyA_sends {freq : UInt32} (nonzero : freq ≠ 0) :
    (si5351aSetFrequencyA freq).Ensures sdk (fun tr status _ =>
      Sent (retuning freq) (clockTransfers tr) status) w := by
  unfold si5351aSetFrequencyA setupPLL setupMultisynth i2cTransferW1
  rw [if_neg nonzero]
  apply sent_write (by decide)
  · intro status w failed
    rw [if_pos failed]
    have makes (ec : UInt32) : Makes [.text] (debugPrint
        "Si5351 SetupPLL A failed: %d (i2c ec=%d)" [.num status, .num ec]) := by simp
    intro ec _
    exact reports_failure (makes ec) (by simp) status
  intro w
  rw [if_neg (by simp)]
  apply sent_write (by decide)
  · intro status w failed
    rw [if_pos failed]
    have makes : Makes [.text] (debugPrint "Si5351 SetupMultisynth 0 failed: %d"
        [.num status]) := by simp
    exact reports_failure makes (by simp) status
  intro w
  rw [if_neg (by simp)]
  apply sent_write (by decide)
  · intro status w failed
    rw [if_pos failed]
    have makes : Makes [.text] (debugPrint "Si5351 PLL A reset failed: %d" [.num status]) := by simp
    exact reports_failure makes (by simp) status
  intro w
  rw [if_neg (by simp)]
  apply sent_write (by decide)
  · intro status w failed
    rw [if_pos failed]
    have makes : Makes [.text] (debugPrint "Si5351 CLK0 control failed: %d"
        [.num status]) := by simp
    exact reports_failure makes (by simp) status
  intro w
  exact .done

end Rx888
