import Rx888.BufferHeap.Status

/-! # The buffers given out

The holders of buffers see a heap of blocks of lines. The manager keeps no list of them, but its
status bits show them.
-/

namespace Rx888

open LineMap DmaBufMgr

/-- The cache lines of the heap, of which the first is never given out. -/
def heapLines : Nat := cyU3PBufferHeapSize / fx3CacheLineSz

theorem sysMemTop_eq : cyU3PSysMemTop = cyU3PBufferHeapBase + 32 * heapLines := by decide

theorem line_lt {buffer : Nat} (below : buffer < cyU3PSysMemTop) :
    (buffer - cyU3PBufferHeapBase) / fx3CacheLineSz < heapLines := by
  apply Nat.div_lt_of_lt_mul
  have top := sysMemTop_eq
  have some : 0 < fx3CacheLineSz * heapLines := by decide
  have line : fx3CacheLineSz * heapLines = 32 * heapLines := rfl
  omega

/-- A buffer as its holder knows it: its address and the bytes asked for. -/
structure Buffer where
  address : Nat
  size : UInt16
  deriving DecidableEq, Repr

namespace Buffer

def Has (b : Buffer) (byte : Nat) : Prop :=
  b.address ≤ byte ∧ byte < b.address + b.size.toNat

def block (b : Buffer) : Block where
  start := (b.address - cyU3PBufferHeapBase) / fx3CacheLineSz
  size := linesFor b.size

/-- The buffer begins with a line of the heap. -/
def Aligned (b : Buffer) : Prop :=
  b.address = cyU3PBufferHeapBase + fx3CacheLineSz * b.block.start

end Buffer

/-- The manager, and the buffers that have been given out and not been given back, the latest
first. -/
structure Heap where
  mgr : DmaBufMgr
  held : List Buffer

inductive HeapCall where
  | alloc (lock : ReturnStatus) (size : UInt16)
  | free (lock : ReturnStatus) (buffer : Nat)
  deriving DecidableEq, Repr

namespace Heap

def start : Heap where
  mgr := cyU3PDmaBufferInit reset cyU3PSuccess true
  held := []

/-- The mutex keeps the calls of all threads apart. -/
def step (h : Heap) : HeapCall → Heap
  | .alloc lock size =>
      let (ptr, mgr) := cyU3PDmaBufferAlloc h.mgr lock size
      { mgr := mgr, held := if ptr = 0 then h.held else ⟨ptr, size⟩ :: h.held }
  | .free lock buffer =>
      let (retVal, mgr) := cyU3PDmaBufferFree h.mgr lock buffer
      { mgr := mgr
        held := if retVal = 0 then h.held.filter (fun b => b.address ≠ buffer) else h.held }

/-- A line that no buffer in use has, save as its last one. -/
def Open (h : Heap) (i : Nat) : Prop := ∀ b ∈ h.held, ¬ b.block.Marks i

/-- What is given back is a buffer in use, one that has been given back before and whose first
line has not been given out again, or an address outside of the heap. -/
def MayCall (h : Heap) : HeapCall → Prop
  | .alloc _ _ => True
  | .free _ buffer =>
      (∃ b ∈ h.held, b.address = buffer) ∨
        h.Open ((buffer - cyU3PBufferHeapBase) / fx3CacheLineSz) ∨
        buffer ≤ cyU3PBufferHeapBase ∨ cyU3PSysMemTop ≤ buffer

inductive Reached : Heap → Prop where
  | start : Reached start
  | step {h : Heap} {c : HeapCall} (before : Reached h) (may : h.MayCall c) : Reached (h.step c)

end Heap

/-! ## What one call does to the manager -/

section Calls

theorem linesFor_bounds (size : UInt16) :
    2 ≤ linesFor size ∧ linesFor size ≤ 2048 ∧ size.toNat ≤ fx3CacheLineSz * linesFor size := by
  have short : size.toNat < 65536 := size.toNat_lt
  unfold linesFor fx3CacheLineSz
  split
  · omega
  · omega

/-- A manager that is in use. -/
structure DmaBufMgr.Ready (m : DmaBufMgr) : Prop where
  startAddr_eq : m.startAddr = cyU3PBufferHeapBase
  regionSize_eq : m.regionSize = cyU3PBufferHeapSize
  words : fx3CacheLineSz * m.statusSize = heapLines
  searching : m.searchPos < m.statusSize

theorem start_mgr : Heap.start.mgr =
    { startAddr := cyU3PBufferHeapBase
      regionSize := cyU3PBufferHeapSize
      usedStatus := List.replicate 224 0
      searchPos := 0 } :=
  rfl

theorem ready_start : Heap.start.mgr.Ready := by
  rw [start_mgr]
  constructor
  · rfl
  · rfl
  · unfold statusSize
    rw [List.length_replicate]
    rfl
  · unfold statusSize
    rw [List.length_replicate]
    exact Nat.zero_lt_succ _

variable {m : DmaBufMgr} {size : UInt16} {lock : ReturnStatus} {buffer : Nat}

theorem alloc_unlocked (refused : lock ≠ cyU3PSuccess) :
    cyU3PDmaBufferAlloc m lock size = (0, m) :=
  if_pos refused

theorem alloc_eq (ready : m.Ready) :
    cyU3PDmaBufferAlloc m cyU3PSuccess size =
      match scanRound (lineFree m.usedStatus) (linesFor size + 1) heapLines
        (fx3CacheLineSz * m.searchPos) with
      | some k =>
          (cyU3PBufferHeapBase + fx3CacheLineSz * (k + 1),
            { m with
              usedStatus := cyU3PDmaBufMgrSetStatus m.usedStatus (k + 1) (linesFor size - 1) true
              searchPos := (k + linesFor size) / fx3CacheLineSz })
      | none => (0, m) := by
  have started : ¬ (m.startAddr = 0 ∨ m.regionSize = 0) := by
    rw [ready.startAddr_eq, ready.regionSize_eq]
    decide
  have searched := @searchLoop_eq m.usedStatus (linesFor size + 1) m.searchPos (Nat.succ_pos _)
    ready.searching
  have lines : 32 * m.usedStatus.length = heapLines := ready.words
  unfold cyU3PDmaBufferAlloc
  rw [if_neg (fun h => h rfl), if_neg started]
  unfold fx3CacheLineSz statusSize
  simp only at searched ⊢
  rw [lines] at searched ⊢
  cases found : scanRound (lineFree m.usedStatus) (linesFor size + 1) heapLines
      (32 * m.searchPos) with
  | some k =>
      rw [found] at searched
      obtain ⟨count_eq, start_eq, searchPos_eq⟩ := searched
      rw [if_pos count_eq, start_eq, searchPos_eq, ready.startAddr_eq, Nat.shiftLeft_eq,
        Nat.add_sub_cancel, Nat.mul_comm]
  | none =>
      rw [found] at searched
      obtain ⟨few, kept⟩ := searched
      rw [if_neg few, kept]

/-- Any buffer outside of the heap is refused. -/
theorem free_outside (ready : m.Ready)
    (outside : buffer ≤ cyU3PBufferHeapBase ∨ cyU3PSysMemTop ≤ buffer) :
    cyU3PDmaBufferFree m lock buffer = (-1, m) := by
  have out : ¬ (m.startAddr < buffer ∧ buffer < m.startAddr + m.regionSize) := by
    rw [ready.startAddr_eq, ready.regionSize_eq]
    unfold cyU3PBufferHeapSize
    unfold cyU3PSysMemTop cyU3PBufferHeapBase at *
    omega
  unfold cyU3PDmaBufferFree
  rw [if_neg out]
  split
  · rfl
  · split <;> rfl

theorem free_unlocked (refused : lock ≠ cyU3PSuccess) :
    cyU3PDmaBufferFree m lock buffer = (-1, m) := by
  unfold cyU3PDmaBufferFree
  rw [if_pos refused]
  split <;> rfl

theorem free_ones (ready : m.Ready) {start n : Nat} (inside : cyU3PBufferHeapBase < buffer)
    (below : buffer < cyU3PSysMemTop)
    (line : (buffer - cyU3PBufferHeapBase) / fx3CacheLineSz = start)
    (within : start + n < heapLines)
    (ones : ∀ i, start ≤ i → i < start + n → bitAt m.usedStatus i = true)
    (clear : bitAt m.usedStatus (start + n) = false) :
    cyU3PDmaBufferFree m cyU3PSuccess buffer =
      (0, { m with
        usedStatus := cyU3PDmaBufMgrSetStatus m.usedStatus start n false
        searchPos := 0 }) := by
  have words : 32 * m.usedStatus.length = heapLines := ready.words
  have region : cyU3PBufferHeapBase + cyU3PBufferHeapSize = cyU3PSysMemTop := by decide
  have line' : (buffer - cyU3PBufferHeapBase) / 2 ^ 5 = start := line
  have place : 32 * (start / 2 ^ 5) + start % 32 = start := by omega
  unfold cyU3PDmaBufferFree statusSize
  rw [if_neg (by omega), if_neg (fun h => h rfl), ready.startAddr_eq, ready.regionSize_eq,
    if_pos (by omega), Nat.shiftRight_eq_div_pow]
  simp only [line']
  rw [Nat.shiftRight_eq_div_pow]
  rw [countOnes_eq m.usedStatus n (32 * m.usedStatus.length) (by omega) (by omega) (by omega)
    (fun i after before => ones i (by omega) (by omega)) (by rw [place]; exact clear), Nat.zero_add]

/-- The ones from the first line of a buffer on are those of the buffer. -/
theorem free_eq {L : Layout heapLines} {b : Block} (ready : m.Ready)
    (shown : L.ShownBy (bitAt m.usedStatus)) (live : b ∈ L.live) :
    cyU3PDmaBufferFree m cyU3PSuccess (cyU3PBufferHeapBase + fx3CacheLineSz * b.start) =
      (0, { m with
        usedStatus := cyU3PDmaBufMgrSetStatus m.usedStatus b.start (b.size - 1) false
        searchPos := 0 }) := by
  obtain ⟨first, long, within⟩ := L.fits b live
  obtain ⟨ones, clear⟩ := shown.run live
  have top := sysMemTop_eq
  have line : fx3CacheLineSz * b.start = 32 * b.start := rfl
  unfold Block.stop at within
  apply free_ones ready
  · omega
  · omega
  · rw [Nat.add_sub_cancel_left, Nat.mul_div_cancel_left _ (by decide)]
  · omega
  · exact fun i after before => ones i (Block.marks_iff.mpr ⟨after, before⟩)
  · exact clear

theorem free_clear (ready : m.Ready) (inside : cyU3PBufferHeapBase < buffer)
    (below : buffer < cyU3PSysMemTop)
    (clear : bitAt m.usedStatus ((buffer - cyU3PBufferHeapBase) / fx3CacheLineSz) = false) :
    cyU3PDmaBufferFree m cyU3PSuccess buffer = (0, { m with searchPos := 0 }) := by
  have freed := @free_ones m buffer ready _ 0 inside below rfl
  rw [Nat.add_zero] at freed
  rw [freed (line_lt below) (fun i after before => absurd after (Nat.not_le_of_lt before)) clear,
    setStatus_none]

end Calls

/-! ## What the bits show -/

namespace Heap

/-- The buffers in use lie in lines of their own, and the status bits show which. -/
structure Good (h : Heap) : Prop where
  ready : h.mgr.Ready
  aligned : ∀ b ∈ h.held, b.Aligned
  shown : ∃ L : Layout heapLines, L.live = h.held.map Buffer.block ∧
    L.ShownBy (bitAt h.mgr.usedStatus)

theorem good_start : start.Good := by
  constructor
  · exact ready_start
  · intro b hb
    cases hb
  · refine ⟨Layout.empty, rfl, Layout.shownBy_empty fun i _ => ?_⟩
    exact bitAt_replicate_zero 224 i

section Steps

variable {h : Heap} {size : UInt16} {b c : Buffer}

theorem block_start (k : Nat) (size : UInt16) :
    (Buffer.mk (cyU3PBufferHeapBase + fx3CacheLineSz * k) size).block = ⟨k, linesFor size⟩ := by
  unfold Buffer.block
  rw [Nat.add_sub_cancel_left, Nat.mul_div_cancel_left k (by decide)]

/-- Two buffers in use at one address are the same. -/
theorem Good.address_iff (good : h.Good) (hb : b ∈ h.held) (hc : c ∈ h.held) :
    c.address = b.address ↔ c.block = b.block := by
  obtain ⟨L, live, -⟩ := good.shown
  constructor
  · intro same
    apply L.eq_of_start
    · rw [live]
      exact List.mem_map_of_mem hc
    · rw [live]
      exact List.mem_map_of_mem hb
    · unfold Buffer.block
      rw [same]
  · intro same
    rw [good.aligned c hc, good.aligned b hb, same]

theorem Good.searchStart (good : h.Good) : fx3CacheLineSz * h.mgr.searchPos ≤ heapLines := by
  rw [← good.ready.words]
  exact Nat.mul_le_mul_left _ (Nat.le_of_lt good.ready.searching)

/-- The buffer is put behind the first line of the window found. -/
theorem Good.step_alloc (good : h.Good) :
    h.step (.alloc cyU3PSuccess size) =
      match scanRound (lineFree h.mgr.usedStatus) (linesFor size + 1) heapLines
        (fx3CacheLineSz * h.mgr.searchPos) with
      | some k =>
          { mgr := { h.mgr with
              usedStatus :=
                cyU3PDmaBufMgrSetStatus h.mgr.usedStatus (k + 1) (linesFor size - 1) true
              searchPos := (k + linesFor size) / fx3CacheLineSz }
            held := ⟨cyU3PBufferHeapBase + fx3CacheLineSz * (k + 1), size⟩ :: h.held }
      | none => h := by
  unfold step
  simp only
  rw [alloc_eq good.ready]
  split
  case h_1 k _ =>
    have some : cyU3PBufferHeapBase + fx3CacheLineSz * (k + 1) ≠ 0 :=
      Nat.ne_of_gt (Nat.lt_of_lt_of_le (by decide) (Nat.le_add_right _ _))
    simp only
    rw [if_neg some]
  case h_2 => rfl

theorem Good.alloc (good : h.Good) (lock : ReturnStatus) : (h.step (.alloc lock size)).Good := by
  by_cases taken : lock = cyU3PSuccess
  · subst taken
    have start := good.searchStart
    rw [good.step_alloc]
    obtain ⟨ready, aligned, L, live, shown⟩ := good
    split
    case h_2 => exact ⟨ready, aligned, L, live, shown⟩
    case h_1 k found =>
      obtain ⟨window, within, -⟩ :=
        (mem_windowsRound start).mp (scanRound_mem (Nat.succ_pos _) found)
      have long := (linesFor_bounds size).1
      have words : 32 * h.mgr.usedStatus.length = heapLines := ready.words
      have fits : (Block.mk (k + 1) (linesFor size)).Fits heapLines := by
        refine ⟨Nat.succ_pos k, long, ?_⟩
        unfold Block.stop
        simp only
        omega
      have apart := Layout.apart_of_window shown within window
      refine ⟨⟨ready.startAddr_eq, ready.regionSize_eq, ?_, ?_⟩, ?_, ?_⟩
      · unfold statusSize
        rw [length_setStatus]
        exact words
      · unfold statusSize fx3CacheLineSz
        simp only
        rw [length_setStatus]
        omega
      · intro b hb
        rcases List.mem_cons.mp hb with rfl | hb
        · unfold Buffer.Aligned
          rw [block_start]
        · exact aligned b hb
      · refine ⟨L.add _ fits apart, ?_, shown.add fits apart fun i inside => ?_⟩
        · rw [List.map_cons, block_start, ← live]
          rfl
        · rw [bitAt_setStatus (by omega)]
          by_cases here : (Block.mk (k + 1) (linesFor size)).Marks i
          · rw [if_pos (Block.marks_iff.mp here), decide_eq_true here, Bool.or_true]
          · rw [if_neg (fun h => here (Block.marks_iff.mpr h)), decide_eq_false here, Bool.or_false]
  · have same : h.step (.alloc lock size) = h := by
      unfold step
      simp only
      rw [alloc_unlocked taken]
      rfl
    rw [same]
    exact good

theorem Good.step_free (good : h.Good) (hb : b ∈ h.held) :
    h.step (.free cyU3PSuccess b.address) =
      { mgr := { h.mgr with
          usedStatus :=
            cyU3PDmaBufMgrSetStatus h.mgr.usedStatus b.block.start (b.block.size - 1) false
          searchPos := 0 }
        held := h.held.filter fun c => c.address ≠ b.address } := by
  obtain ⟨L, live, shown⟩ := good.shown
  have here : b.block ∈ L.live := by
    rw [live]
    exact List.mem_map_of_mem hb
  have freed := free_eq good.ready shown here
  rw [← good.aligned b hb] at freed
  unfold step
  simp only
  rw [freed]
  rfl

theorem Good.free_held (good : h.Good) (hb : b ∈ h.held) :
    (h.step (.free cyU3PSuccess b.address)).Good := by
  rw [good.step_free hb]
  have sameBlock := fun c hc => good.address_iff (c := c) hb hc
  obtain ⟨ready, aligned, L, live, shown⟩ := good
  have here : b.block ∈ L.live := by
    rw [live]
    exact List.mem_map_of_mem hb
  have words : 32 * h.mgr.usedStatus.length = heapLines := ready.words
  have within := (L.fits _ here).2.2
  unfold Block.stop at within
  refine ⟨⟨ready.startAddr_eq, ready.regionSize_eq, ?_, ?_⟩, ?_, L.remove b.block, ?_, ?_⟩
  · unfold statusSize
    simp only
    rw [length_setStatus]
    exact words
  · unfold statusSize
    simp only
    rw [length_setStatus]
    unfold heapLines at words
    exact Nat.zero_lt_of_lt ready.searching
  · intro c hc
    exact aligned c (List.mem_of_mem_filter hc)
  · show L.live.erase b.block = _
    rw [L.nodup.erase_eq_filter, live, List.filter_map]
    congr 1
    apply List.filter_congr
    intro c hc
    rw [Bool.eq_iff_iff, Function.comp_apply, bne_iff_ne, decide_eq_true_iff]
    exact not_congr (sameBlock c hc).symm
  · apply shown.remove here
    intro i inside
    rw [bitAt_setStatus (by omega)]
    by_cases inBlock : b.block.Marks i
    · rw [if_pos (Block.marks_iff.mp inBlock), decide_eq_true inBlock, Bool.not_true,
        Bool.and_false]
    · rw [if_neg (fun h => inBlock (Block.marks_iff.mpr h)), decide_eq_false inBlock,
        Bool.not_false, Bool.and_true]

theorem Good.free_refused (good : h.Good) {lock : ReturnStatus} {buffer : Nat}
    (refused : lock ≠ cyU3PSuccess ∨ buffer ≤ cyU3PBufferHeapBase ∨ cyU3PSysMemTop ≤ buffer) :
    h.step (.free lock buffer) = h := by
  have none : cyU3PDmaBufferFree h.mgr lock buffer = (-1, h.mgr) := by
    rcases refused with unlocked | outside
    · exact free_unlocked unlocked
    · exact free_outside good.ready outside
  unfold step
  simp only
  rw [none]
  rfl

/-- What is given back a second time changes where the next search begins, and nothing else. -/
theorem Good.free_open (good : h.Good) {buffer : Nat} (inside : cyU3PBufferHeapBase < buffer)
    (below : buffer < cyU3PSysMemTop)
    (opened : h.Open ((buffer - cyU3PBufferHeapBase) / fx3CacheLineSz)) :
    h.step (.free cyU3PSuccess buffer) = { h with mgr := { h.mgr with searchPos := 0 } } := by
  obtain ⟨L, live, shown⟩ := good.shown
  have top := sysMemTop_eq
  have line := line_lt below
  have clear :
      bitAt h.mgr.usedStatus ((buffer - cyU3PBufferHeapBase) / fx3CacheLineSz) = false := by
    rw [← Bool.not_eq_true, shown _ line, live]
    rintro ⟨block, here, marks⟩
    obtain ⟨b, hb, rfl⟩ := List.mem_map.mp here
    exact opened b hb marks
  have kept : h.held.filter (fun b => b.address ≠ buffer) = h.held := by
    apply List.filter_eq_self.mpr
    intro b hb
    apply decide_eq_true
    rintro rfl
    obtain ⟨-, long, -⟩ := L.fits b.block (live ▸ List.mem_map_of_mem hb)
    refine opened b hb ⟨Nat.le_refl _, ?_⟩
    show b.block.start + 1 < b.block.start + b.block.size
    omega
  unfold step
  simp only
  rw [free_clear good.ready inside below clear]
  simp only
  rw [if_pos trivial, kept]

theorem Good.step (good : h.Good) {c : HeapCall} (may : h.MayCall c) : (h.step c).Good := by
  cases c with
  | alloc lock size => exact good.alloc lock
  | free lock buffer =>
      by_cases taken : lock = cyU3PSuccess
      · subst taken
        by_cases outside : buffer ≤ cyU3PBufferHeapBase ∨ cyU3PSysMemTop ≤ buffer
        · rw [good.free_refused (Or.inr outside)]
          exact good
        · rcases may with ⟨b, hb, rfl⟩ | opened | outside'
          · exact good.free_held hb
          · rw [good.free_open (by omega) (by omega) opened]
            have some := Nat.zero_lt_of_lt good.ready.searching
            obtain ⟨⟨startAddr_eq, regionSize_eq, words, -⟩, aligned, shown⟩ := good
            exact ⟨⟨startAddr_eq, regionSize_eq, words, some⟩, aligned, shown⟩
          · exact absurd outside' outside
      · rw [good.free_refused (Or.inl taken)]
        exact good

theorem Reached.good (reached : Reached h) : h.Good := by
  induction reached with
  | start => exact good_start
  | step _ may ih => exact ih.step may

end Steps

end Heap

end Rx888
