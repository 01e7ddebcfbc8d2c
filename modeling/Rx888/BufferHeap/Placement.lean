import Rx888.BufferHeap.Heap

/-! # Where buffers lie

What the holders of DMA buffers rely on, after any calls of any number of them.
-/

namespace Rx888

open LineMap DmaBufMgr

namespace Heap

/-! ## No line is shared -/

theorem heapBase_eq : cyU3PBufferHeapBase = fx3CacheLineSz * 0x2002000 := by decide

theorem has_line {b : Buffer} (aligned : b.Aligned) {i : Nat} (has : b.Has i) :
    b.block.Has (i / fx3CacheLineSz - 0x2002000) ∧ 0x2002000 ≤ i / fx3CacheLineSz := by
  have long := (linesFor_bounds b.size).2.2
  have base := heapBase_eq
  have size : b.block.size = linesFor b.size := rfl
  unfold Buffer.Aligned at aligned
  unfold Buffer.Has at has
  unfold Block.Has Block.stop
  unfold fx3CacheLineSz at *
  omega

/-- A buffer in use begins with a cache line and lies in the heap, and no byte of another one is
in a line of its own. -/
theorem held_apart {h : Heap} (reached : Reached h) :
    (∀ b ∈ h.held, cyU3PBufferHeapBase < b.address ∧ fx3CacheLineSz ∣ b.address ∧
      b.address + b.size.toNat ≤ cyU3PSysMemTop) ∧
    h.held.Pairwise fun b c =>
      ∀ i j, b.Has i → c.Has j → i / fx3CacheLineSz ≠ j / fx3CacheLineSz := by
  obtain ⟨ready, aligned, L, live, shown⟩ := reached.good
  constructor
  · intro b hb
    obtain ⟨first, -, within⟩ := L.fits b.block (live ▸ List.mem_map_of_mem hb)
    have long := (linesFor_bounds b.size).2.2
    have address := aligned b hb
    have top := sysMemTop_eq
    have base := heapBase_eq
    have size : b.block.size = linesFor b.size := rfl
    unfold Buffer.Aligned at address
    unfold Block.stop at within
    have line : fx3CacheLineSz ∣ b.address := by
      rw [address, base, ← Nat.mul_add]
      exact Nat.dvd_mul_right _ _
    refine ⟨?_, line, ?_⟩
    · unfold fx3CacheLineSz at *
      omega
    · unfold fx3CacheLineSz at *
      omega
  · have apart := L.apart
    rw [live, List.pairwise_map] at apart
    apply apart.imp_of_mem
    intro b c hb hc apart i j hasB hasC same
    obtain ⟨inB, -⟩ := has_line (aligned b hb) hasB
    obtain ⟨inC, -⟩ := has_line (aligned c hc) hasC
    rw [same] at inB
    exact apart.not_has inB inC

def twoBuffers : Heap := (start.step (.alloc cyU3PSuccess 64)).step (.alloc cyU3PSuccess 512)

theorem twoBuffers_reached : Reached twoBuffers := .step (.step .start trivial) trivial

theorem twoBuffers_held : twoBuffers.held = [⟨0x40040060, 512⟩, ⟨0x40040020, 64⟩] := by
  decide +kernel

theorem held_apart_twoBuffers :
    (∀ b ∈ twoBuffers.held, cyU3PBufferHeapBase < b.address ∧ fx3CacheLineSz ∣ b.address ∧
      b.address + b.size.toNat ≤ cyU3PSysMemTop) ∧
    twoBuffers.held.Pairwise fun b c =>
      ∀ i j, b.Has i → c.Has j → i / fx3CacheLineSz ≠ j / fx3CacheLineSz :=
  held_apart twoBuffers_reached

/-! ## First fit -/

/-- Where there is room for a buffer: a line and those of the buffer behind it are open. -/
def room (h : Heap) (size : UInt16) : Set Nat :=
  {k | k + linesFor size < heapLines ∧ ∀ i, k ≤ i → i ≤ k + linesFor size → h.Open i}

theorem lineFree_iff {h : Heap} (good : h.Good) {i : Nat} (within : i < heapLines) :
    lineFree h.mgr.usedStatus i = true ↔ h.Open i := by
  obtain ⟨L, live, shown⟩ := good.shown
  unfold lineFree Open
  rw [Bool.not_eq_true', ← Bool.not_eq_true, shown i within, live]
  simp only [List.mem_map, exists_exists_and_eq_and, not_exists, not_and]

theorem window_iff {h : Heap} (good : h.Good) {size : UInt16} {k : Nat} :
    k ∈ h.room size ↔ k + (linesFor size + 1) ≤ heapLines ∧
      Window (lineFree h.mgr.usedStatus) (linesFor size + 1) k := by
  constructor
  · rintro ⟨within, opened⟩
    refine ⟨within, fun i after before => ?_⟩
    exact (lineFree_iff good (by omega)).mpr (opened i after (by omega))
  · rintro ⟨within, window⟩
    refine ⟨within, fun i after before => ?_⟩
    exact (lineFree_iff good (by omega)).mp (window i after (by omega))

theorem windows_eq {h : Heap} (good : h.Good) {size : UInt16} {pos len : Nat}
    (within : pos + len ≤ heapLines) :
    windows (lineFree h.mgr.usedStatus) (linesFor size + 1) pos len =
      {k ∈ h.room size | pos ≤ k ∧ k + linesFor size < pos + len} := by
  ext k
  constructor
  · rintro ⟨after, before, window⟩
    exact ⟨(window_iff good).mpr ⟨by omega, window⟩, after, by omega⟩
  · rintro ⟨here, after, before⟩
    exact ⟨after, by omega, ((window_iff good).mp here).2⟩

def roomAhead (h : Heap) (size : UInt16) : Set Nat :=
  {k ∈ h.room size | fx3CacheLineSz * h.mgr.searchPos ≤ k}

def roomBehind (h : Heap) (size : UInt16) : Set Nat :=
  {k ∈ h.room size | k + linesFor size < fx3CacheLineSz * h.mgr.searchPos}

theorem alloc_ptr {h : Heap} (good : h.Good) {size : UInt16} :
    (cyU3PDmaBufferAlloc h.mgr cyU3PSuccess size).1 =
      match scanRound (lineFree h.mgr.usedStatus) (linesFor size + 1) heapLines
        (fx3CacheLineSz * h.mgr.searchPos) with
      | some k => cyU3PBufferHeapBase + fx3CacheLineSz * (k + 1)
      | none => 0 := by
  rw [alloc_eq good.ready]
  cases scanRound (lineFree h.mgr.usedStatus) (linesFor size + 1) heapLines
      (fx3CacheLineSz * h.mgr.searchPos) with
  | none => rfl
  | some k => rfl

theorem windows_ahead {h : Heap} (good : h.Good) {size : UInt16} :
    windows (lineFree h.mgr.usedStatus) (linesFor size + 1) (fx3CacheLineSz * h.mgr.searchPos)
      (heapLines - fx3CacheLineSz * h.mgr.searchPos) = h.roomAhead size := by
  have start := good.searchStart
  rw [windows_eq good (by omega)]
  ext k
  constructor
  · rintro ⟨here, after, -⟩
    exact ⟨here, after⟩
  · rintro ⟨here, after⟩
    have within := here.1
    exact ⟨here, after, by omega⟩

theorem windows_behind {h : Heap} (good : h.Good) {size : UInt16} :
    windows (lineFree h.mgr.usedStatus) (linesFor size + 1) 0 (fx3CacheLineSz * h.mgr.searchPos) =
      h.roomBehind size := by
  have start := good.searchStart
  rw [windows_eq good (by omega), Nat.zero_add]
  ext k
  constructor
  · rintro ⟨here, -, before⟩
    exact ⟨here, before⟩
  · rintro ⟨here, before⟩
    exact ⟨here, Nat.zero_le k, before⟩

theorem ptr_ne_zero (k : Nat) : cyU3PBufferHeapBase + fx3CacheLineSz * (k + 1) ≠ 0 :=
  Nat.ne_of_gt (Nat.lt_of_lt_of_le (by decide) (Nat.le_add_right _ _))

theorem alloc_refused_iff {h : Heap} (good : h.Good) (size : UInt16) :
    (cyU3PDmaBufferAlloc h.mgr cyU3PSuccess size).1 = 0 ↔
      h.roomAhead size = ∅ ∧ h.roomBehind size = ∅ := by
  rw [← windows_ahead good, ← windows_behind good, ← Set.union_empty_iff]
  rw [alloc_ptr good]
  rw [← windowsRound, ← scanRound_eq_none_iff (Nat.succ_pos _)]
  cases scanRound (lineFree h.mgr.usedStatus) (linesFor size + 1) heapLines
      (fx3CacheLineSz * h.mgr.searchPos) with
  | none => exact iff_of_true rfl rfl
  | some k => exact iff_of_false (ptr_ne_zero k) nofun

theorem alloc_served_iff {h : Heap} (good : h.Good) (size : UInt16) (k : Nat) :
    (cyU3PDmaBufferAlloc h.mgr cyU3PSuccess size).1 =
        cyU3PBufferHeapBase + fx3CacheLineSz * (k + 1) ↔
      IsLeast (h.roomAhead size) k ∨ h.roomAhead size = ∅ ∧ IsLeast (h.roomBehind size) k := by
  rw [← windows_ahead good, ← windows_behind good, alloc_ptr good,
    ← scanRound_eq_some_iff (Nat.succ_pos _)]
  cases scanRound (lineFree h.mgr.usedStatus) (linesFor size + 1) heapLines
      (fx3CacheLineSz * h.mgr.searchPos) with
  | none => exact iff_of_false (ptr_ne_zero k).symm nofun
  | some k' =>
      rw [Option.some_inj, Nat.add_left_cancel_iff, Nat.mul_left_cancel_iff (by decide)]
      exact Nat.succ_inj

/-- A request is served at the first place ahead of where the search begins, or else at the first
one behind it. Room that lies across that place is not found. -/
theorem alloc_first_fit {h : Heap} (reached : Reached h) (size : UInt16) :
    ((cyU3PDmaBufferAlloc h.mgr cyU3PSuccess size).1 = 0 ↔
      h.roomAhead size = ∅ ∧ h.roomBehind size = ∅) ∧
    ∀ k, (cyU3PDmaBufferAlloc h.mgr cyU3PSuccess size).1 =
        cyU3PBufferHeapBase + fx3CacheLineSz * (k + 1) ↔
      IsLeast (h.roomAhead size) k ∨ h.roomAhead size = ∅ ∧ IsLeast (h.roomBehind size) k :=
  ⟨alloc_refused_iff reached.good size, alloc_served_iff reached.good size⟩

theorem alloc_first_fit_twoBuffers :
    ((cyU3PDmaBufferAlloc twoBuffers.mgr cyU3PSuccess 64).1 = 0 ↔
      twoBuffers.roomAhead 64 = ∅ ∧ twoBuffers.roomBehind 64 = ∅) ∧
    ∀ k, (cyU3PDmaBufferAlloc twoBuffers.mgr cyU3PSuccess 64).1 =
        cyU3PBufferHeapBase + fx3CacheLineSz * (k + 1) ↔
      IsLeast (twoBuffers.roomAhead 64) k ∨
        twoBuffers.roomAhead 64 = ∅ ∧ IsLeast (twoBuffers.roomBehind 64) k :=
  alloc_first_fit twoBuffers_reached 64

/-! ## All buffers returned -/

/-- When all buffers have been given back the status bits are as they were at first, and any
request is served. -/
theorem all_returned {h : Heap} (reached : Reached h) (none : h.held = []) :
    h.mgr = { start.mgr with searchPos := h.mgr.searchPos } ∧
      ∀ size, (cyU3PDmaBufferAlloc h.mgr cyU3PSuccess size).1 ≠ 0 := by
  have good := reached.good
  have opened : ∀ i, h.Open i := by
    intro i b hb
    rw [none] at hb
    cases hb
  constructor
  · have words : fx3CacheLineSz * h.mgr.usedStatus.length = heapLines := good.ready.words
    have length : h.mgr.usedStatus.length = 224 := by
      have lines : heapLines = fx3CacheLineSz * 224 := by decide
      rw [lines] at words
      exact Nat.eq_of_mul_eq_mul_left (by decide) words
    have clear : ∀ i, bitAt h.mgr.usedStatus i = false := by
      intro i
      by_cases within : i < heapLines
      · have free := (lineFree_iff good within).mpr (opened i)
        unfold lineFree at free
        rwa [Bool.not_eq_true'] at free
      · exact bitAt_ge (Nat.le_trans (Nat.le_of_eq words) (Nat.le_of_not_lt within))
    have zero := eq_replicate_of_clear clear
    rw [length] at zero
    rw [start_mgr, ← good.ready.startAddr_eq, ← good.ready.regionSize_eq]
    show h.mgr = { h.mgr with usedStatus := List.replicate 224 0 }
    rw [← zero]
  · intro size refused
    have room := (alloc_refused_iff good size).mp refused
    have bounds := linesFor_bounds size
    have start := good.searchStart
    have lines : heapLines = 7168 := by decide
    by_cases ahead : fx3CacheLineSz * h.mgr.searchPos + linesFor size < heapLines
    · have here : fx3CacheLineSz * h.mgr.searchPos ∈ h.roomAhead size :=
        ⟨⟨ahead, fun i _ _ => opened i⟩, Nat.le_refl _⟩
      rw [room.1] at here
      exact here
    · have here : 0 ∈ h.roomBehind size :=
        ⟨⟨by omega, fun i _ _ => opened i⟩, by omega⟩
      rw [room.2] at here
      exact here

def gaveBack : Heap :=
  (twoBuffers.step (.free cyU3PSuccess 0x40040020)).step (.free cyU3PSuccess 0x40040060)

theorem gaveBack_reached : Reached gaveBack := by
  apply Reached.step
  · apply Reached.step twoBuffers_reached
    refine Or.inl ⟨⟨0x40040020, 64⟩, ?_, rfl⟩
    rw [twoBuffers_held]
    decide
  · refine Or.inl ⟨⟨0x40040060, 512⟩, ?_, rfl⟩
    have left : (twoBuffers.step (.free cyU3PSuccess 0x40040020)).held = [⟨0x40040060, 512⟩] := by
      decide +kernel
    rw [left]
    decide

theorem gaveBack_held : gaveBack.held = [] := by decide +kernel

theorem all_returned_gaveBack :
    gaveBack.mgr = { start.mgr with searchPos := gaveBack.mgr.searchPos } ∧
      ∀ size, (cyU3PDmaBufferAlloc gaveBack.mgr cyU3PSuccess size).1 ≠ 0 :=
  all_returned gaveBack_reached gaveBack_held

end Heap

end Rx888
