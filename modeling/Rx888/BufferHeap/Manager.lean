import Rx888.LineMap.Words
import Rx888.Sdk

/-! # The DMA buffer manager

The buffer allocator of `cyfxtx.c`. The heap is given out in cache lines of 32 bytes, and one bit
a line in `usedStatus` says which are taken. The memory leak and corruption checks, which nothing
turns on, are left out.
-/

namespace Rx888

def cyU3PBufferHeapBase : Nat := 0x40038000 + 0x8000
def cyU3PSysMemTop : Nat := 0x40078000
def cyU3PBufferHeapSize : Nat := cyU3PSysMemTop - cyU3PBufferHeapBase
def fx3CacheLineSz : Nat := 32

/-- `ROUND_UP`, for a power of two. -/
def roundUp (s n : Nat) : Nat := (s + n - 1) / n * n

/-- `CyU3PDmaBufMgr_t` but for the mutex. `statusSize` is the number of words in `usedStatus`. -/
structure DmaBufMgr where
  startAddr : Nat
  regionSize : Nat
  usedStatus : List (BitVec 32)
  searchPos : Nat
  deriving DecidableEq, Repr

namespace DmaBufMgr

def statusSize (m : DmaBufMgr) : Nat := m.usedStatus.length

/-- `glBufferManager` at power-up. -/
def reset : DmaBufMgr := { startAddr := 0, regionSize := 0, usedStatus := [], searchPos := 0 }

/-- `CyU3PDmaBufferInit`, given how `CyU3PMutexCreate` ends and whether there is memory for the
status words. -/
def cyU3PDmaBufferInit (m : DmaBufMgr) (status : ReturnStatus) (allocated : Bool) : DmaBufMgr :=
  if m.startAddr ≠ 0 ∧ m.regionSize ≠ 0 then m
  else if status ≠ cyU3PSuccess then m
  else if allocated = false then { m with usedStatus := [] }
  else
    let lines := cyU3PBufferHeapSize / fx3CacheLineSz
    let size := roundUp lines 32 / 32
    let usedStatus := List.replicate size (0 : BitVec 32)
    let usedStatus :=
      if lines % 32 ≠ 0 then
        let tmp := 32 - lines % 32
        usedStatus.set (size - 1) (~~~((1#32 <<< tmp) - 1))
      else usedStatus
    { startAddr := cyU3PBufferHeapBase
      regionSize := cyU3PBufferHeapSize
      usedStatus := usedStatus
      searchPos := 0 }

/-- `CyU3PDmaBufferDeInit`, given how `CyU3PMutexGet` ends. -/
def cyU3PDmaBufferDeInit (m : DmaBufMgr) (status : ReturnStatus) : DmaBufMgr :=
  if status ≠ cyU3PSuccess then m
  else { m with usedStatus := [], startAddr := 0, regionSize := 0 }

/-! ## The status bits -/

/-- The loop of `CyU3PDmaBufMgrSetStatus`. It takes at most a turn for each bit. -/
def setStatusLoop (value : Bool) : Nat → List (BitVec 32) → Nat → Nat → Nat → Nat → BitVec 32 →
    List (BitVec 32)
  | 0, usedStatus, _, _, _, _, _ => usedStatus
  | fuel + 1, usedStatus, wordnum, numBits, startbit, endbit, mask =>
      if numBits = 0 then usedStatus
      else
        let usedStatus :=
          if value then usedStatus.modify wordnum (· ||| mask)
          else usedStatus.modify wordnum (· &&& ~~~mask)
        let numBits := numBits - (endbit - startbit)
        if 32 ≤ numBits then
          setStatusLoop value fuel usedStatus (wordnum + 1) numBits 0 32 0xFFFFFFFF
        else
          setStatusLoop value fuel usedStatus (wordnum + 1) numBits 0 numBits
            ((1#32 <<< numBits) - 1)

def cyU3PDmaBufMgrSetStatus (usedStatus : List (BitVec 32)) (startPos numBits : Nat)
    (value : Bool) : List (BitVec 32) :=
  let wordnum := startPos >>> 5
  let startbit := startPos % 32
  let endbit := min 32 (startbit + numBits)
  let mask : BitVec 32 := if endbit = 32 then 0xFFFFFFFF else (1#32 <<< endbit) - 1
  let mask := mask - ((1#32 <<< startbit) - 1)
  setStatusLoop value numBits usedStatus wordnum numBits startbit endbit mask

/-- `usedStatus[wordnum] & (1 << bitnum)`, compared to zero. -/
def isClear (usedStatus : List (BitVec 32)) (wordnum bitnum : Nat) : Bool :=
  usedStatus.getD wordnum 0 &&& (1#32 <<< bitnum) == 0

/-! ## Allocation -/

/-- The variables of the search loop, and the `searchPos` it leaves. -/
structure Search where
  wordnum : Nat
  bitnum : Nat
  count : Nat
  start : Nat
  tmp : Nat
  searchPos : Nat
  deriving DecidableEq, Repr

def Search.next (s : Search) (statusSize : Nat) : Search :=
  let s := { s with bitnum := s.bitnum + 1 }
  if s.bitnum = 32 then
    let s := { s with bitnum := 0, wordnum := s.wordnum + 1, tmp := s.tmp + 1 }
    if s.wordnum = statusSize then { s with wordnum := 0, count := 0 } else s
  else s

/-- The search loop, which takes at most a turn for each bit. `need` is `size + 1`. -/
def searchLoop (usedStatus : List (BitVec 32)) (need : Nat) : Nat → Search → Search
  | 0, s => s
  | fuel + 1, s =>
      if s.tmp < usedStatus.length then
        if isClear usedStatus s.wordnum s.bitnum then
          let start := if s.count = 0 then (s.wordnum <<< 5) + s.bitnum + 1 else s.start
          let s := { s with start := start, count := s.count + 1 }
          if s.count = need then { s with searchPos := s.wordnum }
          else searchLoop usedStatus need fuel (s.next usedStatus.length)
        else searchLoop usedStatus need fuel ({ s with count := 0 }.next usedStatus.length)
      else s

def linesFor (size : UInt16) : Nat :=
  if size.toNat ≤ fx3CacheLineSz then 2 else (size.toNat + fx3CacheLineSz - 1) / fx3CacheLineSz

/-- `CyU3PDmaBufferAlloc`, given how `CyU3PMutexGet` ends: the address, or zero. -/
def cyU3PDmaBufferAlloc (m : DmaBufMgr) (lock : ReturnStatus) (size : UInt16) : Nat × DmaBufMgr :=
  if lock ≠ cyU3PSuccess then (0, m)
  else if m.startAddr = 0 ∨ m.regionSize = 0 then (0, m)
  else
    let lines := linesFor size
    let s := searchLoop m.usedStatus (lines + 1) (32 * m.statusSize)
      { wordnum := m.searchPos, bitnum := 0, count := 0, start := 0, tmp := 0,
        searchPos := m.searchPos }
    let m := { m with searchPos := s.searchPos }
    if s.count = lines + 1 then
      let usedStatus := cyU3PDmaBufMgrSetStatus m.usedStatus s.start (lines - 1) true
      (m.startAddr + (s.start <<< 5), { m with usedStatus := usedStatus })
    else (0, m)

/-! ## Release -/

/-- The ones in a row from a bit on. -/
def countOnes (usedStatus : List (BitVec 32)) : Nat → Nat → Nat → Nat → Nat
  | 0, _, _, count => count
  | fuel + 1, wordnum, bitnum, count =>
      if wordnum < usedStatus.length ∧ isClear usedStatus wordnum bitnum = false then
        if bitnum + 1 = 32 then countOnes usedStatus fuel (wordnum + 1) 0 (count + 1)
        else countOnes usedStatus fuel wordnum (bitnum + 1) (count + 1)
      else count

/-- `CyU3PDmaBufferFree`, given how `CyU3PMutexGet` ends: zero, or `-1`. -/
def cyU3PDmaBufferFree (m : DmaBufMgr) (lock : ReturnStatus) (buffer : Nat) : Int × DmaBufMgr :=
  if buffer < cyU3PBufferHeapBase then (-1, m)
  else if lock ≠ cyU3PSuccess then (-1, m)
  else if m.startAddr < buffer ∧ buffer < m.startAddr + m.regionSize then
    let start := (buffer - m.startAddr) >>> 5
    let count := countOnes m.usedStatus (32 * m.statusSize) (start >>> 5) (start % 32) 0
    (0, { m with
      usedStatus := cyU3PDmaBufMgrSetStatus m.usedStatus start count false
      searchPos := 0 })
  else (-1, m)

end DmaBufMgr

end Rx888
