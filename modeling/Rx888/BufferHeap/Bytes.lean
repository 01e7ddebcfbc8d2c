import Mathlib.Logic.Function.Basic

/-! # Filling and copying memory

`CyU3PMemSet` and `CyU3PMemCopy` of `cyfxtx.c`, which go by eight bytes a turn as long as they can.
-/

namespace Rx888

open Function

abbrev Bytes := Nat → UInt8

/-- The bytes `lo` to `hi` of a block at `dest` are those that were at `src`. -/
def Bytes.moved (mem : Bytes) (dest src lo hi : Nat) : Bytes :=
  fun a => if dest + lo ≤ a ∧ a < dest + hi then mem (src + (a - dest)) else mem a

/-! ## Filling -/

/-- `ptr[k] = data`. -/
def setByte (ptr : Nat) (data : UInt8) (mem : Bytes) (k : Nat) : Bytes := update mem (ptr + k) data

def memSetRest (data : UInt8) : Nat → Nat → Bytes → Bytes
  | _, 0, mem => mem
  | ptr, count + 1, mem => memSetRest data (ptr + 1) count (setByte ptr data mem 0)

def cyU3PMemSet (ptr : Nat) (data : UInt8) (count : Nat) (mem : Bytes) : Bytes :=
  if count >>> 3 ≠ 0 then
    cyU3PMemSet (ptr + 8) data (count - 8) ([0, 1, 2, 3, 4, 5, 6, 7].foldl (setByte ptr data) mem)
  else memSetRest data ptr count mem
termination_by count
decreasing_by
  rw [Nat.shiftRight_eq_div_pow] at *
  omega

/-- The first `i` bytes of a block at `ptr` are `data`. -/
def Bytes.filled (mem : Bytes) (ptr : Nat) (data : UInt8) (i : Nat) : Bytes :=
  fun a => if ptr ≤ a ∧ a < ptr + i then data else mem a

section Fill

variable {mem : Bytes} {ptr : Nat} {data : UInt8}

theorem setByte_filled {p k i : Nat} (here : p + k = ptr + i) :
    setByte p data (mem.filled ptr data i) k = mem.filled ptr data (i + 1) := by
  unfold setByte
  rw [here]
  funext a
  unfold Bytes.filled
  by_cases last : a = ptr + i
  · subst last
    rw [update_self, if_pos (by omega)]
  · rw [update_of_ne last]
    apply if_congr _ rfl rfl
    omega

theorem memSetRest_eq {i : Nat} (c : Nat) :
    memSetRest data (ptr + i) c (mem.filled ptr data i) = mem.filled ptr data (i + c) := by
  induction c generalizing i with
  | zero => rfl
  | succ c ih =>
      unfold memSetRest
      rw [setByte_filled (by omega)]
      have rest := ih (i := i + 1)
      rw [Nat.add_right_comm i 1 c] at rest
      exact rest

theorem memSet_eq {i : Nat} (c : Nat) :
    cyU3PMemSet (ptr + i) data c (mem.filled ptr data i) = mem.filled ptr data (i + c) := by
  induction c using Nat.strongRecOn generalizing i with
  | ind c ih =>
      unfold cyU3PMemSet
      rw [Nat.shiftRight_eq_div_pow]
      split
      case isTrue more =>
        obtain ⟨c, rfl⟩ : ∃ c', c = c' + 8 := ⟨c - 8, by omega⟩
        simp only [List.foldl_cons, List.foldl_nil, Nat.add_sub_cancel]
        have step : ∀ k < 8, setByte (ptr + i) data (mem.filled ptr data (i + k)) k =
            mem.filled ptr data (i + (k + 1)) :=
          fun k inside => setByte_filled (by omega)
        have first := step 0 (by decide)
        rw [Nat.add_zero] at first
        rw [first, step 1 (by decide), step 2 (by decide), step 3 (by decide), step 4 (by decide),
          step 5 (by decide), step 6 (by decide), step 7 (by decide)]
        have rest := ih c (by omega) (i := i + 8)
        have here : i + 8 + c = i + (c + 8) := by omega
        rw [here] at rest
        exact rest
      case isFalse => exact memSetRest_eq c

theorem memSet_fills (ptr : Nat) (data : UInt8) (count : Nat) (mem : Bytes) (a : Nat) :
    cyU3PMemSet ptr data count mem a =
      if ptr ≤ a ∧ a < ptr + count then data else mem a := by
  have none : mem.filled ptr data 0 = mem := by
    funext a
    exact if_neg (by omega)
  have filled := @memSet_eq mem ptr data 0 count
  rw [none, Nat.zero_add, Nat.add_zero] at filled
  rw [filled]
  rfl

end Fill

/-! ## Copying -/

/-- `dest[k] = src[k]`. -/
def copyByte (dest src : Nat) (mem : Bytes) (k : Nat) : Bytes :=
  update mem (dest + k) (mem (src + k))

/-- The second loop of the copy from the end back, `*--dest = *--src`. -/
def copyDownRest : Nat → Nat → Nat → Bytes → Bytes
  | _, _, 0, mem => mem
  | dest, src, count + 1, mem =>
      copyDownRest (dest - 1) (src - 1) count (copyByte (dest - 1) (src - 1) mem 0)

def copyDown (dest src count : Nat) (mem : Bytes) : Bytes :=
  if 8 ≤ count then
    copyDown (dest - 8) (src - 8) (count - 8)
      ([7, 6, 5, 4, 3, 2, 1, 0].foldl (copyByte (dest - 8) (src - 8)) mem)
  else copyDownRest dest src count mem
termination_by count

def copyUpRest : Nat → Nat → Nat → Bytes → Bytes
  | _, _, 0, mem => mem
  | dest, src, count + 1, mem =>
      copyUpRest (dest + 1) (src + 1) count (copyByte dest src mem 0)

def copyUp (dest src count : Nat) (mem : Bytes) : Bytes :=
  if 8 ≤ count then
    copyUp (dest + 8) (src + 8) (count - 8)
      ([0, 1, 2, 3, 4, 5, 6, 7].foldl (copyByte dest src) mem)
  else copyUpRest dest src count mem
termination_by count

def cyU3PMemCopy (dest src count : Nat) (mem : Bytes) : Bytes :=
  if src < dest then copyDown (dest + count) (src + count) count mem
  else copyUp dest src count mem

section Copy

variable {mem : Bytes} {dest src n : Nat}

theorem moved_none (i : Nat) : mem.moved dest src i i = mem := by
  funext a
  exact if_neg (by omega)

/-- From the end back, a byte is read before one above it is written. -/
theorem copyByte_down (above : src < dest) {d s k i : Nat} (toHere : d + k = dest + i)
    (fromHere : s + k = src + i) (within : i < n) :
    copyByte d s (mem.moved dest src (i + 1) n) k = mem.moved dest src i n := by
  unfold copyByte
  rw [toHere, fromHere]
  funext a
  unfold Bytes.moved
  by_cases here : a = dest + i
  · subst here
    have offset : dest + i - dest = i := Nat.add_sub_cancel_left dest i
    rw [update_self, if_neg (by omega), if_pos (by omega), offset]
  · rw [update_of_ne here]
    apply if_congr _ rfl rfl
    omega

/-- From the start on, a byte is read before one below it is written. -/
theorem copyByte_up (below : dest ≤ src) {d s k i : Nat} (toHere : d + k = dest + i)
    (fromHere : s + k = src + i) :
    copyByte d s (mem.moved dest src 0 i) k = mem.moved dest src 0 (i + 1) := by
  unfold copyByte
  rw [toHere, fromHere]
  funext a
  unfold Bytes.moved
  by_cases here : a = dest + i
  · subst here
    have offset : dest + i - dest = i := Nat.add_sub_cancel_left dest i
    rw [update_self, if_neg (by omega), if_pos (by omega), offset]
  · rw [update_of_ne here]
    apply if_congr _ rfl rfl
    omega

theorem copyDownRest_eq (above : src < dest) {c : Nat} (within : c ≤ n) :
    copyDownRest (dest + c) (src + c) c (mem.moved dest src c n) = mem.moved dest src 0 n := by
  induction c with
  | zero => rfl
  | succ c ih =>
      unfold copyDownRest
      rw [copyByte_down above (by omega) (by omega) within]
      exact ih (by omega)

theorem copyDown_eq (above : src < dest) (c : Nat) (within : c ≤ n) :
    copyDown (dest + c) (src + c) c (mem.moved dest src c n) = mem.moved dest src 0 n := by
  induction c using Nat.strongRecOn with
  | ind c ih =>
      unfold copyDown
      split
      case isTrue more =>
        obtain ⟨c, rfl⟩ : ∃ c', c = c' + 8 := ⟨c - 8, by omega⟩
        simp only [List.foldl_cons, List.foldl_nil, ← Nat.add_assoc, Nat.add_sub_cancel]
        have step : ∀ k < 8, copyByte (dest + c) (src + c)
            (mem.moved dest src (c + k + 1) n) k = mem.moved dest src (c + k) n :=
          fun k inside => copyByte_down above (by omega) (by omega) (by omega)
        rw [step 7 (by decide), step 6 (by decide), step 5 (by decide), step 4 (by decide),
          step 3 (by decide), step 2 (by decide), step 1 (by decide), step 0 (by decide)]
        exact ih c (by omega) (by omega)
      case isFalse => exact copyDownRest_eq above within

theorem copyUpRest_eq (below : dest ≤ src) {i : Nat} (c : Nat) :
    copyUpRest (dest + i) (src + i) c (mem.moved dest src 0 i) = mem.moved dest src 0 (i + c) := by
  induction c generalizing i with
  | zero => rfl
  | succ c ih =>
      unfold copyUpRest
      rw [copyByte_up below (by omega) (by omega)]
      have rest := ih (i := i + 1)
      rw [Nat.add_right_comm i 1 c] at rest
      exact rest

theorem copyUp_eq (below : dest ≤ src) {i : Nat} (c : Nat) :
    copyUp (dest + i) (src + i) c (mem.moved dest src 0 i) = mem.moved dest src 0 (i + c) := by
  induction c using Nat.strongRecOn generalizing i with
  | ind c ih =>
      unfold copyUp
      split
      case isTrue more =>
        obtain ⟨c, rfl⟩ : ∃ c', c = c' + 8 := ⟨c - 8, by omega⟩
        simp only [List.foldl_cons, List.foldl_nil, Nat.add_sub_cancel]
        have step : ∀ k < 8, copyByte (dest + i) (src + i) (mem.moved dest src 0 (i + k)) k =
            mem.moved dest src 0 (i + (k + 1)) :=
          fun k inside => copyByte_up below (by omega) (by omega)
        have first := step 0 (by decide)
        rw [Nat.add_zero] at first
        rw [first, step 1 (by decide), step 2 (by decide), step 3 (by decide), step 4 (by decide),
          step 5 (by decide), step 6 (by decide), step 7 (by decide)]
        have rest := ih c (by omega) (i := i + 8)
        have here : i + 8 + c = i + (c + 8) := by omega
        rw [here] at rest
        exact rest
      case isFalse => exact copyUpRest_eq below c

/-- However the blocks overlap, the destination gets what the source held before. -/
theorem memCopy_moves (dest src count : Nat) (mem : Bytes) (a : Nat) :
    cyU3PMemCopy dest src count mem a =
      if dest ≤ a ∧ a < dest + count then mem (src + (a - dest)) else mem a := by
  unfold cyU3PMemCopy
  split
  case isTrue above =>
    have copied := @copyDown_eq mem dest src count above count (Nat.le_refl _)
    rw [moved_none] at copied
    rw [copied]
    rfl
  case isFalse below =>
    have copied := @copyUp_eq mem dest src (Nat.le_of_not_lt below) 0 count
    rw [moved_none, Nat.zero_add] at copied
    rw [Nat.add_zero, Nat.add_zero] at copied
    rw [copied]
    rfl

end Copy

end Rx888
