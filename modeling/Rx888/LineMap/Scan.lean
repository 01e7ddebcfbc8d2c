import Mathlib.Data.Set.Basic
import Mathlib.Order.Bounds.Basic

/-! # Scanning for a run of free lines

One pass over a stretch of lines counts the free ones met in a row. It ends at the first place
where there are enough of them.
-/

namespace LineMap

/-- The `need` lines from `k` on are free. -/
def Window (free : Nat → Bool) (need k : Nat) : Prop := ∀ i, k ≤ i → i < k + need → free i = true

/-- The windows within a stretch of `len` lines. -/
def windows (free : Nat → Bool) (need pos len : Nat) : Set Nat :=
  {k | pos ≤ k ∧ k + need ≤ pos + len ∧ Window free need k}

/-- The pass over `len` lines from `pos` on, with `count` free lines before it. -/
def scan (free : Nat → Bool) (need : Nat) : Nat → Nat → Nat → Option Nat
  | 0, _, _ => none
  | len + 1, pos, count =>
      if free pos then
        if count + 1 = need then some (pos - count) else scan free need len (pos + 1) (count + 1)
      else scan free need len (pos + 1) 0

section Scan

variable {free : Nat → Bool} {need len pos count k : Nat}

/-- A line in use is in no window, so those after it are all there are. -/
theorem windows_used (used : free pos = false) (few : count < need) (counted : count ≤ pos) :
    windows free need (pos - count) (len + 1 + count) = windows free need (pos + 1) len := by
  ext k
  constructor
  · rintro ⟨after, within, window⟩
    have past : pos < k := by
      apply Nat.lt_of_not_le
      intro before
      have met := window pos before (by omega)
      rw [used] at met
      cases met
    exact ⟨past, by omega, window⟩
  · rintro ⟨after, within, window⟩
    exact ⟨by omega, by omega, window⟩

/-- What the pass returns is the first of the windows, those that the counted lines begin included;
it returns nothing if there are none. -/
theorem scan_spec (few : count < need) (counted : count ≤ pos)
    (met : ∀ i, pos - count ≤ i → i < pos → free i = true) :
    match scan free need len pos count with
    | some k => IsLeast (windows free need (pos - count) (len + count)) k
    | none => windows free need (pos - count) (len + count) = ∅ := by
  induction len generalizing pos count with
  | zero =>
      apply Set.eq_empty_of_forall_notMem
      rintro k ⟨after, within, -⟩
      omega
  | succ len ih =>
      cases used : free pos with
      | false =>
          have rest := @ih (pos + 1) 0 (by omega) (by omega)
            (fun i after before => by omega)
          simp only [scan, used, Bool.false_eq_true, if_false]
          rw [windows_used used few counted]
          exact rest
      | true =>
          have met' : ∀ i, pos - count ≤ i → i < pos + 1 → free i = true := by
            intro i after before
            by_cases here : i = pos
            · rw [here, used]
            · exact met i after (by omega)
          by_cases enough : count + 1 = need
          · simp only [scan, used, if_true, if_pos enough]
            constructor
            · exact ⟨Nat.le_refl _, by omega, fun i after before => met' i after (by omega)⟩
            · exact fun k within => within.1
          · have rest := @ih (pos + 1) (count + 1) (by omega) (by omega)
              (fun i after before => met' i (by omega) before)
            have same : pos + 1 - (count + 1) = pos - count := by omega
            have long : len + (count + 1) = len + 1 + count := by omega
            simp only [scan, used, if_true, if_neg enough]
            rw [same, long] at rest
            exact rest

theorem scan_eq_some_iff (some_ : 0 < need) :
    scan free need len pos 0 = some k ↔ IsLeast (windows free need pos len) k := by
  have spec := @scan_spec free need len pos 0 some_ (Nat.zero_le pos)
    (fun i after before => by omega : ∀ i, pos - 0 ≤ i → i < pos → free i = true)
  rw [Nat.sub_zero, Nat.add_zero] at spec
  cases found : scan free need len pos 0 with
  | none =>
      rw [found] at spec
      constructor
      · intro same
        cases same
      · intro least
        have mem := least.1
        rw [spec] at mem
        exact absurd mem (Set.notMem_empty k)
  | some k' =>
      rw [found] at spec
      constructor
      · intro same
        cases same
        exact spec
      · intro least
        rw [spec.unique least]

theorem scan_eq_none_iff (some_ : 0 < need) :
    scan free need len pos 0 = none ↔ windows free need pos len = ∅ := by
  have spec := @scan_spec free need len pos 0 some_ (Nat.zero_le pos)
    (fun i after before => by omega : ∀ i, pos - 0 ≤ i → i < pos → free i = true)
  rw [Nat.sub_zero, Nat.add_zero] at spec
  cases found : scan free need len pos 0 with
  | none =>
      rw [found] at spec
      exact iff_of_true rfl spec
  | some k =>
      rw [found] at spec
      constructor
      · intro same
        cases same
      · intro none
        have mem := spec.1
        rw [none] at mem
        exact absurd mem (Set.notMem_empty k)

/-- The windows a search finds that begins at `start` and goes on at the top: none lies across
`start`. -/
def windowsRound (free : Nat → Bool) (need lines start : Nat) : Set Nat :=
  windows free need start (lines - start) ∪ windows free need 0 start

def scanRound (free : Nat → Bool) (need lines start : Nat) : Option Nat :=
  (scan free need (lines - start) start 0).or (scan free need start 0 0)

theorem mem_windowsRound {lines start : Nat} (within : start ≤ lines) :
    k ∈ windowsRound free need lines start ↔
      Window free need k ∧ k + need ≤ lines ∧ (start ≤ k ∨ k + need ≤ start) := by
  constructor
  · rintro (⟨after, before, window⟩ | ⟨after, before, window⟩)
    · exact ⟨window, by omega, Or.inl after⟩
    · exact ⟨window, by omega, Or.inr (by omega)⟩
  · rintro ⟨window, before, after | below⟩
    · exact Or.inl ⟨after, by omega, window⟩
    · exact Or.inr ⟨Nat.zero_le k, by omega, window⟩

theorem scanRound_eq_none_iff {lines start : Nat} (some_ : 0 < need) :
    scanRound free need lines start = none ↔ windowsRound free need lines start = ∅ := by
  unfold scanRound windowsRound
  rw [Option.or_eq_none_iff, scan_eq_none_iff some_, scan_eq_none_iff some_, Set.union_empty_iff]

/-- It is the first window from `start` on, or else the first one before. -/
theorem scanRound_eq_some_iff {lines start : Nat} (some_ : 0 < need) :
    scanRound free need lines start = some k ↔
      IsLeast (windows free need start (lines - start)) k ∨
        windows free need start (lines - start) = ∅ ∧ IsLeast (windows free need 0 start) k := by
  unfold scanRound
  rw [Option.or_eq_some_iff, scan_eq_some_iff some_, scan_eq_none_iff some_,
    scan_eq_some_iff some_]

theorem scanRound_mem {lines start : Nat} (some_ : 0 < need)
    (found : scanRound free need lines start = some k) :
    k ∈ windowsRound free need lines start := by
  rcases (scanRound_eq_some_iff some_).mp found with least | ⟨-, least⟩
  · exact Or.inl least.1
  · exact Or.inr least.1

end Scan

end LineMap
