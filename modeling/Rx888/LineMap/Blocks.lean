import Rx888.LineMap.Scan
import Mathlib.Data.List.Pairwise
import Mathlib.Data.List.Nodup

/-! # Blocks of lines

A heap of lines, and a map with one bit a line. A block's lines are marked but for the last one.
That one stays clear and shows where the block ends, so that the map alone tells the blocks
apart, and a block's length need not be kept anywhere else.
-/

namespace LineMap

structure Block where
  start : Nat
  size : Nat
  deriving DecidableEq, Repr

namespace Block

def stop (b : Block) : Nat := b.start + b.size

def Has (b : Block) (i : Nat) : Prop := b.start ≤ i ∧ i < b.stop

def Marks (b : Block) (i : Nat) : Prop := b.start ≤ i ∧ i + 1 < b.stop

instance (b : Block) (i : Nat) : Decidable (b.Has i) := inferInstanceAs (Decidable (_ ∧ _))

instance (b : Block) (i : Nat) : Decidable (b.Marks i) := inferInstanceAs (Decidable (_ ∧ _))

theorem marks_iff {b : Block} {i : Nat} :
    b.Marks i ↔ b.start ≤ i ∧ i < b.start + (b.size - 1) := by
  unfold Marks stop
  omega

def Apart (b c : Block) : Prop := b.stop ≤ c.start ∨ c.stop ≤ b.start

instance : DecidableRel Apart := fun _ _ => inferInstanceAs (Decidable (_ ∨ _))

instance : Std.Symm Apart where
  symm _ _ := Or.symm

/-- A block of one line would not show in the map. The line before the first block is never
given out. -/
def Fits (lines : Nat) (b : Block) : Prop := 1 ≤ b.start ∧ 2 ≤ b.size ∧ b.stop ≤ lines

instance (lines : Nat) : DecidablePred (Fits lines) :=
  fun _ => inferInstanceAs (Decidable (_ ∧ _ ∧ _))

theorem Fits.not_apart_self {lines : Nat} {b : Block} (h : b.Fits lines) : ¬ b.Apart b := by
  obtain ⟨-, long, -⟩ := h
  unfold Apart stop
  omega

/-- Two blocks that begin at one line overlap. -/
theorem Fits.not_apart {lines : Nat} {b c : Block} (hb : b.Fits lines) (hc : c.Fits lines)
    (same : b.start = c.start) : ¬ b.Apart c := by
  obtain ⟨-, long, -⟩ := hb
  obtain ⟨-, long', -⟩ := hc
  unfold Apart stop
  omega

theorem Apart.not_has {b c : Block} (h : b.Apart c) {i : Nat} (here : b.Has i) : ¬ c.Has i := by
  unfold Apart at h
  unfold Has at here ⊢
  omega

end Block

structure Layout (lines : Nat) where
  live : List Block
  fits : ∀ b ∈ live, b.Fits lines
  apart : live.Pairwise Block.Apart

namespace Layout

variable {lines : Nat}

def empty : Layout lines where
  live := []
  fits _ h := absurd h List.not_mem_nil
  apart := List.Pairwise.nil

theorem nodup (L : Layout lines) : L.live.Nodup := by
  apply (L.apart.imp_of_mem ?_)
  intro b c hb hc apart same
  exact (L.fits b hb).not_apart_self (same ▸ apart)

theorem apart_of_ne (L : Layout lines) {b c : Block} (hb : b ∈ L.live) (hc : c ∈ L.live)
    (ne : b ≠ c) : b.Apart c :=
  L.apart.forall hb hc ne

theorem eq_of_start (L : Layout lines) {b c : Block} (hb : b ∈ L.live) (hc : c ∈ L.live)
    (same : b.start = c.start) : b = c := by
  by_contra ne
  exact (L.fits b hb).not_apart (L.fits c hc) same (L.apart_of_ne hb hc ne)

def add (L : Layout lines) (b : Block) (fits : b.Fits lines) (apart : ∀ c ∈ L.live, b.Apart c) :
    Layout lines where
  live := b :: L.live
  fits := List.forall_mem_cons.mpr ⟨fits, L.fits⟩
  apart := List.pairwise_cons.mpr ⟨apart, L.apart⟩

def remove (L : Layout lines) (b : Block) : Layout lines where
  live := L.live.erase b
  fits c hc := L.fits c (List.mem_of_mem_erase hc)
  apart := L.apart.sublist List.erase_sublist

theorem mem_remove (L : Layout lines) {b c : Block} :
    c ∈ (L.remove b).live ↔ c ≠ b ∧ c ∈ L.live :=
  L.nodup.mem_erase_iff

/-- The map marks the lines of the blocks in use, and no others. -/
def ShownBy (L : Layout lines) (used : Nat → Bool) : Prop :=
  ∀ i < lines, used i = true ↔ ∃ b ∈ L.live, b.Marks i

section Shown

variable {L : Layout lines} {used used' : Nat → Bool} {b : Block}

theorem shownBy_empty (clear : ∀ i < lines, used i = false) :
    (empty : Layout lines).ShownBy used := by
  intro i within
  rw [clear i within]
  apply iff_of_false Bool.false_ne_true
  rintro ⟨b, hb, -⟩
  exact absurd hb List.not_mem_nil

/-- Behind a clear line there is room for a block of the clear lines after it: the clear line may
be the last one of a block in use. -/
theorem apart_of_window (shown : L.ShownBy used) {need k : Nat} (within : k + (need + 1) ≤ lines)
    (window : Window (fun i => !used i) (need + 1) k) :
    ∀ c ∈ L.live, (Block.mk (k + 1) need).Apart c := by
  intro c hc
  have unmarked : ∀ i, k ≤ i → i < k + (need + 1) → ¬ c.Marks i := by
    intro i after before marks
    have clear : (!used i) = true := window i after before
    rw [(shown i (by omega)).mpr ⟨c, hc, marks⟩] at clear
    cases clear
  obtain ⟨-, long, -⟩ := L.fits c hc
  unfold Block.Apart Block.stop
  unfold Block.Marks Block.stop at unmarked
  by_cases before : c.start < k
  · have atK := unmarked k (by omega) (by omega)
    simp only
    omega
  · by_cases inside : c.start < k + (need + 1)
    · have atStart := unmarked c.start (by omega) inside
      omega
    · simp only
      omega

theorem ShownBy.add (shown : L.ShownBy used) (fits : b.Fits lines)
    (apart : ∀ c ∈ L.live, b.Apart c)
    (marked : ∀ i < lines, used' i = (used i || decide (b.Marks i))) :
    (L.add b fits apart).ShownBy used' := by
  intro i within
  rw [marked i within, Bool.or_eq_true, decide_eq_true_iff, shown i within]
  simp only [Layout.add, List.mem_cons, exists_eq_or_imp]
  exact Or.comm

/-- The marks of a block end at its last line, whatever comes after it. -/
theorem ShownBy.run (shown : L.ShownBy used) (hb : b ∈ L.live) :
    (∀ i, b.Marks i → used i = true) ∧ used (b.start + (b.size - 1)) = false := by
  obtain ⟨-, long, within⟩ := L.fits b hb
  unfold Block.stop at within
  constructor
  · intro i marks
    have inside : i < lines := by
      unfold Block.Marks Block.stop at marks
      omega
    exact (shown i inside).mpr ⟨b, hb, marks⟩
  · rw [← Bool.not_eq_true, shown _ (by omega)]
    rintro ⟨c, hc, marks⟩
    by_cases same : b = c
    · subst same
      unfold Block.Marks Block.stop at marks
      omega
    · have apart := L.apart_of_ne hb hc same
      unfold Block.Apart Block.stop at apart
      unfold Block.Marks Block.stop at marks
      omega

theorem ShownBy.remove (shown : L.ShownBy used) (hb : b ∈ L.live)
    (cleared : ∀ i < lines, used' i = (used i && !decide (b.Marks i))) :
    (L.remove b).ShownBy used' := by
  intro i within
  rw [cleared i within, Bool.and_eq_true, shown i within, Bool.not_eq_true',
    decide_eq_false_iff_not]
  constructor
  · rintro ⟨⟨c, hc, marks⟩, unmarked⟩
    refine ⟨c, L.mem_remove.mpr ⟨?_, hc⟩, marks⟩
    rintro rfl
    exact unmarked marks
  · rintro ⟨c, hc, marks⟩
    obtain ⟨ne, hc⟩ := L.mem_remove.mp hc
    refine ⟨⟨c, hc, marks⟩, ?_⟩
    intro both
    have apart := L.apart_of_ne hb hc ne.symm
    unfold Block.Apart Block.stop at apart
    unfold Block.Marks Block.stop at marks both
    omega

end Shown

end Layout

end LineMap
