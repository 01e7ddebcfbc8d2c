import Mathlib.Data.Nat.Basic
import Mathlib.Algebra.Group.Nat.Defs
import Mathlib.Data.List.GetD

/-! # Memories and patches

A memory has a cell at each address of `w` bits. A patch puts a list of cells at consecutive
addresses; consecutive pieces of a patch, put one after the other, are the patch. The cells of a
patch may come in part from a longer list, with blank ones behind.
-/

namespace MemoryImage

abbrev Memory (w : Nat) (β : Type) := BitVec w → β

structure Patch (w : Nat) (β : Type) where
  start : BitVec w
  cells : List β

variable {w : Nat} {β : Type}

namespace Memory

def put (m : Memory w β) (start : BitVec w) (cells : List β) : Memory w β :=
  fun a => cells.getD (a - start).toNat (m a)

def patchAll (m : Memory w β) (patches : List (Patch w β)) : Memory w β :=
  patches.foldl (fun m p => m.put p.start p.cells) m

/-- One memory where `kept`, and another elsewhere. -/
def keeping (m : Memory w β) (kept : BitVec w → Bool) (m' : Memory w β) : Memory w β :=
  fun a => if kept a then m a else m' a

variable {m m' : Memory w β} {start : BitVec w} {cells cells' : List β}

@[simp] theorem put_nil : m.put start [] = m := rfl

@[simp] theorem patchAll_nil : m.patchAll [] = m := rfl

@[simp] theorem patchAll_cons (p : Patch w β) (ps : List (Patch w β)) :
    m.patchAll (p :: ps) = (m.put p.start p.cells).patchAll ps := rfl

@[simp] theorem patchAll_append (ps qs : List (Patch w β)) :
    m.patchAll (ps ++ qs) = (m.patchAll ps).patchAll qs :=
  List.foldl_append

theorem put_apart {a : BitVec w} (apart : cells.length ≤ (a - start).toNat) :
    m.put start cells a = m a := by
  unfold put
  rw [List.getD_eq_getElem?_getD, List.getElem?_eq_none apart]
  rfl

/-- How far an address lies behind the end of `n` cells: the distance wraps before it. -/
theorem toNat_sub_add (start a : BitVec w) {n : Nat} (small : n < 2 ^ w) :
    (a - (start + BitVec.ofNat w n)).toNat =
      if n ≤ (a - start).toNat then (a - start).toNat - n else (a - start).toNat + 2 ^ w - n := by
  have bound := (a - start).isLt
  rw [← BitVec.sub_sub, BitVec.toNat_sub, BitVec.toNat_ofNat, Nat.mod_eq_of_lt small]
  split
  case isTrue after =>
    have wrap : 2 ^ w - n + (a - start).toNat = (a - start).toNat - n + 2 ^ w := by omega
    rw [wrap, Nat.add_mod_right, Nat.mod_eq_of_lt (by omega)]
  case isFalse before =>
    rw [Nat.mod_eq_of_lt (by omega)]
    omega

/-- Two patches, one where the other ends, are one. -/
theorem put_append (room : cells.length + cells'.length ≤ 2 ^ w) :
    (m.put start cells).put (start + BitVec.ofNat w cells.length) cells' =
      m.put start (cells ++ cells') := by
  rcases cells' with _ | ⟨c, rest⟩
  · rw [List.append_nil, put_nil]
  · rw [List.length_cons] at room
    funext a
    have bound := (a - start).isLt
    have distance := toNat_sub_add start a (n := cells.length) (by omega)
    by_cases after : cells.length ≤ (a - start).toNat
    · rw [if_pos after] at distance
      unfold put
      rw [distance, List.getD_append_right _ _ _ _ after, List.getD_eq_default cells _ after]
    · rw [if_neg after] at distance
      rw [put_apart]
      · unfold put
        rw [List.getD_append _ _ _ _ (Nat.lt_of_not_le after)]
      · rw [distance, List.length_cons]
        omega

end Memory

/-- Pieces put one behind the other. -/
def consecutive (start : BitVec w) : List (List β) → List (Patch w β)
  | [] => []
  | piece :: pieces => ⟨start, piece⟩ :: consecutive (start + BitVec.ofNat w piece.length) pieces

/-- Consecutive pieces are the whole. -/
theorem patchAll_consecutive (m : Memory w β) (start : BitVec w) (pieces : List (List β))
    (room : pieces.flatten.length ≤ 2 ^ w) :
    m.patchAll (consecutive start pieces) = m.put start pieces.flatten := by
  induction pieces generalizing m start with
  | nil => rfl
  | cons piece pieces ih =>
      rw [List.flatten_cons, List.length_append] at room
      unfold consecutive
      rw [Memory.patchAll_cons, ih _ _ (by omega), Memory.put_append room, List.flatten_cons]

/-! ## Filled cells and blank ones -/

/-- The first `filled` cells, and blank ones up to `size`. -/
def padded (blank : β) (cells : List β) (filled size : Nat) : List β :=
  cells.take filled ++ List.replicate (size - filled) blank

section Padded

variable {blank : β} {cells : List β} {filled filled' size size' : Nat}

theorem padded_length (blank : β) (enough : filled ≤ cells.length) (fits : filled ≤ size) :
    (padded blank cells filled size).length = size := by
  unfold padded
  rw [List.length_append, List.length_take_of_le enough, List.length_replicate]
  omega

/-- A part that takes filled cells only, or all of them, and the part behind it. -/
theorem padded_split (blank : β) (cells : List β) (front : filled' ≤ filled)
    (part : size' ≤ size) (fits : filled ≤ size)
    (either : filled' = size' ∨ filled' = filled ∧ filled' ≤ size') :
    padded blank cells filled' size' ++
      padded blank (cells.drop filled') (filled - filled') (size - size') =
        padded blank cells filled size := by
  unfold padded
  rcases either with same | ⟨everything, within⟩
  · subst same
    have whole : filled = filled' + (filled - filled') := by omega
    have rest : size - filled' - (filled - filled') = size - filled := by omega
    have taken : cells.take filled = cells.take filled' ++
        (cells.drop filled').take (filled - filled') := by
      rw [← List.take_add, ← whole]
    rw [Nat.sub_self, List.replicate_zero, List.append_nil, rest, taken, List.append_assoc]
  · subst everything
    have rest : size' - filled' + (size - size') = size - filled' := by omega
    rw [Nat.sub_self, List.take_zero, List.nil_append, Nat.sub_zero, List.append_assoc,
      List.replicate_append_replicate, rest]

theorem drop_padded {n : Nat} (within : n ≤ filled) (enough : filled ≤ cells.length) :
    (padded blank cells filled size).drop n =
      padded blank (cells.drop n) (filled - n) (size - n) := by
  have rest : size - n - (filled - n) = size - filled := by omega
  unfold padded
  rw [List.drop_append_of_le_length, List.drop_take, rest]
  rw [List.length_take_of_le enough]
  exact within

end Padded

/-! ## Keeping a part -/

namespace Memory

variable {m m' : Memory w β} {kept : BitVec w → Bool} {start : BitVec w} {cells : List β}

@[simp] theorem keeping_self : m.keeping kept m = m := by
  funext a
  unfold keeping
  split <;> rfl

theorem keeping_kept {a : BitVec w} (here : kept a = true) : m.keeping kept m' a = m a :=
  if_pos here

theorem keeping_other {a : BitVec w} (here : kept a = false) : m.keeping kept m' a = m' a := by
  unfold keeping
  rw [here]
  rfl

/-- A patch inside the kept part does not show. -/
theorem keeping_put_inside (inside : ∀ a, (a - start).toNat < cells.length → kept a = true) :
    m.keeping kept (m'.put start cells) = m.keeping kept m' := by
  funext a
  cases here : kept a with
  | true => rw [keeping_kept here, keeping_kept here]
  | false =>
      rw [keeping_other here, keeping_other here]
      apply put_apart
      apply Nat.le_of_not_lt
      intro within
      rw [inside a within] at here
      cases here

/-- A patch whose first `n` cells are in the kept part, and no others. -/
theorem keeping_put_drop {n : Nat} (small : n < 2 ^ w) (room : cells.length ≤ 2 ^ w)
    (front : ∀ a, (a - start).toNat < n → kept a = true)
    (apart : ∀ a, kept a = true → (a - start).toNat < n ∨ cells.length ≤ (a - start).toNat) :
    (m.keeping kept m').put (start + BitVec.ofNat w n) (cells.drop n) =
      m.keeping kept (m'.put start cells) := by
  funext a
  have distance := toNat_sub_add start a small
  cases here : kept a with
  | true =>
      rw [keeping_kept here, put_apart, keeping_kept here]
      rw [List.length_drop, distance]
      have beyond := apart a here
      split <;> omega
  | false =>
      have after : n ≤ (a - start).toNat := by
        apply Nat.le_of_not_lt
        intro before
        rw [front a before] at here
        cases here
      rw [if_pos after] at distance
      rw [keeping_other here]
      unfold put
      rw [keeping_other here, distance, List.getD_eq_getElem?_getD, List.getD_eq_getElem?_getD,
        List.getElem?_drop, Nat.add_sub_cancel' after]

end Memory

end MemoryImage
