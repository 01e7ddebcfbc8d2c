import Mathlib.Data.Nat.Bitwise

/-! # A map of lines in words

The bits of a list of words, numbered from the lowest bit of the first word on, and what changing
the bits of one word under a mask does to them.
-/

namespace LineMap

variable {w : Nat}

def bitAt (words : List (BitVec w)) (i : Nat) : Bool := (words.getD (i / w) 0).getLsbD (i % w)

theorem bitAt_replicate_zero (n i : Nat) : bitAt (List.replicate n (0#w)) i = false := by
  unfold bitAt
  rw [List.getD_eq_getElem?_getD, List.getElem?_replicate]
  split <;> simp

/-- Beyond the last word there is nothing. -/
theorem bitAt_ge {words : List (BitVec w)} {i : Nat} (past : w * words.length ≤ i) :
    bitAt words i = false := by
  unfold bitAt
  by_cases some : 0 < w
  · have out : words.length ≤ i / w := (Nat.le_div_iff_mul_le some).mpr (by rwa [Nat.mul_comm])
    rw [List.getD_eq_default _ _ out]
    simp
  · have none : w = 0 := by omega
    subst none
    exact BitVec.getLsbD_of_ge _ _ (Nat.zero_le _)

/-- If all bits are clear, so are the words. -/
theorem eq_replicate_of_clear {words : List (BitVec w)} (clear : ∀ i, bitAt words i = false) :
    words = List.replicate words.length 0 := by
  apply List.eq_replicate_iff.mpr
  constructor
  · rfl
  · intro word here
    obtain ⟨k, bound, rfl⟩ := List.mem_iff_getElem.mp here
    apply BitVec.eq_of_getLsbD_eq
    intro j within
    have at_ := clear (w * k + j)
    have index : (w * k + j) / w = k := by
      rw [Nat.mul_add_div (by omega), Nat.div_eq_of_lt within, Nat.add_zero]
    have offset : (w * k + j) % w = j := by
      rw [Nat.mul_add_mod, Nat.mod_eq_of_lt within]
    unfold bitAt at at_
    rw [index, offset, List.getD_eq_getElem _ _ bound] at at_
    rw [at_]
    simp

/-! ## Masks -/

/-- All ones from bit `lo` on, below bit `hi`. -/
def mask (w lo hi : Nat) : BitVec w := ((1#w <<< hi) - 1#w) - ((1#w <<< lo) - 1#w)

theorem toNat_lowOnes {n : Nat} (within : n ≤ w) : ((1#w <<< n) - 1#w).toNat = 2 ^ n - 1 := by
  by_cases none : w = 0
  · subst none
    have zero : n = 0 := by omega
    subst zero
    simp
  have one : (1#w).toNat = 1 := by
    rw [BitVec.toNat_ofNat]
    exact Nat.mod_eq_of_lt (Nat.one_lt_two_pow none)
  by_cases all : n = w
  · subst all
    rw [BitVec.shiftLeft_eq_zero (Nat.le_refl _), BitVec.toNat_sub, one, BitVec.toNat_zero,
      Nat.add_zero]
    exact Nat.mod_eq_of_lt (Nat.sub_lt (Nat.two_pow_pos n) Nat.one_pos)
  · have low : 2 ^ n < 2 ^ w := Nat.pow_lt_pow_right (by decide) (by omega)
    have high : (1#w <<< n).toNat = 2 ^ n := by
      rw [BitVec.toNat_shiftLeft, one, Nat.one_shiftLeft, Nat.mod_eq_of_lt low]
    have some := Nat.two_pow_pos n
    rw [BitVec.toNat_sub_of_le, high, one]
    rw [BitVec.le_def, high, one]
    omega

theorem getLsbD_mask {lo hi : Nat} (order : lo ≤ hi) (within : hi ≤ w) (j : Nat) :
    (mask w lo hi).getLsbD j = decide (lo ≤ j ∧ j < hi) := by
  have low := toNat_lowOnes (Nat.le_trans order within)
  have high := toNat_lowOnes within
  have grows : 2 ^ lo ≤ 2 ^ hi := Nat.pow_le_pow_right (by decide) order
  have value : (mask w lo hi).toNat = 2 ^ lo * (2 ^ (hi - lo) - 1) := by
    unfold mask
    rw [BitVec.toNat_sub_of_le, high, low, Nat.mul_sub, Nat.mul_one, ← Nat.pow_add,
      Nat.add_sub_cancel' order]
    · have some := Nat.two_pow_pos lo
      omega
    · rw [BitVec.le_def, high, low]
      omega
  rw [← BitVec.testBit_toNat, value, Nat.testBit_two_pow_mul, Nat.testBit_two_pow_sub_one,
    ← Bool.decide_and]
  apply decide_eq_decide.mpr
  omega

section Modify

variable {words : List (BitVec w)} {k : Nat} {f : BitVec w → BitVec w}

theorem bitAt_modify (i : Nat) :
    bitAt (words.modify k f) i =
      if i / w = k ∧ k < words.length then (f (words.getD k 0)).getLsbD (i % w)
      else bitAt words i := by
  unfold bitAt
  simp only [List.getD_eq_getElem?_getD, List.getElem?_modify]
  by_cases here : k = i / w
  · subst here
    by_cases inside : i / w < words.length
    · simp [inside]
    · simp [inside]
  · simp [here, Ne.symm here]

/-- A bit of word `k` is one of `w` lines. -/
theorem line_iff {i lo hi : Nat} (within : hi ≤ w) :
    i / w = k ∧ lo ≤ i % w ∧ i % w < hi ↔ w * k + lo ≤ i ∧ i < w * k + hi := by
  have parts := Nat.div_add_mod i w
  constructor
  · rintro ⟨rfl, after, before⟩
    omega
  · rintro ⟨after, before⟩
    have low : i / w = k := by
      apply Nat.div_eq_of_lt_le
      · rw [Nat.mul_comm]
        omega
      · rw [Nat.succ_mul, Nat.mul_comm]
        omega
    subst low
    omega

/-- The bits under a mask are set or cleared, and no others. -/
theorem bitAt_put_mask {lo hi : Nat} (order : lo ≤ hi) (within : hi ≤ w) (inside : k < words.length)
    (value : Bool) (i : Nat) :
    bitAt (if value then words.modify k (· ||| mask w lo hi)
        else words.modify k (· &&& ~~~mask w lo hi)) i =
      if w * k + lo ≤ i ∧ i < w * k + hi then value else bitAt words i := by
  by_cases line : i / w = k
  · have inWord : w * k + lo ≤ i ∧ i < w * k + hi ↔ lo ≤ i % w ∧ i % w < hi := by
      rw [← line_iff within]
      exact ⟨fun h => h.2, fun h => ⟨line, h⟩⟩
    have offset : i % w < w ∨ w = 0 := by
      rcases Nat.eq_zero_or_pos w with none | some
      · exact Or.inr none
      · exact Or.inl (Nat.mod_lt i some)
    have old : bitAt words i = (words.getD k 0).getLsbD (i % w) := by
      unfold bitAt
      rw [line]
    cases value with
    | true =>
        rw [if_pos rfl, bitAt_modify, if_pos ⟨line, inside⟩, BitVec.getLsbD_or,
          getLsbD_mask order within, old]
        by_cases here : lo ≤ i % w ∧ i % w < hi
        · rw [if_pos (inWord.mpr here), decide_eq_true here, Bool.or_true]
        · rw [if_neg (fun h => here (inWord.mp h)), decide_eq_false here, Bool.or_false]
    | false =>
        rw [if_neg Bool.false_ne_true, bitAt_modify, if_pos ⟨line, inside⟩, BitVec.getLsbD_and,
          BitVec.getLsbD_not, getLsbD_mask order within, old]
        by_cases here : lo ≤ i % w ∧ i % w < hi
        · rw [if_pos (inWord.mpr here), decide_eq_true here, Bool.not_true, Bool.and_false,
            Bool.and_false]
        · rw [if_neg (fun h => here (inWord.mp h)), decide_eq_false here, Bool.not_false,
            Bool.and_true]
          rcases offset with inside | none
          · rw [decide_eq_true inside, Bool.and_true]
          · subst none
            rw [BitVec.getLsbD_of_ge _ _ (Nat.zero_le _), Bool.false_and]
  · have out : ¬ (w * k + lo ≤ i ∧ i < w * k + hi) := by
      rw [← line_iff within]
      exact fun h => line h.1
    have same : ∀ f : BitVec w → BitVec w, bitAt (words.modify k f) i = bitAt words i := by
      intro f
      rw [bitAt_modify, if_neg (fun h => line h.1)]
    rw [if_neg out]
    cases value with
    | true => exact same _
    | false => exact same _

end Modify

end LineMap
