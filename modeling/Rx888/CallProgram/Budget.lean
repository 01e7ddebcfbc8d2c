import Rx888.CallProgram.Run

/-! # Call budgets

`p.AtMost K n`: whatever is read and answered, `p` makes at most `n` of the calls that
satisfy `K`.
-/

namespace CallProgram

variable {γ η : Type} {C : Type} {Ans : C → Type} {α β : Type}

namespace Prog

def AtMost (K : C → Bool) : Prog γ Ans α → Nat → Prop
  | .ret _, _ => True
  | .read k, n => ∀ m, (k m).AtMost K n
  | .write _ k, n => k.AtMost K n
  | .call c k, n =>
      if K c then ∃ left, n = left + 1 ∧ ∀ r, (k r).AtMost K left else ∀ r, (k r).AtMost K n

variable {K : C → Bool} {p q : Prog γ Ans α} {f : α → Prog γ Ans β} {n n' : Nat}

theorem AtMost.mono (h : p.AtMost K n) (le : n ≤ n') : p.AtMost K n' := by
  induction p generalizing n n' with
  | ret a => trivial
  | read k ih => exact fun m => ih m (h m) le
  | write g k ih => exact ih h le
  | call c k ih =>
      by_cases counted : K c
      · simp only [AtMost, counted, if_true] at h ⊢
        obtain ⟨left, rfl, rest⟩ := h
        refine ⟨n' - 1, by omega, fun r => ih r (rest r) (by omega)⟩
      · simp only [AtMost, counted] at h ⊢
        exact fun r => ih r (h r) le

theorem Uses.atMost_zero {W : (γ → γ) → Prop} (h : p.Uses W fun c => K c = false) :
    p.AtMost K 0 := by
  induction p with
  | ret a => trivial
  | read k ih => exact fun m => ih m (h m)
  | write g k ih => exact ih h.2
  | call c k ih =>
      simp only [AtMost, h.1]
      exact fun r => ih r (h.2 r)

theorem AtMost.bind (h : p.AtMost K n) (hf : ∀ a, (f a).AtMost K n') :
    (p >>= f).AtMost K (n + n') := by
  induction p generalizing n with
  | ret a => exact (hf a).mono (by omega)
  | read k ih => exact fun m => ih m (h m)
  | write g k ih => exact ih h
  | call c k ih =>
      show (Prog.call c fun r => k r >>= f).AtMost K (n + n')
      by_cases counted : K c
      · simp only [AtMost, counted, if_true] at h ⊢
        obtain ⟨left, rfl, rest⟩ := h
        exact ⟨left + n', by omega, fun r => ih r (rest r)⟩
      · simp only [AtMost, counted] at h ⊢
        exact fun r => ih r (h r)

/-- Behind a program that makes none of these calls the budget is as before. -/
theorem Uses.atMost_bind {W : (γ → γ) → Prop} (h : p.Uses W fun c => K c = false) :
    (p >>= f).AtMost K n ↔ ∀ a, p.Returns a → (f a).AtMost K n := by
  induction p with
  | ret a =>
      constructor
      · intro rest b hb
        exact hb ▸ rest
      · intro rest
        exact rest a rfl
  | read k ih =>
      constructor
      · intro rest a ⟨m, ha⟩
        exact (ih m (h m)).mp (rest m) a ha
      · intro rest m
        exact (ih m (h m)).mpr fun a ha => rest a ⟨m, ha⟩
  | write g k ih => exact ih h.2
  | call c k ih =>
      show (Prog.call c fun r => k r >>= f).AtMost K n ↔ _
      simp only [AtMost, h.1]
      constructor
      · intro rest a ⟨r, ha⟩
        exact (ih r (h.2 r)).mp (rest r) a ha
      · intro rest r
        exact (ih r (h.2 r)).mpr fun a ha => rest a ⟨r, ha⟩

@[simp] theorem atMost_ite (c : Prop) [Decidable c] :
    (if c then p else q).AtMost K n ↔ (c → p.AtMost K n) ∧ (¬ c → q.AtMost K n) := by
  split <;> simp [*]

theorem AtMost.map (h : p.AtMost K n) (g : α → β) : (g <$> p).AtMost K n := by
  rw [← bind_pure_comp]
  have none (a : α) : (pure (g a) : Prog γ Ans β).AtMost K 0 := trivial
  exact h.bind none

@[simp] theorem atMost_pure (a : α) : (pure a : Prog γ Ans α).AtMost K n := trivial

end Prog

/-- A run stays within the budget. -/
theorem Runs.countP_le {E : Env γ η Ans} {p : Prog γ Ans α} {s s' : State γ η}
    {tr : List (Transition γ η Ans)} {a : α} {K : C → Bool} {n : Nat} (run : Runs E p s tr a s')
    (h : p.AtMost K n) : tr.countP (fun t => K t.call) ≤ n := by
  induction run generalizing n with
  | ret => simp
  | read _ ih => exact ih (h _)
  | write _ ih => exact ih h
  | @call c k s s' tr a r _ _ ih =>
      rw [List.countP_cons]
      by_cases counted : K c
      · simp only [Prog.AtMost, counted, if_true] at h
        obtain ⟨left, rfl, rest⟩ := h
        have tail := ih (rest r)
        simp only [counted, if_true]
        omega
      · simp only [Prog.AtMost, counted] at h
        have tail := ih (h r)
        simp only [counted]
        simpa using tail

end CallProgram
