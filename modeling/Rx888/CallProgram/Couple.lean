import Rx888.CallProgram.Run

/-! # Two runs side by side

A coupling says which calls two programs may make at the same time and which answers go
together. `Coupled` is the relational weakest precondition of two programs that keep step: it
follows both texts at once, and `Coupled.exec` brings it to two executions with the same
answers. A program is steady under a relation of memories when it cannot tell related ones
apart; it keeps step with itself.
-/

namespace CallProgram

variable {γ η : Type} {C : Type} {Ans : C → Type} {α β δ ε : Type}

structure Coupling (Ans : C → Type) where
  calls : C → C → Prop
  answers : {c c' : C} → Ans c → Ans c' → Prop

/-- Each call goes with itself and its answers are the same; others may go together as well. -/
structure Coupling.Diagonal (K : Coupling Ans) : Prop where
  calls : ∀ c, K.calls c c
  answers : ∀ {c : C} {r r' : Ans c}, K.answers r r' → r = r'

namespace Prog

/-- Side by side from `s` and `s'`, the programs make calls that go together and end in `Q`. -/
def Coupled (K : Coupling Ans) (E : Env γ η Ans) : Prog γ Ans α → Prog γ Ans β →
    (α → β → State γ η → State γ η → Prop) → State γ η → State γ η → Prop
  | .ret a, .ret b, Q, s, s' => Q a b s s'
  | .read k, .read k', Q, s, s' => (k s.mem).Coupled K E (k' s'.mem) Q s s'
  | .write f k, .write f' k', Q, s, s' =>
      k.Coupled K E k' Q ⟨f s.mem, s.env⟩ ⟨f' s'.mem, s'.env⟩
  | .call c k, .call c' k', Q, s, s' => K.calls c c' ∧ ∀ (r : Ans c) (r' : Ans c'),
      K.answers r r' → (k r).Coupled K E (k' r') Q (E.exec s c r) (E.exec s' c' r')
  | _, _, _, _, _ => False

/-- The program cannot tell memories in the relation apart, and keeps them in it. -/
def Steady (R : γ → γ → Prop) : Prog γ Ans α → Prop
  | .ret _ => True
  | .read k => (∀ m m', R m m' → k m = k m') ∧ ∀ m, (k m).Steady R
  | .write f k => (∀ m m', R m m' → R (f m) (f m')) ∧ k.Steady R
  | .call _ k => ∀ r, (k r).Steady R

section Coupled

variable {K : Coupling Ans} {E : Env γ η Ans} {s s' : State γ η}

theorem Coupled.mono {p : Prog γ Ans α} {p' : Prog γ Ans β}
    {Q Q' : α → β → State γ η → State γ η → Prop} (h : p.Coupled K E p' Q s s')
    (imp : ∀ a b s s', Q a b s s' → Q' a b s s') : p.Coupled K E p' Q' s s' := by
  induction p generalizing p' s s' with
  | ret a =>
      cases p' with
      | ret b => exact imp a b s s' h
      | _ => exact h.elim
  | read k ih =>
      cases p' with
      | read k' => exact ih s.mem h
      | _ => exact h.elim
  | write f k ih =>
      cases p' with
      | write f' k' => exact ih h
      | _ => exact h.elim
  | call c k ih =>
      cases p' with
      | call c' k' => exact ⟨h.1, fun r r' together => ih r (h.2 r r' together)⟩
      | _ => exact h.elim

theorem Coupled.bind {p : Prog γ Ans α} {p' : Prog γ Ans β} {f : α → Prog γ Ans δ}
    {f' : β → Prog γ Ans ε} {Q : α → β → State γ η → State γ η → Prop}
    {S : δ → ε → State γ η → State γ η → Prop} (h : p.Coupled K E p' Q s s')
    (hf : ∀ a b s s', Q a b s s' → (f a).Coupled K E (f' b) S s s') :
    (p >>= f).Coupled K E (p' >>= f') S s s' := by
  induction p generalizing p' s s' with
  | ret a =>
      cases p' with
      | ret b => exact hf a b s s' h
      | _ => exact h.elim
  | read k ih =>
      cases p' with
      | read k' => exact ih s.mem h
      | _ => exact h.elim
  | write g k ih =>
      cases p' with
      | write g' k' => exact ih h
      | _ => exact h.elim
  | call c k ih =>
      cases p' with
      | call c' k' => exact ⟨h.1, fun r r' together => ih r (h.2 r r' together)⟩
      | _ => exact h.elim

/-- Executions with the same answers show the same to an observer who does not tell calls
that go together apart. -/
theorem Coupled.exec {p : Prog γ Ans α} {p' : Prog γ Ans β}
    {Q : α → β → State γ η → State γ η → Prop} (h : p.Coupled K E p' Q s s')
    {ω : Nat → (c : C) → Ans c}
    (together : ∀ n c c', K.calls c c' → K.answers (ω n c) (ω n c')) {obs : C → Option δ}
    (blind : ∀ c c', K.calls c c' → obs c = obs c') (n : Nat) :
    (p.exec E ω n s).1.filterMap (fun t => obs t.call) =
      (p'.exec E ω n s').1.filterMap (fun t => obs t.call) := by
  induction p generalizing p' n s s' with
  | ret a =>
      cases p' with
      | ret b => rfl
      | _ => exact h.elim
  | read k ih =>
      cases p' with
      | read k' => exact ih s.mem h n
      | _ => exact h.elim
  | write f k ih =>
      cases p' with
      | write f' k' => exact ih h n
      | _ => exact h.elim
  | call c k ih =>
      cases p' with
      | call c' k' =>
          have rest := ih (ω n c) (h.2 _ _ (together n c c' h.1)) (n + 1)
          simp only [Prog.exec, List.filterMap_cons, blind c c' h.1, rest]
      | _ => exact h.elim

end Coupled

section Steady

variable {R : γ → γ → Prop} {p q : Prog γ Ans α} {f : α → Prog γ Ans β}

@[simp] theorem steady_ret (a : α) : (Prog.ret a : Prog γ Ans α).Steady R := trivial

@[simp] theorem steady_pure (a : α) : (pure a : Prog γ Ans α).Steady R := trivial

@[simp] theorem steady_bind (hp : p.Steady R) :
    (p >>= f).Steady R ↔ ∀ a, p.Returns a → (f a).Steady R := by
  induction p with
  | ret a =>
      constructor
      · intro h b returned
        exact returned ▸ h
      · intro h
        exact h a rfl
  | read k ih =>
      constructor
      · intro h a ⟨m, returned⟩
        exact (ih m (hp.2 m)).mp (h.2 m) a returned
      · intro h
        refine ⟨fun m m' related => ?_, fun m => ?_⟩
        · show k m >>= f = k m' >>= f
          rw [hp.1 m m' related]
        · exact (ih m (hp.2 m)).mpr fun a returned => h a ⟨m, returned⟩
  | write g k ih =>
      constructor
      · intro h
        exact (ih hp.2).mp h.2
      · intro h
        exact ⟨hp.1, (ih hp.2).mpr h⟩
  | call c k ih =>
      constructor
      · intro h a ⟨r, returned⟩
        exact (ih r (hp r)).mp (h r) a returned
      · intro h r
        exact (ih r (hp r)).mpr fun a returned => h a ⟨r, returned⟩

@[simp] theorem steady_map (hp : p.Steady R) (g : α → β) : (g <$> p).Steady R := by
  rw [← bind_pure_comp]
  exact (steady_bind hp).mpr fun _ _ => trivial

@[simp] theorem steady_ite (c : Prop) [Decidable c] :
    (if c then p else q).Steady R ↔ (c → p.Steady R) ∧ (¬ c → q.Steady R) := by
  split <;> simp [*]

theorem steady_eq (p : Prog γ Ans α) : p.Steady (· = ·) := by
  induction p with
  | ret a => trivial
  | read k ih => exact ⟨fun _ _ same => by rw [same], ih⟩
  | write f k ih => exact ⟨fun _ _ same => by rw [same], ih⟩
  | call c k ih => exact ih

theorem Steady.coupled {K : Coupling Ans} (diagonal : K.Diagonal) {E : Env γ η Ans}
    (exec : ∀ s s' c r, R s.mem s'.mem → R (E.exec s c r).mem (E.exec s' c r).mem)
    (steady : p.Steady R) {s s' : State γ η} (related : R s.mem s'.mem) :
    p.Coupled K E p (fun a b s s' => a = b ∧ R s.mem s'.mem) s s' := by
  induction p generalizing s s' with
  | ret a => exact ⟨rfl, related⟩
  | read k ih =>
      have same := steady.1 _ _ related
      show (k s.mem).Coupled K E (k s'.mem) _ s s'
      rw [← same]
      exact ih s.mem (steady.2 _) related
  | write f k ih => exact ih steady.2 (steady.1 _ _ related)
  | call c k ih =>
      refine ⟨diagonal.calls c, fun r r' together => ?_⟩
      cases diagonal.answers together
      exact ih r (steady r) (exec s s' c r related)

end Steady

end Prog

end CallProgram
