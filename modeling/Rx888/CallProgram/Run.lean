import Rx888.CallProgram.Basic

/-! # Uninterrupted runs

An environment says which answers a call may get in a state and how an answered
call changes the state. A run of a program lists its calls, each with the state
it was made in and its answer. `Ensures` is the weakest precondition over these
runs: it follows the program's own structure, so a function's specification is
proved by walking its text, and `Runs.ensures` brings it back to the runs.
-/

namespace CallProgram

/-- The shared memory together with what the environment keeps to itself. -/
structure State (γ η : Type) where
  mem : γ
  env : η

/-- The services behind the calls. -/
structure Env (γ η : Type) {C : Type} (Ans : C → Type) where
  allows : State γ η → (c : C) → Ans c → Prop
  exec : State γ η → (c : C) → Ans c → State γ η

/-- One answered call and the state it was made in. -/
structure Transition (γ η : Type) {C : Type} (Ans : C → Type) where
  before : State γ η
  call : C
  ans : Ans call

variable {γ η : Type} {C : Type} {Ans : C → Type} {α β : Type}

/-- `Runs E p s tr a s'`: from `s`, uninterrupted, `p` can make the calls `tr`,
return `a` and leave `s'`. -/
inductive Runs (E : Env γ η Ans) :
    Prog γ Ans α → State γ η → List (Transition γ η Ans) → α → State γ η → Prop where
  | ret {a : α} {s : State γ η} : Runs E (.ret a) s [] a s
  | read {k : γ → Prog γ Ans α} {s s' : State γ η} {tr : List (Transition γ η Ans)} {a : α}
      (h : Runs E (k s.mem) s tr a s') : Runs E (.read k) s tr a s'
  | write {f : γ → γ} {k : Prog γ Ans α} {s s' : State γ η}
      {tr : List (Transition γ η Ans)} {a : α}
      (h : Runs E k ⟨f s.mem, s.env⟩ tr a s') : Runs E (.write f k) s tr a s'
  | call {c : C} {k : Ans c → Prog γ Ans α} {s s' : State γ η}
      {tr : List (Transition γ η Ans)} {a : α} (r : Ans c) (allowed : E.allows s c r)
      (h : Runs E (k r) (E.exec s c r) tr a s') : Runs E (.call c k) s (⟨s, c, r⟩ :: tr) a s'

/-! ## Weakest preconditions -/

/-- Whatever the environment answers, the run ends in `Q`. -/
def Prog.Ensures (E : Env γ η Ans) : Prog γ Ans α →
    (List (Transition γ η Ans) → α → State γ η → Prop) → State γ η → Prop
  | .ret a, Q, s => Q [] a s
  | .read k, Q, s => (k s.mem).Ensures E Q s
  | .write f k, Q, s => k.Ensures E Q ⟨f s.mem, s.env⟩
  | .call c k, Q, s => ∀ r, E.allows s c r →
      (k r).Ensures E (fun tr => Q (⟨s, c, r⟩ :: tr)) (E.exec s c r)

section Ensures

variable {E : Env γ η Ans} {s s' : State γ η} {tr : List (Transition γ η Ans)} {a : α}
variable {Q Q' : List (Transition γ η Ans) → α → State γ η → Prop}

@[simp] theorem ensures_ret : (Prog.ret a : Prog γ Ans α).Ensures E Q s ↔ Q [] a s := Iff.rfl

@[simp] theorem ensures_pure : (pure a : Prog γ Ans α).Ensures E Q s ↔ Q [] a s := Iff.rfl

@[simp] theorem ensures_read (k : γ → Prog γ Ans α) :
    (Prog.read k).Ensures E Q s ↔ (k s.mem).Ensures E Q s := Iff.rfl

@[simp] theorem ensures_write (f : γ → γ) (k : Prog γ Ans α) :
    (Prog.write f k).Ensures E Q s ↔ k.Ensures E Q ⟨f s.mem, s.env⟩ := Iff.rfl

@[simp] theorem ensures_call (c : C) (k : Ans c → Prog γ Ans α) :
    (Prog.call c k).Ensures E Q s ↔ ∀ r, E.allows s c r →
      (k r).Ensures E (fun tr => Q (⟨s, c, r⟩ :: tr)) (E.exec s c r) := Iff.rfl

/-- Sequencing: the first part ensures that the second ensures the goal, with
the calls of both in order. -/
theorem ensures_bind (p : Prog γ Ans β) (f : β → Prog γ Ans α) :
    (p >>= f).Ensures E Q s ↔
      p.Ensures E (fun tr b s₁ => (f b).Ensures E (fun tr' => Q (tr ++ tr')) s₁) s := by
  induction p generalizing s Q with
  | ret b => rfl
  | read k ih => exact ih s.mem
  | write g k ih => exact ih
  | call c k ih => exact forall_congr' fun r => forall_congr' fun _ => ih r

theorem ensures_mono {p : Prog γ Ans α} (hp : p.Ensures E Q s)
    (h : ∀ tr a s', Q tr a s' → Q' tr a s') : p.Ensures E Q' s := by
  induction p generalizing s Q Q' with
  | ret b => exact h [] b s hp
  | read k ih => exact ih s.mem hp h
  | write g k ih => exact ih hp h
  | call c k ih => exact fun r hr => ih r (hp r hr) fun tr b s' => h _ b s'

/-- The rule callers use: cite the specification `R` of the first part. -/
theorem Prog.Ensures.bind {p : Prog γ Ans β} {f : β → Prog γ Ans α}
    {R : List (Transition γ η Ans) → β → State γ η → Prop} (hp : p.Ensures E R s)
    (hf : ∀ tr b s₁, R tr b s₁ → (f b).Ensures E (fun tr' => Q (tr ++ tr')) s₁) :
    (p >>= f).Ensures E Q s :=
  (ensures_bind p f).mpr (ensures_mono hp hf)

theorem ensures_ite (c : Prop) [Decidable c] {p q : Prog γ Ans α}
    (hp : c → p.Ensures E Q s) (hq : ¬ c → q.Ensures E Q s) :
    (if c then p else q).Ensures E Q s := by
  split
  next h => exact hp h
  next h => exact hq h

theorem Runs.ensures {p : Prog γ Ans α} (h : Runs E p s tr a s') (hp : p.Ensures E Q s) :
    Q tr a s' := by
  induction h generalizing Q with
  | ret => exact hp
  | read _ ih => exact ih hp
  | write _ ih => exact ih hp
  | call r allowed _ ih => exact ih (hp r allowed)

/-- A program ensures what all its runs end in. -/
theorem ensures_of_runs {p : Prog γ Ans α} (h : ∀ tr a s', Runs E p s tr a s' → Q tr a s') :
    p.Ensures E Q s := by
  induction p generalizing s Q with
  | ret b => exact h [] b s .ret
  | read k ih => exact ih s.mem fun tr b s' hr => h tr b s' (.read hr)
  | write g k ih => exact ih fun tr b s' hr => h tr b s' (.write hr)
  | call c k ih =>
      exact fun r allowed => ih r fun tr b s' hr => h _ b s' (.call r allowed hr)

theorem ensures_and {p : Prog γ Ans α} (h : p.Ensures E Q s) (h' : p.Ensures E Q' s) :
    p.Ensures E (fun tr a s' => Q tr a s' ∧ Q' tr a s') s :=
  ensures_of_runs fun _ _ _ hr => ⟨hr.ensures h, hr.ensures h'⟩

theorem Runs.split {p : Prog γ Ans β} {f : β → Prog γ Ans α}
    (h : Runs E (p >>= f) s tr a s') :
    ∃ tr₁ b s₁ tr₂, tr = tr₁ ++ tr₂ ∧ Runs E p s tr₁ b s₁ ∧ Runs E (f b) s₁ tr₂ a s' := by
  have both : (p >>= f).Ensures E (fun tr a s' => ∃ tr₁ b s₁ tr₂, tr = tr₁ ++ tr₂ ∧
      Runs E p s tr₁ b s₁ ∧ Runs E (f b) s₁ tr₂ a s') s :=
    (ensures_bind p f).mpr (ensures_of_runs fun tr₁ b s₁ h₁ =>
      ensures_of_runs fun tr₂ _ _ h₂ => ⟨tr₁, b, s₁, tr₂, rfl, h₁, h₂⟩)
  exact h.ensures both

end Ensures

/-- Where every call can be answered, every program has a run. -/
theorem exists_runs {E : Env γ η Ans} (total : ∀ s c, ∃ r, E.allows s c r) (p : Prog γ Ans α)
    (s : State γ η) : ∃ tr a s', Runs E p s tr a s' := by
  induction p generalizing s with
  | ret a => exact ⟨[], a, s, .ret⟩
  | read k ih =>
      obtain ⟨tr, a, s', runs⟩ := ih s.mem s
      exact ⟨tr, a, s', .read runs⟩
  | write f k ih =>
      obtain ⟨tr, a, s', runs⟩ := ih ⟨f s.mem, s.env⟩
      exact ⟨tr, a, s', .write runs⟩
  | call c k ih =>
      obtain ⟨r, allowed⟩ := total s c
      obtain ⟨tr, a, s', runs⟩ := ih r (E.exec s c r)
      exact ⟨_, a, s', .call r allowed runs⟩

/-! ## Frames -/

section Frames

variable {E : Env γ η Ans} {s s' : State γ η} {tr : List (Transition γ η Ans)} {a : α}
variable {W : (γ → γ) → Prop} {K : C → Prop}

theorem Runs.calls {p : Prog γ Ans α} (h : Runs E p s tr a s') (hp : p.Uses W K) :
    ∀ t ∈ tr, K t.call := by
  induction h with
  | ret => simp
  | read _ ih => exact ih (hp _)
  | write _ ih => exact ih hp.2
  | call r _ _ ih =>
      intro t ht
      rcases List.mem_cons.mp ht with rfl | ht
      · exact hp.1
      · exact ih (hp.2 r) t ht

/-- A property kept by every write in `W` and every call in `K` is kept by a run
of a program confined to them. -/
theorem Runs.frame {p : Prog γ Ans α} (I : State γ η → Prop) (h : Runs E p s tr a s')
    (hp : p.Uses W K) (hW : ∀ f s, W f → I s → I ⟨f s.mem, s.env⟩)
    (hK : ∀ s c r, K c → E.allows s c r → I s → I (E.exec s c r)) (hs : I s) : I s' := by
  induction h with
  | ret => exact hs
  | read _ ih => exact ih (hp _) hs
  | write _ ih => exact ih hp.2 (hW _ _ hp.1 hs)
  | call r allowed _ ih => exact ih (hp.2 r) (hK _ _ r hp.1 allowed hs)

end Frames

/-! ## Execution -/

/-- Run with the answers of `ω`, asked by the number of the call. -/
def Prog.exec (E : Env γ η Ans) (ω : Nat → (c : C) → Ans c) :
    Nat → Prog γ Ans α → State γ η → List (Transition γ η Ans) × α × State γ η
  | _, .ret a, s => ([], a, s)
  | n, .read k, s => (k s.mem).exec E ω n s
  | n, .write f k, s => k.exec E ω n ⟨f s.mem, s.env⟩
  | n, .call c k, s =>
      let rest := (k (ω n c)).exec E ω (n + 1) (E.exec s c (ω n c))
      (⟨s, c, ω n c⟩ :: rest.1, rest.2)

theorem exec_bind (E : Env γ η Ans) (ω : Nat → (c : C) → Ans c) (n : Nat) (p : Prog γ Ans β)
    (f : β → Prog γ Ans α) (s : State γ η) :
    (p >>= f).exec E ω n s =
      let first := p.exec E ω n s
      let rest := (f first.2.1).exec E ω (n + first.1.length) first.2.2
      (first.1 ++ rest.1, rest.2) := by
  induction p generalizing n s with
  | ret b => rfl
  | read k ih => exact ih s.mem n s
  | write g k ih => exact ih n _
  | call c k ih =>
      have rest := ih (ω n c) (n + 1) (E.exec s c (ω n c))
      dsimp only at rest
      rw [Nat.add_right_comm, Nat.add_assoc] at rest
      show (_ :: ((k (ω n c) >>= f).exec E ω (n + 1) (E.exec s c (ω n c))).1,
        ((k (ω n c) >>= f).exec E ω (n + 1) (E.exec s c (ω n c))).2) = _
      rw [rest]
      rfl

/-- An execution whose answers the environment allows is a run. -/
theorem exec_runs (E : Env γ η Ans) (ω : Nat → (c : C) → Ans c) (n : Nat) (p : Prog γ Ans α)
    (s : State γ η) (h : ∀ t ∈ (p.exec E ω n s).1, E.allows t.before t.call t.ans) :
    Runs E p s (p.exec E ω n s).1 (p.exec E ω n s).2.1 (p.exec E ω n s).2.2 := by
  induction p generalizing n s with
  | ret a => exact .ret
  | read k ih => exact .read (ih s.mem n s h)
  | write f k ih => exact .write (ih n _ h)
  | call c k ih =>
      refine .call (ω n c) (h _ List.mem_cons_self) (ih _ (n + 1) _ fun t ht => ?_)
      exact h t (List.mem_cons_of_mem _ ht)

theorem exec_allowed {E : Env γ η Ans} {ω : Nat → (c : C) → Ans c}
    (hω : ∀ s n c, E.allows s c (ω n c)) (n : Nat) (p : Prog γ Ans α) (s : State γ η) :
    ∀ t ∈ (p.exec E ω n s).1, E.allows t.before t.call t.ans := by
  induction p generalizing n s with
  | ret a => simp [Prog.exec]
  | read k ih => exact ih s.mem n s
  | write f k ih => exact ih n _
  | call c k ih =>
      intro t ht
      rcases List.mem_cons.mp ht with rfl | ht
      · exact hω s n c
      · exact ih (ω n c) (n + 1) _ t ht

end CallProgram
