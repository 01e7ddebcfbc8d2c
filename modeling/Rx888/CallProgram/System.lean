import Rx888.CallProgram.Run

/-! # Systems of programs that run to completion

A system offers actions, each a program. A step is one action carried out without
interruption, and carries its run as a field; a run of the system is the list of its
steps, oldest first. What holds along a run is proved with a summary of the steps so
far, folded over them.
-/

namespace CallProgram

variable {γ η : Type} {C : Type} {Ans : C → Type}

structure System (γ η : Type) {C : Type} (Ans : C → Type) where
  Act : Type
  prog : Act → Prog γ Ans Unit
  env : Env γ η Ans
  /-- The actions a run may begin with. -/
  starts : Act → Prop

structure System.Step (S : System γ η Ans) where
  act : S.Act
  before : State γ η
  trace : List (Transition γ η Ans)
  after : State γ η
  runs : Runs S.env (S.prog act) before trace () after

/-- The steps follow one another and end in the state. -/
inductive System.Run (S : System γ η Ans) : List S.Step → State γ η → Prop where
  | start (t : S.Step) (first : S.starts t.act) : S.Run [t] t.after
  | step {steps : List S.Step} {s : State γ η} (run : S.Run steps s) (t : S.Step)
      (next : t.before = s) : S.Run (steps ++ [t]) t.after

namespace System

variable {S : System γ η Ans} {steps : List S.Step} {s : State γ η}

/-- A summary `f` of the steps so far, and the state, keep `I` while the steps are
`ok`. -/
theorem Run.summary {σ : Type} {f : σ → S.Step → σ} {z : σ} {ok : S.Step → Prop}
    (I : σ → State γ η → Prop)
    (first : ∀ t, S.starts t.act → ok t → I (f z t) t.after)
    (next : ∀ x t, ok t → I x t.before → I (f x t) t.after)
    (run : S.Run steps s) (allOk : ∀ t ∈ steps, ok t) : I (steps.foldl f z) s := by
  induction run with
  | start t start => exact first t start (allOk t (by simp))
  | step run t from_s ih =>
      rw [List.foldl_append]
      have before := ih fun u hu => allOk u (List.mem_append_left _ hu)
      rw [← from_s] at before
      exact next _ t (allOk t (by simp)) before

theorem Run.invariant {ok : S.Step → Prop} (I : State γ η → Prop)
    (first : ∀ t, S.starts t.act → ok t → I t.after)
    (next : ∀ t, ok t → I t.before → I t.after)
    (run : S.Run steps s) (allOk : ∀ t ∈ steps, ok t) : I s :=
  run.summary (z := ()) (f := fun _ _ => ()) (fun _ => I) first (fun _ => next) allOk

/-- A step of a run begins it or is taken where an earlier part of the run ended. -/
theorem Run.before (run : S.Run steps s) {pre post : List S.Step} {t : S.Step}
    (at_t : steps = pre ++ t :: post) : pre = [] ∧ S.starts t.act ∨ S.Run pre t.before := by
  induction run generalizing post with
  | start u start =>
      left
      cases pre with
      | nil =>
          rw [List.nil_append, List.cons.injEq] at at_t
          exact ⟨rfl, at_t.1 ▸ start⟩
      | cons v pre => simp at at_t
  | @step steps s run u from_s ih =>
      rcases List.eq_nil_or_concat post with rfl | ⟨post', v, rfl⟩
      · obtain ⟨rfl, last⟩ := List.append_inj' at_t rfl
        obtain ⟨rfl, -⟩ := List.cons.inj last
        right
        rw [from_s]
        exact run
      · rw [List.concat_eq_append, ← List.cons_append, ← List.append_assoc] at at_t
        exact ih (List.append_inj' at_t rfl).1

/-- While each step in the domain is as wanted just when it is `ok`, and `ok` steps keep
`I`, a run is as wanted throughout just when all its steps are `ok`. -/
theorem Run.all_iff {dom ok wanted : S.Step → Prop} (I : State γ η → Prop)
    (first : ∀ t, S.starts t.act → dom t → (wanted t ↔ ok t) ∧ (ok t → I t.after))
    (next : ∀ steps t, S.Run steps t.before → I t.before → dom t →
      (wanted t ↔ ok t) ∧ (ok t → I t.after))
    (run : S.Run steps s) (inside : ∀ t ∈ steps, dom t) :
    (∀ t ∈ steps, wanted t) ↔ ∀ t ∈ steps, ok t := by
  have both : ((∀ t ∈ steps, wanted t) ↔ ∀ t ∈ steps, ok t) ∧ ((∀ t ∈ steps, ok t) → I s) := by
    induction run with
    | start t start =>
        obtain ⟨same, keeps⟩ := first t start (inside t (by simp))
        exact ⟨by simpa using same, fun h => keeps (h t (by simp))⟩
    | @step steps s run t from_s ih =>
        obtain ⟨same, keeps⟩ := ih fun u hu => inside u (List.mem_append_left _ hu)
        subst from_s
        have concat (P : S.Step → Prop) :
            (∀ u ∈ steps ++ [t], P u) ↔ (∀ u ∈ steps, P u) ∧ P t := by
          simp [or_imp, forall_and]
        rw [concat, concat]
        by_cases earlier : ∀ u ∈ steps, ok u
        · obtain ⟨same_t, keeps_t⟩ := next steps t run (keeps earlier) (inside t (by simp))
          refine ⟨and_congr same same_t, fun h => keeps_t h.2⟩
        · have never : ¬ ∀ u ∈ steps, wanted u := fun h => earlier (same.mp h)
          exact ⟨⟨fun h => absurd h.1 never, fun h => absurd h.1 earlier⟩,
            fun h => absurd h.1 earlier⟩
  exact both.1

end System

/-! ## The steps since -/

/-- What follows the last element that satisfies `p`. -/
def since {α : Type} (p : α → Bool) (l : List α) : List α :=
  (l.reverse.takeWhile fun a => !p a).reverse

@[simp] theorem since_nil {α : Type} (p : α → Bool) : since p [] = [] := rfl

@[simp] theorem since_concat {α : Type} (p : α → Bool) (l : List α) (a : α) :
    since p (l ++ [a]) = if p a then [] else since p l ++ [a] := by
  cases h : p a <;> simp [since, h]

/-! ## Scripts -/

/-- Answers that may be given in every state, by the number of the call. -/
structure Oracle (E : Env γ η Ans) where
  answer : Nat → (c : C) → Ans c
  allowed : ∀ s n c, E.allows s c (answer n c)

namespace System

variable (S : System γ η Ans)

def perform (ω : Oracle S.env) (a : S.Act) (s : State γ η) : S.Step where
  act := a
  before := s
  trace := ((S.prog a).exec S.env ω.answer 0 s).1
  after := ((S.prog a).exec S.env ω.answer 0 s).2.2
  runs := exec_runs S.env ω.answer 0 (S.prog a) s (exec_allowed ω.allowed 0 (S.prog a) s)

theorem perform_before (ω : Oracle S.env) (a : S.Act) (s : State γ η) :
    (S.perform ω a s).before = s := rfl

def performAll : List (S.Act × Oracle S.env) → State γ η → List S.Step × State γ η
  | [], s => ([], s)
  | (a, ω) :: script, s =>
      let t := S.perform ω a s
      let rest := performAll script t.after
      (t :: rest.1, rest.2)

variable {S}

theorem Run.performAll (script : List (S.Act × Oracle S.env)) {steps : List S.Step}
    {s : State γ η} (run : S.Run steps s) :
    S.Run (steps ++ (S.performAll script s).1) (S.performAll script s).2 := by
  induction script generalizing steps s with
  | nil => simpa [System.performAll] using run
  | cons aω script ih =>
      have one := run.step (S.perform aω.2 aω.1 s) rfl
      simpa [System.performAll, List.append_assoc] using ih one

/-- A script is a run when its first action may begin one. -/
theorem performAll_run {a : S.Act} (first : S.starts a) (ω : Oracle S.env)
    (script : List (S.Act × Oracle S.env)) (s : State γ η) :
    S.Run (S.performAll ((a, ω) :: script) s).1 (S.performAll ((a, ω) :: script) s).2 :=
  (Run.start (S.perform ω a s) first).performAll script

end System

end CallProgram
