import Rx888.CallProgram.Interleave
import Mathlib.Logic.Relation

/-! # Rely and guarantee

A contract says what is assumed of every turn, what is ensured of it and what holds between
turns, in terms of the state and of what has been noted so far. `Holds` is the weakest
precondition of a program whose steps the events may come between; assertions that the
events preserve carry a proof from one step of the program to the next.
-/

namespace CallProgram

variable {γ η : Type} {C : Type} {Ans : C → Type} {α β : Type}

structure Contract (T : Threads γ η Ans) where
  Ghost : Type
  note : Ghost → State γ η → T.Turn → Ghost
  assumes : Ghost → State γ η → T.Turn → Prop
  ensures : Ghost → State γ η → T.Turn → Prop
  inv : Ghost → State γ η → Prop

/-- What a policy relies on at a step. -/
def Policy.relies (P : Policy γ Ans) (s : State γ η) : Access γ Ans → Prop
  | .read => P.reads s.mem
  | .write _ => True
  | .call c r => P.answers c r

/-- The steps a policy permits. -/
def Policy.permits (P : Policy γ Ans) : Access γ Ans → Prop
  | .read => True
  | .write f => P.writes f
  | .call c _ => P.calls c

namespace Contract

variable {T : Threads γ η Ans} {K : Contract T}

def Disturbs (K : Contract T) (x y : K.Ghost × State γ η) : Prop :=
  ∃ e, T.occurs x.2 e y.2 ∧ K.inv x.1 x.2 ∧ K.assumes x.1 x.2 (.event e y.2) ∧
    y.1 = K.note x.1 x.2 (.event e y.2)

def Later (K : Contract T) : K.Ghost × State γ η → K.Ghost × State γ η → Prop :=
  Relation.ReflTransGen K.Disturbs

def Stable (K : Contract T) (A : K.Ghost → State γ η → Prop) : Prop :=
  ∀ g s e s', K.inv g s → A g s → T.occurs s e s' → K.assumes g s (.event e s') →
    A (K.note g s (.event e s')) s'

theorem Stable.later {A : K.Ghost → State γ η → Prop} (stable : K.Stable A)
    {x y : K.Ghost × State γ η} (later : K.Later x y) (h : A x.1 x.2) : A y.1 y.2 := by
  induction later with
  | refl => exact h
  | tail _ disturbed ih =>
      obtain ⟨e, occurs, inv, assumes, noted⟩ := disturbed
      rw [noted]
      exact stable _ _ e _ inv ih occurs assumes

theorem Stable.and {A B : K.Ghost → State γ η → Prop} (hA : K.Stable A) (hB : K.Stable B) :
    K.Stable fun g s => A g s ∧ B g s :=
  fun g s e s' inv h occurs assumes =>
    ⟨hA g s e s' inv h.1 occurs assumes, hB g s e s' inv h.2 occurs assumes⟩

theorem Stable.or {A B : K.Ghost → State γ η → Prop} (hA : K.Stable A) (hB : K.Stable B) :
    K.Stable fun g s => A g s ∨ B g s :=
  fun g s e s' inv h occurs assumes =>
    h.imp (hA g s e s' inv · occurs assumes) (hB g s e s' inv · occurs assumes)

/-! ## Programs among events -/

/-- Whenever it comes to it, the step meets its obligations and `next` holds after it. -/
def Step (K : Contract T) (a : Access γ Ans) (next : K.Ghost → State γ η → Prop) (g : K.Ghost)
    (s : State γ η) : Prop :=
  ∀ g' s', K.Later (g, s) (g', s') → K.inv g' s' → T.env.allowsStep s' a →
    K.assumes g' s' (.own a) →
      K.ensures g' s' (.own a) ∧ K.inv (K.note g' s' (.own a)) (T.env.step s' a) ∧
        next (K.note g' s' (.own a)) (T.env.step s' a)

/-- Each step of the program meets its obligations, and it returns in `Q`. -/
def Holds (K : Contract T) : Prog γ Ans α → (α → K.Ghost → State γ η → Prop) →
    K.Ghost → State γ η → Prop
  | .ret a, Q, g, s => ∀ g' s', K.Later (g, s) (g', s') → K.inv g' s' → Q a g' s'
  | .read k, Q, g, s => K.Step .read (fun g s => K.Holds (k s.mem) Q g s) g s
  | .write f k, Q, g, s => K.Step (.write f) (fun g s => K.Holds k Q g s) g s
  | .call c k, Q, g, s => ∀ r, K.Step (.call c r) (fun g s => K.Holds (k r) Q g s) g s

section Rules

variable {g : K.Ghost} {s : State γ η} {a : Access γ Ans}
variable {next next' : K.Ghost → State γ η → Prop}
variable {Q Q' : α → K.Ghost → State γ η → Prop} {S : β → K.Ghost → State γ η → Prop}

theorem Step.later (h : K.Step a next g s) {g' : K.Ghost} {s' : State γ η}
    (later : K.Later (g, s) (g', s')) : K.Step a next g' s' :=
  fun _ _ later' => h _ _ (later.trans later')

theorem Step.mono (h : K.Step a next g s) (imp : ∀ g s, next g s → next' g s) :
    K.Step a next' g s := by
  intro g' s' later inv allowed assumes
  obtain ⟨ensures, inv', after⟩ := h g' s' later inv allowed assumes
  exact ⟨ensures, inv', imp _ _ after⟩

theorem Stable.step {A : K.Ghost → State γ η → Prop} (stable : K.Stable A) (h : A g s)
    (taken : ∀ g s, K.inv g s → A g s → T.env.allowsStep s a → K.assumes g s (.own a) →
      K.ensures g s (.own a) ∧ K.inv (K.note g s (.own a)) (T.env.step s a) ∧
        next (K.note g s (.own a)) (T.env.step s a)) : K.Step a next g s := by
  intro g' s' later inv allowed assumes
  exact taken g' s' inv (stable.later later h) allowed assumes

theorem Holds.later {p : Prog γ Ans α} (h : K.Holds p Q g s) {g' : K.Ghost} {s' : State γ η}
    (later : K.Later (g, s) (g', s')) : K.Holds p Q g' s' := by
  cases p with
  | ret a => exact fun _ _ later' => h _ _ (later.trans later')
  | read k => exact Step.later h later
  | write f k => exact Step.later h later
  | call c k => exact fun r => Step.later (h r) later

theorem Holds.mono {p : Prog γ Ans α} (h : K.Holds p Q g s)
    (imp : ∀ a g s, K.inv g s → Q a g s → Q' a g s) : K.Holds p Q' g s := by
  induction p generalizing g s with
  | ret a => exact fun g' s' later inv => imp a g' s' inv (h g' s' later inv)
  | read k ih => exact Step.mono h fun g s => ih s.mem
  | write f k ih => exact Step.mono h fun g s => ih
  | call c k ih => exact fun r => Step.mono (h r) fun g s => ih r

theorem Holds.bind {p : Prog γ Ans α} {f : α → Prog γ Ans β} (h : K.Holds p Q g s)
    (hf : ∀ a g s, K.inv g s → Q a g s → K.Holds (f a) S g s) (inv : K.inv g s) :
    K.Holds (p >>= f) S g s := by
  induction p generalizing g s with
  | ret a => exact hf a g s inv (h g s .refl inv)
  | read k ih =>
      intro g' s' later inv' allowed assumes
      obtain ⟨ensures, inv'', after⟩ := h g' s' later inv' allowed assumes
      exact ⟨ensures, inv'', ih _ after inv''⟩
  | write w k ih =>
      intro g' s' later inv' allowed assumes
      obtain ⟨ensures, inv'', after⟩ := h g' s' later inv' allowed assumes
      exact ⟨ensures, inv'', ih after inv''⟩
  | call c k ih =>
      intro r g' s' later inv' allowed assumes
      obtain ⟨ensures, inv'', after⟩ := h r g' s' later inv' allowed assumes
      exact ⟨ensures, inv'', ih r after inv''⟩

theorem holds_ret {A : K.Ghost → State γ η → Prop} (stable : K.Stable A) (h : A g s) {a : α}
    (imp : ∀ g s, K.inv g s → A g s → Q a g s) : K.Holds (.ret a) Q g s :=
  fun g' s' later inv => imp g' s' inv (stable.later later h)

end Rules

/-! ## Policies among events -/

/-- A step from `A` meets its obligations and leads to `B`. -/
def Leads (K : Contract T) (A B : K.Ghost → State γ η → Prop) (a : Access γ Ans) : Prop :=
  ∀ g s, K.inv g s → A g s → T.env.allowsStep s a → K.assumes g s (.own a) →
    K.ensures g s (.own a) ∧ K.inv (K.note g s (.own a)) (T.env.step s a) ∧
      B (K.note g s (.own a)) (T.env.step s a)

section Policies

variable {g : K.Ghost} {s : State γ η} {A F : K.Ghost → State γ η → Prop}

/-- From a stable assertion that every step keeps, a program does as it likes. -/
theorem holds_of_leads (stable : K.Stable F) (own : ∀ a, K.Leads F F a) (p : Prog γ Ans α)
    (h : F g s) : K.Holds p (fun _ => F) g s := by
  induction p generalizing g s with
  | ret a => exact holds_ret stable h fun _ _ _ h => h
  | read k ih =>
      refine stable.step h fun g s inv h allowed assumes => ?_
      obtain ⟨ensures, inv', after⟩ := own .read g s inv h allowed assumes
      exact ⟨ensures, inv', ih _ after⟩
  | write f k ih =>
      refine stable.step h fun g s inv h allowed assumes => ?_
      obtain ⟨ensures, inv', after⟩ := own (.write f) g s inv h allowed assumes
      exact ⟨ensures, inv', ih after⟩
  | call c k ih =>
      refine fun r => stable.step h fun g s inv h allowed assumes => ?_
      obtain ⟨ensures, inv', after⟩ := own (.call c r) g s inv h allowed assumes
      exact ⟨ensures, inv', ih r after⟩

/-- While `A` holds, what the policy relies on is so; a program under the policy then keeps
`A`, unless it gets to `F`, from where it does as it likes. -/
theorem holds_of_keeps {P : Policy γ Ans} {R : α → Prop} {p : Prog γ Ans α}
    (keeps : p.Keeps P R) (stable : K.Stable fun g s => F g s ∨ A g s) (free : K.Stable F)
    (own : ∀ a, K.Leads F F a)
    (relies : ∀ g s a, K.inv g s → A g s → T.env.allowsStep s a → K.assumes g s (.own a) →
      P.relies s a)
    (permitted : ∀ a, P.permits a → K.Leads A (fun g s => F g s ∨ A g s) a) (h : F g s ∨ A g s) :
    K.Holds p (fun a g s => F g s ∨ R a ∧ A g s) g s := by
  -- once free, whatever is left of the program is free
  have freely (p : Prog γ Ans α) (g : K.Ghost) (s : State γ η) (h : F g s) :
      K.Holds p (fun a g s => F g s ∨ R a ∧ A g s) g s :=
    (holds_of_leads free own p h).mono fun _ _ _ _ h => .inl h
  induction p generalizing g s with
  | ret a => exact holds_ret stable h fun g s _ h => h.imp_right fun h => ⟨keeps, h⟩
  | read k ih =>
      refine stable.step h fun g s inv h allowed assumes => ?_
      rcases h with h | h
      · obtain ⟨ensures, inv', after⟩ := own .read g s inv h allowed assumes
        exact ⟨ensures, inv', freely _ _ _ after⟩
      · have told := relies g s .read inv h allowed assumes
        obtain ⟨ensures, inv', after⟩ := permitted .read trivial g s inv h allowed assumes
        exact ⟨ensures, inv', ih _ (keeps _ told) after⟩
  | write f k ih =>
      refine stable.step h fun g s inv h allowed assumes => ?_
      rcases h with h | h
      · obtain ⟨ensures, inv', after⟩ := own (.write f) g s inv h allowed assumes
        exact ⟨ensures, inv', freely _ _ _ after⟩
      · obtain ⟨ensures, inv', after⟩ :=
          permitted (.write f) keeps.1 g s inv h allowed assumes
        exact ⟨ensures, inv', ih keeps.2 after⟩
  | call c k ih =>
      refine fun r => stable.step h fun g s inv h allowed assumes => ?_
      rcases h with h | h
      · obtain ⟨ensures, inv', after⟩ := own (.call c r) g s inv h allowed assumes
        exact ⟨ensures, inv', freely _ _ _ after⟩
      · have told := relies g s (.call c r) inv h allowed assumes
        obtain ⟨ensures, inv', after⟩ :=
          permitted (.call c r) keeps.1 g s inv h allowed assumes
        exact ⟨ensures, inv', ih r (keeps.2 r told) after⟩

/-- Where a stable assertion bears out what the policy relies on, a program under the policy
keeps it. -/
theorem holds_under {P : Policy γ Ans} {R : α → Prop} {p : Prog γ Ans α}
    (keeps : p.Keeps P R) (stable : K.Stable A)
    (relies : ∀ g s a, K.inv g s → A g s → T.env.allowsStep s a → K.assumes g s (.own a) →
      P.relies s a)
    (permitted : ∀ a, P.permits a → K.Leads A A a) (h : A g s) :
    K.Holds p (fun a g s => R a ∧ A g s) g s := by
  have never : K.Stable fun _ _ => False := fun _ _ _ _ _ h _ _ => h
  have holds : K.Holds p (fun a g s => False ∨ R a ∧ A g s) g s := by
    refine holds_of_keeps keeps ?_ never (fun _ _ _ _ h => h.elim) relies ?_ (.inr h)
    · exact never.or stable
    · intro a permits g s inv h allowed assumes
      obtain ⟨ensures, inv', after⟩ := permitted a permits g s inv h allowed assumes
      exact ⟨ensures, inv', .inr after⟩
  refine holds.mono fun a g s _ returned => ?_
  rcases returned with escaped | returned
  · exact escaped.elim
  · exact returned

/-- Where the invariant bears out what the policy relies on, a program under the policy keeps
the invariant. -/
theorem holds_of_policy {P : Policy γ Ans} {R : α → Prop} {p : Prog γ Ans α}
    (keeps : p.Keeps P R)
    (relies : ∀ g s a, K.inv g s → T.env.allowsStep s a → K.assumes g s (.own a) → P.relies s a)
    (permitted : ∀ g s a, P.permits a → K.inv g s → T.env.allowsStep s a →
      K.assumes g s (.own a) →
        K.ensures g s (.own a) ∧ K.inv (K.note g s (.own a)) (T.env.step s a))
    (g : K.Ghost) (s : State γ η) : K.Holds p (fun a _ _ => R a) g s := by
  have holds : K.Holds p (fun a _ _ => R a ∧ True) g s := by
    refine holds_under keeps (fun _ _ _ _ _ _ _ _ => trivial) ?_ ?_ trivial
    · intro g s a inv _ allowed assumes
      exact relies g s a inv allowed assumes
    · intro a permits g s inv _ allowed assumes
      obtain ⟨ensures, inv'⟩ := permitted g s a permits inv allowed assumes
      exact ⟨ensures, inv', trivial⟩
  exact holds.mono fun a g s _ returned => returned.1

end Policies

/-! ## Runs -/

/-- What has to be shown of the tasks and the events. -/
structure Met (K : Contract T) (Post : T.Out → K.Ghost → State γ η → Prop) : Prop where
  start : ∀ g s t, K.inv g s → K.assumes g s (.start t) →
    K.ensures g s (.start t) ∧ K.inv (K.note g s (.start t)) s ∧
      K.Holds (T.task t) Post (K.note g s (.start t)) s
  done : ∀ g s out, K.inv g s → Post out g s → K.assumes g s (.done out) →
    K.ensures g s (.done out) ∧ K.inv (K.note g s (.done out)) s
  event : ∀ g s e s', K.inv g s → T.occurs s e s' → K.assumes g s (.event e s') →
    K.ensures g s (.event e s') ∧ K.inv (K.note g s (.event e s')) s'

/-- A run whose turns meet the assumptions ensures what it should, and the invariant holds
at its end. -/
theorem Met.run {Post : T.Out → K.Ghost → State γ η → Prop} (met : K.Met Post)
    {s₀ s : State γ η} {turns : List (State γ η × T.Turn)} {todo : T.Todo} {g₀ : K.Ghost}
    (run : T.Run s₀ turns todo s) (init : K.inv g₀ s₀)
    (assumes : Threads.Throughout K.note K.assumes g₀ turns) :
    Threads.Throughout K.note K.ensures g₀ turns ∧ K.inv (Threads.noted K.note g₀ turns) s := by
  have all : Threads.Throughout K.note K.ensures g₀ turns ∧
      K.inv (Threads.noted K.note g₀ turns) s ∧
      ∀ p, todo = some p → K.Holds p Post (Threads.noted K.note g₀ turns) s := by
    induction run with
    | start => exact ⟨trivial, init, by simp⟩
    | @step turns todo todo' s run t next ih =>
        rw [Threads.throughout_concat] at assumes
        obtain ⟨ensured, inv, left⟩ := ih assumes.1
        rw [Threads.throughout_concat, Threads.noted_concat]
        cases next with
        | start t =>
            obtain ⟨ensures, inv', holds⟩ := met.start _ s t inv assumes.2
            exact ⟨⟨ensured, ensures⟩, inv', fun p h => Option.some.inj h ▸ holds⟩
        | @own p p' a takes allowed =>
            have holds := left p rfl
            cases takes with
            | read =>
                obtain ⟨ensures, inv', after⟩ := holds _ _ .refl inv allowed assumes.2
                exact ⟨⟨ensured, ensures⟩, inv', fun p h => Option.some.inj h ▸ after⟩
            | write =>
                obtain ⟨ensures, inv', after⟩ := holds _ _ .refl inv allowed assumes.2
                exact ⟨⟨ensured, ensures⟩, inv', fun p h => Option.some.inj h ▸ after⟩
            | call r =>
                obtain ⟨ensures, inv', after⟩ := holds r _ _ .refl inv allowed assumes.2
                exact ⟨⟨ensured, ensures⟩, inv', fun p h => Option.some.inj h ▸ after⟩
        | done out =>
            have post := left _ rfl _ _ .refl inv
            obtain ⟨ensures, inv'⟩ := met.done _ s out inv post assumes.2
            exact ⟨⟨ensured, ensures⟩, inv', by simp⟩
        | @event todo e s' occurs =>
            obtain ⟨ensures, inv'⟩ := met.event _ s e s' inv occurs assumes.2
            refine ⟨⟨ensured, ensures⟩, inv', fun p h => (left p h).later ?_⟩
            exact .single ⟨e, occurs, inv, assumes.2, rfl⟩
  exact ⟨all.1, all.2.1⟩

end Contract

end CallProgram
