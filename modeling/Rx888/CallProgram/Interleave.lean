import Rx888.CallProgram.Run

/-! # Interleaved runs

One thread carries out its tasks step by step, and what the other threads do comes in
between any two of its steps. A run lists the turns taken, each with the state it was
taken in, so what has happened so far is a fold over the run.
-/

namespace CallProgram

variable {γ η : Type} {C : Type} {Ans : C → Type} {α : Type}

/-- One step of a program. -/
inductive Access (γ : Type) {C : Type} (Ans : C → Type) where
  | read
  | write (f : γ → γ)
  | call (c : C) (r : Ans c)

def Env.allowsStep (E : Env γ η Ans) (s : State γ η) : Access γ Ans → Prop
  | .call c r => E.allows s c r
  | _ => True

def Env.step (E : Env γ η Ans) (s : State γ η) : Access γ Ans → State γ η
  | .read => s
  | .write f => ⟨f s.mem, s.env⟩
  | .call c r => E.exec s c r

/-- The step a program takes when the memory is `m`, and what it has left to do. -/
inductive Prog.Takes (m : γ) : Prog γ Ans α → Access γ Ans → Prog γ Ans α → Prop where
  | read {k : γ → Prog γ Ans α} : Takes m (.read k) .read (k m)
  | write {f : γ → γ} {k : Prog γ Ans α} : Takes m (.write f k) (.write f) k
  | call {c : C} {k : Ans c → Prog γ Ans α} (r : Ans c) : Takes m (.call c k) (.call c r) (k r)

theorem Prog.Takes.of_bind {β : Type} {m : γ} {p : Prog γ Ans α} {f : α → Prog γ Ans β}
    {a : Access γ Ans} {q : Prog γ Ans β} (takes : (p >>= f).Takes m a q) :
    (∃ p', p.Takes m a p' ∧ q = p' >>= f) ∨ ∃ b, p = .ret b ∧ (f b).Takes m a q := by
  cases p with
  | ret b => exact .inr ⟨b, rfl, takes⟩
  | read k =>
      cases takes
      exact .inl ⟨_, .read, rfl⟩
  | write g k =>
      cases takes
      exact .inl ⟨_, .write, rfl⟩
  | call c k =>
      cases takes with
      | call r => exact .inl ⟨_, .call r, rfl⟩

/-- What a program may touch bounds each of its steps and what is left after it. -/
theorem Prog.Uses.takes {W : (γ → γ) → Prop} {K : C → Prop} {m : γ} {p p' : Prog γ Ans α}
    {a : Access γ Ans} (uses : p.Uses W K) (takes : p.Takes m a p') :
    p'.Uses W K ∧ (∀ f, a = .write f → W f) ∧ ∀ c r, a = .call c r → K c := by
  cases takes with
  | read => exact ⟨uses m, by simp, by simp⟩
  | write =>
      refine ⟨uses.2, fun f same => ?_, by simp⟩
      cases same
      exact uses.1
  | call r =>
      refine ⟨uses.2 r, by simp, fun c r same => ?_⟩
      cases same
      exact uses.1

/-- A thread with its tasks, and the others' events. -/
structure Threads (γ η : Type) {C : Type} (Ans : C → Type) where
  env : Env γ η Ans
  Task : Type
  Out : Type
  task : Task → Prog γ Ans Out
  Event : Type
  occurs : State γ η → Event → State γ η → Prop

namespace Threads

variable {T : Threads γ η Ans}

/-- The thread takes up a task, takes a step of it or is done with it, or an event occurs. -/
inductive Turn (T : Threads γ η Ans) where
  | start (t : T.Task)
  | own (a : Access γ Ans)
  | done (out : T.Out)
  | event (e : T.Event) (after : State γ η)

/-- What the thread has left of its task. -/
abbrev Todo (T : Threads γ η Ans) := Option (Prog γ Ans T.Out)

def after (T : Threads γ η Ans) (s : State γ η) : T.Turn → State γ η
  | .own a => T.env.step s a
  | .event _ s' => s'
  | _ => s

inductive Next (T : Threads γ η Ans) (s : State γ η) : T.Todo → T.Turn → T.Todo → Prop where
  | start (t : T.Task) : Next T s none (.start t) (some (T.task t))
  | own {p p' : Prog γ Ans T.Out} {a : Access γ Ans} (takes : p.Takes s.mem a p')
      (allowed : T.env.allowsStep s a) : Next T s (some p) (.own a) (some p')
  | done (out : T.Out) : Next T s (some (.ret out)) (.done out) none
  | event {todo : T.Todo} {e : T.Event} {s' : State γ η} (occurs : T.occurs s e s') :
      Next T s todo (.event e s') todo

/-- A run from `s₀`: its turns, what the thread has left to do and the state. -/
inductive Run (T : Threads γ η Ans) (s₀ : State γ η) :
    List (State γ η × T.Turn) → T.Todo → State γ η → Prop where
  | start : Run T s₀ [] none s₀
  | step {turns : List (State γ η × T.Turn)} {todo todo' : T.Todo} {s : State γ η}
      (run : Run T s₀ turns todo s) {t : T.Turn} (next : T.Next s todo t todo') :
      Run T s₀ (turns ++ [(s, t)]) todo' (T.after s t)

/-! ## Ghosts -/

section Ghost

variable {G : Type} (note : G → State γ η → T.Turn → G)

def noted (g : G) (turns : List (State γ η × T.Turn)) : G :=
  turns.foldl (fun g u => note g u.1 u.2) g

@[simp] theorem noted_nil (g : G) : noted note g [] = g := rfl

@[simp] theorem noted_concat (g : G) (turns : List (State γ η × T.Turn)) (s : State γ η)
    (t : T.Turn) : noted note g (turns ++ [(s, t)]) = note (noted note g turns) s t := by
  simp [noted]

/-- `P` holds of each turn, by what has been noted before it. -/
def Throughout (P : G → State γ η → T.Turn → Prop) : G → List (State γ η × T.Turn) → Prop
  | _, [] => True
  | g, (s, t) :: turns => P g s t ∧ Throughout P (note g s t) turns

variable {note} {P Q : G → State γ η → T.Turn → Prop} {g : G}

@[simp] theorem throughout_concat (turns : List (State γ η × T.Turn)) (s : State γ η)
    (t : T.Turn) : Throughout note P g (turns ++ [(s, t)]) ↔
      Throughout note P g turns ∧ P (noted note g turns) s t := by
  induction turns generalizing g with
  | nil => simp [Throughout]
  | cons u turns ih =>
      rw [List.cons_append]
      simp only [Throughout, ih, and_assoc]
      rfl

instance [decidable : ∀ g s t, Decidable (P g s t)] (g : G) (turns : List (State γ η × T.Turn)) :
    Decidable (Throughout note P g turns) :=
  match turns with
  | [] => isTrue trivial
  | (s, t) :: turns =>
      have := instDecidableThroughout (note g s t) turns
      inferInstanceAs (Decidable (P g s t ∧ _))

theorem Throughout.imp {turns : List (State γ η × T.Turn)} (h : Throughout note P g turns)
    (I : G → Prop) (start : I g) (next : ∀ g s t, I g → I (note g s t))
    (imp : ∀ g s t, I g → P g s t → Q g s t) : Throughout note Q g turns := by
  induction turns generalizing g with
  | nil => trivial
  | cons u turns ih => exact ⟨imp _ _ _ start h.1, ih h.2 (next _ _ _ start)⟩

theorem Throughout.and {turns : List (State γ η × T.Turn)} (hP : Throughout note P g turns)
    (hQ : Throughout note Q g turns) :
    Throughout note (fun g s t => P g s t ∧ Q g s t) g turns := by
  induction turns generalizing g with
  | nil => trivial
  | cons u turns ih => exact ⟨⟨hP.1, hQ.1⟩, ih hP.2 hQ.2⟩

theorem Throughout.congr {turns : List (State γ η × T.Turn)}
    (h : Throughout note (fun g s t => P g s t ↔ Q g s t) g turns) :
    Throughout note P g turns ↔ Throughout note Q g turns := by
  induction turns generalizing g with
  | nil => exact Iff.rfl
  | cons u turns ih => exact and_congr h.1 (ih h.2)

theorem throughout_of_forall (h : ∀ g s t, P g s t) (turns : List (State γ η × T.Turn)) :
    Throughout note P g turns := by
  induction turns generalizing g with
  | nil => trivial
  | cons u turns ih => exact ⟨h _ _ _, ih⟩

end Ghost

/-! ## Scripts -/

/-- Answers to the calls of a thread, by the state they are made in. -/
structure Responder (E : Env γ η Ans) where
  answer : State γ η → (c : C) → Ans c
  allowed : ∀ s c, E.allows s c (answer s c)

structure Reaction (T : Threads γ η Ans) where
  event : State γ η → T.Event
  after : State γ η → State γ η
  occurs : ∀ s, T.occurs s (event s) (after s)

inductive Order (T : Threads γ η Ans) where
  | start (t : T.Task)
  | own (ω : Responder T.env) (steps : Nat)
  | done
  | event (r : T.Reaction)

/-- Where a script is: the turns taken, the last one first, what the thread has left to do
and the state. -/
structure Config (T : Threads γ η Ans) where
  taken : List (State γ η × T.Turn)
  todo : T.Todo
  state : State γ η

def Config.turns (c : Config T) : List (State γ η × T.Turn) := c.taken.reverse

def Config.take (c : Config T) (t : T.Turn) (todo : T.Todo) : Config T :=
  ⟨(c.state, t) :: c.taken, todo, T.after c.state t⟩

def Config.advance (ω : Responder T.env) : Nat → Config T → Config T
  | 0, c => c
  | n + 1, c =>
      match c.todo with
      | some (.read k) => (c.take (.own .read) (some (k c.state.mem))).advance ω n
      | some (.write f k) => (c.take (.own (.write f)) (some k)).advance ω n
      | some (.call call k) =>
          let r := ω.answer c.state call
          (c.take (.own (.call call r)) (some (k r))).advance ω n
      | _ => c

/-- Orders that cannot be followed are skipped. -/
def Config.follow (c : Config T) : T.Order → Config T
  | .start t =>
      match c.todo with
      | none => c.take (.start t) (some (T.task t))
      | some _ => c
  | .own ω n => c.advance ω n
  | .done =>
      match c.todo with
      | some (.ret out) => c.take (.done out) none
      | _ => c
  | .event r => c.take (.event (r.event c.state) (r.after c.state)) c.todo

def replay (T : Threads γ η Ans) (s₀ : State γ η) (orders : List T.Order) : Config T :=
  orders.foldl Config.follow ⟨[], none, s₀⟩

def Config.Reached (s₀ : State γ η) (c : Config T) : Prop := T.Run s₀ c.turns c.todo c.state

variable {s₀ : State γ η} {c : Config T}

theorem Config.Reached.take (h : c.Reached s₀) {t : T.Turn} {todo : T.Todo}
    (next : T.Next c.state c.todo t todo) : (c.take t todo).Reached s₀ := by
  have run : T.Run s₀ (c.turns ++ [(c.state, t)]) todo (T.after c.state t) := Run.step h next
  rw [Config.turns, ← List.reverse_cons] at run
  exact run

theorem Config.Reached.advance (ω : Responder T.env) (n : Nat) (h : c.Reached s₀) :
    (c.advance ω n).Reached s₀ := by
  induction n generalizing c with
  | zero => exact h
  | succ n ih =>
      unfold Config.advance
      split
      next k todo => exact ih (h.take (todo ▸ .own .read trivial))
      next f k todo => exact ih (h.take (todo ▸ .own .write trivial))
      next call k todo =>
        exact ih (h.take (todo ▸ .own (.call _) (ω.allowed c.state call)))
      next => exact h

theorem Config.Reached.follow (o : T.Order) (h : c.Reached s₀) : (c.follow o).Reached s₀ := by
  cases o with
  | start t =>
      simp only [Config.follow]
      split
      next idle => exact h.take (idle ▸ .start t)
      next => exact h
  | own ω n => exact h.advance ω n
  | done =>
      simp only [Config.follow]
      split
      next out ended => exact h.take (ended ▸ .done out)
      next => exact h
  | event r => exact h.take (.event (r.occurs c.state))

theorem replay_run (s₀ : State γ η) (orders : List T.Order) :
    (T.replay s₀ orders).Reached s₀ := by
  have each (c : Config T) (h : c.Reached s₀) : (orders.foldl Config.follow c).Reached s₀ := by
    induction orders generalizing c with
    | nil => exact h
    | cons o orders ih => exact ih _ (h.follow o)
  exact each _ .start

end Threads

end CallProgram
