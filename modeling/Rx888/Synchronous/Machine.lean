/-! # Synchronous machines

A machine takes one step on every edge of its clock: the inputs that are up at the edge and the
state give the next state, and the state alone what is seen from outside. A simulation relates the
states of two machines edge for edge, so that nobody outside can tell them apart.
-/

namespace Synchronous

structure Machine (ι σ ο : Type) where
  next : ι → σ → σ
  out : σ → ο

variable {ι κ σ τ ο π : Type}

namespace Machine

/-- What is seen before every edge, and after the last. -/
def trace (m : Machine ι σ ο) (s : σ) : List ι → List ο
  | [] => [m.out s]
  | i :: inputs => m.out s :: trace m (m.next i s) inputs

/-- The machine behind other inputs and outputs. -/
def adapt (m : Machine κ σ π) (f : ι → κ) (g : π → ο) : Machine ι σ ο where
  next i s := m.next (f i) s
  out s := g (m.out s)

variable (m : Machine ι σ ο)

/-- The state when the inputs are taken, oldest first. -/
def run (s : σ) (inputs : List ι) : σ := inputs.foldl (fun s i => m.next i s) s

@[simp] theorem run_nil (s : σ) : m.run s [] = s := rfl

@[simp] theorem run_cons (s : σ) (i : ι) (inputs : List ι) :
    m.run s (i :: inputs) = m.run (m.next i s) inputs := rfl

theorem run_append (s : σ) (inputs inputs' : List ι) :
    m.run s (inputs ++ inputs') = m.run (m.run s inputs) inputs' :=
  List.foldl_append

theorem run_adapt (m : Machine κ σ π) (f : ι → κ) (g : π → ο) (s : σ) (inputs : List ι) :
    (m.adapt f g).run s inputs = m.run s (inputs.map f) := by
  unfold run
  rw [List.foldl_map]
  rfl

theorem trace_adapt (m : Machine κ σ π) (f : ι → κ) (g : π → ο) (s : σ) (inputs : List ι) :
    (m.adapt f g).trace s inputs = (m.trace s (inputs.map f)).map g := by
  induction inputs generalizing s with
  | nil => rfl
  | cons i inputs ih =>
      rw [List.map_cons, trace, trace, List.map_cons]
      exact congrArg _ (ih (m.next (f i) s))

theorem out_mem_trace (s : σ) (inputs : List ι) : m.out s ∈ m.trace s inputs := by
  cases inputs with
  | nil => exact List.mem_singleton_self _
  | cons i inputs => exact List.mem_cons_self

theorem mem_trace_append {s : σ} {inputs inputs' : List ι} {o : ο}
    (later : o ∈ m.trace (m.run s inputs) inputs') : o ∈ m.trace s (inputs ++ inputs') := by
  induction inputs generalizing s with
  | nil => exact later
  | cons i inputs ih => exact List.mem_cons_of_mem _ (ih later)

/-- On every edge the input and the state before it satisfy `P`. -/
def Along (P : ι → σ → Prop) : σ → List ι → Prop
  | _, [] => True
  | s, i :: inputs => P i s ∧ Along P (m.next i s) inputs

theorem along_append {P : ι → σ → Prop} {s : σ} {inputs inputs' : List ι} :
    m.Along P s (inputs ++ inputs') ↔
      m.Along P s inputs ∧ m.Along P (m.run s inputs) inputs' := by
  induction inputs generalizing s with
  | nil => simp [Along]
  | cons i inputs ih =>
      rw [List.cons_append, Along, Along, ih, run_cons, and_assoc]

theorem along_adapt (m : Machine κ σ π) (f : ι → κ) (g : π → ο) (P : κ → σ → Prop)
    {s : σ} {inputs : List ι} : (m.adapt f g).Along (fun i => P (f i)) s inputs ↔
      m.Along P s (inputs.map f) := by
  induction inputs generalizing s with
  | nil => exact Iff.rfl
  | cons i inputs ih =>
      rw [List.map_cons, Along, Along, ih]
      rfl

theorem along_of_forall {P : ι → σ → Prop} {s : σ} {inputs : List ι}
    (all : ∀ i ∈ inputs, ∀ s, P i s) : m.Along P s inputs := by
  induction inputs generalizing s with
  | nil => exact trivial
  | cons i inputs ih =>
      obtain ⟨here, later⟩ := List.forall_mem_cons.mp all
      exact ⟨here s, ih later⟩

variable {m}

/-- What every edge keeps whose inputs are `ok`. -/
theorem run_invariant {ok : ι → Prop} {I : σ → Prop} (step : ∀ i s, ok i → I s → I (m.next i s))
    {s : σ} {inputs : List ι} (allOk : ∀ i ∈ inputs, ok i) (first : I s) : I (m.run s inputs) := by
  induction inputs generalizing s with
  | nil => exact first
  | cons i inputs ih =>
      obtain ⟨here, later⟩ := List.forall_mem_cons.mp allOk
      exact ih later (step i s here first)

/-- And so what is seen of the states. -/
theorem trace_invariant {ok : ι → Prop} {I : σ → Prop} {Q : ο → Prop}
    (step : ∀ i s, ok i → I s → I (m.next i s)) (seen : ∀ s, I s → Q (m.out s)) {s : σ}
    {inputs : List ι} (allOk : ∀ i ∈ inputs, ok i) (first : I s) :
    ∀ o ∈ m.trace s inputs, Q o := by
  induction inputs generalizing s with
  | nil => exact List.forall_mem_singleton.mpr (seen s first)
  | cons i inputs ih =>
      obtain ⟨here, later⟩ := List.forall_mem_cons.mp allOk
      exact List.forall_mem_cons.mpr ⟨seen s first, ih later (step i s here first)⟩

end Machine

/-- The states of the two machines that go with each other. -/
structure Simulation (impl : Machine ι σ ο) (spec : Machine ι τ ο) where
  rel : σ → τ → Prop
  next : ∀ i s t, rel s t → rel (impl.next i s) (spec.next i t)
  out : ∀ s t, rel s t → impl.out s = spec.out t

namespace Simulation

variable {impl : Machine ι σ ο} {spec : Machine ι τ ο} {s : σ} {t : τ}

theorem run (sim : Simulation impl spec) (related : sim.rel s t) (inputs : List ι) :
    sim.rel (impl.run s inputs) (spec.run t inputs) := by
  induction inputs generalizing s t with
  | nil => exact related
  | cons i inputs ih => exact ih (sim.next i s t related)

/-- The machines look the same from outside. -/
theorem trace (sim : Simulation impl spec) (related : sim.rel s t) (inputs : List ι) :
    impl.trace s inputs = spec.trace t inputs := by
  induction inputs generalizing s t with
  | nil => rw [Machine.trace, Machine.trace, sim.out s t related]
  | cons i inputs ih =>
      rw [Machine.trace, Machine.trace, sim.out s t related, ih (sim.next i s t related)]

/-- What the machines have in common holds along both of their runs or neither. -/
theorem along_iff (sim : Simulation impl spec) {P : ι → σ → Prop} {Q : ι → τ → Prop}
    (same : ∀ i s t, sim.rel s t → (P i s ↔ Q i t)) (related : sim.rel s t) (inputs : List ι) :
    impl.Along P s inputs ↔ spec.Along Q t inputs := by
  induction inputs generalizing s t with
  | nil => exact Iff.rfl
  | cons i inputs ih =>
      rw [Machine.Along, Machine.Along, same i s t related, ih (sim.next i s t related)]

/-- Simulations compose. -/
def trans {υ : Type} {last : Machine ι υ ο} (first : Simulation impl spec)
    (second : Simulation spec last) : Simulation impl last where
  rel s u := ∃ t, first.rel s t ∧ second.rel t u
  next i s u := by
    rintro ⟨t, here, there⟩
    exact ⟨spec.next i t, first.next i s t here, second.next i t u there⟩
  out s u := by
    rintro ⟨t, here, there⟩
    exact (first.out s t here).trans (second.out t u there)

end Simulation

end Synchronous
