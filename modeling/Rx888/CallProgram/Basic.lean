import Mathlib.Init

/-! # Programs that share a memory and call out

A program reads and writes a memory it shares with other threads and calls
services whose answers it does not choose. Every access and every call is a
step of its own, so a scheduler can come in between any two of them. The type
is a tree over all possible answers; what the services may answer and what they
do is supplied separately by an environment.
-/

namespace CallProgram

/-- A program over the memory `γ` whose call `c` is answered in `Ans c`. -/
inductive Prog (γ : Type) {C : Type} (Ans : C → Type) (α : Type) : Type where
  | ret (a : α) : Prog γ Ans α
  | read (k : γ → Prog γ Ans α) : Prog γ Ans α
  | write (f : γ → γ) (k : Prog γ Ans α) : Prog γ Ans α
  | call (c : C) (k : Ans c → Prog γ Ans α) : Prog γ Ans α

variable {γ : Type} {C : Type} {Ans : C → Type} {α β δ : Type}

namespace Prog

/-- Sequencing grafts the second program onto every leaf of the first. -/
def bind : Prog γ Ans α → (α → Prog γ Ans β) → Prog γ Ans β
  | .ret a, f => f a
  | .read k, f => .read fun m => (k m).bind f
  | .write g k, f => .write g (k.bind f)
  | .call c k, f => .call c fun r => (k r).bind f

instance : Monad (Prog γ Ans) where
  pure := .ret
  bind := bind

theorem bind_ret (p : Prog γ Ans α) : p.bind .ret = p := by
  induction p with
  | ret a => rfl
  | read k ih => simp only [bind, ih]
  | write g k ih => simp only [bind, ih]
  | call c k ih => simp only [bind, ih]

theorem bind_assoc (p : Prog γ Ans α) (f : α → Prog γ Ans β) (g : β → Prog γ Ans δ) :
    (p.bind f).bind g = p.bind fun a => (f a).bind g := by
  induction p with
  | ret a => rfl
  | read k ih => simp only [bind, ih]
  | write h k ih => simp only [bind, ih]
  | call c k ih => simp only [bind, ih]

instance : LawfulMonad (Prog γ Ans) :=
  LawfulMonad.mk' _ (fun p => bind_ret p) (fun _ _ => rfl) (fun p f g => bind_assoc p f g)

/-- `a` is what the program returns after some answers. -/
def Returns : Prog γ Ans α → α → Prop
  | .ret b, a => a = b
  | .read k, a => ∃ m, (k m).Returns a
  | .write _ k, a => k.Returns a
  | .call _ k, a => ∃ r, (k r).Returns a

theorem ite_bind (c : Prop) [Decidable c] (p q : Prog γ Ans α) (f : α → Prog γ Ans β) :
    (if c then p else q) >>= f = if c then p >>= f else q >>= f := by
  split <;> rfl

/-! ## What a program may touch -/

/-- Every write of the program satisfies `W` and every call `K`, whatever is read and
answered. -/
def Uses (W : (γ → γ) → Prop) (K : C → Prop) : Prog γ Ans α → Prop
  | .ret _ => True
  | .read k => ∀ m, (k m).Uses W K
  | .write f k => W f ∧ k.Uses W K
  | .call c k => K c ∧ ∀ r, (k r).Uses W K

variable {W W' : (γ → γ) → Prop} {K K' : C → Prop}

@[simp] theorem uses_ret (a : α) : (Prog.ret a : Prog γ Ans α).Uses W K := trivial

@[simp] theorem uses_pure (a : α) : (pure a : Prog γ Ans α).Uses W K := trivial

@[simp] theorem uses_read (k : γ → Prog γ Ans α) :
    (Prog.read k).Uses W K ↔ ∀ m, (k m).Uses W K := Iff.rfl

@[simp] theorem uses_write (f : γ → γ) (k : Prog γ Ans α) :
    (Prog.write f k).Uses W K ↔ W f ∧ k.Uses W K := Iff.rfl

@[simp] theorem uses_call (c : C) (k : Ans c → Prog γ Ans α) :
    (Prog.call c k).Uses W K ↔ K c ∧ ∀ r, (k r).Uses W K := Iff.rfl

@[simp] theorem uses_bind (p : Prog γ Ans α) (f : α → Prog γ Ans β) :
    (p >>= f).Uses W K ↔ p.Uses W K ∧ ∀ a, p.Returns a → (f a).Uses W K := by
  induction p with
  | ret a =>
      constructor
      · intro h
        exact ⟨trivial, fun b hb => hb ▸ h⟩
      · intro h
        exact h.2 a rfl
  | read k ih =>
      constructor
      · intro h
        have parts := fun m => (ih m).mp (h m)
        exact ⟨fun m => (parts m).1, fun a ⟨m, ha⟩ => (parts m).2 a ha⟩
      · intro h m
        exact (ih m).mpr ⟨h.1 m, fun a ha => h.2 a ⟨m, ha⟩⟩
  | write g k ih =>
      constructor
      · intro h
        have parts := ih.mp h.2
        exact ⟨⟨h.1, parts.1⟩, parts.2⟩
      · intro h
        exact ⟨h.1.1, ih.mpr ⟨h.1.2, h.2⟩⟩
  | call c k ih =>
      constructor
      · intro h
        have parts := fun r => (ih r).mp (h.2 r)
        exact ⟨⟨h.1, fun r => (parts r).1⟩, fun a ⟨r, ha⟩ => (parts r).2 a ha⟩
      · intro h
        exact ⟨h.1.1, fun r => (ih r).mpr ⟨h.1.2 r, fun a ha => h.2 a ⟨r, ha⟩⟩⟩

@[simp] theorem uses_map (p : Prog γ Ans α) (g : α → β) :
    (g <$> p).Uses W K ↔ p.Uses W K := by
  rw [← bind_pure_comp, uses_bind]
  simp

theorem Uses.mono {p : Prog γ Ans α} (hp : p.Uses W K) (hW : ∀ f, W f → W' f)
    (hK : ∀ c, K c → K' c) : p.Uses W' K' := by
  induction p with
  | ret a => trivial
  | read k ih => exact fun m => ih m (hp m)
  | write g k ih => exact ⟨hW g hp.1, ih hp.2⟩
  | call c k ih => exact ⟨hK c hp.1, fun r => ih r (hp.2 r)⟩

theorem Uses.and {p : Prog γ Ans α} (hp : p.Uses W K) (hp' : p.Uses W' K') :
    p.Uses (fun f => W f ∧ W' f) (fun c => K c ∧ K' c) := by
  induction p with
  | ret a => trivial
  | read k ih => exact fun m => ih m (hp m) (hp' m)
  | write g k ih => exact ⟨⟨hp.1, hp'.1⟩, ih hp.2 hp'.2⟩
  | call c k ih => exact ⟨⟨hp.1, hp'.1⟩, fun r => ih r (hp.2 r) (hp'.2 r)⟩

@[simp] theorem uses_ite (c : Prop) [Decidable c] (p q : Prog γ Ans α) :
    (if c then p else q).Uses W K ↔ (c → p.Uses W K) ∧ (¬ c → q.Uses W K) := by
  split <;> simp [*]

end Prog

/-! ## Programs under a policy -/

/-- What a program may rely on, the memory it reads and the answers it gets, and what
it then guarantees, the writes and the calls it makes. -/
structure Policy (γ : Type) {C : Type} (Ans : C → Type) where
  reads : γ → Prop
  answers : (c : C) → Ans c → Prop
  writes : (γ → γ) → Prop
  calls : C → Prop

namespace Prog

/-- While what it reads and is answered is as the policy says, so are the writes and
calls of the program, and it returns in `R`. -/
def Keeps (P : Policy γ Ans) (R : α → Prop) : Prog γ Ans α → Prop
  | .ret a => R a
  | .read k => ∀ m, P.reads m → (k m).Keeps P R
  | .write f k => P.writes f ∧ k.Keeps P R
  | .call c k => P.calls c ∧ ∀ r, P.answers c r → (k r).Keeps P R

variable {P : Policy γ Ans} {R R' : α → Prop} {S : β → Prop}

@[simp] theorem keeps_ret (a : α) : (Prog.ret a : Prog γ Ans α).Keeps P R ↔ R a := Iff.rfl

@[simp] theorem keeps_pure (a : α) : (pure a : Prog γ Ans α).Keeps P R ↔ R a := Iff.rfl

@[simp] theorem keeps_read (k : γ → Prog γ Ans α) :
    (Prog.read k).Keeps P R ↔ ∀ m, P.reads m → (k m).Keeps P R := Iff.rfl

@[simp] theorem keeps_write (f : γ → γ) (k : Prog γ Ans α) :
    (Prog.write f k).Keeps P R ↔ P.writes f ∧ k.Keeps P R := Iff.rfl

@[simp] theorem keeps_call (c : C) (k : Ans c → Prog γ Ans α) :
    (Prog.call c k).Keeps P R ↔ P.calls c ∧ ∀ r, P.answers c r → (k r).Keeps P R := Iff.rfl

@[simp] theorem keeps_bind (p : Prog γ Ans α) (f : α → Prog γ Ans β) :
    (p >>= f).Keeps P S ↔ p.Keeps P fun a => (f a).Keeps P S := by
  induction p with
  | ret a => rfl
  | read k ih => exact forall_congr' fun m => forall_congr' fun _ => ih m
  | write g k ih => exact and_congr_right fun _ => ih
  | call c k ih =>
      exact and_congr_right fun _ => forall_congr' fun r => forall_congr' fun _ => ih r

theorem Keeps.mono {p : Prog γ Ans α} (hp : p.Keeps P R) (h : ∀ a, R a → R' a) :
    p.Keeps P R' := by
  induction p with
  | ret a => exact h a hp
  | read k ih => exact fun m hm => ih m (hp m hm)
  | write g k ih => exact ⟨hp.1, ih hp.2⟩
  | call c k ih => exact ⟨hp.1, fun r hr => ih r (hp.2 r hr)⟩

theorem Keeps.bind {p : Prog γ Ans α} {f : α → Prog γ Ans β} (hp : p.Keeps P R)
    (hf : ∀ a, R a → (f a).Keeps P S) : (p >>= f).Keeps P S :=
  (keeps_bind p f).mpr (hp.mono hf)

/-- What a program touches whatever it relies on, it touches under a policy. -/
theorem Uses.keeps {p : Prog γ Ans α} (hp : p.Uses W K) (hW : ∀ f, W f → P.writes f)
    (hK : ∀ c, K c → P.calls c) : p.Keeps P fun _ => True := by
  induction p with
  | ret a => trivial
  | read k ih => exact fun m _ => ih m (hp m)
  | write g k ih => exact ⟨hW g hp.1, ih hp.2⟩
  | call c k ih => exact ⟨hK c hp.1, fun r _ => ih r (hp.2 r)⟩

theorem keeps_ite (c : Prop) [Decidable c] {p q : Prog γ Ans α} (hp : c → p.Keeps P R)
    (hq : ¬ c → q.Keeps P R) : (if c then p else q).Keeps P R := by
  split
  next h => exact hp h
  next h => exact hq h

end Prog

end CallProgram
