import Rx888.CallProgram.Run

/-! # Counters that follow the calls

A tally is folded over the answered calls of a run. A program keeps it when, over every run from
a memory that shows the tally so far, the memory left behind shows the tally of the calls made
since. The relation between the memory and the tally is a parameter, so a counter may wrap around.
-/

namespace CallProgram

variable {γ η : Type} {C : Type} {Ans : C → Type} {α β σ : Type}

/-- From a memory that shows `n`, every run of the program leaves one that shows what the calls
of the run make of `n`. -/
def Prog.Tallies (E : Env γ η Ans) (shows : γ → σ → Prop) (f : σ → Transition γ η Ans → σ)
    (p : Prog γ Ans α) : Prop :=
  ∀ s n, shows s.mem n → p.Ensures E (fun tr _ s' => shows s'.mem (tr.foldl f n)) s

namespace Prog

variable {E : Env γ η Ans} {shows : γ → σ → Prop} {f : σ → Transition γ η Ans → σ}
variable {p q : Prog γ Ans α} {k : α → Prog γ Ans β}

theorem tallies_pure (a : α) : (pure a : Prog γ Ans α).Tallies E shows f :=
  fun _ _ shown => shown

theorem Tallies.bind (hp : p.Tallies E shows f) (hk : ∀ a, (k a).Tallies E shows f) :
    (p >>= k).Tallies E shows f := by
  intro s n shown
  apply (hp s n shown).bind
  intro tr a s₁ shown₁
  apply ensures_mono (hk a s₁ _ shown₁)
  intro tr' b s' shown'
  rw [List.foldl_append]
  exact shown'

theorem Tallies.ite {c : Prop} [Decidable c] (hp : c → p.Tallies E shows f)
    (hq : ¬ c → q.Tallies E shows f) : (if c then p else q).Tallies E shows f := by
  split
  next h => exact hp h
  next h => exact hq h

/-- A program keeps the tally when its writes leave what is shown alone and the calls it makes
count for nothing. -/
theorem tallies_of_uses {W : (γ → γ) → Prop} {K : C → Prop} (uses : p.Uses W K)
    (writes : ∀ g m n, W g → shows m n → shows (g m) n)
    (calls : ∀ s c r n, K c → E.allows s c r → shows s.mem n → shows (E.exec s c r).mem n)
    (apart : ∀ t n, K t.call → f n t = n) : p.Tallies E shows f := by
  intro s n shown
  apply ensures_of_runs
  intro tr a s' runs
  have same : tr.foldl f n = n := by
    have made := runs.calls uses
    clear runs
    induction tr with
    | nil => rfl
    | cons t tr ih =>
        rw [List.foldl_cons, apart t n (made t List.mem_cons_self)]
        exact ih fun u hu => made u (List.mem_cons_of_mem t hu)
  rw [same]
  exact runs.frame (fun s => shows s.mem n) uses (fun g s w shown => writes g s.mem n w shown)
    (fun s c r made allowed shown => calls s c r n made allowed shown) shown

theorem tallies_call_bind {c : C} {k : Ans c → Prog γ Ans α}
    (counts : ∀ s r n, E.allows s c r → shows s.mem n →
      (k r).Ensures E (fun tr _ s' => shows s'.mem (tr.foldl f (f n ⟨s, c, r⟩))) (E.exec s c r)) :
    (Prog.call c k).Tallies E shows f :=
  fun s n shown r allowed => counts s r n allowed shown

theorem Tallies.run {s s' : State γ η} {tr : List (Transition γ η Ans)} {a : α} {n : σ}
    (h : p.Tallies E shows f) (runs : Runs E p s tr a s') (shown : shows s.mem n) :
    shows s'.mem (tr.foldl f n) :=
  runs.ensures (h s n shown)

end Prog

end CallProgram
