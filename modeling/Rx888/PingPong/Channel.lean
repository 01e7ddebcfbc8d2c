import Mathlib.Data.Nat.Bits
import Mathlib.Logic.Function.Basic

/-! # A channel from two sockets to one consumer

A socket fills buffers of a fixed size. The consumer takes the full buffers of the two sockets by
turns. When they were filled by turns too, it gets them in the order of their filling.
-/

namespace PingPong

variable {α β : Type}

/-! ## Taking turns -/

/-- Every other one of a list, with the first at turn `k`: those at turn `t`. -/
def byTurns (t k : Bool) : List β → List β
  | [] => []
  | b :: bs => if k = t then b :: byTurns t (!k) bs else byTurns t (!k) bs

theorem byTurns_concat (t k : Bool) (bs : List β) (b : β) :
    byTurns t k (bs ++ [b]) =
      byTurns t k bs ++ if (k ^^ bs.length.bodd) = t then [b] else [] := by
  induction bs generalizing k with
  | nil => simp [byTurns]
  | cons c bs ih =>
      have turn : (!k ^^ bs.length.bodd) = (k ^^ (bs.length + 1).bodd) := by
        rw [Nat.bodd_succ]
        cases k <;> simp
      rw [List.cons_append, byTurns, byTurns, ih, List.length_cons, turn]
      split <;> rfl

/-! ## Sockets -/

/-- The buffer that is being filled, and the full ones, oldest first. -/
structure Socket (α : Type) where
  filling : List α
  full : List (List α)

variable (size : Nat)

def Socket.push (x : α) (s : Socket α) : Socket α :=
  if s.filling.length + 1 = size then ⟨[], s.full ++ [s.filling ++ [x]]⟩
  else ⟨s.filling ++ [x], s.full⟩

structure Channel (α : Type) where
  socket : Bool → Socket α
  received : List (List α)

namespace Channel

def empty : Channel α := ⟨fun _ => ⟨[], []⟩, []⟩

def turn (c : Channel α) : Bool := c.received.length.bodd

def put (c : Channel α) (t : Bool) (s : Socket α) : Channel α :=
  ⟨Function.update c.socket t s, c.received⟩

def push (c : Channel α) (t : Bool) (x : α) : Channel α :=
  c.put t ((c.socket t).push size x)

def take (c : Channel α) : Channel α :=
  match (c.socket c.turn).full with
  | [] => c
  | b :: rest => ⟨(c.put c.turn ⟨(c.socket c.turn).filling, rest⟩).socket, c.received ++ [b]⟩

/-- The full buffers hold what is still to come, by turns. -/
def Queued (c : Channel α) (pending : List (List α)) : Prop :=
  ∀ t, (c.socket t).full = byTurns t c.turn pending

variable {size} {c : Channel α} {pending : List (List α)} {x : α} {t : Bool} {s : Socket α}

@[simp] theorem put_received : (c.put t s).received = c.received := rfl

@[simp] theorem put_turn : (c.put t s).turn = c.turn := rfl

@[simp] theorem put_self : (c.put t s).socket t = s := Function.update_self ..

theorem put_of_ne {t' : Bool} (other : t' ≠ t) : (c.put t s).socket t' = c.socket t' :=
  Function.update_of_ne other ..

theorem put_put (s s' : Socket α) : (c.put t s).put t s' = c.put t s' := by
  unfold put
  rw [Function.update_idem]

/-! ## Taking a buffer -/

theorem take_nil (full : (c.socket c.turn).full = []) : c.take = c := by
  simp only [take, full]

theorem take_cons {b : List α} {rest : List (List α)} (full : (c.socket c.turn).full = b :: rest) :
    c.take = ⟨(c.put c.turn ⟨(c.socket c.turn).filling, rest⟩).socket, c.received ++ [b]⟩ := by
  simp only [take, full]

theorem filling_take (c : Channel α) (t : Bool) :
    (c.take.socket t).filling = (c.socket t).filling := by
  cases full : (c.socket c.turn).full with
  | nil => rw [take_nil full]
  | cons b rest =>
      rw [take_cons full]
      show ((c.put c.turn _).socket t).filling = _
      by_cases same : t = c.turn
      · subst same
        rw [put_self]
      · rw [put_of_ne same]

/-- The consumer takes the oldest buffer, if any is full. -/
theorem Queued.take (queued : c.Queued pending) :
    (pending = [] ∧ c.take = c) ∨
      ∃ b rest, pending = b :: rest ∧ c.take.received = c.received ++ [b] ∧
        c.take.Queued rest := by
  have here := queued c.turn
  cases pending with
  | nil => exact .inl ⟨rfl, take_nil here⟩
  | cons b rest =>
      right
      rw [byTurns, if_pos rfl] at here
      refine ⟨b, rest, rfl, ?_, ?_⟩
      · rw [take_cons here]
      · intro t
        have turn : c.take.turn = !c.turn := by
          rw [take_cons here]
          simp [Channel.turn]
        have there := queued t
        rw [byTurns] at there
        rw [turn, take_cons here]
        show ((c.put c.turn _).socket t).full = _
        by_cases same : t = c.turn
        · subst same
          rw [put_self]
        · rw [if_neg (Ne.symm same)] at there
          rw [put_of_ne same, there]

/-! ## Pushing a word -/

theorem push_within (within : (c.socket t).filling.length + 1 ≠ size) :
    c.push size t x = c.put t ⟨(c.socket t).filling ++ [x], (c.socket t).full⟩ := by
  simp only [push, Socket.push, within, ↓reduceIte]

theorem push_last (last : (c.socket t).filling.length + 1 = size) :
    c.push size t x = c.put t ⟨[], (c.socket t).full ++ [(c.socket t).filling ++ [x]]⟩ := by
  simp only [push, Socket.push, last, ↓reduceIte]

/-- What is still to come stays as long as no buffer is filled. -/
theorem Queued.put (queued : c.Queued pending) (filling : List α) :
    (c.put t ⟨filling, (c.socket t).full⟩).Queued pending := by
  intro t'
  rw [put_turn]
  by_cases same : t' = t
  · subst same
    rw [put_self]
    exact queued t'
  · rw [put_of_ne same]
    exact queued t'

/-- A buffer that is filled at its turn comes after those that are still to come. -/
theorem Queued.concat {b : List α} (queued : c.Queued pending)
    (turn : (c.turn ^^ pending.length.bodd) = t) :
    (c.put t ⟨[], (c.socket t).full ++ [b]⟩).Queued (pending ++ [b]) := by
  intro t'
  rw [byTurns_concat, put_turn]
  by_cases same : t' = t
  · subst same
    rw [put_self, if_pos turn, ← queued t']
  · have other : ¬(c.turn ^^ pending.length.bodd) = t' := by
      rw [turn]
      exact Ne.symm same
    rw [put_of_ne same, if_neg other, List.append_nil]
    exact queued t'

end Channel

end PingPong
