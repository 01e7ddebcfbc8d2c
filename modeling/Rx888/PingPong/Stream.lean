import Rx888.PingPong.Reader
import Rx888.PingPong.Channel

/-! # The stream that the consumer gets

The reader pushes words into the sockets of the channel, where they are stored as long as the socket
is ready. When a socket becomes ready is left open; once its buffer is partly filled it stays so.
The invariant says which words are in which buffer, and every clock keeps it.
-/

namespace PingPong

open Synchronous

variable {α ε ι σ τ ο : Type}

/-! ## A machine that feeds a channel -/

/-- How a machine is wired to a channel: what it is given on a clock, which sockets are ready, which
socket it pushes the word of the clock into, and whether the consumer takes a buffer. -/
structure Wiring (ε ι ο α : Type) where
  inputs : ε → ι
  ready : ε → Bool → Bool
  push : ο → Option Bool
  word : ε → α
  takes : ε → Bool

namespace Wiring

variable (w : Wiring ε ι ο α) (size : Nat)

/-- A word that is pushed into a socket that is not ready is lost. -/
def pushed (c : Channel α) (o : ο) (e : ε) : Channel α :=
  match w.push o with
  | none => c
  | some t => if w.ready e t then c.push size t (w.word e) else c

def after (c : Channel α) (o : ο) (e : ε) : Channel α :=
  if w.takes e then (w.pushed size c o e).take else w.pushed size c o e

def feed (m : Machine ι σ ο) : Machine ε (σ × Channel α) (ο × Channel α) where
  next e x := (m.next (w.inputs e) x.1, w.after size x.2 (m.out x.1) e)
  out x := (m.out x.1, x.2)

/-- Machines that look the same from outside drive the channel in the same way. -/
def simulation {impl : Machine ι σ ο} {spec : Machine ι τ ο} (sim : Simulation impl spec) :
    Simulation (w.feed size impl) (w.feed size spec) where
  rel x y := sim.rel x.1 y.1 ∧ x.2 = y.2
  next e x y related := by
    obtain ⟨s, c⟩ := x
    obtain ⟨t, c'⟩ := y
    obtain ⟨related, rfl⟩ := related
    refine ⟨sim.next _ s t related, ?_⟩
    show w.after size c (impl.out s) e = w.after size c (spec.out t) e
    rw [sim.out s t related]
  out x y related := by
    show (impl.out x.1, x.2) = (spec.out y.1, y.2)
    rw [sim.out x.1 y.1 related.1, related.2]

end Wiring

/-! ## What has been recorded -/

/-- The words are the buffers in their order, each whole, and words that were lost between. -/
inductive Recorded (size : Nat) : List (List α) → List α → Prop where
  | nil : Recorded size [] []
  | lost {blocks : List (List α)} {words : List α} (x : α) (recorded : Recorded size blocks words) :
      Recorded size blocks (words ++ [x])
  | block {blocks : List (List α)} {words : List α} {b : List α} (whole : b.length = size)
      (recorded : Recorded size blocks words) : Recorded size (blocks ++ [b]) (words ++ b)

namespace Recorded

variable {size : Nat} {blocks blocks' : List (List α)} {words : List α}

theorem losts (recorded : Recorded size blocks words) (xs : List α) :
    Recorded size blocks (words ++ xs) := by
  induction xs generalizing words with
  | nil =>
      rw [List.append_nil]
      exact recorded
  | cons x xs ih =>
      rw [List.append_cons]
      exact ih (recorded.lost x)

/-- The buffers that were recorded first. -/
theorem earlier (recorded : Recorded size (blocks ++ blocks') words) :
    Recorded size blocks words := by
  generalize all : blocks ++ blocks' = bs at recorded
  induction recorded generalizing blocks' with
  | nil =>
      obtain ⟨rfl, -⟩ := List.append_eq_nil_iff.mp all
      exact .nil
  | lost x _ ih => exact (ih all).lost x
  | @block bs words b whole recorded ih =>
      rcases List.eq_nil_or_concat blocks' with rfl | ⟨rest, b', rfl⟩
      · rw [List.append_nil] at all
        subst all
        exact recorded.block whole
      · rw [List.concat_eq_append, ← List.append_assoc] at all
        exact (ih (List.append_inj' all rfl).1).losts b

end Recorded

/-! ## The invariant -/

def Place.socket : Place → Option Bool
  | load t | read t | busy t | wait t => some t
  | _ => none

def Place.takes (ready : Bool → Bool) : Place → Bool
  | load t => ready t
  | read _ => true
  | _ => false

/-- A socket whose buffer is partly filled is ready. -/
def OpenReady (ready : Bool → Bool) (c : Channel α) : Prop :=
  ∀ t, (c.socket t).filling ≠ [] → ready t = true

/-- What the reader and the channel have made of the words so far: `R` relates the buffers filled to
the words before the open one. -/
structure Aligned (limit size : Nat) (R : List (List α) → List α → Prop) (r : Reader)
    (c : Channel α) (words : List α) (blocks pending : List (List α)) (before current : List α) :
    Prop where
  related : R blocks before
  words_eq : words = before ++ current
  blocks_eq : blocks = c.received ++ pending
  queued : c.Queued pending
  filling : ∀ t, (c.socket t).filling = if r.place = .read t then current else []
  open_ : ∀ t, r.place = .read t → current.length = r.count + 1 ∧ r.count ≤ limit
  closed : (∀ t, r.place ≠ .read t) → current = []
  turn : ∀ t, r.place.socket = some t → blocks.length.bodd = t
  fresh : r.place.socket = none → blocks = []

/-- Nothing is filled any more. -/
structure Stopped (R : List (List α) → List α → Prop) (r : Reader) (c : Channel α)
    (words : List α) (blocks pending : List (List α)) : Prop where
  idle : r.place = .idle
  related : ∃ before lost, R blocks before ∧ words = before ++ lost
  blocks_eq : blocks = c.received ++ pending
  queued : c.Queued pending

section Step

variable {limit size : Nat} {R : List (List α) → List α → Prop} {r : Reader}
  {c : Channel α} {words : List α} {blocks pending : List (List α)} {before current : List α}
  {i : Inputs} {x : α} {t : Bool} {n : Nat}

theorem Aligned.pass
    (aligned : Aligned limit size R r c words blocks pending before current)
    (lost : R blocks (before ++ [x])) (away : ∀ t, r.place ≠ .read t) (r' : Reader)
    (away' : ∀ t, r'.place ≠ .read t)
    (turn : ∀ t, r'.place.socket = some t → blocks.length.bodd = t)
    (fresh : r'.place.socket = none → blocks = []) :
    Aligned limit size R r' c (words ++ [x]) blocks pending (before ++ [x]) [] := by
  have none_ := aligned.closed away
  constructor
  · exact lost
  · rw [aligned.words_eq, none_, List.append_nil, List.append_nil]
  · exact aligned.blocks_eq
  · exact aligned.queued
  · intro t
    rw [aligned.filling t, none_, ite_self, ite_self]
  · exact fun t reads => absurd reads (away' t)
  · exact fun _ => rfl
  · exact turn
  · exact fresh

theorem Aligned.first
    (aligned : Aligned limit size R ⟨.load t, n⟩ c words blocks pending before current)
    (large : 1 < size) :
    Aligned limit size R ⟨.read t, 0⟩ (c.push size t x) (words ++ [x]) blocks
      pending before [x] := by
  have none_ := aligned.closed (by simp)
  have filling : (c.socket t).filling = [] := by
    rw [aligned.filling t, none_, ite_self]
  have within : (c.socket t).filling.length + 1 ≠ size := by
    rw [filling, List.length_nil]
    omega
  rw [Channel.push_within within, filling, List.nil_append]
  constructor
  · exact aligned.related
  · rw [aligned.words_eq, none_, List.append_nil]
  · exact aligned.blocks_eq
  · exact aligned.queued.put _
  · intro t'
    by_cases same : t' = t
    · subst same
      simp
    · have other : Place.read t ≠ .read t' := by simp [Ne.symm same]
      rw [Channel.put_of_ne same, aligned.filling t', none_, ite_self, if_neg other]
  · intro t' reads
    cases reads
    exact ⟨rfl, Nat.zero_le _⟩
  · exact fun away => absurd rfl (away t)
  · exact aligned.turn
  · exact fun none_ => nomatch none_

theorem Aligned.within
    (aligned : Aligned limit size R ⟨.read t, n⟩ c words blocks pending before current)
    (size_eq : size = limit + 2) (below : n ≠ limit) :
    Aligned limit size R ⟨.read t, n + 1⟩ (c.push size t x) (words ++ [x]) blocks pending before
      (current ++ [x]) := by
  obtain ⟨length, bound⟩ := aligned.open_ t rfl
  have filling : (c.socket t).filling = current := by
    rw [aligned.filling t, if_pos rfl]
  have within : (c.socket t).filling.length + 1 ≠ size := by
    rw [filling, length, size_eq]
    show n + 1 + 1 ≠ limit + 2
    omega
  rw [Channel.push_within within, filling]
  constructor
  · exact aligned.related
  · rw [aligned.words_eq, List.append_assoc]
  · exact aligned.blocks_eq
  · exact aligned.queued.put _
  · intro t'
    by_cases same : t' = t
    · subst same
      simp
    · have other : Place.read t ≠ .read t' := by simp [Ne.symm same]
      rw [Channel.put_of_ne same, aligned.filling t', if_neg other, if_neg other]
  · intro t' reads
    cases reads
    constructor
    · rw [List.length_append, length]
      rfl
    · have bound : n ≤ limit := bound
      show n + 1 ≤ limit
      omega
  · exact fun away => absurd rfl (away t)
  · exact aligned.turn
  · exact fun none_ => nomatch none_

theorem Aligned.last
    (aligned : Aligned limit size R ⟨.read t, limit⟩ c words blocks pending before current)
    (size_eq : size = limit + 2)
    (block : ∀ b, b.length = size → R blocks before → R (blocks ++ [b]) (before ++ b)) :
    Aligned limit size R ⟨.load (!t), limit⟩ (c.push size t x) (words ++ [x])
      (blocks ++ [current ++ [x]]) (pending ++ [current ++ [x]]) (before ++ (current ++ [x]))
      [] := by
  obtain ⟨length, -⟩ := aligned.open_ t rfl
  have turn := aligned.turn t rfl
  have filling : (c.socket t).filling = current := by
    rw [aligned.filling t, if_pos rfl]
  have whole : (current ++ [x]).length = size := by
    rw [List.length_append, length, size_eq]
    rfl
  have last : (c.socket t).filling.length + 1 = size := by
    rw [filling, ← whole, List.length_append]
    rfl
  have next : (c.turn ^^ pending.length.bodd) = t := by
    rw [← turn, aligned.blocks_eq, List.length_append, Nat.bodd_add]
    rfl
  rw [Channel.push_last last, filling]
  constructor
  · exact block _ whole aligned.related
  · rw [aligned.words_eq, List.append_nil, List.append_assoc]
  · rw [aligned.blocks_eq, List.append_assoc]
    rfl
  · exact aligned.queued.concat next
  · intro t'
    rw [ite_self]
    by_cases same : t' = t
    · subst same
      simp
    · have other : Place.read t ≠ .read t' := by simp [Ne.symm same]
      rw [Channel.put_of_ne same, aligned.filling t', if_neg other]
  · exact fun _ reads => nomatch reads
  · exact fun _ => rfl
  · intro t' here
    cases here
    rw [List.length_append, List.length_singleton, Nat.bodd_succ, turn]
  · exact fun none_ => nomatch none_

/-- What is kept from clock to clock while the reader works, and when it has come to rest. -/
def Going (limit size : Nat) (R : List (List α) → List α → Prop) (r : Reader)
    (c : Channel α) (words : List α) : Prop :=
  ∃ blocks pending before current,
    Aligned limit size R r c words blocks pending before current

def Ended (R : List (List α) → List α → Prop) (r : Reader) (c : Channel α) (words : List α) :
    Prop :=
  ∃ blocks pending, Stopped R r c words blocks pending

def driven (size : Nat) (ready : Bool → Bool) (r : Reader) (c : Channel α) (x : α) : Channel α :=
  match r.place.push with
  | none => c
  | some t => if ready t then c.push size t x else c

theorem Going.clock (going : Going limit size R r c words) (size_eq : size = limit + 2)
    {ready : Bool → Bool} (holds : OpenReady ready c)
    (block : ∀ blocks before b, b.length = size → R blocks before → R (blocks ++ [b]) (before ++ b))
    (lost : r.place.takes ready = false →
      ∀ blocks before, R blocks before → R blocks (before ++ [x]))
    (go : Bool) :
    Going limit size R (r.clock limit ⟨go, ready⟩) (driven size ready r c x) (words ++ [x]) ∨
      (go = false ∧
        Ended R (r.clock limit ⟨go, ready⟩) (driven size ready r c x) (words ++ [x])) := by
  obtain ⟨blocks, pending, before, current, aligned⟩ := going
  obtain ⟨place, n⟩ := r
  cases place with
  | reset =>
      have gap := lost rfl blocks before aligned.related
      have fresh := aligned.fresh rfl
      exact .inl ⟨_, _, _, _, aligned.pass gap (by simp) ⟨.idle, n⟩ (by simp)
        (fun _ at_ => nomatch at_) fun _ => fresh⟩
  | idle =>
      have gap := lost rfl blocks before aligned.related
      have fresh := aligned.fresh rfl
      left
      cases go with
      | true =>
          refine ⟨_, _, _, _, aligned.pass gap (by simp) ⟨.load false, n⟩ (by simp) ?_
            fun none_ => nomatch none_⟩
          intro t at_
          cases at_
          rw [fresh, List.length_nil, Nat.bodd_zero]
      | false =>
          exact ⟨_, _, _, _, aligned.pass gap (by simp) ⟨.idle, n⟩ (by simp)
            (fun _ at_ => nomatch at_) fun _ => fresh⟩
  | load t =>
      left
      cases up : ready t with
      | true =>
          have stored : driven size ready ⟨.load t, n⟩ c x = c.push size t x := if_pos up
          rw [Reader.clock_load_ready up, stored]
          exact ⟨_, _, _, _, aligned.first (by omega)⟩
      | false =>
          have gap := lost up blocks before aligned.related
          have dropped : driven size ready ⟨.load t, n⟩ c x = c := if_neg (by simp [up])
          rw [Reader.clock_load_busy up, dropped]
          exact ⟨_, _, _, _, aligned.pass gap (by simp) _ (by simp) aligned.turn
            fun none_ => nomatch none_⟩
  | read t =>
      have partly : (c.socket t).filling ≠ [] := by
        have length := (aligned.open_ t rfl).1
        rw [aligned.filling t, if_pos rfl]
        exact List.ne_nil_of_length_pos (by omega)
      have stored : driven size ready ⟨.read t, n⟩ c x = c.push size t x := if_pos (holds t partly)
      rw [stored]
      by_cases hit : n = limit
      · left
        subst hit
        rw [Reader.clock_read_hit]
        exact ⟨_, _, _, _, aligned.last size_eq fun b => block blocks before b⟩
      · have read := aligned.within size_eq hit (x := x)
        cases go with
        | true =>
            left
            rw [Reader.clock_read_on hit rfl]
            exact ⟨_, _, _, _, read⟩
        | false =>
            rw [Reader.clock_read_stop hit rfl]
            exact .inr ⟨rfl, _, _, rfl, ⟨_, _, read.related, read.words_eq⟩, read.blocks_eq,
              read.queued⟩
  | busy t =>
      have gap := lost rfl blocks before aligned.related
      exact .inl ⟨_, _, _, _, aligned.pass gap (by simp) ⟨.wait t, n⟩ (by simp) aligned.turn
        fun none_ => nomatch none_⟩
  | wait t =>
      have gap := lost rfl blocks before aligned.related
      have none_ := aligned.closed (by simp)
      have clock : Reader.clock limit ⟨go, ready⟩ ⟨.wait t, n⟩ =
          ⟨if ready t then .load t else if go then .wait t else .idle, n⟩ := rfl
      rw [clock]
      cases ready t with
      | true =>
          exact .inl ⟨_, _, _, _, aligned.pass gap (by simp) ⟨.load t, n⟩ (by simp) aligned.turn
            fun none_ => nomatch none_⟩
      | false =>
          cases go with
          | true =>
              exact .inl ⟨_, _, _, _, aligned.pass gap (by simp) ⟨.wait t, n⟩ (by simp)
                aligned.turn fun none_ => nomatch none_⟩
          | false =>
              refine .inr ⟨rfl, blocks, pending, rfl, ⟨before, [x], aligned.related, ?_⟩,
                aligned.blocks_eq, aligned.queued⟩
              rw [aligned.words_eq, none_, List.append_nil]

/-! ## Runs -/

theorem Going.take (going : Going limit size R r c words) :
    Going limit size R r c.take words := by
  obtain ⟨blocks, pending, before, current, aligned⟩ := going
  rcases aligned.queued.take with ⟨-, same⟩ | ⟨b, rest, rfl, received, queued⟩
  · rw [same]
    exact ⟨_, _, _, _, aligned⟩
  · refine ⟨blocks, rest, before, current, ?_⟩
    constructor
    · exact aligned.related
    · exact aligned.words_eq
    · rw [aligned.blocks_eq, received, List.append_assoc]
      rfl
    · exact queued
    · intro t
      rw [Channel.filling_take]
      exact aligned.filling t
    · exact aligned.open_
    · exact aligned.closed
    · exact aligned.turn
    · exact aligned.fresh

theorem Ended.take (ended : Ended R r c words) : Ended R r c.take words := by
  obtain ⟨blocks, pending, stopped⟩ := ended
  rcases stopped.queued.take with ⟨-, same⟩ | ⟨b, rest, rfl, received, queued⟩
  · rw [same]
    exact ⟨_, _, stopped⟩
  · refine ⟨blocks, rest, stopped.idle, stopped.related, ?_, queued⟩
    rw [stopped.blocks_eq, received, List.append_assoc]
    rfl

theorem Ended.clock (ended : Ended R r c words) (ready : Bool → Bool) :
    Ended R (r.clock limit ⟨false, ready⟩) (driven size ready r c x) (words ++ [x]) := by
  obtain ⟨blocks, pending, stopped⟩ := ended
  obtain ⟨before, lost, related, rfl⟩ := stopped.related
  have same : driven size ready r c x = c := by
    rw [driven, stopped.idle]
    rfl
  rw [same]
  refine ⟨blocks, pending, Reader.clock_idle rfl stopped.idle, ⟨before, lost ++ [x], related, ?_⟩,
    stopped.blocks_eq, stopped.queued⟩
  rw [List.append_assoc]

theorem going_empty (start : R [] words) (away : ∀ t, r.place ≠ .read t)
    (first : ∀ t, r.place.socket = some t → t = false) :
    Going limit size R r .empty words := by
  refine ⟨[], [], words, [], ?_⟩
  constructor
  · exact start
  · rw [List.append_nil]
  · rfl
  · exact fun _ => rfl
  · exact fun t => (if_neg (away t)).symm
  · exact fun t reads => absurd reads (away t)
  · exact fun _ => rfl
  · intro t at_
    rw [first t at_, List.length_nil, Nat.bodd_zero]
  · exact fun _ => rfl

theorem going_rest (start : R [] words) (none_ : r.place.socket = none) :
    Going limit size R r .empty words := by
  apply going_empty start
  · intro t reads
    rw [reads] at none_
    cases none_
  · intro t at_
    rw [none_] at at_
    cases at_

theorem Aligned.current_lt
    (aligned : Aligned limit size R r c words blocks pending before current)
    (size_eq : size = limit + 2) : current.length < size := by
  by_cases reads : ∃ t, r.place = .read t
  · obtain ⟨t, reads⟩ := reads
    obtain ⟨length, bound⟩ := aligned.open_ t reads
    omega
  · rw [aligned.closed fun t here => reads ⟨t, here⟩, List.length_nil]
    omega

end Step

end PingPong
