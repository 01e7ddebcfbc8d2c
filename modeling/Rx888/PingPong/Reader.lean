import Rx888.Synchronous.Machine

/-! # A reader that fills the buffers of two sockets by turns

The reader takes a word on every clock while it reads. The first word of a buffer clears the
counter, and at the limit the reader goes on with the other socket. A socket that is not ready for
the first word is busy, and waited for. The reader is sent to rest where it reads or waits.
-/

namespace PingPong

inductive Place where
  | reset
  | idle
  | load (socket : Bool)
  | read (socket : Bool)
  | busy (socket : Bool)
  | wait (socket : Bool)
  deriving DecidableEq, Repr

structure Inputs where
  go : Bool
  ready : Bool → Bool

structure Reader where
  place : Place
  count : Nat

def Place.push : Place → Option Bool
  | load t | read t => some t
  | _ => none

def Place.interrupts : Place → Bool
  | busy _ => true
  | _ => false

namespace Reader

variable (limit : Nat)

def next (i : Inputs) (r : Reader) : Place :=
  match r.place with
  | .reset => .idle
  | .idle => if i.go then .load false else .idle
  | .load t => if i.ready t then .read t else .busy t
  | .read t => if r.count = limit then .load (!t) else if i.go then .read t else .idle
  | .busy t => .wait t
  | .wait t => if i.ready t then .load t else if i.go then .wait t else .idle

def counted (r : Reader) : Nat :=
  match r.place with
  | .load _ => 0
  | .read _ => if r.count = limit then r.count else r.count + 1
  | _ => r.count

def clock (i : Inputs) (r : Reader) : Reader := ⟨r.next limit i, r.counted limit⟩

end Reader

def reader (limit : Nat) : Synchronous.Machine Inputs Reader Place where
  next := Reader.clock limit
  out := Reader.place

namespace Reader

variable {limit : Nat} {i : Inputs} {r : Reader} {n : Nat} {t : Bool}

theorem clock_load_ready (ready : i.ready t = true) :
    clock limit i ⟨.load t, n⟩ = ⟨.read t, 0⟩ := by
  simp [clock, next, counted, ready]

theorem clock_load_busy (full : i.ready t = false) :
    clock limit i ⟨.load t, n⟩ = ⟨.busy t, 0⟩ := by
  simp [clock, next, counted, full]

theorem clock_read_hit : clock limit i ⟨.read t, limit⟩ = ⟨.load (!t), limit⟩ := by
  simp [clock, next, counted]

theorem clock_read_on (below : n ≠ limit) (go : i.go = true) :
    clock limit i ⟨.read t, n⟩ = ⟨.read t, n + 1⟩ := by
  simp [clock, next, counted, below, go]

theorem clock_read_stop (below : n ≠ limit) (stop : i.go = false) :
    clock limit i ⟨.read t, n⟩ = ⟨.idle, n + 1⟩ := by
  simp [clock, next, counted, below, stop]

/-- The counter does not pass the limit while it counts. -/
def Bounded (limit : Nat) (r : Reader) : Prop := ∀ t, r.place = .read t → r.count ≤ limit

theorem Bounded.clock (bounded : Bounded limit r) (i : Inputs) :
    Bounded limit (r.clock limit i) := by
  obtain ⟨place, n⟩ := r
  intro t reads
  cases place with
  | load t' => exact Nat.zero_le _
  | read t' =>
      have bound : n ≤ limit := bounded t' rfl
      show (if n = limit then n else n + 1) ≤ limit
      split <;> omega
  | reset => cases reads
  | busy t' => cases reads
  | idle =>
      have next : (if i.go then Place.load false else .idle) = .read t := reads
      split at next <;> cases next
  | wait t' =>
      have next : (if i.ready t' then Place.load t' else if i.go then .wait t' else .idle) =
        .read t := reads
      split at next
      · cases next
      · split at next <;> cases next

/-! ## Coming to rest -/

/-- How many clocks it takes to come to rest as long as the sockets stay as they are. -/
def need (limit : Nat) (ready : Bool → Bool) (r : Reader) : Nat :=
  match r.place with
  | .idle => 0
  | .reset => 1
  | .load t => if ready t then 2 else 3
  | .read _ => if r.count = limit then 4 else 1
  | .busy t => if ready t then 4 else 2
  | .wait t => if ready t then 3 else 1

theorem need_le (ready : Bool → Bool) (r : Reader) : r.need limit ready ≤ 4 := by
  unfold need
  split <;> (try split) <;> omega

theorem clock_idle (stop : i.go = false) (idle : r.place = .idle) :
    (r.clock limit i).place = .idle := by
  show r.next limit i = .idle
  simp [next, idle, stop]

/-- Whether a socket has become ready, or full. -/
def changed (ready ready' : Bool → Bool) : Bool :=
  ready false != ready' false || ready true != ready' true

theorem eq_of_unchanged {ready ready' : Bool → Bool} (same : changed ready ready' = false)
    (t : Bool) : ready' t = ready t := by
  simp only [changed, Bool.or_eq_false_iff, bne_eq_false_iff_eq] at same
  cases t
  · exact same.1.symm
  · exact same.2.symm

/-- A clock brings the reader nearer to rest unless the sockets change. -/
theorem need_clock (positive : 0 < limit) (stop : i.go = false) (moving : r.place ≠ .idle)
    (ready : Bool → Bool) :
    (r.clock limit i).need limit ready + 1 ≤
      r.need limit i.ready + if changed i.ready ready then 3 else 0 := by
  obtain ⟨place, n⟩ := r
  have same (unchanged : changed i.ready ready = false) := eq_of_unchanged unchanged
  cases place with
  | idle => exact absurd rfl moving
  | reset => exact Nat.le_add_right _ _
  | load t =>
      have first : 0 ≠ limit := by omega
      cases here : i.ready t with
      | true =>
          rw [clock_load_ready here]
          simp [need, here, first]
      | false =>
          rw [clock_load_busy here]
          cases unchanged : changed i.ready ready with
          | true => cases later : ready t <;> simp [need, here, later]
          | false => simp [need, here, same unchanged]
  | read t =>
      by_cases hit : n = limit
      · subst hit
        rw [clock_read_hit]
        cases later : ready (!t) with
        | true =>
            simp only [need, later, ↓reduceIte]
            omega
        | false =>
            simp only [need, later, Bool.false_eq_true, ↓reduceIte]
            omega
      · rw [clock_read_stop hit stop]
        simp [need, hit]
  | busy t =>
      show need limit ready ⟨.wait t, n⟩ + 1 ≤ _
      cases unchanged : changed i.ready ready with
      | true => cases here : i.ready t <;> cases later : ready t <;> simp [need, here, later]
      | false => cases here : i.ready t <;> simp [need, here, same unchanged]
  | wait t =>
      cases here : i.ready t with
      | true =>
          have loads : clock limit i ⟨.wait t, n⟩ = ⟨.load t, n⟩ := by
            simp [clock, next, counted, here]
          rw [loads]
          cases unchanged : changed i.ready ready with
          | true => cases later : ready t <;> simp [need, here, later]
          | false => simp [need, here, same unchanged]
      | false =>
          have rests : clock limit i ⟨.wait t, n⟩ = ⟨.idle, n⟩ := by
            simp [clock, next, counted, here, stop]
          rw [rests]
          simp [need, here]

/-- How often the sockets change from one clock to the next. -/
def changes : List Inputs → Nat
  | i :: j :: inputs => (if changed i.ready j.ready then 1 else 0) + changes (j :: inputs)
  | _ => 0

theorem run_idle {inputs : List Inputs} (stop : ∀ i ∈ inputs, i.go = false)
    (idle : r.place = .idle) : ((reader limit).run r inputs).place = .idle := by
  have kept (i : Inputs) (s : Reader) (stop : i.go = false) (idle : s.place = .idle) :
      ((reader limit).next i s).place = .idle :=
    clock_idle stop idle
  exact Synchronous.Machine.run_invariant kept stop idle

theorem idle_of_need {ready : Bool → Bool} (none_ : r.need limit ready = 0) :
    r.place = .idle := by
  obtain ⟨place, n⟩ := r
  cases place with
  | idle => rfl
  | reset => cases none_
  | load t | read t | busy t | wait t =>
      simp only [need] at none_
      split at none_ <;> cases none_

/-- Told to stop, the reader comes to rest in so many clocks, and in three more for each time that
the sockets change. -/
theorem run_settles (positive : 0 < limit) {inputs : List Inputs} (i : Inputs) (r : Reader)
    (stop : ∀ j ∈ i :: inputs, j.go = false)
    (enough : r.need limit i.ready + 3 * changes (i :: inputs) ≤ inputs.length + 1) :
    ((reader limit).run r (i :: inputs)).place = .idle := by
  induction inputs generalizing i r with
  | nil =>
      by_cases idle : r.place = .idle
      · exact run_idle stop idle
      · have nearer := need_clock positive (stop i List.mem_cons_self) idle i.ready
        have steady : changed i.ready i.ready = false := by simp [changed]
        rw [if_neg (by simp [steady])] at nearer
        simp only [changes, List.length_nil] at enough
        have rests : (r.clock limit i).need limit i.ready = 0 := by omega
        exact idle_of_need rests
  | cons j inputs ih =>
      by_cases idle : r.place = .idle
      · exact run_idle stop idle
      · obtain ⟨here, later⟩ := List.forall_mem_cons.mp stop
        have nearer := need_clock positive here idle j.ready
        apply ih j (r.clock limit i) later
        simp only [changes, List.length_cons] at enough
        cases turn : changed i.ready j.ready <;> simp [turn] at nearer enough <;> omega

/-- From anywhere, four clocks are enough where the sockets stay as they are. -/
theorem run_stops (positive : 0 < limit) {inputs : List Inputs} (r : Reader)
    (stop : ∀ i ∈ inputs, i.go = false) (enough : 4 + 3 * changes inputs ≤ inputs.length) :
    ((reader limit).run r inputs).place = .idle := by
  cases inputs with
  | nil => simp at enough
  | cons i inputs =>
      apply run_settles positive i r stop
      have most : r.need limit i.ready ≤ 4 := r.need_le i.ready
      rw [List.length_cons] at enough
      omega

end Reader

end PingPong
