import Rx888.PingPong.Stream

/-! # Runs of the recorder

Every buffer that reaches the consumer holds words that were there on consecutive clocks, and the
buffers come in the order of their words; words are lost between two buffers only, and none as long
as the reader does not interrupt.
-/

namespace PingPong

open Synchronous

variable {α ε : Type}

variable (go : ε → Bool) (ready : ε → Bool → Bool) (word : ε → α) (takes : ε → Bool)

def drive : Wiring ε Inputs Place α where
  inputs e := ⟨go e, ready e⟩
  ready := ready
  push := Place.push
  word := word
  takes := takes

def recorder (limit size : Nat) : Machine ε (Reader × Channel α) (Place × Channel α) :=
  (drive go ready word takes).feed size (reader limit)

variable {go ready word takes} {limit size : Nat} {R : List (List α) → List α → Prop} {r : Reader}
  {c : Channel α} {words : List α}

theorem recorder_next (e : ε) (r : Reader) (c : Channel α) :
    (recorder go ready word takes limit size).next e (r, c) =
      (r.clock limit ⟨go e, ready e⟩,
        if takes e then (driven size (ready e) r c (word e)).take
        else driven size (ready e) r c (word e)) :=
  rfl

variable (go word takes) in
theorem Going.next (going : Going limit size R r c words) (size_eq : size = limit + 2) (e : ε)
    (holds : OpenReady (ready e) c)
    (block : ∀ blocks before b, b.length = size → R blocks before → R (blocks ++ [b]) (before ++ b))
    (lost : r.place.takes (ready e) = false →
      ∀ blocks before, R blocks before → R blocks (before ++ [word e])) :
    let x := (recorder go ready word takes limit size).next e (r, c)
    Going limit size R x.1 x.2 (words ++ [word e]) ∨
      (go e = false ∧ Ended R x.1 x.2 (words ++ [word e])) := by
  rw [recorder_next]
  have clock := going.clock size_eq holds block lost (go e)
  cases takes e with
  | false => exact clock
  | true =>
      rcases clock with going | ⟨stop, ended⟩
      · exact .inl going.take
      · exact .inr ⟨stop, ended.take⟩

theorem Ended.next (ended : Ended R r c words) {e : ε} (stop : go e = false) :
    let x := (recorder go ready word takes limit size).next e (r, c)
    Ended R x.1 x.2 (words ++ [word e]) := by
  have clock : Ended R (r.clock limit ⟨go e, ready e⟩) (driven size (ready e) r c (word e))
      (words ++ [word e]) := by
    rw [stop]
    exact ended.clock (ready e)
  rw [recorder_next]
  cases takes e with
  | false => exact clock
  | true => exact clock.take

theorem Ended.run (ended : Ended R r c words) {edges : List ε} (stop : ∀ e ∈ edges, go e = false) :
    let x := (recorder go ready word takes limit size).run (r, c) edges
    Ended R x.1 x.2 (words ++ edges.map word) := by
  induction edges generalizing r c words with
  | nil =>
      rw [List.map_nil, List.append_nil]
      exact ended
  | cons e edges ih =>
      obtain ⟨here, later⟩ := List.forall_mem_cons.mp stop
      rw [List.map_cons, List.append_cons]
      exact ih (ended.next here) later

/-- Told to stop, the reader is not told to go again. -/
def Falls (go : ε → Bool) (edges : List ε) : Prop :=
  edges.Pairwise fun e e' => go e' = true → go e = true

theorem Going.run (going : Going limit size (Recorded size) r c words)
    (size_eq : size = limit + 2) {edges : List ε} (falls : Falls go edges)
    (holds : (recorder go ready word takes limit size).Along
      (fun e x => OpenReady (ready e) x.2) (r, c) edges) :
    let x := (recorder go ready word takes limit size).run (r, c) edges
    Going limit size (Recorded size) x.1 x.2 (words ++ edges.map word) ∨
      Ended (Recorded size) x.1 x.2 (words ++ edges.map word) := by
  induction edges generalizing r c words with
  | nil =>
      rw [List.map_nil, List.append_nil]
      exact .inl going
  | cons e edges ih =>
      obtain ⟨first, later⟩ := List.pairwise_cons.mp falls
      obtain ⟨here, rest⟩ := holds
      rw [List.map_cons, List.append_cons]
      have step := going.next go word takes size_eq e here
        (fun _ _ _ whole recorded => recorded.block whole)
        (fun _ _ _ recorded => recorded.lost (word e))
      rcases step with going | ⟨stop, ended⟩
      · exact ih going later rest
      · right
        apply ended.run
        intro e' mem
        by_contra goes
        rw [Bool.not_eq_false] at goes
        rw [first e' mem goes] at stop
        cases stop

theorem rest_next {e : ε} (stop : go e = false) (none_ : r.place.socket = none) :
    (recorder go ready word takes limit size).next e (r, .empty) = (⟨.idle, r.count⟩, .empty) := by
  obtain ⟨place, n⟩ := r
  rw [recorder_next, stop]
  cases place with
  | reset | idle => cases takes e <;> rfl
  | load t | read t | busy t | wait t => cases none_

/-- Until the reader is told to go, nothing happens to an empty channel. -/
theorem run_rest {first : ε} {edges : List ε} (rest : ∀ e ∈ first :: edges, go e = false)
    (none_ : r.place.socket = none) :
    (recorder go ready word takes limit size).run (r, .empty) (first :: edges) =
      (⟨.idle, r.count⟩, .empty) := by
  induction edges generalizing r first with
  | nil => exact rest_next (rest first List.mem_cons_self) none_
  | cons e edges ih =>
      obtain ⟨here, later⟩ := List.forall_mem_cons.mp rest
      rw [Machine.run_cons, rest_next here none_]
      exact ih later rfl

/-- Whatever is recorded, the consumer has got the first buffers of it. -/
theorem Going.received (going : Going limit size (Recorded size) r c words) :
    Recorded size c.received words := by
  obtain ⟨blocks, pending, before, current, aligned⟩ := going
  have recorded := aligned.related
  rw [aligned.blocks_eq] at recorded
  rw [aligned.words_eq]
  exact recorded.earlier.losts current

theorem Ended.received (ended : Ended (Recorded size) r c words) :
    Recorded size c.received words := by
  obtain ⟨blocks, pending, stopped⟩ := ended
  obtain ⟨before, lost, recorded, rfl⟩ := stopped.related
  rw [stopped.blocks_eq] at recorded
  exact recorded.earlier.losts lost

/-- Every buffer that the consumer gets holds words that were there on consecutive clocks, and the
buffers are in the order of their words. -/
theorem run_recorded (size_eq : size = limit + 2) {rest stream : List ε}
    (resting : ∀ e ∈ rest, go e = false) (falls : Falls go stream) (none_ : r.place.socket = none)
    (holds : (recorder go ready word takes limit size).Along
      (fun e x => OpenReady (ready e) x.2) (r, .empty) (rest ++ stream)) :
    Recorded size
      ((recorder go ready word takes limit size).run (r, .empty) (rest ++ stream)).2.received
      ((rest ++ stream).map word) := by
  have start : Recorded size ([] : List (List α)) ([] ++ rest.map word) :=
    Recorded.nil.losts (rest.map word)
  have still : ∃ r' : Reader, r'.place.socket = none ∧
      (recorder go ready word takes limit size).run (r, .empty) rest = (r', .empty) := by
    cases rest with
    | nil => exact ⟨r, none_, rfl⟩
    | cons first edges => exact ⟨_, rfl, run_rest resting none_⟩
  obtain ⟨r', none_, run⟩ := still
  have streaming := ((Machine.along_append _).mp holds).2
  rw [run] at streaming
  rw [Machine.run_append, run, List.map_append]
  rcases (going_rest start none_).run size_eq falls streaming with going | ended
  · exact going.received
  · exact ended.received

/-! ## No word lost -/

/-- A word in a buffer on every clock. -/
def Gapless (size : Nat) (blocks : List (List α)) (words : List α) : Prop :=
  words = blocks.flatten ∧ ∀ b ∈ blocks, b.length = size

theorem Gapless.block {blocks : List (List α)} {before b : List α} (whole : b.length = size)
    (gapless : Gapless size blocks before) : Gapless size (blocks ++ [b]) (before ++ b) := by
  constructor
  · rw [gapless.1, List.flatten_append, List.flatten_singleton]
  · intro b' mem
    rcases List.mem_append.mp mem with mem | mem
    · exact gapless.2 b' mem
    · rw [List.mem_singleton.mp mem]
      exact whole

/-- The reader is at a word on every clock. -/
def Place.works : Place → Bool
  | load _ | read _ => true
  | _ => false

theorem works_next {e : ε} (works : r.place.works = true) (goes : go e = true)
    (calm : (r.clock limit ⟨go e, ready e⟩).place.interrupts = false) :
    (r.clock limit ⟨go e, ready e⟩).place.works = true ∧ r.place.takes (ready e) = true := by
  obtain ⟨place, n⟩ := r
  cases place with
  | load t =>
      cases up : ready e t with
      | true =>
          rw [Reader.clock_load_ready up]
          exact ⟨rfl, up⟩
      | false =>
          rw [Reader.clock_load_busy up] at calm
          cases calm
  | read t =>
      by_cases hit : n = limit
      · subst hit
        rw [Reader.clock_read_hit]
        exact ⟨rfl, rfl⟩
      · rw [Reader.clock_read_on hit goes]
        exact ⟨rfl, rfl⟩
  | reset | idle | busy t | wait t => cases works

theorem Going.run_gapless (going : Going limit size (Gapless size) r c words)
    (size_eq : size = limit + 2) (works : r.place.works = true) {edges : List ε}
    (goes : ∀ e ∈ edges, go e = true)
    (holds : (recorder go ready word takes limit size).Along
      (fun e x => OpenReady (ready e) x.2) (r, c) edges)
    (quiet : ∀ seen ∈ (recorder go ready word takes limit size).trace (r, c) edges,
      seen.1.interrupts = false) :
    let x := (recorder go ready word takes limit size).run (r, c) edges
    Going limit size (Gapless size) x.1 x.2 (words ++ edges.map word) := by
  induction edges generalizing r c words with
  | nil =>
      rw [List.map_nil, List.append_nil]
      exact going
  | cons e edges ih =>
      obtain ⟨here, later⟩ := List.forall_mem_cons.mp goes
      obtain ⟨first, others⟩ := holds
      obtain ⟨-, rest⟩ := List.forall_mem_cons.mp quiet
      rw [List.map_cons, List.append_cons]
      have calm := rest _ (Machine.out_mem_trace ..)
      have next := works_next works here calm
      have step := going.next go word takes size_eq e first
        (fun _ _ _ whole gapless => gapless.block whole)
        (fun idle => absurd next.2 (by simp [idle]))
      rcases step with going | ⟨stop, -⟩
      · exact ih going next.1 later others rest
      · rw [here] at stop
        cases stop

/-- The words are those that the consumer has got, those of the full buffers in the channel, which
it gets by turns, and those of the one buffer that is being filled. -/
structure Channel.Holds (size : Nat) (c : Channel α) (words : List α) (pending : List (List α))
    (t : Bool) : Prop where
  queued : c.Queued pending
  whole : ∀ b ∈ c.received ++ pending, b.length = size
  words_eq : words = (c.received ++ pending).flatten ++ (c.socket t).filling
  within : (c.socket t).filling.length < size
  other : (c.socket !t).filling = []

theorem Going.holds (going : Going limit size (Gapless size) r c words)
    (size_eq : size = limit + 2) : ∃ pending t, c.Holds size words pending t := by
  obtain ⟨blocks, pending, before, current, aligned⟩ := going
  obtain ⟨flat, whole⟩ := aligned.related
  have bound := aligned.current_lt size_eq
  rw [aligned.blocks_eq] at flat whole
  obtain ⟨t, here, other⟩ : ∃ t, (c.socket t).filling = current ∧ (c.socket !t).filling = [] := by
    by_cases reads : ∃ t, r.place = .read t
    · obtain ⟨t, reads⟩ := reads
      refine ⟨t, ?_, ?_⟩
      · rw [aligned.filling t, if_pos reads]
      · rw [aligned.filling, if_neg (by rw [reads]; cases t <;> simp)]
    · have none_ := aligned.closed fun t here => reads ⟨t, here⟩
      refine ⟨false, ?_, ?_⟩
      · rw [aligned.filling, none_, ite_self]
      · rw [aligned.filling, none_, ite_self]
  refine ⟨pending, t, ?_⟩
  constructor
  · exact aligned.queued
  · exact whole
  · rw [aligned.words_eq, flat, here]
  · rw [here]
    exact bound
  · exact other

/-- As long as the reader does not interrupt, the words since its first are all in the channel or
with the consumer. -/
theorem run_gapless (size_eq : size = limit + 2) (idle : r.place = .idle) {first : ε}
    {edges : List ε} (goes : ∀ e ∈ first :: edges, go e = true)
    (holds : (recorder go ready word takes limit size).Along
      (fun e x => OpenReady (ready e) x.2) (r, .empty) (first :: edges))
    (quiet : ∀ seen ∈ (recorder go ready word takes limit size).trace (r, .empty)
      (first :: edges), seen.1.interrupts = false) :
    ∃ pending t,
      ((recorder go ready word takes limit size).run (r, .empty) (first :: edges)).2.Holds size
        (edges.map word) pending t := by
  obtain ⟨here, later⟩ := List.forall_mem_cons.mp goes
  obtain ⟨-, rest⟩ := List.forall_mem_cons.mp quiet
  obtain ⟨-, others⟩ := holds
  have next : (recorder go ready word takes limit size).next first (r, .empty) =
      (⟨.load false, r.count⟩, .empty) := by
    obtain ⟨place, n⟩ := r
    subst idle
    rw [recorder_next, here]
    cases takes first <;> rfl
  rw [Machine.run_cons]
  rw [next] at rest others ⊢
  have start : Going limit size (Gapless size) ⟨.load false, r.count⟩ .empty ([] : List α) := by
    apply going_empty
    · exact ⟨rfl, by simp⟩
    · simp
    · intro t at_
      cases at_
      rfl
  have going := start.run_gapless size_eq rfl later others rest
  rw [List.nil_append] at going
  exact going.holds size_eq

/-! ## A buffer filled -/

/-- The reader goes on, the socket is ready, and the consumer takes nothing. -/
def Fills (go : ε → Bool) (ready : ε → Bool → Bool) (takes : ε → Bool) (t : Bool) (e : ε) : Prop :=
  go e = true ∧ ready e t = true ∧ takes e = false

theorem recorder_next_fills {e : ε} {t : Bool} (fills : Fills go ready takes t e)
    (at_ : r.place.push = some t) :
    (recorder go ready word takes limit size).next e (r, c) =
      (r.clock limit ⟨true, ready e⟩, c.push size t (word e)) := by
  obtain ⟨goes, up, left⟩ := fills
  rw [recorder_next, left, goes]
  simp [driven, at_, up]

/-- The rest of a buffer, and the turn to the other socket. -/
theorem run_read (size_eq : size = limit + 2) {t : Bool} {edges : List ε}
    (fills : ∀ e ∈ edges, Fills go ready takes t e) {n : Nat} (below : n ≤ limit)
    (length : n + edges.length = limit + 1) (filled : (c.socket t).filling.length = n + 1) :
    (recorder go ready word takes limit size).run (⟨.read t, n⟩, c) edges =
      (⟨.load (!t), limit⟩,
        c.put t ⟨[], (c.socket t).full ++ [(c.socket t).filling ++ edges.map word]⟩) := by
  induction edges generalizing c n with
  | nil =>
      rw [List.length_nil] at length
      omega
  | cons e edges ih =>
      obtain ⟨here, later⟩ := List.forall_mem_cons.mp fills
      rw [List.length_cons] at length
      rw [Machine.run_cons, recorder_next_fills here rfl]
      by_cases hit : n = limit
      · subst hit
        have none_ : edges = [] := List.length_eq_zero_iff.mp (by omega)
        subst none_
        rw [Reader.clock_read_hit, Channel.push_last (by omega)]
        rfl
      · rw [Reader.clock_read_on hit rfl, Channel.push_within (by omega),
          ih later (by omega) (by omega) (by simp [filled]), Channel.put_self, Channel.put_put,
          List.map_cons, List.append_assoc]
        rfl

/-- A socket that is ready gets a whole buffer. -/
theorem run_block (size_eq : size = limit + 2) {t : Bool} {edges : List ε}
    (fills : ∀ e ∈ edges, Fills go ready takes t e) (length : edges.length = size)
    (none_ : (c.socket t).filling = []) (n : Nat) :
    (recorder go ready word takes limit size).run (⟨.load t, n⟩, c) edges =
      (⟨.load (!t), limit⟩, c.put t ⟨[], (c.socket t).full ++ [edges.map word]⟩) := by
  cases edges with
  | nil =>
      rw [List.length_nil] at length
      omega
  | cons e edges =>
      obtain ⟨here, later⟩ := List.forall_mem_cons.mp fills
      rw [List.length_cons] at length
      have within : (c.socket t).filling.length + 1 ≠ size := by
        rw [none_, List.length_nil]
        omega
      rw [Machine.run_cons, recorder_next_fills here rfl, Reader.clock_load_ready here.2.1,
        Channel.push_within within, none_,
        run_read size_eq later (Nat.zero_le _) (by omega) (by simp), Channel.put_self,
        Channel.put_put]
      rfl

/-- As long as the sockets are ready the reader does not interrupt. -/
theorem quiet_of_ready {edges : List ε} (up : ∀ e ∈ edges, ∀ t, ready e t = true)
    (first : r.place.interrupts = false) :
    ∀ seen ∈ (recorder go ready word takes limit size).trace (r, c) edges,
      seen.1.interrupts = false := by
  have step (e : ε) (x : Reader × Channel α) (up : ∀ t, ready e t = true)
      (calm : x.1.place.interrupts = false) :
      ((recorder go ready word takes limit size).next e x).1.place.interrupts = false := by
    obtain ⟨⟨place, n⟩, c⟩ := x
    show (Reader.next limit ⟨go e, ready e⟩ ⟨place, n⟩).interrupts = false
    cases place with
    | reset => rfl
    | idle => cases go e <;> rfl
    | load t => simp [Reader.next, up t, Place.interrupts]
    | read t =>
        by_cases hit : n = limit
        · simp [Reader.next, hit, Place.interrupts]
        · cases go e <;> simp [Reader.next, hit, Place.interrupts]
    | busy t => rfl
    | wait t => simp [Reader.next, up t, Place.interrupts]
  exact Machine.trace_invariant step (fun _ calm => calm) up first

end PingPong
