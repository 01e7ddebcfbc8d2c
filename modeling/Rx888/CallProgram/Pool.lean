import Rx888.CallProgram.Interleave
import Mathlib.Data.List.Induction
import Mathlib.Logic.Function.Basic

/-! # Threads

Any number of threads carry out jobs step by step, and the scheduler picks for each step any of
them that none of higher rank keeps from running. A thread that has the interrupts off runs
alone until it has them on again. What such a section does is followed from the state it began
in; outside of sections a thread knows the invariant of the shared state, what is its own and
that those above it are between jobs.
-/

namespace CallProgram

variable {γ η : Type} {C : Type} {Ans : C → Type}

structure Pool (γ η : Type) {C : Type} (Ans : C → Type) where
  env : Env γ η Ans
  Tid : Type
  decEq : DecidableEq Tid
  /-- The threads of higher rank: while one of them has a job, the thread does not run. -/
  above : Tid → List Tid
  Job : Type
  prog : Job → Prog γ Ans Unit
  /-- The jobs a thread may be given. -/
  offers : Tid → Job → Prop
  /-- The calls that turn the interrupts off, and on again. -/
  locks : C → Bool
  unlocks : C → Bool

namespace Pool

variable {P : Pool γ η Ans}

instance : DecidableEq P.Tid := P.decEq

/-- A thread takes up a job, takes a step of it or is done with it. -/
inductive Deed (P : Pool γ η Ans) where
  | start (j : P.Job)
  | own (j : P.Job) (a : Access γ Ans)
  | done (j : P.Job)

/-- The shared state, what each thread has left of its job, and who has the interrupts off. -/
structure Config (P : Pool γ η Ans) where
  state : State γ η
  todo : P.Tid → Option (P.Job × Prog γ Ans Unit)
  owner : Option P.Tid

/-- Whether a thread has the interrupts off after a step. -/
def offAfter (P : Pool γ η Ans) (off : Bool) : Access γ Ans → Bool
  | .call c _ => P.locks c || (off && !P.unlocks c)
  | _ => off

/-- A thread may run while nobody else has the interrupts off and nobody above it a job. -/
def Config.free (c : Config P) (t : P.Tid) : Prop :=
  (c.owner = none ∨ c.owner = some t) ∧ ∀ t' ∈ P.above t, (c.todo t').isNone

instance (c : Config P) (t : P.Tid) : Decidable (c.free t) :=
  inferInstanceAs (Decidable (_ ∧ _))

def Config.off (c : Config P) (t : P.Tid) : Bool := c.owner == some t

def Config.leave (c : Config P) (t : P.Tid) (todo : Option (P.Job × Prog γ Ans Unit)) :
    Config P :=
  { c with todo := Function.update c.todo t todo }

/-- The thread takes the step `a` and has `p` left of its job. -/
def Config.after (c : Config P) (t : P.Tid) (j : P.Job) (a : Access γ Ans)
    (p : Prog γ Ans Unit) : Config P where
  state := P.env.step c.state a
  todo := Function.update c.todo t (some (j, p))
  owner := if P.offAfter (c.off t) a then some t else none

inductive Next (c : Config P) : P.Tid → P.Deed → Config P → Prop where
  | start {t : P.Tid} {j : P.Job} (idle : c.todo t = none) (on : c.owner = none)
      (free : c.free t) (offered : P.offers t j) :
      Next c t (.start j) (c.leave t (some (j, P.prog j)))
  | own {t : P.Tid} {j : P.Job} {p p' : Prog γ Ans Unit} {a : Access γ Ans}
      (busy : c.todo t = some (j, p)) (free : c.free t) (takes : p.Takes c.state.mem a p')
      (allowed : P.env.allowsStep c.state a) : Next c t (.own j a) (c.after t j a p')
  | done {t : P.Tid} {j : P.Job} (ended : c.todo t = some (j, .ret ())) (free : c.free t) :
      Next c t (.done j) (c.leave t none)

/-- A run from `c₀`: its turns, each with the state it was taken in, and where it ends. -/
inductive Run (c₀ : Config P) : List (State γ η × P.Tid × P.Deed) → Config P → Prop where
  | start : Run c₀ [] c₀
  | step {turns : List (State γ η × P.Tid × P.Deed)} {c c' : Config P} (run : Run c₀ turns c)
      {t : P.Tid} {d : P.Deed} (next : Next c t d c') : Run c₀ (turns ++ [(c.state, t, d)]) c'

/-! ## Contracts -/

/-- What is noted of the turns, what each turn ensures, what holds at any time (`held`) and
while the interrupts are on (`inv`), and what of the ghost is a thread's own: the others leave
it alone, and `during` tells what a thread knows of it in a job or between jobs. -/
structure Contract (P : Pool γ η Ans) where
  Ghost : Type
  note : Ghost → State γ η → P.Tid → P.Deed → Ghost
  ensures : Ghost → State γ η → P.Tid → P.Deed → Prop
  held : Ghost → State γ η → Prop
  inv : Ghost → State γ η → Prop
  Local : Type
  loc : Ghost → P.Tid → Local
  during : Option P.Job → Local → Prop
  inv_held : ∀ {g s}, inv g s → held g s
  others : ∀ g s t d t', t' ≠ t → loc (note g s t d) t' = loc g t'

namespace Contract

variable {K : Contract P}

/-- The two ways a thread can be in its job: with the interrupts off, from a known ghost and
state, and with the interrupts on, from what it knows of its own. -/
structure Modes (K : Contract P) where
  off : K.Ghost → State γ η → Prop
  on : K.Local → Prop

/-- The thread has come to `g` and `s` and goes on from there. -/
def Modes.resume (M : K.Modes) (t : P.Tid) (off : Bool) (g : K.Ghost) (s : State γ η) : Prop :=
  if off then M.off g s else K.inv g s ∧ M.on (K.loc g t)

/-- A step meets its obligations and the thread goes on with `next`. -/
def Steps (K : Contract P) (t : P.Tid) (j : P.Job) (off : Bool) (a : Access γ Ans)
    (next : K.Modes) (g : K.Ghost) (s : State γ η) : Prop :=
  K.ensures g s t (.own j a) ∧
    next.resume t (P.offAfter off a) (K.note g s t (.own j a)) (P.env.step s a)

/-- The threads above are between jobs. -/
def Above (K : Contract P) (t : P.Tid) (g : K.Ghost) : Prop :=
  ∀ t' ∈ P.above t, K.during none (K.loc g t')

def point (K : Contract P) (t : P.Tid) (j : P.Job)
    (step : Bool → K.Ghost → State γ η → Prop) : K.Modes where
  off g s := K.held g s ∧ (K.Above t g → step true g s)
  on l := K.during (some j) l ∧
    ∀ g s, K.inv g s → K.loc g t = l → K.Above t g → step false g s

/-- Each step that is left of the job meets its obligations, and it ends with the interrupts
on. -/
def Safe (K : Contract P) (t : P.Tid) (j : P.Job) : Prog γ Ans Unit → K.Modes
  | .ret _ => K.point t j fun off g s => off = false ∧ K.ensures g s t (.done j) ∧
      K.inv (K.note g s t (.done j)) s ∧ K.during none (K.loc (K.note g s t (.done j)) t)
  | .read k => K.point t j fun off g s => K.Steps t j off .read (Safe K t j (k s.mem)) g s
  | .write f k => K.point t j fun off g s => K.Steps t j off (.write f) (Safe K t j k) g s
  | .call c k => K.point t j fun off g s =>
      ∀ r, P.env.allows s c r → K.Steps t j off (.call c r) (Safe K t j (k r)) g s

/-- What has to be shown of the jobs. -/
def Met (K : Contract P) : Prop :=
  ∀ t j, P.offers t j → ∀ g s, K.inv g s → K.during none (K.loc g t) →
    K.ensures g s t (.start j) ∧ K.inv (K.note g s t (.start j)) s ∧
      (K.Safe t j (P.prog j)).on (K.loc (K.note g s t (.start j)) t)

/-- Where a run is: with nobody in a section the invariant holds and each thread goes on from
what is its own; in a section only the owner has come further. -/
structure Sound (K : Contract P) (g : K.Ghost) (c : Config P) : Prop where
  shared : c.owner = none → K.inv g c.state
  idle : ∀ t, c.todo t = none → c.owner ≠ some t ∧ K.during none (K.loc g t)
  busy : ∀ t j p, c.todo t = some (j, p) →
    if c.owner = some t then (K.Safe t j p).off g c.state else (K.Safe t j p).on (K.loc g t)

section Sound

variable {g : K.Ghost} {c c' : Config P} {s : State γ η} {t : P.Tid} {j : P.Job} {off : Bool}
variable {p p' : Prog γ Ans Unit}

theorem point_resume {step : Bool → K.Ghost → State γ η → Prop}
    (h : (K.point t j step).resume t off g s) : K.held g s ∧ (K.Above t g → step off g s) := by
  cases off with
  | true => exact h
  | false => exact ⟨K.inv_held h.1, h.2.2 g s h.1 rfl⟩

theorem Safe.takes {a : Access γ Ans} (safe : (K.Safe t j p).resume t off g s)
    (above : K.Above t g) (takes : p.Takes s.mem a p') (allowed : P.env.allowsStep s a) :
    K.Steps t j off a (K.Safe t j p') g s := by
  cases takes with
  | read => exact (point_resume safe).2 above
  | write => exact (point_resume safe).2 above
  | call r => exact (point_resume safe).2 above r allowed

theorem Safe.held (safe : (K.Safe t j p).resume t off g s) : K.held g s := by
  cases p with
  | ret u => exact (point_resume safe).1
  | read k => exact (point_resume safe).1
  | write f k => exact (point_resume safe).1
  | call c k => exact (point_resume safe).1

theorem Sound.above (sound : K.Sound g c) (free : c.free t) : K.Above t g :=
  fun t' higher => (sound.idle t' (Option.isNone_iff_eq_none.mp (free.2 t' higher))).2

theorem Sound.resume (sound : K.Sound g c) (busy : c.todo t = some (j, p))
    (free : c.owner = none ∨ c.owner = some t) :
    (K.Safe t j p).resume t (c.off t) g c.state := by
  have safe := sound.busy t j p busy
  by_cases owns : c.owner = some t
  · rw [if_pos owns] at safe
    rw [Config.off, owns, beq_self_eq_true]
    exact safe
  · rw [if_neg owns] at safe
    have on : c.owner = none := free.resolve_right owns
    rw [Config.off, on]
    exact ⟨sound.shared on, safe⟩

theorem Sound.update (sound : K.Sound g c) (free : c.owner = none ∨ c.owner = some t) (d : P.Deed)
    (off : Bool) (todo : Option (P.Job × Prog γ Ans Unit))
    (shared : off = false → K.inv (K.note g c.state t d) s)
    (idle : todo = none → off = false ∧ K.during none (K.loc (K.note g c.state t d) t))
    (busy : ∀ j p, todo = some (j, p) →
      (K.Safe t j p).resume t off (K.note g c.state t d) s) :
    K.Sound (K.note g c.state t d)
      ⟨s, Function.update c.todo t todo, if off then some t else none⟩ := by
  have notMine (t' : P.Tid) (other : t' ≠ t) :
      c.owner ≠ some t' ∧ (if off then some t else none) ≠ some t' := by
    constructor
    · rcases free with on | owns
      · simp [on]
      · simpa [owns] using Ne.symm other
    · cases off with
      | true => simpa using Ne.symm other
      | false => simp
  constructor
  · intro on
    cases off with
    | true => cases on
    | false => exact shared rfl
  · intro t' (idles : Function.update c.todo t todo t' = none)
    by_cases same : t' = t
    · subst same
      rw [Function.update_self] at idles
      obtain ⟨off, during⟩ := idle idles
      subst off
      exact ⟨by simp, during⟩
    · rw [Function.update_of_ne same] at idles
      rw [K.others _ _ _ _ _ same]
      exact ⟨(notMine t' same).2, (sound.idle t' idles).2⟩
  · intro t' j p (works : Function.update c.todo t todo t' = some (j, p))
    by_cases same : t' = t
    · subst same
      rw [Function.update_self] at works
      have safe := busy j p works
      cases off with
      | true => exact (if_pos rfl).mpr safe
      | false => exact (if_neg (by simp)).mpr safe.2
    · rw [Function.update_of_ne same] at works
      have safe := sound.busy t' j p works
      rw [if_neg (notMine t' same).1] at safe
      rw [if_neg (notMine t' same).2, K.others _ _ _ _ _ same]
      exact safe

theorem Sound.next (met : K.Met) (sound : K.Sound g c) {d : P.Deed} (next : Next c t d c') :
    K.ensures g c.state t d ∧ K.Sound (K.note g c.state t d) c' := by
  cases next with
  | @start j idle on free offered =>
      obtain ⟨ensures, inv, safe⟩ :=
        met t j offered g c.state (sound.shared on) (sound.idle t idle).2
      refine ⟨ensures, ?_⟩
      rw [Config.leave, on]
      refine sound.update (.inl on) (.start j) false _ (fun _ => inv) (by simp) ?_
      rintro j p same
      cases same
      exact ⟨inv, safe⟩
  | @own j p p' a busy free takes allowed =>
      obtain ⟨ensures, resume⟩ :=
        Safe.takes (sound.resume busy free.1) (sound.above free) takes allowed
      refine ⟨ensures, sound.update free.1 (.own j a) _ _ (fun on => ?_) (by simp) ?_⟩
      · rw [on] at resume
        exact resume.1
      · rintro j p same
        cases same
        exact resume
  | @done j ended free =>
      obtain ⟨on, ensures, inv, during⟩ :=
        (point_resume (sound.resume ended free.1)).2 (sound.above free)
      refine ⟨ensures, ?_⟩
      have owner : c.owner = none := by
        rcases free.1 with on | owns
        · exact on
        · simp [Config.off, owns] at on
      rw [Config.leave, owner]
      exact sound.update free.1 (.done j) false none (fun _ => inv) (fun _ => ⟨rfl, during⟩)
        (by simp)

theorem Sound.held (sound : K.Sound g c) : K.held g c.state := by
  rcases owns : c.owner with _ | t
  · exact K.inv_held (sound.shared owns)
  · rcases works : c.todo t with _ | ⟨j, p⟩
    · exact absurd owns (sound.idle t works).1
    · exact Safe.held (sound.resume works (.inr owns))

/-- What a thread knows of its own, unless it is in a section. -/
theorem Sound.during (sound : K.Sound g c) (t : P.Tid) (apart : c.owner ≠ some t) :
    K.during ((c.todo t).map Prod.fst) (K.loc g t) := by
  rcases works : c.todo t with _ | ⟨j, p⟩
  · exact (sound.idle t works).2
  · have safe := sound.busy t j p works
    rw [if_neg apart] at safe
    cases p with
    | ret u => exact safe.1
    | read k => exact safe.1
    | write f k => exact safe.1
    | call call k => exact safe.1

theorem sound_idle (inv : K.inv g s) (during : ∀ t, K.during none (K.loc g t)) :
    K.Sound g ⟨s, fun _ => none, none⟩ :=
  ⟨fun _ => inv, fun t _ => ⟨by simp, during t⟩, by simp⟩

end Sound

/-! ## Step by step -/

section Step

variable {t : P.Tid} {j : P.Job} {g g' : K.Ghost} {s : State γ η} {l : K.Local} {c : C}

/-- The step ensures what it should, and what is then noted is `g'`. -/
def Noted (K : Contract P) (g : K.Ghost) (s : State γ η) (t : P.Tid) (d : P.Deed)
    (g' : K.Ghost) : Prop :=
  K.ensures g s t d ∧ K.note g s t d = g'

theorem off_read {k : γ → Prog γ Ans Unit} (held : K.held g s)
    (noted : K.Noted g s t (.own j .read) g') (next : (K.Safe t j (k s.mem)).off g' s) :
    (K.Safe t j (.read k)).off g s := by
  obtain ⟨ensures, rfl⟩ := noted
  exact ⟨held, fun _ => ⟨ensures, next⟩⟩

theorem off_write {f : γ → γ} {k : Prog γ Ans Unit} (held : K.held g s)
    (noted : K.Noted g s t (.own j (.write f)) g')
    (next : (K.Safe t j k).off g' ⟨f s.mem, s.env⟩) : (K.Safe t j (.write f k)).off g s := by
  obtain ⟨ensures, rfl⟩ := noted
  exact ⟨held, fun _ => ⟨ensures, next⟩⟩

theorem off_unlock {k : Ans c → Prog γ Ans Unit} (held : K.held g s)
    (unlocks : P.locks c = false ∧ P.unlocks c = true)
    (next : ∀ r, P.env.allows s c r → ∃ g', K.Noted g s t (.own j (.call c r)) g' ∧
      K.inv g' (P.env.exec s c r) ∧ (K.Safe t j (k r)).on (K.loc g' t)) :
    (K.Safe t j (.call c k)).off g s := by
  refine ⟨held, fun _ r allowed => ?_⟩
  obtain ⟨g', ⟨ensures, rfl⟩, goesOn⟩ := next r allowed
  refine ⟨ensures, ?_⟩
  have on : P.offAfter true (.call c r) = false := by simp [offAfter, unlocks]
  rw [on]
  exact goesOn

theorem on_lock {k : Ans c → Prog γ Ans Unit} (during : K.during (some j) l)
    (locks : P.locks c = true)
    (next : ∀ g s, K.inv g s → K.loc g t = l → K.Above t g → ∀ r, P.env.allows s c r →
      ∃ g', K.Noted g s t (.own j (.call c r)) g' ∧
        (K.Safe t j (k r)).off g' (P.env.exec s c r)) :
    (K.Safe t j (.call c k)).on l := by
  refine ⟨during, fun g s inv same above r allowed => ?_⟩
  obtain ⟨g', ⟨ensures, rfl⟩, goesOn⟩ := next g s inv same above r allowed
  refine ⟨ensures, ?_⟩
  have off : P.offAfter false (.call c r) = true := by simp [offAfter, locks]
  rw [off]
  exact goesOn

theorem on_read {k : γ → Prog γ Ans Unit} (during : K.during (some j) l)
    (next : ∀ g s, K.inv g s → K.loc g t = l → K.Above t g → ∃ g', K.Noted g s t (.own j .read) g' ∧
      K.inv g' s ∧ (K.Safe t j (k s.mem)).on (K.loc g' t)) :
    (K.Safe t j (.read k)).on l := by
  refine ⟨during, fun g s inv same above => ?_⟩
  obtain ⟨g', ⟨ensures, rfl⟩, goesOn⟩ := next g s inv same above
  exact ⟨ensures, goesOn⟩

theorem on_write {f : γ → γ} {k : Prog γ Ans Unit} (during : K.during (some j) l)
    (next : ∀ g s, K.inv g s → K.loc g t = l → K.Above t g →
      ∃ g', K.Noted g s t (.own j (.write f)) g' ∧ K.inv g' ⟨f s.mem, s.env⟩ ∧
        (K.Safe t j k).on (K.loc g' t)) :
    (K.Safe t j (.write f k)).on l := by
  refine ⟨during, fun g s inv same above => ?_⟩
  obtain ⟨g', ⟨ensures, rfl⟩, goesOn⟩ := next g s inv same above
  exact ⟨ensures, goesOn⟩

theorem on_call {k : Ans c → Prog γ Ans Unit} (during : K.during (some j) l)
    (plain : P.locks c = false)
    (next : ∀ g s, K.inv g s → K.loc g t = l → K.Above t g → ∀ r, P.env.allows s c r →
      ∃ g', K.Noted g s t (.own j (.call c r)) g' ∧
        K.inv g' (P.env.exec s c r) ∧ (K.Safe t j (k r)).on (K.loc g' t)) :
    (K.Safe t j (.call c k)).on l := by
  refine ⟨during, fun g s inv same above r allowed => ?_⟩
  obtain ⟨g', ⟨ensures, rfl⟩, goesOn⟩ := next g s inv same above r allowed
  refine ⟨ensures, ?_⟩
  have on : P.offAfter false (.call c r) = false := by simp [offAfter, plain]
  rw [on]
  exact goesOn

theorem on_ret {u : Unit} (during : K.during (some j) l)
    (next : ∀ g s, K.inv g s → K.loc g t = l → K.Above t g → ∃ g', K.Noted g s t (.done j) g' ∧
      K.inv g' s ∧ K.during none (K.loc g' t)) : (K.Safe t j (.ret u)).on l := by
  refine ⟨during, fun g s inv same above => ?_⟩
  obtain ⟨g', ⟨ensures, rfl⟩, goesOn⟩ := next g s inv same above
  exact ⟨rfl, ensures, goesOn⟩

end Step

/-! ## Parts of a job outside of sections -/

/-- A step outside of sections that meets its obligations and keeps `L` of what is the
thread's own. -/
structure Apart (K : Contract P) (t : P.Tid) (j : P.Job) (L : K.Local → Prop) (g : K.Ghost)
    (s : State γ η) (a : Access γ Ans) : Prop where
  on : P.offAfter false a = false
  ensures : K.ensures g s t (.own j a)
  inv : K.inv (K.note g s t (.own j a)) (P.env.step s a)
  own : L (K.loc (K.note g s t (.own j a)) t)

section Apart

variable {t : P.Tid} {j : P.Job} {L : K.Local → Prop} {g : K.Ghost} {s : State γ η}
variable {a : Access γ Ans} {M : K.Modes}

theorem Noted.apart {g' : K.Ghost} (noted : K.Noted g s t (.own j a) g')
    (on : P.offAfter false a = false) (inv : K.inv g' (P.env.step s a)) (own : L (K.loc g' t)) :
    K.Apart t j L g s a := by
  obtain ⟨ensures, rfl⟩ := noted
  exact ⟨on, ensures, inv, own⟩

theorem Apart.steps (apart : K.Apart t j L g s a) (rest : ∀ l, L l → M.on l) :
    K.Steps t j false a M g s := by
  refine ⟨apart.ensures, ?_⟩
  rw [apart.on]
  exact ⟨apart.inv, rest _ apart.own⟩

theorem safe_of_uses {W : (γ → γ) → Prop} {U : C → Prop} {α : Type} {p : Prog γ Ans α}
    {k : α → Prog γ Ans Unit} (uses : p.Uses W U) (during : ∀ l, L l → K.during (some j) l)
    (read : ∀ g s, K.inv g s → L (K.loc g t) → K.Apart t j L g s .read)
    (write : ∀ f, W f → ∀ g s, K.inv g s → L (K.loc g t) → K.Apart t j L g s (.write f))
    (call : ∀ c, U c → ∀ r g s, K.inv g s → L (K.loc g t) → P.env.allows s c r →
      K.Apart t j L g s (.call c r))
    (rest : ∀ a l, L l → (K.Safe t j (k a)).on l) :
    ∀ l, L l → (K.Safe t j (p >>= k)).on l := by
  induction p with
  | ret a => exact rest a
  | read next ih =>
      intro l own
      refine ⟨during l own, fun g s inv same _ => ?_⟩
      exact (read g s inv (same ▸ own)).steps (ih s.mem (uses s.mem))
  | write f next ih =>
      intro l own
      refine ⟨during l own, fun g s inv same _ => ?_⟩
      exact (write f uses.1 g s inv (same ▸ own)).steps (ih uses.2)
  | call c next ih =>
      intro l own
      refine ⟨during l own, fun g s inv same _ r allowed => ?_⟩
      exact (call c uses.1 r g s inv (same ▸ own) allowed).steps (ih r (uses.2 r))

end Apart

/-! ## Runs -/

def noted (K : Contract P) (g : K.Ghost) (turns : List (State γ η × P.Tid × P.Deed)) : K.Ghost :=
  turns.foldl (fun g u => K.note g u.1 u.2.1 u.2.2) g

/-- Each turn of a run ensures what it should, by what has been noted before it, and the run
ends where the contract says. -/
theorem Met.run (met : K.Met) {c₀ c : Config P} {turns : List (State γ η × P.Tid × P.Deed)}
    {g₀ : K.Ghost} (run : Run c₀ turns c) (init : K.Sound g₀ c₀) :
    K.Sound (K.noted g₀ turns) c ∧ ∀ pre s t d post, turns = pre ++ (s, t, d) :: post →
      K.ensures (K.noted g₀ pre) s t d := by
  induction run with
  | start => exact ⟨init, fun pre s t d post at_t => by simp at at_t⟩
  | @step turns c c' run t d next ih =>
      obtain ⟨sound, before⟩ := ih
      obtain ⟨ensures, after⟩ := sound.next met next
      have noted : K.noted g₀ (turns ++ [(c.state, t, d)]) =
          K.note (K.noted g₀ turns) c.state t d := by
        simp [Contract.noted]
      refine ⟨noted ▸ after, fun pre s t' d' post at_t => ?_⟩
      rcases List.eq_nil_or_concat post with rfl | ⟨post', v, rfl⟩
      · obtain ⟨rfl, last⟩ := List.append_inj' at_t rfl
        obtain ⟨rfl, rfl, rfl⟩ : c.state = s ∧ t = t' ∧ d = d' := by simpa using last
        exact ensures
      · rw [List.concat_eq_append, ← List.cons_append, ← List.append_assoc] at at_t
        exact before pre s t' d' post' (List.append_inj' at_t rfl).1

/-- What a turn leaves right if it is right before and `ok`, and only then, is right all along
a run if every turn is `ok`, and only then. -/
theorem right_iff (right : K.Ghost → Prop) (ok : K.Ghost → State γ η → P.Tid → P.Deed → Prop)
    {g₀ : K.Ghost} {turns : List (State γ η × P.Tid × P.Deed)} (start : right g₀)
    (each : ∀ pre s t d post, turns = pre ++ (s, t, d) :: post →
      (right (K.note (K.noted g₀ pre) s t d) ↔
        right (K.noted g₀ pre) ∧ ok (K.noted g₀ pre) s t d)) :
    (∀ pre post, turns = pre ++ post → right (K.noted g₀ pre)) ↔
      ∀ pre s t d post, turns = pre ++ (s, t, d) :: post → ok (K.noted g₀ pre) s t d := by
  have concat (pre : List (State γ η × P.Tid × P.Deed)) (s : State γ η) (t : P.Tid) (d : P.Deed) :
      K.noted g₀ (pre ++ [(s, t, d)]) = K.note (K.noted g₀ pre) s t d := by
    simp [noted]
  constructor
  · intro always pre s t d post split
    have after := always (pre ++ [(s, t, d)]) post (by rw [split, List.append_assoc]; rfl)
    rw [concat] at after
    exact ((each pre s t d post split).mp after).2
  · intro oks pre post split
    induction pre using List.reverseRecOn generalizing post with
    | nil => exact start
    | append_singleton pre u ih =>
        obtain ⟨s, t, d⟩ := u
        have split : turns = pre ++ (s, t, d) :: post := by
          rw [split, List.append_assoc]
          rfl
        rw [concat]
        exact (each pre s t d post split).mpr ⟨ih _ split, oks pre s t d post split⟩

end Contract

/-! ## Scripts -/

inductive Order (P : Pool γ η Ans) where
  | start (t : P.Tid) (j : P.Job) (offered : P.offers t j)
  | own (t : P.Tid) (ω : Threads.Responder P.env) (steps : Nat)
  | done (t : P.Tid)

/-- Where a script is: the turns taken, the last one first, and the configuration. -/
structure Replay (P : Pool γ η Ans) where
  taken : List (State γ η × P.Tid × P.Deed)
  config : Config P

namespace Replay

def turns (r : Replay P) : List (State γ η × P.Tid × P.Deed) := r.taken.reverse

def take (r : Replay P) (t : P.Tid) (d : P.Deed) (c : Config P) : Replay P :=
  ⟨(r.config.state, t, d) :: r.taken, c⟩

def step (ω : Threads.Responder P.env) (t : P.Tid) (r : Replay P) : Replay P :=
  match r.config.todo t with
  | some (j, .read k) => r.take t (.own j .read) (r.config.after t j .read (k r.config.state.mem))
  | some (j, .write f k) => r.take t (.own j (.write f)) (r.config.after t j (.write f) k)
  | some (j, .call c k) =>
      let answer := ω.answer r.config.state c
      r.take t (.own j (.call c answer)) (r.config.after t j (.call c answer) (k answer))
  | _ => r

/-- Orders that cannot be followed are skipped. -/
def follow (r : Replay P) : P.Order → Replay P
  | .start t j _ =>
      match r.config.todo t, r.config.owner with
      | none, none =>
          if r.config.free t then r.take t (.start j) (r.config.leave t (some (j, P.prog j)))
          else r
      | _, _ => r
  | .own t ω steps => steps.rec r fun _ r => if r.config.free t then r.step ω t else r
  | .done t =>
      match r.config.todo t with
      | some (j, .ret ()) =>
          if r.config.free t then r.take t (.done j) (r.config.leave t none) else r
      | _ => r

def Reached (c₀ : Config P) (r : Replay P) : Prop := Run c₀ r.turns r.config

variable {c₀ : Config P} {r : Replay P}

theorem Reached.take (h : r.Reached c₀) {t : P.Tid} {d : P.Deed} {c : Config P}
    (next : Next r.config t d c) : (r.take t d c).Reached c₀ := by
  have run : Run c₀ (r.turns ++ [(r.config.state, t, d)]) c := .step h next
  rw [turns, ← List.reverse_cons] at run
  exact run

theorem Reached.step (ω : Threads.Responder P.env) (t : P.Tid) (h : r.Reached c₀)
    (free : r.config.free t) : (r.step ω t).Reached c₀ := by
  unfold Replay.step
  split
  next j k busy => exact h.take (.own busy free .read trivial)
  next j f k busy => exact h.take (.own busy free .write trivial)
  next j c k busy => exact h.take (.own busy free (.call _) (ω.allowed r.config.state c))
  next => exact h

theorem Reached.follow (o : P.Order) (h : r.Reached c₀) : (r.follow o).Reached c₀ := by
  cases o with
  | start t j offered =>
      simp only [Replay.follow]
      split
      next idle on =>
        split
        next free => exact h.take (.start idle on free offered)
        next => exact h
      next => exact h
  | own t ω steps =>
      simp only [Replay.follow]
      induction steps with
      | zero => exact h
      | succ n ih =>
          show (ite _ _ _ : Replay P).Reached c₀
          split
          next free => exact ih.step ω t free
          next => exact ih
  | done t =>
      simp only [Replay.follow]
      split
      next ended =>
        split
        next free => exact h.take (.done ended free)
        next => exact h
      next => exact h

end Replay

def replay (c₀ : Config P) (orders : List P.Order) : Replay P :=
  orders.foldl Replay.follow ⟨[], c₀⟩

theorem replay_run (c₀ : Config P) (orders : List P.Order) : (replay c₀ orders).Reached c₀ := by
  have each (r : Replay P) (h : r.Reached c₀) : (orders.foldl Replay.follow r).Reached c₀ := by
    induction orders generalizing r with
    | nil => exact h
    | cons o orders ih => exact ih _ (h.follow o)
  exact each _ .start

end Pool

end CallProgram
