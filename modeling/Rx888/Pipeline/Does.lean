import Rx888.Pipeline.Quiet

/-! # What a program does to the pipeline

`Does p Q m`: started with the memory `m`, whatever the SDK answers, `p` performs
operations, returns a value and leaves a memory that satisfy `Q`. The SDK's answers
do not depend on the chip, so neither does this; `Runs.does` brings it to the runs.
-/

namespace Rx888

open CallProgram

variable {α β : Type}

def Does : Fw α → (List PipeOp → α → Ram → Prop) → Ram → Prop
  | .ret a, Q, m => Q [] a m
  | .read k, Q, m => Does (k m) Q m
  | .write f k, Q, m => Does k Q (f m)
  | .call c k, Q, m => ∀ r, c.mayAnswer r →
      Does (k r) (fun os => Q ((opOf c r).toList ++ os)) (memAfter m c r)

/-- Operations that leave the pipeline as it is. -/
def PipeOp.idle : PipeOp → Bool
  | .smState _ | .clk0 _ | .pll _ | .clockWrite => true
  | _ => false

@[simp] theorem PipeOp.smState_idle (state : UInt8) : (PipeOp.smState state).idle = true := rfl
@[simp] theorem PipeOp.clk0_idle (up : Bool) : (PipeOp.clk0 up).idle = true := rfl
@[simp] theorem PipeOp.pll_idle (locked : Bool) : (PipeOp.pll locked).idle = true := rfl

def Idle (os : List PipeOp) : Prop := ∀ o ∈ os, o.idle = true

@[simp] theorem idle_nil : Idle [] := by simp [Idle]

@[simp] theorem idle_cons (o : PipeOp) (os : List PipeOp) :
    Idle (o :: os) ↔ o.idle = true ∧ Idle os := by
  simp [Idle]

@[simp] theorem idle_append (os os' : List PipeOp) : Idle (os ++ os') ↔ Idle os ∧ Idle os' := by
  simp [Idle, or_imp, forall_and]

theorem idle_foldl {os : List PipeOp} (idle : Idle os) (p : Pipe) : os.foldl Pipe.after p = p := by
  induction os generalizing p with
  | nil => rfl
  | cons o os ih =>
      obtain ⟨looks, rest⟩ := (idle_cons o os).mp idle
      have first : p.after o = p := by
        cases o <;> first | rfl | cases looks
      rw [List.foldl_cons, first]
      exact ih rest p

section Rules

variable {p : Fw α} {f : α → Fw β} {Q R : List PipeOp → α → Ram → Prop}
variable {S : List PipeOp → β → Ram → Prop} {m : Ram}

@[simp] theorem does_ret (a : α) : Does (.ret a) Q m ↔ Q [] a m := Iff.rfl

@[simp] theorem does_pure (a : α) : Does (pure a) Q m ↔ Q [] a m := Iff.rfl

@[simp] theorem does_ram {Q : List PipeOp → Ram → Ram → Prop} : Does ram Q m ↔ Q [] m m :=
  Iff.rfl

@[simp] theorem does_call {c : Call} (k : c.Ans → Fw α) :
    Does (.call c k) Q m ↔ ∀ r, c.mayAnswer r →
      Does (k r) (fun os => Q ((opOf c r).toList ++ os)) (memAfter m c r) := Iff.rfl

@[simp] theorem does_bind (p : Fw α) (f : α → Fw β) :
    Does (p >>= f) S m ↔
      Does p (fun os a m₁ => Does (f a) (fun os' => S (os ++ os')) m₁) m := by
  induction p generalizing S m with
  | ret a => rfl
  | read k ih => exact ih m
  | write g k ih => exact ih
  | call c k ih =>
      refine forall_congr' fun r => forall_congr' fun _ => ?_
      simp only [List.append_assoc]
      exact ih r

theorem does_mono (hp : Does p Q m) (h : ∀ os a m', Q os a m' → R os a m') : Does p R m := by
  induction p generalizing Q R m with
  | ret a => exact h [] a m hp
  | read k ih => exact ih m hp h
  | write g k ih => exact ih hp h
  | call c k ih => exact fun r hr => ih r (hp r hr) fun os => h _

theorem Does.bind (hp : Does p R m)
    (hf : ∀ os a m₁, R os a m₁ → Does (f a) (fun os' => S (os ++ os')) m₁) :
    Does (p >>= f) S m :=
  (does_bind p f).mpr (does_mono hp hf)

theorem call_bind_does {c : Call} {f : c.Ans → Fw β}
    (hf : ∀ r, c.mayAnswer r →
      Does (f r) (fun os => S ((opOf c r).toList ++ os)) (memAfter m c r)) :
    Does (call c >>= f) S m :=
  hf

theorem void_bind_does {c : Call} {f : Unit → Fw β}
    (hf : ∀ r, c.mayAnswer r →
      Does (f ()) (fun os => S ((opOf c r).toList ++ os)) (memAfter m c r)) :
    Does (void c >>= f) S m :=
  hf

theorem plain_call_bind_does {c : Call} {f : c.Ans → Fw β} (hop : ∀ r, opOf c r = none)
    (hmem : ∀ r, memAfter m c r = m) (hf : ∀ r, c.mayAnswer r → Does (f r) S m) :
    Does (call c >>= f) S m := by
  intro r hr
  rw [hop, hmem]
  exact hf r hr

theorem plain_bind_does {c : Call} {f : Unit → Fw β} (hop : ∀ r, opOf c r = none)
    (hmem : ∀ r, memAfter m c r = m) (hf : Does (f ()) S m) : Does (void c >>= f) S m := by
  intro r _
  rw [hop, hmem]
  exact hf

theorem modify_bind_does {g : Ram → Ram} {f : Unit → Fw β} (hf : Does (f ()) S (g m)) :
    Does (modify g >>= f) S m :=
  hf

theorem does_map {S : List PipeOp → β → Ram → Prop} (g : α → β) :
    Does (g <$> p) S m ↔ Does p (fun os a => S os (g a)) m := by
  rw [← bind_pure_comp, does_bind]
  simp

/-- A run does what its program does. -/
theorem does_of_runs {w w' : World} {tr : List FwCall} {a : α} (h : Runs sdk p w tr a w')
    (hp : Does p Q w.mem) : Q (ops tr) a w'.mem := by
  induction h generalizing Q with
  | ret => exact hp
  | read _ ih => exact ih hp
  | write _ ih => exact ih hp
  | @call c k s s' tr a r allowed _ ih =>
      rw [ops_cons]
      exact ih (hp r allowed)

theorem modifySession_does (g : SessionRam → SessionRam) :
    Does (modifySession g)
      (fun os _ m' => os = [] ∧ m'.session = g m.session ∧ Unchanged [.session] m m') m := by
  refine ⟨rfl, rfl, ?_⟩
  constructor <;> first | exact fun _ => rfl | simp

theorem modifySession_bind_does {g : SessionRam → SessionRam} {f : Unit → Fw β}
    (hf : ∀ m₁, m₁.session = g m.session → Unchanged [.session] m m₁ → Does (f ()) S m₁) :
    Does (modifySession g >>= f) S m :=
  (modifySession_does g).bind fun os _ m₁ q => by
    rw [q.1]
    exact hf m₁ q.2.1 q.2.2

/-- A confined program keeps the other parts, and its operations are those of calls it
may make. -/
theorem Within.does {parts : List Part} {calls : Call → Bool} {O : PipeOp → Prop}
    (hO : ∀ c r o, calls c = true → opOf c r = some o → O o) (h : Within parts calls p) :
    Does p (fun os _ m' => (∀ o ∈ os, O o) ∧ Unchanged (.console :: parts) m m') m := by
  induction p generalizing m with
  | ret a => exact ⟨by simp, Unchanged.refl _ m⟩
  | read k ih => exact ih m (h m)
  | write g k ih =>
      refine does_mono (ih h.2) fun os _ m' q => ⟨q.1, ?_⟩
      exact ((h.1 m).mono (List.subset_cons_self _ _)).trans q.2
  | call c k ih =>
      intro r _
      refine does_mono (ih r (h.2 r)) fun os _ m' q => ⟨fun o ho => ?_, ?_⟩
      · rcases List.mem_append.mp ho with ho | ho
        · exact hO c r o h.1 (Option.mem_toList.mp ho)
        · exact q.1 o ho
      · exact ((memAfter_unchanged m c r).mono (by simp)).trans q.2

/-- A quiet program does nothing to the pipeline and keeps the other parts. -/
theorem Quiet.does {parts : List Part} (h : Quiet parts p) :
    Does p (fun os _ m' => os = [] ∧ Unchanged (.console :: parts) m m') m := by
  have none : ∀ c r o, Call.plain c = true → opOf c r = some o → False := by
    intro c r o plain some
    rw [opOf_plain r plain] at some
    cases some
  refine does_mono (Within.does none h) fun os _ m' q => ⟨?_, q.2⟩
  exact List.eq_nil_iff_forall_not_mem.mpr q.1

/-- A quiet first part leaves all that matters to the second. -/
theorem Quiet.bind_does {parts : List Part} (h : Quiet parts p)
    (hf : ∀ a m₁, Unchanged (.console :: parts) m m₁ → Does (f a) S m₁) :
    Does (p >>= f) S m :=
  h.does.bind fun os a m₁ q => by
    rw [q.1]
    exact hf a m₁ q.2

theorem debugPrint_bind_does {f : Unit → Fw β} (fmt : String) (args : List DebugArg)
    (hf : ∀ m₁, Unchanged [.console] m m₁ → Does (f ()) S m₁) :
    Does (debugPrint fmt args >>= f) S m :=
  Quiet.bind_does (debugPrint_quiet fmt args) fun _ m₁ same => hf m₁ same

/-- An idling program keeps the other parts and does only idle operations. -/
theorem Idling.does {parts : List Part} (h : Idling parts p) :
    Does p (fun os _ m' => Idle os ∧ Unchanged (.console :: parts) m m') m := by
  refine Within.does (fun c r o hc ho => ?_) h
  cases c with
  | gpifGetSMState => cases ho; rfl
  | i2cTransmitBytes preamble bytes =>
      simp only [opOf, Option.ite_none_right_eq_some, Option.some.injEq] at ho
      rw [← ho.2]
      rfl
  | i2cReceiveBytes preamble byteCount =>
      simp only [opOf] at ho
      split at ho
      · cases ho; rfl
      · split at ho
        · cases ho; rfl
        · cases ho
  | _ => rw [opOf_plain r hc] at ho; cases ho

theorem Idling.bind_does {parts : List Part} (h : Idling parts p)
    (hf : ∀ os a m₁, Idle os → Unchanged (.console :: parts) m m₁ →
      Does (f a) (fun os' => S (os ++ os')) m₁) :
    Does (p >>= f) S m :=
  h.does.bind fun os a m₁ q => hf os a m₁ q.1 q.2

end Rules

end Rx888