import DecisionCenter.Async.Task

/-!
# Operations that raise

An awaited operation may raise before it takes effect or after it did, and the caller cannot
tell which. `Fault` has the three cases, with the exception that the caller sees in two of them,
and `Fault.act` is an operation under such circumstances: it changes the store just if the fault
is effective, and answers with the operation's own result or with the exception.

This is the only place where it is said what can go wrong with an operation. A system takes a
fault as part of the action that performs the operation, so that a theorem about all runs is
also one about all ways in which operations fail.

For pools of tasks the module says what a step does to the store: the next operation of the task
that moves takes effect or it does not (`store_step`, `act_snd`). `always_step` carries a
property of all operations of the tasks across a step; it is what invariants about who may
perform which operation start from.
-/

namespace Async

/-- What goes wrong in one operation, with the exception the caller sees. -/
inductive Fault (E : Type) where
  | none
  | before (e : E)
  | after (e : E)
  deriving DecidableEq, Repr

namespace Fault

variable {E Op S : Type} {Res : Op → Type}

/-- Whether the operation takes effect. -/
def effective : Fault E → Bool
  | .none => true
  | .before _ => false
  | .after _ => true

/-- The operation `o`, whose own effect is `effect`, under a fault. -/
def act (effect : (o : Op) → S → Res o × S) (fault : Fault E) (o : Op) (s : S) :
    Except E (Res o) × S :=
  match fault with
  | .none => (.ok (effect o s).1, (effect o s).2)
  | .before e => (.error e, s)
  | .after e => (.error e, (effect o s).2)

/-- The store after the operation: untouched, or as the operation leaves it. -/
theorem act_snd (effect : (o : Op) → S → Res o × S) (fault : Fault E) (o : Op) (s : S) :
    (fault.act effect o s).2 = if fault.effective then (effect o s).2 else s := by
  cases fault <;> rfl

end Fault

/-! ### Pools whose operations may not take effect -/

namespace Pool

variable {Op S R : Type} {Out : Op → Type}

/-- The operation that the task at position `i` performs next. -/
def nextOp (p : Pool S Op Out R) (i : ℕ) : Option Op :=
  match p.tasks[i]? with
  | some (.op o _) => some o
  | _ => none

/-- A task with a next operation is there, and begins with it. -/
theorem nextOp_eq_some {p : Pool S Op Out R} {i : ℕ} {o : Op} (h : p.nextOp i = some o) :
    ∃ next, p.tasks[i]? = some (.op o next) := by
  rw [nextOp] at h
  split at h
  · next o' next hget =>
    cases h
    exact ⟨next, hget⟩
  · cases h

/-- A step changes the store by the next operation of the task, if there is one. -/
theorem store_step (act : (o : Op) → S → Out o × S) (p : Pool S Op Out R) (i : ℕ) :
    (p.step act i).store = match p.nextOp i with
      | some o => (act o p.store).2
      | none => p.store := by
  rw [nextOp, step]
  cases p.tasks[i]? with
  | none => rfl
  | some t => cases t <;> rfl

/-- What holds of all operations of the tasks still does after a step. -/
theorem always_step {P : Op → Prop} {Q : R → Prop} (act : (o : Op) → S → Out o × S)
    {p : Pool S Op Out R} (h : ∀ t ∈ p.tasks, t.Always P Q) (i : ℕ) :
    ∀ t ∈ (p.step act i).tasks, t.Always P Q := by
  intro t ht
  obtain heq | ⟨o, next, hget, heq⟩ := p.step_cases act i
  · rw [heq] at ht
    exact h t ht
  · rw [heq] at ht
    obtain ht | rfl := List.mem_or_eq_of_mem_set ht
    · exact h t ht
    · exact (h _ (List.mem_of_getElem? hget)).2 _

end Pool

end Async
