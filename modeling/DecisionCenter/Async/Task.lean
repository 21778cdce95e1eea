import Mathlib.Data.List.Forall2
import DecisionCenter.Async.Run

/-!
# Cooperative tasks

Coroutines that share a store. A task performs one operation on the store at a time and goes on
with its result; between two operations it awaits, and another task may be scheduled. What an
operation returns and does to the store is a parameter `perform`, so that the same task can be
run against a store that is up, one that raises, and one that other tasks write to.

`Task.run` executes one task alone, `Pool.exec` executes several under a schedule, the list of
the positions that move. A position without an unfinished task leaves everything as it is, so
that every list is a schedule. `Pool.step_cases` says all that a step can do.

Three ways to reason about a task. `Always` is about its operations: whatever they return, each
satisfies `P`, and the result satisfies `Q`. `Ensures` is about its result under a contract for
the answers. Both compose along `bind` and neither mentions a store. And `Task.steps` lists the
operations of a run with the store that each of them finds.

What each task of a pool ensures of its own input it ensures after any schedule
(`ensures_exec`); the induction is on the schedule, and `forall₂_set` replaces the one task that
has moved.
-/

namespace Async

/-- A coroutine over the operations `Op`, whose results have the types `Res`. -/
inductive Task (Op : Type) (Res : Op → Type) (R : Type) where
  | ret (r : R)
  | op (o : Op) (next : Res o → Task Op Res R)

variable {Op : Type} {Res : Op → Type} {R R' S : Type}

namespace Task

/-- Go on with `f` once the task has returned. -/
def bind : Task Op Res R → (R → Task Op Res R') → Task Op Res R'
  | ret r, f => f r
  | op o next, f => op o fun x => (next x).bind f

@[simp] theorem ret_bind (r : R) (f : R → Task Op Res R') : (ret r).bind f = f r := rfl

/-- Going on twice is going on with both. -/
theorem bind_assoc {R'' : Type} (t : Task Op Res R) (f : R → Task Op Res R')
    (g : R' → Task Op Res R'') : (t.bind f).bind g = t.bind fun r => (f r).bind g := by
  induction t with
  | ret r => rfl
  | op o next ih => exact congrArg (op o) (funext fun x => ih x)

instance : Monad (Task Op Res) where
  pure := ret
  bind := bind

/-- Perform one operation and return its result. -/
def perform (o : Op) : Task Op Res (Res o) := op o ret

/-- What the task has returned, if it is done. -/
def result? : Task Op Res R → Option R
  | ret r => some r
  | op _ _ => none

/-- A task that maps the result of another is done when the other is. -/
theorem isSome_result?_bind_ret (t : Task Op Res R) (f : R → R') :
    (t.bind fun r => ret (f r)).result?.isSome = t.result?.isSome := by
  cases t <;> rfl

variable (act : (o : Op) → S → Res o × S)

/-- Execute the task alone, to its end. -/
def run : Task Op Res R → S → R × S
  | ret r, s => (r, s)
  | op o next, s => run (next (act o s).1) (act o s).2

@[simp] theorem run_ret (r : R) (s : S) : (ret r : Task Op Res R).run act s = (r, s) := rfl

@[simp] theorem run_op (o : Op) (next : Res o → Task Op Res R) (s : S) :
    (op o next).run act s = (next (act o s).1).run act (act o s).2 := rfl

/-- A sequence of two tasks is run by running the one and then, from the state that it leaves, the
other. -/
theorem run_bind' (t : Task Op Res R) (f : R → Task Op Res R') (s : S) :
    (t.bind f).run act s = (f (t.run act s).1).run act (t.run act s).2 := by
  induction t generalizing s with
  | ret r => rfl
  | op o next ih => exact ih _ _

/-- The operations the task performs, each with the store it finds. -/
def steps : Task Op Res R → S → List (Op × S)
  | ret _, _ => []
  | op o next, s => (o, s) :: steps (next (act o s).1) (act o s).2

@[simp] theorem steps_ret (r : R) (s : S) : (ret r : Task Op Res R).steps act s = [] := rfl

@[simp] theorem steps_op (o : Op) (next : Res o → Task Op Res R) (s : S) :
    (op o next).steps act s = (o, s) :: (next (act o s).1).steps act (act o s).2 := rfl

/-- The operations of a sequence are those of the first task, and then those of the second. -/
theorem steps_bind (t : Task Op Res R) (f : R → Task Op Res R') (s : S) :
    (t.bind f).steps act s =
      t.steps act s ++ (f (t.run act s).1).steps act (t.run act s).2 := by
  induction t generalizing s with
  | ret r => rfl
  | op o next ih => exact congrArg ((o, s) :: ·) (ih _ _)

/-! ### All operations of a task -/

/-- Whatever the operations return, each one the task performs satisfies `P` and its result
satisfies `Q`. -/
def Always (P : Op → Prop) (Q : R → Prop) : Task Op Res R → Prop
  | ret r => Q r
  | op o next => P o ∧ ∀ x, Always P Q (next x)

/-- A sequence performs allowed operations only if both of its parts do, the second for every result
of the first. -/
theorem Always.bind {P : Op → Prop} {Q : R → Prop} {Q' : R' → Prop} {t : Task Op Res R}
    {f : R → Task Op Res R'} (h : t.Always P Q) (hf : ∀ r, Q r → (f r).Always P Q') :
    (t.bind f).Always P Q' := by
  induction t with
  | ret r => exact hf r h
  | op o next ih => exact ⟨h.1, fun x => ih x (h.2 x)⟩

/-! ### Answers under a contract -/

/-- Whatever the operations return, as long as `Ok` admits it, the result satisfies `Q`. -/
def Ensures (Ok : (o : Op) → Res o → Prop) (Q : R → Prop) : Task Op Res R → Prop
  | ret r => Q r
  | op o next => ∀ x, Ok o x → Ensures Ok Q (next x)

variable {Ok : (o : Op) → Res o → Prop} {Q : R → Prop}

/-- What is ensured of the result may be weakened. -/
theorem Ensures.mono {Q' : R → Prop} {t : Task Op Res R} (h : t.Ensures Ok Q)
    (hQ : ∀ r, Q r → Q' r) : t.Ensures Ok Q' := by
  induction t with
  | ret r => exact hQ r h
  | op o next ih => exact fun x hx => ih x (h x hx)

/-- The empty condition is ensured of every task. -/
theorem ensures_true (t : Task Op Res R) : t.Ensures Ok fun _ => True := by
  induction t with
  | ret r => trivial
  | op o next ih => exact fun x _ => ih x

/-- A sequence ensures what its second part does for every result that the first one may have. -/
theorem Ensures.bind {Q' : R' → Prop} {t : Task Op Res R} {f : R → Task Op Res R'}
    (h : t.Ensures Ok Q) (hf : ∀ r, Q r → (f r).Ensures Ok Q') : (t.bind f).Ensures Ok Q' := by
  induction t with
  | ret r => exact hf r h
  | op o next ih => exact fun x hx => ih x (h x hx)

/-- A run whose answers keep the contract has the ensured result. -/
theorem Ensures.run {act : (o : Op) → S → Res o × S} (hact : ∀ o s, Ok o (act o s).1)
    {t : Task Op Res R} (h : t.Ensures Ok Q) (s : S) : Q (t.run act s).1 := by
  induction t generalizing s with
  | ret r => exact h
  | op o next ih => exact ih _ (h _ (hact o s)) _

end Task

/-! ### Pools of tasks -/

/-- A store and the tasks that share it. -/
structure Pool (S : Type) (Op : Type) (Res : Op → Type) (R : Type) where
  store : S
  tasks : List (Task Op Res R)

namespace Pool

variable (act : (o : Op) → S → Res o × S)

/-- The task at position `i` performs its next operation. A position without an unfinished
task changes nothing. -/
def step (c : Pool S Op Res R) (i : ℕ) : Pool S Op Res R :=
  match c.tasks[i]? with
  | some (.op o next) =>
    ⟨(act o c.store).2, c.tasks.set i (next (act o c.store).1)⟩
  | _ => c

/-- Execute a schedule: the positions of the tasks that move, in order. -/
def exec (c : Pool S Op Res R) (schedule : List ℕ) : Pool S Op Res R :=
  Run.exec (step act) c schedule

/-- Every task has returned. -/
def Done (c : Pool S Op Res R) : Prop := ∀ t ∈ c.tasks, t.result?.isSome = true

instance (c : Pool S Op Res R) : Decidable c.Done :=
  inferInstanceAs (Decidable (∀ t ∈ c.tasks, t.result?.isSome = true))

/-- What a step can do: nothing, or one operation of the task it schedules. -/
theorem step_cases (c : Pool S Op Res R) (i : ℕ) :
    c.step act i = c ∨ ∃ o next, c.tasks[i]? = some (.op o next) ∧
      c.step act i = ⟨(act o c.store).2, c.tasks.set i (next (act o c.store).1)⟩ := by
  unfold step
  split
  · next o next h => exact .inr ⟨o, next, h, rfl⟩
  · exact .inl rfl

/-- An element may be replaced by one that is related to whatever it was related to. -/
theorem forall₂_set {α β : Type} {rel : α → β → Prop} {as : List α} {bs : List β} {i : ℕ}
    {b b' : β} (h : List.Forall₂ rel as bs) (hi : bs[i]? = some b)
    (hb : ∀ a, rel a b → rel a b') : List.Forall₂ rel as (bs.set i b') := by
  induction h generalizing i with
  | nil => exact List.Forall₂.nil
  | cons hhead htail ih =>
    cases i with
    | zero =>
      obtain rfl := Option.some.inj hi
      exact List.Forall₂.cons (hb _ hhead) htail
    | succ i => exact List.Forall₂.cons hhead (ih hi)

/-- What each task ensures of its own input it ensures after any schedule. -/
theorem ensures_exec {α : Type} {act : (o : Op) → S → Res o × S} {Ok : (o : Op) → Res o → Prop}
    (hact : ∀ o s, Ok o (act o s).1) {Q : α → R → Prop} {inputs : List α} {c : Pool S Op Res R}
    (h : List.Forall₂ (fun a t => Task.Ensures Ok (Q a) t) inputs c.tasks)
    (schedule : List ℕ) :
    List.Forall₂ (fun a t => Task.Ensures Ok (Q a) t) inputs (c.exec act schedule).tasks := by
  have hstep (c : Pool S Op Res R) (i : ℕ)
      (h : List.Forall₂ (fun a t => Task.Ensures Ok (Q a) t) inputs c.tasks) :
      List.Forall₂ (fun a t => Task.Ensures Ok (Q a) t) inputs (c.step act i).tasks := by
    obtain hidle | ⟨o, next, hi, hmove⟩ := c.step_cases act i
    · rwa [hidle]
    · rw [hmove]
      exact forall₂_set h hi fun a hensures => hensures _ (hact o c.store)
  exact Run.exec_invariant hstep h schedule

end Pool

end Async
