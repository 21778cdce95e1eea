import DecisionCenter.Async.Task

/-!
# Simulation between stores

Two kinds of stores on which the same tasks can be run. A relation between them is a simulation
if on related stores every operation returns the same and leaves related stores (`Simulates`).
Typically one store has all the data and the other one what the proofs are about.

A task only sees what its operations return, so that it goes the same way on both: it ends with
the same result in related stores (`Simulates.run`). The same holds of tasks that share a store.
Under any schedule, the tasks of the two pools are in the same place after every step
(`Simulates.exec`), so that what is proved of all schedules on the smaller store holds on the
larger one. Both are inductions with one operation as the step, on the task and on the schedule.

Nothing is asked of the relation itself. It need not be a function in either direction, and
operations may be partial or raise, as long as they do so on both sides alike.
-/

namespace Async

variable {Op S S' R : Type} {Res : Op → Type}

/-- On related stores both return the same, and leave related stores. -/
def Simulates (rel : S → S' → Prop) (act : (o : Op) → S → Res o × S)
    (act' : (o : Op) → S' → Res o × S') : Prop :=
  ∀ o s s', rel s s' → (act o s).1 = (act' o s').1 ∧ rel (act o s).2 (act' o s').2

/-- Pools whose tasks are in the same place, over related stores. -/
structure Pool.Alike (rel : S → S' → Prop) (c : Pool S Op Res R) (c' : Pool S' Op Res R) :
    Prop where
  store : rel c.store c'.store
  tasks : c.tasks = c'.tasks

namespace Simulates

variable {rel : S → S' → Prop} {act : (o : Op) → S → Res o × S}
  {act' : (o : Op) → S' → Res o × S'}

/-- A task ends with the same result in related stores. -/
theorem run (h : Simulates rel act act') (t : Task Op Res R) {s : S} {s' : S'}
    (hs : rel s s') :
    (t.run act s).1 = (t.run act' s').1 ∧ rel (t.run act s).2 (t.run act' s').2 := by
  induction t generalizing s s' with
  | ret r => exact ⟨rfl, hs⟩
  | op o next ih =>
    obtain ⟨hresult, hstore⟩ := h o s s' hs
    rw [Task.run_op, Task.run_op, hresult]
    exact ih _ hstore

/-- A step of a task keeps two pools alike. It is the step of the task at the same position, which
is in the same place. -/
theorem step (h : Simulates rel act act') {c : Pool S Op Res R} {c' : Pool S' Op Res R}
    (hc : c.Alike rel c') (i : ℕ) : (c.step act i).Alike rel (c'.step act' i) := by
  rw [Pool.step, Pool.step, hc.tasks]
  cases c'.tasks[i]? with
  | none => exact hc
  | some t =>
    cases t with
    | ret r => exact hc
    | op o next =>
      obtain ⟨hresult, hstore⟩ := h o _ _ hc.store
      refine ⟨hstore, ?_⟩
      dsimp only
      rw [hresult]

/-- Under every schedule two pools stay alike. -/
theorem exec (h : Simulates rel act act') {c : Pool S Op Res R} {c' : Pool S' Op Res R}
    (hc : c.Alike rel c') (schedule : List ℕ) :
    (c.exec act schedule).Alike rel (c'.exec act' schedule) := by
  induction schedule generalizing c c' with
  | nil => exact hc
  | cons i schedule ih => exact ih (h.step hc i)

end Simulates

end Async
