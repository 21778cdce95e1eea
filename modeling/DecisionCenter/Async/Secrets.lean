import DecisionCenter.Async.Task

/-!
# Secret operations

Two ways to perform the operations of a task that differ only in what the secret ones return
(`AgreeBut`). A task that performs no secret operation runs alike under both: it ends in the
same store with the same result (`run_eq`).

This is non-interference in the form in which a workflow keeps it. Which operations are secret
depends on the caller, say the reads that a role may not make; that the task performs none of
them is an `Always` property, proved along the code of the task; and the conclusion is about any
two worlds that differ in the answers to those reads only, so that nothing the task returns can
depend on them.

The other lemmas carry `Always` from a task to the operations of a run and to its result
(`Always.steps`, `Always.run`), which is also how a property of every operation is read off a
run that is given.
-/

namespace Async

variable {Op S R : Type} {Res : Op → Type}

/-- Both leave the same store, and return the same unless the operation is secret. -/
def AgreeBut (secret : Op → Prop) (act act' : (o : Op) → S → Res o × S) : Prop :=
  ∀ o s, (act' o s).2 = (act o s).2 ∧ (¬ secret o → (act' o s).1 = (act o s).1)

namespace AgreeBut

variable {secret : Op → Prop} {act act' : (o : Op) → S → Res o × S}

/-- Answers agree with themselves. -/
theorem refl : AgreeBut secret act act := fun _ _ => ⟨rfl, fun _ => rfl⟩

/-- An operation that is not secret is performed alike. -/
theorem eq_of_not_secret (h : AgreeBut secret act act') {o : Op} (ho : ¬ secret o) (s : S) :
    act' o s = act o s :=
  Prod.ext ((h o s).2 ho) (h o s).1

/-- A run without secret operations does not depend on what these return. -/
theorem run_eq (h : AgreeBut secret act act') {t : Task Op Res R} {s : S}
    (ht : ∀ x ∈ t.steps act s, ¬ secret x.1) : t.run act' s = t.run act s := by
  induction t generalizing s with
  | ret r => rfl
  | op o next ih =>
    have ho : act' o s = act o s := h.eq_of_not_secret (ht _ List.mem_cons_self) s
    rw [Task.run_op, Task.run_op, ho]
    exact ih _ fun x hx => ht x (List.mem_cons_of_mem _ hx)

end AgreeBut

namespace Task

variable {P : Op → Prop} {Q : R → Prop} {act : (o : Op) → S → Res o × S}

/-- The conditions on the operations and on the result may be weakened. -/
theorem Always.mono {P' : Op → Prop} {Q' : R → Prop} {t : Task Op Res R} (h : t.Always P Q)
    (hP : ∀ o, P o → P' o) (hQ : ∀ r, Q r → Q' r) : t.Always P' Q' := by
  induction t with
  | ret r => exact hQ r h
  | op o next ih => exact ⟨hP o h.1, fun x => ih x (h.2 x)⟩

/-- What holds of all operations of a task holds of those of a run. -/
theorem Always.steps {t : Task Op Res R} (h : t.Always P Q) (s : S) :
    ∀ x ∈ t.steps act s, P x.1 := by
  induction t generalizing s with
  | ret r => exact nofun
  | op o next ih =>
    intro x hx
    obtain rfl | hx := List.mem_cons.mp hx
    · exact h.1
    · exact ih _ (h.2 _) _ x hx

/-- What holds of all results of a task holds of that of a run. -/
theorem Always.run {t : Task Op Res R} (h : t.Always P Q) (s : S) : Q (t.run act s).1 := by
  induction t generalizing s with
  | ret r => exact h
  | op o next ih => exact ih _ (h.2 _) _

end Task

end Async
