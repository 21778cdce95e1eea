import DecisionCenter.Async.Task

/-!
# Coroutines that raise

A coroutine whose operations may raise, and which then raises itself: `Attempt` is `OptionT`
over tasks whose operations answer with an option, and `await` ends it where the answer is none.
A computation between two awaits that may raise comes in by `ofOption`.

`Attempt.Ensures` is a postcondition under a contract: the operations answer as `Ok` admits, the
coroutine raises only if `failing`, and what it returns satisfies `Q`. It is a predicate on the
coroutine, not on a run of it, and so composes: along `bind` (`Ensures.bind`), by weakening
(`Ensures.mono`), and with the two base cases `ensures_pure` and `ensures_await`. Where raising
is admitted, nothing is ensured of what is never returned (`ensures_of_failing`).

The second part is about `asyncio.gather`: coroutines that share a store are run under a
schedule, and `gathered` is what the gathering returns, if all of them have returned and none
has raised. What each coroutine ensures of its own input holds of its result after any schedule
that lets it return (`forall₂_of_gathered`); nothing has to be said about the interleaving,
since the contract is about the answers and not about the store. `results_of_gathered` is the
case in which the postcondition determines the result.
-/

namespace Async

/-- A coroutine over operations that answer with `Ans`, unless they raise. -/
abbrev Attempt (Op : Type) (Ans : Op → Type) (R : Type) : Type :=
  OptionT (Task Op fun o => Option (Ans o)) R

namespace Attempt

variable {Op : Type} {Ans : Op → Type} {R R' S : Type}

/-- Await one operation. -/
def await (o : Op) : Attempt Op Ans (Ans o) := OptionT.mk (Task.perform o)

/-- A computation without awaits that may raise. -/
def ofOption (x : Option R) : Attempt Op Ans R := OptionT.mk (Task.ret x)

variable (Ok : (o : Op) → Option (Ans o) → Prop) (failing : Prop)

/-- The postcondition `Q` under the contract `Ok`. -/
def Ensures (Q : R → Prop) (t : Attempt Op Ans R) : Prop :=
  Task.Ensures Ok (fun r => r.elim failing Q) t.run

variable {Ok} {failing} {Q : R → Prop} {Q' : R' → Prop}

/-- A task that returns at once ensures what holds of its result. -/
theorem ensures_pure {r : R} (h : Q r) : Ensures Ok failing Q (pure r : Attempt Op Ans R) := h

/-- Behind a task that ensures `Q` it is enough to look at the results with `Q`. A failure of the
first task is one of both. -/
theorem Ensures.bind {t : Attempt Op Ans R} {f : R → Attempt Op Ans R'}
    (h : Ensures Ok failing Q t) (hf : ∀ r, Q r → Ensures Ok failing Q' (f r)) :
    Ensures Ok failing Q' (t >>= f) := by
  refine Task.Ensures.bind h fun r hr => ?_
  cases r with
  | none => exact hr
  | some r => exact hf r hr

/-- What is ensured may be weakened. -/
theorem Ensures.mono {Q' : R → Prop} {t : Attempt Op Ans R} (h : Ensures Ok failing Q t)
    (hQ : ∀ r, Q r → Q' r) : Ensures Ok failing Q' t := by
  refine Task.Ensures.mono h fun r hr => ?_
  cases r with
  | none => exact hr
  | some r => exact hQ r hr

/-- An awaited operation raises only where the contract admits it. -/
theorem ensures_await {o : Op} (h : Ok o none → failing) :
    Ensures Ok failing (fun _ => True) (await o : Attempt Op Ans (Ans o)) := by
  intro x hx
  cases x with
  | none => exact h hx
  | some a => trivial

/-- Where raising is admitted, a computation without awaits ensures what it returns. -/
theorem ensures_ofOption {x : Option R} (hfailing : failing) (h : ∀ r, x = some r → Q r) :
    Ensures Ok failing Q (ofOption x : Attempt Op Ans R) := by
  cases x with
  | none => exact hfailing
  | some r => exact h r rfl

/-- Where raising is admitted, nothing is ensured of what is never returned. -/
theorem ensures_of_failing (hfailing : failing) (h : ∀ r, Q r) (t : Attempt Op Ans R) :
    Ensures Ok failing Q t := by
  refine (Task.ensures_true t.run).mono fun r _ => ?_
  cases r with
  | none => exact hfailing
  | some r => exact h r

/-- Alone, under answers that keep the contract, the coroutine raises only if `failing`. -/
theorem Ensures.run_of_not_failing {act : (o : Op) → S → Option (Ans o) × S} {t : Attempt Op Ans R}
    (h : Ensures Ok failing Q t) (hact : ∀ o s, Ok o (act o s).1) (hfailing : ¬ failing) (s : S) :
    ∃ r, (t.run.run act s).1 = some r ∧ Q r := by
  have hrun := Task.Ensures.run hact h s
  cases hr : (t.run.run act s).1 with
  | none =>
    rw [hr] at hrun
    exact absurd hrun hfailing
  | some r =>
    rw [hr] at hrun
    exact ⟨r, rfl, hrun⟩

/-- What the coroutine returns alone satisfies the postcondition. -/
theorem Ensures.of_run {act : (o : Op) → S → Option (Ans o) × S} {t : Attempt Op Ans R}
    (h : Ensures Ok failing Q t) (hact : ∀ o s, Ok o (act o s).1) {s : S} {r : R}
    (hr : (t.run.run act s).1 = some r) : Q r := by
  have hrun := Task.Ensures.run hact h s
  rwa [hr] at hrun

/-! ### Gathering -/

/-- Related lists are related position by position. -/
theorem rel_of_getElem? {α β : Type} {rel : α → β → Prop} {as : List α} {bs : List β} {i : ℕ}
    {a : α} {b : β} (h : List.Forall₂ rel as bs) (ha : as[i]? = some a) (hb : bs[i]? = some b) :
    rel a b := by
  induction h generalizing i with
  | nil => cases ha
  | cons hhead _ ih =>
    cases i with
    | zero =>
      obtain rfl := Option.some.inj ha
      obtain rfl := Option.some.inj hb
      exact hhead
    | succ i => exact ih ha hb

/-- What `gather` returns, if all coroutines have returned and none has raised. -/
def gathered (c : Pool S Op (fun o => Option (Ans o)) (Option R)) : Option (List R) :=
  c.tasks.mapM fun t => t.result?.join

/-- Coroutines that ensure a postcondition of their inputs have returned results that satisfy it,
if they have returned. -/
theorem forall₂_of_gathered {α : Type} {rel : α → R → Prop} {inputs : List α}
    {c : Pool S Op (fun o => Option (Ans o)) (Option R)} {results : List R}
    (hensures : List.Forall₂ (fun a t => Task.Ensures Ok (fun r => r.elim failing (rel a)) t)
      inputs c.tasks) (h : gathered c = some results) : List.Forall₂ rel inputs results := by
  rw [gathered] at h
  generalize c.tasks = tasks at hensures h
  induction hensures generalizing results with
  | nil =>
    obtain rfl := Option.some.inj h
    exact List.Forall₂.nil
  | @cons a t inputs tasks hhead _ ih =>
    rw [List.mapM_cons] at h
    obtain ⟨result, hresult, h⟩ := Option.bind_eq_some_iff.mp h
    obtain ⟨rest, hrest, h⟩ := Option.bind_eq_some_iff.mp h
    obtain rfl := Option.some.inj h
    refine List.Forall₂.cons ?_ (ih hrest)
    cases t with
    | ret r =>
      obtain rfl : r = some result := hresult
      exact hhead
    | op o next => cases hresult

/-- Gathered under a schedule, each coroutine returns what it ensures of its input. -/
theorem results_of_gathered {α : Type} {rel : α → R → Prop}
    {act : (o : Op) → S → Option (Ans o) × S} {inputs : List α} {f : α → Attempt Op Ans R}
    {s : S} {schedule : List ℕ} {results : List R} (hact : ∀ o s, Ok o (act o s).1)
    (hf : ∀ a, Ensures Ok failing (rel a) (f a))
    (h : gathered ((Pool.mk s (inputs.map fun a => (f a).run)).exec act schedule) =
      some results) : List.Forall₂ rel inputs results := by
  have hstart : List.Forall₂ (fun a t => Task.Ensures Ok (fun r => r.elim failing (rel a)) t)
      inputs (inputs.map fun a => (f a).run) :=
    List.forall₂_map_right_iff.mpr (List.forall₂_same.mpr fun a _ => hf a)
  exact forall₂_of_gathered (Pool.ensures_exec hact hstart schedule) h

end Attempt

end Async
