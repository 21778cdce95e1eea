import Mathlib.Data.List.Basic

/-!
# Runs of a step function

A system is a step function on states, and a run is a list of actions taken one after another.
`exec` is the state a run ends in, `Along` says that every step of a run meets a condition in
the state it is taken from, and `Throughout` that every state which a run passes through has a
property.

An invariant is carried along a run by `exec_induction`: it holds at the start and is preserved
by every step that meets the condition. `exec_invariant` is the case without a condition.

Where a step keeps a property exactly when it meets a condition, a run keeps the property
throughout exactly when it meets the condition along (`throughout_iff_along`, and with an
invariant and a side condition `throughout_iff_along_of_along`). That is the form in which exact
conditions for the behaviour of a whole run are proved: the work is on one step, and the
equivalence for runs comes from here. The property must be one of states, and where it fails
once it need not fail for good: the first step that leaves it is the one that does not meet the
condition.

`Along` is decidable where its condition is, so that a run on fixed inputs can be evaluated.
-/

namespace Async.Run

variable {S A : Type} (step : S → A → S)

/-- The state after a run. -/
def exec (s : S) (run : List A) : S := run.foldl step s

/-- Each step of the run meets `P` in the state it is taken from. -/
def Along (P : S → A → Prop) : S → List A → Prop
  | _, [] => True
  | s, a :: run => P s a ∧ Along P (step s a) run

instance decidableAlong (P : S → A → Prop) [∀ s a, Decidable (P s a)] (s : S) :
    (run : List A) → Decidable (Along step P s run)
  | [] => isTrue trivial
  | a :: run =>
    have := decidableAlong P (step s a) run
    inferInstanceAs (Decidable (P s a ∧ Along step P (step s a) run))

/-- `P` holds of every state the run passes through. -/
def Throughout (P : S → Prop) (s : S) (run : List A) : Prop :=
  ∀ before after, run = before ++ after → P (exec step s before)

@[simp] theorem exec_nil (s : S) : exec step s [] = s := rfl

@[simp] theorem exec_cons (s : S) (a : A) (run : List A) :
    exec step s (a :: run) = exec step (step s a) run := rfl

/-- A run in two parts goes on from where its first part ends. -/
theorem exec_append (s : S) (run run' : List A) :
    exec step s (run ++ run') = exec step (exec step s run) run' := List.foldl_append

variable {step} {P Q : S → A → Prop}

/-- A condition holds along a run in two parts just if it holds along the first, and along the
second from there. -/
theorem along_append {s : S} {run run' : List A} :
    Along step P s (run ++ run') ↔ Along step P s run ∧ Along step P (exec step s run) run' := by
  induction run generalizing s with
  | nil => simp [Along]
  | cons a run ih => simp only [List.cons_append, Along, ih, exec_cons, and_assoc]

/-- A condition met along a run is met by every step that follows a prefix of it. -/
theorem along_iff {s : S} {run : List A} :
    Along step P s run ↔
      ∀ before a after, run = before ++ a :: after → P (exec step s before) a := by
  constructor
  · rintro h before a after rfl
    exact (along_append.mp h).2.1
  · induction run generalizing s with
    | nil => intro _; trivial
    | cons a run ih =>
      intro h
      refine ⟨h [] a run rfl, ih fun before b after hb => ?_⟩
      subst hb
      exact h (a :: before) b after rfl

/-- A condition on the steps of a run may be weakened. -/
theorem Along.mono {s : S} {run : List A} (h : Along step P s run)
    (hPQ : ∀ s a, P s a → Q s a) : Along step Q s run :=
  along_iff.mpr fun before a after hrun => hPQ _ a (along_iff.mp h before a after hrun)

/-- Two conditions hold along a run together or each by itself. -/
theorem along_and {s : S} {run : List A} :
    Along step (fun s a => P s a ∧ Q s a) s run ↔ Along step P s run ∧ Along step Q s run := by
  induction run generalizing s with
  | nil => simp [Along]
  | cons a run ih =>
    simp only [Along, ih]
    exact and_and_and_comm

/-- A property that holds at the start and is preserved by every step that meets `P` holds
after any run all of whose steps meet `P`. -/
theorem exec_induction {Inv : S → Prop} (hstep : ∀ s a, Inv s → P s a → Inv (step s a))
    {run : List A} : ∀ {s : S}, Inv s → Along step P s run → Inv (exec step s run) := by
  induction run with
  | nil => intro s hs _; exact hs
  | cons a run ih =>
    rintro s hs ⟨ha, hrun⟩
    exact ih (hstep s a hs ha) hrun

/-- An invariant of every step holds after every run. -/
theorem exec_invariant {Inv : S → Prop} (hstep : ∀ s a, Inv s → Inv (step s a)) {s : S}
    (hs : Inv s) (run : List A) : Inv (exec step s run) := by
  induction run generalizing s with
  | nil => exact hs
  | cons a run ih => exact ih (hstep s a hs)

/-- Two conditions that agree wherever an invariant holds are met along the same runs. -/
theorem along_congr {Inv : S → Prop} (hstep : ∀ s a, Inv s → Inv (step s a))
    (h : ∀ s a, Inv s → (P s a ↔ Q s a)) {s : S} (hs : Inv s) (run : List A) :
    Along step P s run ↔ Along step Q s run := by
  induction run generalizing s with
  | nil => exact Iff.rfl
  | cons a run ih => exact and_congr (h s a hs) (ih (hstep s a hs))

/-- A run without steps passes through its start alone. -/
theorem throughout_nil {G : S → Prop} {s : S} : Throughout step G s [] ↔ G s := by
  constructor
  · exact fun h => h [] [] rfl
  · rintro h before after hrun
    obtain ⟨rfl, -⟩ := List.append_eq_nil_iff.mp hrun.symm
    exact h

/-- A run passes through its start and the states of the rest of it. -/
theorem throughout_cons {G : S → Prop} {s : S} {a : A} {run : List A} :
    Throughout step G s (a :: run) ↔ G s ∧ Throughout step G (step s a) run := by
  constructor
  · refine fun h => ⟨h [] (a :: run) rfl, fun before after hrun => ?_⟩
    exact h (a :: before) after (by rw [hrun, List.cons_append])
  · rintro ⟨hs, h⟩ before after hrun
    cases before with
    | nil => exact hs
    | cons b before =>
      obtain ⟨rfl, htail⟩ := List.cons.inj hrun
      exact h before after htail

/-- Along a run whose steps meet `P`, where such a step keeps `G` exactly when it meets `Q`, all
states have `G` exactly when all steps meet `Q`. -/
theorem throughout_iff_along_of_along {Inv G : S → Prop}
    (hstep : ∀ s a, Inv s → Inv (step s a))
    (h : ∀ s a, Inv s → P s a → G s → (G (step s a) ↔ Q s a)) {s : S} (hs : Inv s) (hg : G s)
    {run : List A} (hrun : Along step P s run) :
    Throughout step G s run ↔ Along step Q s run := by
  induction run generalizing s with
  | nil => exact iff_of_true (throughout_nil.mpr hg) trivial
  | cons a run ih =>
    obtain ⟨ha, hrun⟩ := hrun
    rw [throughout_cons]
    constructor
    · rintro ⟨-, hrest⟩
      have hg' : G (step s a) := hrest [] run rfl
      exact ⟨(h s a hs ha hg).mp hg', (ih (hstep s a hs) hg' hrun).mp hrest⟩
    · rintro ⟨hq, hrest⟩
      have hg' : G (step s a) := (h s a hs ha hg).mpr hq
      exact ⟨hg, (ih (hstep s a hs) hg' hrun).mpr hrest⟩

/-- The empty condition holds along every run. -/
theorem along_true {s : S} (run : List A) : Along step (fun _ _ => True) s run :=
  along_iff.mpr fun _ _ _ _ => trivial

/-- Where a step keeps `G` exactly when it meets `Q`, a run passes through states with `G` only
exactly when all of its steps meet `Q`. -/
theorem throughout_iff_along {Inv G : S → Prop} (hstep : ∀ s a, Inv s → Inv (step s a))
    (h : ∀ s a, Inv s → G s → (G (step s a) ↔ Q s a)) {s : S} (hs : Inv s) (hg : G s)
    (run : List A) : Throughout step G s run ↔ Along step Q s run :=
  throughout_iff_along_of_along hstep (fun s a hs _ hg => h s a hs hg) hs hg (along_true run)

end Async.Run
