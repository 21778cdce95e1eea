import Mathlib.Data.List.Sort

/-!
# The head of a ranking

A list is ranked and cut, and what is left is searched for strong elements. Where no weak
element stands before a strong one, cutting the list and selecting the strong elements can be
done in either order (`filter_take`): what is left of them is a cut of themselves.

So a cut with room for two shows whether there is one strong element, several or none.
`filter_take_eq_singleton` and `filter_take_eq_nil` say so for any list that has been sorted by
a relation which puts strong elements before weak ones, in whatever order the list was before it
was sorted: the strong elements of a sorted list are those of the list, up to their order.

Nothing is asked of the relation beyond what a stable sort needs, and the order among strong
elements plays no part. That is what makes the verdict drawn from a cut ranking independent of
the order in which a service returned its hits, where the scores separate strong hits from weak
ones.
-/

namespace Ranking

variable {α : Type} {strong : α → Bool}

/-- In a list where nothing stands before a strong element but strong ones, cutting and selecting
them commute. -/
theorem filter_take {l : List α} (hl : l.Pairwise fun x y => strong y = true → strong x = true)
    (n : ℕ) : (l.take n).filter strong = (l.filter strong).take n := by
  induction l generalizing n with
  | nil => rw [List.take_nil, List.filter_nil, List.take_nil]
  | cons x l ih =>
    obtain ⟨hx, hl⟩ := List.pairwise_cons.mp hl
    cases n with
    | zero => rfl
    | succ n =>
      rw [List.take_succ_cons, List.filter_cons, List.filter_cons, ih hl]
      split
      · rw [List.take_succ_cons]
      · next hweak =>
        -- nothing behind a weak element is strong
        have hnone : l.filter strong = [] :=
          List.filter_eq_nil_iff.mpr fun y hy hstrong => hweak (hx y hy hstrong)
        rw [hnone, List.take_nil, List.take_nil]

/-- Sorting neither adds strong elements nor loses any. -/
theorem strong_sorted_perm (strong : α → Bool) (before : α → α → Prop)
    [DecidableRel before] (l : List α) :
    ((l.insertionSort before).filter strong).Perm (l.filter strong) :=
  (List.perm_insertionSort before l).filter _

section Sorted

variable {before : α → α → Prop} [DecidableRel before] [Std.Total before] [IsTrans α before]
  (hbefore : ∀ x y, before x y → strong y = true → strong x = true)

include hbefore

/-- Where strong elements come first, a cut cuts them like any list. -/
theorem filter_take_sorted (l : List α) (n : ℕ) :
    ((l.insertionSort before).take n).filter strong =
      ((l.insertionSort before).filter strong).take n :=
  filter_take ((List.pairwise_insertionSort before l).imp fun {x y} => hbefore x y) n

/-- A cut with room for two has one strong element just if the list has. -/
theorem filter_take_eq_singleton {l : List α} {n : ℕ} (hn : 2 ≤ n) {x : α} :
    ((l.insertionSort before).take n).filter strong = [x] ↔ l.filter strong = [x] := by
  have hperm := strong_sorted_perm strong before l
  rw [filter_take_sorted hbefore]
  constructor
  · intro h
    have hlength := congrArg List.length h
    rw [List.length_take, List.length_singleton] at hlength
    rw [List.take_of_length_le (by omega)] at h
    exact List.perm_singleton.mp (h ▸ hperm.symm)
  · intro h
    have hsorted := List.perm_singleton.mp (h ▸ hperm)
    rw [hsorted]
    exact List.take_of_length_le (by rw [List.length_singleton]; omega)

/-- A cut behind the second element leaves a strong one if there is one. -/
theorem filter_take_eq_nil {l : List α} {n : ℕ} (hn : 2 ≤ n) :
    ((l.insertionSort before).take n).filter strong = [] ↔ l.filter strong = [] := by
  have hlength := (strong_sorted_perm strong before l).length_eq
  rw [filter_take_sorted hbefore, ← List.length_eq_zero_iff, ← List.length_eq_zero_iff,
    List.length_take]
  omega

end Sorted

end Ranking
