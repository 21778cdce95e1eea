import Mathlib.Data.List.Basic

/-!
# Grouping by key

A dictionary of lists, filled by appending each element to the list of its key:
`d.setdefault(k, []).append(x)` in a loop. The dictionary is the list of its items, in the order
in which the keys came, as an interpreter iterates over it.

Looked up, a key has the elements that carry it, in their order (`get_groupBy`). So a loop that
fills the dictionary first and looks keys up afterwards can be replaced by a filter of the list,
and what is known of filters is known of groups: that a group is empty just if nothing carries
its key, that it has one element just if one does.

The induction is on the elements that are still to be added, from any dictionary
(`get_foldl_add`); the groups of the empty one are the special case. Of keys it is only used
that equality can be decided.
-/

namespace Grouping

variable {α κ : Type} [DecidableEq κ]

/-- A dictionary of lists, as its items. -/
abbrev Groups (κ α : Type) := List (κ × List α)

/-- `d.setdefault(k, []).append(x)` -/
def add (d : Groups κ α) (k : κ) (x : α) : Groups κ α :=
  match d with
  | [] => [(k, [x])]
  | (j, xs) :: d => if j = k then (j, xs ++ [x]) :: d else (j, xs) :: add d k x

/-- `d.get(k, [])` -/
def get (d : Groups κ α) (k : κ) : List α :=
  match d with
  | [] => []
  | (j, xs) :: d => if j = k then xs else get d k

/-- The elements of a list under their keys. -/
def groupBy (key : α → κ) (l : List α) : Groups κ α := l.foldl (fun d x => add d (key x) x) []

/-- The group of a key after one element has been added. Only the group that the element belongs to
is longer. -/
theorem get_add (d : Groups κ α) (j k : κ) (x : α) :
    get (add d j x) k = get d k ++ if j = k then [x] else [] := by
  induction d with
  | nil =>
    rw [add, get, get, List.nil_append]
    rfl
  | cons item d ih =>
    obtain ⟨i, xs⟩ := item
    rw [add, get]
    by_cases hij : i = j
    · subst hij
      rw [if_pos rfl, get]
      split
      · rfl
      · exact (List.append_nil _).symm
    · rw [if_neg hij, get]
      split
      · next hik =>
        subst hik
        rw [if_neg (Ne.symm hij), List.append_nil]
      · exact ih

/-- The group of a key after a list: what it had, and the elements with this key in their order. -/
theorem get_foldl_add (key : α → κ) (d : Groups κ α) (l : List α) (k : κ) :
    get (l.foldl (fun d x => add d (key x) x) d) k =
      get d k ++ l.filter fun x => key x = k := by
  induction l generalizing d with
  | nil => exact (List.append_nil _).symm
  | cons x l ih =>
    rw [List.foldl_cons, ih, get_add, List.append_assoc, List.filter_cons]
    by_cases h : key x = k <;> simp [h]

/-- The group of a key is what carries it. -/
theorem get_groupBy (key : α → κ) (l : List α) (k : κ) :
    get (groupBy key l) k = l.filter fun x => key x = k := get_foldl_add key [] l k

end Grouping
