import Mathlib.Data.List.Basic

/-!
# The first match

`re.search` over a list of characters: a matcher is tried at every position, from the left, and
the first position where it finds something decides (`firstMatch`). A matcher is any function
from what is left of the text to what it finds there.

Where the matcher never reads past a separator (`StopsAt`), text that was joined with that
separator can be searched piece by piece: what is found is what is found in front of the
separator, or else behind it (`firstMatch_append`). This is how a pattern applied to an excerpt
made of fields, one after the other, is related to the fields themselves, and where it fails to
be: a pattern that reads over the separator finds something that no field holds.

The last lemmas are about runs of characters of one class, as a greedy repetition takes them:
such a run ends at a separator that is not of the class.
-/

namespace Py

variable {α β : Type}

/-- What the matcher finds at the first position where it finds something. -/
def firstMatch (m : List α → Option β) : List α → Option β
  | [] => m []
  | x :: xs => (m (x :: xs)).or (firstMatch m xs)

/-- The matcher reads no further than `sep`. -/
def StopsAt (m : List α → Option β) (sep : α) : Prop := ∀ xs ys, m (xs ++ sep :: ys) = m xs

/-! ### Searching pieces -/

section

variable {m : List α → Option β} {sep : α}

/-- Where the text does not match, the search goes on with its rest. -/
theorem firstMatch_cons_of_none {x : α} {xs : List α} (h : m (x :: xs) = none) :
    firstMatch m (x :: xs) = firstMatch m xs := by
  rw [firstMatch, h, Option.none_or]

/-- A search finds what is in front of the separator, or else what is behind it. -/
theorem firstMatch_append (h : StopsAt m sep) (xs ys : List α) :
    firstMatch m (xs ++ sep :: ys) = (firstMatch m xs).or (firstMatch m ys) := by
  induction xs with
  | nil =>
    have hnil : m (sep :: ys) = m [] := h [] ys
    change (m (sep :: ys)).or (firstMatch m ys) = (m []).or (firstMatch m ys)
    rw [hnil]
  | cons x xs ih =>
    have hcons : m (x :: (xs ++ sep :: ys)) = m (x :: xs) := h (x :: xs) ys
    change (m (x :: (xs ++ sep :: ys))).or (firstMatch m (xs ++ sep :: ys)) =
      ((m (x :: xs)).or (firstMatch m xs)).or (firstMatch m ys)
    rw [hcons, ih, Option.or_assoc]

end

/-! ### Runs of characters -/

section

variable {p : α → Bool} {sep : α}

/-- A run of characters ends at a separator that is not one of them. -/
theorem takeWhile_append_sep (h : p sep = false) (xs ys : List α) :
    (xs ++ sep :: ys).takeWhile p = xs.takeWhile p := by
  induction xs with
  | nil => simp [h]
  | cons x xs ih => simp only [List.cons_append, List.takeWhile_cons, ih]

/-- A run of characters that ends at a separator does not reach beyond it. -/
theorem dropWhile_append_sep (h : p sep = false) (xs ys : List α) :
    (xs ++ sep :: ys).dropWhile p = xs.dropWhile p ++ sep :: ys := by
  induction xs with
  | nil => simp [h]
  | cons x xs ih =>
    simp only [List.cons_append, List.dropWhile_cons, ih]
    split <;> rfl

end

end Py
