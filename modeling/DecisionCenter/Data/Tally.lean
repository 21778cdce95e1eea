import Mathlib.Algebra.BigOperators.Group.List.Basic
import Mathlib.Algebra.Order.Monoid.Unbundled.Basic

/-!
# Tallies

A dictionary of running totals: `d[k] = d.get(k, 0) + x`. It is the list of its items, in the
order in which the keys came.

What a key has in the end is the running total of what was added under it, in that order
(`get_addAll_eq_runningTotal`). Addition need not be associative, as that of floating-point
numbers is not; that zero is neutral is all that is used. Where addition is associative and
commutative, a key has the sum of what was added under it (`get_addAll`).

`totalBy` sums the values of all keys, each taken through a function into a type where addition
is exact. One addition changes that sum by what it changes the value of its own key by
(`totalBy_add`), which is how the total of a dictionary is compared with a total that is kept
beside it.

The second half is about the items as such: additions under keys that are there leave the keys
as they are, no key gets a second item (`nodup_addAll`), and in a dictionary with different keys
an item is what its key has (`get_of_mem`). Running totals are monotone in what they begin with,
and no less than it, wherever addition has these properties.
-/

namespace DecisionCenter

variable {κ M N α : Type}

/-! ### Running totals -/

/-- `for y in ys: x += y` -/
def runningTotal [Add M] (x : M) (ys : List M) : M := ys.foldl (· + ·) x

@[simp] theorem runningTotal_nil [Add M] (x : M) : runningTotal x [] = x := rfl

@[simp] theorem runningTotal_cons [Add M] (x y : M) (ys : List M) :
    runningTotal x (y :: ys) = runningTotal (x + y) ys := rfl

/-- Where addition is associative, the loop computes a sum. -/
theorem runningTotal_eq_add_sum [AddMonoid M] (x : M) (ys : List M) :
    runningTotal x ys = x + ys.sum := by
  induction ys generalizing x with
  | nil => rw [runningTotal_nil, List.sum_nil, add_zero]
  | cons y ys ih => rw [runningTotal_cons, ih, List.sum_cons, add_assoc]

/-- A running total that begins with more is no less. -/
theorem runningTotal_mono [Add M] [Preorder M] [AddRightMono M] {x y : M} (h : x ≤ y)
    (zs : List M) : runningTotal x zs ≤ runningTotal y zs := by
  induction zs generalizing x y with
  | nil => exact h
  | cons z zs ih => exact ih (add_le_add_left h z)

/-- A total does not fall while nothing negative is added, even if each step is rounded. -/
theorem le_runningTotal [AddZeroClass M] [Preorder M] [AddLeftMono M] (x : M) {ys : List M}
    (h : ∀ y ∈ ys, 0 ≤ y) : x ≤ runningTotal x ys := by
  induction ys generalizing x with
  | nil => exact le_rfl
  | cons y ys ih =>
    obtain ⟨hy, h⟩ := List.forall_mem_cons.mp h
    exact (le_add_of_nonneg_right hy).trans (ih (x + y) h)

/-- A sum over some elements is one over all, in which the others count zero. -/
theorem sum_map_filter [AddCommMonoid M] (p : α → Prop) [DecidablePred p] (value : α → M)
    (l : List α) :
    ((l.filter p).map value).sum = (l.map fun x => if p x then value x else 0).sum := by
  induction l with
  | nil => rfl
  | cons x l ih =>
    rw [List.filter_cons, List.map_cons, List.sum_cons, ← ih]
    by_cases hx : p x
    · rw [if_pos (decide_eq_true hx), if_pos hx, List.map_cons, List.sum_cons]
    · rw [if_neg (by simpa using hx), if_neg hx, zero_add]

/-! ### Tallies -/

/-- A dictionary of running totals, as its items. -/
abbrev Tally (κ M : Type) := List (κ × M)

namespace Tally

section Operations

variable [DecidableEq κ]

/-- `d[k] = d.get(k, 0) + x` -/
def add [Add M] (k : κ) (x : M) : Tally κ M → Tally κ M
  | [] => [(k, x)]
  | (j, y) :: d => if j = k then (j, y + x) :: d else (j, y) :: add k x d

/-- `d.get(k, 0)` -/
def get [Zero M] (k : κ) : Tally κ M → M
  | [] => 0
  | (j, y) :: d => if j = k then y else get k d

/-- `d[k] = x` -/
def set (k : κ) (x : M) : Tally κ M → Tally κ M
  | [] => [(k, x)]
  | (j, y) :: d => if j = k then (j, x) :: d else (j, y) :: set k x d

/-- The elements of a list, added one after another. -/
def addAll [Add M] (key : α → κ) (value : α → M) (l : List α) (d : Tally κ M) : Tally κ M :=
  l.foldl (fun d x => d.add (key x) (value x)) d

end Operations

@[simp] theorem addAll_nil [DecidableEq κ] [Add M] (key : α → κ) (value : α → M)
    (d : Tally κ M) : addAll key value [] d = d := rfl

/-- Counting two lists is counting one and then the other. -/
theorem addAll_append [DecidableEq κ] [Add M] (key : α → κ) (value : α → M) (l l' : List α)
    (d : Tally κ M) : addAll key value (l ++ l') d = addAll key value l' (addAll key value l d) :=
  List.foldl_append

/-- The sum of the values, each taken through `f`. -/
def totalBy [AddMonoid N] (f : M → N) (d : Tally κ M) : N := (d.map fun item => f item.2).sum

/-! ### Values -/

/-- What is found under a key after a write. -/
theorem get_set [DecidableEq κ] [Zero M] (d : Tally κ M) (j k : κ) (x : M) :
    (d.set j x).get k = if j = k then x else d.get k := by
  induction d with
  | nil => rfl
  | cons item d ih =>
    obtain ⟨i, y⟩ := item
    rw [set]
    by_cases hij : i = j
    · subst hij
      rw [if_pos rfl, get, get]
      split <;> rfl
    · rw [if_neg hij, get, get, ih]
      by_cases hik : i = k
      · subst hik
        rw [if_pos rfl, if_neg (Ne.symm hij), if_pos rfl]
      · rw [if_neg hik, if_neg hik]

/-- Where every value is zero, so is what is read. -/
theorem get_of_zero [DecidableEq κ] [Zero M] {d : Tally κ M} (h : ∀ item ∈ d, item.2 = 0) (k : κ) :
    d.get k = 0 := by
  induction d with
  | nil => rfl
  | cons item d ih =>
    obtain ⟨hitem, h⟩ := List.forall_mem_cons.mp h
    rw [get]
    split
    · exact hitem
    · exact ih h

section Values

variable [DecidableEq κ] [AddZeroClass M]

/-- What is found under a key after an addition. -/
theorem get_add (d : Tally κ M) (j k : κ) (x : M) :
    (d.add j x).get k = if j = k then d.get k + x else d.get k := by
  induction d with
  | nil =>
    rw [add, get, get, get, zero_add]
  | cons item d ih =>
    obtain ⟨i, y⟩ := item
    rw [add, get]
    by_cases hij : i = j
    · subst hij
      rw [if_pos rfl, get]
      split <;> rfl
    · rw [if_neg hij, get]
      split
      · next hik =>
        subst hik
        rw [if_neg (Ne.symm hij)]
      · exact ih

/-- An addition changes the sum of the values by what it changes the value of its key by. -/
theorem totalBy_add [AddCommMonoid N] {f : M → N} (hf : f 0 = 0) (d : Tally κ M) (k : κ) (x : M) :
    (d.add k x).totalBy f + f (d.get k) = d.totalBy f + f (d.get k + x) := by
  induction d with
  | nil =>
    have hadd : totalBy f (add k x []) = f x + 0 := rfl
    rw [hadd, get, hf, zero_add, add_zero, add_zero]
    exact (zero_add _).symm
  | cons item d ih =>
    obtain ⟨j, y⟩ := item
    have hcons (y : M) (d : Tally κ M) : totalBy f ((j, y) :: d) = f y + d.totalBy f := rfl
    rw [add, get]
    split
    · rw [hcons, hcons, add_comm, add_comm (f (y + x)), add_assoc]
    · rw [hcons, hcons, add_assoc, ih, add_assoc]

/-- What a loop leaves under a key is a running total over the elements with this key, in whatever
way addition rounds. -/
theorem get_addAll_eq_runningTotal (key : α → κ) (value : α → M) (l : List α) (d : Tally κ M)
    (k : κ) : (addAll key value l d).get k =
      runningTotal (d.get k) ((l.filter fun x => key x = k).map value) := by
  induction l generalizing d with
  | nil => rfl
  | cons x l ih =>
    have hstep : addAll key value (x :: l) d = addAll key value l (d.add (key x) (value x)) := rfl
    rw [hstep, ih, get_add, List.filter_cons]
    by_cases hx : key x = k
    · rw [if_pos hx, if_pos (decide_eq_true hx), List.map_cons, runningTotal_cons]
    · rw [if_neg hx, if_neg (by simpa using hx)]

end Values

/-- With an exact addition it is a sum over all elements. -/
theorem get_addAll [DecidableEq κ] [AddCommMonoid M] (key : α → κ) (value : α → M) (l : List α)
    (d : Tally κ M) (k : κ) :
    (addAll key value l d).get k =
      d.get k + (l.map fun x => if key x = k then value x else 0).sum := by
  rw [get_addAll_eq_runningTotal, runningTotal_eq_add_sum, sum_map_filter]

/-! ### Items -/

section Items

variable [DecidableEq κ] [Add M]

/-- An addition appends its key if it is new. -/
theorem keys_add (d : Tally κ M) (k : κ) (x : M) :
    (d.add k x).map Prod.fst =
      if k ∈ d.map Prod.fst then d.map Prod.fst else d.map Prod.fst ++ [k] := by
  induction d with
  | nil => rfl
  | cons item d ih =>
    obtain ⟨j, y⟩ := item
    rw [add]
    by_cases hjk : j = k
    · rw [if_pos hjk, if_pos (by simp [hjk]), List.map_cons, List.map_cons]
    · rw [if_neg hjk, List.map_cons, ih, List.map_cons]
      by_cases hk : k ∈ d.map Prod.fst
      · rw [if_pos hk, if_pos (List.mem_cons_of_mem _ hk)]
      · have hnew : k ∉ j :: d.map Prod.fst := by
          rw [List.mem_cons, not_or]
          exact ⟨Ne.symm hjk, hk⟩
        rw [if_neg hk, if_neg hnew]
        rfl

/-- A write appends its key if it is new. -/
theorem keys_set (d : Tally κ M) (k : κ) (x : M) :
    (d.set k x).map Prod.fst =
      if k ∈ d.map Prod.fst then d.map Prod.fst else d.map Prod.fst ++ [k] := by
  have hsame : (d.set k x).map Prod.fst = (d.add k x).map Prod.fst := by
    induction d with
    | nil => rfl
    | cons item d ih =>
      obtain ⟨j, y⟩ := item
      rw [set, add]
      split
      · rfl
      · rw [List.map_cons, List.map_cons, ih]
  rw [hsame, keys_add]

/-- Additions under keys that are there leave the keys as they are. -/
theorem keys_addAll {key : α → κ} (value : α → M) {l : List α} {d : Tally κ M}
    (h : ∀ x ∈ l, key x ∈ d.map Prod.fst) :
    (addAll key value l d).map Prod.fst = d.map Prod.fst := by
  induction l generalizing d with
  | nil => rfl
  | cons x l ih =>
    obtain ⟨hx, h⟩ := List.forall_mem_cons.mp h
    have hadd : (d.add (key x) (value x)).map Prod.fst = d.map Prod.fst := by
      rw [keys_add, if_pos hx]
    have hstep : addAll key value (x :: l) d = addAll key value l (d.add (key x) (value x)) := rfl
    rw [hstep, ih (by rwa [hadd]), hadd]

/-- The keys after an addition. -/
theorem mem_keys_add {d : Tally κ M} {j k : κ} {x : M} :
    k ∈ (d.add j x).map Prod.fst ↔ k ∈ d.map Prod.fst ∨ k = j := by
  rw [keys_add]
  split
  · next hj => exact ⟨.inl, fun h => h.elim id fun hkj => hkj ▸ hj⟩
  · rw [List.mem_append, List.mem_singleton]

/-- The keys after a loop. -/
theorem mem_keys_addAll {key : α → κ} {value : α → M} {l : List α} {d : Tally κ M} {k : κ} :
    k ∈ (addAll key value l d).map Prod.fst ↔ k ∈ d.map Prod.fst ∨ ∃ x ∈ l, k = key x := by
  induction l generalizing d with
  | nil => simp
  | cons x l ih =>
    have hstep : addAll key value (x :: l) d = addAll key value l (d.add (key x) (value x)) := rfl
    rw [hstep, ih, mem_keys_add, List.exists_mem_cons_iff, or_assoc]

/-- No key is there twice. -/
theorem nodup_add {d : Tally κ M} (h : (d.map Prod.fst).Nodup) (k : κ) (x : M) :
    ((d.add k x).map Prod.fst).Nodup := by
  rw [keys_add]
  split
  · exact h
  · next hk =>
    rw [List.nodup_append]
    refine ⟨h, by simp, ?_⟩
    rintro j hj i hi rfl
    exact hk (List.mem_singleton.mp hi ▸ hj)

/-- Every key has one item. -/
theorem nodup_addAll (key : α → κ) (value : α → M) (l : List α) {d : Tally κ M}
    (h : (d.map Prod.fst).Nodup) : ((addAll key value l d).map Prod.fst).Nodup := by
  induction l generalizing d with
  | nil => exact h
  | cons x l ih => exact ih (nodup_add h (key x) (value x))

end Items

/-- Without repeated keys, an item is what is found under its key. -/
theorem get_of_mem [DecidableEq κ] [Zero M] {d : Tally κ M} (h : (d.map Prod.fst).Nodup) {k : κ}
    {x : M} (hmem : (k, x) ∈ d) : d.get k = x := by
  induction d with
  | nil => cases hmem
  | cons item d ih =>
    obtain ⟨j, y⟩ := item
    obtain ⟨hj, h⟩ := List.nodup_cons.mp h
    rw [get]
    rcases List.mem_cons.mp hmem with heq | hmem
    · obtain ⟨rfl, rfl⟩ := Prod.mk.inj heq
      exact if_pos rfl
    · have hne : j ≠ k := by
        rintro rfl
        exact hj (List.mem_map.mpr ⟨(j, x), hmem, rfl⟩)
      rw [if_neg hne]
      exact ih h hmem

end Tally

end DecisionCenter
