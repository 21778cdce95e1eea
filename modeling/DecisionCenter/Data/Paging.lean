import Mathlib.Data.List.Sort
import Mathlib.Data.List.Nodup
import Mathlib.Order.Defs.LinearOrder

/-!
# Filtered, ordered and paged reads

A `SELECT … WHERE … ORDER BY key DESC LIMIT … OFFSET …` over a list of rows. A condition on a
column that may be null is neither true nor false of a row without a value, and so has values in
`Option Bool`; a row is selected when all conditions are true of it, and `selects_iff` takes a
list of conditions apart.

The order is a merge sort by the key. It leaves the rows as they are up to their order
(`orderByDesc_perm`), and it is strict where no key occurs twice (`pairwise_orderByDesc`). Where
keys do occur twice nothing is promised, as a database promises nothing: two queries may then
order the same rows differently, and a page of the one need not fit to a page of the other.

`page` is one answer, and `everyPage` what a client reads that asks for one page after the
other, as far as the total of the first answer goes. A query whose pages are cut from one and
the same list of rows, and which reports the length of that list, shows the list, whatever the
size of a page is (`everyPage_page`).
-/

namespace Table

variable {α κ : Type}

/-! ### Conditions -/

/-- A condition of a `WHERE` clause: `none` is neither true nor false. -/
abbrev Condition (α : Type) : Type := α → Option Bool

/-- `col = v` -/
def isEq [DecidableEq κ] (col : α → Option κ) (v : κ) : Condition α := fun r =>
  (col r).map fun x => decide (x = v)

/-- `col <> v` -/
def isNe [DecidableEq κ] (col : α → Option κ) (v : κ) : Condition α := fun r =>
  (col r).map fun x => decide (x ≠ v)

/-- A condition on columns that are never null. -/
def isTrue (p : α → Bool) : Condition α := fun r => some (p r)

@[simp] theorem isEq_eq_true [DecidableEq κ] {col : α → Option κ} {v : κ} {r : α} :
    isEq col v r = some true ↔ col r = some v := by
  cases h : col r <;> simp [isEq, h]

@[simp] theorem isNe_eq_true [DecidableEq κ] {col : α → Option κ} {v : κ} {r : α} :
    isNe col v r = some true ↔ ∃ x, col r = some x ∧ x ≠ v := by
  cases h : col r <;> simp [isNe, h]

@[simp] theorem isTrue_eq_true {p : α → Bool} {r : α} : isTrue p r = some true ↔ p r = true := by
  simp [isTrue]

/-- The row is selected. -/
def selects (conds : List (Condition α)) (r : α) : Bool := conds.all fun c => c r = some true

/-- A row is selected if all the conditions are true of it; `NULL` is not enough. -/
theorem selects_iff {conds : List (Condition α)} {r : α} :
    selects conds r = true ↔ ∀ c ∈ conds, c r = some true := by
  simp [selects]

/-- The conditions may be given in two parts. -/
theorem selects_append (conds conds' : List (Condition α)) (r : α) :
    selects (conds ++ conds') r = (selects conds r && selects conds' r) := List.all_append

/-! ### Order -/

section Order

variable [LinearOrder κ] (key : α → κ)

/-- `ORDER BY key DESC` -/
def orderByDesc (rows : List α) : List α := rows.insertionSort fun r r' => key r' ≤ key r

/-- Ordering loses no row and makes up none. -/
theorem orderByDesc_perm (rows : List α) : (orderByDesc key rows).Perm rows :=
  List.perm_insertionSort _ _

/-- Ordering does not change the number of rows. -/
theorem length_orderByDesc (rows : List α) : (orderByDesc key rows).length = rows.length :=
  (orderByDesc_perm key rows).length_eq

variable {key}

/-- The rows are in falling order. -/
theorem sorted_orderByDesc (rows : List α) :
    (orderByDesc key rows).Pairwise fun r r' => key r' ≤ key r := by
  let desc : α → α → Prop := fun r r' => key r' ≤ key r
  have htotal : Std.Total desc := ⟨fun r r' => le_total (key r') (key r)⟩
  have htrans : IsTrans α desc := ⟨fun _ _ _ hab hbc => le_trans hbc hab⟩
  exact List.pairwise_insertionSort desc rows

/-- With distinct keys, the order is strict. -/
theorem pairwise_orderByDesc {rows : List α} (h : (rows.map key).Nodup) :
    (orderByDesc key rows).Pairwise fun r r' => key r' < key r := by
  have hnodup : ((orderByDesc key rows).map key).Nodup :=
    ((orderByDesc_perm key rows).map key).nodup_iff.mpr h
  have hne : (orderByDesc key rows).Pairwise fun r r' => key r ≠ key r' :=
    List.pairwise_map.mp hnodup
  exact ((sorted_orderByDesc rows).and hne).imp fun hpair =>
    lt_of_le_of_ne hpair.1 hpair.2.symm

end Order

/-! ### Pages -/

/-- `LIMIT limit OFFSET offset` -/
def page (limit offset : ℕ) (rows : List α) : List α := (rows.drop offset).take limit

/-- The first `n` pages of a query, put together. -/
def pages (limit n : ℕ) (query : ℕ → List α) : List α :=
  (List.range n).flatMap fun k => query (k * limit)

/-- The first pages, put together, are the first rows. -/
theorem pages_page (limit n : ℕ) (rows : List α) :
    pages limit n (fun offset => page limit offset rows) = rows.take (n * limit) := by
  induction n with
  | zero => simp [pages]
  | succ n ih =>
    have hsplit : pages limit (n + 1) (fun offset => page limit offset rows) =
        pages limit n (fun offset => page limit offset rows) ++ page limit (n * limit) rows := by
      rw [pages, List.range_succ, List.flatMap_append, List.flatMap_singleton]
      rfl
    rw [hsplit, ih, page, Nat.succ_mul, List.take_add]

/-- Enough pages are all of the rows. -/
theorem pages_page_of_le {limit n : ℕ} {rows : List α} (h : rows.length ≤ n * limit) :
    pages limit n (fun offset => page limit offset rows) = rows := by
  rw [pages_page, List.take_of_length_le h]

/-- The number of pages of `total` rows. -/
def pageCount (total limit : ℕ) : ℕ := (total + limit - 1) / limit

/-- The pages that are counted have room for all rows. -/
theorem le_pageCount_mul (total : ℕ) {limit : ℕ} (h : 0 < limit) :
    total ≤ pageCount total limit * limit := by
  have hmod := Nat.mod_lt (total + limit - 1) h
  have hdiv := Nat.div_add_mod' (total + limit - 1) limit
  rw [pageCount]
  omega

/-- What a client reads that asks for one page after the other, as far as the total reported with
the first one goes. -/
def everyPage (limit : ℕ) (query : ℕ → List α × ℕ) : List α :=
  pages limit (pageCount (query 0).2 limit) fun offset => (query offset).1

/-- A query that pages through `rows` and reports their number shows `rows`. -/
theorem everyPage_page {limit : ℕ} {rows : List α} (h : 0 < limit) :
    everyPage limit (fun offset => (page limit offset rows, rows.length)) = rows :=
  pages_page_of_le (le_pageCount_mul rows.length h)

end Table
