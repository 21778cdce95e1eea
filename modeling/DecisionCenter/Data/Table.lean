import Mathlib.Data.List.Nodup
import Mathlib.Data.List.Count

/-!
# Updates of a table

A table is a list of rows, and an `UPDATE` is a partial function on rows: it gives the new row
where its `WHERE` clause holds and nothing elsewhere. `exec` rewrites the matched rows of a
table, `affected` counts them, and `lookup` reads the row of a key. `set` and `setFrom` are the
two forms in use, the second one with the rows of another table joined to each row.

Most of what is to be said of a statement is said of a single row. A statement that does not
write the key of a table (`Keeps`) acts on the row of each key by itself (`lookup_exec`), keeps
the keys and their order (`map_key_exec`), and changes nothing where it matches no row
(`exec_eq_self`).

`upsert` is `INSERT … ON CONFLICT (key) DO UPDATE`: the row of its key is then the one written
and the others are as before (`lookup_upsert`), no key comes to occur twice (`nodup_upsert`),
and a new key comes last.

`settle` takes over one value after another until one is done. Its laws say that settling twice
is settling once and what a value that stays can be; they are about statements that let a
terminal value stand, and about a table joined to its own history.
-/

namespace Table

variable {α β κ : Type}

/-- An `UPDATE` statement: the new row, or `none` where the statement does not match. -/
abbrev Update (α : Type) : Type := α → Option α

/-- `UPDATE … SET f WHERE p` -/
def set (p : α → Bool) (f : α → α) : Update α := fun r => if p r then some (f r) else none

/-- `UPDATE … SET f FROM others WHERE on AND p`: `f` also reads the row of `others` that `on`
joins to the updated one. -/
def setFrom (on : α → β → Bool) (p : α → Bool) (f : β → α → α) (others : List β) : Update α :=
  fun r => if p r then (others.find? (on r)).map fun o => f o r else none

namespace Update

/-- What becomes of a row. -/
def row (u : Update α) (r : α) : α := (u r).getD r

/-- The table after the statement. -/
def exec (u : Update α) (rows : List α) : List α := rows.map u.row

/-- How many rows the statement returns. -/
def affected (u : Update α) (rows : List α) : ℕ := rows.countP fun r => (u r).isSome

/-- The statement does not write the columns `key`. -/
def Keeps (key : α → κ) (u : Update α) : Prop := ∀ r, key (u.row r) = key r

variable {u : Update α} {rows : List α}

/-- A row that the statement does not match is left alone. -/
theorem row_of_none {r : α} (h : u r = none) : u.row r = r := by
  rw [row, h, Option.getD_none]

/-- A row that it matches is replaced. -/
theorem row_of_some {r r' : α} (h : u r = some r') : u.row r = r' := by
  rw [row, h, Option.getD_some]

/-- A statement that matches no row of the table changes nothing. -/
theorem exec_eq_self (h : ∀ r ∈ rows, u r = none) : u.exec rows = rows := by
  have hid : ∀ r ∈ rows, u.row r = id r := fun r hr => row_of_none (h r hr)
  rw [exec, List.map_congr_left hid, List.map_id]

/-- A statement that matches no row affects none. -/
theorem affected_eq_zero (h : ∀ r ∈ rows, u r = none) : u.affected rows = 0 := by
  refine List.countP_eq_zero.mpr fun r hr => ?_
  rw [h r hr]
  exact Bool.false_ne_true

/-- A statement that keeps a column keeps it in the whole table, in order. -/
theorem map_key_exec (rows : List α) {key : α → κ} (h : u.Keeps key) :
    (u.exec rows).map key = rows.map key := by
  rw [exec, List.map_map]
  exact List.map_congr_left fun r _ => h r

end Update

@[simp] theorem row_set (p : α → Bool) (f : α → α) (r : α) :
    (set p f).row r = if p r then f r else r := by
  rw [Update.row, set]
  split <;> rfl

/-- What is set keeps a column if it keeps it in the rows that match. -/
theorem keeps_set_of_eq {key : α → κ} {p : α → Bool} {f : α → α}
    (h : ∀ r, p r = true → key (f r) = key r) : (set p f).Keeps key := by
  intro r
  rw [row_set]
  split
  · next hp => exact h r hp
  · rfl

/-- What is set keeps a column if it keeps it in every row. -/
theorem keeps_set {key : α → κ} {p : α → Bool} {f : α → α} (h : ∀ r, key (f r) = key r) :
    (set p f).Keeps key := keeps_set_of_eq fun r _ => h r

/-- A statement with a join keeps a column if what it sets does. -/
theorem keeps_setFrom {key : α → κ} {on : α → β → Bool} {p : α → Bool} {f : β → α → α}
    {others : List β} (h : ∀ o r, key (f o r) = key r) : (setFrom on p f others).Keeps key := by
  intro r
  rw [Update.row, setFrom]
  split
  · cases others.find? (on r) with
    | none => rfl
    | some o => exact h o r
  · rfl

/-! ### Values that settle -/

/-- Take over one value after the other, until one is done. -/
def settle (done : α → Bool) (x : α) (ys : List α) : α :=
  ys.foldl (fun x y => if done x then x else y) x

/-- What is done is left as it is. -/
theorem settle_of_done {done : α → Bool} {x : α} (h : done x = true) (ys : List α) :
    settle done x ys = x := by
  induction ys with
  | nil => rfl
  | cons y ys ih =>
    rw [settle, List.foldl_cons, if_pos h]
    exact ih

/-- What does not end done does not depend on where it started. -/
theorem settle_cons_of_not_done {done : α → Bool} {x y : α} {ys : List α}
    (h : done (settle done x (y :: ys)) = false) :
    settle done x (y :: ys) = settle done y ys := by
  have hx : done x = false := by
    rw [← Bool.not_eq_true]
    intro hx
    rw [settle_of_done hx, hx] at h
    cases h
  rw [settle, List.foldl_cons, hx]
  rfl

/-- Settling twice is settling once. -/
theorem settle_settle (done : α → Bool) (x : α) (ys : List α) :
    settle done (settle done x ys) ys = settle done x ys := by
  cases h : done (settle done x ys) with
  | true => exact settle_of_done h ys
  | false =>
    cases ys with
    | nil => rfl
    | cons y ys =>
      rw [settle_cons_of_not_done h]
      rw [settle_cons_of_not_done h] at h
      rw [settle, List.foldl_cons, h]
      rfl

/-- Settling is done if it was done before, or one of the values is. -/
theorem done_settle (done : α → Bool) (x : α) (ys : List α) :
    done (settle done x ys) = (done x || ys.any done) := by
  induction ys generalizing x with
  | nil => simp [settle]
  | cons y ys ih =>
    rw [settle, List.foldl_cons, ← settle, ih, List.any_cons]
    cases hx : done x <;> simp [hx]

/-- A value stays when it is done, or when it is the last one and none is. A list is settled on its
first value that is done, and else on the last. -/
theorem settle_eq_self_iff {done : α → Bool} {x y : α} {ys : List α} (hy : ys.getLast? = some y) :
    settle done x ys = x ↔ done x = true ∨ x = y ∧ ∀ z ∈ ys, done z = false := by
  obtain ⟨zs, rfl⟩ := List.getLast?_eq_some_iff.mp hy
  have happend : settle done x (zs ++ [y]) =
      if done (settle done x zs) then settle done x zs else y := by
    rw [settle, List.foldl_append]
    rfl
  cases hx : done x with
  | true => exact iff_of_true (settle_of_done hx _) (.inl rfl)
  | false =>
    constructor
    · intro h
      have hnone : (zs ++ [y]).any done = false := by
        have hdone := done_settle done x (zs ++ [y])
        rw [h, hx, Bool.false_or] at hdone
        exact hdone.symm
      rw [happend, done_settle done x zs, hx, Bool.false_or] at h
      have hzs : zs.any done = false := by
        rw [List.any_append, Bool.or_eq_false_iff] at hnone
        exact hnone.1
      rw [hzs] at h
      exact .inr ⟨h.symm, fun z hz => Bool.eq_false_iff.mpr (List.any_eq_false.mp hnone z hz)⟩
    · rintro (h | ⟨rfl, hnone⟩)
      · cases h
      · have hzs : zs.any done = false :=
          List.any_eq_false.mpr fun z hz => by simp [hnone z (List.mem_append_left _ hz)]
        rw [happend, done_settle done x zs, hx, hzs]
        rfl

/-- A value that is not done gives way to the first one that is, or else to the last. -/
theorem settle_of_not_done {done : α → Bool} {x y : α} {ys : List α} (hx : done x = false)
    (hy : ys.getLast? = some y) : settle done x ys = (ys.find? done).getD y := by
  induction ys generalizing x with
  | nil => cases hy
  | cons z zs ih =>
    have hcons : settle done x (z :: zs) = settle done z zs := by
      rw [settle, List.foldl_cons, hx]
      rfl
    rw [hcons]
    cases hz : done z with
    | true => rw [settle_of_done hz, List.find?_cons_of_pos hz, Option.getD_some]
    | false =>
      rw [List.find?_cons_of_neg (by simp [hz])]
      cases zs with
      | nil => exact Option.some.inj hy
      | cons z' zs => exact ih hz (by simpa using hy)

/-! ### Reading by key -/

section Key

variable [DecidableEq κ] {key : α → κ} {rows : List α}

/-- The row of a key. -/
def lookup (key : α → κ) (k : κ) (rows : List α) : Option α := rows.find? fun r => key r = k

/-- A row that is looked up has the key. -/
theorem key_of_lookup {k : κ} {r : α} (h : lookup key k rows = some r) : key r = k := by
  have hk := List.find?_some h
  exact of_decide_eq_true hk

/-- A row that is looked up is one of the table. -/
theorem mem_of_lookup {k : κ} {r : α} (h : lookup key k rows = some r) : r ∈ rows :=
  List.mem_of_find?_eq_some h

/-- The lookup fails just for keys that the table does not have. -/
theorem lookup_eq_none {k : κ} : lookup key k rows = none ↔ k ∉ rows.map key := by
  rw [lookup, List.find?_eq_none]
  simp

/-- Where no key occurs twice, a row is the row of its key. -/
theorem lookup_of_mem (hnodup : (rows.map key).Nodup) {r : α} (hr : r ∈ rows) :
    lookup key (key r) rows = some r := by
  cases h : lookup key (key r) rows with
  | none => exact absurd (List.mem_map_of_mem hr) (lookup_eq_none.mp h)
  | some r' =>
    have hkey : key r' = key r := key_of_lookup h
    rw [List.inj_on_of_nodup_map hnodup (mem_of_lookup h) hr hkey]

/-- A rewriting that keeps the key acts on the row of each key by itself. -/
theorem lookup_map (rows : List α) {f : α → α} (h : ∀ r, key (f r) = key r) (k : κ) :
    lookup key k (rows.map f) = (lookup key k rows).map f := by
  have hp : ((fun r => decide (key r = k)) ∘ f) = fun r => decide (key r = k) := by
    funext r
    rw [Function.comp_apply, h r]
  rw [lookup, List.find?_map, hp, lookup]

/-- So does a statement that does not write the key. -/
theorem lookup_exec (rows : List α) {u : Update α} (h : u.Keeps key) (k : κ) :
    lookup key k (u.exec rows) = (lookup key k rows).map u.row :=
  lookup_map rows h k

/-- `INSERT … ON CONFLICT (key) DO UPDATE`: `w` takes the place of the row of its key. -/
def upsert (key : α → κ) (w : α) (rows : List α) : List α :=
  if key w ∈ rows.map key then (set (fun r => key r = key w) fun _ => w).exec rows
  else rows ++ [w]

/-- After an upsert, the row of its key is the one written, and the others are as before. Either the
key is there and its row is overwritten in place, or the row is put at the end. -/
theorem lookup_upsert (w : α) (rows : List α) (k : κ) :
    lookup key k (upsert key w rows) = if k = key w then some w else lookup key k rows := by
  rw [upsert]
  split
  -- the key is there: its row is overwritten in place
  · next hmem =>
    have hkeeps : (set (fun r => key r = key w) fun _ => w).Keeps key := by
      intro r
      by_cases hr : key r = key w <;> simp [row_set, hr]
    rw [lookup_exec rows hkeeps]
    split
    · next hk =>
      subst hk
      cases hl : lookup key (key w) rows with
      | none => exact absurd hmem (lookup_eq_none.mp hl)
      | some r => simp [Update.row, set, key_of_lookup hl]
    · next hk =>
      cases hl : lookup key k rows with
      | none => rfl
      | some r =>
        have hr : key r ≠ key w := by
          rw [key_of_lookup hl]
          exact hk
        simp [Update.row, set, hr]
  -- the key is new: the row is appended
  · next hnew =>
    rw [lookup, List.find?_append, ← lookup]
    split
    · next hk =>
      rw [hk, lookup_eq_none.mpr hnew]
      simp
    · next hk =>
      have hwk : ¬ key w = k := fun h => hk h.symm
      simp [hwk]

/-- A row after an upsert is the one written, or a row of another key. -/
theorem mem_upsert {w r : α} (h : r ∈ upsert key w rows) :
    r = w ∨ r ∈ rows ∧ key r ≠ key w := by
  rw [upsert] at h
  split at h
  · obtain ⟨r', hr', rfl⟩ := List.mem_map.mp h
    rw [row_set]
    by_cases hkey : key r' = key w
    · exact .inl (if_pos (decide_eq_true hkey))
    · rw [if_neg (by simpa using hkey)]
      exact .inr ⟨hr', hkey⟩
  · next hnew =>
    rcases List.mem_append.mp h with hr | hr
    · exact .inr ⟨hr, fun hkey => hnew (hkey ▸ List.mem_map_of_mem hr)⟩
    · exact .inl (List.mem_singleton.mp hr)

/-- A row with a new key is appended. -/
theorem upsert_of_notMem {w : α} (h : key w ∉ rows.map key) : upsert key w rows = rows ++ [w] :=
  if_neg h

/-- An upsert keeps the keys and their order, and a new key comes last. -/
theorem map_key_upsert (w : α) (rows : List α) : (upsert key w rows).map key =
    if key w ∈ rows.map key then rows.map key else rows.map key ++ [key w] := by
  rw [upsert]
  split
  · refine Update.map_key_exec rows (keeps_set_of_eq fun r hr => ?_)
    exact (of_decide_eq_true hr).symm
  · rw [List.map_append, List.map_singleton]

/-- An upsert keeps the keys different. -/
theorem nodup_upsert (h : (rows.map key).Nodup) (w : α) : ((upsert key w rows).map key).Nodup := by
  rw [map_key_upsert]
  split
  · exact h
  · next hw =>
    rw [List.nodup_append]
    refine ⟨h, by simp, ?_⟩
    rintro k hk k' hk' rfl
    exact hw (List.mem_singleton.mp hk' ▸ hk)

/-- A table of other rows with the same keys is read and written alike. -/
theorem lookup_map_of_key {key' : β → κ} {f : α → β} (h : ∀ r ∈ rows, key' (f r) = key r) (k : κ) :
    lookup key' k (rows.map f) = (lookup key k rows).map f := by
  induction rows with
  | nil => rfl
  | cons r rows ih =>
    obtain ⟨hr, h⟩ := List.forall_mem_cons.mp h
    rw [List.map_cons, lookup, lookup, List.find?_cons, List.find?_cons, hr]
    split
    · rfl
    · exact ih h

/-- A function on rows that keeps the keys can be applied before or after an upsert. -/
theorem map_upsert {key' : β → κ} {f : α → β} {w : α} (h : ∀ r ∈ rows, key' (f r) = key r)
    (hw : key' (f w) = key w) :
    (upsert key w rows).map f = upsert key' (f w) (rows.map f) := by
  have hkeys : (rows.map f).map key' = rows.map key := by
    rw [List.map_map]
    exact List.map_congr_left h
  rw [upsert, upsert, hkeys, hw]
  split
  · rw [Update.exec, Update.exec, List.map_map, List.map_map]
    refine List.map_congr_left fun r hr => ?_
    simp only [Function.comp_apply, row_set, h r hr]
    split <;> rfl
  · rw [List.map_append, List.map_singleton]

/-- A table that has been written to is not empty. -/
theorem upsert_ne_nil (w : α) (rows : List α) : upsert key w rows ≠ [] := by
  rw [upsert]
  split
  · next hmem =>
    rw [Update.exec, ne_eq, List.map_eq_nil_iff]
    rintro rfl
    cases hmem
  · simp

end Key

end Table
