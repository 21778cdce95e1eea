import Mathlib.Data.List.Induction
import Mathlib.Data.List.Nodup

/-!
# Deduplication by key

Two ways of dropping the duplicates of a list. `keepBest` keeps one element for each key, in the
place where the key first appears: the first element, until a better one replaces it.
`keepFirst` keeps the first element of each key, and every element without a key.

What is kept is described from the list alone, without the loop. The kept keys are different
(`nodup_map_key_keepBest`, `distinct_keepFirst`) and stand in the order in which they arrive
(`pairwise_arrival`); nothing is made up; and an element is kept by `keepBest` just if it wins
at its place, where no element of its key has a higher rank and none before it the same
(`mem_keepBest_outranks_iff`). By `keepFirst` an element is dropped just if one before it has
its key (`mem_keepFirst_iff`).

`Distinct` says that no element has the key of one before it, elements without a key apart. A
list that is distinct is kept as it is, and the two passes, one after the other, find nothing to
drop in what they leave (`keepFirst_keepBest_idem`): the second pass only drops elements, so
that it cannot make keys of the first pass equal again.

Nothing is asked of the rank but that it can be compared, and of keys but that equality can be
decided.
-/

namespace Dedup

variable {α κ : Type} [DecidableEq κ]

/-! ### Keeping the best -/

section Best

variable (key : α → κ) (better : α → α → Bool)

/-- Add `x`: at the end if its key is new, else over a kept element it is better than. -/
def insertBest (acc : List α) (x : α) : List α :=
  if key x ∈ acc.map key then
    acc.map fun y => if key y = key x ∧ better x y = true then x else y
  else acc ++ [x]

/-- One element for each key. -/
def keepBest (l : List α) : List α := l.foldl (insertBest key better) []

/-- One more element is inserted into what the ones before it have left. -/
theorem keepBest_append (l : List α) (x : α) :
    keepBest key better (l ++ [x]) = insertBest key better (keepBest key better l) x := by
  rw [keepBest, List.foldl_append]
  rfl

/-- Adding an element adds its key, if it is new. -/
theorem map_key_insertBest (acc : List α) (x : α) :
    (insertBest key better acc x).map key =
      if key x ∈ acc.map key then acc.map key else acc.map key ++ [key x] := by
  unfold insertBest
  split
  · rw [List.map_map]
    refine List.map_congr_left fun y _ => ?_
    simp only [Function.comp_apply]
    split
    · next h => exact h.1.symm
    · rfl
  · rw [List.map_append]
    rfl

/-- No key is lost, and none is made up. -/
theorem mem_map_key_keepBest (l : List α) (k : κ) :
    k ∈ (keepBest key better l).map key ↔ k ∈ l.map key := by
  induction l using List.reverseRecOn with
  | nil => rfl
  | append_singleton l x ih =>
    rw [keepBest_append, map_key_insertBest, List.map_append]
    split
    · next h =>
      rw [List.mem_append, ih]
      refine ⟨.inl, fun hk => hk.elim id fun hk => ?_⟩
      rw [List.map_singleton, List.mem_singleton] at hk
      rw [hk] at ih ⊢
      exact ih.mp h
    · rw [List.mem_append, List.mem_append, ih]
      rfl

/-- Nothing is made up. -/
theorem mem_of_mem_keepBest {l : List α} {x : α} (h : x ∈ keepBest key better l) : x ∈ l := by
  induction l using List.reverseRecOn generalizing x with
  | nil => cases h
  | append_singleton l y ih =>
    rw [keepBest_append, insertBest] at h
    rw [List.mem_append, List.mem_singleton]
    split at h
    · obtain ⟨z, hz, rfl⟩ := List.mem_map.mp h
      split
      · exact .inr rfl
      · exact .inl (ih hz)
    · rw [List.mem_append, List.mem_singleton] at h
      exact h.imp_left ih

/-- The place of an element's key among the keys of a list. -/
def arrival (l : List α) (x : α) : ℕ := (l.map key).idxOf (key x)

/-- The kept elements stand in the order in which their keys arrive. A replacement takes the place
of the element that it replaces. -/
theorem pairwise_arrival (l : List α) :
    (keepBest key better l).Pairwise fun x y => arrival key l x < arrival key l y := by
  suffices h : ((keepBest key better l).map key).Pairwise fun j k =>
      (l.map key).idxOf j < (l.map key).idxOf k from
    (List.pairwise_map (R := fun j k => (l.map key).idxOf j < (l.map key).idxOf k)).mp h
  induction l using List.reverseRecOn with
  | nil => exact List.Pairwise.nil
  | append_singleton l x ih =>
    have hmem : ∀ k, k ∈ (keepBest key better l).map key → k ∈ l.map key :=
      fun k => (mem_map_key_keepBest key better l k).mp
    have hold : ((keepBest key better l).map key).Pairwise fun j k =>
        ((l ++ [x]).map key).idxOf j < ((l ++ [x]).map key).idxOf k := by
      refine List.Pairwise.imp_of_mem (fun {j k} hj hk hlt => ?_) ih
      rw [List.map_append, List.idxOf_append_of_mem (hmem j hj),
        List.idxOf_append_of_mem (hmem k hk)]
      exact hlt
    rw [keepBest_append, map_key_insertBest]
    split
    · exact hold
    · next hnew =>
      rw [mem_map_key_keepBest] at hnew
      refine List.pairwise_append.mpr ⟨hold, List.pairwise_singleton _ _, fun j hj k hk => ?_⟩
      rw [List.mem_singleton] at hk
      subst hk
      -- the new key stands behind all keys of `l`
      have hlt : (l.map key).idxOf j < (l.map key).length :=
        List.idxOf_lt_length_iff.mpr (hmem j hj)
      rw [List.map_append, List.idxOf_append_of_mem (hmem j hj), List.idxOf_append_of_notMem hnew]
      omega

/-- No element is kept twice, as no key is. -/
theorem nodup_keepBest (l : List α) : (keepBest key better l).Nodup := by
  refine (pairwise_arrival key better l).imp fun {x y} hlt hxy => ?_
  subst hxy
  exact Nat.lt_irrefl _ hlt

/-- Elements that share their keys with nothing stay, in their order. The predicate tells which they
are: whatever satisfies it has a key of its own. -/
theorem filter_keepBest {p : α → Bool} {l : List α}
    (h : l.Pairwise fun x y => p x = true ∨ p y = true → key x ≠ key y) :
    (keepBest key better l).filter p = l.filter p := by
  induction l using List.reverseRecOn with
  | nil => rfl
  | append_singleton l x ih =>
    obtain ⟨hl, -, hx⟩ := List.pairwise_append.mp h
    have hne : ∀ y ∈ keepBest key better l, p y = true ∨ p x = true → key y ≠ key x :=
      fun y hy => hx y (mem_of_mem_keepBest key better hy) x (List.mem_singleton_self x)
    rw [keepBest_append, List.filter_append, ← ih hl, insertBest]
    split
    · next hmem =>
      -- `x` replaces an element, and neither of the two satisfies `p`
      obtain ⟨y, hy, hky⟩ := List.mem_map.mp hmem
      have hpx : p x = false := by
        rw [← Bool.not_eq_true]
        exact fun hpx => hne y hy (.inr hpx) hky
      rw [List.filter_singleton, hpx, cond_false, List.append_nil, List.filter_map]
      have hfix : ∀ z ∈ keepBest key better l, p z = true →
          (if key z = key x ∧ better x z = true then x else z) = z :=
        fun z hz hpz => if_neg fun hc => hne z hz (.inl hpz) hc.1
      rw [← List.map_id ((keepBest key better l).filter p)]
      have hfilter : (keepBest key better l).filter
            (p ∘ fun z => if key z = key x ∧ better x z = true then x else z) =
          (keepBest key better l).filter p := by
        refine List.filter_congr fun z hz => ?_
        rw [Function.comp_apply]
        split
        · next hc =>
          rw [hpx, eq_comm, ← Bool.not_eq_true]
          exact fun hpz => hne z hz (.inl hpz) hc.1
        · rfl
      rw [hfilter]
      refine List.map_congr_left fun z hz => ?_
      obtain ⟨hz, hpz⟩ := List.mem_filter.mp hz
      exact hfix z hz hpz
    · rw [List.filter_append]

/-- An element that is better than all others of its key is kept. From the step in which it arrives
it is the one kept, as nothing later replaces it. -/
theorem mem_keepBest {l : List α} {x : α} (hx : x ∈ l)
    (hbest : ∀ y ∈ l, key y = key x → y ≠ x → better x y = true ∧ better y x = false) :
    x ∈ keepBest key better l := by
  induction l using List.reverseRecOn with
  | nil => cases hx
  | append_singleton l z ih =>
    have hbest' : ∀ y ∈ l, key y = key x → y ≠ x → better x y = true ∧ better y x = false :=
      fun y hy => hbest y (List.mem_append_left _ hy)
    rw [keepBest_append, insertBest]
    by_cases hxl : x ∈ l
    · -- `x` is kept already, and `z` does not replace it
      have hkept := ih hxl hbest'
      split
      · refine List.mem_map.mpr ⟨x, hkept, ?_⟩
        split
        · next h =>
          by_contra hne
          have hz := (hbest z (by simp) h.1.symm hne).2
          rw [hz] at h
          cases h.2
        · rfl
      · exact List.mem_append_left _ hkept
    · -- `x` is the new element
      have hxz : x = z := by
        rw [List.mem_append, List.mem_singleton] at hx
        exact hx.resolve_left hxl
      subst hxz
      split
      · next h =>
        obtain ⟨y, hy, hky⟩ := List.mem_map.mp h
        refine List.mem_map.mpr ⟨y, hy, if_pos ⟨hky, ?_⟩⟩
        have hyl := mem_of_mem_keepBest key better hy
        have hne : y ≠ x := by
          rintro rfl
          exact hxl hyl
        exact (hbest' y hyl hky hne).1
      · exact List.mem_append_right _ (List.mem_singleton_self x)

/-- The kept elements have different keys. -/
theorem nodup_map_key_keepBest (l : List α) : ((keepBest key better l).map key).Nodup := by
  refine List.pairwise_map.mpr ((pairwise_arrival key better l).imp fun {x y} hlt hkey => ?_)
  rw [arrival, arrival, hkey] at hlt
  exact Nat.lt_irrefl _ hlt

/-- A list of different keys is kept as it is. -/
theorem keepBest_of_nodup {l : List α} (h : (l.map key).Nodup) : keepBest key better l = l := by
  have hall := filter_keepBest key better (p := fun _ => true)
    ((List.pairwise_map.mp h).imp fun {x y} hne _ => hne)
  rwa [List.filter_true, List.filter_true] at hall

end Best

/-! ### Keeping the highest rank -/

section Rank

variable (key : α → κ) (rank : α → ℕ)

/-- `x` is better than `y` if its rank is higher. -/
def outranks (x y : α) : Bool := decide (rank y < rank x)

/-- At its place between `l₁` and `l₂`, no element of its key outranks `x`, and none before it has
its rank. -/
def Wins (l₁ : List α) (x : α) (l₂ : List α) : Prop :=
  (∀ y ∈ l₁, key y = key x → rank y < rank x) ∧ ∀ y ∈ l₂, key y = key x → rank y ≤ rank x

/-- By rank, what is kept is the first element of the highest rank of its key. No later one of the
same rank replaces it, since replacing asks for more. -/
theorem mem_keepBest_outranks_iff {l : List α} {x : α} :
    x ∈ keepBest key (outranks rank) l ↔ ∃ l₁ l₂, l = l₁ ++ x :: l₂ ∧ Wins key rank l₁ x l₂ := by
  induction l using List.reverseRecOn generalizing x with
  | nil => simp [keepBest]
  | append_singleton l z ih =>
    rw [keepBest_append, insertBest]
    constructor
    · intro hx
      -- an element kept before `z` stays, unless `z` outranks it
      have hstays : x ∈ keepBest key (outranks rank) l → (key z = key x → rank z ≤ rank x) →
          ∃ l₁ l₂, l ++ [z] = l₁ ++ x :: l₂ ∧ Wins key rank l₁ x l₂ := by
        intro hx hz
        obtain ⟨l₁, l₂, rfl, hbefore, hafter⟩ := ih.mp hx
        refine ⟨l₁, l₂ ++ [z], by rw [List.append_assoc, List.cons_append], hbefore, ?_⟩
        intro y hy
        rw [List.mem_append, List.mem_singleton] at hy
        obtain hy | rfl := hy
        · exact hafter y hy
        · exact hz
      split at hx
      · obtain ⟨y, hy, hyx⟩ := List.mem_map.mp hx
        split at hyx
        · next hwins =>
          subst hyx
          refine ⟨l, [], rfl, fun w hw hkey => ?_, by simp⟩
          obtain ⟨l₁, l₂, rfl, hbefore, hafter⟩ := ih.mp hy
          have hyz : rank y < rank z := of_decide_eq_true hwins.2
          have hwy : rank w ≤ rank y := by
            rw [List.mem_append, List.mem_cons] at hw
            obtain hw | rfl | hw := hw
            · exact Nat.le_of_lt (hbefore w hw (hkey.trans hwins.1.symm))
            · exact Nat.le_refl _
            · exact hafter w hw (hkey.trans hwins.1.symm)
          omega
        · next hloses =>
          subst hyx
          refine hstays hy fun hkey => ?_
          by_contra hlt
          exact hloses ⟨hkey.symm, decide_eq_true (Nat.not_le.mp hlt)⟩
      · next hnew =>
        rw [List.mem_append, List.mem_singleton] at hx
        obtain hx | rfl := hx
        · exact hstays hx fun hkey => absurd (List.mem_map.mpr ⟨x, hx, hkey.symm⟩) hnew
        · refine ⟨l, [], rfl, fun w hw hkey => ?_, by simp⟩
          rw [mem_map_key_keepBest] at hnew
          exact absurd (List.mem_map.mpr ⟨w, hw, hkey⟩) hnew
    · rintro ⟨l₁, l₂, hsplit, hbefore, hafter⟩
      obtain rfl | ⟨l₂, w, rfl⟩ := l₂.eq_nil_or_concat
      · -- `x` is the new element
        obtain ⟨rfl, hz⟩ := List.append_inj' hsplit rfl
        cases hz
        split
        · next hmem =>
          obtain ⟨y, hy, hky⟩ := List.mem_map.mp hmem
          have hlt := hbefore y (mem_of_mem_keepBest key _ hy) hky
          exact List.mem_map.mpr ⟨y, hy, if_pos ⟨hky, decide_eq_true hlt⟩⟩
        · exact List.mem_append_right _ (List.mem_singleton_self _)
      · -- `x` has been kept, and the new element does not outrank it
        rw [List.concat_eq_append, ← List.cons_append, ← List.append_assoc] at hsplit
        obtain ⟨rfl, hz⟩ := List.append_inj' hsplit rfl
        cases hz
        have hx := ih.mpr ⟨l₁, l₂, rfl, hbefore, fun y hy => hafter y (by simp [hy])⟩
        split
        · refine List.mem_map.mpr ⟨x, hx, if_neg ?_⟩
          rintro ⟨hkey, hlt⟩
          exact absurd (of_decide_eq_true hlt) (Nat.not_lt.mpr (hafter z (by simp) hkey.symm))
        · exact List.mem_append_left _ hx

/-- Each element is represented: by the kept element of its key, which it does not outrank. -/
theorem exists_mem_keepBest {l : List α} {x : α} (hx : x ∈ l) :
    ∃ y ∈ keepBest key (outranks rank) l, key y = key x ∧ rank x ≤ rank y := by
  have hkey : key x ∈ (keepBest key (outranks rank) l).map key :=
    (mem_map_key_keepBest key _ l _).mpr (List.mem_map_of_mem hx)
  obtain ⟨y, hy, hyx⟩ := List.mem_map.mp hkey
  refine ⟨y, hy, hyx, ?_⟩
  obtain ⟨l₁, l₂, rfl, hbefore, hafter⟩ := (mem_keepBest_outranks_iff key rank).mp hy
  rw [List.mem_append, List.mem_cons] at hx
  obtain hx | rfl | hx := hx
  · exact Nat.le_of_lt (hbefore x hx hyx.symm)
  · exact Nat.le_refl _
  · exact hafter x hx hyx.symm

end Rank

/-! ### Keeping the first -/

section First

variable (key : α → Option κ)

/-- Keep the first element of each key that has not been seen. -/
def keepFirstFrom : List κ → List α → List α
  | _, [] => []
  | seen, x :: l =>
    match key x with
    | none => x :: keepFirstFrom seen l
    | some k => if k ∈ seen then keepFirstFrom seen l else x :: keepFirstFrom (k :: seen) l

/-- Keep the first element of each key, and the elements without a key. -/
def keepFirst (l : List α) : List α := keepFirstFrom key [] l

/-- What is kept stands in the order of the list. -/
theorem keepFirstFrom_sublist (seen : List κ) (l : List α) :
    (keepFirstFrom key seen l).Sublist l := by
  induction l generalizing seen with
  | nil => exact List.Sublist.slnil
  | cons x l ih =>
    unfold keepFirstFrom
    split
    · exact (ih seen).cons_cons x
    · split
      · exact (ih seen).cons x
      · exact (ih _).cons_cons x

/-- What is kept of a whole list stands in its order. -/
theorem keepFirst_sublist (l : List α) : (keepFirst key l).Sublist l :=
  keepFirstFrom_sublist key [] l

/-- In a list ordered by `R`, an element with a key is kept if its key has not been seen and no
element before it has the key. -/
theorem mem_keepFirstFrom_iff {R : α → α → Prop} (hasymm : ∀ x y, R x y → ¬ R y x)
    {seen : List κ} {l : List α} (hl : l.Pairwise R) {y : α} :
    y ∈ keepFirstFrom key seen l ↔
      y ∈ l ∧ ∀ k, key y = some k → k ∉ seen ∧ ∀ x ∈ l, R x y → key x ≠ some k := by
  induction l generalizing seen with
  | nil => simp [keepFirstFrom]
  | cons z l ih =>
    obtain ⟨hz, hl⟩ := List.pairwise_cons.mp hl
    have hirrefl : ¬ R z z := fun h => hasymm z z h h
    have htail : ∀ y ∈ l, y ≠ z := by
      rintro y hy rfl
      exact hirrefl (hz y hy)
    unfold keepFirstFrom
    by_cases hyz : y = z
    · -- the head: nothing stands before it
      subst hyz
      have hnl : ∀ S, y ∉ keepFirstFrom key S l := fun S hy =>
        htail y ((keepFirstFrom_sublist key S l).subset hy) rfl
      have hfirst : ∀ x ∈ y :: l, ¬ R x y := by
        intro x hx hxy
        rcases List.mem_cons.mp hx with rfl | hx
        · exact hirrefl hxy
        · exact hasymm _ _ (hz x hx) hxy
      cases hk : key y with
      | none => simp
      | some k =>
        by_cases hs : k ∈ seen
        · simp [hs, hnl]
        · simp only [hs, if_false, List.mem_cons, true_or, true_iff, true_and]
          rintro k' ⟨⟩
          exact ⟨hs, fun x hx hxy => absurd hxy (hfirst x (List.mem_cons.mpr hx))⟩
    · -- behind the head, whose key counts as seen
      cases hk : key z with
      | none =>
        simp only [List.mem_cons, hyz, false_or, ih hl]
        refine and_congr_right fun hy => forall₂_congr fun k hky => and_congr_right fun _ => ?_
        simp only [forall_eq_or_imp, hk, reduceCtorEq, not_false_eq_true, implies_true, true_and,
          ne_eq]
      | some k =>
        have hcases : y ∈ (if k ∈ seen then keepFirstFrom key seen l
            else z :: keepFirstFrom key (k :: seen) l) ↔ y ∈ keepFirstFrom key (k :: seen) l := by
          split
          · next hs =>
            rw [ih hl, ih hl]
            refine and_congr_right fun _ => forall₂_congr fun k' _ => and_congr_left fun _ => ?_
            rw [List.mem_cons, not_or]
            refine ⟨fun h => ⟨?_, h⟩, And.right⟩
            rintro rfl
            exact h hs
          · rw [List.mem_cons]
            exact or_iff_right hyz
        rw [hcases, ih hl, List.mem_cons]
        refine ⟨fun ⟨hy, h⟩ => ⟨.inr hy, fun k' hk' => ?_⟩,
          fun ⟨hy, h⟩ => ⟨hy.resolve_left hyz, fun k' hk' => ?_⟩⟩
        · obtain ⟨hs, hb⟩ := h k' hk'
          rw [List.mem_cons, not_or] at hs
          refine ⟨hs.2, fun x hx hxy => ?_⟩
          rcases List.mem_cons.mp hx with rfl | hx
          · rw [hk]
            rintro ⟨⟩
            exact hs.1 rfl
          · exact hb x hx hxy
        · obtain ⟨hs, hb⟩ := h k' hk'
          refine ⟨?_, fun x hx hxy => hb x (List.mem_cons_of_mem _ hx) hxy⟩
          rw [List.mem_cons, not_or]
          refine ⟨?_, hs⟩
          rintro rfl
          exact hb z (List.mem_cons_self ..) (hz y (hy.resolve_left hyz)) hk

/-- An element that is not kept has a key that was seen, or is represented by one with its key. -/
theorem exists_mem_keepFirstFrom {seen : List κ} {l : List α} {x : α} (hx : x ∈ l) :
    (∃ k ∈ seen, key x = some k) ∨
      ∃ y ∈ keepFirstFrom key seen l, y = x ∨ ∃ k, key x = some k ∧ key y = some k := by
  induction l generalizing seen with
  | nil => cases hx
  | cons z l ih =>
    rw [keepFirstFrom]
    cases hk : key z with
    | none =>
      obtain rfl | hx := List.mem_cons.mp hx
      · exact .inr ⟨x, List.mem_cons_self, .inl rfl⟩
      · exact (ih hx).imp_right fun ⟨y, hy, h⟩ => ⟨y, List.mem_cons_of_mem _ hy, h⟩
    | some k =>
      dsimp only
      split
      · next hs =>
        obtain rfl | hx := List.mem_cons.mp hx
        · exact .inl ⟨k, hs, hk⟩
        · exact ih hx
      · obtain rfl | hx := List.mem_cons.mp hx
        · exact .inr ⟨x, List.mem_cons_self, .inl rfl⟩
        · obtain ⟨j, hj, hxj⟩ | ⟨y, hy, h⟩ := @ih (k :: seen) hx
          · obtain rfl | hj := List.mem_cons.mp hj
            · exact .inr ⟨z, List.mem_cons_self, .inr ⟨j, hxj, hk⟩⟩
            · exact .inl ⟨j, hj, hxj⟩
          · exact .inr ⟨y, List.mem_cons_of_mem _ hy, h⟩

/-- An element is kept, or another one of its key is. -/
theorem exists_mem_keepFirst {l : List α} {x : α} (hx : x ∈ l) :
    ∃ y ∈ keepFirst key l, y = x ∨ ∃ k, key x = some k ∧ key y = some k :=
  (exists_mem_keepFirstFrom key hx).resolve_left fun ⟨_, hk, _⟩ => nomatch hk

/-- In a list ordered by `R`, an element is dropped just if one before it has its key. -/
theorem mem_keepFirst_iff {R : α → α → Prop} (hasymm : ∀ x y, R x y → ¬ R y x) {l : List α}
    (hl : l.Pairwise R) {y : α} :
    y ∈ keepFirst key l ↔ y ∈ l ∧ ∀ k, key y = some k → ∀ x ∈ l, R x y → key x ≠ some k := by
  rw [keepFirst, mem_keepFirstFrom_iff key hasymm hl]
  simp only [List.not_mem_nil, not_false_eq_true, true_and]

/-- The first element of a key that has not been seen is kept. -/
theorem find?_keepFirstFrom {seen : List κ} {k : κ} (hk : k ∉ seen) (l : List α) :
    (keepFirstFrom key seen l).find? (fun x => key x = some k) =
      l.find? fun x => key x = some k := by
  induction l generalizing seen with
  | nil => rfl
  | cons z l ih =>
    rw [keepFirstFrom, List.find?_cons]
    cases hz : key z with
    | none => simp [hz, ih hk]
    | some j =>
      by_cases hj : j = k
      · subst hj
        simp [hk, hz]
      · have hnew : k ∉ j :: seen := by simp [Ne.symm hj, hk]
        by_cases hseen : j ∈ seen <;> simp [hseen, hj, hz, ih hk, ih hnew]

/-- The element that is kept of a key is the first. -/
theorem find?_keepFirst (k : κ) (l : List α) :
    (keepFirst key l).find? (fun x => key x = some k) = l.find? fun x => key x = some k :=
  find?_keepFirstFrom key (List.not_mem_nil) l

/-- No element has the key of one before it. -/
def Distinct (l : List α) : Prop := l.Pairwise fun x y => ∀ k, key x = some k → key y ≠ some k

omit [DecidableEq κ] in
/-- Elements with different keys have different keys in every part of the list. -/
theorem Distinct.sublist {l l' : List α} (h : Distinct key l) (hl : l'.Sublist l) :
    Distinct key l' := List.Pairwise.sublist hl h

/-- The keys that are kept are different from each other, and from those that were seen. -/
theorem distinct_keepFirstFrom (seen : List κ) (l : List α) :
    Distinct key (keepFirstFrom key seen l) ∧
      ∀ x ∈ keepFirstFrom key seen l, ∀ k ∈ seen, key x ≠ some k := by
  induction l generalizing seen with
  | nil => exact ⟨List.Pairwise.nil, fun x hx => nomatch hx⟩
  | cons z l ih =>
    rw [keepFirstFrom]
    cases hk : key z with
    | none =>
      refine ⟨List.pairwise_cons.mpr ⟨fun y _ k hz => ?_, (ih seen).1⟩, ?_⟩
      · rw [hk] at hz
        cases hz
      · rw [List.forall_mem_cons]
        refine ⟨fun k _ hz => ?_, (ih seen).2⟩
        rw [hk] at hz
        cases hz
    | some k =>
      dsimp only
      split
      · exact ih seen
      · next hs =>
        -- behind `z` its key counts as seen
        obtain ⟨htail, hseen⟩ := ih (k :: seen)
        refine ⟨List.pairwise_cons.mpr ⟨fun y hy j hz => ?_, htail⟩, ?_⟩
        · obtain rfl := Option.some.inj (hk.symm.trans hz)
          exact hseen y hy k List.mem_cons_self
        · rw [List.forall_mem_cons]
          refine ⟨fun j hj hz => hs ?_, fun x hx j hj => hseen x hx j (List.mem_cons_of_mem _ hj)⟩
          obtain rfl := Option.some.inj (hk.symm.trans hz)
          exact hj

/-- The kept elements that have a key have different ones. -/
theorem distinct_keepFirst (l : List α) : Distinct key (keepFirst key l) :=
  (distinct_keepFirstFrom key [] l).1

/-- A list without repetitions, and with no key that was seen, is kept as it is. -/
theorem keepFirstFrom_of_distinct {seen : List κ} {l : List α} (hl : Distinct key l)
    (hseen : ∀ x ∈ l, ∀ k ∈ seen, key x ≠ some k) : keepFirstFrom key seen l = l := by
  induction l generalizing seen with
  | nil => rfl
  | cons z l ih =>
    obtain ⟨hz, hl⟩ := List.pairwise_cons.mp hl
    obtain ⟨hzs, hls⟩ := List.forall_mem_cons.mp hseen
    rw [keepFirstFrom]
    cases hk : key z with
    | none => exact congrArg _ (ih hl hls)
    | some k =>
      have hnew : k ∉ seen := fun hs => hzs k hs hk
      have htail : ∀ x ∈ l, ∀ j ∈ k :: seen, key x ≠ some j := by
        intro x hx j hj
        obtain rfl | hj := List.mem_cons.mp hj
        · exact hz x hx j hk
        · exact hls x hx j hj
      dsimp only
      rw [if_neg hnew, ih hl htail]

/-- A list of different keys is kept as it is. -/
theorem keepFirst_of_distinct {l : List α} (hl : Distinct key l) : keepFirst key l = l :=
  keepFirstFrom_of_distinct key hl fun _ _ _ hk => nomatch hk

/-- Where keys are distinct, nothing is dropped but what has been seen before. Elements without a
key are always kept. -/
theorem keepFirstFrom_eq_filter {seen : List κ} {l : List α} (hl : Distinct key l) :
    keepFirstFrom key seen l = l.filter fun x => (key x).all fun k => decide (k ∉ seen) := by
  induction l generalizing seen with
  | nil => rfl
  | cons z l ih =>
    obtain ⟨hz, hl⟩ := List.pairwise_cons.mp hl
    rw [keepFirstFrom]
    cases hk : key z with
    | none => simp [hk, ih hl]
    | some k =>
      by_cases hseen : k ∈ seen
      · simp [hk, hseen, ih hl]
      · -- no later element has this key
        have hrest : (l.filter fun x => (key x).all fun j => decide (j ∉ k :: seen)) =
            l.filter fun x => (key x).all fun j => decide (j ∉ seen) := by
          refine List.filter_congr fun x hx => ?_
          cases hkx : key x with
          | none => rfl
          | some j =>
            have hne : j ≠ k := by
              rintro rfl
              exact hz x hx j hk hkx
            simp [hne]
        rw [List.filter_cons, hk, Option.all_some, decide_eq_true hseen, if_pos rfl, ← hrest,
          ← ih hl]
        exact if_neg hseen

/-- Keys are different if each has at most one element. The second form is the one that is checked
key by key. -/
theorem distinct_iff_length_filter {l : List α} :
    Distinct key l ↔ ∀ k, (l.filter fun x => key x = some k).length ≤ 1 := by
  induction l with
  | nil => exact iff_of_true List.Pairwise.nil fun _ => Nat.zero_le _
  | cons z l ih =>
    have hhead : ∀ k, key z = some k →
        (((z :: l).filter fun x => key x = some k).length ≤ 1 ↔ ∀ x ∈ l, key x ≠ some k) := by
      intro k hk
      rw [List.filter_cons, if_pos (decide_eq_true hk), List.length_cons, Nat.succ_le_succ_iff,
        Nat.le_zero, List.length_eq_zero_iff, List.filter_eq_nil_iff]
      simp
    rw [Distinct, List.pairwise_cons, ← Distinct, ih]
    constructor
    · rintro ⟨hz, hl⟩ k
      by_cases hk : key z = some k
      · exact (hhead k hk).mpr fun x hx => hz x hx k hk
      · rw [List.filter_cons, decide_eq_false hk]
        exact hl k
    · intro h
      refine ⟨fun x hx k hk => (hhead k hk).mp (h k) x hx, fun k => ?_⟩
      exact Nat.le_trans ((List.sublist_cons_self z l).filter _).length_le (h k)

end First

/-! ### One pass after the other -/

section Passes

variable {κ' : Type} [DecidableEq κ'] (key : α → κ) (better : α → α → Bool) (key' : α → Option κ')

/-- The second pass only drops, so the keys of the first stay different. -/
theorem nodup_map_key_keepFirst_keepBest (l : List α) :
    ((keepFirst key' (keepBest key better l)).map key).Nodup :=
  (nodup_map_key_keepBest key better l).sublist ((keepFirst_sublist key' _).map key)

/-- The two passes find nothing to drop in what they leave. -/
theorem keepFirst_keepBest_idem (l : List α) :
    keepFirst key' (keepBest key better (keepFirst key' (keepBest key better l))) =
      keepFirst key' (keepBest key better l) := by
  rw [keepBest_of_nodup key better (nodup_map_key_keepFirst_keepBest key better key' l)]
  exact keepFirst_of_distinct key' (distinct_keepFirst key' _)

end Passes

end Dedup
