import DecisionCenter.Data.Paging
import DecisionCenter.Data.Table
import DecisionCenter.Data.Tally
import Mathlib.Algebra.Order.BigOperators.Group.List
import Mathlib.Algebra.Order.Field.Rat
import Mathlib.Tactic.Linarith
import Mathlib.Tactic.Positivity

/-!
# Fusing ranked results

`reciprocal_rank_fusion` of `apps/edr/retrieval/hybrid_search.py`: every list that contains an
evidence id adds `1 / (k + rank)` to its score, and the ids are sorted by score. The scores are
exact rationals here. An id that stands above another in every list of the other gets the higher
score, since each of those lists gives it more and the remaining ones take nothing away.

The loop fills two dictionaries, one with scores and one with payloads, and the result is read
off both. `Fusion` is the state of the loop, and what it leaves is found in two steps: what a
single result set adds to the score of an id (`sum_zipIdx`), and that the sets add up
(`get_scores`). The tally of `Data.Tally` has the general part of it. That every id with a score
has a payload is an invariant, so that the lookup at the end does not fail.

`FairFusion` has what is expected of a fused list: the ids of the sets, each once, with the
scores that their ranks give, sorted, no id below one that it dominates, and the same scores
whatever the order of the sets.

`fair_reciprocalRankFusion` proves all of it for result sets without repeated ids, of any length
and number. Equal scores stay in the order in which the ids came up first, by the stability of
the sort.
-/

namespace DecisionCenter

variable {α : Type}

/-! ### The fusion -/

/-- `SearchHit` -/
structure SearchHit (α : Type) where
  evidenceId : String
  score : ℚ
  payload : α
  deriving DecidableEq, Repr

/-- The dictionaries that the loop fills. -/
structure Fusion (α : Type) where
  scores : Tally String ℚ := []
  payloads : List (String × α) := []

namespace Fusion

/-- `payloads.setdefault(hit.evidence_id, hit.payload)` -/
def setPayload (payloads : List (String × α)) (hit : SearchHit α) : List (String × α) :=
  match Table.lookup Prod.fst hit.evidenceId payloads with
  | some _ => payloads
  | none => payloads ++ [(hit.evidenceId, hit.payload)]

/-- The body of the inner loop. -/
def addHit (k : ℕ) (s : Fusion α) (hit : SearchHit α) (rank : ℕ) : Fusion α where
  scores := s.scores.add hit.evidenceId (1 / (k + rank))
  payloads := setPayload s.payloads hit

/-- `for rank, hit in enumerate(result_set, start=1)` -/
def addResultSet (k : ℕ) (s : Fusion α) (resultSet : List (SearchHit α)) : Fusion α :=
  (resultSet.zipIdx 1).foldl (fun s ranked => s.addHit k ranked.1 ranked.2) s

/-- `SearchHit(evidence_id, score, payloads[evidence_id])`; `none` is a `KeyError`. -/
def hit? (s : Fusion α) (item : String × ℚ) : Option (SearchHit α) :=
  (Table.lookup Prod.fst item.1 s.payloads).map fun payload => ⟨item.1, item.2, payload.2⟩

end Fusion

/-- `reciprocal_rank_fusion` -/
def reciprocalRankFusion (resultSets : List (List (SearchHit α))) (k : ℕ := 60) :
    Option (List (SearchHit α)) :=
  let s := resultSets.foldl (Fusion.addResultSet k) {}
  (Table.orderByDesc Prod.snd s.scores).mapM s.hit?

/-! ### Ranks and scores -/

/-- The ids of a result set, best first. -/
def hitIds (resultSet : List (SearchHit α)) : List String := resultSet.map SearchHit.evidenceId

/-- The rank of an id in a result set, from 1. -/
def rankOf (id : String) (resultSet : List (SearchHit α)) : ℕ := (hitIds resultSet).idxOf id + 1

/-- What the result sets that contain the id add up to. -/
def fusedScore (k : ℕ) (resultSets : List (List (SearchHit α))) (id : String) : ℚ :=
  ((resultSets.filter fun rs => id ∈ hitIds rs).map fun rs => 1 / ((k : ℚ) + rankOf id rs)).sum

/-- `id` is ranked strictly above `other` wherever `other` is ranked. -/
def RankedAbove (resultSets : List (List (SearchHit α))) (id other : String) : Prop :=
  ∀ rs ∈ resultSets, other ∈ hitIds rs → id ∈ hitIds rs ∧ rankOf id rs < rankOf other rs

/-- An id and its score. -/
def SearchHit.scored (hit : SearchHit α) : String × ℚ := (hit.evidenceId, hit.score)

/-- A fused list that is fair to the result sets it is made of. -/
structure FairFusion (k : ℕ) (resultSets : List (List (SearchHit α)))
    (fused : List (SearchHit α)) : Prop where
  once : (hitIds fused).Nodup
  complete : ∀ id, id ∈ hitIds fused ↔ ∃ rs ∈ resultSets, id ∈ hitIds rs
  score : ∀ hit ∈ fused, hit.score = fusedScore k resultSets hit.evidenceId
  sorted : fused.Pairwise fun hit later => later.score ≤ hit.score
  /-- Reordered result sets give the same ids the same scores. -/
  reordered : ∀ reordered, reordered.Perm resultSets → ∃ fused',
    reciprocalRankFusion reordered k = some fused' ∧
      (fused'.map SearchHit.scored).Perm (fused.map SearchHit.scored)
  dominated : fused.Pairwise fun hit later =>
    ¬ RankedAbove resultSets later.evidenceId hit.evidenceId

private theorem fusedScore_perm {k : ℕ} {resultSets reordered : List (List (SearchHit α))}
    (h : reordered.Perm resultSets) (id : String) :
    fusedScore k reordered id = fusedScore k resultSets id :=
  ((h.filter _).map _).sum_eq

/-- Where an id occurs, one that is ranked strictly above it has the higher score. In each result
set it adds at least as much, and more where the other one occurs. -/
theorem fusedScore_lt {k : ℕ} {resultSets : List (List (SearchHit α))} {id other : String}
    (habove : RankedAbove resultSets id other) (hother : ∃ rs ∈ resultSets, other ∈ hitIds rs) :
    fusedScore k resultSets other < fusedScore k resultSets id := by
  have hpos (i : String) (rs : List (SearchHit α)) : (0 : ℚ) < k + rankOf i rs := by
    have hrank : (0 : ℚ) < rankOf i rs := Nat.cast_pos.mpr (Nat.succ_pos _)
    positivity
  have hless {rs : List (SearchHit α)} (hrs : rs ∈ resultSets) (hmem : other ∈ hitIds rs) :
      (1 : ℚ) / (k + rankOf other rs) < 1 / (k + rankOf id rs) := by
    have hrank : (rankOf id rs : ℚ) < rankOf other rs := Nat.cast_lt.mpr (habove rs hrs hmem).2
    exact one_div_lt_one_div_of_lt (hpos id rs) (by linarith)
  rw [fusedScore, fusedScore, sum_map_filter, sum_map_filter]
  refine List.sum_lt_sum _ _ (fun rs hrs => ?_) ?_
  · by_cases hmem : other ∈ hitIds rs
    · rw [if_pos hmem, if_pos (habove rs hrs hmem).1]
      exact (hless hrs hmem).le
    · rw [if_neg hmem]
      split
      · exact (one_div_pos.mpr (hpos id rs)).le
      · exact le_refl 0
  · obtain ⟨rs, hrs, hmem⟩ := hother
    refine ⟨rs, hrs, ?_⟩
    rw [if_pos hmem, if_pos (habove rs hrs hmem).1]
    exact hless hrs hmem

/-! ### What the loop leaves -/

/-- The hits of all result sets, each with its rank. -/
def ranked (resultSets : List (List (SearchHit α))) : List (SearchHit α × ℕ) :=
  resultSets.flatMap fun rs => rs.zipIdx 1

/-- The scores of the loop are a tally over all hits, with what the rank of each gives. -/
private theorem scores_foldl (k : ℕ) (resultSets : List (List (SearchHit α))) :
    (resultSets.foldl (Fusion.addResultSet k) {}).scores =
      Tally.addAll (fun r => r.1.evidenceId) (fun r => 1 / ((k : ℚ) + r.2)) (ranked resultSets)
        [] := by
  have hinner (hits : List (SearchHit α × ℕ)) (s : Fusion α) :
      (hits.foldl (fun s r => s.addHit k r.1 r.2) s).scores =
        Tally.addAll (fun r => r.1.evidenceId) (fun r => 1 / ((k : ℚ) + r.2)) hits s.scores := by
    induction hits generalizing s with
    | nil => rfl
    | cons r hits ih => exact ih _
  have houter (s : Fusion α) : (resultSets.foldl (Fusion.addResultSet k) s).scores =
      Tally.addAll (fun r => r.1.evidenceId) (fun r => 1 / ((k : ℚ) + r.2)) (ranked resultSets)
        s.scores := by
    induction resultSets generalizing s with
    | nil => rfl
    | cons rs resultSets ih =>
      have hcons : ranked (rs :: resultSets) = rs.zipIdx 1 ++ ranked resultSets := rfl
      rw [List.foldl_cons, ih, hcons, Tally.addAll_append]
      exact congrArg (Tally.addAll _ _ (ranked resultSets)) (hinner _ s)
  exact houter {}

private theorem hasPayload_setPayload {payloads : List (String × α)} {hit : SearchHit α}
    {id : String} : id ∈ (Fusion.setPayload payloads hit).map Prod.fst ↔
      id ∈ payloads.map Prod.fst ∨ id = hit.evidenceId := by
  rw [Fusion.setPayload]
  split
  · next row hrow =>
    have hkey : hit.evidenceId ∈ payloads.map Prod.fst := by
      rw [← Table.key_of_lookup hrow]
      exact List.mem_map_of_mem (Table.mem_of_lookup hrow)
    exact ⟨.inl, fun h => h.elim (fun hid => hid) fun hid => hid ▸ hkey⟩
  · rw [List.map_append, List.mem_append]
    simp

/-- Every id with a score has a payload. The two are written together, for each hit. -/
theorem hasPayload_foldl (k : ℕ) (resultSets : List (List (SearchHit α))) {id : String} :
    id ∈ (resultSets.foldl (Fusion.addResultSet k) {}).payloads.map Prod.fst ↔
      id ∈ (resultSets.foldl (Fusion.addResultSet k) {}).scores.map Prod.fst := by
  have hinner (hits : List (SearchHit α × ℕ)) (s : Fusion α)
      (hs : id ∈ s.payloads.map Prod.fst ↔ id ∈ s.scores.map Prod.fst) :
      id ∈ (hits.foldl (fun s r => s.addHit k r.1 r.2) s).payloads.map Prod.fst ↔
        id ∈ (hits.foldl (fun s r => s.addHit k r.1 r.2) s).scores.map Prod.fst := by
    induction hits generalizing s with
    | nil => exact hs
    | cons r hits ih =>
      refine ih _ ?_
      have hpayload : id ∈ (s.addHit k r.1 r.2).payloads.map Prod.fst ↔
          id ∈ s.payloads.map Prod.fst ∨ id = r.1.evidenceId := hasPayload_setPayload
      have hscore : id ∈ (s.addHit k r.1 r.2).scores.map Prod.fst ↔
          id ∈ s.scores.map Prod.fst ∨ id = r.1.evidenceId := Tally.mem_keys_add
      rw [hpayload, hscore, hs]
  have houter (s : Fusion α) (hs : id ∈ s.payloads.map Prod.fst ↔ id ∈ s.scores.map Prod.fst) :
      id ∈ (resultSets.foldl (Fusion.addResultSet k) s).payloads.map Prod.fst ↔
        id ∈ (resultSets.foldl (Fusion.addResultSet k) s).scores.map Prod.fst := by
    induction resultSets generalizing s with
    | nil => exact hs
    | cons rs resultSets ih => exact ih _ (hinner _ s hs)
  exact houter {} (by simp)

/-- In a result set without repeated ids, an id adds what its rank gives, once. The index at which
the numbering starts is general, for the induction. -/
theorem sum_zipIdx {rs : List (SearchHit α)} (hnodup : (hitIds rs).Nodup) (id : String)
    (f : ℕ → ℚ) (n : ℕ) :
    ((rs.zipIdx n).map fun r => if r.1.evidenceId = id then f r.2 else 0).sum =
      if id ∈ hitIds rs then f ((hitIds rs).idxOf id + n) else 0 := by
  induction rs generalizing n with
  | nil => simp [hitIds]
  | cons hit rs ih =>
    have hids : hitIds (hit :: rs) = hit.evidenceId :: hitIds rs := rfl
    rw [hids, List.nodup_cons] at hnodup
    obtain ⟨hhit, hnodup⟩ := hnodup
    rw [List.zipIdx_cons, List.map_cons, List.sum_cons, ih hnodup, hids]
    by_cases hid : hit.evidenceId = id
    · subst hid
      rw [if_pos rfl, if_neg hhit, if_pos List.mem_cons_self, List.idxOf_cons_self, add_zero,
        Nat.zero_add]
    · have hmem : id ∈ hit.evidenceId :: hitIds rs ↔ id ∈ hitIds rs := by
        rw [List.mem_cons, or_iff_right (Ne.symm hid)]
      rw [if_neg hid, zero_add, if_congr hmem rfl rfl, List.idxOf_cons_ne _ hid]
      have hshift : (hitIds rs).idxOf id + (n + 1) = ((hitIds rs).idxOf id).succ + n := by omega
      rw [hshift]

variable {k : ℕ} {resultSets : List (List (SearchHit α))}

/-- The score of an id after the loop. -/
theorem get_scores (hnodup : ∀ rs ∈ resultSets, (hitIds rs).Nodup) (id : String) :
    (resultSets.foldl (Fusion.addResultSet k) {}).scores.get id = fusedScore k resultSets id := by
  rw [scores_foldl, Tally.get_addAll, fusedScore, sum_map_filter, Tally.get, zero_add]
  induction resultSets with
  | nil => rfl
  | cons rs resultSets ih =>
    have hcons : ranked (rs :: resultSets) = rs.zipIdx 1 ++ ranked resultSets := rfl
    rw [hcons, List.map_append, List.sum_append, List.map_cons, List.sum_cons,
      sum_zipIdx (hnodup rs List.mem_cons_self) id (fun r => 1 / ((k : ℚ) + r)) 1,
      ih fun rs' h => hnodup rs' (List.mem_cons_of_mem _ h)]
    rfl

private theorem mem_scores {id : String} :
    id ∈ (resultSets.foldl (Fusion.addResultSet k) {}).scores.map Prod.fst ↔
      ∃ rs ∈ resultSets, id ∈ hitIds rs := by
  rw [scores_foldl, Tally.mem_keys_addAll]
  constructor
  · rintro (h | ⟨⟨hit, rank⟩, hmem, rfl⟩)
    · cases h
    · obtain ⟨rs, hrs, hhit⟩ := List.mem_flatMap.mp hmem
      exact ⟨rs, hrs, List.mem_map_of_mem (List.fst_mem_of_mem_zipIdx hhit)⟩
  · rintro ⟨rs, hrs, hid⟩
    obtain ⟨hit, hhit, rfl⟩ := List.mem_map.mp hid
    obtain ⟨i, hi, rfl⟩ := List.getElem_of_mem hhit
    refine .inr ⟨(rs[i], i + 1), List.mem_flatMap.mpr ⟨rs, hrs, ?_⟩, rfl⟩
    rw [List.mk_mem_zipIdx_iff_le_and_getElem?_sub]
    exact ⟨by omega, by simp⟩

/-- The items of the scores: each id that occurs, with what it adds up to. -/
theorem mem_items (hnodup : ∀ rs ∈ resultSets, (hitIds rs).Nodup) {item : String × ℚ} :
    item ∈ (resultSets.foldl (Fusion.addResultSet k) {}).scores ↔
      (∃ rs ∈ resultSets, item.1 ∈ hitIds rs) ∧ item.2 = fusedScore k resultSets item.1 := by
  have hkeys : ((resultSets.foldl (Fusion.addResultSet k) {}).scores.map Prod.fst).Nodup := by
    rw [scores_foldl]
    exact Tally.nodup_addAll _ _ _ List.nodup_nil
  rw [← mem_scores (k := k), ← get_scores hnodup]
  constructor
  · intro hitem
    exact ⟨List.mem_map_of_mem hitem, (Tally.get_of_mem hkeys hitem).symm⟩
  · rintro ⟨hid, hscore⟩
    obtain ⟨⟨id, x⟩, hmem, hfst⟩ := List.mem_map.mp hid
    have hget := Tally.get_of_mem hkeys hmem
    have hsame : item = (id, x) := Prod.ext hfst.symm (by rw [hscore, ← hfst, hget])
    rw [hsame]
    exact hmem

/-! ### Fairness -/

/-- The fusion returns the sorted items, as hits. That each has a payload is what makes the last
loop complete. -/
theorem reciprocalRankFusion_eq_some (k : ℕ) (resultSets : List (List (SearchHit α))) :
    ∃ fused, reciprocalRankFusion resultSets k = some fused ∧ fused.map SearchHit.scored =
      Table.orderByDesc Prod.snd (resultSets.foldl (Fusion.addResultSet k) {}).scores := by
  have hloop (s : Fusion α) (items : List (String × ℚ))
      (hitems : ∀ item ∈ items, item.1 ∈ s.payloads.map Prod.fst) :
      ∃ fused, items.mapM s.hit? = some fused ∧ fused.map SearchHit.scored = items := by
    induction items with
    | nil => exact ⟨[], rfl, rfl⟩
    | cons item items ih =>
      obtain ⟨hitem, hitems⟩ := List.forall_mem_cons.mp hitems
      obtain ⟨fused, hfused, hscored⟩ := ih hitems
      have hfound : Table.lookup Prod.fst item.1 s.payloads ≠ none :=
        fun hnone => Table.lookup_eq_none.mp hnone hitem
      obtain ⟨payload, hpayload⟩ := Option.ne_none_iff_exists'.mp hfound
      refine ⟨⟨item.1, item.2, payload.2⟩ :: fused, ?_, ?_⟩
      · rw [List.mapM_cons, hfused, Fusion.hit?, hpayload]
        rfl
      · rw [List.map_cons, hscored]
        rfl
  refine hloop _ _ fun item hitem => ?_
  rw [hasPayload_foldl]
  exact List.mem_map_of_mem ((Table.orderByDesc_perm _ _).mem_iff.mp hitem)

/-- The fusion of result sets without repeated ids is fair. A repeated id would add twice within one
set, and its rank would not be one. -/
theorem fair_reciprocalRankFusion (k : ℕ) (resultSets : List (List (SearchHit α)))
    (hnodup : ∀ rs ∈ resultSets, (hitIds rs).Nodup) :
    ∃ fused, reciprocalRankFusion resultSets k = some fused ∧ FairFusion k resultSets fused := by
  obtain ⟨fused, hfused, hscored⟩ := reciprocalRankFusion_eq_some k resultSets
  have hperm : (fused.map SearchHit.scored).Perm
      (resultSets.foldl (Fusion.addResultSet k) {}).scores := by
    rw [hscored]
    exact Table.orderByDesc_perm _ _
  have hids : hitIds fused = (fused.map SearchHit.scored).map Prod.fst := by
    rw [List.map_map]
    rfl
  have hkeys (sets : List (List (SearchHit α))) :
      ((sets.foldl (Fusion.addResultSet k) {}).scores.map Prod.fst).Nodup := by
    rw [scores_foldl]
    exact Tally.nodup_addAll _ _ _ List.nodup_nil
  have hmem {hit : SearchHit α} (hhit : hit ∈ fused) :
      (∃ rs ∈ resultSets, hit.evidenceId ∈ hitIds rs) ∧
        hit.score = fusedScore k resultSets hit.evidenceId :=
    (mem_items hnodup).mp (hperm.mem_iff.mp (List.mem_map_of_mem hhit))
  have hsorted : fused.Pairwise fun hit later => later.score ≤ hit.score := by
    have hitems : (fused.map SearchHit.scored).Pairwise fun item later => later.2 ≤ item.2 := by
      rw [hscored]
      exact Table.sorted_orderByDesc _
    rw [List.pairwise_map] at hitems
    exact hitems
  refine ⟨fused, hfused, ?_, fun id => ?_, fun hit hhit => (hmem hhit).2, hsorted,
    fun reordered hreordered => ?_, ?_⟩
  · rw [hids]
    exact (hperm.map Prod.fst).nodup_iff.mpr (hkeys resultSets)
  · rw [hids, (hperm.map Prod.fst).mem_iff, mem_scores]
  · obtain ⟨fused', hfused', hscored'⟩ := reciprocalRankFusion_eq_some k reordered
    refine ⟨fused', hfused', ?_⟩
    have hnodup' : ∀ rs ∈ reordered, (hitIds rs).Nodup :=
      fun rs hrs => hnodup rs (hreordered.mem_iff.mp hrs)
    have hperm' : (fused'.map SearchHit.scored).Perm
        (reordered.foldl (Fusion.addResultSet k) {}).scores := by
      rw [hscored']
      exact Table.orderByDesc_perm _ _
    refine (hperm'.trans ?_).trans hperm.symm
    -- both dictionaries have the same items
    refine (List.perm_ext_iff_of_nodup (List.Nodup.of_map _ (hkeys reordered))
      (List.Nodup.of_map _ (hkeys resultSets))).mpr fun item => ?_
    rw [mem_items hnodup', mem_items hnodup, fusedScore_perm hreordered]
    exact and_congr_left' (by simp only [hreordered.mem_iff])
  · refine hsorted.imp_of_mem fun {hit later} hhit hlater hle habove => ?_
    have hlt : fusedScore k resultSets hit.evidenceId < fusedScore k resultSets later.evidenceId :=
      fusedScore_lt habove (hmem hhit).1
    rw [← (hmem hhit).2, ← (hmem hlater).2] at hlt
    exact absurd hle (not_le.mpr hlt)

/-- Two result sets that share one id. -/
def overlappingSets : List (List (SearchHit String)) :=
  [[⟨"a", 1, "first"⟩, ⟨"b", 9 / 10, "second"⟩], [⟨"b", 1, "third"⟩, ⟨"c", 8 / 10, "fourth"⟩]]

/-- Two result sets with an id in common. -/
theorem fair_overlappingSets : ∃ fused, reciprocalRankFusion overlappingSets 60 = some fused ∧
    FairFusion 60 overlappingSets fused :=
  fair_reciprocalRankFusion 60 overlappingSets (by decide)

-- The shared id comes first, with the payload of its first hit.
example : (reciprocalRankFusion overlappingSets).map
    (List.map fun hit => (hit.evidenceId, hit.payload)) =
      some [("b", "second"), ("a", "first"), ("c", "fourth")] := by decide +kernel

end DecisionCenter
