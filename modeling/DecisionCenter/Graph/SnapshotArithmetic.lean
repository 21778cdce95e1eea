import DecisionCenter.Graph.CitedFigures

/-!
# The arithmetic of the snapshot

What the categories pass computes from the figures of a snapshot, and that computing it again
changes nothing. The total always is the sum of the categories that are available; a variance
that cannot be computed is left as it was.

`Coherent` is about a snapshot alone, whatever the pack: the total is there just if a category
is, and is the sum of their amounts without sign, and the variance has a value just if there are
an estimate and something spent, and then is their difference, with the formula and the two ids
named. What is spent is the total where more than one category is available, else the actual
cost (`spendBasis`).

Coherence is asked of snapshots in which none of the figures was available that only this pass
makes available (`NothingAvailable`). Then the figures placed are those of the pack, so that it
can be told from the pack whether a variance is due (`VarianceDue`): an estimate that is not
zero, and something it can be compared with. `coherent_iff` has the single pass, and for the
second one every node that has been placed is shown not to be changed by placing it again.

`snapshotArithmetic_iff` is exact: coherent figures, and a second application that changes
nothing, exactly when a variance that had a value before is computed. The failing snapshots
carry a variance of the draft's own without an estimate to compute one from.
-/

namespace DecisionCenter

open Py

section Arithmetic

variable {F : Type} [Floats F]

/-! ### Coherent figures -/

/-- The figure the estimate is compared with. -/
def spendBasis (fs : Dict F) : String :=
  if 1 < (incurredKeys.filterMap (availableFigure fs)).length then "total_incurred"
  else "actual_cost"

/-- The total is available just if a category of cost is, and is the sum of their amounts without
sign. -/
structure TotalCoherent (fs : Dict F) : Prop where
  available : availableFigure fs "total_incurred" ≠ none ↔
    ∃ key ∈ incurredKeys, availableFigure fs key ≠ none
  value : ∀ node, availableFigure fs "total_incurred" = some node → ∃ amounts total,
    (incurredKeys.filterMap (availableFigure fs)).mapM (fun part => (part.get "value").absNum) =
        .ok amounts ∧
      Num.sum amounts = .ok total ∧ node.get "value" = total.round2.toValue

/-- The estimate and what it is compared with. -/
def Operands (fs estimate spent : Dict F) : Prop :=
  (availableFigure fs "estimate" = some estimate ∧ (estimate.get "value").truthy = true) ∧
    availableFigure fs (spendBasis fs) = some spent

/-- The variance is the estimate less the amount spent, and names both. -/
def VarianceOf (fs estimate spent variance : Dict F) : Prop :=
  (∃ e s d, (estimate.get "value").toNum = .ok e ∧ (spent.get "value").absNum = .ok s ∧
    e.sub s = .ok d ∧ variance.get "value" = d.round2.toValue) ∧
  variance.get "formula" = .str ("estimate - " ++ spendBasis fs) ∧
  variance.get "evidence_ids" =
    .list ([estimate.get "evidence_id", spent.get "evidence_id"].filter (·.truthy))

/-- The variance has a value just if there is an estimate and something to compare it with, and is
their difference. -/
structure VarianceCoherent (fs : Dict F) : Prop where
  set : (nodeOrEmpty fs "variance").get "value" ≠ .null ↔
    ∃ estimate spent, Operands fs estimate spent
  value : ∀ estimate spent, Operands fs estimate spent →
    VarianceOf fs estimate spent (nodeOrEmpty fs "variance")

/-- The total and the variance are coherent. -/
structure Coherent (fs : Dict F) : Prop where
  total : TotalCoherent fs
  variance : VarianceCoherent fs

/-- The figures that only this pass makes available. -/
def categoryKeys : List String :=
  ["contract_value", "estimate", "committed_cost", "payroll_cost", "expense_cost", "total_incurred"]

/-- None of these figures is available. -/
def NothingAvailable (fs : Dict F) : Prop := ∀ key ∈ categoryKeys, availableFigure fs key = none

/-! ### The total -/

section Total

variable {fs fs' : Dict F}

/-- The parts of the total are the amounts of the available categories, without sign. -/
theorem mapM_incurredParts {parts : List (IncurredPart F)} (h : incurredParts fs = .ok parts) :
    (incurredKeys.filterMap (availableFigure fs)).mapM (fun part => (part.get "value").absNum) =
      .ok (parts.map (·.amount)) := by
  have hsteps := mapM_eq_ok.mp h
  have hnodes : incurredKeys.filterMap (availableFigure fs) = (incurredKeys.filterMap fun k =>
      (availableFigure fs k).map fun node => (k, node)).map Prod.snd := by
    rw [List.map_filterMap]
    refine List.filterMap_congr fun k _ => ?_
    rw [Option.map_map]
    exact Option.map_id'.symm
  rw [mapM_eq_ok, hnodes, List.forall₂_map_left_iff, List.forall₂_map_right_iff]
  refine hsteps.imp fun kn part hpart => ?_
  obtain ⟨amount, hamount, hpart⟩ := bind_eq_ok.mp hpart
  cases hpart
  exact hamount

/-- The total that is placed is coherent, where none was available before. It is the sum of the
categories that the snapshot shows, which are not changed by placing it. -/
theorem totalCoherent_of_place (hprior : availableFigure fs "total_incurred" = none)
    (h : placeTotalIncurred fs = .ok fs') : TotalCoherent fs' := by
  obtain ⟨parts, hparts, hframe, hcases⟩ := placeTotalIncurred_cases h
  have hsame : ∀ key ∈ incurredKeys, availableFigure fs' key = availableFigure fs key := by
    intro key hkey
    refine availableFigure_congr (hframe key ?_)
    revert key
    decide
  have hincurred : incurredKeys.filterMap (availableFigure fs') =
      incurredKeys.filterMap (availableFigure fs) := List.filterMap_congr hsame
  have hempty : (∃ key ∈ incurredKeys, availableFigure fs' key ≠ none) ↔ parts ≠ [] := by
    have hlength := length_incurredParts hparts
    rw [Ne, ← List.length_eq_zero_iff, hlength, List.length_eq_zero_iff, List.filterMap_eq_nil_iff]
    push Not
    exact exists_congr fun key => and_congr_right fun hkey => by rw [hsame key hkey]
  -- no parts: no total is placed; some parts: the total is their sum
  rcases hcases with ⟨hnil, hget⟩ | ⟨first, rest, total, hcons, hsum, hget⟩
  · have hnone : availableFigure fs' "total_incurred" = none := by
      rw [availableFigure, Dict.dict?_eq_some.mpr hget]
      rw [availableFigure] at hprior
      cases hnode : fs.dict? "total_incurred" with
      | none => rfl
      | some node =>
        rw [hnode] at hprior
        exact hprior
    refine ⟨iff_of_false (not_not.mpr hnone) fun hsome => hempty.mp hsome hnil, ?_⟩
    intro node hnode
    rw [hnone] at hnode
    cases hnode
  · have hvalue : total.round2.toValue ≠ (.null : Value F) := by cases total <;> rintro ⟨⟩
    have havailable : availableFigure fs' "total_incurred" =
        some (availableNode ((fs.dict? "total_incurred").getD notAvailableNode) total.round2.toValue
          first.evidenceId) := by
      refine availableFigure_eq_some.mpr ⟨Dict.dict?_eq_some.mpr hget, ?_, ?_⟩
      · simp [availableNode]
      · simpa [availableNode, Dict.get_set] using hvalue
    refine ⟨iff_of_true ?_ (hempty.mpr ?_), fun node hnode => ?_⟩
    · rw [havailable]
      exact Option.some_ne_none _
    · rw [hcons]
      exact List.cons_ne_nil _ _
    · rw [havailable] at hnode
      cases hnode
      rw [hincurred]
      exact ⟨_, total, mapM_incurredParts hparts, hsum, by simp [availableNode, Dict.get_set]⟩

/-- The variance is no part of what makes a total coherent. -/
theorem TotalCoherent.of_frame (h : TotalCoherent fs) (hframe : Dict.Frame ["variance"] fs fs') :
    TotalCoherent fs' := by
  have hsame {key : String} (hkey : key ≠ "variance") :
      availableFigure fs' key = availableFigure fs key :=
    availableFigure_congr (hframe key (by simpa using hkey))
  have hincurred : ∀ key ∈ incurredKeys, availableFigure fs' key = availableFigure fs key := by
    intro key hkey
    refine hsame ?_
    rintro rfl
    revert hkey
    decide
  refine ⟨?_, fun node hnode => ?_⟩
  · rw [hsame (by decide), h.available]
    exact exists_congr fun key => and_congr_right fun hkey => by rw [hincurred key hkey]
  · rw [hsame (by decide)] at hnode
    rw [List.filterMap_congr hincurred]
    exact h.value node hnode

end Total

/-! ### The variance -/

section Variance

variable {fs fs' : Dict F}

/-- Where the total is coherent, the estimate is compared with the basis of the spend. With more
than one category this is the total, which is then available. -/
theorem spentNode_eq (h : TotalCoherent fs) :
    spentNode fs = (nodeOrEmpty fs (spendBasis fs), "estimate - " ++ spendBasis fs) := by
  unfold spentNode spendBasis
  by_cases hmany : 1 < (incurredKeys.filterMap (availableFigure fs)).length
  · have hne : incurredKeys.filterMap (availableFigure fs) ≠ [] := by
      rintro hnil
      rw [hnil] at hmany
      cases hmany
    have hsome : ∃ key ∈ incurredKeys, availableFigure fs key ≠ none := by
      rw [Ne, List.filterMap_eq_nil_iff] at hne
      push Not at hne
      exact hne
    obtain ⟨node, hnode⟩ := Option.ne_none_iff_exists'.mp (h.available.mpr hsome)
    have hstatus := (availableFigure_eq_some.mp hnode).2.1
    rw [nodeOrEmpty_of_available hnode, if_pos ⟨hmany, Value.eqStr_iff.mpr hstatus⟩, if_pos hmany,
      nodeOrEmpty_of_available hnode]
    rfl
  · rw [if_neg fun hboth => hmany hboth.1, if_neg hmany]
    rfl

/-- The variance is computed just if both operands are there. -/
theorem varianceComputable_iff_operands {basis : Dict F}
    (hbasis : basis = nodeOrEmpty fs (spendBasis fs)) :
    varianceComputable (nodeOrEmpty fs "estimate") basis = true ↔
      ∃ estimate spent, Operands fs estimate spent := by
  rw [varianceComputable_iff, hbasis]
  constructor
  · rintro ⟨hstatus, hspent, htruthy, hvalue⟩
    have hne : (nodeOrEmpty fs "estimate").get "value" ≠ .null := by
      intro hnull
      rw [hnull] at htruthy
      cases htruthy
    exact ⟨_, _, ⟨availableFigure_of_node hstatus hne, htruthy⟩,
      availableFigure_of_node hspent hvalue⟩
  · rintro ⟨estimate, spent, ⟨hestimate, htruthy⟩, hspent⟩
    rw [nodeOrEmpty_of_available hestimate, nodeOrEmpty_of_available hspent]
    exact ⟨(availableFigure_eq_some.mp hestimate).2.1, (availableFigure_eq_some.mp hspent).2.1,
      htruthy, (availableFigure_eq_some.mp hspent).2.2⟩

/-- A computed variance names the formula. -/
theorem formula_of_placeVariance (h : placeVariance fs = .ok fs')
    (hcomp : varianceComputable (nodeOrEmpty fs "estimate") (spentNode fs).1 = true) :
    (nodeOrEmpty fs' "variance").get "formula" = .str (spentNode fs).2 := by
  unfold placeVariance at h
  simp only [hcomp, if_true] at h
  obtain ⟨spent, -, h⟩ := bind_eq_ok.mp h
  obtain ⟨est, -, h⟩ := bind_eq_ok.mp h
  obtain ⟨diff, -, h⟩ := bind_eq_ok.mp h
  cases h
  rw [nodeOrEmpty, Dict.dict?_set, if_pos rfl]
  simp [Value.asDict?, Dict.get_set]

omit [Floats F] in
private theorem spendBasis_congr (hframe : Dict.Frame ["variance"] fs fs') :
    spendBasis fs' = spendBasis fs := by
  have hincurred : incurredKeys.filterMap (availableFigure fs') =
      incurredKeys.filterMap (availableFigure fs) := by
    refine List.filterMap_congr fun key hkey => availableFigure_congr (hframe key ?_)
    revert key
    decide
  rw [spendBasis, spendBasis, hincurred]

/-- The variance is no operand of its own. -/
theorem operands_congr (hframe : Dict.Frame ["variance"] fs fs') {estimate spent : Dict F} :
    Operands fs' estimate spent ↔ Operands fs estimate spent := by
  have hsame {key : String} (hkey : key ≠ "variance") :
      availableFigure fs' key = availableFigure fs key :=
    availableFigure_congr (hframe key (by simpa using hkey))
  have hne : spendBasis fs ≠ "variance" := by
    unfold spendBasis
    split <;> decide
  rw [Operands, Operands, spendBasis_congr hframe, hsame (by decide), hsame hne]

/-- After a coherent total the variance is coherent just if it is computed or had no value. A value
that is left over has nothing it could be the difference of. -/
theorem varianceCoherent_iff (hcoherent : TotalCoherent fs) (h : placeVariance fs = .ok fs') :
    VarianceCoherent fs' ↔ (∃ estimate spent, Operands fs estimate spent) ∨
      (nodeOrEmpty fs "variance").get "value" = .null := by
  have hspent := spentNode_eq hcoherent
  have hcomputable := varianceComputable_iff_operands (congrArg Prod.fst hspent)
  obtain ⟨hframe, hcases⟩ := placeVariance_cases h
  have hoperands : (∃ estimate spent, Operands fs' estimate spent) ↔
      ∃ estimate spent, Operands fs estimate spent :=
    exists₂_congr fun _ _ => operands_congr hframe
  rcases hcases with ⟨hfalse, hget⟩ | ⟨e, s, d, node, hcomp, he, hs, hd, hget, hvalue, hids⟩
  -- not computed: the pass leaves the value, so coherent means that there was none
  · have hnone : ¬ ∃ estimate spent, Operands fs estimate spent := by
      rw [← hcomputable, hfalse]
      exact Bool.false_ne_true
    have hkept : (nodeOrEmpty fs' "variance").get "value" =
        (nodeOrEmpty fs "variance").get "value" := by
      rw [nodeOrEmpty, Dict.dict?_eq_some.mpr hget, nodeOrEmpty]
      cases fs.dict? "variance" <;> rfl
    constructor
    · intro hvariance
      refine .inr ?_
      rw [← hkept]
      by_contra hset
      exact hnone (hoperands.mp (hvariance.set.mp hset))
    · intro hor
      rw [← hkept] at hor
      refine ⟨iff_of_false (not_not.mpr (hor.resolve_left hnone)) fun hsome =>
        hnone (hoperands.mp hsome), fun estimate spent hboth => ?_⟩
      exact absurd (hoperands.mp ⟨estimate, spent, hboth⟩) hnone
  -- computed: value, formula and ids are those of the operands
  · have hboth := hcomputable.mp hcomp
    refine iff_of_true ⟨iff_of_true ?_ (hoperands.mpr hboth), ?_⟩ (.inl hboth)
    · rw [nodeOrEmpty, Dict.dict?_eq_some.mpr hget, Option.getD_some, hvalue]
      cases d <;> rintro ⟨⟩
    · intro estimate spent hop
      obtain ⟨⟨hestimate, -⟩, hspentNode⟩ := (operands_congr hframe).mp hop
      have hformula := formula_of_placeVariance h hcomp
      rw [hspent, nodeOrEmpty_of_available hestimate, nodeOrEmpty_of_available hspentNode] at hids
      rw [nodeOrEmpty_of_available hestimate] at he
      rw [hspent, nodeOrEmpty_of_available hspentNode] at hs
      rw [nodeOrEmpty, Dict.dict?_eq_some.mpr hget, Option.getD_some, hspent] at hformula
      rw [nodeOrEmpty, Dict.dict?_eq_some.mpr hget, Option.getD_some]
      exact ⟨⟨e, s, d, he, hs, hd, hvalue⟩, spendBasis_congr hframe ▸ hformula, hids⟩

end Variance

/-! ### The second application -/

section Stable

variable {fs fs' : Dict F}

omit [Floats F] in
/-- Writing what is there changes nothing. -/
theorem set_eq_self {d : Dict F} {k : String} {v : Value F} (h : d.get? k = some v) :
    d.set k v = d := by
  induction d with
  | nil => cases h
  | cons kv d ih =>
    obtain ⟨q, w⟩ := kv
    rw [Dict.get?] at h
    rw [Dict.set]
    split
    · next hq =>
      rw [if_pos hq] at h
      cases h
      rfl
    · next hq =>
      rw [if_neg hq] at h
      rw [ih h]

omit [Floats F] in
/-- A node that has been placed is not changed by placing it again. -/
theorem availableNode_idem (node : Dict F) (value eid : Value F) :
    availableNode (availableNode node value eid) value eid = availableNode node value eid := by
  have hget (k : String) (v : Value F) (h : (availableNode node value eid).get? k = some v) :
      (availableNode node value eid).set k v = availableNode node value eid := set_eq_self h
  have hvalue := hget "value" value (by simp [availableNode, Dict.get?_set])
  have hcurrency := hget "currency" (.str "AED") (by simp [availableNode, Dict.get?_set])
  have hid := hget "evidence_id" eid (by simp [availableNode, Dict.get?_set])
  have hstatus := hget "status" (.str "available") (by simp [availableNode])
  rw [availableNode, hvalue, hcurrency, hid, hstatus]

omit [Floats F] in
/-- Nor is a variance by computing it again. -/
theorem varianceNode_idem (node : Dict F) (value eids : Value F) (formula : String) :
    let placed := (((node.set "value" value).set "currency" (.str "AED")).set "formula"
      (.str formula)).set "evidence_ids" eids
    (((placed.set "value" value).set "currency" (.str "AED")).set "formula" (.str formula)).set
      "evidence_ids" eids = placed := by
  intro placed
  have hget (k : String) (v : Value F) (h : placed.get? k = some v) : placed.set k v = placed :=
    set_eq_self h
  rw [hget "value" value (by simp [placed, Dict.get?_set]),
    hget "currency" (.str "AED") (by simp [placed, Dict.get?_set]),
    hget "formula" (.str formula) (by simp [placed, Dict.get?_set]),
    hget "evidence_ids" eids (by simp [placed])]

omit [Floats F] in
private theorem setFinAvailable_eq_self {key : String} {node : Dict F} {value eid : Value F}
    (h : fs.get? key = some (.dict (availableNode node value eid))) :
    setFinAvailable fs key value eid = fs := by
  have hnode := Dict.dict?_eq_some.mpr h
  rw [setFinAvailable, finNode, hnode]
  simp only [Dict.modify, hnode, availableNode_idem]
  exact set_eq_self h

omit [Floats F] in
private theorem finNode_eq_self {key : String} {node : Dict F}
    (h : fs.get? key = some (.dict node)) : finNode fs key = fs := by
  rw [finNode, Dict.dict?_eq_some.mpr h]

omit [Floats F] in
private theorem placeFigure_eq_self {key : String} {p : Option (F × String)} {d : Dict F}
    (h : fs.get? key = some (.dict (placedNode d key p))) : placeFigure fs key p = fs := by
  rcases p with - | ⟨x, e⟩
  · exact finNode_eq_self h
  · exact setFinAvailable_eq_self h

/-- Computing the variance again changes nothing: what it is computed from is not touched by it. -/
private theorem placeVariance_stable (h : placeVariance fs = .ok fs') :
    placeVariance fs' = .ok fs' := by
  obtain ⟨hframe, -⟩ := placeVariance_cases h
  have hnode {key : String} (hkey : key ≠ "variance") :
      nodeOrEmpty fs' key = nodeOrEmpty fs key := by
    rw [nodeOrEmpty, nodeOrEmpty, hframe.dict?_eq (by simpa using hkey)]
  have hspent : spentNode fs' = spentNode fs := by
    have hincurred : incurredKeys.filterMap (availableFigure fs') =
        incurredKeys.filterMap (availableFigure fs) := by
      refine List.filterMap_congr fun key hkey => availableFigure_congr (hframe key ?_)
      revert key
      decide
    rw [spentNode, spentNode, hincurred, hnode (by decide), hnode (by decide)]
  unfold placeVariance at h ⊢
  simp only [hnode (show "estimate" ≠ "variance" by decide), hspent]
  simp only at h
  split at h
  · next hcomp =>
    rw [if_pos hcomp]
    obtain ⟨spent, hs, h⟩ := bind_eq_ok.mp h
    obtain ⟨est, he, h⟩ := bind_eq_ok.mp h
    obtain ⟨diff, hd, h⟩ := bind_eq_ok.mp h
    cases h
    simp only [hs, he, hd, bind, Except.bind, pure, Except.pure, Dict.dict?_set, if_true,
      Value.asDict?, Option.getD_some, varianceNode_idem]
    exact congrArg Except.ok (set_eq_self (Dict.get?_set_self _ _ _))
  · next hcomp =>
    cases h
    rw [if_neg hcomp, Dict.dict?_set, if_pos rfl]
    exact congrArg Except.ok (set_eq_self (Dict.get?_set_self _ _ _))

/-- Placing the total of a snapshot with a total changes nothing, whatever its variance. The pass
writes none of the parts, so that it reads the same ones again. -/
theorem placeTotalIncurred_stable (h : placeTotalIncurred fs = .ok fs') {fs'' : Dict F}
    (hframe : Dict.Frame ["variance"] fs' fs'') : placeTotalIncurred fs'' = .ok fs'' := by
  obtain ⟨parts, hparts, hframe', -⟩ := placeTotalIncurred_cases h
  -- the pass writes neither a part nor the variance, so it reads the same parts again
  have hsame : incurredParts fs'' = .ok parts := by
    have hfigures : (incurredKeys.filterMap fun k => (availableFigure fs'' k).map fun n => (k, n)) =
        incurredKeys.filterMap fun k => (availableFigure fs k).map fun n => (k, n) := by
      refine List.filterMap_congr fun key hkey => ?_
      have hkeys : key ∉ ["variance"] ∧ key ∉ ["total_incurred", "note"] := by
        revert key
        decide
      rw [availableFigure_congr ((hframe key hkeys.1).trans (hframe' key hkeys.2))]
    rw [incurredParts, hfigures]
    exact hparts
  unfold placeTotalIncurred at h ⊢
  rw [hparts] at h
  rw [hsame]
  simp only [bind, Except.bind] at h ⊢
  -- each of the three things it writes is there already: none, the total, total and note
  cases parts with
  | nil =>
    cases h
    have hget : fs''.get? "total_incurred" =
        some (.dict ((fs.dict? "total_incurred").getD notAvailableNode)) := by
      rw [hframe _ (by decide), get?_finNode, if_pos rfl]
    exact congrArg Except.ok (finNode_eq_self hget)
  | cons first rest =>
    simp only at h ⊢
    cases hsum : Num.sum ((first :: rest).map (·.amount)) with
    | error e =>
      rw [hsum] at h
      cases h
    | ok total =>
      rw [hsum] at h
      simp only at h ⊢
      split at h
      · next hrest =>
        cases h
        have hget : fs''.get? "total_incurred" = some (.dict (availableNode
            ((fs.dict? "total_incurred").getD notAvailableNode) total.round2.toValue
              first.evidenceId)) := by
          rw [hframe _ (by decide), get?_setFinAvailable, if_pos rfl]
        rw [if_pos hrest, setFinAvailable_eq_self hget]
        rfl
      · next hrest =>
        cases h
        have hget : fs''.get? "total_incurred" = some (.dict (availableNode
            ((fs.dict? "total_incurred").getD notAvailableNode) total.round2.toValue
              first.evidenceId)) := by
          rw [hframe _ (by decide), Dict.get?_set_ne _ _ (by decide), get?_setFinAvailable,
            if_pos rfl]
        have hnote : fs''.get? "note" =
            some (.str (incurredNote ((first :: rest).map (·.key)))) := by
          rw [hframe _ (by decide), Dict.get?_set_self]
        rw [if_neg hrest, setFinAvailable_eq_self hget, set_eq_self hnote]
        rfl

variable [Text]

omit [Floats F] [Text] in
private theorem foldl_placeFigure_eq_self {figures : List (String × Option (F × String))}
    (h : ∀ kp ∈ figures, placeFigure fs kp.1 kp.2 = fs) :
    figures.foldl (fun fs kp => placeFigure fs kp.1 kp.2) fs = fs := by
  induction figures with
  | nil => rfl
  | cons kp figures ih =>
    rw [List.foldl_cons, h kp List.mem_cons_self]
    exact ih fun kp' hkp' => h kp' (List.mem_cons_of_mem _ hkp')

/-- Placing the figures of a snapshot that has them changes nothing. -/
theorem placeFigures_stable {ctx : OdooContext F} {odoo : List (Evidence F)} {ids : List String}
    {d : Dict F} (h : ∀ kp ∈ backedFigures ctx odoo ids,
      fs'.get? kp.1 = some (.dict (placedNode d kp.1 kp.2))) :
    placeFigures ctx odoo ids fs' = fs' := by
  have hfold : placeFigures ctx odoo ids fs' =
      (backedFigures ctx odoo ids).foldl (fun fs kp => placeFigure fs kp.1 kp.2) fs' := rfl
  rw [hfold]
  exact foldl_placeFigure_eq_self fun kp hkp => placeFigure_eq_self (h kp hkp)

/-- Applying the categories pass to its own result changes nothing. -/
theorem enforceCategoriesSnapshot_stable {ctx : OdooContext F} {odoo : List (Evidence F)}
    {ids : List String} (h : enforceCategoriesSnapshot ctx odoo ids fs = .ok fs') :
    enforceCategoriesSnapshot ctx odoo ids fs' = .ok fs' := by
  obtain ⟨totalled, htotal, hvariance, hget, -⟩ := enforceCategoriesSnapshot_cases h
  obtain ⟨hframe, -⟩ := placeVariance_cases hvariance
  have hfigures : placeFigures ctx odoo ids fs' = fs' := by
    refine placeFigures_stable (d := fs) fun kp hkp => ?_
    simp only [backedFigures, List.mem_cons, List.not_mem_nil, or_false] at hkp
    rcases hkp with rfl | rfl | rfl | rfl | rfl <;> exact hget _ (by simp)
  rw [enforceCategoriesSnapshot, hfigures, placeTotalIncurred_stable htotal hframe]
  exact placeVariance_stable hvariance

end Stable

/-! ### The pass -/

section Pass

variable [Text] {ctx : OdooContext F} {odoo : List (Evidence F)} {ids : List String}
  {fs fs' : Dict F}

/-- How many categories of cost are available, or are going to be. -/
def spendCount (ctx : OdooContext F) (ids : List String) (fs : Dict F) : ℕ :=
  [(availableFigure fs "actual_cost").isSome, (backed ids ctx.payrollCost).isSome,
    (backed ids ctx.expenseCost).isSome].count true

/-- The pack has an estimate that is not zero, and there are two categories of cost or an actual
cost. -/
structure VarianceDue (ctx : OdooContext F) (ids : List String) (fs : Dict F) : Prop where
  estimate : (backedNonzero ids ctx.estimate).isSome = true
  spent : 1 < spendCount ctx ids fs ∨ (availableFigure fs "actual_cost").isSome = true

omit [Floats F] [Text] in
/-- A figure that is placed is available, another one if it was. -/
theorem availableFigure_placed {placed : Dict F} {key : String} {p : Option (F × String)}
    (hget : placed.get? key = some (.dict (placedNode fs key p))) :
    availableFigure placed key =
      (p.map fun q => placedNode fs key (some q)).or (availableFigure fs key) := by
  rw [availableFigure, Dict.dict?_eq_some.mpr hget]
  rcases p with - | ⟨x, e⟩
  · rw [placedNode, Option.map_none, Option.none_or, availableFigure]
    cases fs.dict? key with
    | none => rfl
    | some node => rfl
  · rw [Option.map_some, Option.some_or]
    refine Option.filter_some_pos ?_
    rw [Bool.and_eq_true, Value.eqStr_iff]
    simp [placedNode, availableNode, Dict.get_set, Value.isNull]

/-- Where nothing was available, an estimate and a cost are after the figures are placed just if the
variance is due. -/
theorem comparable_placed_iff (hprior : NothingAvailable fs) :
    Comparable (placeFigures ctx odoo ids fs) ↔ VarianceDue ctx ids fs := by
  have hget := get?_placeFigures ctx odoo ids fs
  have hestimate := availableFigure_placed (hget "estimate")
  have hpayroll := availableFigure_placed (hget "payroll_cost")
  have hexpense := availableFigure_placed (hget "expense_cost")
  rw [hprior _ (by decide), Option.or_none] at hestimate hpayroll hexpense
  have hactual : availableFigure (placeFigures ctx odoo ids fs) "actual_cost" =
      availableFigure fs "actual_cost" := availableFigure_congr (hget "actual_cost")
  have hcount : (incurredKeys.filterMap (availableFigure (placeFigures ctx odoo ids fs))).length =
      spendCount ctx ids fs := by
    simp only [incurredKeys, spendCount, List.filterMap_cons, List.filterMap_nil, hactual, hpayroll,
      hexpense]
    cases availableFigure fs "actual_cost" <;> cases backed ids ctx.payrollCost <;>
      cases backed ids ctx.expenseCost <;> rfl
  rw [Comparable, hcount, hactual, hestimate, ← Option.isSome_iff_ne_none]
  have hnonzero : (∃ node, (backedNonzero ids ctx.estimate).map (fun q =>
      placedNode fs "estimate" (some q)) = some node ∧ (node.get "value").truthy = true) ↔
        (backedNonzero ids ctx.estimate).isSome = true := by
    cases hbacked : backedNonzero ids ctx.estimate with
    | none => simp
    | some p =>
      obtain ⟨x, e⟩ := p
      have hzero := (Option.filter_eq_some_iff.mp hbacked).2
      simp only [Bool.and_eq_true, Bool.not_eq_true'] at hzero
      simp [placedNode, availableNode, Dict.get_set, Value.truthy_float, hzero.1]
  rw [hnonzero]
  exact ⟨fun h => ⟨h.1, h.2⟩, fun h => ⟨h.estimate, h.spent⟩⟩

/-- Where nothing was available, the pass leaves coherent figures just if the variance is due or had
no value. -/
theorem coherent_iff (hprior : NothingAvailable fs)
    (h : enforceCategoriesSnapshot ctx odoo ids fs = .ok fs') :
    Coherent fs' ↔ VarianceDue ctx ids fs ∨ (nodeOrEmpty fs "variance").get "value" = .null := by
  obtain ⟨totalled, htotal, hvariance⟩ := bind_eq_ok.mp h
  have hget := get?_placeFigures ctx odoo ids fs
  have hnone : availableFigure (placeFigures ctx odoo ids fs) "total_incurred" = none := by
    rw [availableFigure_congr (hget "total_incurred")]
    exact hprior _ (by decide)
  have hcoherent := totalCoherent_of_place hnone htotal
  obtain ⟨-, -, hframe, -⟩ := placeTotalIncurred_cases htotal
  obtain ⟨hframe', -⟩ := placeVariance_cases hvariance
  have hoperands : (∃ estimate spent, Operands totalled estimate spent) ↔
      VarianceDue ctx ids fs := by
    rw [← comparable_placed_iff hprior, ← varianceComputable_totalled htotal]
    exact (varianceComputable_iff_operands (congrArg Prod.fst (spentNode_eq hcoherent))).symm
  have hkept : nodeOrEmpty totalled "variance" = nodeOrEmpty fs "variance" := by
    rw [nodeOrEmpty, nodeOrEmpty, Dict.dict?, hframe _ (by decide), hget "variance"]
    rfl
  rw [← hoperands, ← hkept, ← varianceCoherent_iff hcoherent hvariance]
  exact ⟨Coherent.variance, fun h => ⟨hcoherent.of_frame hframe', h⟩⟩

/-- The figures the pass leaves are coherent, and its second application changes nothing, exactly
when a variance that had a value before is computed. The total is coherent in any case, and the
second application never changes anything. -/
theorem snapshotArithmetic_iff (h : enforceCategoriesSnapshot ctx odoo ids fs = .ok fs') :
    ((NothingAvailable fs → Coherent fs') ∧
        enforceCategoriesSnapshot ctx odoo ids fs' = .ok fs') ↔
      (NothingAvailable fs → VarianceDue ctx ids fs ∨
        (nodeOrEmpty fs "variance").get "value" = .null) := by
  constructor
  · rintro ⟨hcoherent, -⟩ hprior
    exact (coherent_iff hprior h).mp (hcoherent hprior)
  · intro hdue
    exact ⟨fun hprior => (coherent_iff hprior h).mpr (hdue hprior),
      enforceCategoriesSnapshot_stable h⟩

end Pass

end Arithmetic

section Whole

open Py.Whole

/-- A snapshot whose only figure is a variance. -/
def varianceSnapshot (value : Value ℤ) : Dict ℤ :=
  [("variance", .dict [("value", value), ("currency", .str "AED"), ("formula", .null),
    ("evidence_ids", .list [])])]

/-- The categories pass over a snapshot. -/
def categoriesRun (odoo : List (Evidence ℤ)) (fs : Dict ℤ) : Except Error (Dict ℤ) :=
  enforceCategoriesSnapshot (extractOdooContext odoo) odoo (evidenceIds odoo) fs

/-- A project with an estimate and a posting. -/
def estimatedPosting : List (Evidence ℤ) :=
  { analyticLine "9" "Tower" 0 with
    sourceUri := "https://odoo/web#id=9&model=project.project"
    metadata := [("model", .scalar (.str "project.project")),
      ("f_estimation_amount", .scalar (.num 500))] } :: onePosting

/-- A snapshot with an actual cost of 100 and a variance of the draft's own. -/
def postedSnapshot : Dict ℤ :=
  ("actual_cost", .dict [("status", .str "available"), ("value", .float 100),
    ("evidence_id", .str "odoo-account-analytic-line-1")]) :: varianceSnapshot (.int 5000)

/-- With an estimate and an actual cost the variance is due, and the draft's own gives way to the
difference of the two. -/
theorem coherent_estimatedPosting :
    ∃ fs', categoriesRun estimatedPosting postedSnapshot = .ok fs' ∧ Coherent fs' ∧
      categoriesRun estimatedPosting fs' = .ok fs' ∧
        (nodeOrEmpty fs' "variance").get "value" = .float 400 := by
  have hvalue : (categoriesRun estimatedPosting postedSnapshot).map (fun fs =>
      (nodeOrEmpty fs "variance").get "value") = .ok (.float 400) := rfl
  obtain ⟨fs', hrun⟩ : Completes (categoriesRun estimatedPosting postedSnapshot) :=
    completes_of_isSome (by decide)
  have hprior : NothingAvailable postedSnapshot := by
    simp [NothingAvailable, categoryKeys, availableFigure, postedSnapshot, varianceSnapshot,
      Dict.dict?, Dict.get?]
  have hdue : VarianceDue (extractOdooContext estimatedPosting) (evidenceIds estimatedPosting)
      postedSnapshot := ⟨by decide, .inr (by decide)⟩
  obtain ⟨hcoherent, hstable⟩ := (snapshotArithmetic_iff hrun).mpr fun _ => .inl hdue
  refine ⟨fs', hrun, hcoherent hprior, hstable, ?_⟩
  rw [hrun] at hvalue
  exact Except.ok.inj hvalue

/-- A variance of the draft's own survives without an estimate. The pass computes none, and leaves
the value there was. -/
theorem not_coherent_staleVariance :
    ¬ ∀ (ctx : OdooContext ℤ) (odoo : List (Evidence ℤ)) (ids : List String) (fs fs' : Dict ℤ),
      enforceCategoriesSnapshot ctx odoo ids fs = .ok fs' →
        (NothingAvailable fs → Coherent fs') ∧
          enforceCategoriesSnapshot ctx odoo ids fs' = .ok fs' := by
  intro h
  obtain ⟨fs', hrun⟩ : Completes (categoriesRun onePosting (varianceSnapshot (.int 5000))) :=
    completes_of_isSome (by decide)
  obtain ⟨hcoherent, -⟩ := h _ _ _ _ _ hrun
  have hprior : NothingAvailable (varianceSnapshot (.int 5000)) := by
    simp [NothingAvailable, categoryKeys, availableFigure, varianceSnapshot, Dict.dict?, Dict.get?]
  have hvalue : (categoriesRun onePosting (varianceSnapshot (.int 5000))).toOption.map (fun d =>
      (((nodeOrEmpty d "variance").get "value").isNull, availableFigure d "estimate")) =
        some (false, none) := rfl
  rw [hrun] at hvalue
  obtain ⟨hset, hestimate⟩ := Prod.mk.inj (Option.some.inj hvalue)
  obtain ⟨estimate, spent, ⟨hnode, -⟩, -⟩ := ((hcoherent hprior).variance.set).mp fun hnull => by
    rw [hnull] at hset
    cases hset
  rw [hestimate] at hnode
  cases hnode

end Whole

end DecisionCenter
