import DecisionCenter.Exporters.MarkdownSpec
import DecisionCenter.Graph.NonFabrication

/-!
# Cited figures

Which figures of the snapshot carry the id of an Odoo item. What the categories pass places is
cited from the pack, and a variance is cited like its estimate; so it depends on the figures
that the pass leaves as the draft has them.

`Carries ids key node` says of a figure with a value that its id, or for a variance one of its
ids, is among `ids`. `SnapshotCited` asks it of every figure, and `LeftoversCited` of those that
the pass leaves alone: an actual cost that is bare or was not backed, a figure that the
extraction does not back, a total without parts and a variance that is not computed.
`snapshotCited_iff` says that the first comes down to the second, for any snapshot on which the
pass returns.

The total and the variance are followed through the pass. A total takes its id from the first of
its parts, so that it carries one where the categories do (`carries_total_iff`), and without
parts the draft's total stays; a computed variance has the ids of its two operands.

For the report that is built from the evidence nothing has to be asked
(`leftoversCited_builder`): what its snapshot has was placed from the pack, and is placed again.
So the figures of a finished report are cited just if no candidate was taken, or the candidate's
figures that are left alone are (`snapshotCited_draftReport_iff`).
-/

namespace DecisionCenter

open Py

variable {F : Type}

/-! ### Figures -/

/-- A figure that is shown with a value carries one of the ids. -/
def Carries (odooIds : List String) (key : String) (figure : Value F) : Prop :=
  ∀ node, valued figure = some node → ∃ e ∈ odooIds, .str e ∈ attachedIds key node

/-- All figures of the snapshot that are shown carry the id of an Odoo item. -/
def SnapshotCited (evidence : List (Evidence F)) (fs : Dict F) : Prop :=
  ∀ key ∈ shownKeys, Carries (evidenceIds (odooEvidence evidence)) key (fs.get key)

/-- The variance is computed: there is an estimate, and two categories of cost or the actual
cost. -/
def Comparable [Floats F] (fs : Dict F) : Prop :=
  (∃ node, availableFigure fs "estimate" = some node ∧ (node.get "value").truthy = true) ∧
    (1 < (incurredKeys.filterMap (availableFigure fs)).length ∨
      availableFigure fs "actual_cost" ≠ none)

section Figures

variable {odooIds : List String} {key : String} {node fs : Dict F}

private theorem carries_of_null (h : node.get "value" = .null) :
    Carries odooIds key (.dict node) := by
  intro node' hnode'
  obtain ⟨heq, hvalue⟩ := valued_eq_some.mp hnode'
  cases heq
  exact absurd h hvalue

private theorem carries_of_id {e : String} (hkey : key ≠ "variance")
    (hid : node.get "evidence_id" = .str e) (he : e ∈ odooIds) :
    Carries odooIds key (.dict node) := by
  intro node' hnode'
  cases (valued_eq_some.mp hnode').1
  refine ⟨e, he, ?_⟩
  rw [attachedIds, if_neg hkey, hid]
  exact List.mem_singleton_self _

/-- A figure with a value that carries an id, other than the variance, has it as its own. -/
theorem Carries.id_of_value (h : Carries odooIds key (.dict node)) (hkey : key ≠ "variance")
    (hvalue : node.get "value" ≠ .null) : ∃ e ∈ odooIds, node.get "evidence_id" = .str e := by
  obtain ⟨e, he, hmem⟩ := h node (valued_eq_some.mpr ⟨rfl, hvalue⟩)
  rw [attachedIds, if_neg hkey] at hmem
  split at hmem
  · cases hmem
  · exact ⟨e, he, (List.mem_singleton.mp hmem).symm⟩

private theorem carries_congr {v v' : Value F} (h : valued v = valued v') :
    Carries odooIds key v ↔ Carries odooIds key v' := by
  rw [Carries, Carries, h]

/-- In the place of anything but an object, a node without a value makes no difference. -/
theorem valued_getD {empty : Dict F} (hempty : empty.get "value" = .null) :
    valued (.dict ((fs.dict? key).getD empty)) = valued (fs.get key) := by
  rw [Dict.get, Dict.getD]
  cases hget : fs.get? key with
  | none =>
    rw [Dict.dict?, hget]
    exact valued_of_null (Value.isNull_iff.mpr hempty)
  | some v =>
    cases v with
    | dict node =>
      rw [Dict.dict?_eq_some.mpr hget]
      rfl
    | _ =>
      rw [Dict.dict?, hget]
      exact valued_of_null (Value.isNull_iff.mpr hempty)

private theorem carries_placed_none :
    Carries odooIds key (.dict (placedNode fs key none)) ↔ Carries odooIds key (fs.get key) :=
  carries_congr (valued_getD rfl)

end Figures

section Passes

variable [Floats F] {odooIds : List String} {fs fs' totalled : Dict F}

/-! ### The total and the variance -/

/-- The parts of the total are the categories that are available, with their ids. -/
theorem mem_incurredParts {parts : List (IncurredPart F)} {part : IncurredPart F}
    (h : incurredParts fs = .ok parts) (hpart : part ∈ parts) :
    ∃ key ∈ incurredKeys, ∃ node, availableFigure fs key = some node ∧
      part.evidenceId = node.get "evidence_id" := by
  obtain ⟨⟨key, node⟩, hmem, hstep⟩ := (mem_of_mapM h).mp hpart
  obtain ⟨key', hkey, hpair⟩ := List.mem_filterMap.mp hmem
  obtain ⟨node', hnode, heq⟩ := Option.map_eq_some_iff.mp hpair
  cases heq
  obtain ⟨amount, -, hstep⟩ := bind_eq_ok.mp hstep
  cases hstep
  exact ⟨key, hkey, node, hnode, rfl⟩

/-- There are as many parts as categories available. -/
theorem length_incurredParts {parts : List (IncurredPart F)} (h : incurredParts fs = .ok parts) :
    parts.length = (incurredKeys.filterMap (availableFigure fs)).length := by
  have hlength := (mapM_eq_ok.mp h).length_eq
  rw [← hlength]
  have hmap : (incurredKeys.filterMap fun k => (availableFigure fs k).map fun node => (k, node)).map
      Prod.snd = incurredKeys.filterMap (availableFigure fs) := by
    rw [List.map_filterMap]
    refine List.filterMap_congr fun k _ => ?_
    rw [Option.map_map]
    exact Option.map_id'
  rw [← hmap, List.length_map]

omit [Floats F] in
/-- Whether a figure is available depends on its own entry. -/
theorem availableFigure_congr {key : String} (h : fs'.get? key = fs.get? key) :
    availableFigure fs' key = availableFigure fs key := by
  rw [availableFigure, availableFigure, Dict.dict?, Dict.dict?, h]

/-- The total of some parts is available, with a value. -/
theorem availableFigure_total (h : placeTotalIncurred fs = .ok totalled)
    (hparts : incurredKeys.filterMap (availableFigure fs) ≠ []) :
    ∃ node, availableFigure totalled "total_incurred" = some node ∧
      ∃ key ∈ incurredKeys, ∃ part, availableFigure fs key = some part ∧
        node.get "evidence_id" = part.get "evidence_id" := by
  obtain ⟨parts, hok, -, hcases⟩ := placeTotalIncurred_cases h
  rcases hcases with ⟨rfl, -⟩ | ⟨first, rest, total, rfl, -, hget⟩
  · have hlength := length_incurredParts hok
    rw [List.length_nil, eq_comm, List.length_eq_zero_iff] at hlength
    exact absurd hlength hparts
  · obtain ⟨key, hkey, part, hpart, hid⟩ := mem_incurredParts hok List.mem_cons_self
    refine ⟨_, availableFigure_eq_some.mpr ⟨Dict.dict?_eq_some.mpr hget, ?_, ?_⟩, key, hkey, part,
      hpart, ?_⟩
    · simp [availableNode]
    · have hvalue : total.round2.toValue ≠ (.null : Value F) := by
        cases total <;> rintro ⟨⟩
      simpa [availableNode, Dict.get_set] using hvalue
    · simp [availableNode, Dict.get_set, hid]

/-- Without parts the draft's total stays. -/
theorem get?_total_of_no_parts (h : placeTotalIncurred fs = .ok totalled)
    (hparts : incurredKeys.filterMap (availableFigure fs) = []) :
    totalled.get? "total_incurred" = some (.dict (placedNode fs "total_incurred" none)) := by
  obtain ⟨parts, hok, -, hcases⟩ := placeTotalIncurred_cases h
  rcases hcases with ⟨-, hget⟩ | ⟨first, rest, total, rfl, -, -⟩
  · exact hget
  · have hlength := length_incurredParts hok
    rw [hparts] at hlength
    cases hlength

/-- The variance is computed over the estimate and the cost just if the snapshot has both. Placing
the total leaves the figures that this is read off. -/
theorem varianceComputable_totalled (h : placeTotalIncurred fs = .ok totalled) :
    varianceComputable (nodeOrEmpty totalled "estimate") (spentNode totalled).1 = true ↔
      Comparable fs := by
  obtain ⟨parts, hok, hframe, hcases⟩ := placeTotalIncurred_cases h
  have hsame {key : String} (hkey : key ∉ ["total_incurred", "note"]) :
      availableFigure totalled key = availableFigure fs key :=
    availableFigure_congr (hframe key hkey)
  have hincurred : incurredKeys.filterMap (availableFigure totalled) =
      incurredKeys.filterMap (availableFigure fs) := by
    refine List.filterMap_congr fun key hkey => hsame ?_
    simp only [incurredKeys, List.mem_cons, List.not_mem_nil, or_false] at hkey
    rcases hkey with rfl | rfl | rfl <;> decide
  rw [varianceComputable_iff, Comparable, spentNode, hincurred]
  have hestimate : ((nodeOrEmpty totalled "estimate").get "status" = .str "available" ∧
      ((nodeOrEmpty totalled "estimate").get "value").truthy = true) ↔
        ∃ node, availableFigure fs "estimate" = some node ∧ (node.get "value").truthy = true := by
    rw [← hsame (by simp)]
    constructor
    · rintro ⟨hstatus, htruthy⟩
      refine ⟨_, availableFigure_of_node hstatus fun hnull => ?_, htruthy⟩
      rw [hnull] at htruthy
      cases htruthy
    · rintro ⟨node, hnode, htruthy⟩
      rw [nodeOrEmpty_of_available hnode]
      exact ⟨(availableFigure_eq_some.mp hnode).2.1, htruthy⟩
  by_cases hmany : 1 < (incurredKeys.filterMap (availableFigure fs)).length
  · -- The estimate is compared with the total, which has been placed.
    obtain ⟨node, hnode, -⟩ := availableFigure_total h fun hnil => by
      rw [hnil] at hmany
      cases hmany
    have havailable := availableFigure_eq_some.mp hnode
    rw [nodeOrEmpty_of_available hnode, if_pos ⟨hmany, Value.eqStr_iff.mpr havailable.2.1⟩]
    constructor
    · rintro ⟨hstatus, -, htruthy, -⟩
      exact ⟨hestimate.mp ⟨hstatus, htruthy⟩, .inl hmany⟩
    · rintro ⟨hnode', -⟩
      obtain ⟨hstatus, htruthy⟩ := hestimate.mpr hnode'
      exact ⟨hstatus, havailable.2.1, htruthy, havailable.2.2⟩
  · rw [if_neg fun hboth => hmany hboth.1]
    constructor
    · rintro ⟨hstatus, hspent, htruthy, hvalue⟩
      refine ⟨hestimate.mp ⟨hstatus, htruthy⟩, .inr ?_⟩
      rw [← hsame (by simp), availableFigure_of_node hspent hvalue]
      exact Option.some_ne_none _
    · rintro ⟨hnode', hspent⟩
      obtain ⟨hstatus, htruthy⟩ := hestimate.mpr hnode'
      obtain ⟨node, hnode⟩ := Option.ne_none_iff_exists'.mp (hspent.resolve_left hmany)
      rw [← hsame (by simp)] at hnode
      have havailable := availableFigure_eq_some.mp hnode
      rw [nodeOrEmpty_of_available hnode]
      exact ⟨hstatus, havailable.2.1, htruthy, havailable.2.2⟩

omit [Floats F] in
/-- The value of a figure depends on its own entry. -/
theorem get_congr {key : String} (h : fs'.get? key = fs.get? key) : fs'.get key = fs.get key := by
  rw [Dict.get, Dict.get, Dict.getD, Dict.getD, h]

/-- Where the categories carry ids, so does a total of theirs, and one without parts if the draft's
does. -/
theorem carries_total_iff (h : placeTotalIncurred fs = .ok totalled)
    (hincurred : ∀ key ∈ incurredKeys, Carries odooIds key (fs.get key)) :
    Carries odooIds "total_incurred" (totalled.get "total_incurred") ↔
      (incurredKeys.filterMap (availableFigure fs) = [] →
        Carries odooIds "total_incurred" (fs.get "total_incurred")) := by
  by_cases hparts : incurredKeys.filterMap (availableFigure fs) = []
  · rw [Dict.get_of_get? (get?_total_of_no_parts h hparts), carries_placed_none]
    exact ⟨fun hcarries _ => hcarries, fun hcarries => hcarries hparts⟩
  · obtain ⟨node, hnode, key, hkey, part, hpart, hid⟩ := availableFigure_total h hparts
    have hne : key ≠ "variance" := by
      rintro rfl
      revert hkey
      decide
    obtain ⟨hdict, -, hvalue⟩ := availableFigure_eq_some.mp hpart
    have hcarries := hincurred key hkey
    rw [Dict.get_of_get? (Dict.dict?_eq_some.mp hdict)] at hcarries
    obtain ⟨e, he, hide⟩ := hcarries.id_of_value hne hvalue
    rw [Dict.get_of_get? (Dict.dict?_eq_some.mp (availableFigure_eq_some.mp hnode).1)]
    exact iff_of_true (carries_of_id (by decide) (hid.trans hide) he)
      fun hnil => absurd hnil hparts

/-- A computed variance carries the id of the estimate, another one what the draft's does. So only a
variance that is not computed can be without one. -/
theorem carries_variance_iff (htotal : placeTotalIncurred fs = .ok totalled)
    (hvariance : placeVariance totalled = .ok fs')
    (hestimate : ∀ node, availableFigure fs "estimate" = some node →
      ∃ e ∈ odooIds, node.get "evidence_id" = .str e ∧ e ≠ "") :
    Carries odooIds "variance" (fs'.get "variance") ↔
      (¬ Comparable fs → Carries odooIds "variance" (fs.get "variance")) := by
  have hcomparable := varianceComputable_totalled htotal
  obtain ⟨-, -, hframe, -⟩ := placeTotalIncurred_cases htotal
  obtain ⟨-, hcases⟩ := placeVariance_cases hvariance
  rcases hcases with ⟨hfalse, hget⟩ | ⟨-, -, -, node, hcomp, -, -, -, hget, -, hids⟩
  · rw [Dict.get_of_get? hget, carries_congr (valued_getD rfl), get_congr (hframe _ (by decide))]
    refine ⟨fun hcarries _ => hcarries, fun hcarries => hcarries fun hyes => ?_⟩
    rw [hcomparable.mpr hyes] at hfalse
    cases hfalse
  · refine iff_of_true ?_ fun hno => absurd (hcomparable.mp hcomp) hno
    obtain ⟨estimate, hnode, -⟩ := (hcomparable.mp hcomp).1
    obtain ⟨e, he, hid, hne⟩ := hestimate estimate hnode
    rw [← availableFigure_congr (hframe _ (by decide))] at hnode
    intro node' hnode'
    rw [Dict.get_of_get? hget] at hnode'
    cases (valued_eq_some.mp hnode').1
    refine ⟨e, he, ?_⟩
    rw [attachedIds, if_pos rfl, hids, nodeOrEmpty_of_available hnode, hid]
    refine List.mem_filter.mpr ⟨List.mem_cons_self, ?_⟩
    simpa [Value.truthy] using hne

/-! ### The categories pass -/

section Leftovers

variable [Text] {evidence : List (Evidence F)}

/-- The figures that the categories pass leaves as the draft has them carry the id of an Odoo item,
where they have a value: the ones the extraction does not back, the actual cost, a total without
parts and a variance that is not computed. -/
structure LeftoversCited (evidence : List (Evidence F)) (fs : Dict F) : Prop where
  unbacked : ∀ key, (key, none) ∈ backedFigures (extractOdooContext (odooEvidence evidence))
      (odooEvidence evidence) (evidenceIds evidence) →
    Carries (evidenceIds (odooEvidence evidence)) key (fs.get key)
  actual : Carries (evidenceIds (odooEvidence evidence)) "actual_cost" (fs.get "actual_cost")
  total : incurredKeys.filterMap (availableFigure (filledSnapshot evidence fs)) = [] →
    Carries (evidenceIds (odooEvidence evidence)) "total_incurred" (fs.get "total_incurred")
  variance : ¬ Comparable (filledSnapshot evidence fs) →
    Carries (evidenceIds (odooEvidence evidence)) "variance" (fs.get "variance")

/-- The keys of the figures that the extraction may back. -/
def backableKeys : List String :=
  ["contract_value", "estimate", "committed_cost", "payroll_cost", "expense_cost"]

omit [Floats F] [Text] in
private theorem backableKeys_subset : "actual_cost" :: backableKeys ⊆ shownKeys := by decide

private theorem mem_backableKeys {key : String} {p : Option (F × String)}
    (h : (key, p) ∈ backedFigures (extractOdooContext (odooEvidence evidence))
      (odooEvidence evidence) (evidenceIds evidence)) : key ∈ backableKeys := by
  have hmem := List.mem_map_of_mem (f := Prod.fst) h
  simpa [backedFigures, backableKeys] using hmem

/-- A figure under one of these keys is placed, or is left alone. -/
theorem lookup_backable {key : String} (hkey : key ∈ backableKeys) :
    ∃ p, (key, p) ∈ backedFigures (extractOdooContext (odooEvidence evidence))
      (odooEvidence evidence) (evidenceIds evidence) := by
  simp only [backableKeys, List.mem_cons, List.not_mem_nil, or_false] at hkey
  rcases hkey with rfl | rfl | rfl | rfl | rfl <;> exact ⟨_, by simp [backedFigures]; rfl⟩

/-- A figure that the extraction may back carries the id of an Odoo item after the pass just if it
is backed, or the draft's does. -/
theorem carries_backable {key : String} {p : Option (F × String)}
    (hmem : (key, p) ∈ backedFigures (extractOdooContext (odooEvidence evidence))
      (odooEvidence evidence) (evidenceIds evidence))
    (hget : fs'.get? key = some (.dict (placedNode fs key p))) :
    Carries (evidenceIds (odooEvidence evidence)) key (fs'.get key) ↔
      (p = none → Carries (evidenceIds (odooEvidence evidence)) key (fs.get key)) := by
  rw [Dict.get_of_get? hget]
  cases p with
  | none => exact carries_placed_none.trans ⟨fun h _ => h, fun h => h rfl⟩
  | some p =>
    obtain ⟨x, e⟩ := p
    refine iff_of_true (carries_of_id ?_ (by simp [placedNode, availableNode, Dict.get_set])
      (backedFigures_spec hmem).2) nofun
    rintro rfl
    simp [backedFigures] at hmem

private theorem get?_filledSnapshot_of_ne {key : String} (hkey : key ∉ backableKeys) :
    (filledSnapshot evidence fs).get? key = fs.get? key := by
  have hlookup : (backedFigures (extractOdooContext (odooEvidence evidence)) (odooEvidence evidence)
      (evidenceIds evidence)).lookup key = none := by
    rw [List.lookup_eq_none_iff]
    intro p hp
    rw [bne_iff_ne]
    rintro rfl
    exact hkey (mem_backableKeys hp)
  rw [filledSnapshot, get?_placeFigures, hlookup]

/-- The pass cites all figures it leaves exactly when those of the draft that it leaves alone are
cited, provided that an estimate has an id at all. -/
theorem snapshotCited_iff
    (h : enforceCategoriesSnapshot (extractOdooContext (odooEvidence evidence))
      (odooEvidence evidence) (evidenceIds evidence) fs = .ok fs')
    (hbudget : valued (fs.get "budget") = none)
    (hestimate : ∀ node, availableFigure fs' "estimate" = some node →
      node.get "evidence_id" ≠ .str "") :
    SnapshotCited evidence fs' ↔ LeftoversCited evidence fs := by
  obtain ⟨totalled, htotal, hvariance⟩ := bind_eq_ok.mp h
  obtain ⟨-, -, hframe, -⟩ := placeTotalIncurred_cases htotal
  obtain ⟨hframe', -⟩ := placeVariance_cases hvariance
  have hsame {key : String} (hkey : key ∉ ["total_incurred", "note", "variance"]) :
      fs'.get? key = (filledSnapshot evidence fs).get? key := by
    rw [hframe' key (by simp_all), hframe key (by simp_all)]
    rfl
  have hkept {key : String} (hkey : key ∉ backableKeys) :
      (filledSnapshot evidence fs).get key = fs.get key :=
    get_congr (get?_filledSnapshot_of_ne hkey)
  have hbackable {key : String} {p : Option (F × String)}
      (hmem : (key, p) ∈ backedFigures (extractOdooContext (odooEvidence evidence))
        (odooEvidence evidence) (evidenceIds evidence)) :
      Carries (evidenceIds (odooEvidence evidence)) key (fs'.get key) ↔
        (p = none → Carries (evidenceIds (odooEvidence evidence)) key (fs.get key)) := by
    obtain ⟨-, hkey, hlookup⟩ := lookup_of_mem_backed hmem
    refine carries_backable hmem ?_
    rw [hsame (by simp_all), filledSnapshot, get?_placeFigures, hlookup]
  have hactual : fs'.get "actual_cost" = fs.get "actual_cost" :=
    (get_congr (hsame (by decide))).trans (hkept (by decide))
  -- The derived figures, once the ones they are derived from are cited.
  have hderived (hbase : ∀ key ∈ "actual_cost" :: backableKeys,
      Carries (evidenceIds (odooEvidence evidence)) key (fs'.get key)) :
      (Carries (evidenceIds (odooEvidence evidence)) "total_incurred" (fs'.get "total_incurred") ↔
          (incurredKeys.filterMap (availableFigure (filledSnapshot evidence fs)) = [] →
            Carries (evidenceIds (odooEvidence evidence)) "total_incurred"
              (fs.get "total_incurred"))) ∧
        (Carries (evidenceIds (odooEvidence evidence)) "variance" (fs'.get "variance") ↔
          (¬ Comparable (filledSnapshot evidence fs) →
            Carries (evidenceIds (odooEvidence evidence)) "variance" (fs.get "variance"))) := by
    have htotalGet : fs'.get "total_incurred" = totalled.get "total_incurred" :=
      get_congr (hframe' _ (by decide))
    rw [htotalGet, ← hkept (show "total_incurred" ∉ backableKeys by decide),
      ← hkept (show "variance" ∉ backableKeys by decide)]
    refine ⟨carries_total_iff htotal fun key hkey => ?_,
      carries_variance_iff htotal hvariance fun node hnode => ?_⟩
    · have hcases : key ∉ ["total_incurred", "note", "variance"] ∧
          key ∈ "actual_cost" :: backableKeys := by
        simp only [incurredKeys, List.mem_cons, List.not_mem_nil, or_false] at hkey
        rcases hkey with rfl | rfl | rfl <;> exact ⟨by decide, by decide⟩
      have hcarries := hbase key hcases.2
      rwa [get_congr (hsame hcases.1)] at hcarries
    · rw [← availableFigure_congr (hsame (by decide))] at hnode
      obtain ⟨hdict, -, hvalue⟩ := availableFigure_eq_some.mp hnode
      have hcarries := hbase "estimate" (by decide)
      rw [Dict.get_of_get? (Dict.dict?_eq_some.mp hdict)] at hcarries
      obtain ⟨e, he, hid⟩ := hcarries.id_of_value (by decide) hvalue
      exact ⟨e, he, hid, fun hempty => hestimate node hnode (hempty ▸ hid)⟩
  constructor
  · intro hcited
    have hbase : ∀ key ∈ "actual_cost" :: backableKeys,
        Carries (evidenceIds (odooEvidence evidence)) key (fs'.get key) := fun key hkey =>
      hcited key (backableKeys_subset hkey)
    obtain ⟨htotalIff, hvarianceIff⟩ := hderived hbase
    exact
      { unbacked := fun key hmem => (hbackable hmem).mp
          (hbase key (List.mem_cons_of_mem _ (mem_backableKeys hmem))) rfl
        actual := hactual ▸ hbase _ List.mem_cons_self
        total := htotalIff.mp (hcited _ (by decide))
        variance := hvarianceIff.mp (hcited _ (by decide)) }
  · intro hleft
    have hbase : ∀ key ∈ "actual_cost" :: backableKeys,
        Carries (evidenceIds (odooEvidence evidence)) key (fs'.get key) := by
      intro key hkey
      rcases List.mem_cons.mp hkey with rfl | hkey
      · rw [hactual]
        exact hleft.actual
      · obtain ⟨p, hmem⟩ : ∃ p, (key, p) ∈
            backedFigures (extractOdooContext (odooEvidence evidence))
            (odooEvidence evidence) (evidenceIds evidence) := lookup_backable hkey
        exact (hbackable hmem).mpr fun hnone => hleft.unbacked key (hnone ▸ hmem)
    obtain ⟨htotalIff, hvarianceIff⟩ := hderived hbase
    intro key hkey
    simp only [shownKeys, finRows, List.map_cons, List.map_nil, List.cons_append, List.nil_append,
      List.mem_cons, List.not_mem_nil, or_false] at hkey
    rcases hkey with rfl | rfl | rfl | rfl | rfl | rfl | rfl | rfl | rfl
    · exact hbase _ (by decide)
    · exact hbase _ (by decide)
    · intro node hnode
      rw [get_congr (hsame (by decide)), hkept (by decide), hbudget] at hnode
      cases hnode
    · exact hbase _ (by decide)
    · exact hbase _ (by decide)
    · exact hbase _ (by decide)
    · exact hbase _ (by decide)
    · exact htotalIff.mpr hleft.total
    · exact hvarianceIff.mpr hleft.variance

/-! ### The evidence-built report -/

omit [Text] in
/-- With more figures available, a variance is computed all the more. -/
theorem Comparable.mono (h : Comparable fs)
    (hestimate : ∀ node, availableFigure fs "estimate" = some node → ∃ node',
      availableFigure fs' "estimate" = some node' ∧ node'.get "value" = node.get "value")
    (hincurred : ∀ key ∈ incurredKeys, availableFigure fs key ≠ none →
      availableFigure fs' key ≠ none) : Comparable fs' := by
  obtain ⟨⟨node, hnode, htruthy⟩, hspent⟩ := h
  obtain ⟨node', hnode', hvalue⟩ := hestimate node hnode
  refine ⟨⟨node', hnode', hvalue ▸ htruthy⟩, hspent.imp (fun hmany => ?_) (hincurred _ (by decide))⟩
  refine Nat.lt_of_lt_of_le hmany ?_
  rw [List.length_filterMap_eq_countP, List.length_filterMap_eq_countP]
  refine List.countP_mono_left fun key hkey hsome => ?_
  rw [Option.isSome_iff_ne_none] at hsome ⊢
  exact hincurred key hkey hsome

variable {state : DecisionState F}

/-- The figures of the builder that the pass may place: placed from what backs them, or without a
value. -/
theorem builder_backable {key : String} {p : Option (F × String)}
    (hmem : (key, p) ∈ backedFigures (extractOdooContext (odooEvidence state.evidence))
      (odooEvidence state.evidence) (evidenceIds state.evidence)) :
    (placeFigures (extractOdooContext (odooEvidence state.evidence)) (odooEvidence state.evidence)
        (evidenceIds (builderEvidence state))
        (builderSnapshot state.role (extractOdooContext (odooEvidence state.evidence)))).get? key =
      some (.dict (match p with
        | some (x, e) => availableNode notAvailableNode (.float x) (.str e)
        | none => notAvailableNode)) := by
  have hlookup := (lookup_of_mem_backed hmem).2.2
  have hlacks : (builderSnapshot state.role
      (extractOdooContext (odooEvidence state.evidence))).dict? key = none := by
    have hkey := mem_backableKeys hmem
    simp only [backableKeys, List.mem_cons, List.not_mem_nil, or_false] at hkey
    rcases hkey with rfl | rfl | rfl | rfl | rfl <;> rfl
  rw [get?_placeFigures, backedFigures_builderEvidence, hlookup]
  cases p with
  | none => simp [placedNode, hlacks]
  | some p => simp [placedNode, hlacks]

/-- What is available in the builder's snapshot before its total is available, with the same value,
in the snapshot that is corrected and filled again. -/
theorem available_refilled {key : String} {node : Dict F}
    (hkey : key ∈ "actual_cost" :: backableKeys)
    (hactual : fs.get? "actual_cost" = some (.dict (builderActual state.role
      (extractOdooContext (odooEvidence state.evidence)))))
    (h : enforceFinancialSnapshot (extractOdooContext (odooEvidence state.evidence))
      (evidenceIds state.evidence) fs = .ok fs')
    (hnode : availableFigure (placeFigures (extractOdooContext (odooEvidence state.evidence))
      (odooEvidence state.evidence) (evidenceIds (builderEvidence state))
      (builderSnapshot state.role
        (extractOdooContext (odooEvidence state.evidence)))) key = some node) :
    ∃ node', availableFigure (filledSnapshot state.evidence fs') key = some node' ∧
      node'.get "value" = node.get "value" := by
  obtain ⟨hdict, hstatus, hvalue⟩ := availableFigure_eq_some.mp hnode
  rcases List.mem_cons.mp hkey with rfl | hkey
  · -- the builder's actual cost is available with an amount only, which the correction puts back
    rw [Dict.dict?, get?_placeFigures] at hdict
    obtain rfl :
        builderActual state.role (extractOdooContext (odooEvidence state.evidence)) = node :=
      Option.some.inj hdict
    rcases builderActual_cases state.role (extractOdooContext (odooEvidence state.evidence)) with
      hnone | ⟨hamount, hsome⟩
    · rw [hnone] at hvalue
      exact absurd rfl hvalue
    · obtain ⟨-, -, hcases⟩ := enforceFinancialSnapshot_cases h
      rcases hcases with ⟨actual, actual', -, hpass, hget⟩ | ⟨hnone, -⟩
      · have hplaced := enforceActual_placed hamount
          (mem_evidenceIds_of_odoo (hasAmount_spec hamount).2) hpass
        have hsame : actual'.get "value" = (builderActual state.role
            (extractOdooContext (odooEvidence state.evidence))).get "value" := by
          rw [hplaced.2.1, hsome]
          rfl
        refine ⟨actual', availableFigure_eq_some.mpr ⟨?_, hplaced.1, hsame ▸ hvalue⟩, hsame⟩
        rw [Dict.dict?_eq_some, get?_filledSnapshot_of_ne (by decide)]
        exact hget
      · rw [Dict.dict?, hactual] at hnone
        cases hnone
  · obtain ⟨p, hmem⟩ : ∃ p, (key, p) ∈
        backedFigures (extractOdooContext (odooEvidence state.evidence))
        (odooEvidence state.evidence) (evidenceIds state.evidence) := lookup_backable hkey
    rw [Dict.dict?, builder_backable hmem] at hdict
    have hget := get?_placeFigures (extractOdooContext (odooEvidence state.evidence))
      (odooEvidence state.evidence) (evidenceIds state.evidence) fs' key
    rw [(lookup_of_mem_backed hmem).2.2] at hget
    cases p with
    | none =>
      cases hdict
      exact absurd rfl hvalue
    | some p =>
      cases hdict
      refine ⟨_, availableFigure_eq_some.mpr ⟨Dict.dict?_eq_some.mpr hget, ?_, ?_⟩, ?_⟩
      · simp [placedNode, availableNode]
      · simp [placedNode, availableNode, Dict.get_set]
      · simp [placedNode, availableNode, Dict.get_set]

/-- The corrected actual cost of the builder is cited or has no value. It has one only with an
amount in the pack. -/
theorem carries_builderActual
    (hactual : fs.get? "actual_cost" = some (.dict (builderActual state.role
      (extractOdooContext (odooEvidence state.evidence)))))
    (h : enforceFinancialSnapshot (extractOdooContext (odooEvidence state.evidence))
      (evidenceIds state.evidence) fs = .ok fs') :
    Carries (evidenceIds (odooEvidence state.evidence)) "actual_cost" (fs'.get "actual_cost") := by
  obtain ⟨-, -, hcases⟩ := enforceFinancialSnapshot_cases h
  rcases hcases with ⟨actual, actual', hdict, hpass, hget⟩ | ⟨hnone, -⟩
  · rw [Dict.get_of_get? hget]
    cases hamount : (extractOdooContext (odooEvidence state.evidence)).hasAmount with
    | true =>
      have hmem := (hasAmount_spec hamount).2
      exact carries_of_id (by decide)
        (enforceActual_placed hamount (mem_evidenceIds_of_odoo hmem) hpass).2.2 hmem
    | false =>
      rw [Dict.dict?, hactual] at hdict
      obtain rfl : builderActual state.role (extractOdooContext (odooEvidence state.evidence)) =
        actual := Option.some.inj hdict
      rcases builderActual_cases state.role (extractOdooContext (odooEvidence state.evidence)) with
        hempty | ⟨hsome, -⟩
      · rw [hempty] at hpass
        rcases enforceActual_kept hamount hpass with ⟨-, hvalue, -⟩ | ⟨-, hnull, -⟩
        · exact carries_of_null (hvalue.trans rfl)
        · exact carries_of_null hnull
      · rw [hamount] at hsome
        cases hsome
  · rw [Dict.dict?, hactual] at hnone
    cases hnone

/-- Nothing that the passes leave alone in the evidence-built report is shown without the id of an
Odoo item. -/
theorem leftoversCited_builder
    (h : enforceCategoriesSnapshot (extractOdooContext (odooEvidence state.evidence))
        (odooEvidence state.evidence) (evidenceIds (builderEvidence state))
        (builderSnapshot state.role (extractOdooContext (odooEvidence state.evidence))) = .ok fs)
    (h' : enforceFinancialSnapshot (extractOdooContext (odooEvidence state.evidence))
      (evidenceIds state.evidence) fs = .ok fs') : LeftoversCited state.evidence fs' := by
  set ctx := extractOdooContext (odooEvidence state.evidence) with hctx
  set placed := placeFigures ctx (odooEvidence state.evidence) (evidenceIds (builderEvidence state))
    (builderSnapshot state.role ctx) with hplaced
  obtain ⟨totalled, htotal, hvariance⟩ := bind_eq_ok.mp h
  obtain ⟨-, -, hframe, -⟩ := placeTotalIncurred_cases htotal
  obtain ⟨hframe', -⟩ := placeVariance_cases hvariance
  obtain ⟨henforced, -, -⟩ := enforceFinancialSnapshot_cases h'
  have hsame {key : String} (hkey : key ∉ ["total_incurred", "note", "variance"]) :
      fs.get? key = placed.get? key := by
    rw [hframe' key (by simp_all), hframe key (by simp_all)]
  have hactual : fs.get? "actual_cost" = some (.dict (builderActual state.role ctx)) := by
    rw [hsame (by decide), hplaced, get?_placeFigures]
    rfl
  -- a figure placed in the builder's snapshot is still there once the second pass has run
  have hrefilled {key : String} (hkey : key ∈ "actual_cost" :: backableKeys) {node : Dict F}
      (hnode : availableFigure placed key = some node) :=
    available_refilled hkey hactual h' hnode
  have hincurred : ∀ key ∈ incurredKeys, availableFigure placed key ≠ none →
      availableFigure (filledSnapshot state.evidence fs') key ≠ none := by
    intro key hkey hsome
    obtain ⟨node, hnode⟩ := Option.ne_none_iff_exists'.mp hsome
    have hmem : key ∈ "actual_cost" :: backableKeys := by
      simp only [incurredKeys, List.mem_cons, List.not_mem_nil, or_false] at hkey
      rcases hkey with rfl | rfl | rfl <;> decide
    obtain ⟨node', hnode', -⟩ := hrefilled hmem hnode
    rw [hnode']
    exact Option.some_ne_none _
  -- what the passes may leave alone: plain figures, actual cost, total, variance
  refine ⟨fun key hmem => ?_, ?_, fun hparts => ?_, fun hnot => ?_⟩
  · have hkey := mem_backableKeys hmem
    have hne : key ∉ ["total_incurred", "note", "variance"] ∧ key ∉ ["budget", "actual_cost"] := by
      simp only [backableKeys, List.mem_cons, List.not_mem_nil, or_false] at hkey
      rcases hkey with rfl | rfl | rfl | rfl | rfl <;> exact ⟨by decide, by decide⟩
    rw [get_congr (henforced key hne.2),
      Dict.get_of_get? ((hsame hne.1).trans (builder_backable hmem))]
    exact carries_of_null rfl
  · exact carries_builderActual hactual h'
  · have hnil : incurredKeys.filterMap (availableFigure placed) = [] := by
      rw [List.filterMap_eq_nil_iff] at hparts ⊢
      intro key hkey
      by_contra hsome
      exact hincurred key hkey hsome (hparts key hkey)
    have hkept : fs.get? "total_incurred" = totalled.get? "total_incurred" := hframe' _ (by decide)
    have hget := hkept.trans (get?_total_of_no_parts htotal hnil)
    rw [get_congr (henforced _ (by decide)), Dict.get_of_get? hget, carries_placed_none]
    intro node hnode
    rw [Dict.get, Dict.getD, get?_placeFigures] at hnode
    cases hnode
  · rw [get_congr (henforced _ (by decide))]
    have hcomparable : ¬ Comparable placed := fun hyes =>
      hnot (hyes.mono (fun node hnode => hrefilled (by decide) hnode) hincurred)
    obtain ⟨-, hcases⟩ := placeVariance_cases hvariance
    rcases hcases with ⟨-, hget⟩ | ⟨-, -, -, -, hcomp, -⟩
    · rw [Dict.get_of_get? hget, carries_congr (valued_getD rfl), get_congr (hframe _ (by decide))]
      intro node hnode
      rw [Dict.get, Dict.getD, get?_placeFigures] at hnode
      cases hnode
    · exact absurd ((varianceComputable_totalled htotal).mp hcomp) hcomparable

/-! ### The finished report -/

/-- The draft of the LLM is taken, and its snapshot is `fs` when the categories pass comes to it:
in canonical shape, with budget and actual cost corrected. -/
def CorrectedSnapshot (evidence : List (Evidence F)) (draft fs : Dict F) : Prop :=
  ∃ canonical accepted, AcceptedSnapshot evidence draft canonical ∧
    enforceFinancialSnapshot (extractOdooContext (odooEvidence evidence)) (evidenceIds evidence)
      canonical = .ok accepted ∧
    enforceFinancialSnapshot (extractOdooContext (odooEvidence evidence)) (evidenceIds evidence)
      accepted = .ok fs

omit [Floats F] [Text] in
/-- A note does not matter. -/
theorem snapshotCited_of_note (h : Dict.Frame ["note"] fs fs') :
    SnapshotCited evidence fs' ↔ SnapshotCited evidence fs := by
  refine forall₂_congr fun key hkey => ?_
  have hnote : key ∉ ["note"] := by
    intro hmem
    rw [List.mem_singleton.mp hmem] at hkey
    revert hkey
    decide
  rw [h.get_eq hnote]

/-- The corrections leave a budget without a value. -/
theorem valued_budget_of_enforce
    (h : enforceFinancialSnapshot (extractOdooContext (odooEvidence evidence))
      (evidenceIds evidence) fs = .ok fs') : valued (fs'.get "budget") = none := by
  obtain ⟨-, ⟨hbudget, hbare⟩, -⟩ := enforceFinancialSnapshot_cases h
  cases hfs : fs.dict? "budget" with
  | some node =>
    rw [hfs, Option.map_some] at hbudget
    rw [Dict.get_of_get? (Dict.dict?_eq_some.mp hbudget)]
    refine valued_of_null (Value.isNull_iff.mpr ?_)
    simp [enforceBudget, Dict.get_set, Dict.get_setdefault]
  | none =>
    rw [get_congr (hbare hfs)]
    refine valued_eq_none fun node hnode => ?_
    rw [Dict.dict?_eq_some.mpr (Dict.get?_of_getD hnode (by rintro ⟨⟩))] at hfs
    cases hfs

/-- What holds of the corrected snapshot of an evidence-built report holds of a corrected snapshot
just if the candidate is not taken or it holds of its own. -/
theorem corrected_iff {pid : ProjectIdentity} {candidate : Option (Dict F)} {base fs₀ fs₁ : Dict F}
    (hbase : normalizeDraft state pid candidate = .ok base)
    (hfs₀ : base.dict? "financial_snapshot" = some fs₀)
    (hpass₁ : enforceFinancialSnapshot (extractOdooContext (odooEvidence state.evidence))
      (evidenceIds state.evidence) fs₀ = .ok fs₁)
    {P : Dict F → Prop} (hbuilt : buildReportFromEvidence state pid = .ok base → P fs₁) :
    P fs₁ ↔ ∀ draft corrected, candidate = some draft →
      CorrectedSnapshot state.evidence draft corrected → P corrected := by
  cases candidate with
  -- no candidate, or one that is not taken: the report is built from the evidence
  | none =>
    refine iff_of_true (hbuilt hbase) fun draft corrected hdraft => ?_
    cases hdraft
  | some d =>
    obtain ⟨accepted, haccepted, hbase⟩ := bind_eq_ok.mp hbase
    cases accepted with
    | none =>
      refine iff_of_true (hbuilt hbase) ?_
      rintro draft corrected hdraft ⟨-, -, ⟨⟨r, hr⟩, -⟩, -⟩
      cases hdraft
      rw [haccepted] at hr
      cases hr
    | some r =>
      cases hbase
      obtain ⟨normal, canonical, fs', hnormal, hcanonical, hpass, hfs', -⟩ :=
        acceptDraft_cases haccepted
      obtain rfl : fs' = fs₀ := Option.some.inj (hfs'.symm.trans hfs₀)
      constructor
      -- the passes are functions, so the corrected draft is the one of the report
      · rintro hleft draft corrected hdraft ⟨canonical', accepted', ⟨-, normal', hnormal', hcanon'⟩,
          hpass', hpass₁'⟩
        cases hdraft
        obtain rfl : normal = normal' := Except.ok.inj (hnormal.symm.trans hnormal')
        obtain rfl : canonical = canonical' := Option.some.inj (hcanonical.symm.trans hcanon')
        obtain rfl : fs' = accepted' := Except.ok.inj (hpass.symm.trans hpass')
        obtain rfl : fs₁ = corrected := Except.ok.inj (hpass₁.symm.trans hpass₁')
        exact hleft
      · intro hleft
        exact hleft d fs₁ rfl
          ⟨canonical, fs', ⟨⟨base, haccepted⟩, normal, hnormal, hcanonical⟩, hpass, hpass₁⟩

/-- The figures of a report drawn up for a candidate are cited just if the candidate is not taken or
the figures of it that are left alone are. -/
theorem snapshotCited_draftReport_iff {pid : ProjectIdentity} {candidate : Option (Dict F)}
    {report : Dict F} (h : draftReport state pid candidate = .ok report)
    (hfs : report.dict? "financial_snapshot" = some fs)
    (hestimate : ∀ node, availableFigure fs "estimate" = some node →
      node.get "evidence_id" ≠ .str "") :
    SnapshotCited state.evidence fs ↔ ∀ draft corrected, candidate = some draft →
      CorrectedSnapshot state.evidence draft corrected →
        LeftoversCited state.evidence corrected := by
  obtain ⟨base, fs₀, fs₁, fs₂, fs₃, hbase, hfs₀, hpass₁, hpass₂, hfs₃, hnote⟩ :=
    draftReport_snapshot h
  obtain rfl : fs₃ = fs := Option.some.inj (hfs₃.symm.trans hfs)
  have hsame : availableFigure fs₃ "estimate" = availableFigure fs₂ "estimate" :=
    availableFigure_congr (hnote _ (by decide))
  rw [hsame] at hestimate
  rw [snapshotCited_of_note hnote,
    snapshotCited_iff hpass₂ (valued_budget_of_enforce hpass₁) hestimate]
  have hbuilt (hbuilt : buildReportFromEvidence state pid = .ok base) :
      LeftoversCited state.evidence fs₁ := by
    obtain ⟨fs', hplaced, hfs'⟩ := buildReportFromEvidence_snapshot hbuilt
    rw [hfs'] at hfs₀
    cases hfs₀
    exact leftoversCited_builder hplaced hpass₁
  exact corrected_iff hbase hfs₀ hpass₁ hbuilt

end Leftovers

end Passes

end DecisionCenter
