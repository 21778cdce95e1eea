import DecisionCenter.Graph.FinancialSnapshot

/-!
# What the snapshot passes do

One specification for each pass of `DecisionCenter.Graph.FinancialSnapshot`: which entries of
the snapshot it writes, and with what. All evidence ids the extraction attaches are ids of Odoo
items. The modules on soundness, arithmetic and delivery of the figures use these and never
unfold a pass.

The first section is about the extraction. Each id it returns is the id of the record it is said
to come from: a cost line for the actual cost, a project record for a contract value or an
estimate, an item of the category for a category sum. Where there is an amount, there is
something to cite.

The correction of budget and actual cost has three outcomes for the actual cost, placed, kept or
demoted, and these are named (`ActualPlaced`, `CitesOutside`, `enforceActual_kept`). A figure is
demoted where what it cites is outside the pack; correcting it a second time changes nothing
about its value.

The categories pass places five figures one after the other and then computes the total and the
variance. `BaseFigures` are the values these are computed from, with the computation as
functions of it, and `Shows` ties them to the entries of a snapshot.
`enforceCategoriesSnapshot_cases` has what the pass leaves under each key.
-/

namespace DecisionCenter

open Py

variable {F : Type} [Floats F] [Text]

/-! ### The ids of the extraction -/

private theorem foldl_step_bestEvidenceId (lines : List (Evidence F)) (s : CostScan F)
    {e : String} (h : (lines.foldl CostScan.step s).bestEvidenceId = some e) :
    s.bestEvidenceId = some e ∨ e ∈ evidenceIds lines := by
  induction lines generalizing s with
  | nil => exact .inl h
  | cons line lines ih =>
    rcases ih (s.step line) h with hstep | hmem
    · simp only [CostScan.step] at hstep
      split at hstep
      · cases hstep
        exact .inr (List.mem_cons_self ..)
      · exact .inl hstep
    · exact .inr (List.mem_cons_of_mem _ hmem)

/-- The id cited for the actual cost is the id of a cost line. -/
theorem bestEvidenceId_mem {lines : List (Evidence F)} {e : String}
    (h : bestEvidenceId lines = some e) : e ∈ evidenceIds lines := by
  simp only [bestEvidenceId] at h
  split at h
  · next e' hscan =>
    cases h
    exact (foldl_step_bestEvidenceId lines .init hscan).resolve_left (by simp [CostScan.init])
  · split at h
    · obtain ⟨line, hline, hsome⟩ := List.exists_of_findSome?_eq_some h
      split at hsome
      · cases hsome
        exact List.mem_map_of_mem hline
      · cases hsome
    · cases h

/-- With an amount there is a line to cite: the best one, or one without an id. -/
theorem bestEvidenceId_getD_mem {lines : List (Evidence F)}
    (h : (scanCostLines lines).hasAmount = true) :
    (bestEvidenceId lines).getD "" ∈ evidenceIds lines := by
  cases hbest : bestEvidenceId lines with
  | some e => exact bestEvidenceId_mem hbest
  | none =>
    obtain ⟨line, hline, hamount⟩ := scanCostLines_hasAmount.mp h
    have hid : line.evidenceId = "" := by
      by_contra hid
      simp only [bestEvidenceId] at hbest
      split at hbest
      · cases hbest
      · rw [if_pos h] at hbest
        have hnone := List.findSome?_eq_none_iff.mp hbest line hline
        rw [if_pos ⟨hamount, hid⟩] at hnone
        cases hnone
    exact List.mem_map.mpr ⟨line, hline, hid⟩

private theorem evidenceIds_costLines {odoo : List (Evidence F)} {e : String}
    (h : e ∈ evidenceIds (costLines odoo)) : e ∈ evidenceIds odoo := by
  obtain ⟨ev, hev, rfl⟩ := List.mem_map.mp h
  exact List.mem_map_of_mem (List.mem_filter.mp hev).1

/-- A contract value or an estimate is cited from a project record. -/
theorem projectAmount_mem {records : List (Evidence F)} {key : String} {x : F} {e : String}
    (h : projectAmount records key = some (x, e)) : e ∈ evidenceIds records := by
  obtain ⟨ev, hev, hsome⟩ := List.exists_of_findSome?_eq_some h
  obtain ⟨y, -, hpair⟩ := Option.map_eq_some_iff.mp hsome
  cases hpair
  exact List.mem_map_of_mem hev

/-- A category sum is cited from an item with a non-empty id. -/
theorem sumOdooCategory_mem {evidence : List (Evidence F)} {categories fields : List String}
    {allowed : Option (List String)} {x : F} {e : String}
    (h : sumOdooCategory evidence categories fields allowed = some (x, e)) :
    e ∈ evidenceIds evidence ∧ e ≠ "" := by
  rw [sumOdooCategory_eq] at h
  obtain ⟨ev, hev, hpair⟩ := Option.map_eq_some_iff.mp h
  cases hpair
  obtain ⟨hmem, -, hid, -⟩ := citedItem_spec hev
  exact ⟨List.mem_map_of_mem hmem, hid⟩

omit [Text] in
private theorem absAmount_mem {p : Option (F × String)} {x : F} {e : String}
    (h : absAmount p = some (x, e)) : ∃ y, p = some (y, e) ∧ x = Floats.abs y := by
  obtain ⟨⟨y, e'⟩, hp, hpair⟩ := Option.map_eq_some_iff.mp h
  cases hpair
  exact ⟨y, hp, rfl⟩

section Context

variable {odoo : List (Evidence F)}

/-- The contract value is cited from an Odoo item. -/
theorem contractValue_mem {x : F} {e : String}
    (h : (extractOdooContext odoo).contractValue = some (x, e)) : e ∈ evidenceIds odoo := by
  have hmem := projectAmount_mem h
  obtain ⟨ev, hev, rfl⟩ := List.mem_map.mp hmem
  exact List.mem_map_of_mem (List.mem_filter.mp hev).1

/-- The estimate is cited from an Odoo item. -/
theorem estimate_mem {x : F} {e : String}
    (h : (extractOdooContext odoo).estimate = some (x, e)) : e ∈ evidenceIds odoo := by
  have hmem := projectAmount_mem h
  obtain ⟨ev, hev, rfl⟩ := List.mem_map.mp hmem
  exact List.mem_map_of_mem (List.mem_filter.mp hev).1

/-- The payroll sum is cited from an Odoo item with an id, and has no sign. -/
theorem payrollCost_mem {x : F} {e : String}
    (h : (extractOdooContext odoo).payrollCost = some (x, e)) :
    e ∈ evidenceIds odoo ∧ e ≠ "" ∧ Floats.abs x = x := by
  obtain ⟨y, hy, rfl⟩ := absAmount_mem h
  obtain ⟨hmem, hne⟩ := sumOdooCategory_mem hy
  exact ⟨hmem, hne, Floats.abs_abs y⟩

/-- The sum of the expenses is cited from an Odoo item with an id, and has no sign. -/
theorem expenseCost_mem {x : F} {e : String}
    (h : (extractOdooContext odoo).expenseCost = some (x, e)) :
    e ∈ evidenceIds odoo ∧ e ≠ "" ∧ Floats.abs x = x := by
  obtain ⟨y, hy, rfl⟩ := absAmount_mem h
  obtain ⟨hmem, hne⟩ := sumOdooCategory_mem hy
  exact ⟨hmem, hne, Floats.abs_abs y⟩

/-- With an amount, the extraction has a total and an id of a cost line to cite. -/
theorem hasAmount_spec (h : (extractOdooContext odoo).hasAmount = true) :
    (∃ x, (extractOdooContext odoo).totalAmount = some x) ∧
      ((extractOdooContext odoo).bestEvidenceId).getD "" ∈ evidenceIds odoo := by
  refine ⟨⟨_, if_pos h⟩, ?_⟩
  exact evidenceIds_costLines (bestEvidenceId_getD_mem h)

/-- Without an amount there is no total. -/
theorem totalAmount_eq_none (h : (extractOdooContext odoo).hasAmount = false) :
    (extractOdooContext odoo).totalAmount = none :=
  if_neg (Bool.not_eq_true _ ▸ h)

end Context

/-! ### Budget and actual cost -/

omit [Floats F] in
private theorem splitEvidenceId_frame (ids : List String) (actual : Dict F) :
    Dict.Frame ["evidence_id", "evidence_ids"] actual (splitEvidenceId ids actual) := by
  unfold splitEvidenceId
  split
  · split
    · split
      · exact (Dict.Frame.set actual _ (by simp)).trans (Dict.Frame.erase _ (by simp))
      · exact Dict.Frame.refl _ _
    · exact Dict.Frame.refl _ _
  · exact Dict.Frame.refl _ _

omit [Text] in
private theorem citeFromList_frame {ids : List String} {actual actual' : Dict F}
    (h : citeFromList ids actual = .ok actual') :
    Dict.Frame ["evidence_id"] actual actual' := by
  unfold citeFromList at h
  split at h
  · split at h
    · cases h
      exact Dict.Frame.refl _ _
    · obtain ⟨found, -, hfound⟩ := bind_eq_ok.mp h
      cases found with
      | some cand =>
        cases hfound
        exact Dict.Frame.set actual _ (by simp)
      | none =>
        cases hfound
        exact Dict.Frame.refl _ _
  · cases h
    exact Dict.Frame.refl _ _

omit [Floats F] [Text] in
/-- The final safety demotes an available figure whose id is outside the pack and keeps any
other. -/
theorem demoteActual_cases {ids : List String} {actual actual' : Dict F}
    (h : demoteActual ids actual = .ok actual') :
    (actual' = actual ∧ (actual.get "status" = .str "available" →
        ∃ e ∈ ids, actual.get "evidence_id" = .str e)) ∨
      ((actual.get "status" = .str "available" ∧ (actual.get "evidence_id").inSet ids = .ok false) ∧
        actual'.get "value" = .null ∧ actual'.get "status" = .str "not_available") := by
  unfold demoteActual at h
  split at h
  · next hstatus =>
    obtain ⟨found, hfound, hrest⟩ := bind_eq_ok.mp h
    cases found with
    | true =>
      cases hrest
      exact .inl ⟨rfl, fun _ => Value.inSet_eq_true hfound⟩
    | false =>
      cases hrest
      refine .inr ⟨⟨Value.eqStr_iff.mp hstatus, hfound⟩, ?_, ?_⟩
      · rw [Dict.get_set_ne _ _ (by decide), Dict.get_set_self]
      · rw [Dict.get_set_ne _ _ (by decide), Dict.get_set_ne _ _ (by decide), Dict.get_set_self]
  · next hstatus =>
    cases h
    refine .inl ⟨rfl, fun hav => absurd ?_ hstatus⟩
    exact Value.eqStr_iff.mpr hav

/-- An available figure that cites, once its citation is brought into shape, an id outside the
pack. -/
def CitesOutside (ids : List String) (actual : Dict F) : Prop :=
  actual.get "status" = .str "available" ∧
    ∃ cited, citeFromList ids (splitEvidenceId ids actual) = .ok cited ∧
      (cited.get "evidence_id").inSet ids = .ok false

omit [Floats F] in
/-- Splitting an id of the pack leaves an id of the pack. -/
theorem splitEvidenceId_inPack {ids : List String} {actual : Dict F}
    (h : ∃ e ∈ ids, actual.get "evidence_id" = .str e) :
    ∃ e ∈ ids, (splitEvidenceId ids actual).get "evidence_id" = .str e := by
  unfold splitEvidenceId
  split
  · split
    · split
      · next cand hfound =>
        refine ⟨cand, by simpa using List.find?_some hfound, ?_⟩
        rw [Dict.get_erase, if_neg (by decide), Dict.get_set_self]
      · exact h
    · exact h
  · exact h

omit [Floats F] [Text] in
private theorem firstValid_inPack {ids : List String} {cands : List (Value F)} {cand : Value F}
    (h : firstValid ids cands = .ok (some cand)) : ∃ e ∈ ids, cand = .str e := by
  induction cands with
  | nil => cases h
  | cons c cands ih =>
    obtain ⟨found, hfound, h⟩ := bind_eq_ok.mp h
    cases found with
    | true =>
      cases h
      exact Value.inSet_eq_true hfound
    | false => exact ih h

omit [Text] in
/-- Citing from a list leaves an id of the pack where there is one. Where another one is put in its
place, that is an id of the pack as well. -/
theorem citeFromList_inPack {ids : List String} {actual cited : Dict F}
    (h : ∃ e ∈ ids, actual.get "evidence_id" = .str e)
    (hcited : citeFromList ids actual = .ok cited) :
    ∃ e ∈ ids, cited.get "evidence_id" = .str e := by
  unfold citeFromList at hcited
  split at hcited
  · split at hcited
    · cases hcited
      exact h
    · obtain ⟨found, hfound, hcited⟩ := bind_eq_ok.mp hcited
      cases found with
      | some cand =>
        cases hcited
        obtain ⟨e, he, rfl⟩ := firstValid_inPack hfound
        exact ⟨e, he, Dict.get_set_self _ _ _⟩
      | none =>
        cases hcited
        exact h
  · cases hcited
    exact h

/-- A figure that cites the pack does not cite outside it. -/
theorem not_citesOutside {ids : List String} {actual : Dict F}
    (h : actual.get "status" = .str "available" →
      ∃ e ∈ ids, actual.get "evidence_id" = .str e) : ¬ CitesOutside ids actual := by
  rintro ⟨hstatus, cited, hcited, hout⟩
  obtain ⟨e, he, hid⟩ := citeFromList_inPack (splitEvidenceId_inPack (h hstatus)) hcited
  rw [hid, Value.inSet_str, decide_eq_true he] at hout
  cases hout

/-- The actual cost the extraction backs: its total, cited from the pack. -/
def ActualPlaced (ctx : OdooContext F) (actual : Dict F) : Prop :=
  actual.get "status" = .str "available" ∧ actual.get "value" = amountValue ctx.totalAmount ∧
    actual.get "evidence_id" = .str (ctx.bestEvidenceId.getD "")

/-- With an amount, whatever object the draft has becomes the extracted total. -/
theorem enforceActual_placed {ctx : OdooContext F} {ids : List String} {actual actual' : Dict F}
    (hamount : ctx.hasAmount = true) (hid : ctx.bestEvidenceId.getD "" ∈ ids)
    (h : enforceActual ctx ids actual = .ok actual') : ActualPlaced ctx actual' := by
  obtain ⟨cited, -, h⟩ := bind_eq_ok.mp h
  have heid : actualEvidenceId ctx ids = ctx.bestEvidenceId.getD "" := if_pos hid
  have hplaced : ActualPlaced ctx (overrideActual ctx ids cited) := by
    rw [overrideActual, heid, if_pos ⟨hamount, hid⟩]
    refine ⟨?_, ?_, ?_⟩ <;> simp [Dict.get_erase, Dict.get_set]
  rcases demoteActual_cases h with ⟨rfl, -⟩ | ⟨⟨-, hout⟩, -⟩
  · exact hplaced
  · -- a placed figure is not demoted
    rw [hplaced.2.2, Value.inSet_str, decide_eq_true hid] at hout
    cases hout

/-- Without an amount, the draft's value stays, or is emptied if it cites outside the pack. Only the
citation may change where it stays. -/
theorem enforceActual_kept {ctx : OdooContext F} {ids : List String} {actual actual' : Dict F}
    (hamount : ctx.hasAmount = false) (h : enforceActual ctx ids actual = .ok actual') :
    (¬ CitesOutside ids actual ∧ actual'.get "value" = actual.get "value" ∧
        actual'.get "status" = actual.get "status" ∧
        (actual'.get "status" = .str "available" →
          ∃ e ∈ ids, actual'.get "evidence_id" = .str e)) ∨
      (CitesOutside ids actual ∧ actual'.get "value" = .null ∧
        actual'.get "status" = .str "not_available") := by
  obtain ⟨cited, hcited, h⟩ := bind_eq_ok.mp h
  have hover : overrideActual ctx ids cited = cited :=
    if_neg fun hc => absurd (hamount.symm.trans hc.1) Bool.false_ne_true
  rw [hover] at h
  have hframe : Dict.Frame ["evidence_id", "evidence_ids"] actual cited :=
    (splitEvidenceId_frame ids actual).trans ((citeFromList_frame hcited).mono (by simp))
  have hstatus : cited.get "status" = actual.get "status" := hframe.get_eq (by simp)
  rcases demoteActual_cases h with ⟨rfl, hpack⟩ | ⟨⟨havailable, hout⟩, hdemoted⟩
  · refine .inl ⟨?_, hframe.get_eq (by simp), hstatus, hpack⟩
    rintro ⟨hav, cited', hcited', hout⟩
    rw [hcited] at hcited'
    cases hcited'
    obtain ⟨e, he, hid⟩ := hpack (hstatus.trans hav)
    rw [hid, Value.inSet_str, decide_eq_true he] at hout
    cases hout
  · exact .inr ⟨⟨hstatus ▸ havailable, cited, hcited, hout⟩, hdemoted⟩

/-- Correcting the actual cost a second time changes nothing about its value. -/
theorem enforceActual_twice {ctx : OdooContext F} {ids : List String}
    {actual actual' actual'' : Dict F} (hamount : ctx.hasAmount = false)
    (h : enforceActual ctx ids actual = .ok actual')
    (h' : enforceActual ctx ids actual' = .ok actual'') :
    (¬ CitesOutside ids actual ∧ actual''.get "value" = actual.get "value") ∨
      (CitesOutside ids actual ∧ actual''.get "value" = .null) := by
  rcases enforceActual_kept hamount h with ⟨hin, hvalue, -, hpack⟩ | ⟨hout, hnull, hstatus⟩
  · rcases enforceActual_kept hamount h' with ⟨-, hvalue', -⟩ | ⟨hout', -⟩
    · exact .inl ⟨hin, hvalue'.trans hvalue⟩
    · exact absurd hout' (not_citesOutside hpack)
  · refine .inr ⟨hout, ?_⟩
    rcases enforceActual_kept hamount h' with ⟨-, hvalue', -⟩ | ⟨-, hnull', -⟩
    · exact hvalue'.trans hnull
    · exact hnull'

/-- What `_enforce_financial_from_odoo` does to a snapshot: it writes the budget and the actual
cost, each only where it is an object. -/
theorem enforceFinancialSnapshot_cases {ctx : OdooContext F} {ids : List String}
    {fs fs' : Dict F} (h : enforceFinancialSnapshot ctx ids fs = .ok fs') :
    Dict.Frame ["budget", "actual_cost"] fs fs' ∧
      (fs'.dict? "budget" = (fs.dict? "budget").map enforceBudget ∧
        (fs.dict? "budget" = none → fs'.get? "budget" = fs.get? "budget")) ∧
      ((∃ actual actual', fs.dict? "actual_cost" = some actual ∧
          enforceActual ctx ids actual = .ok actual' ∧
          fs'.get? "actual_cost" = some (.dict actual')) ∨
        (fs.dict? "actual_cost" = none ∧ fs'.get? "actual_cost" = fs.get? "actual_cost")) := by
  unfold enforceFinancialSnapshot at h
  have hbudget : Dict.Frame ["budget", "actual_cost"] fs (fs.modify "budget" enforceBudget) :=
    fun k hk => Dict.get?_modify_ne fs _ (by rintro rfl; simp at hk)
  have hactual : (fs.modify "budget" enforceBudget).dict? "actual_cost" =
      fs.dict? "actual_cost" := by
    rw [Dict.dict?, Dict.get?_modify_ne fs _ (by decide), ← Dict.dict?]
  have hnone : fs.dict? "budget" = none →
      (fs.modify "budget" enforceBudget).get? "budget" = fs.get? "budget" := by
    intro hb
    rw [Dict.modify, hb]
  refine ⟨hbudget.trans (Dict.Frame.modifyM h (by simp)), ?_, ?_⟩
  · have hframe : Dict.Frame ["actual_cost"] (fs.modify "budget" enforceBudget) fs' :=
      Dict.Frame.modifyM h (by simp)
    rw [hframe.dict?_eq (by simp), Dict.dict?_modify_self, hframe "budget" (by simp)]
    exact ⟨rfl, hnone⟩
  · rcases Dict.modifyM_eq_ok h with ⟨actual, actual', ha, ha', rfl⟩ | ⟨ha, rfl⟩
    · refine .inl ⟨actual, actual', hactual ▸ ha, ha', Dict.get?_set_self _ _ _⟩
    · exact .inr ⟨hactual ▸ ha, Dict.get?_modify_ne fs _ (by decide)⟩

/-! ### The figures filled from the extraction -/

/-- The node a figure ends up with: the extraction's value over the draft's node, else the draft's
node, if it has one. -/
def placedNode (fs : Dict F) (key : String) : Option (F × String) → Dict F
  | some (x, e) => availableNode ((fs.dict? key).getD notAvailableNode) (.float x) (.str e)
  | none => (fs.dict? key).getD notAvailableNode

omit [Floats F] [Text] in
/-- Looking up a figure puts an empty one in the place of anything but an object. -/
theorem get?_finNode (fs : Dict F) (key q : String) :
    (finNode fs key).get? q =
      if key = q then some (.dict ((fs.dict? key).getD notAvailableNode)) else fs.get? q := by
  unfold finNode
  split
  · next node hnode =>
    split
    · next h => rw [← h, Dict.dict?_eq_some.mp hnode, hnode, Option.getD_some]
    · rfl
  · next hnone => rw [Dict.get?_set, hnone, Option.getD_none]

omit [Floats F] [Text] in
/-- Placing a figure fills its object and leaves every other key. -/
theorem get?_setFinAvailable (fs : Dict F) (key q : String) (value eid : Value F) :
    (setFinAvailable fs key value eid).get? q =
      if key = q then
        some (.dict (availableNode ((fs.dict? key).getD notAvailableNode) value eid))
      else fs.get? q := by
  have hnode : (finNode fs key).dict? key = some ((fs.dict? key).getD notAvailableNode) := by
    rw [Dict.dict?_eq_some, get?_finNode, if_pos rfl]
  rw [setFinAvailable, Dict.modify, hnode]
  simp only [Dict.get?_set, get?_finNode]
  split <;> rfl

omit [Floats F] [Text] in
private theorem get?_placeFigure (fs : Dict F) (key q : String) (p : Option (F × String)) :
    (placeFigure fs key p).get? q =
      if key = q then some (.dict (placedNode fs key p)) else fs.get? q := by
  rcases p with - | ⟨x, e⟩
  · exact get?_finNode fs key q
  · exact get?_setFinAvailable fs key q _ _

/-- The figures the extraction backs, under their keys. -/
def backedFigures (ctx : OdooContext F) (odoo : List (Evidence F)) (ids : List String) :
    List (String × Option (F × String)) :=
  [("contract_value", backedNonzero ids ctx.contractValue),
    ("estimate", backedNonzero ids ctx.estimate), ("committed_cost", committedCost odoo ids),
    ("payroll_cost", backed ids ctx.payrollCost), ("expense_cost", backed ids ctx.expenseCost)]

omit [Floats F] [Text] in
/-- Placing figures under different keys, one after the other. What is found under a key is what was
placed there, or what there was. -/
theorem get?_foldl_placeFigure (figures : List (String × Option (F × String))) (fs : Dict F)
    (hnodup : (figures.map Prod.fst).Nodup) (q : String) :
    (figures.foldl (fun fs kp => placeFigure fs kp.1 kp.2) fs).get? q =
      match figures.lookup q with
      | some p => some (.dict (placedNode fs q p))
      | none => fs.get? q := by
  induction figures generalizing fs with
  | nil => rfl
  | cons kp figures ih =>
    obtain ⟨k, p⟩ := kp
    obtain ⟨hk, hnodup⟩ := List.nodup_cons.mp hnodup
    rw [List.foldl_cons, ih _ hnodup, List.lookup_cons]
    by_cases hq : q = k
    · subst hq
      have hlookup : figures.lookup q = none := by
        rw [List.lookup_eq_none_iff]
        intro kp' hkp'
        rw [bne_iff_ne]
        rintro rfl
        exact hk (List.mem_map.mpr ⟨kp', hkp', rfl⟩)
      rw [hlookup, beq_self_eq_true, get?_placeFigure, if_pos rfl]
    · have hbeq : (q == k) = false := beq_false_of_ne hq
      have hget : (placeFigure fs k p).get? q = fs.get? q := by
        rw [get?_placeFigure, if_neg (Ne.symm hq)]
      rw [hbeq, hget]
      have hplaced : ∀ p', placedNode (placeFigure fs k p) q p' = placedNode fs q p' := by
        intro p'
        rcases p' with - | ⟨x, e⟩ <;> simp only [placedNode, Dict.dict?, hget]
      simp only [hplaced]

/-- What filling the five figures leaves in the snapshot. -/
theorem get?_placeFigures (ctx : OdooContext F) (odoo : List (Evidence F)) (ids : List String)
    (fs : Dict F) (q : String) :
    (placeFigures ctx odoo ids fs).get? q =
      match (backedFigures ctx odoo ids).lookup q with
      | some p => some (.dict (placedNode fs q p))
      | none => fs.get? q :=
  get?_foldl_placeFigure (backedFigures ctx odoo ids) fs (by simp [backedFigures]) q

/-! ### Totals and variance -/

/-- The figures from which the derived ones are computed, each with the id it cites. -/
structure BaseFigures (F : Type) where
  estimate : Option (F × String)
  actual : Option (F × String)
  payroll : Option (F × String)
  expense : Option (F × String)

namespace BaseFigures

/-- The incurred categories that are there. -/
def incurred (b : BaseFigures F) : List (String × F × String) :=
  (b.actual.map fun p => ("actual_cost", p)).toList ++
    (b.payroll.map fun p => ("payroll_cost", p)).toList ++
    (b.expense.map fun p => ("expense_cost", p)).toList

/-- The total incurred cost, cited like its first category. -/
def total (b : BaseFigures F) : Option (F × String) :=
  b.incurred.head?.map fun first =>
    (Floats.round2 (Num.floatSum (b.incurred.map fun p => Floats.abs p.2.1)), first.2.2)

/-- What the estimate is compared with, and the formula. -/
def spent (b : BaseFigures F) : Option (F × String) × String :=
  if 1 < b.incurred.length then (b.total, "estimate - total_incurred")
  else (b.actual, "estimate - actual_cost")

/-- The variance against the estimate: value and ids. -/
def variance (b : BaseFigures F) : Option (F × List String) :=
  b.estimate.bind fun e => b.spent.1.map fun s =>
    (Floats.round2 (Floats.sub e.1 (Floats.abs s.1)), [e.2, s.2].filter (· ≠ ""))

end BaseFigures

/-- The snapshot shows the figure `p` under `key`: available with this value and id, or without a
value. -/
def Shows (fs : Dict F) (key : String) (p : Option (F × String)) : Prop :=
  (availableFigure fs key).map (fun node => (node.get "value", node.get "evidence_id")) =
    p.map fun q => (.float q.1, .str q.2)

omit [Floats F] [Text] in
/-- A figure that is shown is available, with its value and its id. -/
theorem Shows.of_some {fs : Dict F} {key : String} {x : F} {e : String}
    (h : Shows fs key (some (x, e))) :
    ∃ node, availableFigure fs key = some node ∧ node.get "value" = .float x ∧
      node.get "evidence_id" = .str e := by
  obtain ⟨node, hnode, hpair⟩ := Option.map_eq_some_iff.mp h
  obtain ⟨hv, he⟩ := Prod.mk.inj hpair
  exact ⟨node, hnode, hv, he⟩

omit [Floats F] [Text] in
private theorem Shows.of_none {fs : Dict F} {key : String} (h : Shows fs key none) :
    availableFigure fs key = none := Option.map_eq_none_iff.mp h

omit [Floats F] [Text] in
/-- When a figure is available. -/
theorem availableFigure_eq_some {fs node : Dict F} {key : String} :
    availableFigure fs key = some node ↔
      fs.dict? key = some node ∧ node.get "status" = .str "available" ∧
        node.get "value" ≠ .null := by
  rw [availableFigure, Option.filter_eq_some_iff, Bool.and_eq_true, Value.eqStr_iff,
    Bool.not_eq_true', ← Bool.not_eq_true, Value.isNull_iff]

omit [Text] in
/-- The values that enter the total are numbers. -/
theorem incurredParts_numeric {fs : Dict F} {parts : List (IncurredPart F)}
    (h : incurredParts fs = .ok parts) {key : String} (hkey : key ∈ incurredKeys)
    {node : Dict F} (hnode : availableFigure fs key = some node) :
    ∃ n, (node.get "value").toNum = .ok n := by
  have hmem : (key, node) ∈ incurredKeys.filterMap fun k =>
      (availableFigure fs k).map fun node => (k, node) :=
    List.mem_filterMap.mpr ⟨key, hkey, by rw [hnode]; rfl⟩
  obtain ⟨part, hpart⟩ := completes_mapM.mp ⟨parts, h⟩ (key, node) hmem
  obtain ⟨amount, hamount, -⟩ := bind_eq_ok.mp hpart
  obtain ⟨n, hn, -⟩ := bind_eq_ok.mp hamount
  exact ⟨n, hn⟩

omit [Text] in
/-- The parts of the total are the incurred categories the snapshot shows. -/
theorem incurredParts_eq {fs : Dict F} {b : BaseFigures F} (ha : Shows fs "actual_cost" b.actual)
    (hp : Shows fs "payroll_cost" b.payroll) (he : Shows fs "expense_cost" b.expense) :
    incurredParts fs = .ok (b.incurred.map fun p =>
      ⟨p.1, .float (Floats.abs p.2.1), .str p.2.2⟩) := by
  obtain ⟨est, actual, payroll, expense⟩ := b
  have hpart (key : String) (p : Option (F × String)) (h : Shows fs key p) :
      (p = none ∧ availableFigure fs key = none) ∨
        ∃ x e node, p = some (x, e) ∧ availableFigure fs key = some node ∧
          node.get "value" = .float x ∧ node.get "evidence_id" = .str e := by
    rcases p with - | ⟨x, e⟩
    · exact .inl ⟨rfl, h.of_none⟩
    · obtain ⟨node, hnode, hv, hid⟩ := h.of_some
      exact .inr ⟨x, e, node, rfl, hnode, hv, hid⟩
  rcases hpart _ _ ha with ⟨h₁, hn₁⟩ | ⟨x₁, e₁, n₁, h₁, hn₁, hv₁, hi₁⟩ <;>
  rcases hpart _ _ hp with ⟨h₂, hn₂⟩ | ⟨x₂, e₂, n₂, h₂, hn₂, hv₂, hi₂⟩ <;>
  rcases hpart _ _ he with ⟨h₃, hn₃⟩ | ⟨x₃, e₃, n₃, h₃, hn₃, hv₃, hi₃⟩ <;>
  simp only at h₁ h₂ h₃ <;> subst h₁ h₂ h₃ <;>
  simp [incurredParts, incurredKeys, BaseFigures.incurred, bind, Except.bind, pure, Except.pure, *]

omit [Text] in
/-- What recomputing the total incurred cost leaves: the sum of the parts, or the draft's node. The
parts are those that the snapshot shows as available. -/
theorem placeTotalIncurred_cases {fs fs' : Dict F} (h : placeTotalIncurred fs = .ok fs') :
    ∃ parts, incurredParts fs = .ok parts ∧ Dict.Frame ["total_incurred", "note"] fs fs' ∧
      ((parts = [] ∧ fs'.get? "total_incurred" =
          some (.dict ((fs.dict? "total_incurred").getD notAvailableNode))) ∨
        ∃ first rest total, parts = first :: rest ∧
          Num.sum (parts.map (·.amount)) = .ok total ∧ fs'.get? "total_incurred" =
            some (.dict (availableNode ((fs.dict? "total_incurred").getD notAvailableNode)
              total.round2.toValue first.evidenceId))) := by
  obtain ⟨parts, hparts, h⟩ := bind_eq_ok.mp h
  refine ⟨parts, hparts, ?_⟩
  cases parts with
  | nil =>
    cases h
    refine ⟨fun k hk => ?_, .inl ⟨rfl, ?_⟩⟩
    · have hne : "total_incurred" ≠ k := by rintro rfl; simp at hk
      rw [get?_finNode, if_neg hne]
    · rw [get?_finNode, if_pos rfl]
  | cons first rest =>
    obtain ⟨total, htotal, h⟩ := bind_eq_ok.mp h
    have hframe : Dict.Frame ["total_incurred", "note"] fs
        (setFinAvailable fs "total_incurred" total.round2.toValue first.evidenceId) := by
      intro k hk
      have hne : "total_incurred" ≠ k := by rintro rfl; simp at hk
      rw [get?_setFinAvailable, if_neg hne]
    -- without a note on the parts, or with one
    split at h
    · cases h
      refine ⟨hframe, .inr ⟨first, rest, total, rfl, htotal, ?_⟩⟩
      rw [get?_setFinAvailable, if_pos rfl]
    · cases h
      refine ⟨hframe.trans (Dict.Frame.set _ _ (by simp)),
        .inr ⟨first, rest, total, rfl, htotal, ?_⟩⟩
      rw [Dict.get?_set_ne _ _ (by decide), get?_setFinAvailable, if_pos rfl]

omit [Text] in
/-- The total incurred cost over the categories shown. Where the snapshot shows no category, the
draft's node stays. -/
theorem total_of_shows {fs fs' : Dict F} {b : BaseFigures F}
    (ha : Shows fs "actual_cost" b.actual) (hp : Shows fs "payroll_cost" b.payroll)
    (he : Shows fs "expense_cost" b.expense) (h : placeTotalIncurred fs = .ok fs') :
    fs'.get? "total_incurred" = some (.dict (placedNode fs "total_incurred" b.total)) := by
  obtain ⟨parts, hparts, -, hcases⟩ := placeTotalIncurred_cases h
  rw [incurredParts_eq ha hp he] at hparts
  cases hparts
  rcases hcases with ⟨hnil, hget⟩ | ⟨first, rest, total, hcons, hsum, hget⟩
  · have hnone : b.total = none := by rw [BaseFigures.total, List.map_eq_nil_iff.mp hnil]; rfl
    rw [hget, hnone]
    rfl
  · obtain ⟨p, ps, hb, hfirst, -⟩ := List.map_eq_cons_iff.mp hcons
    have hne : b.incurred.map (fun p => Floats.abs p.2.1) ≠ [] := by simp [hb]
    have hfloat := Num.sum_map_float hne
    rw [List.map_map] at hfloat
    rw [List.map_map] at hsum
    have htotal : total = .float (Num.floatSum (b.incurred.map fun p => Floats.abs p.2.1)) :=
      Except.ok.inj (hsum.symm.trans hfloat)
    rw [hget, htotal, BaseFigures.total, hb, ← hfirst]
    rfl

omit [Text] in
/-- What the variance pass leaves: the difference computed, or the draft's node. It is computed
where both operands are available. -/
theorem placeVariance_cases {fs fs' : Dict F} (h : placeVariance fs = .ok fs') :
    Dict.Frame ["variance"] fs fs' ∧
      ((varianceComputable (nodeOrEmpty fs "estimate") (spentNode fs).1 = false ∧
          fs'.get? "variance" = some (.dict ((fs.dict? "variance").getD emptyVariance))) ∨
        ∃ (est spent diff : Num F) (node : Dict F),
          varianceComputable (nodeOrEmpty fs "estimate") (spentNode fs).1 = true ∧
          ((nodeOrEmpty fs "estimate").get "value").toNum = .ok est ∧
          ((spentNode fs).1.get "value").absNum = .ok spent ∧ est.sub spent = .ok diff ∧
          fs'.get? "variance" = some (.dict node) ∧ node.get "value" = diff.round2.toValue ∧
          node.get "evidence_ids" = .list ([(nodeOrEmpty fs "estimate").get "evidence_id",
            (spentNode fs).1.get "evidence_id"].filter (·.truthy))) := by
  unfold placeVariance at h
  simp only at h
  split at h
  · next hcomp =>
    obtain ⟨spent, hspent, h⟩ := bind_eq_ok.mp h
    obtain ⟨est, hest, h⟩ := bind_eq_ok.mp h
    obtain ⟨diff, hdiff, h⟩ := bind_eq_ok.mp h
    cases h
    refine ⟨Dict.Frame.set _ _ (by simp), .inr ⟨est, spent, diff, _, hcomp, hest, hspent, hdiff,
      Dict.get?_set_self _ _ _, ?_, ?_⟩⟩ <;> simp [Dict.get_set]
  · next hcomp =>
    cases h
    exact ⟨Dict.Frame.set _ _ (by simp),
      .inl ⟨Bool.not_eq_true _ ▸ hcomp, Dict.get?_set_self _ _ _⟩⟩

omit [Floats F] [Text] in
/-- An object that is available and has a value is an available figure. -/
theorem availableFigure_of_node {fs : Dict F} {key : String}
    (hstatus : (nodeOrEmpty fs key).get "status" = .str "available")
    (hvalue : (nodeOrEmpty fs key).get "value" ≠ .null) :
    availableFigure fs key = some (nodeOrEmpty fs key) := by
  rw [availableFigure_eq_some]
  refine ⟨?_, hstatus, hvalue⟩
  unfold nodeOrEmpty at hvalue ⊢
  cases h : fs.dict? key with
  | some node => rfl
  | none =>
    rw [h] at hvalue
    exact absurd rfl hvalue

omit [Floats F] [Text] in
/-- An available figure is the object under its key. -/
theorem nodeOrEmpty_of_available {fs node : Dict F} {key : String}
    (h : availableFigure fs key = some node) : nodeOrEmpty fs key = node := by
  rw [nodeOrEmpty, (availableFigure_eq_some.mp h).1, Option.getD_some]

omit [Text] in
/-- The variance is computable just if both nodes are available with a value, the estimate's a
truthy one. -/
theorem varianceComputable_iff {estimate spent : Dict F} :
    varianceComputable estimate spent = true ↔
      estimate.get "status" = .str "available" ∧ spent.get "status" = .str "available" ∧
        (estimate.get "value").truthy = true ∧ spent.get "value" ≠ .null := by
  rw [varianceComputable, Bool.and_eq_true, Bool.and_eq_true, Bool.and_eq_true, Value.eqStr_iff,
    Value.eqStr_iff, Bool.not_eq_true', ← Bool.not_eq_true, Value.isNull_iff, and_assoc, and_assoc]

omit [Floats F] [Text] in
/-- As many categories are counted as the snapshot shows. The count decides whether the total or the
actual cost is compared. -/
theorem length_incurred {fs : Dict F} {b : BaseFigures F} (ha : Shows fs "actual_cost" b.actual)
    (hp : Shows fs "payroll_cost" b.payroll) (he : Shows fs "expense_cost" b.expense) :
    (incurredKeys.filterMap (availableFigure fs)).length = b.incurred.length := by
  have hsome (key : String) (p : Option (F × String)) (h : Shows fs key p) :
      (availableFigure fs key).toList.length = p.toList.length := by
    have hlen := congrArg (fun o => o.toList.length) h
    simpa only [Option.toList_map, List.length_map] using hlen
  have h₁ := hsome _ _ ha
  have h₂ := hsome _ _ hp
  have h₃ := hsome _ _ he
  have hkeys : incurredKeys.filterMap (availableFigure fs) =
      (availableFigure fs "actual_cost").toList ++ (availableFigure fs "payroll_cost").toList ++
        (availableFigure fs "expense_cost").toList := by
    simp only [incurredKeys, List.filterMap_cons, List.filterMap_nil]
    cases availableFigure fs "actual_cost" <;> cases availableFigure fs "payroll_cost" <;>
      cases availableFigure fs "expense_cost" <;> rfl
  rw [hkeys]
  simp only [BaseFigures.incurred, List.length_append, Option.toList_map, List.length_map]
  omega

omit [Text] in
/-- The node the estimate is compared with shows what `BaseFigures.spent` says. With more than one
category it is the total, and else the one that there is. -/
theorem spentNode_of_shows {fs : Dict F} {b : BaseFigures F}
    (ha : Shows fs "actual_cost" b.actual) (hp : Shows fs "payroll_cost" b.payroll)
    (he : Shows fs "expense_cost" b.expense)
    (ht : b.total ≠ none → Shows fs "total_incurred" b.total) :
    ∃ key, (spentNode fs).1 = nodeOrEmpty fs key ∧ Shows fs key b.spent.1 := by
  unfold spentNode BaseFigures.spent
  rw [length_incurred ha hp he]
  by_cases hn : 1 < b.incurred.length
  · have hsome : b.total ≠ none := by
      intro hnone
      have hnil : b.incurred.head? = none := Option.map_eq_none_iff.mp hnone
      rw [List.head?_eq_none_iff] at hnil
      rw [hnil] at hn
      exact absurd hn (by simp)
    obtain ⟨⟨x, e⟩, hx⟩ := Option.ne_none_iff_exists'.mp hsome
    have hshow := ht hsome
    rw [hx] at hshow
    obtain ⟨node, hnode, -, -⟩ := hshow.of_some
    have hstatus : (nodeOrEmpty fs "total_incurred").get "status" = .str "available" := by
      rw [nodeOrEmpty_of_available hnode]
      exact (availableFigure_eq_some.mp hnode).2.1
    rw [if_pos ⟨hn, Value.eqStr_iff.mpr hstatus⟩, if_pos hn]
    exact ⟨_, rfl, ht hsome⟩
  · rw [if_neg fun h => hn h.1, if_neg hn]
    exact ⟨_, rfl, ha⟩

omit [Text] in
/-- The variance over the figures shown. An estimate of zero is none, so that it has to be told
apart. -/
theorem variance_of_shows {fs fs' : Dict F} {b : BaseFigures F}
    (hest : ∀ x e, b.estimate = some (x, e) →
      Shows fs "estimate" (some (x, e)) ∧ Floats.isZero x = false)
    (hnone : b.estimate = none →
      varianceComputable (nodeOrEmpty fs "estimate") (spentNode fs).1 = false)
    (ha : Shows fs "actual_cost" b.actual) (hp : Shows fs "payroll_cost" b.payroll)
    (he : Shows fs "expense_cost" b.expense)
    (ht : b.total ≠ none → Shows fs "total_incurred" b.total)
    (h : placeVariance fs = .ok fs') :
    ∃ node : Dict F, fs'.get? "variance" = some (.dict node) ∧
      match b.variance with
      | some (x, ids) => node.get "value" = .float x ∧
          node.get "evidence_ids" = .list (ids.map .str)
      | none => node = (fs.dict? "variance").getD emptyVariance := by
  obtain ⟨key, hspent, hshow⟩ := spentNode_of_shows ha hp he ht
  obtain ⟨-, hcases⟩ := placeVariance_cases h
  rw [hspent] at hcases hnone
  rcases hcases with ⟨hcomp, hget⟩ |
    ⟨est, spent, diff, node, hcomp, hvest, hvspent, hdiff, hget, hv, hids⟩
  · refine ⟨_, hget, ?_⟩
    -- one of the two figures is missing
    have hnone : b.variance = none := by
      by_contra hsome
      obtain ⟨⟨x, ids⟩, hx⟩ := Option.ne_none_iff_exists'.mp hsome
      obtain ⟨⟨y, ey⟩, hy, hx⟩ := Option.bind_eq_some_iff.mp hx
      obtain ⟨⟨z, ez⟩, hz, -⟩ := Option.map_eq_some_iff.mp hx
      obtain ⟨hest, hzero⟩ := hest y ey hy
      rw [hz] at hshow
      obtain ⟨en, hen, hev, -⟩ := hest.of_some
      obtain ⟨sn, hsn, hsv, -⟩ := hshow.of_some
      have htrue : varianceComputable (nodeOrEmpty fs "estimate") (nodeOrEmpty fs key) = true := by
        rw [varianceComputable_iff, nodeOrEmpty_of_available hen, nodeOrEmpty_of_available hsn]
        refine ⟨(availableFigure_eq_some.mp hen).2.1, (availableFigure_eq_some.mp hsn).2.1, ?_,
          (availableFigure_eq_some.mp hsn).2.2⟩
        rw [hev, Value.truthy_float, hzero]
        rfl
      rw [htrue] at hcomp
      cases hcomp
    rw [hnone]
  · obtain ⟨hes, hss, hetruthy, hsvalue⟩ := varianceComputable_iff.mp hcomp
    have hevalue : (nodeOrEmpty fs "estimate").get "value" ≠ .null := by
      intro hnull
      rw [hnull, Value.truthy_null] at hetruthy
      cases hetruthy
    have hen := availableFigure_of_node hes hevalue
    have hsn := availableFigure_of_node hss hsvalue
    have hsome : b.estimate ≠ none := by
      intro hb
      rw [hnone hb] at hcomp
      cases hcomp
    obtain ⟨⟨y, ey⟩, hy⟩ := Option.ne_none_iff_exists'.mp hsome
    obtain ⟨en, hen', hyv, hyid⟩ := (hest y ey hy).1.of_some
    rw [hen, Option.some.injEq] at hen'
    subst hen'
    rw [Shows, hsn, Option.map_some, eq_comm, Option.map_eq_some_iff] at hshow
    obtain ⟨⟨z, ez⟩, hz, hze⟩ := hshow
    obtain ⟨hzv, hzid⟩ := Prod.mk.inj hze
    refine ⟨node, hget, ?_⟩
    rw [BaseFigures.variance, hy, Option.bind_some, hz, Option.map_some]
    rw [hyv] at hvest
    rw [← hzv] at hvspent
    cases hvest
    cases hvspent
    cases hdiff
    refine ⟨hv, ?_⟩
    rw [hids, hyid, ← hzid]
    by_cases h1 : ey = "" <;> by_cases h2 : ez = "" <;> simp [h1, h2]

/-! ### The whole categories pass -/

/-- What the categories pass leaves under each key. -/
theorem enforceCategoriesSnapshot_cases {ctx : OdooContext F} {odoo : List (Evidence F)}
    {ids : List String} {fs fs' : Dict F}
    (h : enforceCategoriesSnapshot ctx odoo ids fs = .ok fs') :
    ∃ totalled, placeTotalIncurred (placeFigures ctx odoo ids fs) = .ok totalled ∧
      placeVariance totalled = .ok fs' ∧
      (∀ k, k ∉ ["total_incurred", "note", "variance"] → fs'.get? k =
        match (backedFigures ctx odoo ids).lookup k with
        | some p => some (.dict (placedNode fs k p))
        | none => fs.get? k) ∧
      fs'.get? "total_incurred" = totalled.get? "total_incurred" := by
  obtain ⟨totalled, htotal, hvariance⟩ := bind_eq_ok.mp h
  obtain ⟨-, -, hframe, -⟩ := placeTotalIncurred_cases htotal
  obtain ⟨hframe', -⟩ := placeVariance_cases hvariance
  refine ⟨totalled, htotal, hvariance, fun k hk => ?_, hframe' _ (by simp)⟩
  rw [← get?_placeFigures, hframe' k (by simp_all), hframe k (by simp_all)]

end DecisionCenter
