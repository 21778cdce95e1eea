import DecisionCenter.Graph.DraftFrame
import DecisionCenter.Graph.SnapshotSoundness
import DecisionCenter.Graph.Totals

/-!
# No fabricated figures

When the snapshot of the finished report holds only numbers of the extraction. The
evidence-built report and the availability report always do; a draft of the LLM does exactly
when the figures that no pass overwrites are sound in the draft already.

What a number should be is said by `Graph.SnapshotSoundness`, as an expectation for each figure.
This module follows the draft through the passes before: normalisation, the corrections of
budget and actual cost, made once for the draft and once more for the finished report, and the
categories pass. Only some entries of a draft can survive all of them: a budget or an actual
cost that is a bare number, a figure that the extraction does not back, a total without parts, a
variance that is not computed. `DraftSound` asks of exactly these that they show nothing, or
what is expected.

The evidence-built report starts without the figures that the extraction backs and without
numbers elsewhere (`builderSnapshot_lacks`), so that its leftovers are sound; its pack is
screened, which changes nothing about the Odoo items and so about what is backed
(`backedFigures_builderEvidence`).

`nonFabricated_draftRun_iff` is exact for every run of node 12: every mapping, every answer of
the LLM and every state.
-/

namespace DecisionCenter

open Py

section Drafts

variable {F : Type} [Floats F] [Text]

/-! ### The draft -/

omit [Text] in
/-- A value that is no number. -/
def NotNumber (v : Value F) : Prop := ∀ n, v.toNum ≠ .ok n

/-- The actual cost of the draft is overwritten by the extracted total, has no number or is emptied
for citing outside the pack. If it is no object, it is left as it is and has to be sound. -/
def DraftActualSound (evidence : List (Evidence F)) (fs : Dict F) : Prop :=
  match fs.dict? "actual_cost" with
  | some node => (extractOdooContext (odooEvidence evidence)).hasAmount = true ∨
      NotNumber (node.get "value") ∨ CitesOutside (evidenceIds evidence) node
  | none => FigureSound (evidenceIds (odooEvidence evidence))
      (expectedFigure evidence "actual_cost") "actual_cost" (fs.get "actual_cost")

/-- What a draft's snapshot, in its canonical shape, has to look like for its numbers to be those of
the extraction: a budget that is no bare number, a sound actual cost, and no other unsound figure
that the extraction leaves alone. -/
structure DraftSound (evidence : List (Evidence F)) (fs : Dict F) : Prop
    extends UnbackedSound evidence fs where
  budget : fs.dict? "budget" = none → NotNumber (fs.get "budget")
  actual : DraftActualSound evidence fs

/-- The draft of the LLM is taken, and its canonical snapshot is `fs`. -/
def AcceptedSnapshot (evidence : List (Evidence F)) (draft fs : Dict F) : Prop :=
  (∃ report, acceptDraft evidence draft = .ok (some report)) ∧
    ∃ normal, normalizeFinancialSnapshot draft = .ok normal ∧
      normal.dict? "financial_snapshot" = some fs

/-! ### The corrections of budget and actual cost -/

section Enforced

variable {evidence : List (Evidence F)} {fs fs' fs'' : Dict F}

omit [Text] in
/-- Only the entries of a snapshot, and whether the actual cost is an object, decide whether the
figures left alone are sound. -/
theorem unbackedSound_congr [Text]
    (hkept : ∀ k, k ∉ ["budget", "actual_cost"] → fs'.dict? k = fs.dict? k)
    (hactual : (fs'.dict? "actual_cost").isSome = (fs.dict? "actual_cost").isSome) :
    UnbackedSound evidence fs' ↔ UnbackedSound evidence fs := by
  have hfigure {k : String} (hk : k ∉ ["budget", "actual_cost"]) :
      keptFigure fs' k = keptFigure fs k := by
    rw [keptFigure, keptFigure, hkept k hk]
  have htotal : TotalSound evidence fs' ↔ TotalSound evidence fs := by
    rw [TotalSound, TotalSound, hactual, hfigure (by simp)]
  have hvariance : VarianceSound evidence fs' ↔ VarianceSound evidence fs := by
    rw [VarianceSound, VarianceSound, hactual, hfigure (by simp)]
  have hkeys {k : String} (hmem : (k, none) ∈ backedFigures
      (extractOdooContext (odooEvidence evidence)) (odooEvidence evidence)
      (evidenceIds evidence)) : keptFigure fs' k = keptFigure fs k := by
    refine hfigure ?_
    have hlookup := (lookup_of_mem_backed hmem).2.2
    rintro hk
    simp only [List.mem_cons, List.not_mem_nil, or_false] at hk
    rcases hk with rfl | rfl <;> cases hlookup
  constructor
  · intro h
    exact ⟨fun k hk => hkeys hk ▸ h.unbacked k hk, htotal.mp h.total, hvariance.mp h.variance⟩
  · intro h
    exact ⟨fun k hk => (hkeys hk).symm ▸ h.unbacked k hk, htotal.mpr h.total,
      hvariance.mpr h.variance⟩

/-- The corrections keep every other figure, and an actual cost is an object as before. -/
theorem enforce_kept (h : enforceFinancialSnapshot (extractOdooContext (odooEvidence evidence))
      (evidenceIds evidence) fs = .ok fs') :
    (∀ k, k ∉ ["budget", "actual_cost"] → fs'.dict? k = fs.dict? k) ∧
      (fs'.dict? "actual_cost").isSome = (fs.dict? "actual_cost").isSome := by
  obtain ⟨hframe, -, hactual⟩ := enforceFinancialSnapshot_cases h
  refine ⟨fun k hk => hframe.dict?_eq hk, ?_⟩
  rcases hactual with ⟨node, node', hnode, -, hnode'⟩ | ⟨hnone, hget⟩
  · rw [hnode, Dict.dict?_eq_some.mpr hnode']
    rfl
  · rw [Dict.dict?, hget, ← Dict.dict?, hnone]

/-- After the corrections an actual cost with an amount is the extraction's. -/
theorem actualEnforced_of_enforce
    (h : enforceFinancialSnapshot (extractOdooContext (odooEvidence evidence))
      (evidenceIds evidence) fs = .ok fs') : ActualEnforced evidence fs' := by
  obtain ⟨-, -, hactual⟩ := enforceFinancialSnapshot_cases h
  intro node hnode hamount
  rcases hactual with ⟨actual, actual', -, hpass, hget⟩ | ⟨hnone, hget⟩
  · rw [Dict.dict?_eq_some, hget] at hnode
    cases hnode
    exact enforceActual_placed hamount (mem_evidenceIds_of_odoo (hasAmount_spec hamount).2) hpass
  · rw [Dict.dict?, hget, ← Dict.dict?, hnone] at hnode
    cases hnode

omit [Text] in
/-- An object of which nothing is expected is sound just without a number. -/
theorem figureSound_notNumber {odooIds : List String} {key : String} {node : Dict F} :
    FigureSound odooIds none key (.dict node) ↔ NotNumber (node.get "value") := by
  constructor
  · intro h n hn
    exact h.expected_ne_none hn rfl
  · intro h n hn
    exact absurd hn (h n)

omit [Text] in
/-- So is what stands in the place of an object. A bare value is sound if it is no number, since it
cannot cite. -/
theorem figureSound_notNumber_of_bare {odooIds : List String} {key : String} {d : Dict F}
    (hbare : d.dict? key = none) :
    FigureSound odooIds none key (d.get key) ↔ NotNumber (d.get key) := by
  unfold FigureSound
  split
  · next node hnode =>
    have hget : d.get? key = some (.dict node) := by
      rw [Dict.get, Dict.getD] at hnode
      cases hd : d.get? key with
      | none =>
        rw [hd] at hnode
        cases hnode
      | some v =>
        rw [hd, Option.getD_some] at hnode
        rw [hnode]
    rw [Dict.dict?_eq_some.mpr hget] at hbare
    cases hbare
  · constructor
    · intro h n hn
      obtain ⟨x, hx, -⟩ := h n hn
      cases hx
    · intro h n hn
      exact absurd hn (h n)

/-- After the corrections the budget is sound unless it is a bare number. An object is emptied, as
the pack has no budget. -/
theorem budget_enforced
    (h : enforceFinancialSnapshot (extractOdooContext (odooEvidence evidence))
      (evidenceIds evidence) fs = .ok fs') :
    FigureSound (evidenceIds (odooEvidence evidence)) (expectedFigure evidence "budget") "budget"
        (fs'.get "budget") ↔ (fs.dict? "budget" = none → NotNumber (fs.get "budget")) := by
  obtain ⟨-, ⟨hbudget, hbare⟩, -⟩ := enforceFinancialSnapshot_cases h
  cases hfs : fs.dict? "budget" with
  | some node =>
    rw [hfs, Option.map_some] at hbudget
    rw [Dict.get_of_get? (Dict.dict?_eq_some.mp hbudget)]
    refine iff_of_true (FigureSound.of_null ?_) (fun hnone => absurd hnone (Option.some_ne_none _))
    simp [enforceBudget, Dict.get_set, Dict.get_setdefault]
  | none =>
    rw [hfs, Option.map_none] at hbudget
    have hget : fs'.get "budget" = fs.get "budget" := by
      rw [Dict.get, Dict.get, Dict.getD, Dict.getD, hbare hfs]
    refine (figureSound_notNumber_of_bare hbudget).trans ?_
    rw [hget]
    exact ⟨fun hn _ => hn, fun hn => hn rfl⟩

/-- A budget is an object after the corrections just if it was one, and a bare one is kept. -/
theorem budget_kept
    (h : enforceFinancialSnapshot (extractOdooContext (odooEvidence evidence))
      (evidenceIds evidence) fs = .ok fs') :
    (fs'.dict? "budget" = none → NotNumber (fs'.get "budget")) ↔
      (fs.dict? "budget" = none → NotNumber (fs.get "budget")) := by
  obtain ⟨-, ⟨hbudget, hbare⟩, -⟩ := enforceFinancialSnapshot_cases h
  cases hfs : fs.dict? "budget" with
  | some node =>
    rw [hbudget, hfs]
    exact iff_of_true (fun hnone => absurd hnone (Option.some_ne_none _))
      (fun hnone => absurd hnone (Option.some_ne_none _))
  | none =>
    have hget : fs'.get "budget" = fs.get "budget" := by
      rw [Dict.get, Dict.get, Dict.getD, Dict.getD, hbare hfs]
    rw [hbudget, hfs, hget]
    rfl

/-- The extracted total is sound. -/
theorem figureSound_actualPlaced {node : Dict F}
    (hamount : (extractOdooContext (odooEvidence evidence)).hasAmount = true)
    (h : ActualPlaced (extractOdooContext (odooEvidence evidence)) node) :
    FigureSound (evidenceIds (odooEvidence evidence)) (expectedFigure evidence "actual_cost")
      "actual_cost" (.dict node) := by
  obtain ⟨⟨x, hx⟩, hmem⟩ := hasAmount_spec hamount
  obtain ⟨-, hvalue, hid⟩ := h
  rw [hx] at hvalue
  refine (figureSound_float hvalue fun v hv => ?_).mpr hx
  rw [attachedIds, if_neg (by decide), hid] at hv
  exact ⟨_, hmem, by simpa [Value.isNull] using hv⟩

/-- After two corrections the actual cost is sound just if the draft's is. An object in the draft is
corrected twice, and anything else is left alone twice. -/
theorem actual_enforced_twice
    (h : enforceFinancialSnapshot (extractOdooContext (odooEvidence evidence))
      (evidenceIds evidence) fs = .ok fs')
    (h' : enforceFinancialSnapshot (extractOdooContext (odooEvidence evidence))
      (evidenceIds evidence) fs' = .ok fs'') :
    FigureSound (evidenceIds (odooEvidence evidence)) (expectedFigure evidence "actual_cost")
        "actual_cost" (fs''.get "actual_cost") ↔ DraftActualSound evidence fs := by
  obtain ⟨-, -, hfirst⟩ := enforceFinancialSnapshot_cases h
  obtain ⟨-, -, hsecond⟩ := enforceFinancialSnapshot_cases h'
  unfold DraftActualSound
  rcases hfirst with ⟨node, node', hnode, hpass, hget⟩ | ⟨hnone, hget⟩
  -- an object in the draft is corrected twice; anything else is left twice
  · rw [hnode]
    have hnode' : fs'.dict? "actual_cost" = some node' := Dict.dict?_eq_some.mpr hget
    rcases hsecond with ⟨actual, node'', hactual, hpass', hget'⟩ | ⟨hnone', -⟩
    · rw [hnode'] at hactual
      cases hactual
      rw [Dict.get_of_get? hget']
      cases hamount : (extractOdooContext (odooEvidence evidence)).hasAmount with
      | true =>
        have hmem := (hasAmount_spec hamount).2
        have hplaced := enforceActual_placed hamount (mem_evidenceIds_of_odoo hmem) hpass'
        exact iff_of_true (figureSound_actualPlaced hamount hplaced) (.inl rfl)
      | false =>
        have htotal : expectedFigure evidence "actual_cost" = none :=
          totalAmount_eq_none hamount
        rw [htotal, figureSound_notNumber]
        rcases enforceActual_twice hamount hpass hpass' with ⟨hin, hvalue⟩ | ⟨hout, hnull⟩
        · rw [hvalue]
          simp [hin]
        · rw [hnull]
          refine iff_of_true (fun n hn => by cases hn) (.inr (.inr hout))
    · rw [hnode'] at hnone'
      cases hnone'
  · rw [hnone]
    have hnone' : fs'.dict? "actual_cost" = none := by rw [Dict.dict?, hget, ← Dict.dict?, hnone]
    rcases hsecond with ⟨actual, -, hactual, -⟩ | ⟨-, hget'⟩
    · rw [hnone'] at hactual
      cases hactual
    · rw [Dict.get, Dict.getD, hget', hget]
      rfl

/-- After two corrections the figures left alone are sound just if they are in the draft. -/
theorem leftoversSound_enforced_twice
    (h : enforceFinancialSnapshot (extractOdooContext (odooEvidence evidence))
      (evidenceIds evidence) fs = .ok fs')
    (h' : enforceFinancialSnapshot (extractOdooContext (odooEvidence evidence))
      (evidenceIds evidence) fs' = .ok fs'') :
    LeftoversSound evidence fs'' ↔ DraftSound evidence fs := by
  obtain ⟨hkept, hobject⟩ := enforce_kept h
  obtain ⟨hkept', hobject'⟩ := enforce_kept h'
  have hunbacked : UnbackedSound evidence fs'' ↔ UnbackedSound evidence fs :=
    unbackedSound_congr (fun k hk => (hkept' k hk).trans (hkept k hk)) (hobject'.trans hobject)
  have hbudget := (budget_enforced h').trans (budget_kept h)
  have hactual := actual_enforced_twice h h'
  constructor
  · intro hs
    exact ⟨hunbacked.mp hs.toUnbackedSound, hbudget.mp hs.budget, hactual.mp hs.actual⟩
  · intro hs
    exact ⟨hunbacked.mpr hs.toUnbackedSound, hbudget.mpr hs.budget, hactual.mpr hs.actual⟩

end Enforced

/-! ### The evidence-built report -/

section Built

variable {state : DecisionState F}

/-- What the extraction backs depends on the Odoo items alone. -/
theorem backedFigures_eq (evidence : List (Evidence F)) :
    backedFigures (extractOdooContext (odooEvidence evidence)) (odooEvidence evidence)
        (evidenceIds evidence) =
      [("contract_value", (extractOdooContext (odooEvidence evidence)).contractValue.filter
          fun p => !Floats.isZero p.1),
        ("estimate", (extractOdooContext (odooEvidence evidence)).estimate.filter
          fun p => !Floats.isZero p.1),
        ("committed_cost", sumOdooCategory (odooEvidence evidence) committedCategories
          committedAmountFields none),
        ("payroll_cost", (extractOdooContext (odooEvidence evidence)).payrollCost),
        ("expense_cost", (extractOdooContext (odooEvidence evidence)).expenseCost)] := by
  rw [backedFigures, backedNonzero_estimate, committedCost_odooEvidence, backed_payrollCost,
    backed_expenseCost, backedNonzero_of_mem fun _ _ h =>
      mem_evidenceIds_of_odoo (contractValue_mem h)]

/-- The builder's pack backs the same figures. -/
theorem backedFigures_builderEvidence :
    backedFigures (extractOdooContext (odooEvidence state.evidence)) (odooEvidence state.evidence)
        (evidenceIds (builderEvidence state)) =
      backedFigures (extractOdooContext (odooEvidence state.evidence))
        (odooEvidence state.evidence) (evidenceIds state.evidence) := by
  have hbuilder := backedFigures_eq (builderEvidence state)
  rw [odooEvidence_builderEvidence] at hbuilder
  rw [hbuilder, backedFigures_eq]

omit [Text] in
/-- Without an actual cost there is no more to sum up than with it. -/
theorem packFigures_total_none {ctx : OdooContext F} (withActual : Bool)
    (h : (packFigures ctx true).total = none) : (packFigures ctx withActual).total = none := by
  cases withActual with
  | true => exact h
  | false =>
    have hnil := List.head?_eq_none_iff.mp (Option.map_eq_none_iff.mp h)
    simp only [BaseFigures.incurred, List.append_eq_nil_iff] at hnil
    have hempty : (packFigures ctx false).incurred = [] := by
      simp only [BaseFigures.incurred, List.append_eq_nil_iff]
      exact ⟨⟨rfl, hnil.1.2⟩, hnil.2⟩
    rw [BaseFigures.total, hempty]
    rfl

omit [Text] in
/-- Nor is there a variance without an actual cost if there is none with it. Without it there is no
more to compare the estimate with. -/
theorem packFigures_variance_none {ctx : OdooContext F} (withActual : Bool)
    (h : (packFigures ctx true).variance = none) :
    (packFigures ctx withActual).variance = none := by
  cases withActual with
  | true => exact h
  | false =>
    cases hactual : (packFigures ctx true).actual with
    | none =>
      have hsame : packFigures ctx false = packFigures ctx true := by
        rw [packFigures, packFigures, BaseFigures.mk.injEq]
        exact ⟨rfl, hactual.symm, rfl, rfl⟩
      rw [hsame, h]
    | some p =>
      -- something is spent, so it is the estimate that is missing
      have hspent : (packFigures ctx true).spent.1 ≠ none := by
        unfold BaseFigures.spent
        split
        · simp [BaseFigures.total, BaseFigures.incurred, hactual]
        · simp [hactual]
      have hestimate : (packFigures ctx true).estimate = none := by
        by_contra hsome
        obtain ⟨e, he⟩ := Option.ne_none_iff_exists'.mp hsome
        obtain ⟨s, hs⟩ := Option.ne_none_iff_exists'.mp hspent
        rw [BaseFigures.variance, he, Option.bind_some, hs, Option.map_some] at h
        cases h
      rw [BaseFigures.variance, show (packFigures ctx false).estimate = none from hestimate]
      rfl

omit [Floats F] [Text] in
/-- What the builder puts in for the actual cost is the extraction's or has no value. -/
theorem builderActual_cases (role : Option String) (ctx : OdooContext F) :
    builderActual role ctx = notAvailableNode ∨
      (ctx.hasAmount = true ∧ builderActual role ctx =
        [("value", amountValue ctx.totalAmount), ("currency", .str "AED"),
          ("evidence_id", .str (ctx.bestEvidenceId.getD "")), ("status", .str "available")]) := by
  unfold builderActual
  split
  · next e he =>
    split
    · next hcond =>
      refine .inr ⟨hcond.2.1, ?_⟩
      rw [he]
      rfl
    · exact .inl rfl
  · exact .inl rfl

/-- The builder starts without the figures that the extraction backs. -/
theorem builderSnapshot_lacks {role : Option String} {ctx : OdooContext F} {key : String}
    {p : Option (F × String)}
    (hmem : (key, p) ∈ backedFigures (extractOdooContext (odooEvidence state.evidence))
      (odooEvidence state.evidence) (evidenceIds state.evidence)) :
    (builderSnapshot role ctx).dict? key = none := by
  simp only [backedFigures, List.mem_cons, Prod.mk.injEq, List.not_mem_nil, or_false] at hmem
  rcases hmem with ⟨rfl, -⟩ | ⟨rfl, -⟩ | ⟨rfl, -⟩ | ⟨rfl, -⟩ | ⟨rfl, -⟩ <;> rfl

/-- The total and the variance of the evidence-built report come from the figures of the pack, the
actual cost among them or not. -/
theorem builder_derived {fs : Dict F}
    (h : enforceCategoriesSnapshot (extractOdooContext (odooEvidence state.evidence))
        (odooEvidence state.evidence) (evidenceIds (builderEvidence state))
        (builderSnapshot state.role (extractOdooContext (odooEvidence state.evidence))) = .ok fs) :
    ∃ withActual, fs.get? "total_incurred" = some (.dict (placedNode
        (builderSnapshot state.role (extractOdooContext (odooEvidence state.evidence)))
        "total_incurred"
        (packFigures (extractOdooContext (odooEvidence state.evidence)) withActual).total)) ∧
      ∃ node : Dict F, fs.get? "variance" = some (.dict node) ∧
        match (packFigures (extractOdooContext (odooEvidence state.evidence)) withActual).variance
        with
        | some (x, ids) => node.get "value" = .float x ∧
            node.get "evidence_ids" = .list (ids.map .str)
        | none => node = emptyVariance := by
  set ctx := extractOdooContext (odooEvidence state.evidence) with hctx
  set draft := builderSnapshot state.role ctx with hdraft
  have hodoo := odooEvidence_builderEvidence state
  obtain ⟨totalled, htotal, hvariance, -, hgetTotal⟩ := enforceCategoriesSnapshot_cases h
  -- the actual cost is shown as the extraction has it, or not at all
  obtain ⟨withActual, hshows⟩ : ∃ withActual, Shows (placeFigures ctx (odooEvidence state.evidence)
      (evidenceIds (builderEvidence state)) draft) "actual_cost"
        (packFigures ctx withActual).actual := by
    have hnode : (placeFigures ctx (odooEvidence state.evidence)
        (evidenceIds (builderEvidence state)) draft).dict? "actual_cost" =
          some (builderActual state.role ctx) := by
      rw [Dict.dict?, get?_placeFigures]
      rfl
    rcases builderActual_cases state.role ctx with hnone | ⟨hamount, hsome⟩
    · refine ⟨false, ?_⟩
      rw [Shows, availableFigure, hnode, hnone]
      rfl
    · obtain ⟨⟨x, hx⟩, -⟩ := @hasAmount_spec _ _ _ (odooEvidence state.evidence) hamount
      refine ⟨true, ?_⟩
      rw [Shows, availableFigure, hnode, hsome, show ctx.totalAmount = some x from hx]
      simp [packFigures, show ctx.totalAmount = some x from hx]
      exact ⟨⟨rfl, rfl⟩, rfl, rfl⟩
  have htotal' : placeTotalIncurred (filledSnapshot (builderEvidence state) draft) =
      .ok totalled := by
    rw [filledSnapshot, hodoo]
    exact htotal
  have hshows' : ∀ parts, incurredParts (filledSnapshot (builderEvidence state) draft) = .ok parts →
      Shows (filledSnapshot (builderEvidence state) draft) "actual_cost"
        (packFigures (extractOdooContext (odooEvidence (builderEvidence state)))
          withActual).actual := by
    intro _ _
    rw [filledSnapshot, hodoo]
    exact hshows
  obtain ⟨htotalled, node, hnode, hcases⟩ := derived_of_shows hshows' (fun key hmem => by
      rw [hodoo, backedFigures_builderEvidence] at hmem
      rw [keptFigure, builderSnapshot_lacks hmem]
      intro n hn
      cases hn) htotal' hvariance
  rw [hodoo] at htotalled hcases
  exact ⟨withActual, hgetTotal.trans htotalled, node, hnode, hcases⟩

/-- The figures the categories pass leaves alone in the evidence-built report are sound. The builder
has put an empty node there. -/
theorem unbackedSound_builder {fs : Dict F}
    (h : enforceCategoriesSnapshot (extractOdooContext (odooEvidence state.evidence))
        (odooEvidence state.evidence) (evidenceIds (builderEvidence state))
        (builderSnapshot state.role (extractOdooContext (odooEvidence state.evidence))) = .ok fs) :
    UnbackedSound state.evidence fs := by
  obtain ⟨withActual, htotal, node, hnode, hcases⟩ := builder_derived h
  obtain ⟨-, -, -, hget, -⟩ := enforceCategoriesSnapshot_cases h
  have hobject : (fs.dict? "actual_cost").isSome = true := by
    rw [Dict.dict?, hget "actual_cost" (by simp)]
    rfl
  have hempty {key : String} {expected : Option F} (hnone : fs.get? key = some (.dict (placedNode
      (builderSnapshot state.role (extractOdooContext (odooEvidence state.evidence))) key none)))
      (hlacks : (builderSnapshot state.role
        (extractOdooContext (odooEvidence state.evidence))).dict? key = none) :
      FigureSound (evidenceIds (odooEvidence state.evidence)) expected key (keptFigure fs key) := by
    rw [keptFigure, Dict.dict?_eq_some.mpr hnone, placedNode, hlacks]
    exact FigureSound.of_null rfl
  refine ⟨fun key hmem => ?_, ?_, ?_⟩
  · have hlookup := (lookup_of_mem_backed hmem).2.2
    have hfigure := hget key (lookup_of_mem_backed hmem).2.1
    rw [backedFigures_builderEvidence, hlookup] at hfigure
    exact hempty hfigure (builderSnapshot_lacks hmem)
  · refine totalSound_of_object hobject fun hnone => ?_
    rw [packFigures_total_none withActual hnone] at htotal
    exact hempty htotal rfl
  · refine varianceSound_of_object hobject fun hnone => ?_
    rw [packFigures_variance_none withActual hnone] at hcases
    rw [keptFigure, Dict.dict?_eq_some.mpr hnode, hcases]
    exact FigureSound.of_null rfl

/-- After the corrections all figures left alone in the evidence-built report are sound. The budget
has no value, and the actual cost is that of the pack. -/
theorem leftoversSound_builder {fs fs' : Dict F}
    (h : enforceCategoriesSnapshot (extractOdooContext (odooEvidence state.evidence))
        (odooEvidence state.evidence) (evidenceIds (builderEvidence state))
        (builderSnapshot state.role (extractOdooContext (odooEvidence state.evidence))) = .ok fs)
    (h' : enforceFinancialSnapshot (extractOdooContext (odooEvidence state.evidence))
      (evidenceIds state.evidence) fs = .ok fs') : LeftoversSound state.evidence fs' := by
  obtain ⟨hkept, hobject⟩ := enforce_kept h'
  obtain ⟨-, -, -, hget, -⟩ := enforceCategoriesSnapshot_cases h
  have hunbacked := (unbackedSound_congr hkept hobject).mpr (unbackedSound_builder h)
  have hbudget : fs.dict? "budget" = some notAvailableNode := by
    rw [Dict.dict?, hget "budget" (by simp)]
    rfl
  have hactual : fs.dict? "actual_cost" = some (builderActual state.role
      (extractOdooContext (odooEvidence state.evidence))) := by
    rw [Dict.dict?, hget "actual_cost" (by simp)]
    rfl
  refine ⟨hunbacked, (budget_enforced h').mpr fun hnone => ?_, ?_⟩
  · rw [hbudget] at hnone
    cases hnone
  · obtain ⟨-, -, hcases⟩ := enforceFinancialSnapshot_cases h'
    rcases hcases with ⟨node, node', hnode, hpass, hnode'⟩ | ⟨hnone, -⟩
    · rw [Dict.get_of_get? hnode']
      cases hamount : (extractOdooContext (odooEvidence state.evidence)).hasAmount with
      | true =>
        exact figureSound_actualPlaced hamount (enforceActual_placed hamount
          (mem_evidenceIds_of_odoo (hasAmount_spec hamount).2) hpass)
      | false =>
        -- nothing to place: the node the builder started with has no value
        rw [hactual] at hnode
        cases hnode
        rcases builderActual_cases state.role
          (extractOdooContext (odooEvidence state.evidence)) with hempty | ⟨hsome, -⟩
        · rw [hempty] at hpass
          rcases enforceActual_kept hamount hpass with ⟨-, hvalue, -⟩ | ⟨-, hnull, -⟩
          · exact FigureSound.of_null (hvalue.trans rfl)
          · exact FigureSound.of_null hnull
        · rw [hamount] at hsome
          cases hsome
    · rw [hactual] at hnone
      cases hnone

end Built

/-! ### The run -/

section Run

variable {evidence : List (Evidence F)}

/-- A note does not matter. -/
theorem snapshotSound_of_note {fs fs' : Dict F} (h : Dict.Frame ["note"] fs fs') :
    SnapshotSound evidence fs' ↔ SnapshotSound evidence fs := by
  refine forall₂_congr fun key hkey => ?_
  have hnote : key ∉ ["note"] := by
    rintro hmem
    rw [List.mem_singleton.mp hmem] at hkey
    simp [figureKeys] at hkey
  rw [h.get_eq hnote]

/-- A snapshot without figures is sound. -/
theorem snapshotSound_empty : SnapshotSound evidence emptySnapshot := by
  intro key hkey
  simp only [figureKeys, List.mem_cons, List.not_mem_nil, or_false] at hkey
  rcases hkey with rfl | rfl | rfl | rfl | rfl | rfl | rfl | rfl | rfl <;>
    intro n hn <;> cases hn

/-- The snapshot of a report drawn up for a candidate is sound just if the candidate is not taken or
its figures are sound. -/
theorem nonFabricated_draftReport_iff {state : DecisionState F} {pid : ProjectIdentity}
    {candidate : Option (Dict F)} {report : Dict F}
    (h : draftReport state pid candidate = .ok report) :
    NonFabricated state.evidence report ↔ ∀ draft fs, candidate = some draft →
      AcceptedSnapshot state.evidence draft fs → DraftSound state.evidence fs := by
  obtain ⟨base, fs, fs₁, fs₂, fs₃, hbase, hfs, hpass₁, hpass₂, hfs₃, hnote⟩ :=
    draftReport_snapshot h
  have hreport : NonFabricated state.evidence report ↔ LeftoversSound state.evidence fs₁ := by
    rw [NonFabricated, hfs₃, ← snapshotSound_iff (actualEnforced_of_enforce hpass₁) hpass₂,
      ← snapshotSound_of_note hnote]
    constructor
    · rintro ⟨fs', hfs', hsound⟩
      cases hfs'
      exact hsound
    · intro hsound
      exact ⟨fs₃, rfl, hsound⟩
  rw [hreport]
  -- without an accepted draft the report is built from the evidence
  have hbuilt (hbuilt : buildReportFromEvidence state pid = .ok base) :
      LeftoversSound state.evidence fs₁ := by
    obtain ⟨fs', hplaced, hfs'⟩ := buildReportFromEvidence_snapshot hbuilt
    rw [hfs'] at hfs
    cases hfs
    exact leftoversSound_builder hplaced hpass₁
  cases candidate with
  | none =>
    refine iff_of_true (hbuilt hbase) fun draft fs hdraft => ?_
    cases hdraft
  | some d =>
    obtain ⟨accepted, haccepted, hbase⟩ := bind_eq_ok.mp hbase
    cases accepted with
    | none =>
      refine iff_of_true (hbuilt hbase) ?_
      rintro draft fs hdraft ⟨⟨r, hr⟩, -⟩
      cases hdraft
      rw [haccepted] at hr
      cases hr
    | some r =>
      cases hbase
      obtain ⟨normal, fs₀, fs', hnormal, hfs₀, hpass, hfs', -⟩ := acceptDraft_cases haccepted
      rw [hfs] at hfs'
      cases hfs'
      rw [leftoversSound_enforced_twice hpass hpass₁]
      constructor
      · rintro hsound draft fs' hdraft ⟨-, normal', hnormal', hfs'⟩
        cases hdraft
        rw [hnormal] at hnormal'
        cases hnormal'
        rw [hfs₀] at hfs'
        cases hfs'
        exact hsound
      · intro hsound
        exact hsound d fs₀ rfl ⟨⟨base, haccepted⟩, normal, hnormal, hfs₀⟩

/-- After node 12 the numbers of the snapshot are those of the extraction exactly when the answer is
the availability report, no draft of the LLM is taken, or the figures its draft has in places that
no pass overwrites are sound. Everything else in the snapshot is written by the passes, whatever the
draft says. -/
theorem nonFabricated_draftRun_iff {mapping : ProjectMapping} {replies : DraftReplies F}
    {state state' : DecisionState F} (h : draftRun mapping replies state = .ok state') :
    (∃ report, state'.reportJson = some report ∧ NonFabricated state.evidence report) ↔
      (salaryPath state = true ∨ ∀ draft fs, replies.candidate = some draft →
        AcceptedSnapshot state.evidence draft fs → DraftSound state.evidence fs) := by
  rcases draftRun_cases h with ⟨hsalary, -, hjson⟩ | ⟨hsalary, -, report, hreport, hjson⟩
  · refine iff_of_true ⟨_, hjson, emptySnapshot, ?_, snapshotSound_empty⟩ (.inl hsalary)
    simp [buildSalaryAvailabilityReport, Dict.dict?, Dict.get?]
  · have hiff : NonFabricated state.evidence report ↔ _ := nonFabricated_draftReport_iff hreport
    simp only [hjson, hsalary, Option.some_inj, exists_eq_left', Bool.false_eq_true, false_or]
    exact hiff

/-- With an amount in the pack, a draft whose only figure is an actual cost is sound. The correction
overwrites it. -/
theorem draftSound_actualOnly {node : Dict F}
    (hamount : (extractOdooContext (odooEvidence evidence)).hasAmount = true) :
    DraftSound evidence [("actual_cost", .dict node)] := by
  have habsent {key : String} (hkey : "actual_cost" ≠ key) :
      Dict.get? [("actual_cost", .dict node)] key = none := by simp [Dict.get?, hkey]
  have hkept {key : String} (hkey : "actual_cost" ≠ key) :
      FigureSound (evidenceIds (odooEvidence evidence)) (expectedFigure evidence key) key
        (keptFigure [("actual_cost", .dict node)] key) := by
    rw [keptFigure, Dict.dict?, habsent hkey]
    intro n hn
    cases hn
  have hunbacked : UnbackedSound evidence [("actual_cost", .dict node)] :=
    { unbacked := by
        intro key hmem
        have hkey : "actual_cost" ≠ key := by
          rintro rfl
          simp [backedFigures] at hmem
        exact hkept hkey
      total := totalSound_of_object rfl fun _ => hkept (by decide)
      variance := varianceSound_of_object rfl fun _ => hkept (by decide) }
  have hbudget : NotNumber (Dict.get [("actual_cost", .dict node)] "budget") := by
    intro n hn
    rw [Dict.get, Dict.getD, habsent (by decide)] at hn
    cases hn
  exact { toUnbackedSound := hunbacked, budget := fun _ => hbudget, actual := .inl hamount }

omit [Text] in
/-- The value the snapshot of a report shows for a figure. -/
def shownValue (report : Dict F) (key : String) : Value F :=
  ((((report.dict? "financial_snapshot").getD []).dict? key).getD []).get "value"

/-- A number shown is one the extraction expects. -/
theorem expected_of_shownValue {report : Dict F} (h : NonFabricated evidence report) {key : String}
    (hkey : key ∈ figureKeys) {n : Num F} (hn : (shownValue report key).toNum = .ok n) :
    ∃ x, expectedFigure evidence key = some x ∧ EqualsFloat n x := by
  obtain ⟨fs, hfs, hsound⟩ := h
  have hfigure := hsound key hkey
  rw [shownValue, hfs, Option.getD_some] at hn
  cases hnode : fs.dict? key with
  | none =>
    rw [hnode] at hn
    cases hn
  | some node =>
    rw [hnode, Option.getD_some] at hn
    rw [Dict.get_of_get? (Dict.dict?_eq_some.mp hnode)] at hfigure
    exact (hfigure n hn).1

end Run

end Drafts

section Whole

open Py.Whole

/-- A status query over a pack of evidence. -/
def statusState (evidence : List (Evidence ℤ)) : DecisionState ℤ :=
  { requestId := "r1", userId := "u1", query := "Status of the project", role := some "executive"
    projectCode := some "P1", allowedMailboxes := [], allowedOdooIds := [], evidence := evidence
    outputs := Outputs.empty, reportJson := none, loopCount := 0 }

/-- A snapshot with one figure, cited from the first posting. -/
def figureSnapshot (key : String) (amount : ℤ) : Dict ℤ :=
  [(key, .dict [("value", .int amount), ("currency", .str "AED"),
    ("evidence_id", .str "odoo-account-analytic-line-1"), ("status", .str "available")])]

/-- A report of the LLM with one cited claim and one figure. -/
def figureDraft (key : String) (amount : ℤ) : Dict ℤ :=
  [("executive_summary", .list [.dict [("text", .str "Concrete supply was posted."),
      ("evidence_ids", .list [.str "odoo-account-analytic-line-1"])]]),
    ("key_findings", .list []), ("root_causes", .list []), ("delay_analysis", .list []),
    ("contractual_implications", .list []), ("recommended_actions", .list []),
    ("financial_snapshot", .dict (figureSnapshot key amount))]

/-- One posting of 100. -/
def onePosting : List (Evidence ℤ) := [analyticLine "1" "Concrete supply" (-100)]

/-- Node 12 on one posting, when the LLM returns the report with the given figure. -/
def figureRun (key : String) (amount : ℤ) : Except Error (DecisionState ℤ) :=
  draftRun (fun _ => none) ⟨some (.dict (figureDraft key amount)), none, none⟩
    (statusState onePosting)

/-- An actual cost of the LLM's own gives way to the extracted total. -/
theorem nonFabricated_actualCostDraft :
    ∃ state', figureRun "actual_cost" 999 = .ok state' ∧
      ∃ report, state'.reportJson = some report ∧ NonFabricated onePosting report := by
  obtain ⟨state', hrun⟩ : Completes (figureRun "actual_cost" 999) :=
    completes_of_isSome (by decide)
  refine ⟨state', hrun, (nonFabricated_draftRun_iff hrun).mpr (.inr ?_)⟩
  rintro draft fs hdraft ⟨-, normal, hnormal, hfs⟩
  have hcanonical : (normalizeFinancialSnapshot (figureDraft "actual_cost" 999)).toOption.bind
      (·.dict? "financial_snapshot") = some (figureSnapshot "actual_cost" 999) := rfl
  have hdraft' : figureDraft "actual_cost" 999 = draft := Option.some.inj hdraft
  rw [hdraft', hnormal] at hcanonical
  have hfs' : fs = figureSnapshot "actual_cost" 999 := Option.some.inj (hfs.symm.trans hcanonical)
  rw [hfs']
  exact draftSound_actualOnly (by decide)

/-- A contract value no Odoo item mentions survives. -/
theorem not_nonFabricated_contractValueDraft :
    ¬ ∀ (mapping : ProjectMapping) (replies : DraftReplies ℤ) (state state' : DecisionState ℤ),
      draftRun mapping replies state = .ok state' →
        ∃ report, state'.reportJson = some report ∧ NonFabricated state.evidence report := by
  intro h
  obtain ⟨state', hrun⟩ : Completes (figureRun "contract_value" 5000000) :=
    completes_of_isSome (by decide)
  obtain ⟨report, hreport, hsound⟩ := h _ _ _ _ hrun
  have hshown : ((figureRun "contract_value" 5000000).toOption.bind (·.reportJson)).map
      (shownValue · "contract_value") = some (.int 5000000) := rfl
  rw [hrun] at hshown
  have hvalue : shownValue report "contract_value" = .int 5000000 := by
    simpa [Except.toOption, hreport] using hshown
  obtain ⟨x, hx, -⟩ := expected_of_shownValue hsound
    (show "contract_value" ∈ figureKeys by simp [figureKeys]) (by rw [hvalue]; rfl)
  cases hx

end Whole

end DecisionCenter
