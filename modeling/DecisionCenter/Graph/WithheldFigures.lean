import DecisionCenter.Graph.CitedFigures
import DecisionCenter.Graph.QualityGate

/-!
# Snapshots without figures

A pack without Odoo items backs no figure: the categories pass leaves every figure of the
snapshot as available as it was. So the report shows no figure just if the draft of the LLM,
where one is taken, has none that survives the corrections of budget and actual cost.

`NoFigure` says of a snapshot that none of its figures is available, and of the variance, which
has no status, that it has no value. This is what a reader of the report sees; a figure may
still stand there as an object that is empty.

Each pass is gone through once. Filling the figures and placing the total write only what the
pack backs, and it backs nothing; the variance is computed from figures that are available, and
there are none. So `NoFigure` holds behind the categories pass just if it held before
(`noFigure_categories_iff`). The corrections of budget and actual cost take figures away and add
none (`NoFigure.enforce`).

The evidence-built report starts without figures, and the salary answer has none. What remains
is a draft that is accepted, and `DraftWithholds` asks this of it: once budget and actual cost
are corrected, it shows no figure. `reportsNoFigure_draftRun_iff` is exact for node 12, and the
gate that follows leaves pack and figures as they are.
-/

namespace DecisionCenter

open Py

section Withheld

variable {F : Type} [Floats F]

/-- The keys of the figures that carry a status. -/
def statusKeys : List String := finRows.map Prod.fst

private theorem statusKeys_cases {key : String} (h : key ∈ statusKeys) :
    key = "total_incurred" ∨ key ∉ ["total_incurred", "note", "variance"] := by
  simp only [statusKeys, finRows, List.map_cons, List.map_nil, List.mem_cons, List.not_mem_nil,
    or_false] at h
  rcases h with rfl | rfl | rfl | rfl | rfl | rfl | rfl | rfl <;> first | exact .inl rfl | simp

omit [Floats F] in
/-- No figure is available, and the variance, which has no status, has no value. -/
structure NoFigure (fs : Dict F) : Prop where
  figures : ∀ key ∈ statusKeys, availableFigure fs key = none
  variance : valued (fs.get "variance") = none

omit [Floats F] in
/-- The report has no figure in its snapshot. -/
def ReportsNoFigure (report : Dict F) : Prop :=
  ∀ fs, report.dict? "financial_snapshot" = some fs → NoFigure fs

variable [Text] {evidence : List (Evidence F)} {fs fs' : Dict F}

/-! ### The passes -/

/-- Nothing is backed without Odoo items. -/
theorem not_backed (hodoo : odooEvidence evidence = []) {ids : List String} {key : String}
    {p : Option (F × String)}
    (h : (backedFigures (extractOdooContext (odooEvidence evidence)) (odooEvidence evidence)
      ids).lookup key = some p) : p = none := by
  have hmem : (key, p) ∈ backedFigures (extractOdooContext (odooEvidence evidence))
      (odooEvidence evidence) ids := by
    obtain ⟨l₁, l₂, heq, -⟩ := List.lookup_eq_some_iff.mp h
    rw [heq]
    simp
  rw [hodoo] at hmem
  simp only [backedFigures, List.mem_cons, Prod.mk.injEq, List.not_mem_nil, or_false] at hmem
  rcases hmem with ⟨-, rfl⟩ | ⟨-, rfl⟩ | ⟨-, rfl⟩ | ⟨-, rfl⟩ | ⟨-, rfl⟩ <;> rfl

omit [Floats F] [Text] in
/-- An object that is not available takes the place of anything but an object. -/
theorem availableFigure_getD {key : String} {empty : Dict F}
    (hempty : empty.get "value" = .null)
    (h : fs'.get? key = some (.dict ((fs.dict? key).getD empty))) :
    availableFigure fs' key = availableFigure fs key := by
  rw [availableFigure, availableFigure, Dict.dict?_eq_some.mpr h]
  cases fs.dict? key with
  | some node => rfl
  | none =>
    rw [Option.getD_none, Option.filter_some, hempty]
    simp [Value.isNull]

/-- Filling the snapshot makes no figure available. -/
theorem availableFigure_filled (hodoo : odooEvidence evidence = []) (ids : List String)
    (fs : Dict F) (key : String) :
    availableFigure (placeFigures (extractOdooContext (odooEvidence evidence))
      (odooEvidence evidence) ids fs) key = availableFigure fs key := by
  have hget := get?_placeFigures (extractOdooContext (odooEvidence evidence))
    (odooEvidence evidence) ids fs key
  cases hlookup : (backedFigures (extractOdooContext (odooEvidence evidence))
      (odooEvidence evidence) ids).lookup key with
  | none =>
    rw [hlookup] at hget
    exact availableFigure_congr hget
  | some p =>
    obtain rfl := not_backed hodoo hlookup
    rw [hlookup] at hget
    exact availableFigure_getD rfl hget

/-- The categories pass shows a figure only where there was one. Without Odoo items it places none,
and what it computes it computes from figures. -/
theorem noFigure_categories_iff (hodoo : odooEvidence evidence = []) {ids : List String}
    (h : enforceCategoriesSnapshot (extractOdooContext (odooEvidence evidence))
      (odooEvidence evidence) ids fs = .ok fs') : NoFigure fs' ↔ NoFigure fs := by
  obtain ⟨totalled, htotal, hvariance⟩ := bind_eq_ok.mp h
  obtain ⟨-, -, hframe, -⟩ := placeTotalIncurred_cases htotal
  obtain ⟨hframe', hcases⟩ := placeVariance_cases hvariance
  have hfilled (key : String) := availableFigure_filled hodoo ids fs key
  have hsame {key : String} (hkey : key ∉ ["total_incurred", "note", "variance"]) :
      availableFigure fs' key = availableFigure fs key := by
    rw [← hfilled key]
    refine availableFigure_congr ?_
    rw [hframe' key (by simp_all), hframe key (by simp_all)]
  -- The derived figures are the draft's, once there is none they could be derived from.
  have hderived (hincurred : ∀ key ∈ incurredKeys, availableFigure fs key = none)
      (hestimate : availableFigure fs "estimate" = none) :
      availableFigure fs' "total_incurred" = availableFigure fs "total_incurred" ∧
        valued (fs'.get "variance") = valued (fs.get "variance") := by
    have hparts : incurredKeys.filterMap (availableFigure (placeFigures
        (extractOdooContext (odooEvidence evidence)) (odooEvidence evidence) ids fs)) = [] :=
      List.filterMap_eq_nil_iff.mpr fun key hkey => (hfilled key).trans (hincurred key hkey)
    constructor
    · rw [← hfilled, availableFigure_congr (hframe' _ (by decide))]
      exact availableFigure_getD rfl (get?_total_of_no_parts htotal hparts)
    · rcases hcases with ⟨-, hget⟩ | ⟨-, -, -, -, hcomputed, -⟩
      · rw [Dict.get_of_get? hget, valued_getD rfl, get_congr (hframe _ (by decide)),
          Dict.get, Dict.getD, get?_placeFigures]
        rfl
      · obtain ⟨⟨node, hnode, -⟩, -⟩ := (varianceComputable_totalled htotal).mp hcomputed
        rw [hfilled, hestimate] at hnode
        cases hnode
  constructor
  · intro hnone
    have hkept {key : String} (hkey : key ∈ statusKeys)
        (hbase : key ∉ ["total_incurred", "note", "variance"]) : availableFigure fs key = none :=
      (hsame hbase).symm.trans (hnone.figures key hkey)
    have hincurred : ∀ key ∈ incurredKeys, availableFigure fs key = none := by
      intro key hkey
      simp only [incurredKeys, List.mem_cons, List.not_mem_nil, or_false] at hkey
      rcases hkey with rfl | rfl | rfl <;> exact hkept (by decide) (by decide)
    obtain ⟨htotal', hvariance'⟩ := hderived hincurred (hkept (by decide) (by decide))
    refine ⟨fun key hkey => ?_, hvariance' ▸ hnone.variance⟩
    rcases statusKeys_cases hkey with rfl | hbase
    · exact htotal' ▸ hnone.figures _ hkey
    · exact hkept hkey hbase
  · intro hnone
    have hincurred : ∀ key ∈ incurredKeys, availableFigure fs key = none := by
      intro key hkey
      simp only [incurredKeys, List.mem_cons, List.not_mem_nil, or_false] at hkey
      rcases hkey with rfl | rfl | rfl <;> exact hnone.figures _ (by decide)
    obtain ⟨htotal', hvariance'⟩ := hderived hincurred (hnone.figures _ (by decide))
    refine ⟨fun key hkey => ?_, hvariance'.trans hnone.variance⟩
    rcases statusKeys_cases hkey with rfl | hbase
    · exact htotal'.trans (hnone.figures _ hkey)
    · exact (hsame hbase).trans (hnone.figures _ hkey)

private theorem hasAmount_eq_false (hodoo : odooEvidence evidence = []) :
    (extractOdooContext (odooEvidence evidence)).hasAmount = false := by
  rw [hodoo]
  rfl

/-- The corrections of budget and actual cost show no figure of their own. The actual cost is placed
only with an amount in the pack. -/
theorem NoFigure.enforce (hnone : NoFigure fs) (hodoo : odooEvidence evidence = [])
    {ids : List String}
    (h : enforceFinancialSnapshot (extractOdooContext (odooEvidence evidence)) ids fs = .ok fs') :
    NoFigure fs' := by
  obtain ⟨hframe, ⟨hbudget, -⟩, hactual⟩ := enforceFinancialSnapshot_cases h
  refine ⟨fun key hkey => ?_, ?_⟩
  · by_cases hbase : key ∈ ["budget", "actual_cost"]
    · simp only [List.mem_cons, List.not_mem_nil, or_false] at hbase
      rcases hbase with rfl | rfl
      · rw [availableFigure, hbudget, Option.filter_eq_none_iff]
        intro node hnode
        obtain ⟨budget, -, rfl⟩ := Option.map_eq_some_iff.mp hnode
        simp [enforceBudget, Dict.get_set, Dict.get_setdefault, Value.isNull]
      -- without Odoo items the correction keeps a withheld cost, or clears it
      · rcases hactual with ⟨actual, actual', hdict, hpass, hget⟩ | ⟨-, hget⟩
        · have hactualNone : availableFigure fs "actual_cost" = none := hnone.figures _ hkey
          rw [Option.eq_none_iff_forall_ne_some]
          intro node hnode
          obtain ⟨hnode', hstatus, hvalue⟩ := availableFigure_eq_some.mp hnode
          rw [Dict.dict?_eq_some, hget] at hnode'
          cases hnode'
          rcases enforceActual_kept (hasAmount_eq_false hodoo) hpass with
            ⟨-, hsame, hstatus', -⟩ | ⟨-, hnull, -⟩
          · rw [hstatus'] at hstatus
            rw [hsame] at hvalue
            rw [availableFigure_eq_some.mpr ⟨hdict, hstatus, hvalue⟩] at hactualNone
            cases hactualNone
          · exact hvalue hnull
        · exact (availableFigure_congr hget).trans (hnone.figures _ hkey)
    · exact (availableFigure_congr (hframe _ hbase)).trans (hnone.figures _ hkey)
  · rw [get_congr (hframe _ (by decide))]
    exact hnone.variance

variable {state : DecisionState F}

omit [Floats F] [Text] in
private theorem noFigure_empty : NoFigure (emptySnapshot : Dict F) := by
  refine ⟨fun key hkey => ?_, rfl⟩
  simp only [statusKeys, finRows, List.map_cons, List.map_nil, List.mem_cons, List.not_mem_nil,
    or_false] at hkey
  rcases hkey with rfl | rfl | rfl | rfl | rfl | rfl | rfl | rfl <;> rfl

/-- The evidence-built report starts without figures. -/
theorem noFigure_builderSnapshot (hodoo : odooEvidence evidence = []) (role : Option String) :
    NoFigure (builderSnapshot role (extractOdooContext (odooEvidence evidence))) := by
  have hactual : builderActual role (extractOdooContext (odooEvidence evidence)) =
      notAvailableNode := by
    rcases builderActual_cases role (extractOdooContext (odooEvidence evidence)) with
      hempty | ⟨hamount, -⟩
    · exact hempty
    · rw [hasAmount_eq_false hodoo] at hamount
      cases hamount
  rw [builderSnapshot, hactual]
  exact noFigure_empty

/-! ### The report -/

omit [Floats F] [Text] in
/-- A note is no figure. -/
theorem noFigure_of_note (h : Dict.Frame ["note"] fs fs') : NoFigure fs' ↔ NoFigure fs := by
  have hsame {key : String} (hkey : key ∈ statusKeys) :
      availableFigure fs' key = availableFigure fs key := by
    refine availableFigure_congr (h _ ?_)
    rcases statusKeys_cases hkey with rfl | hbase
    · decide
    · simp_all
  have hvariance : fs'.get "variance" = fs.get "variance" := get_congr (h _ (by decide))
  constructor
  · intro hnone
    exact ⟨fun key hkey => (hsame hkey).symm.trans (hnone.figures key hkey),
      hvariance ▸ hnone.variance⟩
  · intro hnone
    exact ⟨fun key hkey => (hsame hkey).trans (hnone.figures key hkey),
      hvariance ▸ hnone.variance⟩

omit [Floats F] [Text] in
private theorem reportsNoFigure_of_snapshot {report : Dict F}
    (h : report.dict? "financial_snapshot" = some fs) : ReportsNoFigure report ↔ NoFigure fs := by
  rw [ReportsNoFigure, h]
  exact ⟨fun hnone => hnone fs rfl, fun hnone fs' hfs' => Option.some.inj hfs' ▸ hnone⟩

/-- Drawn up from a pack without Odoo items, the report shows a figure just if the candidate is
taken and shows one once budget and actual cost are corrected. -/
theorem reportsNoFigure_draftReport_iff {pid : ProjectIdentity} {candidate : Option (Dict F)}
    {report : Dict F} (hodoo : odooEvidence state.evidence = [])
    (h : draftReport state pid candidate = .ok report) :
    ReportsNoFigure report ↔ ∀ draft corrected, candidate = some draft →
      CorrectedSnapshot state.evidence draft corrected → NoFigure corrected := by
  obtain ⟨base, fs₀, fs₁, fs₂, fs₃, hbase, hfs₀, hpass₁, hpass₂, hfs₃, hnote⟩ :=
    draftReport_snapshot h
  rw [reportsNoFigure_of_snapshot hfs₃, noFigure_of_note hnote,
    noFigure_categories_iff hodoo hpass₂]
  refine corrected_iff hbase hfs₀ hpass₁ fun hbuilt => ?_
  obtain ⟨fs', hplaced, hfs'⟩ := buildReportFromEvidence_snapshot hbuilt
  rw [hfs'] at hfs₀
  cases hfs₀
  exact ((noFigure_categories_iff hodoo hplaced).mpr
    (noFigure_builderSnapshot hodoo state.role)).enforce hodoo hpass₁

/-! ### The run -/

/-- Where the answer is not the availability report, a draft that is taken has no figure once budget
and actual cost are corrected. -/
def DraftWithholds (replies : DraftReplies F) (state : DecisionState F) : Prop :=
  salaryPath state = false → ∀ draft corrected, replies.candidate = some draft →
    CorrectedSnapshot state.evidence draft corrected → NoFigure corrected

/-- Node 12 shows no figure of a pack without Odoo items just if the draft withholds them. The
availability report and the evidence-built one have none to show. -/
theorem reportsNoFigure_draftRun_iff {mapping : ProjectMapping} {replies : DraftReplies F}
    {drafted : DecisionState F} (hodoo : odooEvidence state.evidence = [])
    (h : draftRun mapping replies state = .ok drafted) :
    (∀ report, drafted.reportJson = some report → ReportsNoFigure report) ↔
      DraftWithholds replies state := by
  rw [DraftWithholds]
  rcases draftRun_cases h with ⟨hsalary, -, hjson⟩ | ⟨hsalary, -, report, hreport, hjson⟩
  · refine iff_of_true ?_ fun hfalse => absurd (hsalary.symm.trans hfalse) (by decide)
    rintro report hreport
    obtain rfl := Option.some.inj (hjson.symm.trans hreport)
    have hsnapshot : (buildSalaryAvailabilityReport (typedState state)
        (draftIdentity mapping state)).dict? "financial_snapshot" = some emptySnapshot := by
      simp [buildSalaryAvailabilityReport, Dict.dict?, Dict.get?]
    exact (reportsNoFigure_of_snapshot hsnapshot).mpr noFigure_empty
  · have hiff : ReportsNoFigure report ↔ ∀ draft corrected, replies.candidate = some draft →
        CorrectedSnapshot state.evidence draft corrected → NoFigure corrected :=
      reportsNoFigure_draftReport_iff
        (show odooEvidence (typedState state).evidence = [] from hodoo)
        hreport
    simp only [hjson, Option.some_inj, forall_eq', hsalary, true_imp_iff]
    exact hiff

/-- The gate leaves the pack and the figures as they are. -/
theorem gateRun_frame {drafted gated : DecisionState F} (h : gateRun drafted = .ok gated) :
    gated.evidence = drafted.evidence ∧ ∀ report, gated.reportJson = some report →
      ∃ report', drafted.reportJson = some report' ∧
        report.dict? "financial_snapshot" = report'.dict? "financial_snapshot" := by
  obtain ⟨result, -, h⟩ := bind_eq_ok.mp h
  cases h
  refine ⟨rfl, fun report hreport => ?_⟩
  dsimp only at hreport
  split at hreport
  · exact ⟨report, hreport, rfl⟩
  · next hempty =>
    cases hreport
    cases hjson : drafted.reportJson with
    | none => exact absurd (by rw [hjson]; rfl) hempty
    | some report' =>
      refine ⟨report', rfl, ?_⟩
      simp [stampReport, Dict.dict?, Dict.get?_set]

end Withheld

end DecisionCenter
