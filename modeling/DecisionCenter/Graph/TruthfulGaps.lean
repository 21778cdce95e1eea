import DecisionCenter.Graph.MissingData
import DecisionCenter.Graph.SectionSpec
import DecisionCenter.Graph.SnapshotArithmetic
import DecisionCenter.Graph.Traceability

/-!
# Truthful gaps

Whether the entries on the actual cost and the variance say what the finished snapshot shows.
The pass goes by the extraction and never looks at the snapshot: an entry on the variance is
added also where a variance is computed, and one on the actual cost also where the draft's own
is kept.

`GapsTold` is about what a run of the passes adds: the report had some entries, behind them come
those that were added, each of them is true of the snapshot at the end, and a second application
adds nothing. An entry is true if the figure that it declares to be missing is not shown.

The entries are added before the figures are placed for good, so the proof needs what the later
passes make of them. `VarianceShown` and `CostComes` say in terms of the report that goes into
the corrections whether there will be a variance, or an actual cost, at the end; both come down
to what the pack backs and what the draft had (`varianceShown_iff`, `comparable_placed`).

Whether the second pass adds anything depends on the sections on delay alone, which a financial
report drops in between. `gapsTold_iff` is exact for node 12, and the availability report never
tells its gaps: it shows no variance and says nothing of it. The failing drafts have an estimate
in the pack, from which the variance is computed that an entry declares not to be calculable.
-/

namespace DecisionCenter

open Py

section Gaps

variable {F : Type} [Floats F] [Text]

/-! ### What is shown -/

omit [Text] in
/-- The variance has a value. -/
def VarianceShown (fs : Dict F) : Prop := (nodeOrEmpty fs "variance").get "value" ≠ .null

/-- The actual cost is available after the corrections: it is an object, which the extraction's
total replaces, or which says so itself and does not cite outside the pack. -/
def CostComes (evidence : List (Evidence F)) (fs : Dict F) : Prop :=
  ∃ node, fs.dict? "actual_cost" = some node ∧
    ((extractOdooContext (odooEvidence evidence)).hasAmount = true ∨
      node.get "status" = .str "available" ∧ node.get "value" ≠ .null ∧
        ¬ CitesOutside (evidenceIds evidence) node)

/-- A figure is available once the figures are placed: it is backed, or it was available before. -/
def FigureComes (evidence : List (Evidence F)) (p : Option (F × String)) (fs : Dict F)
    (key : String) : Prop :=
  (backed (evidenceIds evidence) p).isSome = true ∨ availableFigure fs key ≠ none

/-- The estimate is available once the figures are placed, and not zero. -/
def EstimateComes (evidence : List (Evidence F)) (fs : Dict F) : Prop :=
  (backedNonzero (evidenceIds evidence)
      (extractOdooContext (odooEvidence evidence)).estimate).isSome = true ∨
    ∃ node, availableFigure fs "estimate" = some node ∧ (node.get "value").truthy = true

/-- The variance has a value at the end: it is computed, from the estimate and the actual cost or
two categories of cost, or it had one before. -/
def VarianceComes (evidence : List (Evidence F)) (fs : Dict F) : Prop :=
  (EstimateComes evidence fs ∧ (CostComes evidence fs ∨
      FigureComes evidence (extractOdooContext (odooEvidence evidence)).payrollCost fs
          "payroll_cost" ∧
        FigureComes evidence (extractOdooContext (odooEvidence evidence)).expenseCost fs
          "expense_cost")) ∨
    VarianceShown fs

section Shown

variable {evidence : List (Evidence F)} {fs fs' : Dict F}

/-- The correction of the actual cost: it is available afterwards just if it comes, from the pack or
with a citation of its own. -/
theorem actual_available_enforce_iff
    (h : enforceFinancialSnapshot (extractOdooContext (odooEvidence evidence))
      (evidenceIds evidence) fs = .ok fs') :
    availableFigure fs' "actual_cost" ≠ none ↔ CostComes evidence fs := by
  obtain ⟨-, -, ⟨actual, actual', hactual, hpass, hget⟩ | ⟨hnone, hget⟩⟩ :=
    enforceFinancialSnapshot_cases h
  -- an object: placed from the pack, or kept with what it cites
  · have havailable : availableFigure fs' "actual_cost" ≠ none ↔
        actual'.get "status" = .str "available" ∧ actual'.get "value" ≠ .null := by
      rw [Option.ne_none_iff_exists']
      constructor
      · rintro ⟨node, hnode⟩
        obtain ⟨hdict, hnode⟩ := availableFigure_eq_some.mp hnode
        obtain rfl := Option.some.inj ((Dict.dict?_eq_some.mpr hget).symm.trans hdict)
        exact hnode
      · exact fun hnode =>
          ⟨actual', availableFigure_eq_some.mpr ⟨Dict.dict?_eq_some.mpr hget, hnode⟩⟩
    have hcomes : CostComes evidence fs ↔
        ((extractOdooContext (odooEvidence evidence)).hasAmount = true ∨
          actual.get "status" = .str "available" ∧ actual.get "value" ≠ .null ∧
            ¬ CitesOutside (evidenceIds evidence) actual) := by
      simp [CostComes, hactual]
    rw [havailable, hcomes]
    cases hamount : (extractOdooContext (odooEvidence evidence)).hasAmount with
    | true =>
      obtain ⟨x, hx⟩ := (hasAmount_spec hamount).1
      obtain ⟨hstatus, hvalue, -⟩ := enforceActual_placed hamount
        (mem_evidenceIds_of_odoo (hasAmount_spec hamount).2) hpass
      rw [hx] at hvalue
      exact iff_of_true ⟨hstatus, by rw [hvalue]; exact nofun⟩ (.inl rfl)
    | false =>
      rcases enforceActual_kept hamount hpass with ⟨hinside, hvalue, hstatus, -⟩ |
        ⟨houtside, hvalue, -⟩
      · rw [hvalue, hstatus]
        simp [hinside]
      · exact iff_of_false (fun hshown => hshown.2 hvalue) fun hcomes =>
          (hcomes.resolve_left nofun).2.2 houtside
  -- anything else stays, and is not available
  · have hsame : availableFigure fs' "actual_cost" = none := by
      rw [availableFigure_congr hget, availableFigure, hnone]
      rfl
    refine iff_of_false (fun hne => hne hsame) ?_
    rintro ⟨node, hnode, -⟩
    rw [hnone] at hnode
    cases hnode

/-- The corrections change no figure but budget and actual cost. -/
theorem available_enforce {key : String} (hkey : key ∉ ["budget", "actual_cost"])
    (h : enforceFinancialSnapshot (extractOdooContext (odooEvidence evidence))
      (evidenceIds evidence) fs = .ok fs') : availableFigure fs' key = availableFigure fs key := by
  obtain ⟨hframe, -⟩ := enforceFinancialSnapshot_cases h
  exact availableFigure_congr (hframe key hkey)

/-- After the figures are placed there are an estimate and a cost to compare it with, just under
these conditions. Two categories make a total also without an actual cost. -/
theorem comparable_placed : Comparable (filledSnapshot evidence fs) ↔
    EstimateComes evidence fs ∧ (availableFigure fs "actual_cost" ≠ none ∨
      FigureComes evidence (extractOdooContext (odooEvidence evidence)).payrollCost fs
          "payroll_cost" ∧
        FigureComes evidence (extractOdooContext (odooEvidence evidence)).expenseCost fs
          "expense_cost") := by
  set ctx := extractOdooContext (odooEvidence evidence) with hctx
  have hget := get?_placeFigures ctx (odooEvidence evidence) (evidenceIds evidence) fs
  have hfigure {key : String} {p : Option (F × String)}
      (hkey : (filledSnapshot evidence fs).get? key = some (.dict (placedNode fs key p))) :
      (availableFigure (filledSnapshot evidence fs) key).isSome =
        (p.isSome || (availableFigure fs key).isSome) := by
    rw [availableFigure_placed hkey, Option.isSome_or, Option.isSome_map]
  have hactual : availableFigure (filledSnapshot evidence fs) "actual_cost" =
      availableFigure fs "actual_cost" := availableFigure_congr (hget "actual_cost")
  have hpayroll := hfigure (hget "payroll_cost")
  have hexpense := hfigure (hget "expense_cost")
  -- more than one part of the total or an actual cost: of the three parts one is that cost
  have hcount : (1 < (incurredKeys.filterMap
      (availableFigure (filledSnapshot evidence fs))).length ∨
        availableFigure (filledSnapshot evidence fs) "actual_cost" ≠ none) ↔
      (availableFigure fs "actual_cost" ≠ none ∨
        FigureComes evidence ctx.payrollCost fs "payroll_cost" ∧
          FigureComes evidence ctx.expenseCost fs "expense_cost") := by
    simp only [FigureComes, ← Option.isSome_iff_ne_none, ← Bool.or_eq_true, ← hpayroll, ← hexpense,
      ← hactual, incurredKeys, List.filterMap_cons, List.filterMap_nil]
    cases availableFigure (filledSnapshot evidence fs) "actual_cost" <;>
      cases availableFigure (filledSnapshot evidence fs) "payroll_cost" <;>
      cases availableFigure (filledSnapshot evidence fs) "expense_cost" <;> simp
  have hestimate : (∃ node, availableFigure (filledSnapshot evidence fs) "estimate" = some node ∧
      (node.get "value").truthy = true) ↔ EstimateComes evidence fs := by
    have hplaced := availableFigure_placed (hget "estimate")
    rw [EstimateComes, ← hctx]
    cases hbacked : backedNonzero (evidenceIds evidence) ctx.estimate with
    | none =>
      rw [hbacked, Option.map_none, Option.none_or] at hplaced
      rw [filledSnapshot, hplaced]
      simp
    | some p =>
      obtain ⟨x, e⟩ := p
      rw [hbacked, Option.map_some, Option.some_or] at hplaced
      rw [filledSnapshot, hplaced]
      have hzero := (Option.filter_eq_some_iff.mp hbacked).2
      simp only [Bool.and_eq_true, Bool.not_eq_true'] at hzero
      simp [placedNode, availableNode, Dict.get_set, Value.truthy_float, hzero.1]
  rw [Comparable, hestimate, hcount]

/-- The variance has a value at the end just if it comes: computed, or left over from the draft. -/
theorem varianceShown_iff {fs₁ fs₂ : Dict F}
    (h₁ : enforceFinancialSnapshot (extractOdooContext (odooEvidence evidence))
      (evidenceIds evidence) fs = .ok fs₁)
    (h₂ : enforceCategoriesSnapshot (extractOdooContext (odooEvidence evidence))
      (odooEvidence evidence) (evidenceIds evidence) fs₁ = .ok fs₂) :
    VarianceShown fs₂ ↔ VarianceComes evidence fs := by
  obtain ⟨totalled, htotal, hvariance, -⟩ := enforceCategoriesSnapshot_cases h₂
  obtain ⟨hframe₁, -⟩ := enforceFinancialSnapshot_cases h₁
  obtain ⟨-, -, hframe₂, -⟩ := placeTotalIncurred_cases htotal
  -- the variance is computed from the snapshot after the first pass, placed and totalled
  have hcomparable : varianceComputable (nodeOrEmpty totalled "estimate") (spentNode totalled).1 =
      true ↔ EstimateComes evidence fs ∧ (CostComes evidence fs ∨
          FigureComes evidence (extractOdooContext (odooEvidence evidence)).payrollCost fs
              "payroll_cost" ∧
            FigureComes evidence (extractOdooContext (odooEvidence evidence)).expenseCost fs
              "expense_cost") := by
    have hplaced : Comparable (placeFigures (extractOdooContext (odooEvidence evidence))
      (odooEvidence evidence) (evidenceIds evidence) fs₁) ↔ _ := comparable_placed
    rw [varianceComputable_totalled htotal, hplaced, actual_available_enforce_iff h₁]
    simp only [EstimateComes, FigureComes,
      available_enforce (show "estimate" ∉ ["budget", "actual_cost"] by decide) h₁,
      available_enforce (show "payroll_cost" ∉ ["budget", "actual_cost"] by decide) h₁,
      available_enforce (show "expense_cost" ∉ ["budget", "actual_cost"] by decide) h₁]
  have hkept : nodeOrEmpty totalled "variance" = nodeOrEmpty fs "variance" := by
    rw [nodeOrEmpty, nodeOrEmpty, hframe₂.dict?_eq (by decide), Dict.dict?, get?_placeFigures,
      ← hframe₁.dict?_eq (by decide)]
    rfl
  obtain ⟨-, hcases⟩ := placeVariance_cases hvariance
  rw [VarianceComes, ← hcomparable]
  rcases hcases with ⟨hcomp, hnode⟩ | ⟨est, spent, diff, node, hcomp, -, -, -, hnode, hvalue, -⟩
  · rw [hcomp, or_iff_right Bool.false_ne_true, VarianceShown, VarianceShown, ← hkept, nodeOrEmpty,
      nodeOrEmpty, Dict.dict?_eq_some.mpr hnode]
    cases totalled.dict? "variance" <;> rfl
  · refine iff_of_true ?_ (.inl hcomp)
    rw [VarianceShown, nodeOrEmpty, Dict.dict?_eq_some.mpr hnode, Option.getD_some, hvalue]
    cases diff.round2 <;> rintro ⟨⟩

end Shown

/-! ### The entries -/

/-- An entry for the gap is added only if the figure is not shown, and if it is not, unless an entry
of the report mentions it. -/
structure ToldTruly (own : List (Value F)) (generated : List String) (g : Gap) (shown : Prop) :
    Prop where
  only : g.item ∈ generated → ¬ shown
  whenever : ¬ shown → g.item ∈ generated ∨ Mentions own g.words

/-- An entry is added and true, or not added, just if the report mentions the gap already or the
figure is shown exactly where the pass holds back. -/
private theorem toldTruly_iff {own : List (Value F)} {generated : List String} {g : Gap}
    {shown anyway : Prop} (h : g.item ∈ generated ↔ ¬ (Mentions own g.words ∨ anyway)) :
    ToldTruly own generated g shown ↔ Mentions own g.words ∨ (shown ↔ anyway) := by
  constructor
  · rintro ⟨honly, hwhenever⟩
    rw [h] at honly hwhenever
    by_cases hmentions : Mentions own g.words
    · exact .inl hmentions
    · refine .inr ⟨fun hshown => ?_, fun hanyway => ?_⟩
      · by_contra hnot
        exact honly (not_or.mpr ⟨hmentions, hnot⟩) hshown
      · by_contra hnot
        exact (hwhenever hnot).elim (fun hnone => hnone (.inr hanyway)) hmentions
  · rintro (hmentions | hiff)
    · exact ⟨fun hmem => absurd (.inl hmentions) (h.mp hmem), fun _ => .inr hmentions⟩
    · refine ⟨fun hmem hshown => h.mp hmem (.inr (hiff.mp hshown)), fun hnot => ?_⟩
      by_cases hmentions : Mentions own g.words
      · exact .inr hmentions
      · exact .inl (h.mpr (not_or.mpr ⟨hmentions, fun hanyway => hnot (hiff.mpr hanyway)⟩))

/-- Behind the entries that it had, the report has some that were added; those on the actual cost
and the variance say what the snapshot shows; and the pass has nothing more to add. -/
structure GapsTold (evidence : List (Evidence F)) (own : List (Value F)) (report : Dict F) :
    Prop where
  entries : ∃ fs generated, report.dict? "financial_snapshot" = some fs ∧
    report.get? "missing_data" = some (.list (own ++ generated.map .str)) ∧
      ToldTruly own generated costGap (availableFigure fs "actual_cost" ≠ none) ∧
        ToldTruly own generated varianceGap (VarianceShown fs)
  again : enforceMissingData report (extractOdooContext (odooEvidence evidence)) = report

/-- What it takes of the report that goes into the corrections, with snapshot `fs`. The actual cost
is mentioned, or comes just where the pass takes it to be there; the variance is mentioned, or does
not come; and a draft that calls itself a report without delay sections, and is none, mentions a
delay or has one. -/
structure TellsTruly (t : ReportType) (evidence : List (Evidence F)) (base fs : Dict F) :
    Prop where
  cost : Mentions (ownEntries base) costGap.words ∨
    (CostComes evidence fs ↔ (extractOdooContext (odooEvidence evidence)).hasAmount = true ∨
      RunsTogether (ownEntries base))
  variance : Mentions (ownEntries base) varianceGap.words ∨ ¬ VarianceComes evidence fs
  delay : t.toStr ∉ listingTypes → (∃ s ∈ listingTypes, base.get "report_type" = .str s) →
    (base.get "delay_analysis").truthy = false → (base.get "root_causes").truthy = false →
      Mentions (ownEntries base) delayGap.words

/-! ### The pass within the run -/

omit [Text] in
/-- A section that is a list is empty just if its shape is. -/
theorem truthy_of_shape {report report' : Dict F} {sec : String} (hlisted : IsListed report sec)
    (h : shape? report' sec = shape? report sec) :
    (report'.get sec).truthy = (report.get sec).truthy := by
  obtain ⟨items, hitems⟩ := hlisted
  obtain ⟨items', hitems'⟩ : IsListed report' sec := by
    rw [isListed_iff, h, shape?_of_list hitems]
    exact Option.some_ne_none _
  rw [shape?_of_list hitems, shape?_of_list hitems', Option.some_inj] at h
  rw [Dict.get_of_get? hitems, Dict.get_of_get? hitems', Value.truthy_list, Value.truthy_list]
  have hlength := congrArg List.length h
  rw [List.length_map, List.length_map] at hlength
  cases items <;> cases items' <;> first | rfl | cases hlength

omit [Text] in
/-- Nothing more is added just if there is no gap left to be told. -/
theorem enforceMissingData_eq_self [Text] {report : Dict F} {ctx : OdooContext F}
    {entries : List (Value F)} (h : report.get? "missing_data" = some (.list entries)) :
    enforceMissingData report ctx = report ↔
      told (ownText (ownEntries report)) (gapsOf report ctx) = [] := by
  have hown : ownEntries report = entries := by
    rw [ownEntries, h]
    rfl
  rw [enforceMissingData_eq]
  constructor
  · intro heq
    have hget := congrArg (Dict.get? · "missing_data") heq
    simp only [Dict.get?_set_self, h, hown, Option.some_inj, Value.list.injEq] at hget
    simpa [hown] using hget
  · intro hnil
    rw [hnil, List.map_nil, List.append_nil, hown]
    exact set_eq_self h

section Run

variable {state : DecisionState F} {pid : ProjectIdentity} {candidate : Option (Dict F)}
  {base report : Dict F}

/-- The sections that say whether there is a delay. -/
def delayKeys : List String := ["delay_analysis", "root_causes"]

/-- The pass works on a report with the entries and the type of the one that goes into the
corrections, and with its delay sections unless the report is a financial one. -/
theorem missingData_draftReport (h : draftReport state pid candidate = .ok report)
    (hbase : normalizeDraft state pid candidate = .ok base) :
    ∃ entered, ownEntries entered = ownEntries base ∧
      entered.get "report_type" = base.get "report_type" ∧
      (reportTypeOf state ≠ .financial → ∀ sec ∈ delayKeys,
        (entered.get sec).truthy = (base.get sec).truthy) ∧
      (∀ sec ∈ "recommended_actions" :: delayKeys, report.get sec = entered.get sec) ∧
      report.get? "missing_data" = some (.list (ownEntries entered ++
        (told (ownText (ownEntries entered))
          (gapsOf entered (extractOdooContext (odooEvidence state.evidence)))).map
            fun g => .str g.item)) := by
  obtain ⟨base', hbase', h⟩ := bind_eq_ok.mp h
  obtain rfl : base = base' := Except.ok.inj (hbase.symm.trans hbase')
  obtain ⟨-, -, h⟩ := bind_eq_ok.mp h
  obtain ⟨figures, hfigures, h⟩ := bind_eq_ok.mp h
  obtain ⟨texts, htexts, h⟩ := bind_eq_ok.mp h
  cases h
  obtain ⟨remapped, hremapped, htexts⟩ := bind_eq_ok.mp htexts
  obtain ⟨entered, hentered, htexts⟩ := bind_eq_ok.mp htexts
  obtain ⟨summarised, hsummarised, htexts⟩ := bind_eq_ok.mp htexts
  -- frames: which entries each pass after the figures can change
  have hsummary := enforceExecutiveSummary_frame hsummarised
  have hmemo := enrichManagementQuestionAnswer_frame htexts
  have hseal := sealReport_frame state pid texts
  have hremap := remapEvidenceIds_frame hremapped
  have hsources : Dict.Frame ["sources"] remapped entered := by
    unfold rebuildIfFinancial at hentered
    split at hentered
    · exact rebuildSourcesFromCitations_frame hentered
    · cases hentered
      exact Dict.Frame.refl _ _
  have hfigured : Dict.Frame ("financial_snapshot" :: synthesisKeys) (fillDefaults state base)
      figures := by
    obtain ⟨enforced, henforced, hfigures⟩ := bind_eq_ok.mp hfigures
    obtain ⟨placed, hplaced, hfigures⟩ := bind_eq_ok.mp hfigures
    have hplacedFrame := ((onSnapshot_frame henforced).trans (onSnapshot_frame hplaced)).mono
      (List.cons_subset_cons "financial_snapshot" (List.nil_subset synthesisKeys))
    split at hfigures
    · exact hplacedFrame.trans ((forceFinancialOdooSynthesis_frame hfigures).mono
        (List.subset_cons_self _ _))
    · cases hfigures
      exact hplacedFrame
  -- so an entry outside all of those is the one of the filled draft
  have hkept {key : String} (hkey : key ∉ "financial_snapshot" :: synthesisKeys)
      (hcited : key ∉ citationKeys) (hlisted : key ∉ ["sources"]) :
      entered.get? key = (fillDefaults state base).get? key := by
    rw [hsources key hlisted, hremap key hcited, hfigured key hkey]
  refine ⟨entered, ?_, ?_, ?_, ?_, ?_⟩
  · have hfilled : (fillDefaults state base).get? "missing_data" =
        some ((base.get? "missing_data").getD (.list [])) := by
      simp [fillDefaults, Dict.get?_setdefault]
    rw [ownEntries, hkept (by decide) (by decide) (by decide), hfilled, ownEntries]
    cases base.get? "missing_data" <;> rfl
  · have hfilled : (fillDefaults state base).get? "report_type" = base.get? "report_type" := by
      simp [fillDefaults, Dict.get?_setdefault]
    exact get_congr ((hkept (by decide) (by decide) (by decide)).trans hfilled)
  -- an item section changes in the remapping, which keeps its shape and so its truth
  · intro hfinancial sec hsec
    have hitem : sec ∈ itemSections ∧ sec ∉ ["financial_snapshot"] ∧ sec ∉ ["sources"] := by
      revert sec
      decide
    obtain ⟨⟨items, hitems⟩, -⟩ := objectsOnly_normalizeDraft hbase hitem.1
    refine truthy_of_shape ⟨items, hitems⟩ ?_
    rw [shape?_of_frame hsources hitem.2.2, shape?_remapEvidenceIds (itemSections_subset hitem.1)
      hremapped, shape?_of_frame (correctFigures_frame hfinancial hfigures) hitem.2.1,
      shape?_of_list (fillDefaults_get? hitems), shape?_of_list hitems]
  -- the later passes write none of these sections
  · intro sec hsec
    have hnot : sec ∉ sealedKeys ∧ sec ∉ ["management_question_answer"] ∧
        sec ∉ ["executive_summary"] ∧ sec ∉ ["missing_data"] := by
      revert sec
      decide
    rw [hseal.get_eq hnot.1, hmemo.get_eq hnot.2.1, hsummary.get_eq hnot.2.2.1,
      (enforceMissingData_frame _ _).get_eq hnot.2.2.2]
  · rw [hseal _ (by decide), hmemo _ (by decide), hsummary _ (by decide), enforceMissingData_eq,
      Dict.get?_set_self]

omit [Text] in
private theorem delayDue_iff [Text] {report : Dict F} : delayDue report = true ↔
    (∀ s ∈ listingTypes, report.get "report_type" ≠ .str s) ∧
      ∀ sec ∈ delayKeys, (report.get sec).truthy = false := by
  simp [delayDue, delayKeys, ← Value.eqStr_iff, and_assoc]

/-- The second pass adds nothing just if the report does not pass for one without delay sections, or
mentions a delay. -/
theorem again_iff (laws : LowersWords) (h : draftReport state pid candidate = .ok report)
    (hbase : normalizeDraft state pid candidate = .ok base) :
    enforceMissingData report (extractOdooContext (odooEvidence state.evidence)) = report ↔
      ((reportTypeOf state).toStr ∉ listingTypes →
        (∃ s ∈ listingTypes, base.get "report_type" = .str s) →
          (base.get "delay_analysis").truthy = false → (base.get "root_causes").truthy = false →
            Mentions (ownEntries base) delayGap.words) := by
  obtain ⟨entered, hown, htype, hsections, hkept, hget⟩ := missingData_draftReport h hbase
  have hentries : ownEntries report = ownEntries entered ++ (told (ownText (ownEntries entered))
      (gapsOf entered (extractOdooContext (odooEvidence state.evidence)))).map
        fun g => .str g.item := by
    rw [ownEntries, hget]
    rfl
  have hreport := reportType_draftReport h
  rw [enforceMissingData_eq_self hget, told_again laws hentries
    (by rw [hkept "recommended_actions" (by decide)]), hown]
  have hfinancial (hlisting : (reportTypeOf state).toStr ∉ listingTypes) :
      reportTypeOf state ≠ .financial := by
    intro heq
    rw [heq] at hlisting
    exact hlisting (by decide)
  have hsame {sec : String} (hlisting : (reportTypeOf state).toStr ∉ listingTypes)
      (hsec : sec ∈ delayKeys) : (report.get sec).truthy = (base.get sec).truthy := by
    rw [hkept sec (List.mem_cons_of_mem _ hsec), hsections (hfinancial hlisting) sec hsec]
  -- the delay gap alone can be due a second time: the report type has changed in between
  constructor
  · rintro hagain hlisting ⟨s, hs, hbaseType⟩ hdelay hcauses
    have hempty : ∀ sec ∈ delayKeys, (base.get sec).truthy = false := by
      simp [delayKeys, hdelay, hcauses]
    refine (hagain (delayDue_iff.mpr ⟨?_, fun sec hsec => ?_⟩)).resolve_left fun hdue => ?_
    · intro s' hs' heq
      rw [hreport, Value.str.injEq] at heq
      exact hlisting (heq ▸ hs')
    · rw [hsame hlisting hsec, hempty sec hsec]
    · exact (delayDue_iff.mp hdue).1 s hs (htype.trans hbaseType)
  · intro hquiet hdue
    obtain ⟨htypes, hempty⟩ := delayDue_iff.mp hdue
    have hlisting : (reportTypeOf state).toStr ∉ listingTypes := fun hmem => htypes _ hmem hreport
    have hbaseEmpty (sec : String) (hsec : sec ∈ delayKeys) : (base.get sec).truthy = false := by
      rw [← hsame hlisting hsec, hempty sec hsec]
    by_cases hbaseType : ∃ s ∈ listingTypes, base.get "report_type" = .str s
    · exact .inr (hquiet hlisting hbaseType (hbaseEmpty _ (by decide)) (hbaseEmpty _ (by decide)))
    · refine .inl (delayDue_iff.mpr ⟨fun s hs heq => ?_, fun sec hsec => ?_⟩)
      · exact hbaseType ⟨s, hs, htype.symm.trans heq⟩
      · rw [hsections (hfinancial hlisting) sec hsec, hbaseEmpty sec hsec]

/-- The gaps of a finished report are told truly just if those of the report that goes into the
corrections let them. -/
theorem gapsTold_draftReport_iff (laws : LowersWords) {fs : Dict F}
    (h : draftReport state pid candidate = .ok report)
    (hbase : normalizeDraft state pid candidate = .ok base)
    (hfs : base.dict? "financial_snapshot" = some fs) :
    GapsTold state.evidence (ownEntries base) report ↔
      TellsTruly (reportTypeOf state) state.evidence base fs := by
  obtain ⟨base', fs₀, fs₁, fs₂, fs₃, hbase', hfs₀, hpass₁, hpass₂, hfs₃, hnote⟩ :=
    draftReport_snapshot h
  obtain rfl : base = base' := Except.ok.inj (hbase.symm.trans hbase')
  obtain rfl : fs = fs₀ := Option.some.inj (hfs.symm.trans hfs₀)
  obtain ⟨entered, hown, -, -, -, hget⟩ := missingData_draftReport h hbase
  set ctx := extractOdooContext (odooEvidence state.evidence) with hctx
  set gaps := told (ownText (ownEntries entered)) (gapsOf entered ctx) with hgaps
  -- what the finished snapshot shows, in terms of the draft's
  have hcost : availableFigure fs₃ "actual_cost" ≠ none ↔ CostComes state.evidence fs := by
    rw [← actual_available_enforce_iff hpass₁, availableFigure_congr (hnote _ (by decide))]
    obtain ⟨-, -, -, hsame, -⟩ := enforceCategoriesSnapshot_cases hpass₂
    rw [availableFigure_congr (hsame "actual_cost" (by decide))]
  have hvariance : VarianceShown fs₃ ↔ VarianceComes state.evidence fs := by
    rw [← varianceShown_iff hpass₁ hpass₂, VarianceShown, VarianceShown, nodeOrEmpty, nodeOrEmpty,
      hnote.dict?_eq (by decide)]
  -- the texts of the known gaps differ, so a text is told just if its gap is
  have hitem {g : Gap} (hg : g ∈ knownGaps) : g.item ∈ gaps.map Gap.item ↔ g ∈ gaps := by
    have hinjective : ∀ g ∈ knownGaps, ∀ g' ∈ knownGaps, g'.item = g.item → g' = g := by decide
    have hknown : gaps ⊆ knownGaps := List.Subset.trans told_subset gapsOf_subset
    constructor
    · intro hmem
      obtain ⟨g', hg', heq⟩ := List.mem_map.mp hmem
      rwa [← hinjective g hg g' (hknown hg') heq]
    · exact List.mem_map_of_mem
  -- the two gaps that say something about the snapshot
  have hcostTold : ToldTruly (ownEntries base) (gaps.map Gap.item) costGap
      (availableFigure fs₃ "actual_cost" ≠ none) ↔ Mentions (ownEntries base) costGap.words ∨
        (CostComes state.evidence fs ↔ ctx.hasAmount = true ∨ RunsTogether (ownEntries base)) := by
    have hadded : costGap.item ∈ gaps.map Gap.item ↔ ¬ (Mentions (ownEntries base) costGap.words ∨
        (ctx.hasAmount = true ∨ RunsTogether (ownEntries base))) := by
      rw [hitem (by decide), hgaps, costGap_mem_told laws, hown]
      cases ctx.hasAmount <;> simp
    rw [toldTruly_iff hadded, hcost]
  have hvarianceTold : ToldTruly (ownEntries base) (gaps.map Gap.item) varianceGap
      (VarianceShown fs₃) ↔ Mentions (ownEntries base) varianceGap.words ∨
        ¬ VarianceComes state.evidence fs := by
    have hadded : varianceGap.item ∈ gaps.map Gap.item ↔
        ¬ (Mentions (ownEntries base) varianceGap.words ∨ False) := by
      rw [hitem (by decide), hgaps, varianceGap_mem_told laws, hown, or_false]
    rw [toldTruly_iff hadded, hvariance, iff_false]
  rw [hown, show (fun g : Gap => (.str g.item : Value F)) = .str ∘ Gap.item from rfl,
    ← List.map_map] at hget
  have hagain := again_iff laws h hbase
  constructor
  · rintro ⟨⟨fs', generated, hfs', hgenerated, htoldCost, htoldVariance⟩, hsecond⟩
    obtain rfl : fs₃ = fs' := Option.some.inj (hfs₃.symm.trans hfs')
    obtain rfl : gaps.map Gap.item = generated := by
      rw [hget, Option.some_inj, Value.list.injEq, List.append_cancel_left_eq] at hgenerated
      exact List.map_injective_iff.mpr (fun _ _ => Value.str.inj) hgenerated
    exact ⟨hcostTold.mp htoldCost, hvarianceTold.mp htoldVariance, hagain.mp hsecond⟩
  · rintro ⟨hdraftCost, hdraftVariance, hdelay⟩
    exact ⟨⟨fs₃, gaps.map Gap.item, hfs₃, hget, hcostTold.mpr hdraftCost,
      hvarianceTold.mpr hdraftVariance⟩, hagain.mpr hdelay⟩

end Run

/-! ### The availability report -/

section Salary

variable {state : DecisionState F} {pid : ProjectIdentity}

/-- A text without a word on the variance. -/
structure NoVariance (cs : List Char) : Prop where
  plain : ∀ c ∈ cs, Plain c
  absent : ¬ "variance".toList <:+: cs.map Char.toLower

omit [Floats F] [Text] in
private theorem noVariance_salaryMissing {src : ProjectSource} {info : CoverageEntry} {s : String}
    (h : salaryMissing src info = some s) : NoVariance s.toList := by
  have happend {src : ProjectSource} {cs ds : List Char} {post : String}
      (hsrc : src.toStr = String.ofList cs) (hpost : post = String.ofList ds)
      (h : NoVariance (cs ++ ds)) : NoVariance (src.toStr ++ post).toList := by
    rw [String.toList_append, hsrc, hpost, String.toList_ofList, String.toList_ofList]
    exact h
  unfold salaryMissing at h
  split at h
  · cases h
    cases src <;> refine happend rfl rfl ⟨plain_of_all ?_, ?_⟩ <;> decide
  · cases h
    cases src <;> refine happend rfl rfl ⟨plain_of_all ?_, ?_⟩ <;> decide
  · split at h
    · cases h
      cases src <;> refine happend rfl rfl ⟨plain_of_all ?_, ?_⟩ <;> decide
    · cases h

omit [Floats F] [Text] in
/-- No entry of the availability report is on the variance. -/
theorem missingData_salary (state : DecisionState F) (pid : ProjectIdentity) :
    ∃ missing : List String, (buildSalaryAvailabilityReport state pid).get? "missing_data" =
        some (.list (missing.map .str)) ∧ ∀ s ∈ missing, NoVariance s.toList := by
  refine ⟨_, rfl, ?_⟩
  intro s hs
  split at hs
  · rw [List.mem_singleton.mp hs]
    refine of_letters (P := NoVariance) _ rfl ⟨plain_of_all ?_, ?_⟩ <;> decide
  · obtain ⟨src, -, hsrc⟩ := List.mem_filterMap.mp hs
    exact noVariance_salaryMissing hsrc

/-- The availability report shows no variance, and says nothing of it. Its entries are on other
gaps. -/
theorem not_gapsTold_salary (laws : LowersWords) {evidence : List (Evidence F)} :
    ¬ GapsTold evidence (ownEntries (buildSalaryAvailabilityReport state pid))
      (buildSalaryAvailabilityReport state pid) := by
  rintro ⟨⟨fs, generated, hfs, hget, -, htold⟩, -⟩
  obtain rfl : emptySnapshot = fs := Option.some.inj hfs
  obtain ⟨missing, hmissing, hnone⟩ := missingData_salary state pid
  have hown : ownEntries (buildSalaryAvailabilityReport state pid) = missing.map .str := by
    rw [ownEntries, hmissing]
    rfl
  rw [hown] at hget htold
  have hgenerated : generated = [] := by
    rw [hmissing, Option.some_inj, Value.list.injEq, List.self_eq_append_right] at hget
    exact List.map_eq_nil_iff.mp hget
  rw [hgenerated] at htold
  rcases htold.whenever (not_not_intro rfl) with hmem | ⟨t, ht, w, hw, hinfix⟩
  · cases hmem
  · rw [entryTexts, List.map_map] at ht
    obtain ⟨s, hs, rfl⟩ := List.mem_map.mp ht
    rw [List.mem_singleton.mp hw] at hinfix
    refine (hnone s hs).absent ?_
    have hlowered : lowered s = s.toList.map Char.toLower := by
      rw [lowered, laws.plain s (hnone s hs).plain, String.toList_ofList]
    rw [← hlowered]
    exact hinfix

end Salary

/-! ### The run -/

/-- The report that goes into the corrections: the draft or what is built in its place. The
availability report is not corrected. -/
def enteringReport (mapping : ProjectMapping) (replies : DraftReplies F) (state : DecisionState F) :
    Except Error (Dict F) :=
  if salaryPath state then
    pure (buildSalaryAvailabilityReport (typedState state) (draftIdentity mapping state))
  else normalizeDraft (typedState state) (draftIdentity mapping state) replies.candidate

/-- After node 12 the entries on the actual cost and the variance say what the snapshot shows, and a
second pass adds nothing, exactly when the report is not the availability report and the one that
goes into the corrections lets them. The entries are made before the figures are placed for good,
from what the extraction has. -/
theorem gapsTold_iff (laws : LowersWords) {mapping : ProjectMapping} {replies : DraftReplies F}
    {state drafted : DecisionState F} {base fs : Dict F}
    (h : draftRun mapping replies state = .ok drafted)
    (hbase : enteringReport mapping replies state = .ok base)
    (hfs : base.dict? "financial_snapshot" = some fs) :
    (∃ report, drafted.reportJson = some report ∧
        GapsTold state.evidence (ownEntries base) report) ↔
      salaryPath state = false ∧ TellsTruly (reportTypeOf state) state.evidence base fs := by
  rw [enteringReport] at hbase
  cases hsalary : salaryPath state with
  | true =>
    rw [draftRun, hsalary] at h
    rw [hsalary] at hbase
    cases h
    cases hbase
    refine iff_of_false ?_ (fun h => Bool.false_ne_true h.1.symm)
    rintro ⟨report, hreport, htold⟩
    cases hreport
    exact not_gapsTold_salary laws htold
  | false =>
    simp only [hsalary, Bool.false_eq_true, if_false] at hbase
    obtain ⟨report, hreport, hjson⟩ := report_draftRun hsalary h
    have hiff : GapsTold state.evidence (ownEntries base) report ↔
        TellsTruly (reportTypeOf state) state.evidence base fs :=
      gapsTold_draftReport_iff laws hreport hbase hfs
    rw [and_iff_right rfl, ← hiff]
    simp only [hjson, Option.some_inj, exists_eq_left']

end Gaps

section Whole

open Py.Whole

private theorem lowersWords_ascii : LowersWords where
  blank a b := by
    simp [lower, Text.lower, String.ofList_append, String.append_assoc]
  plain _ _ := rfl

/-- Where the draft has an actual cost and the pack no estimate, the entries are true. -/
theorem gapsTold_actualCostDraft : ∃ drafted base, figureRun "actual_cost" 999 = .ok drafted ∧
    enteringReport (fun _ => none) ⟨some (.dict (figureDraft "actual_cost" 999)), none, none⟩
      (statusState onePosting) = .ok base ∧
    ∃ report, drafted.reportJson = some report ∧ GapsTold onePosting (ownEntries base) report := by
  obtain ⟨drafted, hrun⟩ : Completes (figureRun "actual_cost" 999) :=
    completes_of_isSome (by decide)
  obtain ⟨base, hbase⟩ : Completes (enteringReport (fun _ => none)
      ⟨some (.dict (figureDraft "actual_cost" 999)), none, none⟩ (statusState onePosting)) :=
    completes_of_isSome (by decide)
  have hfacts : (enteringReport (fun _ => none)
      ⟨some (.dict (figureDraft "actual_cost" 999)), none, none⟩
      (statusState onePosting)).toOption.map (fun base => ((base.get "report_type").isNull,
        (base.dict? "financial_snapshot").map fun fs => ((fs.dict? "actual_cost").isSome,
          (availableFigure fs "estimate").isSome,
            ((nodeOrEmpty fs "variance").get "value").isNull))) =
              some (true, some (true, false, true)) := rfl
  rw [hbase] at hfacts
  obtain ⟨htype, hfacts⟩ := Prod.mk.inj (Option.some.inj hfacts)
  obtain ⟨fs, hfs, hfacts⟩ := Option.map_eq_some_iff.mp hfacts
  simp only [Prod.mk.injEq] at hfacts
  obtain ⟨hactual, hestimate, hvariance⟩ := hfacts
  obtain ⟨node, hnode⟩ := Option.isSome_iff_exists.mp hactual
  refine ⟨drafted, base, hrun, hbase, (gapsTold_iff lowersWords_ascii hrun hbase hfs).mpr
    ⟨by decide, .inr (iff_of_true ⟨node, hnode, .inl (by decide)⟩ (.inl (by decide))), .inr ?_, ?_⟩⟩
  · rintro (⟨hbacked | ⟨node', hnode', -⟩, -⟩ | hshown)
    · exact absurd hbacked (by decide)
    · rw [hnode'] at hestimate
      cases hestimate
    · exact hshown (Value.isNull_iff.mp hvariance)
  · rintro - ⟨s, -, hname⟩
    rw [hname] at htype
    cases htype

/-- The variance is calculated, and declared not to be calculable. The entries are made before the
figures have been placed. -/
theorem not_gapsTold_estimatedPosting :
    ¬ ∀ (mapping : ProjectMapping) (replies : DraftReplies ℤ) (state drafted : DecisionState ℤ)
        (base : Dict ℤ), draftRun mapping replies state = .ok drafted →
      enteringReport mapping replies state = .ok base →
        ∃ report, drafted.reportJson = some report ∧
          GapsTold state.evidence (ownEntries base) report := by
  intro h
  obtain ⟨drafted, hrun⟩ : Completes (draftRun (fun _ => none) ⟨none, none, none⟩
    (statusState estimatedPosting)) := completes_of_isSome (by decide)
  obtain ⟨base, hbase⟩ : Completes (enteringReport (fun _ => none) ⟨none, none, none⟩
    (statusState estimatedPosting)) := completes_of_isSome (by decide)
  obtain ⟨report, hreport, htold⟩ := h _ _ _ _ _ hrun hbase
  obtain ⟨report', hdraft, hreport'⟩ := report_draftRun (by decide) hrun
  obtain rfl : report = report' := Option.some.inj (hreport.symm.trans hreport')
  have hfacts : (enteringReport (fun _ => none) ⟨none, none, none⟩
      (statusState estimatedPosting)).toOption.map (fun base => ((ownEntries base).length,
        (base.dict? "financial_snapshot").map fun fs => (fs.dict? "actual_cost").isSome)) =
          some (0, some true) := rfl
  rw [hbase] at hfacts
  obtain ⟨hown, hfacts⟩ := Prod.mk.inj (Option.some.inj hfacts)
  obtain ⟨fs, hfs, hactual⟩ := Option.map_eq_some_iff.mp hfacts
  obtain ⟨node, hnode⟩ := Option.isSome_iff_exists.mp hactual
  obtain ⟨-, hvariance, -⟩ :=
    (gapsTold_draftReport_iff lowersWords_ascii hdraft hbase hfs).mp htold
  rw [List.eq_nil_of_length_eq_zero hown] at hvariance
  rcases hvariance with ⟨t, ht, -⟩ | hnone
  · cases ht
  · exact hnone (.inl ⟨.inl (by decide), .inl ⟨node, hnode, .inl (by decide)⟩⟩)

end Whole

end DecisionCenter
