import DecisionCenter.Graph.Draft

/-!
# What each pass of node 12 writes

A frame theorem for each pass of node 12 over the report, and from them how the financial
snapshot of the finished report comes about.

A pass writes the keys that its frame names and reads what it likes. The frames are short lists
(`citationKeys`, `synthesisKeys`, `textKeys`), and as most passes do not name the snapshot, a
question about the figures of a finished report skips them. The passes that do are passes over
the snapshot alone (`onSnapshot`): they write nothing else, and they do nothing where the report
has no snapshot that is an object.

`draftReport_snapshot` puts it together: the snapshot of the finished report is that of the
normalised draft after the two financial passes, with a note at most. `normalizeDraft_snapshot`
says that there always is one, whatever the candidate was.

The second use is the type of the report. It is written last, from the query, so that a finished
report always names its type and the policies of the gate and of the exporters apply
(`reportType_draftReport`, `reportType_draftRun`). `draftRun_cases` says what the node can leave
in the state: the availability report, or the one drawn up for the candidate, and the pack as it
is.
-/

namespace DecisionCenter

open Py

variable {F : Type} [Floats F]

/-! ### Frames -/

/-- The keys the citation passes may write. -/
def citationKeys : List String := claimSections ++ ["management_question_answer", "sources"]

/-- Rewriting a section changes this section at most. -/
theorem remapSection_frame {synth : List (Value F × String)} {report report' : Dict F}
    {sec : String} (h : remapSection synth report sec = .ok report') :
    Dict.Frame [sec] report report' := by
  unfold remapSection at h
  split at h
  · obtain ⟨items, -, h⟩ := bind_eq_ok.mp h
    cases h
    exact Dict.Frame.set _ _ (by simp)
  · obtain ⟨_, -, h⟩ := bind_eq_ok.mp h
    cases h
    exact Dict.Frame.refl _ _
  · cases h
    exact Dict.Frame.refl _ _

/-- Rewriting several sections changes these at most. -/
theorem foldlM_remapSection_frame {synth : List (Value F × String)} {secs : List String}
    {report report' : Dict F} (h : secs.foldlM (remapSection synth) report = .ok report') :
    Dict.Frame secs report report' := by
  induction secs generalizing report with
  | nil =>
    cases h
    exact Dict.Frame.refl _ _
  | cons sec secs ih =>
    rw [List.foldlM_cons] at h
    obtain ⟨next, hnext, h⟩ := bind_eq_ok.mp h
    exact ((remapSection_frame hnext).mono (by simp)).trans ((ih h).mono (by simp))

/-- The remapping changes the claim sections and the sources. -/
theorem remapEvidenceIds_frame [Text] {report report' : Dict F} {evidence : List (Evidence F)}
    (h : remapEvidenceIds report evidence = .ok report') :
    Dict.Frame citationKeys report report' := by
  obtain ⟨synth, -, h⟩ := bind_eq_ok.mp h
  split at h
  · cases h
    exact Dict.Frame.refl _ _
  · obtain ⟨sections, hsections, h⟩ := bind_eq_ok.mp h
    obtain ⟨memo, hmemo, h⟩ := bind_eq_ok.mp h
    obtain ⟨cited, -, h⟩ := bind_eq_ok.mp h
    cases h
    have h₁ : Dict.Frame citationKeys report sections :=
      (foldlM_remapSection_frame hsections).mono (by simp [citationKeys])
    have h₂ : Dict.Frame citationKeys sections memo :=
      Dict.Frame.modifyM hmemo (by simp [citationKeys])
    exact (h₁.trans h₂).trans (Dict.Frame.set _ _ (by simp [citationKeys]))

/-- Rebuilding the sources changes the sources. -/
theorem rebuildSourcesFromCitations_frame {report report' : Dict F}
    {evidence : List (Evidence F)}
    (h : rebuildSourcesFromCitations report evidence = .ok report') :
    Dict.Frame ["sources"] report report' := by
  obtain ⟨inSections, -, h⟩ := bind_eq_ok.mp h
  obtain ⟨inVariance, -, h⟩ := bind_eq_ok.mp h
  cases h
  exact Dict.Frame.set _ _ (by simp)

/-- The pass on gaps changes the missing data. -/
theorem enforceMissingData_frame [Text] (report : Dict F) (ctx : OdooContext F) :
    Dict.Frame ["missing_data"] report (enforceMissingData report ctx) :=
  Dict.Frame.set _ _ (by simp)

/-- The pass on the summary changes the summary. -/
theorem enforceExecutiveSummary_frame {report report' : Dict F} {state : DecisionState F}
    (h : enforceExecutiveSummary report state = .ok report') :
    Dict.Frame ["executive_summary"] report report' := by
  unfold enforceExecutiveSummary at h
  split at h
  · split at h
    · cases h
      exact Dict.Frame.refl _ _
    · obtain ⟨refs, -, h⟩ := bind_eq_ok.mp h
      split at h
      · cases h
        exact Dict.Frame.refl _ _
      · cases h
        exact Dict.Frame.set _ _ (by simp)
  · cases h
    exact Dict.Frame.refl _ _

/-- The pass on the decision memo changes the memo. -/
theorem enrichManagementQuestionAnswer_frame [Text] {report report' : Dict F}
    {state : DecisionState F} (h : enrichManagementQuestionAnswer report state = .ok report') :
    Dict.Frame ["management_question_answer"] report report' := by
  unfold enrichManagementQuestionAnswer at h
  split at h
  · obtain ⟨firstIds, -, h⟩ := bind_eq_ok.mp h
    obtain ⟨mqa, -, h⟩ := bind_eq_ok.mp h
    cases h
    exact Dict.Frame.set _ _ (by simp)
  · cases h
    exact Dict.Frame.refl _ _

/-- The keys the synthesis of a financial report writes. -/
def synthesisKeys : List String :=
  ["key_findings", "executive_summary", "root_causes", "delay_analysis",
    "contractual_implications", "management_question_answer"]

/-- The synthesis of a financial report changes the sections that it writes. They are written one
after the other, each under a fixed key. -/
theorem forceFinancialOdooSynthesis_frame {report report' : Dict F} {state : DecisionState F}
    {ctx : OdooContext F} {pid : ProjectIdentity}
    (h : forceFinancialOdooSynthesis report state ctx pid = .ok report') :
    Dict.Frame synthesisKeys report report' := by
  obtain ⟨findings, -, h⟩ := bind_eq_ok.mp h
  cases h
  have h₁ : Dict.Frame synthesisKeys report (report.set "key_findings" (.list findings)) :=
    Dict.Frame.set _ _ (by simp [synthesisKeys])
  have h₂ : Dict.Frame synthesisKeys (report.set "key_findings" (.list findings))
      (if ctx.projectRecords ≠ [] ∨ ctx.hasAmount = true then
        (report.set "key_findings" (.list findings)).set "executive_summary"
          (.list (basicExecutiveSummary state [] [] ctx pid))
      else report.set "key_findings" (.list findings)) := by
    split
    · exact Dict.Frame.set _ _ (by simp [synthesisKeys])
    · exact Dict.Frame.refl _ _
  have hset (d : Dict F) {k : String} (v : Value F) (hk : k ∈ synthesisKeys) :
      Dict.Frame synthesisKeys d (d.set k v) := Dict.Frame.set d v hk
  exact (((((h₁.trans h₂).trans (hset _ _ (by simp [synthesisKeys]))).trans
    (hset _ _ (by simp [synthesisKeys]))).trans (hset _ _ (by simp [synthesisKeys]))).trans
      (hset _ _ (by simp [synthesisKeys])))

/-- The keys the corrections of texts and citations may write. -/
def textKeys : List String := citationKeys ++ ["missing_data"]

/-- The corrections of citations, gaps and memo change what these passes change, and nothing else.
-/
theorem correctTexts_frame [Text] {report report' : Dict F} {state : DecisionState F}
    (h : correctTexts state report = .ok report') : Dict.Frame textKeys report report' := by
  obtain ⟨remapped, hremapped, h⟩ := bind_eq_ok.mp h
  obtain ⟨rebuilt, hrebuilt, h⟩ := bind_eq_ok.mp h
  obtain ⟨summarised, hsummarised, h⟩ := bind_eq_ok.mp h
  have h₁ : Dict.Frame textKeys report remapped :=
    (remapEvidenceIds_frame hremapped).mono (by simp [textKeys])
  have h₂ : Dict.Frame textKeys remapped rebuilt := by
    unfold rebuildIfFinancial at hrebuilt
    split at hrebuilt
    · exact (rebuildSourcesFromCitations_frame hrebuilt).mono (by simp [textKeys, citationKeys])
    · cases hrebuilt
      exact Dict.Frame.refl _ _
  have h₃ : Dict.Frame textKeys rebuilt
      (enforceMissingData rebuilt (extractOdooContext (odooEvidence state.evidence))) :=
    (enforceMissingData_frame _ _).mono (by simp [textKeys])
  have h₄ : Dict.Frame textKeys _ summarised := (enforceExecutiveSummary_frame hsummarised).mono
    (by simp [textKeys, citationKeys, claimSections])
  have h₅ : Dict.Frame textKeys summarised report' :=
    (enrichManagementQuestionAnswer_frame h).mono (by simp [textKeys, citationKeys])
  exact (((h₁.trans h₂).trans h₃).trans h₄).trans h₅

omit [Floats F] in
/-- Filling the defaults keeps what is there. -/
theorem fillDefaults_get? {state : DecisionState F} {report : Dict F} {k : String} {v : Value F}
    (h : report.get? k = some v) : (fillDefaults state report).get? k = some v := by
  have hstep (defaults : List (String × Value F)) (r : Dict F) (hr : r.get? k = some v) :
      (defaults.foldl (fun r kv => r.setdefault kv.1 kv.2) r).get? k = some v := by
    induction defaults generalizing r with
    | nil => exact hr
    | cons kv defaults ih =>
      refine ih _ ?_
      rw [Dict.get?_setdefault]
      split
      · next hk => rw [hk, hr, Option.getD_some]
      · exact hr
  exact hstep _ report h

/-- The keys that are sealed. -/
def sealedKeys : List String :=
  ["project_identity", "report_type", "connector_coverage", "financial_snapshot"]

omit [Floats F] in
/-- The last corrections change the keys that they stamp. -/
theorem sealReport_frame [Text] (state : DecisionState F) (pid : ProjectIdentity)
    (report : Dict F) : Dict.Frame sealedKeys report (sealReport state pid report) := by
  have hset (d : Dict F) (k : String) (v : Value F) (hk : k ∈ sealedKeys) :
      Dict.Frame sealedKeys d (d.set k v) := Dict.Frame.set d v hk
  have hfields := ((hset report "project_identity" (.dict pid.toDict) (by decide)).trans
    (hset _ "report_type" (.str (reportTypeOf state).toStr) (by decide))).trans
      (hset _ "connector_coverage" (.list state.outputs.sourceCoverage.reportSection) (by decide))
  unfold sealReport
  dsimp only
  split
  · exact hfields
  · refine hfields.trans fun k hk => Dict.get?_modify_ne _ _ ?_
    rintro rfl
    exact hk (by decide)

/-! ### How the snapshot comes about -/

section Snapshot

variable [Text]

omit [Floats F] [Text] in
/-- A pass over the snapshot writes nothing else. -/
theorem onSnapshot_frame {report report' : Dict F} {pass : Dict F → Except Error (Dict F)}
    (h : onSnapshot report pass = .ok report') :
    Dict.Frame ["financial_snapshot"] report report' := Dict.Frame.modifyM h (by simp)

omit [Floats F] [Text] in
/-- A pass over the snapshot of a report that has one. -/
theorem onSnapshot_cases {report report' fs : Dict F} {pass : Dict F → Except Error (Dict F)}
    (hfs : report.dict? "financial_snapshot" = some fs)
    (h : onSnapshot report pass = .ok report') :
    ∃ fs', pass fs = .ok fs' ∧ report'.dict? "financial_snapshot" = some fs' ∧
      Dict.Frame ["financial_snapshot"] report report' := by
  have hframe := onSnapshot_frame h
  rcases Dict.modifyM_eq_ok h with ⟨node, node', hnode, hpass, rfl⟩ | ⟨hnone, -⟩
  · rw [hfs] at hnode
    cases hnode
    exact ⟨node', hpass, by rw [Dict.dict?_set, if_pos rfl]; rfl, hframe⟩
  · rw [hfs] at hnone
    cases hnone

omit [Text] in
/-- Normalisation leaves a snapshot. -/
theorem normalizeFinancialSnapshot_snapshot {report report' : Dict F}
    (h : normalizeFinancialSnapshot report = .ok report') :
    ∃ fs, report'.dict? "financial_snapshot" = some fs := by
  obtain ⟨⟨r, fs⟩, -, h⟩ := bind_eq_ok.mp h
  cases h
  exact ⟨_, by rw [Dict.dict?_set, if_pos rfl]; rfl⟩

/-- An accepted draft is a normalised one whose claims are valid. Its figures have been corrected by
then, and its sources been remapped. -/
theorem acceptDraft_cases {evidence : List (Evidence F)} {candidate report : Dict F}
    (h : acceptDraft evidence candidate = .ok (some report)) :
    ∃ normal fs fs', normalizeFinancialSnapshot candidate = .ok normal ∧
      normal.dict? "financial_snapshot" = some fs ∧
      enforceFinancialSnapshot (extractOdooContext (odooEvidence evidence)) (evidenceIds evidence)
        fs = .ok fs' ∧
      report.dict? "financial_snapshot" = some fs' ∧
      reportHasValidClaims report (evidenceIds evidence) = .ok true := by
  obtain ⟨normal, hnormal, h⟩ := bind_eq_ok.mp h
  obtain ⟨enforced, henforced, h⟩ := bind_eq_ok.mp h
  obtain ⟨remapped, hremapped, h⟩ := bind_eq_ok.mp h
  obtain ⟨valid, hvalid, h⟩ := bind_eq_ok.mp h
  cases valid with
  | false => cases h
  | true =>
    cases h
    obtain ⟨fs, hfs⟩ := normalizeFinancialSnapshot_snapshot hnormal
    obtain ⟨fs', hpass, hfs', -⟩ := onSnapshot_cases hfs henforced
    refine ⟨normal, fs, fs', hnormal, hfs, hpass, ?_, hvalid⟩
    rw [(remapEvidenceIds_frame hremapped).dict?_eq (by decide), hfs']

/-- The snapshot the builder starts from. -/
def builderSnapshot (role : Option String) (ctx : OdooContext F) : Dict F :=
  [("budget", .dict notAvailableNode), ("actual_cost", .dict (builderActual role ctx)),
    ("variance", .dict emptyVariance)]

/-- The builder sees the same Odoo items. -/
theorem odooEvidence_builderEvidence (state : DecisionState F) :
    odooEvidence (builderEvidence state) = odooEvidence state.evidence := by
  unfold builderEvidence
  split
  · exact odooEvidence_filterFinancialEvidence state.evidence state.query
  · rfl

/-- The snapshot of an evidence-built report. -/
theorem buildReportFromEvidence_snapshot {state : DecisionState F} {pid : ProjectIdentity}
    {report : Dict F} (h : buildReportFromEvidence state pid = .ok report) :
    ∃ fs, enforceCategoriesSnapshot (extractOdooContext (odooEvidence state.evidence))
        (odooEvidence state.evidence) (evidenceIds (builderEvidence state))
        (builderSnapshot state.role (extractOdooContext (odooEvidence state.evidence))) = .ok fs ∧
      report.dict? "financial_snapshot" = some fs := by
  obtain ⟨placed, hplaced, h⟩ := bind_eq_ok.mp h
  rw [odooEvidence_builderEvidence] at hplaced h
  have hdraft : (builderDraft state pid (extractOdooContext (odooEvidence state.evidence))).dict?
      "financial_snapshot" =
        some (builderSnapshot state.role (extractOdooContext (odooEvidence state.evidence))) := by
    simp [builderDraft, Dict.dict?, Dict.get?, builderSnapshot]
  obtain ⟨fs, hpass, hfs, -⟩ := onSnapshot_cases hdraft hplaced
  refine ⟨fs, hpass, ?_⟩
  split at h
  · rw [(forceFinancialOdooSynthesis_frame h).dict?_eq (by decide), hfs]
  · cases h
    exact hfs

/-- Whatever the candidate, the report that goes into the corrections has a snapshot. -/
theorem normalizeDraft_snapshot {state : DecisionState F} {pid : ProjectIdentity}
    {candidate : Option (Dict F)} {report : Dict F}
    (h : normalizeDraft state pid candidate = .ok report) :
    ∃ fs, report.dict? "financial_snapshot" = some fs := by
  have hbuilt (h : buildReportFromEvidence state pid = .ok report) :
      ∃ fs, report.dict? "financial_snapshot" = some fs := by
    obtain ⟨fs, -, hfs⟩ := buildReportFromEvidence_snapshot h
    exact ⟨fs, hfs⟩
  cases candidate with
  | none => exact hbuilt h
  | some d =>
    obtain ⟨accepted, haccepted, h⟩ := bind_eq_ok.mp h
    cases accepted with
    | some r =>
      cases h
      obtain ⟨-, -, fs, -, -, -, hfs, -⟩ := acceptDraft_cases haccepted
      exact ⟨fs, hfs⟩
    | none => exact hbuilt h

/-- The snapshot of the finished report is that of the normalised draft after the two financial
passes, with a note at most. -/
theorem draftReport_snapshot {state : DecisionState F} {pid : ProjectIdentity}
    {candidate : Option (Dict F)} {report : Dict F}
    (h : draftReport state pid candidate = .ok report) :
    ∃ base fs fs₁ fs₂ fs₃, normalizeDraft state pid candidate = .ok base ∧
      base.dict? "financial_snapshot" = some fs ∧
      enforceFinancialSnapshot (extractOdooContext (odooEvidence state.evidence))
        (evidenceIds state.evidence) fs = .ok fs₁ ∧
      enforceCategoriesSnapshot (extractOdooContext (odooEvidence state.evidence))
        (odooEvidence state.evidence) (evidenceIds state.evidence) fs₁ = .ok fs₂ ∧
      report.dict? "financial_snapshot" = some fs₃ ∧ Dict.Frame ["note"] fs₂ fs₃ := by
  obtain ⟨base, hbase, h⟩ := bind_eq_ok.mp h
  obtain ⟨-, -, h⟩ := bind_eq_ok.mp h
  obtain ⟨figures, hfigures, h⟩ := bind_eq_ok.mp h
  obtain ⟨texts, htexts, h⟩ := bind_eq_ok.mp h
  cases h
  obtain ⟨fs, hfs⟩ := normalizeDraft_snapshot hbase
  have hfilled : (fillDefaults state base).dict? "financial_snapshot" = some fs :=
    Dict.dict?_eq_some.mpr (fillDefaults_get? (Dict.dict?_eq_some.mp hfs))
  obtain ⟨enforced, henforced, hfigures⟩ := bind_eq_ok.mp hfigures
  obtain ⟨placed, hplaced, hfigures⟩ := bind_eq_ok.mp hfigures
  obtain ⟨fs₁, hpass₁, hfs₁, -⟩ := onSnapshot_cases hfilled henforced
  obtain ⟨fs₂, hpass₂, hfs₂, -⟩ := onSnapshot_cases hfs₁ hplaced
  -- after the two passes only the seal can touch the snapshot
  have hfigures₂ : figures.dict? "financial_snapshot" = some fs₂ := by
    split at hfigures
    · rw [(forceFinancialOdooSynthesis_frame hfigures).dict?_eq (by decide), hfs₂]
    · cases hfigures
      exact hfs₂
  have htexts₂ : texts.dict? "financial_snapshot" = some fs₂ := by
    rw [(correctTexts_frame htexts).dict?_eq (by decide), hfigures₂]
  refine ⟨base, fs, fs₁, fs₂, if state.outputs.odooFinancialAvailable then fs₂ else
    fs₂.setdefault "note" (.str "financial data not available in verified Odoo evidence"),
    hbase, hfs, hpass₁, hpass₂, ?_, ?_⟩
  · simp only [sealReport]
    split
    · simp only [Dict.dict?_set, htexts₂]
      rfl
    · rw [Dict.dict?_modify_self]
      simp only [Dict.dict?_set, htexts₂]
      rfl
  · split
    · exact Dict.Frame.refl _ _
    · exact Dict.Frame.setdefault _ _ (by simp)

/-! ### The report type -/

/-- The type of a finished report is the one that the query has. -/
theorem reportType_draftReport {state : DecisionState F} {pid : ProjectIdentity}
    {candidate : Option (Dict F)} {report : Dict F}
    (h : draftReport state pid candidate = .ok report) :
    report.get "report_type" = .str (reportTypeOf state).toStr := by
  obtain ⟨base, -, h⟩ := bind_eq_ok.mp h
  obtain ⟨-, -, h⟩ := bind_eq_ok.mp h
  obtain ⟨figures, -, h⟩ := bind_eq_ok.mp h
  obtain ⟨texts, -, h⟩ := bind_eq_ok.mp h
  cases h
  rw [sealReport]
  split
  · simp [Dict.get_set]
  · rw [Dict.get, Dict.getD, Dict.get?_modify_ne _ _ (by decide)]
    simp [Dict.get?_set]

omit [Floats F] [Text] in
/-- The availability report says what type it has. -/
theorem reportType_salaryReport (state : DecisionState F) (pid : ProjectIdentity) :
    (buildSalaryAvailabilityReport state pid).get "report_type" =
      .str ReportType.salaryPayroll.toStr := rfl

/-! ### The node -/

omit [Floats F] [Text] in
/-- The state once its report type is settled. -/
def typedState (state : DecisionState F) : DecisionState F :=
  { state with outputs := { state.outputs with reportType := some (reportTypeOf state) } }

/-- The node leaves the availability report or the one drawn up for the candidate, and the pack as
it is. -/
theorem draftRun_cases {mapping : ProjectMapping} {replies : DraftReplies F}
    {state drafted : DecisionState F} (h : draftRun mapping replies state = .ok drafted) :
    (salaryPath state = true ∧ drafted.evidence = state.evidence ∧
        drafted.reportJson = some (buildSalaryAvailabilityReport (typedState state)
          (draftIdentity mapping state))) ∨
      (salaryPath state = false ∧ drafted.evidence = state.evidence ∧
        ∃ report, draftReport (typedState state) (draftIdentity mapping state) replies.candidate =
          .ok report ∧ drafted.reportJson = some report) := by
  unfold draftRun at h
  cases hsalary : salaryPath state with
  | true =>
    simp only [hsalary, if_true] at h
    cases h
    exact .inl ⟨rfl, rfl, rfl⟩
  | false =>
    simp only [hsalary, Bool.false_eq_true, if_false] at h
    obtain ⟨report, hreport, h⟩ := bind_eq_ok.mp h
    cases h
    exact .inr ⟨rfl, rfl, report, hreport, rfl⟩

/-- Outside the availability report the node leaves the report drawn up for the candidate. -/
theorem report_draftRun {mapping : ProjectMapping} {replies : DraftReplies F}
    {state drafted : DecisionState F} (hsalary : salaryPath state = false)
    (h : draftRun mapping replies state = .ok drafted) :
    ∃ report, draftReport (typedState state) (draftIdentity mapping state) replies.candidate =
      .ok report ∧ drafted.reportJson = some report := by
  rcases draftRun_cases h with ⟨hsalary', -⟩ | ⟨-, -, hreport⟩
  · rw [hsalary] at hsalary'
    cases hsalary'
  · exact hreport

/-- Node 12 leaves a report that names its type. -/
theorem reportType_draftRun {mapping : ProjectMapping} {replies : DraftReplies F}
    {state drafted : DecisionState F} (h : draftRun mapping replies state = .ok drafted) :
    ∃ (report : Dict F) (t : ReportType), drafted.reportJson = some report ∧
      report.get "report_type" = .str t.toStr := by
  rcases draftRun_cases h with ⟨-, -, hjson⟩ | ⟨-, -, report, hreport, hjson⟩
  · exact ⟨_, _, hjson, reportType_salaryReport _ _⟩
  · exact ⟨report, _, hjson, reportType_draftReport hreport⟩

end Snapshot

end DecisionCenter
