import DecisionCenter.Graph.Synthesis

/-!
# Reports built without the LLM

`_build_salary_availability_report`, the answer to a salary question without salary evidence,
and `_build_report_from_evidence`, the report every malformed draft falls back to
(`apps/edr/graph/node_12_draft_json.py`). Neither asks the LLM anything, so that their reports
are functions of the state.

A report is a dictionary with the keys of the schema, in the order in which the source builds
them, since later passes look keys up and exporters list them. The salary report has a finding
for each source of payroll data that has an item to cite, on what was retrieved there, and an
entry of missing data for each source in which nothing was found.

The evidence-built report quotes the pack: its findings are the excerpts of documents and emails
that are no file names, at most so many of a kind, and for a financial report they are drawn
from the figures instead. Its snapshot has an actual cost only where the role may see finance
(`builderActual`); the categories pass then places the other figures. Which sections it fills
depends on the type of the report (`builderDraft`).

What the report says is shared with the corrections of an LLM draft and stands in
`Graph.Synthesis`. That its claims cite the pack and that it passes the gate is proved in
`Graph.FallbackGate`.
-/

namespace DecisionCenter

open Py

variable {F : Type}

/-- `state.project_code` as a value. -/
def codeValue (code : Option String) : Value F :=
  match code with
  | some c => .str c
  | none => .null

/-- `ev.get("timestamp") or "—"` -/
def dateOrDash (ev : Evidence F) : String := (ev.timestamp.filter (· ≠ "")).getD "—"

/-! ### Salary availability -/

/-- `_source_coverage_note` -/
def sourceCoverageNote (source : String) (info : CoverageEntry) : String :=
  if info.status = .timeout then source ++ ": attempted; timed out; inconclusive"
  else if !info.attempted then source ++ ": not attempted"
  else if info.evidenceCount = 0 then
    source ++ ": checked; no salary/payroll records found in retrieved evidence"
  else source ++ ": checked; " ++ toString info.evidenceCount ++
    " evidence item(s) retrieved but none contain verified salary/payroll data"

/-- `_first_evidence_id_for_source` -/
def firstEvidenceIdForSource (evidence : List (Evidence F)) (source : SourceType) :
    Option String :=
  (evidence.find? fun ev => decide (ev.sourceType = source)).map (·.evidenceId)

/-- The order in which the availability report goes through the sources. -/
def salarySources : List ProjectSource := [.sharepoint, .email, .odoo]

/-- `checked_findings` -/
def salaryFindings (state : DecisionState F) : List (Finding F) :=
  let perSource := salarySources.filterMap fun src =>
    match firstEvidenceIdForSource state.evidence src.sourceType with
    | some eid => if eid ≠ "" then
        some ⟨sourceCoverageNote src.capitalized (state.outputs.sourceCoverage.entry src),
          [.str eid], "low"⟩
      else none
    | none => none
  match perSource, state.evidence with
  | [], ev :: _ => if ev.evidenceId ≠ "" then
      [⟨"Retrieved evidence does not contain verified salary/payroll records.",
        [.str ev.evidenceId], "low"⟩]
    else []
  | fs, _ => fs

/-- The entry of `missing_data` one enabled source adds. -/
def salaryMissing (src : ProjectSource) (info : CoverageEntry) : Option String :=
  match info.status with
  | .timeout => some (src.toStr ++ ": salary/payroll retrieval timed out — result is inconclusive")
  | .error => some (src.toStr ++ ": connector error prevented salary/payroll check")
  | _ => if info.evidenceCount = 0 then some (src.toStr ++ ": no salary/payroll records found")
    else none

/-- The sources entry of one item in the availability report. -/
def salarySource (ev : Evidence F) : Value F := sourceEntry "What Was Checked" ev

/-- `_build_salary_availability_report` -/
def buildSalaryAvailabilityReport (state : DecisionState F) (pid : ProjectIdentity) : Dict F :=
  let cov := state.outputs.sourceCoverage
  let findings := salaryFindings state
  let cited : Value F := .list ((findings.head?.map (·.evidenceIds)).getD [])
  let reason := "No verified salary/payroll records were available in the retrieved evidence. " ++
    (if (cov.entry .odoo).status = .timeout then
      "Odoo timed out, so ERP payroll/cost data was not confirmed. " else "") ++
    "SharePoint/email evidence reviewed does not contain salary/payroll records."
  let enabled := salarySources.filter fun src => (cov.entry src).enabled
  let checked := enabled.map fun src => sourceCoverageNote src.capitalized (cov.entry src)
  let missing := enabled.filterMap fun src => salaryMissing src (cov.entry src)
  let missing := if missing = [] then ["No salary/payroll evidence available."] else missing
  let executive : List (Value F) := if findings.isEmpty then []
    else [.dict [("claim", .str ("Cannot generate salary report for " ++ pid.projectName ++ " (" ++
        pid.projectCode ++ ") from verified evidence. " ++ reason)),
      ("evidence_ids", cited), ("confidence", .str "low")]]
  [("request_id", .str state.requestId), ("project_code", codeValue state.projectCode),
    ("project_identity", .dict pid.toDict), ("query", .str state.query), ("language", .str "en"),
    ("report_type", .str "salary_payroll"), ("executive_summary", .list executive),
    ("financial_snapshot", .dict emptySnapshot),
    ("key_findings", .list (findings.map Finding.toValue)), ("root_causes", .list []),
    ("delay_analysis", .list []), ("contractual_implications", .list []),
    ("recommended_actions", .list [.dict [
      ("text", .str ("Connect a verified HR/payroll source or re-run with an explicit " ++
        "salary/payroll export.")),
      ("evidence_ids", cited), ("confidence", .str "low")]]),
    ("management_question_answer", .dict (emptyManagementAnswer
      ("Salary/payroll evidence not found; request requires HR/Finance data source and " ++
        "authorization."))),
    ("missing_data", .list (missing.map .str)), ("conflicts", .list []),
    ("sources", .list (state.evidence.map salarySource)),
    ("what_was_checked", .list (checked.map .str)),
    ("required_data", .list ([
      "Verified HR/payroll source with staff name, file ID, salary/cost, and period fields.",
      "Role-based access approval for salary/payroll data (HR/Finance/Executive).",
      "If Odoo is the source: confirmed analytic/accounting line query for labor cost by " ++
        "employee."].map .str)),
    ("connector_coverage", .list cov.reportSection), ("quality_gate_status", .str "not_run")]

/-! ### The evidence-built report -/

variable [Floats F] [Text]

/-- The section a content finding goes to. -/
def findingSection (ev : Evidence F) : String :=
  let tags := ev.tags.map lower
  if ["delay", "eot", "schedule"].any fun t => decide (t ∈ tags) then "delay_analysis"
  else if ["contract", "claim", "risk"].any fun t => decide (t ∈ tags) then
    "contractual_implications"
  else "key_findings"

/-- The content of a document or email as a finding, never its file name. -/
def contentFinding (reportType : ReportType) (ev : Evidence F) :
    Option (String × Finding F) :=
  let excerpt := strip ev.excerpt
  if reportType ≠ .financial ∧ excerpt ≠ "" ∧ isFilenameOrTitleOnly ev = false then
    let text := takeChars 200 excerpt ++ (if 200 < excerpt.length then "..." else "")
    some (findingSection ev, ⟨text, [.str ev.evidenceId], "low"⟩)
  else none

/-- The content findings of one section. -/
def sectionFindings (reportType : ReportType) (docs : List (Evidence F)) (sec : String) :
    Value F :=
  .list (((docs.filterMap (contentFinding reportType)).filter fun p => decide (p.1 = sec)).map
    fun p => p.2.toValue)

omit [Floats F] [Text] in
/-- The sources entry of the evidence-built report. -/
def builderSource (usedIn : String) (idx : ℕ) (ev : Evidence F) : Value F :=
  .dict [("source_id", .str ("S" ++ toString idx)), ("source_type", .str ev.sourceType.toStr),
    ("title", .str ev.title), ("reference", .str ev.sourceUri), ("date", .str (dateOrDash ev)),
    ("confidence", .str ev.confidence.toStr), ("used_in", .list [.str usedIn])]

/-- `can_see_finance` -/
def canSeeFinance (role : Option String) : Bool :=
  decide (role.getD "unknown" ∈
    ["executive", "project_manager", "finance", "commercial", "procurement", "legal"])

/-- The actual cost of the evidence-built report. -/
def builderActual (role : Option String) (ctx : OdooContext F) : Dict F :=
  match ctx.bestEvidenceId with
  | some e =>
    if canSeeFinance role ∧ ctx.hasAmount ∧ e ≠ "" then
      [("value", amountValue ctx.totalAmount), ("currency", .str "AED"), ("evidence_id", .str e),
        ("status", .str "available")]
    else notAvailableNode
  | none => notAvailableNode

/-- `state.outputs.get("report_type", classify_report_type(state.query))` -/
def reportTypeOf (state : DecisionState F) : ReportType :=
  state.outputs.reportType.getD (classifyReportType state.query)

/-- The evidence the builder looks at. -/
def builderEvidence (state : DecisionState F) : List (Evidence F) :=
  if reportTypeOf state = .financial then filterFinancialEvidence state.evidence state.query
  else state.evidence

/-- The report before the financial passes. -/
def builderDraft (state : DecisionState F) (pid : ProjectIdentity) (ctx : OdooContext F) :
    Dict F :=
  let reportType := reportTypeOf state
  let evidence := builderEvidence state
  let odooEv := odooEvidence evidence
  let docEv := evidence.filter fun ev =>
    decide (ev.sourceType = .sharepoint ∨ ev.sourceType = .owncloud)
  let emailEv := evidence.filter fun ev => decide (ev.sourceType = .email)
  let docs := docEv ++ emailEv
  let sources := docs.mapIdx (fun i => builderSource "Sources" (i + 1))
    ++ odooEv.mapIdx (fun i => builderSource "Financial Snapshot" (docs.length + i + 1))
  let missing : List String :=
    if evidence.isEmpty then ["No evidence was retrieved for this query."] else []
  [("request_id", .str state.requestId), ("project_code", codeValue state.projectCode),
    ("query", .str state.query), ("language", .str "en"), ("project_identity", .dict pid.toDict),
    ("report_type", .str reportType.toStr),
    ("executive_summary", .list (basicExecutiveSummary state docEv emailEv ctx pid)),
    ("financial_snapshot", .dict [("budget", .dict notAvailableNode),
      ("actual_cost", .dict (builderActual state.role ctx)), ("variance", .dict emptyVariance)]),
    ("key_findings", sectionFindings reportType docs "key_findings"), ("root_causes", .list []),
    ("delay_analysis", sectionFindings reportType docs "delay_analysis"),
    ("contractual_implications", sectionFindings reportType docs "contractual_implications"),
    ("recommended_actions", .list []),
    ("management_question_answer", .dict (emptyManagementAnswer
      ("Automated executive synthesis unavailable; evidence catalogued for manual review."))),
    ("missing_data", .list (missing.map .str)), ("conflicts", .list []),
    ("sources", .list sources), ("quality_gate_status", .str "not_run")]

/-- `_build_report_from_evidence` -/
def buildReportFromEvidence (state : DecisionState F) (pid : ProjectIdentity) :
    Except Error (Dict F) := do
  let evidence := builderEvidence state
  let odooEv := odooEvidence evidence
  let ctx := extractOdooContext odooEv
  let report ← enforceFinancialCategories (builderDraft state pid ctx) ctx odooEv
    (evidenceIds evidence)
  if reportTypeOf state = .financial then forceFinancialOdooSynthesis report state ctx pid
  else pure report

end DecisionCenter
