import DecisionCenter.Graph.Citations
import DecisionCenter.Graph.Intent
import DecisionCenter.Graph.ReportPolicy

/-!
# The quality gate

Node 13 (`apps/edr/graph/node_13_quality_gate.py`), the deterministic claim checker. It reads
the report as any JSON object; a check that meets a value it cannot handle raises, and the
exception is the result of the node.

The checks stand in the order of the source: the claims and their ids, the financial figures,
the sources, and then those on the text (the project's identity, raw filenames, the framing of a
salary answer, the intent, irrelevant sections and the decision memo). Each is a function from
what it reads to a list of `ClaimCheck`, in `Except` where it may raise, with the texts of the
source. Patterns are handed to the engine of the interpreter, which is a parameter.

`checkRunners` is the list of all of them, each with the family it belongs to, and `runChecks`
runs those that the policy of the report's type selects. The verdict is a cascade over what has
been found (`gateResult`): a report without claims over an empty pack fails, and so does one
with an unsupported claim; then come the checks that call for a review, and last the enabled
sources that failed or were not attempted, which turn a pass into a review.

`gateRun` is the whole node: it stamps the verdict and the two measures of completeness on the
report, which is all that it changes of it, and stores the verdict among the outputs. What the
checks find is the subject of `Graph.GateSpec`; this module has definitions only.
-/

namespace DecisionCenter

open Py

variable {F : Type}

/-! ### Checks -/

/-- `ClaimCheck.verdict` -/
inductive CheckVerdict where
  | supported
  | unsupported
  | needsReview
  deriving DecidableEq, Repr

/-- `ClaimCheck` (`apps/edr/schemas/quality_gate.py`) -/
structure ClaimCheck where
  claimId : String
  verdict : CheckVerdict
  evidenceIds : List String
  reason : String

/-- The string a value is, as the schema demands it. -/
def strictStr : Value F → Except Error String
  | .str s => pure s
  | _ => throw .validationError

/-- Validation of `evidence_ids: list[str]`. -/
def validatedIds : Value F → Except Error (List String)
  | .list xs => xs.mapM strictStr
  | _ => throw .validationError

/-- The constructor of `ClaimCheck` on an `evidence_ids` value from the report. -/
def claimCheck (claimId : String) (verdict : CheckVerdict) (eids : Value F) (reason : String) :
    Except Error ClaimCheck := do
  pure ⟨claimId, verdict, ← validatedIds eids, reason⟩

/-- The dictionaries among the items of a section, each under its position. -/
def collectSection (report : Dict F) (sec : String) : Except Error (List (String × Dict F)) := do
  let items ← (report.getD sec (.list [])).iter
  pure ((items.mapIdx fun i item =>
    item.asDict?.map fun d => (sec ++ "[" ++ toString i ++ "]", d)).filterMap id)

/-- `_collect_claims` -/
def collectClaims (report : Dict F) : Except Error (List (String × Dict F)) := do
  pure (← claimSections.mapM (collectSection report)).flatten

/-- `[e for e in eids if e not in evidence_ids]` -/
def missingIds (ids : List String) (eids : Value F) : Except Error (List (Value F)) := do
  (← eids.iter).filterM fun e => do pure !(← e.inSet ids)

section Checks

variable [Floats F]

/-- The check of one claim. -/
def checkClaim (ids : List String) (claim : String × Dict F) : Except Error ClaimCheck := do
  let eids := claim.2.getD "evidence_ids" (.list [])
  if !eids.truthy then pure ⟨claim.1, .unsupported, [], "Claim has no evidence_ids."⟩
  else
    match ← missingIds ids eids with
    | [] => claimCheck claim.1 .supported eids "All evidence_ids present in evidence pack."
    | invalid =>
      claimCheck claim.1 .unsupported eids
        ("Evidence ID(s) not found in pack: " ++ (Value.list invalid).toStr ++ ".")

/-- `_check_claims` -/
def checkClaims (report : Dict F) (ids : List String) : Except Error (List ClaimCheck) := do
  (← collectClaims report).mapM (checkClaim ids)

/-- The figures that must be evidence-bound when available. -/
def gatedFigures : List String :=
  ["budget", "contract_value", "estimate", "actual_cost", "payroll_cost", "expense_cost",
    "committed_cost", "total_incurred"]

/-- The check of one figure of the snapshot. -/
def checkFigure (fs : Dict F) (ids : List String) (field : String) :
    Except Error (List ClaimCheck) :=
  match fs.dict? field with
  | none => pure []
  | some node =>
    if (node.get "status").eqStr "available" then do
      let eid := node.get "evidence_id"
      if !eid.truthy then
        pure [⟨"financial_snapshot." ++ field, .unsupported, [], "Financial field '" ++ field ++
          "' is marked available but has no Odoo evidence_id."⟩]
      else if ← eid.inSet ids then pure []
      else do
        pure [← claimCheck ("financial_snapshot." ++ field) .unsupported (.list [eid])
          ("Financial field '" ++ field ++ "' cites evidence_id '" ++ eid.toStr ++
            "' which is not in the evidence pack.")]
    else pure []

/-- The check of the variance's evidence ids. -/
def checkVariance (fs : Dict F) (ids : List String) : Except Error (List ClaimCheck) :=
  match fs.dict? "variance" with
  | none => pure []
  | some variance => do
    let eids := variance.getD "evidence_ids" (.list [])
    if !eids.truthy then pure []
    else
      match ← missingIds ids eids with
      | [] => pure []
      | invalid => do
        pure [← claimCheck "financial_snapshot.variance" .unsupported eids
          ("Variance cites missing evidence_id(s): " ++ (Value.list invalid).toStr ++ ".")]

/-- `_check_financials` -/
def checkFinancials (report : Dict F) (ids : List String) : Except Error (List ClaimCheck) :=
  match report.dict? "financial_snapshot" with
  | none => pure []
  | some fs => do
    pure ((← gatedFigures.mapM (checkFigure fs ids)).flatten ++ (← checkVariance fs ids))

omit [Floats F] in
/-- `_check_sources` -/
def checkSources (report : Dict F) : List ClaimCheck :=
  match report.getD "sources" (.list []) with
  | .list _ => []
  | _ => [⟨"sources", .needsReview, [], "Sources section is missing or not a list."⟩]

omit [Floats F] in
/-- `_check_conflicts` -/
def checkConflicts (report : Dict F) : List ClaimCheck :=
  match report.getD "conflicts" (.list []) with
  | .list _ => []
  | _ => [⟨"conflicts", .needsReview, [], "Conflicts section is not a list."⟩]

omit [Floats F] in
/-- `_check_executive_summary` -/
def checkExecutiveSummary (report : Dict F) (evidence : List (Evidence F)) : List ClaimCheck :=
  match report.get "executive_summary" with
  | .list [] =>
    if evidence.isEmpty then []
    else [⟨"executive_summary", .unsupported, [],
      "Executive summary is empty despite retrieved evidence. " ++
        "A report with evidence must include a synthesized executive summary."⟩]
  | _ => []

end Checks

/-! ### Checks of the text -/

section TextChecks

variable [Floats F] [Text]

/-- `str(v or "").strip()` -/
def shownText (v : Value F) : String := strip (v.orElse (.str "")).toStr

/-- `_check_project_identity` -/
def checkProjectIdentity (report : Dict F) : List ClaimCheck :=
  match report.dict? "project_identity" with
  | none => [⟨"project_identity", .unsupported, [],
      "Report is missing the required project_identity object."⟩]
  | some pid =>
    let name := shownText (pid.get "project_name")
    let confidence := pid.get "identity_confidence"
    (if name = "" ∨ lower name = "not verified" then
      [⟨"project_identity.project_name", .unsupported, [],
        "Project name is missing or not verified; reports must use a verified project name."⟩]
    else if !(confidence.eqStr "verified" || confidence.eqStr "partial") then
      [⟨"project_identity.identity_confidence", .needsReview, [],
        "Project identity confidence is '" ++ confidence.toStr ++
          "'; expected verified or partial."⟩]
    else [])
      ++ (if shownText (pid.get "project_code") = "" then
        [⟨"project_identity.project_code", .needsReview, [],
          "Project code is missing from project_identity."⟩]
      else [])

/-- `_FILENAME_RE` -/
def filenameRe : String :=
  r"^[\w\-.()' &]+\.(pdf|xlsx|xls|docx|doc|pptx|ppt|dwg|dxf|jpe?g|png|csv|zip|rar|txt)$"

/-- `_FILENAME_EMBEDDED_RE` -/
def filenameEmbeddedRe : String :=
  r"\b[\w\-]+\.(pdf|xlsx|xls|docx|doc|pptx|ppt|dwg|dxf|jpe?g|png|csv|zip|rar|txt)\b"

/-- The check of one claim text for a raw file name. -/
def checkRawFilename (claim : String × Dict F) : Except Error (List ClaimCheck) := do
  let text ← ((claim.2.get "text").orElse (claim.2.get "claim")).stripText
  if text ≠ "" ∧ (searches filenameRe text || searches filenameEmbeddedRe text) = true then
    let eids : Value F := match claim.2.getD "evidence_ids" (.list []) with
      | .list xs => .list xs
      | _ => .list []
    pure [← claimCheck (claim.1 ++ ".raw_filename") .unsupported eids
      ("Visible report body contains a raw filename rather than " ++
        "executive-facing synthesized analysis.")]
  else pure []

/-- The claims of the sections that are lists. -/
def collectListed (report : Dict F) : List (String × Dict F) :=
  claimSections.flatMap fun sec =>
    match report.getD sec (.list []) with
    | .list items => (items.mapIdx fun i item =>
        item.asDict?.map fun d => (sec ++ "[" ++ toString i ++ "]", d)).filterMap id
    | _ => []

/-- `_check_raw_filename_findings` -/
def checkRawFilenameFindings (report : Dict F) : Except Error (List ClaimCheck) := do
  pure (← (collectListed report).mapM checkRawFilename).flatten

/-- `report.get("report_type", classify_report_type(query))` -/
def typeOfReport (report : Dict F) (query : String) : Value F :=
  report.getD "report_type" (.str (classifyReportType query).toStr)

/-- `v in types` for a tuple of report types. -/
def isOneOf (v : Value F) (types : List ReportType) : Bool := types.any fun t => v.eqStr t.toStr

/-- `(report.get(key) or {})` when that is a dictionary. -/
def dictOrEmpty? (report : Dict F) (key : String) : Option (Dict F) :=
  ((report.get key).orElse (.dict [])).asDict?

/-- `" ".join(item.get("claim", "") for item in es if isinstance(item, dict))` -/
def joinedClaims (es : List (Value F)) : Except Error String := do
  let claims ← (es.filterMap Value.asDict?).mapM fun d =>
    match d.getD "claim" (.str "") with
    | .str s => pure s
    | _ => throw .typeError
  pure (join " " claims)

/-- `has_mqa_answer` -/
def hasMemoAnswer (report : Dict F) : Except Error Bool :=
  match dictOrEmpty? report "management_question_answer" with
  | some mqa => do pure (decide ((← (mqa.get "executive_answer").stripText) ≠ ""))
  | none => pure false

/-- The check of the framing of a salary report. -/
def checkSalaryFraming (report : Dict F) (reportType : Value F) :
    Except Error (List ClaimCheck) :=
  if reportType.eqStr "salary_payroll" then do
    let text := lower (← joinedClaims (← (report.getD "executive_summary" (.list [])).iter))
    if contains text "biggest problem" || contains text "management should decide" then
      pure [⟨"intent.salary_payroll_framing", .needsReview, [],
        "Salary/payroll report uses management-decision or 'biggest problem' framing."⟩]
    else pure []
  else pure []

/-- `_check_intent_correctness` -/
def checkIntentCorrectness (report : Dict F) (query : String) :
    Except Error (List ClaimCheck) := do
  let reportType := typeOfReport report query
  let hasAnswer ← hasMemoAnswer report
  let answered : List ClaimCheck :=
    if isOneOf reportType [.salaryPayroll, .dataReport, .documentSearch] && hasAnswer then
      [⟨"intent.management_question_answer", .needsReview, [], "Report type is '" ++
        reportType.toStr ++ "' but management_question_answer is populated."⟩]
    else []
  pure (answered ++ (← checkSalaryFraming report reportType))

/-- `_check_irrelevant_sections` -/
def checkIrrelevantSections (report : Dict F) (query : String) : List ClaimCheck :=
  let reportType := typeOfReport report query
  if isOneOf reportType [.salaryPayroll, .dataReport, .documentSearch] then
    let filled := ["root_causes", "delay_analysis", "contractual_implications"].filter fun sec =>
      match report.getD sec (.list []) with
      | .list (_ :: _) => true
      | _ => false
    let figures := match dictOrEmpty? report "financial_snapshot" with
      | some fs => gatedFigures.any fun k =>
          (fs.dict? k).any fun node => (node.get "status").eqStr "available"
      | none => false
    let irrelevant := filled ++
      (if reportType.eqStr "document_search" && figures then ["financial_snapshot"] else [])
    if irrelevant = [] then []
    else [⟨"intent.irrelevant_sections", .needsReview, [], reportType.toStr ++
      " report contains irrelevant sections: " ++
        (Value.list (irrelevant.map .str) : Value F).toStr ++ "."⟩]
  else []

omit [Text] in
/-- `_check_confidence_against_evidence` -/
def checkConfidence (report : Dict F) (cov : Ledger) : Except Error (List ClaimCheck) := do
  let high := ((← collectClaims report).filter fun c => (c.2.get "confidence").eqStr "high").map
    (·.1)
  let errors := !cov.connectorErrors.isEmpty
  if !high.isEmpty && (cov.hasTimeouts || errors) then
    pure [⟨"confidence.cap_high_confidence", .needsReview, [],
      "High-confidence claims found in " ++ (Value.list (high.map .str) : Value F).toStr ++
        " despite source failures (timeouts=" ++ (Value.bool cov.hasTimeouts : Value F).toStr ++
        ", errors=" ++ (Value.bool errors : Value F).toStr ++ ")."⟩]
  else pure []

/-- `_check_timeout_semantics` -/
def checkTimeoutSemantics (report : Dict F) (cov : Ledger) : Except Error (List ClaimCheck) :=
  if cov.hasTimeouts then do
    let missing ← (report.getD "missing_data" (.list [])).iter
    let text := lower (join " " (missing.map Value.toStr))
    if contains text "no data" || contains text "returned empty" ||
        contains text "empty result" then
      pure [⟨"semantics.timeout_as_no_data", .needsReview, [],
        "A source timed out but missing_data describes it as 'no data' or 'empty' instead of " ++
          "inconclusive."⟩]
    else pure []
  else pure []

/-- `_SEARCH_SUMMARY_PATTERNS` -/
def searchSummaryRe : String :=
  r"\b(evidence\s+retrieval|evidence\s+review|search\s+results?|" ++
  r"retrieved|catalogued|document\(s\)\s+and|email\(s\)\s+retrieved|" ++
  r"available\s+evidence)\b"

/-- The check of one entry of the executive summary. -/
def checkSearchSummary (idx : ℕ) (item : Value F) : Except Error (List ClaimCheck) :=
  match item with
  | .dict d =>
    match Dict.getD d "claim" (.str "") with
    | .str claim =>
      if searches searchSummaryRe claim then do
        pure [← claimCheck ("executive_summary[" ++ toString idx ++ "]") .needsReview
          (Dict.getD d "evidence_ids" (.list []))
          ("Executive summary appears to be a search/evidence summary " ++
            "rather than an analytical answer to the query.")]
      else pure []
    | _ => throw .typeError
  | _ => pure []

/-- `_check_search_summary_patterns` -/
def checkSearchSummaryPatterns (report : Dict F) : Except Error (List ClaimCheck) :=
  match report.getD "executive_summary" (.list []) with
  | .list es => do pure (← (es.mapIdx checkSearchSummary).mapM id).flatten
  | _ => pure []

/-! ### The decision memo -/

omit [Floats F] [Text] in
/-- A review note on one field of the memo. -/
def memoNote (field : String) (verdict : CheckVerdict) (reason : String) : ClaimCheck :=
  ⟨"management_question_answer" ++ field, verdict, [], reason⟩

/-- `all((d.get(k) or "").strip() for k in keys)` -/
def allFilled (d : Dict F) : List String → Except Error Bool
  | [] => pure true
  | k :: ks => do if (← (d.get k).stripText) = "" then pure false else allFilled d ks

/-- The object under `key` has all these texts. -/
def allFilledIn (mqa : Dict F) (key : String) (keys : List String) : Except Error Bool :=
  match dictOrEmpty? mqa key with
  | some d => allFilled d keys
  | none => pure false

/-- The checks on the fields of the memo. -/
def checkMemo (mqa : Dict F) : Except Error (List ClaimCheck) := do
  let answer ← (mqa.get "executive_answer").stripText
  let whyOk := match mqa.get "why_biggest_problem" with
    | .list why => decide (3 ≤ why.length)
    | _ => false
  let impactOk ← allFilledIn mqa "business_impact"
    ["schedule_impact", "cost_commercial_impact", "operational_client_impact"]
  let decision ← (mqa.get "decision_required").stripText
  let actionOk ← allFilledIn mqa "recommended_action" ["specific_action", "owner_role"]
  let risks ← (mqa.get "risks_if_no_action").stripText
  let confidence := mqa.get "confidence"
  let confidenceOk := ["high", "medium", "low"].any fun c => confidence.eqStr c
  pure ((if answer = "" then [memoNote ".executive_answer" .unsupported
      "Management question requires a non-empty executive_answer."] else [])
    ++ (if whyOk then [] else [memoNote ".why_biggest_problem" .needsReview
      ("Management question answer should provide 3-5 bullets explaining why this is the " ++
        "biggest problem.")])
    ++ (if impactOk then [] else [memoNote ".business_impact" .needsReview
      ("Business impact should cover schedule, cost/commercial, and operational/client " ++
        "dimensions.")])
    ++ (if decision = "" then [memoNote ".decision_required" .needsReview
      "Management question answer should state what management must decide now."] else [])
    ++ (if actionOk then [] else [memoNote ".recommended_action" .needsReview
      "Recommended action should include specific_action and owner_role."])
    ++ (if risks = "" then [memoNote ".risks_if_no_action" .needsReview
      "Management question answer should include risks_if_no_action."] else [])
    ++ (if confidenceOk then [] else [memoNote ".confidence" .needsReview
      "Confidence must be high, medium, or low."]))

/-- `_check_management_question_answer` -/
def checkManagementQuestionAnswer (report : Dict F) (query : String) :
    Except Error (List ClaimCheck) :=
  let reportType := (report.get "report_type").orElse (.str (classifyReportType query).toStr)
  if reportType.eqStr "management_question" then
    match report.dict? "management_question_answer" with
    | none => pure [memoNote "" .unsupported
        "Management question requires a management_question_answer object."]
    | some mqa => checkMemo mqa
  else pure []

end TextChecks

/-! ### The verdict -/

section Gate

variable [Floats F] [Text]

/-- The check runners, in the order they run. -/
def checkRunners (report : Dict F) (state : DecisionState F) :
    List (CheckFamily × Except Error (List ClaimCheck)) :=
  let ids := evidenceIds state.evidence
  let cov := state.outputs.sourceCoverage
  [(.claims, checkClaims report ids), (.financials, checkFinancials report ids),
    (.sources, pure (checkSources report)), (.conflicts, pure (checkConflicts report)),
    (.executiveSummary, pure (checkExecutiveSummary report state.evidence)),
    (.searchSummary, checkSearchSummaryPatterns report),
    (.rawFilename, checkRawFilenameFindings report),
    (.managementQuestionAnswer, checkManagementQuestionAnswer report state.query),
    (.projectIdentity, pure (checkProjectIdentity report)),
    (.intentCorrectness, checkIntentCorrectness report state.query),
    (.irrelevantSections, pure (checkIrrelevantSections report state.query)),
    (.confidence, checkConfidence report cov),
    (.timeoutSemantics, checkTimeoutSemantics report cov)]

/-- The checks of the policy of the report's type. -/
def runChecks (report : Dict F) (state : DecisionState F) : Except Error (List ClaimCheck) := do
  let policy ← policyFor
    ((report.get "report_type").orElse (.str (classifyReportType state.query).toStr))
  let runners := (checkRunners report state).filter fun r => policy.runsCheck r.1
  pure (← runners.mapM fun r => r.2).flatten

/-- What the gate finds: its verdict and its checks. -/
structure GateResult where
  verdict : Verdict
  checks : List ClaimCheck

/-- The verdict the checks alone give. -/
def verdictOf (checks : List ClaimCheck) : Verdict :=
  if checks.any fun c => decide (c.verdict = .unsupported) then .failed
  else if checks.any fun c => decide (c.verdict = .needsReview) then .needsReview
  else .passed

omit [Floats F] [Text] in
/-- The enabled sources that errored or were not attempted. -/
def coverageBlocking (cov : Ledger) : List ProjectSource := cov.connectorErrors ++ cov.notAttempted

/-- The verdict of `run`, with all checks. -/
def gateResult (report : Dict F) (state : DecisionState F) : Except Error GateResult := do
  let checks ← runChecks report state
  let claims ← collectClaims report
  let empty := claims.isEmpty && state.evidence.isEmpty
  let verdict := if empty then .failed else verdictOf checks
  let emptyCheck : List ClaimCheck := if empty then
      [⟨"global", .unsupported, [], "No evidence retrieved and no claims generated."⟩]
    else []
  let blocking := coverageBlocking state.outputs.sourceCoverage
  let coverageCheck : List ClaimCheck := if blocking = [] then []
    else [⟨"connector_coverage", .needsReview, [],
      "Enabled source(s) not satisfied (errored or not attempted): " ++
        (Value.list (blocking.map fun s => .str s.toStr) : Value F).toStr ++ "."⟩]
  let verdict := if blocking ≠ [] ∧ verdict = .passed then .needsReview else verdict
  pure ⟨verdict, checks ++ emptyCheck ++ coverageCheck⟩

omit [Floats F] [Text] in
/-- The sections of `_compute_analytical_completeness` that are lists, with their priority. -/
def completenessSections : List (String × String) :=
  [("executive_summary", "critical"), ("key_findings", "important"),
    ("delay_analysis", "contextual"), ("root_causes", "contextual"),
    ("contractual_implications", "contextual"), ("recommended_actions", "important")]

omit [Floats F] [Text] in
/-- `_compute_analytical_completeness(report)["overall"]` -/
def analyticalCompleteness (report : Dict F) : String :=
  let emptySections := completenessSections.filter fun kp =>
    match report.getD kp.1 (.list []) with
    | .list (_ :: _) => false
    | _ => true
  let fs := (report.dict? "financial_snapshot").getD []
  let emptyFigures := [("budget", "critical"), ("actual_cost", "important")].filter fun kp =>
    !((fs.dict? kp.1).any fun node => (node.get "status").eqStr "available")
  let priorities := (emptySections ++ emptyFigures).map (·.2)
  if "critical" ∈ priorities then "incomplete"
  else if "important" ∈ priorities then "partial"
  else "complete"

/-- The completeness measures and the verdict, embedded in the report. -/
def stampReport (report : Dict F) (verdict : Verdict) (cov : Ledger) : Dict F :=
  ((report.set "quality_gate_status" (.str verdict.toStr)).set "evidence_completeness"
    (.str cov.completeness)).set "analytical_completeness" (.str (analyticalCompleteness report))

/-- `run` of node 13. -/
def gateRun (state : DecisionState F) : Except Error (DecisionState F) := do
  let report := state.reportJson.getD []
  let result ← gateResult report state
  let stamped := stampReport report result.verdict state.outputs.sourceCoverage
  pure { state with
    -- the verdict is written into the report only where there is one
    reportJson := if report.isEmpty then state.reportJson else some stamped
    outputs := { state.outputs with qualityGate := some result.verdict } }

end Gate

end DecisionCenter
