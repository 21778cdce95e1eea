import DecisionCenter.Graph.Builder

/-!
# Drafting the report

Node 12 (`apps/edr/graph/node_12_draft_json.py`): a candidate is parsed or repaired from what
the LLM returned, brought into shape and accepted or replaced by the evidence-built report, and
then goes through the deterministic corrections. The LLM enters as `DraftReplies`: what its
answers parse to, any JSON at all, or that they do not parse.

The candidate is the first of three that is an object with something in it: the first answer,
the structural repair of its text and, where the first answer does not parse, the answer to the
repair call. It is accepted if its claims are well formed (`acceptDraft`); otherwise, or where
there is none, the report is built from the evidence. Either way the corrections follow, in the
source's order: the figures, the rebuilt sources, the missing data, the texts, the type and the
status (`draftReport`).

A salary question without salary evidence is answered before all this (`salaryPath`), by the
availability report. `draftRun` is the node: it leaves the report in the state and the pack as
it was.

Every pass is a function from a report to a report that may raise, so that a pass on a report of
an unexpected shape raises here where it raises there. What each of them leaves alone is in
`Graph.DraftFrame`; the costs of the calls and the time stamps are left out.
-/

namespace DecisionCenter

open Py

variable {F : Type} [Floats F] [Text]

/-! ### The candidate -/

/-- What the two calls of the LLM and the structural repair yield. -/
structure DraftReplies (F : Type) where
  /-- `json.loads` of the first answer; `none` when it raises. -/
  parsed : Option (Value F)
  /-- The object `json_repair` recovers, if it does. -/
  structural : Option (Dict F)
  /-- `json.loads` of the answer to the repair prompt; `none` when the call or the parse raises. -/
  repair : Option (Value F)

omit [Floats F] [Text] in
/-- Replace a missing or empty report by the next attempt, if that has one. -/
def orDraft (report next : Option (Dict F)) : Option (Dict F) :=
  match report with
  | some (kv :: d) => some (kv :: d)
  | _ => match next with
    | some d => some d
    | none => report

omit [Floats F] [Text] in
/-- The report candidate: strict parse, structural repair, repair by the LLM. -/
def DraftReplies.candidate (replies : DraftReplies F) : Option (Dict F) :=
  let report := orDraft (replies.parsed.bind Value.asDict?) replies.structural
  match replies.parsed with
  | some _ => report
  | none => orDraft report (replies.repair.bind Value.asDict?)

/-! ### Acceptance -/

/-- One item of a section in `_report_has_valid_claims`: `none` rejects the report, `some real`
says whether the item is a real claim. -/
def validItem (ids : List String) (item : Value F) : Except Error (Option Bool) :=
  match item with
  | .dict d => do
    let eids ← flattenEids (Dict.getD d "evidence_ids" (.list []))
    if eids = [] ∨ eids.any (fun e => decide (e ∉ ids ∨ e = "" ∨ e = "ev_...")) = true then
      pure none
    else do
      let text := ((Dict.get d "text").orElse (Dict.get d "claim")).orElse (.str "")
      pure (some (!(← isPlaceholderText text)))
  | _ => pure (some false)

/-- The items of one section, in order; the first bad one rejects the report. -/
def validItems (ids : List String) : List (Value F) → Except Error (Option Bool)
  | [] => pure (some false)
  | item :: items => do
    match ← validItem ids item with
    | none => pure none
    | some real => do
      match ← validItems ids items with
      | none => pure none
      | some more => pure (some (real || more))

/-- The sections of `_report_has_valid_claims`, in order. -/
def validSections (report : Dict F) (ids : List String) :
    List String → Except Error (Option Bool)
  | [] => pure (some false)
  | sec :: secs =>
    match report.get sec with
    | .list items => do
      match ← validItems ids items with
      | none => pure none
      | some real => do
        match ← validSections report ids secs with
        | none => pure none
        | some more => pure (some (real || more))
    | _ => pure none

/-- `_report_has_valid_claims` -/
def reportHasValidClaims (report : Dict F) (ids : List String) : Except Error Bool := do
  pure ((← validSections report ids claimSections).getD false)

/-- The draft in its normal form, if it is accepted. -/
def acceptDraft (evidence : List (Evidence F)) (candidate : Dict F) :
    Except Error (Option (Dict F)) := do
  let ids := evidenceIds evidence
  let ctx := extractOdooContext (odooEvidence evidence)
  let report ← normalizeFinancialSnapshot candidate
  let report ← enforceFinancialFromOdoo report ctx ids
  let report ← remapEvidenceIds report evidence
  if ← reportHasValidClaims report ids then pure (some report) else pure none

/-- `_normalize` -/
def normalizeDraft (state : DecisionState F) (pid : ProjectIdentity)
    (candidate : Option (Dict F)) : Except Error (Dict F) :=
  match candidate with
  | none => buildReportFromEvidence state pid
  | some d => do
    match ← acceptDraft state.evidence d with
    | some report => pure report
    | none => buildReportFromEvidence state pid

/-! ### Corrections -/

omit [Floats F] [Text] in
/-- `len(mqa.get("executive_answer", ""))` of the log line on the parsed report. -/
def previewAnswer (report : Dict F) : Except Error Unit :=
  match report.dict? "management_question_answer" with
  | some mqa => match mqa.getD "executive_answer" (.str "") with
    | .str _ => pure ()
    | .list _ => pure ()
    | .dict _ => pure ()
    | _ => throw .typeError
  | none => pure ()

omit [Floats F] [Text] in
/-- Ensure required fields exist. -/
def fillDefaults (state : DecisionState F) (report : Dict F) : Dict F :=
  let defaults : List (String × Value F) :=
    [("request_id", .str state.requestId), ("project_code", codeValue state.projectCode),
      ("query", .str state.query), ("language", .str "en"), ("executive_summary", .list []),
      ("financial_snapshot", .dict emptySnapshot), ("key_findings", .list []),
      ("root_causes", .list []), ("delay_analysis", .list []),
      ("contractual_implications", .list []), ("recommended_actions", .list []),
      ("management_question_answer", .dict (emptyManagementAnswer "")),
      ("missing_data", .list []), ("conflicts", .list []), ("sources", .list []),
      ("quality_gate_status", .str "not_run")]
  defaults.foldl (fun r kv => r.setdefault kv.1 kv.2) report

/-- The nested `add` of `_enforce_missing_data`: the items and the text they make up. -/
def addMissing (s : List (Value F) × String) (item : String) (keywords : List String) :
    List (Value F) × String :=
  if keywords.any fun kw => contains s.2 (lower kw) then s
  else (s.1 ++ [.str item], s.2 ++ " " ++ lower item)

/-- `_enforce_missing_data` -/
def enforceMissingData (report : Dict F) (ctx : OdooContext F) : Dict F :=
  let missing := ((report.get? "missing_data").bind Value.asList?).getD []
  let s := (missing, lower (join " " (missing.map Value.toStr)))
  let s := addMissing s "Project budget (AED): not available in Odoo analytic line records"
    ["budget"]
  let s := addMissing s "Cost variance (budget vs actual): not calculable without a budget baseline"
    ["variance"]
  let s := if ctx.hasAmount then s
    else addMissing s "Actual cost total: not available — no cost analytic lines in evidence"
      ["actual cost", "actual_cost"]
  let listing := ["financial", "salary_payroll", "data_report", "document_search"].any
    fun t => (report.get "report_type").eqStr t
  let s := if !listing && !(report.get "delay_analysis").truthy &&
        !(report.get "root_causes").truthy then
      addMissing s "Delay analysis: no specific delay events extracted from available documents"
        ["delay"]
    else s
  let s := if (report.get "recommended_actions").truthy then s
    else addMissing s
      "Recommended actions: insufficient specific evidence basis in current evidence set"
      ["recommended"]
  report.set "missing_data" (.list s.1)

omit [Text] in
/-- The ids the executive summary takes over from one finding. -/
def findingRefs (f : Value F) : Except Error (List (Value F)) :=
  match f with
  | .dict d => do pure ((← (Dict.getD d "evidence_ids" (.list [])).iter).filter Value.truthy)
  | _ => throw .attributeError

omit [Text] in
/-- The ids of the first findings, for an executive summary that is missing. -/
def summaryRefs (findings : Value F) : Except Error (List (Value F)) :=
  if !findings.truthy then pure []
  else match findings with
    | .list fs => do
      pure ((← Value.fromKeys (← (fs.take 3).mapM findingRefs).flatten).take 5)
    | _ => throw .typeError

omit [Text] in
/-- `_enforce_executive_summary` -/
def enforceExecutiveSummary (report : Dict F) (state : DecisionState F) :
    Except Error (Dict F) :=
  match report.get "executive_summary" with
  | .list [] =>
    if state.evidence.isEmpty then pure report
    else do
      match ← summaryRefs (report.getD "key_findings" (.list [])) with
      | [] => pure report
      | refs =>
        let label := projectLabel (state.outputs.projectIdentity.map (·.projectName))
          state.projectCode
        pure (report.set "executive_summary" (.list [.dict
          [("claim", .str (genericClaim label refs.length)), ("evidence_ids", .list refs),
            ("confidence", .str "low")]]))
  | _ => pure report

/-! ### The management question answer -/

/-- Write `text` under `key` when the field is blank. -/
def ensureText (d : Dict F) (key text : String) : Except Error (Dict F) := do
  if (← (d.get key).stripText) = "" then pure (d.set key (.str text)) else pure d

/-- Write `text` under `key` when the field is blank or a placeholder. -/
def ensureAnswer (d : Dict F) (key text : String) : Except Error (Dict F) := do
  if (← (d.get key).stripText) = "" then pure (d.set key (.str text))
  else if ← isPlaceholderText (d.getD key (.str "")) then pure (d.set key (.str text))
  else pure d

/-- `all(_is_placeholder_text(b) for b in why)` -/
def allPlaceholders : List (Value F) → Except Error Bool
  | [] => pure true
  | b :: bs => do
    if ← isPlaceholderText b then allPlaceholders bs else pure false

/-- The draft lacks three bullets of its own. -/
def whyMissing (d : Dict F) : Except Error Bool :=
  match d.get "why_biggest_problem" with
  | .list why => if why.length < 3 then pure true else allPlaceholders why
  | _ => pure true

/-- The bullets explaining the problem, unless the draft has three of its own. -/
def ensureWhy (d : Dict F) : Except Error (Dict F) := do
  if ← whyMissing d then
    pure (d.set "why_biggest_problem" (.list (["Automated synthesis did not complete for this " ++
      "request.", "The retrieved evidence is catalogued in the Sources section for analyst review.",
      "A reviewer must confirm the facts before a management decision is taken."].map .str)))
  else pure d

/-- Fill the texts of an object stored under `key`, which becomes one if it is not. -/
def ensureTexts (d : Dict F) (key : String) (texts : List (String × String)) :
    Except Error (Dict F) := do
  let sub ← texts.foldlM (fun sub kt => ensureText sub kt.1 kt.2) ((d.dict? key).getD [])
  pure (d.set key (.dict sub))

/-- The texts of the business impact. -/
def impactTexts : List (String × String) :=
  [("schedule_impact",
      "Potential schedule exposure cannot be quantified without further evidence."),
    ("cost_commercial_impact",
      "Commercial impact is unclear pending budget and cost baseline verification."),
    ("operational_client_impact",
      "Client and operational workflows may be affected; confirm with project team.")]

/-- The texts of the recommended action. -/
def actionTexts : List (String × String) :=
  [("specific_action", "Review the key findings with the project team and confirm facts."),
    ("owner_role", "Project Manager"), ("timeframe", "Within 5 working days")]

/-- The ids cited by the first finding that is an object. -/
def firstFindingIds (report : Dict F) : Except Error (List String) := do
  let items ← ((report.get "key_findings").orElse (.list [])).iter
  match items.filterMap Value.asDict? with
  | [] => pure []
  | f :: _ => flattenEids (f.getD "evidence_ids" (.list []))

/-- Fill the fields of the decision memo. -/
def enrichAnswer (mqa : Dict F) (firstIds : List String) : Except Error (Dict F) := do
  let mqa ← ensureAnswer mqa "executive_answer"
    ("Automated decision analysis could not be completed for this request. " ++
      "A reviewer must validate the retrieved evidence before a recommendation is issued.")
  let mqa ← ensureWhy mqa
  let mqa ← ensureTexts mqa "business_impact" impactTexts
  let mqa ← ensureAnswer mqa "decision_required"
    "Management should review the findings and decide on immediate mitigation steps."
  let mqa ← ensureTexts mqa "recommended_action" actionTexts
  let mqa ← ensureAnswer mqa "risks_if_no_action"
    "Without action, the issue may escalate into schedule or commercial exposure."
  let mqa ← ensureText mqa "missing_evidence_or_assumptions"
    "Automated synthesis was incomplete; reviewer validation required."
  let used := if firstIds = [] then ["evidence catalogued in key_findings"] else firstIds
  pure ((mqa.set "confidence" (.str "low")).set "evidence_used" (.list (used.map .str)))

/-- `_enrich_management_question_answer` -/
def enrichManagementQuestionAnswer (report : Dict F) (state : DecisionState F) :
    Except Error (Dict F) :=
  if isManagementQuestion state.query then do
    let mqa := (report.dict? "management_question_answer").getD (emptyManagementAnswer "")
    let firstIds ← firstFindingIds report
    pure (report.set "management_question_answer" (.dict (← enrichAnswer mqa firstIds)))
  else pure report

/-! ### The node -/

/-- The figures of the report: corrected, filled from Odoo, and for a financial report turned into
its findings and summary. -/
def correctFigures (state : DecisionState F) (pid : ProjectIdentity) (report : Dict F) :
    Except Error (Dict F) := do
  let ids := evidenceIds state.evidence
  let odooEv := odooEvidence state.evidence
  let ctx := extractOdooContext odooEv
  let report ← enforceFinancialFromOdoo report ctx ids
  let report ← enforceFinancialCategories report ctx odooEv ids
  if reportTypeOf state = .financial then forceFinancialOdooSynthesis report state ctx pid
  else pure report

/-- The sources of a financial report are rebuilt from its citations. -/
def rebuildIfFinancial (state : DecisionState F) (report : Dict F) : Except Error (Dict F) :=
  if reportTypeOf state = .financial then rebuildSourcesFromCitations report state.evidence
  else pure report

/-- The corrections of citations, gaps and the decision memo. -/
def correctTexts (state : DecisionState F) (report : Dict F) : Except Error (Dict F) := do
  let ctx := extractOdooContext (odooEvidence state.evidence)
  let report ← remapEvidenceIds report state.evidence
  let report ← rebuildIfFinancial state report
  let report := enforceMissingData report ctx
  let report ← enforceExecutiveSummary report state
  enrichManagementQuestionAnswer report state

omit [Floats F] in
/-- The fields that are never the LLM's. -/
def sealReport (state : DecisionState F) (pid : ProjectIdentity) (report : Dict F) : Dict F :=
  let report := ((report.set "project_identity" (.dict pid.toDict)).set "report_type"
    (.str (reportTypeOf state).toStr)).set "connector_coverage"
      (.list state.outputs.sourceCoverage.reportSection)
  if state.outputs.odooFinancialAvailable then report
  else report.modify "financial_snapshot" fun fs =>
    fs.setdefault "note" (.str "financial data not available in verified Odoo evidence")

/-- The report `run` makes of the LLM's candidate. -/
def draftReport (state : DecisionState F) (pid : ProjectIdentity)
    (candidate : Option (Dict F)) : Except Error (Dict F) := do
  let report ← normalizeDraft state pid candidate
  previewAnswer report
  let report ← correctFigures state pid (fillDefaults state report)
  let report ← correctTexts state report
  pure (sealReport state pid report)

/-- A salary question without verified salary evidence is answered without the LLM. -/
def salaryPath (state : DecisionState F) : Bool :=
  decide (reportTypeOf state = .salaryPayroll) && !isSalaryPayrollEvidence state.evidence

/-- The identity contract node 12 puts into the report. -/
def draftIdentity (mapping : ProjectMapping) (state : DecisionState F) : ProjectIdentity :=
  state.outputs.projectIdentity.getD
    (resolveProjectIdentity mapping state.projectCode state.evidence)

/-- `run` of node 12. -/
def draftRun (mapping : ProjectMapping) (replies : DraftReplies F) (state : DecisionState F) :
    Except Error (DecisionState F) := do
  let pid := draftIdentity mapping state
  let typed : DecisionState F :=
    { state with outputs := { state.outputs with reportType := some (reportTypeOf state) } }
  if salaryPath state then
    pure { typed with reportJson := some (buildSalaryAvailabilityReport typed pid) }
  else
    let report ← draftReport typed pid replies.candidate
    pure { typed with reportJson := some report }

end DecisionCenter
