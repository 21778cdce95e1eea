import DecisionCenter.Graph.State

/-!
# Report-type classification and evidence screening

`apps/edr/graph/intent.py`, `apps/edr/graph/financial_evidence.py` and
`apps/edr/graph/project_identity.py`: how a query is classified, which items count as financial
evidence, and which name a project goes by. The regular expressions are the source's; matching
them is the interpreter's business (`Py.Text`).

`classifyReportType` tries the patterns in the source's order, on the lowered query; the first
that is found decides, and the order is the precedence of the types. A query for which none is
found is one for the general status.

The screening of the evidence keeps every Odoo item, in order, whatever its text says
(`odooEvidence_filterFinancialEvidence`), and of the other items those whose text matches one
pattern and not the other. It is the first step of several passes, and none of them looks for
Odoo items that it might have dropped.

The name of a project is read off the mapping, the Odoo items and the SharePoint items; where
the names differ, the mapping's wins and the difference is noted. What is compared are
normalised names, and what is shown are the names as they were found.
-/

namespace DecisionCenter

open Py

variable {F : Type} [Text]

/-! ### `classify_report_type` -/

/-- `_MANAGEMENT_QUESTION_RE` -/
def managementQuestionRe : String :=
  r"\b(big|biggest|main|major|top|one|single)\s+(problem|issue|concern|risk)|" ++
  r"\b(problem|issue|concern|risk)\s+(for|with|on|in)\s+(this\s+)?project|" ++
  r"\bwhat\s+should\s+(management|we)\s+(decide|do)\b|" ++
  r"\bwhat\s+decision\s+should\s+(management|we)\s+make\b|" ++
  r"\bdecide\s+this\s+(week|month)|\bmanagement\s+decide\b|" ++
  r"\brecommend\w*\s+(action|intervention)|" ++
  r"\bwhat\s+is\s+the\s+(biggest|single\s+biggest)\s+(problem|risk|issue)"

/-- `_SALARY_PAYROLL_RE` -/
def salaryPayrollRe : String :=
  r"\b(salary|salaries|payroll|wage|wages|remuneration|compensation|employee\s+cost|" ++
  r"labor\s+cost|labour\s+cost|manpower\s+cost|staff\s+cost|hr\s+report|human\s+resources|" ++
  r"pay\s+slip|payslip|payroll\s+register|staff\s+name|employee\s+name|file\s+id|" ++
  r"staff\s+file|employee\s+file|personnel\s+file|finance\s+payroll)\b"

/-- `_SALARY_PAYROLL_DATA_RE` -/
def salaryPayrollDataRe : String :=
  r"\b(payroll\s+register|payroll\s+report|pay\s+slip|payslip|salary\s+sheet|" ++
  r"salary\s+register|salary\s+certificate|employee\s+salary|staff\s+salary|" ++
  r"salary\s+by\s+staff|hr\s+report|human\s+resources\s+report|manpower\s+report|" ++
  r"labor\s+cost\s+by\s+person|personnel\s+file|staff\s+file|employee\s+file|" ++
  r"file\s+id|wage\s+register|payroll\s+summary)\b"

/-- `_FINANCIAL_RE` of `intent.py` -/
def financialQueryRe : String :=
  r"\b(budget|estimate|estimation|contract\s+value|wo\s+amount|work\s+order\s+value|" ++
  r"cost|costs|actual\s+cost|committed\s+cost|cost\s+report|cost\s+breakdown|" ++
  r"cost\s+overrun|financial|finance|invoice|invoices|vendor\s+bill|" ++
  r"purchase\s+order|purchase\s+orders|\blpo\b|\brfq\b|procurement|" ++
  r"payment|payments|variance|expenditure|spend|spending|" ++
  r"supplier\s+cost|subcontractor|account\s+move|" ++
  r"مصاريف|مصروف|مصروفات|نفقات|تكلفة|تكاليف|التكلفة|التكاليف|ميزانية|الميزانية|" ++
  r"مالي|مالية|المالية|فاتورة|فواتير|دفعة|دفعات|مدفوعات|مشتريات)\b"

/-- `_RISK_RE` -/
def riskRe : String :=
  r"\b(risk|risks|risk\s+register|exposure|liability|liabilities|" ++
  r"claim|claims|dispute|disputes|contractual\s+risk|contract\s+risk|" ++
  r"penalty|penalties|liquidated\s+damages|\blds?\b|mitigation)\b"

/-- `_DELAY_RE` -/
def delayRe : String :=
  r"\b(delay|delays|delayed|eot|extension\s+of\s+time|" ++
  r"behind\s+schedule|slippage|overdue|programme\s+slippage|" ++
  r"schedule\s+delay|time\s+impact|late\s+completion|critical\s+path)\b"

/-- `_DOCUMENT_SEARCH_RE` -/
def documentSearchRe : String :=
  r"\b(find|locate|search|where\s+is|show\s+me|retrieve|latest|copy\s+of|attach)\b" ++
  r"[^.?!]*\b(document|documents|drawing|drawings|submittal|submittals|" ++
  r"letter|letters|transmittal|transmittals|\brfi\b|minutes|specification|" ++
  r"datasheet|certificate)\b|" ++
  r"\b(document\s+search|drawing\s+register|submittal\s+log|transmittal\s+log)\b"

/-- `_DATA_REPORT_RE` -/
def dataReportRe : String :=
  r"\b(give\s+me|list|table|export|generate|produce|download|create)\s+.*\b(report|" ++
  r"table|list|export|summary|breakdown|register|log|ledger)\b|" ++
  r"\bby\s+(staff|employee|person|name|file|id|date|month|trade|role|department)\b"

/-- `classify_report_type`; the order is the precedence. -/
def classifyReportType (query : String) : ReportType :=
  let q := lower query
  if searches salaryPayrollRe q then .salaryPayroll
  else if searches managementQuestionRe q then .managementQuestion
  else if searches financialQueryRe q then .financial
  else if searches riskRe q then .risk
  else if searches delayRe q then .delay
  else if searches documentSearchRe q then .documentSearch
  else if searches dataReportRe q then .dataReport
  else .generalProjectStatus

/-- `is_management_question` -/
def isManagementQuestion (query : String) : Bool :=
  decide (classifyReportType query = .managementQuestion)

/-- `is_salary_payroll_evidence` -/
def isSalaryPayrollEvidence (evidence : List (Evidence F)) : Bool :=
  evidence.any fun ev =>
    let tags := ev.tags.map lower
    (["payroll", "hr", "manpower", "salary", "wage", "compensation"].any fun t =>
        decide (t ∈ tags)) ||
      searches salaryPayrollDataRe
        (lower (join " " [ev.title, ev.excerpt, ev.sourceType.toStr, ev.sourceUri]))

/-! ### `financial_evidence.py` -/

/-- `_FINANCIAL_RE` of `financial_evidence.py` -/
def financialEvidenceRe : String :=
  r"\b(boq|bill\s+of\s+quantities|payment\s+certificate|invoice|invoices|" ++
  r"purchase\s+order|purchase\s+orders|\bpo\b|\blpo\b|cost\s+report|" ++
  r"cost\s+breakdown|variation|budget|procurement|payment|payments|" ++
  r"expense|expenses|expenditure|spend|spending|commercial|valuation|" ++
  r"supplier|subcontractor|account|ledger|interim\s+payment|ipc)\b|" ++
  r"(مصاريف|مصروف|مصروفات|نفقات|تكلفة|تكاليف|الميزانية|ميزانية|" ++
  r"فاتورة|فواتير|مستخلص|دفعة|دفعات|مدفوعات|مشتريات|امر\s+شراء|أمر\s+شراء)"

/-- `_EXCLUDED_NON_FINANCIAL_RE` -/
def excludedNonFinancialRe : String :=
  r"\b(schedule|programme|program|baseline|lookahead|drawing|drawings|" ++
  r"shop\s+drawing|qaqc|qa/qc|quality|mir|material\s+inspection\s+request|" ++
  r"method\s+statement|technical\s+submittal|submittal|submittals|" ++
  r"test\s+report|inspection\s+request|\bitp\b|\brfi\b)\b|" ++
  r"(جدول\s+زمني|برنامج\s+زمني|رسومات|مخططات|الجودة|فحص|اختبار|" ++
  r"اعتماد\s+فني|طريقة\s+تنفيذ)"

/-- `is_financial_evidence`: Odoo items are always kept. -/
def isFinancialEvidence [Floats F] (ev : Evidence F) (query : String) : Bool :=
  if ev.sourceType = .odoo then true
  else
    let metadataText := join " " (ev.metadata.map fun kv => kv.2.toValue.toStr)
    let text := join " " [ev.title, ev.excerpt, ev.sourceUri, join " " ev.tags, metadataText]
    if !searches financialEvidenceRe text then false
    else !(searches excludedNonFinancialRe text && !searches excludedNonFinancialRe query)

/-- `filter_financial_evidence` -/
def filterFinancialEvidence [Floats F] (evidence : List (Evidence F)) (query : String) :
    List (Evidence F) :=
  evidence.filter fun ev => isFinancialEvidence ev query

/-- The screening keeps every Odoo item, in order. -/
theorem odooEvidence_filterFinancialEvidence [Floats F] (evidence : List (Evidence F))
    (query : String) :
    odooEvidence (filterFinancialEvidence evidence query) = odooEvidence evidence := by
  simp only [odooEvidence, filterFinancialEvidence, List.filter_filter]
  refine List.filter_congr fun ev _ => ?_
  by_cases h : ev.sourceType = .odoo <;> simp [Evidence.isOdoo, isFinancialEvidence, h]

/-! ### Project identity -/

/-- `_is_verified_mapping` -/
def isVerifiedMapping (m : ProjectEntry) : Bool :=
  contains m.mappingMethod "VERIFIED" ||
    decide (m.mappingStatusGate ∈ ["EMAIL_GROUP_ENRICHED", "COMPLETE"])

/-- A character at which `str.splitlines` ends a line. -/
def isLineBreak (c : Char) : Bool :=
  c ∈ ['\n', '\r', '\x0b', '\x0c', '\x1c', '\x1d', '\x1e', '\u0085', '\u2028', '\u2029']

/-- The lines of a text, stripped; `\r\n` leaves one more that is empty. -/
def strippedLines (s : String) : List String :=
  (s.toList.splitOnP isLineBreak).map fun line => strip (String.ofList line)

/-- The name one Odoo item gives the project: its title, else the first line of its excerpt. -/
def odooItemProjectName (ev : Evidence F) : Option String :=
  if ev.sourceType = .odoo ∧ contains (lower ev.sourceUri) "project.project" then
    let name := strip ev.title
    if name ≠ "" ∧ lower name ∉ ["odoo record", "odoo project record"] then some name
    else (strippedLines (strip ev.excerpt)).find? (· ≠ "")
  else none

/-- `_extract_odoo_project_name` -/
def extractOdooProjectName (evidence : List (Evidence F)) : Option String :=
  evidence.findSome? odooItemProjectName

/-- `_extract_sharepoint_project_name`: the first title that is not a path. -/
def extractSharepointProjectName (evidence : List (Evidence F)) : Option String :=
  evidence.findSome? fun ev =>
    let title := strip ev.title
    if ev.sourceType = .sharepoint ∧ title ≠ "" ∧ ¬ contains title "/" ∧
        ¬ contains title "\\" then some title
    else none

/-- The candidate names in order of trust, each with the source it comes from. -/
def identityCandidates (m : ProjectEntry) (evidence : List (Evidence F)) :
    List (String × String) :=
  let registry := strip (if m.projectName ≠ "" then m.projectName else m.displayName)
  let label := if isVerifiedMapping m then "approved project registry" else "source_mappings table"
  let odooName := strip (m.odoo.projectName.getD "")
  (if registry ≠ "" then [(label, registry)] else [])
    ++ (if odooName ≠ "" then [("odoo project.project", odooName)] else [])
    ++ ((extractOdooProjectName evidence).map fun n => ("odoo project.project", n)).toList
    ++ ((extractSharepointProjectName evidence).map fun n =>
          ("sharepoint displayName", n)).toList

/-- `resolve_project_identity` -/
def resolveProjectIdentity [Floats F] (mapping : ProjectMapping) (projectCode : Option String)
    (evidence : List (Evidence F)) : ProjectIdentity :=
  match projectCode.filter (· ≠ "") with
  | none => ⟨"", "Not verified", "none", "not_verified", ["project_code not provided"], []⟩
  | some code =>
    let m := (mapping code).getD .empty
    let candidates := identityCandidates m evidence
    let names := (candidates.map (·.2)).reverse.dedup.reverse
    match candidates, names with
    | (source, _) :: _, [name] =>
      ⟨code, name, source, if isVerifiedMapping m then "verified" else "partial", [], []⟩
    | (source, _) :: _, name :: _ =>
      ⟨code, name, source ++ " (conflict)", "partial",
        ["conflict resolution between identity sources"],
        ["Conflicting project names found: " ++ Floats.repr (.list (names.map .str) : Value F)]⟩
    | _, _ => ⟨code, "Not verified", "none", "not_verified",
        ["project mapping", "odoo project.project", "sharepoint displayName"], []⟩

end DecisionCenter
