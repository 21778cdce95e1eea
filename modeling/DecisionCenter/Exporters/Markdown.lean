import DecisionCenter.Graph.ReportPolicy
import DecisionCenter.Py.Runtime

/-!
# The Markdown exporter

`to_markdown` (`apps/edr/exporters/markdown.py`). The document is a list of lines, each of which
remembers what it shows: an item of a claim-bearing section, a number of the financial snapshot,
or neither. The memory is not part of the text (`Line.toStr`); it is there so that what a
document shows can be spoken of without taking its text apart.

A part of the document is a title with lines; the titled parts are numbered in the end
(`numberParts`), and a part that the policy suppresses or that has nothing to say is not there.
The parts stand in the source's order, the memo with the answer to the management question in
front where there is one.

The report is any JSON object; a value that cannot be shown raises. This happens where the
source joins, formats or iterates over something of the wrong type: a description of a conflict
that is no string, an amount that is a text, a section that is a number. What it shows without
raising it shows by `str`, so that a dictionary in an unexpected place appears as Python prints
it.

`documentText` joins the lines; it is the Markdown that is stored and that the other functions
of the workflow search for texts.
-/

namespace DecisionCenter

open Py

variable {F : Type}

/-! ### Lines -/

/-- A line of the document, with what it shows. -/
inductive Line (F : Type) where
  | text (s : String)
  /-- An item of a claim-bearing section. -/
  | claim (sec : String) (item : Value F) (s : String)
  /-- The number of a figure of the snapshot, cited or not. -/
  | figure (key : String) (node : Dict F) (s : String)

namespace Line

/-- The text of a line. -/
def toStr : Line F → String
  | .text s => s
  | .claim _ _ s => s
  | .figure _ _ s => s

end Line

/-- A part of the document; a titled part has a numbered heading. -/
structure Part (F : Type) where
  title : Option String
  lines : List (Line F)

/-- Number the headings, from `n` on. -/
def numberParts : ℕ → List (Part F) → List (Line F)
  | _, [] => []
  | n, part :: parts =>
    match part.title with
    | some title =>
      .text ("## " ++ toString n ++ ". " ++ title) :: .text "" ::
        (part.lines ++ numberParts (n + 1) parts)
    | none => part.lines ++ numberParts n parts

section Rendering

variable [Floats F]

/-- `if v: for item in v`: the lines of the items, or those for nothing. -/
def linesOr (v : Value F) (none : List (Line F)) (line : Value F → Except Error (List (Line F))) :
    Except Error (List (Line F)) :=
  if v.truthy then do pure (← (← v.iter).mapM line).flatten else pure none

/-- A list item under a bullet. -/
def bullet (item : Value F) : Except Error (List (Line F)) :=
  pure [.text ("- " ++ item.toStr)]

/-! ### Items and figures -/

/-- `ref_str` -/
def refStr (item : Dict F) : Except Error String :=
  let refs := item.getD "evidence_ids" (.list [])
  if refs.truthy then do
    pure (" — " ++ join ", " ((← refs.iter).map fun r => "[" ++ r.toStr ++ "]"))
  else pure ""

/-- The line of an item of a claim-bearing section, after `lead`. -/
def itemLine (sec lead : String) (item : Value F) : Except Error (List (Line F)) :=
  match item with
  | .dict d => do
    let text := (Dict.get? d "text").getD (.str (Value.dict d).toStr)
    let confidence := Dict.getD d "confidence" (.str "medium")
    pure [.claim sec item ("- " ++ lead ++ text.toStr ++ " *(Confidence: " ++ confidence.toStr ++
      ")*" ++ (← refStr d))]
  | v => pure [.claim sec v ("- " ++ lead ++ v.toStr)]

/-- The line of an entry of the executive summary; only dictionaries are shown. -/
def summaryLine (item : Value F) : Except Error (List (Line F)) :=
  match item with
  | .dict d => do
    let claim := Dict.getD d "claim" (.str "")
    let confidence := Dict.getD d "confidence" (.str "medium")
    pure [.claim "executive_summary" item ("- " ++ claim.toStr ++ " *(Confidence: " ++
      confidence.toStr ++ ")*" ++ (← refStr d))]
  | _ => pure []

/-- `_findings_section`, after its heading. -/
def findingsPart (report : Dict F) (title sec : String) : Except Error (Part F) := do
  let lines ← linesOr (report.getD sec (.list [])) [.text "_Not available._"] (itemLine sec "")
  pure ⟨some title, lines ++ [.text ""]⟩

/-- `_fin_row` -/
def finRow (key label : String) (node : Value F) (currency : Value F) :
    Except Error (Line F) :=
  match node with
  | .dict d =>
    let src := ((Dict.get d "evidence_id").orElse (.str "—")).toStr
    if (Dict.get d "value").isNull then
      pure (.text ("| " ++ label ++ " | Not available | " ++ src ++ " |"))
    else do
      let value ← (Dict.get d "value").format 2
      pure (.figure key d ("| " ++ label ++ " | " ++ value ++ " " ++
        (Dict.getD d "currency" currency).toStr ++ " | " ++ src ++ " |"))
  | _ => pure (.text ("| " ++ label ++ " | Not available | — |"))

/-- The rows of the financial table, in order: key and label. -/
def finRows : List (String × String) :=
  [("contract_value", "Contract Value"), ("estimate", "Estimate"), ("budget", "Budget"),
    ("actual_cost", "Actual Cost (analytic/journal)"), ("payroll_cost", "Payroll / Staff"),
    ("expense_cost", "HR Expenses (petty cash/car/fuel)"),
    ("committed_cost", "Committed Cost (LPO/PO)"), ("total_incurred", "Total Incurred")]

/-- The row of the variance. -/
def varianceRow (variance : Value F) (currency : Value F) : Except Error (List (Line F)) :=
  match variance with
  | .dict d =>
    let formula := Dict.getD d "formula" (.str "")
    let note := if formula.truthy then " *(Formula: " ++ formula.toStr ++ ")*" else ""
    if (Dict.get d "value").isNull then
      pure [.text ("| Variance | Not available" ++ note ++ " | — |")]
    else do
      let value ← (Dict.get d "value").format 2
      pure [.figure "variance" d ("| Variance | " ++ value ++ " " ++
        (Dict.getD d "currency" currency).toStr ++ note ++ " | — |")]
  | _ => pure []

/-- The table of the financial snapshot. -/
def snapshotLines (fs : Dict F) : Except Error (List (Line F)) := do
  let budget := (fs.get "budget").orElse (.dict [])
  let currency := (match budget with
    | .dict d => Dict.get d "currency"
    | _ => .null : Value F).orElse (.str "AED")
  let rows ← finRows.mapM fun kl =>
    finRow kl.1 kl.2 ((fs.get kl.1).orElse (.dict [])) currency
  let last ← varianceRow ((fs.get "variance").orElse (.dict [])) currency
  let note : List (Line F) := if (fs.get "note").truthy then
      [.text "", .text ("> " ++ (fs.get "note").toStr ++ ".")] else []
  pure ([.text "| Item | Value | Source |", .text "|---|---|---|"] ++ rows ++ last ++ note)

/-- Financial Snapshot — Odoo. -/
def financialPart (report : Dict F) : Except Error (Part F) := do
  let lines ← (match ((report.get "financial_snapshot").orElse (.dict [])).asDict? with
    | some fs => snapshotLines fs
    | none => pure [.text "_Financial data not available._"])
  pure ⟨some "Financial Snapshot — Odoo", lines ++ [.text ""]⟩

/-! ### The other parts -/

/-- The row of one source in the coverage table. -/
def coverageRow (row : Value F) : Except Error (List (Line F)) :=
  let yesNo := fun v : Value F => if v.truthy then "yes" else "no"
  match row with
  | .dict d => pure [.text ("| " ++ (Dict.getD d "source" (.str "—")).toStr ++ " | " ++
      yesNo (Dict.get d "enabled") ++ " | " ++ yesNo (Dict.get d "attempted") ++ " | " ++
      (Dict.getD d "evidence_count" (.int 0)).toStr ++ " | " ++
      (Dict.getD d "status" (.str "—")).toStr ++ " | " ++
      ((Dict.getD d "reason" (.str "")).orElse (.str "—")).toStr ++ " |")]
  | _ => pure []

/-- `_coverage_section` -/
def coveragePart (report : Dict F) : Except Error (Part F) := do
  let rows := report.getD "connector_coverage" (.list [])
  let rowLines ← linesOr rows [.text "_No connector coverage recorded._"] coverageRow
  let completeness := (report.getD "evidence_completeness" (.str "n/a")).toStr
  let lines := if rows.truthy then
      [.text "| Source | Enabled | Attempted | Evidence | Status | Reason |",
        .text "|---|---|---|---|---|---|"] ++ rowLines ++
        [.text "", .text ("**Evidence completeness:** " ++ completeness)]
    else rowLines
  pure ⟨none, .text "## Connector Coverage" :: .text "" :: (lines ++ [.text ""])⟩

/-- Executive Summary. -/
def summaryPart (report : Dict F) : Except Error (Part F) := do
  let lines ← (match report.getD "executive_summary" (.list []) with
    | .str s => pure [Line.text s]
    | v => linesOr v [.text "_No summary available._"] summaryLine)
  pure ⟨some "Executive Summary", lines ++ [.text ""]⟩

/-- The lines of a list of the memo, under its title. -/
def memoList (title : String) (v : Value F) : Except Error (List (Line F)) := do
  let lines ← linesOr v [] bullet
  pure (if v.truthy then .text title :: (lines ++ [.text ""]) else [])

/-- A labelled line of the memo. -/
def memoLine (label : String) (v : Value F) : List (Line F) :=
  [.text ("**" ++ label ++ ":** " ++ v.toStr), .text ""]

/-- The decision memo. -/
def memoLines (mqa : Dict F) : Except Error (List (Line F)) := do
  let why ← memoList "**Why this is the biggest problem:**"
    ((mqa.get "why_biggest_problem").orElse (.list []))
  let used ← memoList "**Evidence used:**" ((mqa.get "evidence_used").orElse (.list []))
  let impact : List (Line F) := match ((mqa.get "business_impact").orElse (.dict [])).asDict? with
    | some d => if d.any fun kv => kv.2.truthy then
        .text "**Business impact:**" :: ([("Schedule", "schedule_impact"),
          ("Cost / Commercial", "cost_commercial_impact"),
          ("Operational / Client", "operational_client_impact")].map fun lk =>
            .text ("- **" ++ lk.1 ++ ":** " ++
              ((d.getD lk.2 (.str "")).orElse (.str "_Not specified_")).toStr)) ++ [.text ""]
      else []
    | none => []
  let decision := if (mqa.get "decision_required").truthy then
    memoLine "Decision required" (mqa.get "decision_required") else []
  let action : List (Line F) :=
    match ((mqa.get "recommended_action").orElse (.dict [])).asDict? with
    | some d => if (d.get "specific_action").truthy then
        [.text "**Recommended action:**",
          .text ("- **Action:** " ++ (d.getD "specific_action" (.str "")).toStr),
          .text ("- **Owner role:** " ++ (d.getD "owner_role" (.str "")).toStr),
          .text ("- **Timeframe:** " ++ (d.getD "timeframe" (.str "")).toStr), .text ""]
      else []
    | none => []
  let risks := if (mqa.get "risks_if_no_action").truthy then
    memoLine "Risks if no action" (mqa.get "risks_if_no_action") else []
  let noted := ((mqa.getD "missing_evidence_or_assumptions" (.str "")).orElse
    (.str "No missing evidence noted.")).toStr
  pure ([.text "## Management Question Answer", .text ""] ++
    memoLine "Executive answer" (mqa.getD "executive_answer" (.str "")) ++ why ++ used ++ impact ++
    decision ++ action ++ risks ++ [.text ("**Confidence:** " ++
      (mqa.getD "confidence" (.str "medium")).toStr ++ " — " ++ noted), .text ""])

/-- Management Question Answer, when there is an answer. -/
def memoPart (report : Dict F) : Except Error (Part F) := do
  let lines ← (match ((report.get "management_question_answer").orElse (.dict [])).asDict? with
    | some mqa => if (mqa.get "executive_answer").truthy then memoLines mqa else pure []
    | none => pure [])
  pure ⟨none, lines⟩

/-- Recommended Actions — Proposal Only. -/
def actionsPart (report : Dict F) : Except Error (Part F) := do
  let lines ← linesOr (report.getD "recommended_actions" (.list []))
    [.text "_No recommended actions._"] (itemLine "recommended_actions" "**Proposal:** ")
  pure ⟨some "Recommended Actions — Proposal Only", lines ++ [.text ""]⟩

/-- The lines of one conflict; the description is joined as it is, so it has to be a string. -/
def conflictLines (c : Value F) : Except Error (List (Line F)) :=
  match c with
  | .dict d =>
    match Dict.getD d "description" (.str "") with
    | .str description =>
      pure [.text ("**Type:** `" ++ (Dict.getD d "conflict_type" (.str "unknown")).toStr ++ "`"),
        .text "", .text description, .text "",
        .text ("- Source A: " ++ (Dict.getD d "source_a_ref" (.str "—")).toStr),
        .text ("- Source B: " ++ (Dict.getD d "source_b_ref" (.str "—")).toStr), .text ""]
    | _ => throw .typeError
  | _ => pure []

/-- Conflicting Evidence. -/
def conflictsPart (report : Dict F) : Except Error (Part F) := do
  let lines ← linesOr (report.getD "conflicts" (.list []))
    [.text "_No conflicting evidence detected._"] conflictLines
  pure ⟨some "Conflicting Evidence", lines ++ [.text ""]⟩

/-- Missing Data / Assumptions. -/
def missingPart (report : Dict F) : Except Error (Part F) := do
  let lines ← linesOr (report.getD "missing_data" (.list [])) [.text "_No missing data._"] bullet
  pure ⟨some "Missing Data / Assumptions", lines ++ [.text ""]⟩

/-- An unnumbered list that is left out when it is empty. -/
def listPart (report : Dict F) (title key : String) : Except Error (Part F) := do
  let v := report.getD key (.list [])
  let lines ← linesOr v [] bullet
  pure ⟨none, if v.truthy then .text ("## " ++ title) :: .text "" :: (lines ++ [.text ""]) else []⟩

/-- The line of one source. -/
def sourceLine (src : Value F) : Except Error (List (Line F)) :=
  match src with
  | .dict d =>
    pure [.text ("- **[" ++ (Dict.getD d "source_id" (.str "S?")).toStr ++ "]** `" ++
      (Dict.getD d "source_type" (.str "—")).toStr ++ "` — " ++
      (Dict.getD d "title" (.str "—")).toStr ++ " — " ++
      (Dict.getD d "reference" (.str "—")).toStr ++ " *(date: " ++
      ((Dict.get d "date").orElse (.str "—")).toStr ++ "; confidence: " ++
      (Dict.getD d "confidence" (.str "—")).toStr ++ ")*")]
  | _ => pure []

/-- Appendix — Sources. -/
def sourcesPart (report : Dict F) (policy : ReportPolicy) : Except Error (Part F) := do
  let v := report.getD "sources" (.list [])
  if policy.renders .sources && v.truthy then
    pure ⟨none, .text "## Appendix — Sources" :: .text "" ::
      ((← linesOr v [] sourceLine) ++ [.text ""])⟩
  else pure ⟨none, []⟩

/-! ### The document -/

/-- A part that the policy may suppress. -/
def ifRendered (policy : ReportPolicy) (sec : ReportSection) (part : Except Error (Part F)) :
    Except Error (Part F) := if policy.renders sec then part else pure ⟨none, []⟩

variable [Text]

/-- The title, the table of fields and the query. -/
def headerLines (report : Dict F) (generatedAt : String) : Except Error (List (Line F)) := do
  let projectCode := (report.get "project_code").orElse (.str "N/A")
  let projectName ← (match (report.get "project_identity").orElse (.dict []) with
    | .dict pid => pure ((Dict.get pid "project_name").orElse projectCode)
    | _ => throw .attributeError)
  let reportType ← (report.getD "report_type" (.str "executive_decision")).asStr
  let title :=
    Text.title (String.ofList (reportType.toList.map fun c => if c = '_' then ' ' else c))
  let query := (report.get "query").orElse (report.getD "question" (.str "N/A"))
  let row := fun (label : String) (v : Value F) =>
    Line.text ("| " ++ label ++ " | " ++ v.toStr ++ " |")
  pure [.text ("# " ++ title ++ " — " ++ projectName.toStr ++ " — " ++ projectCode.toStr),
    .text "", .text "| Field | Value |", .text "|---|---|",
    row "Request ID" (report.getD "request_id" (.str "N/A")), row "Project Name" projectName,
    row "Project Code" projectCode, row "Report Type" (.str reportType),
    row "Language" (report.getD "language" (.str "en")),
    row "Quality Gate" (report.getD "quality_gate_status" (.str "not_run")),
    row "Evidence Completeness" (report.getD "evidence_completeness" (.str "n/a")),
    row "Generated" (.str generatedAt), .text "", .text ("**Query:** " ++ query.toStr), .text "",
    .text "---", .text ""]

omit [Text] in
/-- The parts of the document, in order. -/
def documentParts (report : Dict F) (policy : ReportPolicy) : Except Error (List (Part F)) := do
  let status := (report.getD "quality_gate_status" (.str "not_run")).toStr
  pure [← coveragePart report, ← summaryPart report, ← memoPart report,
    ← ifRendered policy .financialSnapshot (financialPart report),
    ← findingsPart report "Key Findings" "key_findings",
    ← ifRendered policy .rootCauses (findingsPart report "Root Causes" "root_causes"),
    ← ifRendered policy .delayAnalysis (findingsPart report "Delay Analysis" "delay_analysis"),
    ← ifRendered policy .contractual
      (findingsPart report "Contractual / Commercial Implications" "contractual_implications"),
    ← actionsPart report, ← conflictsPart report, ← missingPart report,
    ← listPart report "What Was Checked" "what_was_checked",
    ← listPart report "Required Data / Next Steps" "required_data",
    ⟨some "Quality Gate Status", [.text ("**Status:** `" ++ status ++ "`"), .text ""]⟩,
    ← sourcesPart report policy]

/-- `to_markdown`, line by line. -/
def toMarkdown (report : Dict F) (generatedAt : String) : Except Error (List (Line F)) := do
  let header ← headerLines report generatedAt
  let policy ← policyFor (report.getD "report_type" (.str "executive_decision"))
  let parts ← documentParts report policy
  pure (header ++ numberParts 1 parts ++
    [.text "---", .text "", .text ("*Generated by Decision Center — " ++ generatedAt ++ "*")])

omit [Floats F] [Text] in
/-- The document. -/
def documentText (lines : List (Line F)) : String := join "\n" (lines.map Line.toStr)

end Rendering

end DecisionCenter
