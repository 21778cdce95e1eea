import DecisionCenter.Data.Dedup
import DecisionCenter.Graph.Citations
import DecisionCenter.Graph.FinancialSnapshot
import DecisionCenter.Graph.Intent

/-!
# Deterministic synthesis

The parts of a report node 12 writes without the LLM: the findings and the executive summary
drawn from the Odoo figures, the availability report for salary questions without salary
evidence, and `_build_report_from_evidence`, the report every malformed draft falls back to. The
two reports are put together in `Graph.Builder`; here are the texts and claims they share.

`_is_placeholder_text` and `_is_filename_or_title_only` decide whether a text may be shown as a
finding. The second is a pattern of the source, run by the interpreter's engine, followed by
tests on words and endings that are kept in their order.

A `Finding` has a text, the values it cites and its confidence, and `toValue` is the object that
goes into the report. The findings on the snapshot are read off a table of labels, as in the
source (`figureLabels`): for each figure that is available one sentence with its amount, its
currency and its ids. The variance and the record of the project have sentences of their own.

The executive summary leads with the figures of the snapshot that can be quoted, else with the
first findings. `forceFinancialOdooSynthesis` writes both over what the draft of a financial
report had. Amounts are printed by the format of `Floats`, which is a parameter.
-/

namespace DecisionCenter

open Py

variable {F : Type}

/-! ### Text tests -/

section TextTests

variable [Text]

/-- `placeholders` -/
def placeholders : List String :=
  ["...", "synthesized insight from evidence",
    "one clear sentence naming the biggest problem or decision",
    "what management must decide now", "concise", "bullet 1 tied to evidence", "bullet 2",
    "bullet 3"]

/-- `s.startswith(p)` -/
def startsWith (s p : String) : Bool := p.toList.isPrefixOf s.toList

/-- `_is_placeholder_text` -/
def isPlaceholderText [Floats F] (text : Value F) : Except Error Bool :=
  if !text.truthy then pure true
  else do
    let lowered := strip (lower (← text.asStr))
    pure (decide (lowered ∈ placeholders) || startsWith lowered "source type:")

/-- `_FILENAME_LIKE` -/
def filenameLikeRe : String :=
  r"\b[\w\-]+\.(pdf|xlsx?|docx?|pptx?|dwg|dxf|jpe?g|png|csv|zip|rar|txt)\b"

/-- `_is_filename_or_title_only` -/
def isFilenameOrTitleOnly (ev : Evidence F) : Bool :=
  let excerpt := strip ev.excerpt
  let title := strip ev.title
  if excerpt = "" then true
  else if searches filenameLikeRe excerpt then true
  else if title ≠ "" ∧ lower excerpt = lower title then true
  else
    let stem := Text.replaceAll r"\.(pdf|xlsx?|docx?|pptx?|dwg|dxf|csv)$" "" title
    let titleTokens := Text.findAll "[a-z0-9]+" (lower stem)
    let excerptTokens := Text.findAll "[a-z0-9]+" (lower excerpt)
    decide (titleTokens ≠ [] ∧ excerptTokens ≠ [] ∧ excerptTokens ⊆ titleTokens)

end TextTests

/-! ### Claims -/

/-- A finding: its text, the values it cites and its confidence. -/
structure Finding (F : Type) where
  text : String
  evidenceIds : List (Value F)
  confidence : String

/-- A finding as it stands in the report. -/
def Finding.toValue (f : Finding F) : Value F :=
  .dict [("text", .str f.text), ("evidence_ids", .list f.evidenceIds),
    ("confidence", .str f.confidence)]

/-- An entry of the executive summary. -/
def summaryEntry (claim : String) (evidenceIds : List String) : Value F :=
  .dict [("claim", .str claim), ("evidence_ids", .list (evidenceIds.map .str)),
    ("confidence", .str "low")]

/-- `list(dict.fromkeys(ids))` of strings. -/
def uniqueIds (ids : List String) : List String := Dedup.keepFirst some ids

/-- `_empty_management_question_answer`, with the note on missing evidence it carries. -/
def emptyManagementAnswer (note : String) : Dict F :=
  [("executive_answer", .str ""), ("why_biggest_problem", .list []), ("evidence_used", .list []),
    ("business_impact", .dict [("schedule_impact", .str ""), ("cost_commercial_impact", .str ""),
      ("operational_client_impact", .str "")]),
    ("decision_required", .str ""),
    ("recommended_action", .dict [("specific_action", .str ""), ("owner_role", .str ""),
      ("timeframe", .str "")]),
    ("risks_if_no_action", .str ""), ("confidence", .str "low"),
    ("missing_evidence_or_assumptions", .str note)]

/-! ### Findings from the snapshot -/

section Findings

variable [Floats F]

/-- A row of `labels`; `absolute` says whether the value is shown without its sign. -/
structure FigureLabel where
  key : String
  label : String
  absolute : Bool

/-- `labels` of `_financial_snapshot_findings` -/
def figureLabels : List FigureLabel :=
  [⟨"contract_value", "contract value", false⟩, ⟨"estimate", "cost estimate", false⟩,
    ⟨"actual_cost", "actual cost (analytic/journal) to date", true⟩,
    ⟨"payroll_cost", "payroll / staff cost", true⟩,
    ⟨"expense_cost", "expenses (petty cash, vehicle, fuel)", true⟩,
    ⟨"committed_cost", "committed cost (LPO/PO)", true⟩,
    ⟨"total_incurred", "total incurred cost to date", true⟩]

/-- The finding on one figure, if it is available, has a value and is cited. -/
def figureFinding (fs : Dict F) (l : FigureLabel) : Except Error (Option (Finding F)) :=
  match availableFigure fs l.key with
  | some node =>
    let value := node.get "value"
    let eid := node.get "evidence_id"
    if eid.truthy then do
      let shown ← if l.absolute then do pure (← value.absNum).toValue else pure value
      pure (some ⟨"Odoo shows " ++ l.label ++ " of " ++ (← shown.format 2) ++ " AED.", [eid],
        "medium"⟩)
    else pure none
  | none => pure none

/-- The finding on the variance, or the note that there is none. -/
def varianceFinding (fs : Dict F) (findings : List (Finding F)) :
    Except Error (List (Finding F)) :=
  match (fs.dict? "variance").filter fun v => !(v.get "value").isNull with
  | some variance => do
    let eids ← flattenEids (variance.getD "evidence_ids" (.list []))
    if eids = [] then pure []
    else
      let value ← (variance.get "value").format 2
      let formula := ((variance.get "formula").orElse (.str "verified inputs")).toStr
      pure [⟨"Variance against the Odoo cost estimate is " ++ value ++ " AED using " ++ formula ++
        ".", eids.map .str, "medium"⟩]
  | none =>
    if findings.isEmpty then pure []
    else do
      let eids ← Value.fromKeys (findings.filterMap fun f => f.evidenceIds.head?)
      pure [⟨"Budget or variance is not reported because no non-zero Odoo " ++
        "budget/estimate baseline was available for that calculation.", eids.take 2, "low"⟩]

omit [Floats F] in
/-- The finding that Odoo has project records but no amounts. -/
def projectRecordFinding (ctx : OdooContext F) : List (Finding F) :=
  match (ctx.projectRecords.map (·.evidenceId)).filter (· ≠ "") with
  | [] => []
  | ids => [⟨"Odoo project evidence was found, but no usable Odoo cost, " ++
      "budget, purchase order, invoice, or payment amount was available.",
      ((uniqueIds ids).take 2).map .str, "low"⟩]

/-- `_financial_snapshot_findings` -/
def financialSnapshotFindings (report : Dict F) (ctx : OdooContext F) :
    Except Error (List (Value F)) :=
  match ((report.get "financial_snapshot").orElse (.dict [])).asDict? with
  | none => pure []
  | some fs => do
    let figures := (← figureLabels.mapM (figureFinding fs)).filterMap id
    let findings := figures ++ (← varianceFinding fs figures)
    let findings := if findings.isEmpty then projectRecordFinding ctx else findings
    pure ((findings.take 8).map Finding.toValue)

end Findings

/-! ### The executive summary -/

/-- `project_label` -/
def projectLabel (projectName : Option String) (projectCode : Option String) : String :=
  match projectCode.filter (· ≠ "") with
  | none => "the requested project"
  | some code =>
    match projectName.filter fun n => decide (n ≠ "" ∧ n ≠ "Not verified") with
    | some name => name ++ " (" ++ code ++ ")"
    | none => "Project " ++ code

/-- The claim that automated analysis did not complete. -/
def genericClaim (label : String) (n : ℕ) : String :=
  "Automated analysis for " ++ label ++ " could not be completed for this request. " ++
    toString n ++
      " retrieved evidence item(s) are catalogued in the Sources section for reviewer " ++
    "validation; no automated conclusion is asserted. Quantified schedule or cost impact " ++
    "is not available from the records."

section Summary

variable [Floats F]

/-- A figure quoted by the executive summary. -/
structure QuotedFigure (F : Type) where
  key : String
  label : String
  amount : F
  evidenceId : String

/-- The quotation: label and amount without decimals. -/
def QuotedFigure.text (q : QuotedFigure F) : String :=
  q.label ++ " " ++ Floats.format 0 q.amount ++ " AED"

omit [Floats F] in
/-- Quote an amount that is cited. -/
def quote (key label : String) (p : Option (F × String)) : List (QuotedFigure F) :=
  match p with
  | some (x, e) => if e ≠ "" then [⟨key, label, x, e⟩] else []
  | none => []

/-- The amounts the executive summary leads with. -/
def quotedFigures (ctx : OdooContext F) : List (QuotedFigure F) :=
  quote "contract_value" "contract value" (ctx.contractValue.filter fun p => !Floats.isZero p.1)
    ++ quote "estimate" "cost estimate" (ctx.estimate.filter fun p => !Floats.isZero p.1)
    ++ quote "actual_cost" "actual cost (analytic/journal)"
        (if ctx.hasAmount then
          ctx.totalAmount.bind fun x => ctx.bestEvidenceId.map fun e => (Floats.abs x, e)
        else none)
    ++ quote "payroll_cost" "payroll/staff cost" ctx.payrollCost
    ++ quote "expense_cost" "expenses (petty cash/vehicle/fuel)" ctx.expenseCost
    ++ quote "total_incurred" "total incurred"
        (if 1 < ctx.incurredComponentCount then
          ctx.totalIncurred.bind fun x => ctx.totalIncurredEvidenceId.map fun e => (x, e)
        else none)

/-- The claim that states the verified Odoo financial position. -/
def financialClaim (label : String) (quotes : List (QuotedFigure F)) : String :=
  "For " ++ label ++ ", the verified Odoo financial position is: " ++
    join "; " (quotes.map QuotedFigure.text) ++
    " (see the Financial Snapshot, each figure bound to its Odoo record). A full analytical " ++
    "narrative requires analyst review."

/-- `_basic_executive_summary` -/
def basicExecutiveSummary (state : DecisionState F) (docEv emailEv : List (Evidence F))
    (ctx : OdooContext F) (pid : ProjectIdentity) : List (Value F) :=
  let label := projectLabel (some pid.projectName) state.projectCode
  match quotedFigures ctx with
  | q :: quotes =>
    let cited := (uniqueIds ((q :: quotes).map (·.evidenceId))).take 5
    [summaryEntry (financialClaim label (q :: quotes)) cited]
  | [] =>
    match (((docEv ++ emailEv).take 3).map (·.evidenceId)).filter (· ≠ "") with
    | e :: ids => [summaryEntry (genericClaim label (ids.length + 1)) (e :: ids)]
    | [] =>
      match (uniqueIds ((ctx.projectRecords.map (·.evidenceId)).filter (· ≠ ""))).take 3 with
      | e :: ids => [summaryEntry (genericClaim label (ids.length + 1)) (e :: ids)]
      | [] => []

end Summary

/-- `_force_financial_odoo_synthesis` -/
def forceFinancialOdooSynthesis [Floats F] (report : Dict F) (state : DecisionState F)
    (ctx : OdooContext F) (pid : ProjectIdentity) : Except Error (Dict F) := do
  let report := report.set "key_findings" (.list (← financialSnapshotFindings report ctx))
  let report :=
    if ctx.projectRecords ≠ [] ∨ ctx.hasAmount = true then
      report.set "executive_summary" (.list (basicExecutiveSummary state [] [] ctx pid))
    else report
  pure ((((report.set "root_causes" (.list [])).set "delay_analysis" (.list [])).set
    "contractual_implications" (.list [])).set "management_question_answer"
      (.dict (emptyManagementAnswer "")))

end DecisionCenter
