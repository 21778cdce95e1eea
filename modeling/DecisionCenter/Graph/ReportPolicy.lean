import DecisionCenter.Graph.State

/-!
# Report policies

`apps/edr/graph/report_policy.py`: for each report type the sections its renderers show and the
families of checks the quality gate runs. It is a table, and this module is the table.

Sections and families are inductive types, since the source names them by constants. The type of
a report is looked up as it stands in the report, where it may be any JSON value (`policyFor`):
a literal of one of the types has the policy of that type, a value that is not hashable raises,
and anything else gets the default policy.

Two parts of the program read it for different ends: the quality gate asks for the checks and
the exporters for the sections. The lists stand under their names in the source, so that they
can be compared line by line. Every policy runs the baseline, with the checks on claims and on
financial figures in it (`baseline_subset_policyOf`).

What else a policy holds, no modelled function reads, and it is left out.
-/

namespace DecisionCenter

open Py

variable {F : Type}

/-- The section identifiers `SEC_*`. -/
inductive ReportSection where
  | executiveSummary
  | managementQuestionAnswer
  | financialSnapshot
  | keyFindings
  | rootCauses
  | delayAnalysis
  | contractual
  | recommendedActions
  | conflicts
  | missingData
  | sources
  | qualityGate
  deriving DecidableEq, Repr

/-- The check families `CHK_*`. -/
inductive CheckFamily where
  | claims
  | financials
  | sources
  | conflicts
  | executiveSummary
  | searchSummary
  | projectIdentity
  | confidence
  | timeoutSemantics
  | managementQuestionAnswer
  | intentCorrectness
  | irrelevantSections
  | rawFilename
  deriving DecidableEq, Repr

/-- `BASELINE_CHECKS` -/
def baselineChecks : List CheckFamily :=
  [.claims, .financials, .sources, .conflicts, .executiveSummary, .searchSummary,
    .projectIdentity, .confidence, .timeoutSemantics, .rawFilename]

/-- `_FULL_SECTIONS` -/
def fullSections : List ReportSection :=
  [.executiveSummary, .managementQuestionAnswer, .financialSnapshot, .keyFindings, .rootCauses,
    .delayAnalysis, .contractual, .recommendedActions, .conflicts, .missingData, .sources,
    .qualityGate]

/-- `_DATA_SECTIONS` -/
def dataSections : List ReportSection :=
  [.executiveSummary, .keyFindings, .recommendedActions, .conflicts, .missingData, .sources,
    .qualityGate]

/-- `_FINANCIAL_SECTIONS` -/
def financialSections : List ReportSection :=
  [.executiveSummary, .financialSnapshot, .keyFindings, .recommendedActions, .conflicts,
    .missingData, .sources, .qualityGate]

/-- `_RISK_SECTIONS` -/
def riskSections : List ReportSection :=
  [.executiveSummary, .keyFindings, .rootCauses, .contractual, .recommendedActions, .conflicts,
    .missingData, .sources, .qualityGate]

/-- `_DELAY_SECTIONS` -/
def delaySections : List ReportSection :=
  [.executiveSummary, .keyFindings, .delayAnalysis, .rootCauses, .recommendedActions, .conflicts,
    .missingData, .sources, .qualityGate]

/-- `_DOCUMENT_SECTIONS` -/
def documentSections : List ReportSection :=
  [.executiveSummary, .keyFindings, .sources, .missingData, .qualityGate]

/-- `ReportPolicy` -/
structure ReportPolicy where
  sections : List ReportSection
  qgChecks : List CheckFamily

namespace ReportPolicy

/-- `policy.renders` -/
def renders (p : ReportPolicy) (sec : ReportSection) : Bool := decide (sec ∈ p.sections)

/-- `policy.runs_check` -/
def runsCheck (p : ReportPolicy) (c : CheckFamily) : Bool := decide (c ∈ p.qgChecks)

end ReportPolicy

/-- `POLICY` -/
def policyOf : ReportType → ReportPolicy
  | .managementQuestion => ⟨fullSections, baselineChecks ++ [.managementQuestionAnswer]⟩
  | .salaryPayroll => ⟨dataSections, baselineChecks ++ [.intentCorrectness, .irrelevantSections]⟩
  | .dataReport => ⟨dataSections, baselineChecks ++ [.intentCorrectness, .irrelevantSections]⟩
  | .financial => ⟨financialSections, baselineChecks⟩
  | .risk => ⟨riskSections, baselineChecks⟩
  | .delay => ⟨delaySections, baselineChecks⟩
  | .documentSearch =>
    ⟨documentSections, baselineChecks ++ [.intentCorrectness, .irrelevantSections]⟩
  | .generalProjectStatus => ⟨fullSections, baselineChecks⟩

/-- `DEFAULT_POLICY` -/
def defaultPolicy : ReportPolicy := policyOf .generalProjectStatus

/-- The report types by their literals. -/
def ReportType.ofStr? (s : String) : Option ReportType :=
  [ReportType.salaryPayroll, .managementQuestion, .financial, .risk, .delay, .documentSearch,
    .dataReport, .generalProjectStatus].find? fun t => decide (t.toStr = s)

@[simp] theorem ReportType.ofStr?_toStr (t : ReportType) : ReportType.ofStr? t.toStr = some t := by
  cases t <;> decide

/-- `policy_for` -/
def policyFor (reportType : Value F) : Except Error ReportPolicy :=
  match reportType with
  | .str s => pure (((ReportType.ofStr? s).map policyOf).getD defaultPolicy)
  | .list (_ :: _) => throw .typeError
  | .dict (_ :: _) => throw .typeError
  | _ => pure defaultPolicy

/-- The policy of a report type node 12 has written. -/
@[simp] theorem policyFor_toStr (t : ReportType) :
    policyFor (.str t.toStr : Value F) = .ok (policyOf t) := by
  rw [policyFor, ReportType.ofStr?_toStr]
  rfl

/-- Every policy runs the checks on claims and on financial figures. -/
theorem baseline_subset_policyOf (t : ReportType) : baselineChecks ⊆ (policyOf t).qgChecks := by
  cases t <;> simp [policyOf]

end DecisionCenter
