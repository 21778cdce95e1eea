import DecisionCenter.Evidence

/-!
# The workflow state

`DecisionState` (`apps/edr/graph/state.py`) with the entries of its `outputs` dictionary that a
modelled node reads, the per-source coverage ledger of `apps/edr/graph/coverage.py`, and the
entries of the project mapping file (`apps/edr/rbac/project_mapping.py`).

The source keeps `outputs` as a dictionary from strings to anything, to which each node adds.
Here it is the record `Outputs` with a field for each entry that some modelled node reads, of
the type in which its writer leaves it; an entry that need not be there is an option. A node is
a function on states, so that what it leaves alone is seen from its definition.

The ledger has a status for each source. `record` writes one, with the count and the note, and
what the gate asks of a ledger (sources that failed, that were not attempted or timed out, the
level of completeness) is computed from it as in `coverage.summary`. The statuses are those of
the vocabulary, and the one that is written without belonging to it.

The mapping of a project has a configuration for each kind of source, whether it is switched on,
and the ids it is limited to. Here it is what the nodes read of it; the file itself, its tables
and its writers are in `Mappings`.
-/

namespace DecisionCenter

open Py

variable {F : Type}

/-! ### Coverage ledger -/

/-- `PROJECT_SOURCES`: the sources a project report must always consider. -/
inductive ProjectSource where
  | odoo
  | sharepoint
  | email
  deriving DecidableEq, Repr

namespace ProjectSource

/-- The sources in the order of `PROJECT_SOURCES`. -/
def all : List ProjectSource := [.odoo, .sharepoint, .email]

def toStr : ProjectSource → String
  | .odoo => "odoo"
  | .sharepoint => "sharepoint"
  | .email => "email"

/-- `src.capitalize()` -/
def capitalized : ProjectSource → String
  | .odoo => "Odoo"
  | .sharepoint => "Sharepoint"
  | .email => "Email"

/-- The source type of the items a project source delivers. -/
def sourceType : ProjectSource → SourceType
  | .odoo => .odoo
  | .sharepoint => .sharepoint
  | .email => .email

end ProjectSource

/-- The status vocabulary of the ledger. -/
inductive CoverageStatus where
  | ok
  | zeroNoMatch
  | error
  | blocked
  | rbacDenied
  | notEnabled
  | timeout
  deriving DecidableEq, Repr

namespace CoverageStatus

def toStr : CoverageStatus → String
  | .ok => "ok"
  | .zeroNoMatch => "zero_no_match"
  | .error => "error"
  | .blocked => "blocked"
  | .rbacDenied => "rbac_denied"
  | .notEnabled => "not_enabled"
  | .timeout => "timeout"

end CoverageStatus

/-- The outcome recorded for one source. -/
structure CoverageEntry where
  enabled : Bool
  attempted : Bool
  status : CoverageStatus
  evidenceCount : ℕ
  reason : String
  deriving DecidableEq, Repr

/-- `outputs["source_coverage"]` -/
abbrev Ledger := ProjectSource → Option CoverageEntry

/-- The entry `summary` supplies for a source that recorded none. -/
def missingCoverage : CoverageEntry :=
  ⟨false, false, .notEnabled, 0, "Source produced no coverage record."⟩

namespace Ledger

/-- `coverage.record` -/
def record (cov : Ledger) (source : ProjectSource) (entry : CoverageEntry) : Ledger :=
  fun s => if s = source then some entry else cov s

/-- The entry of a source in the summary. -/
def entry (cov : Ledger) (source : ProjectSource) : CoverageEntry :=
  (cov source).getD missingCoverage

/-- The enabled sources. -/
def enabled (cov : Ledger) : List ProjectSource :=
  ProjectSource.all.filter fun s => (cov.entry s).enabled

/-- `connector_errors` -/
def connectorErrors (cov : Ledger) : List ProjectSource :=
  cov.enabled.filter fun s => decide ((cov.entry s).status = .error)

/-- `not_attempted_sources`: enabled, not attempted, and not a documented skip. -/
def notAttempted (cov : Ledger) : List ProjectSource :=
  cov.enabled.filter fun s => !(cov.entry s).attempted &&
    decide ((cov.entry s).status ∉ [CoverageStatus.blocked, .rbacDenied])

/-- `any(entry.get("status") == "timeout" …)` over the enabled sources. -/
def hasTimeouts (cov : Ledger) : Bool :=
  cov.enabled.any fun s => decide ((cov.entry s).status = .timeout)

/-- `completeness` -/
def completeness (cov : Ledger) : String :=
  if cov.enabled = [] then "none_enabled"
  else if cov.enabled.all fun s => decide (0 < (cov.entry s).evidenceCount) then "full"
  else "partial"

/-- `report_section`: the coverage list embedded in the report. -/
def reportSection (cov : Ledger) : List (Value F) :=
  ProjectSource.all.map fun s =>
    let e := cov.entry s
    .dict [("source", .str s.toStr), ("enabled", .bool e.enabled),
      ("attempted", .bool e.attempted), ("evidence_count", .int e.evidenceCount),
      ("status", .str e.status.toStr), ("reason", .str e.reason)]

end Ledger

/-! ### Project mapping -/

/-- `microsoft.group` of a mapping entry. -/
structure MicrosoftGroup where
  id : Option String
  mail : Option String
  mailEnabled : Bool

/-- `odoo` of a mapping entry. -/
structure OdooConfig where
  projectModel : Option String
  costModel : Option String
  projectExternalId : Option String
  projectName : Option String
  analyticAccountId : Option String
  extendedSources : Bool

/-- One entry of the project mapping file. -/
structure ProjectEntry where
  projectName : String
  displayName : String
  mappingMethod : String
  mappingStatusGate : String
  enabledSources : List String
  sharepointAliases : List String
  siteId : Option String
  driveId : Option String
  group : MicrosoftGroup
  sharedMailboxes : List String
  documentControlMailbox : String
  odoo : OdooConfig
  /-- `sharepoint.project_name` -/
  sharepointProjectName : String := ""
  /-- `owncloud.base_path` -/
  owncloudBasePath : String := ""

/-- The mapping `{}` a retrieval node falls back to when the lookup fails. -/
def ProjectEntry.empty : ProjectEntry :=
  { projectName := "", displayName := "", mappingMethod := "", mappingStatusGate := ""
    enabledSources := [], sharepointAliases := [], siteId := none, driveId := none
    group := ⟨none, none, false⟩, sharedMailboxes := [], documentControlMailbox := ""
    odoo := ⟨none, none, none, none, none, false⟩ }

/-- `ProjectMapping.load()`: the mapping file, by project code. -/
abbrev ProjectMapping := String → Option ProjectEntry

namespace ProjectEntry

/-- `"<source>" in set(mapping.get("enabled_sources", []))` -/
def enables (m : ProjectEntry) (s : ProjectSource) : Bool :=
  decide (s.toStr ∈ m.enabledSources)

/-- `ProjectMapping.allowed_mailboxes` -/
def allowedMailboxes (m : ProjectEntry) : List String :=
  m.sharedMailboxes
    ++ (if m.documentControlMailbox ≠ "" then [m.documentControlMailbox] else [])
    ++ (if m.enables .email ∧ m.group.mailEnabled then
          (m.group.mail.filter (· ≠ "")).toList else [])

/-- `ProjectMapping.allowed_odoo_ids` -/
def allowedOdooIds (m : ProjectEntry) : List String :=
  (m.odoo.projectExternalId.filter (· ≠ "")).toList

end ProjectEntry

/-! ### Report types and identity -/

/-- The report types `classify_report_type` emits. -/
inductive ReportType where
  | salaryPayroll
  | managementQuestion
  | financial
  | risk
  | delay
  | documentSearch
  | dataReport
  | generalProjectStatus
  deriving DecidableEq, Repr

namespace ReportType

def toStr : ReportType → String
  | .salaryPayroll => "salary_payroll"
  | .managementQuestion => "management_question"
  | .financial => "financial"
  | .risk => "risk"
  | .delay => "delay"
  | .documentSearch => "document_search"
  | .dataReport => "data_report"
  | .generalProjectStatus => "general_project_status"

end ReportType

/-- `ProjectIdentity` (`apps/edr/graph/project_identity.py`) -/
structure ProjectIdentity where
  projectCode : String
  projectName : String
  identitySource : String
  identityConfidence : String
  missingIdentityEvidence : List String
  conflictNotes : List String
  deriving DecidableEq, Repr

/-- `ProjectIdentity.to_dict` -/
def ProjectIdentity.toDict (p : ProjectIdentity) : Dict F :=
  [("project_code", .str p.projectCode), ("project_name", .str p.projectName),
    ("identity_source", .str p.identitySource),
    ("identity_confidence", .str p.identityConfidence),
    ("missing_identity_evidence", .list (p.missingIdentityEvidence.map .str)),
    ("conflict_notes", .list (p.conflictNotes.map .str))]

/-! ### The state -/

/-- The verdict of the quality gate. -/
inductive Verdict where
  | passed
  | failed
  | needsReview
  deriving DecidableEq, Repr

namespace Verdict

def toStr : Verdict → String
  | .passed => "passed"
  | .failed => "failed"
  | .needsReview => "needs_review"

end Verdict

/-- The entries of `state.outputs` that modelled nodes read. -/
structure Outputs where
  intent : List String
  reportType : Option ReportType
  projectIdentity : Option ProjectIdentity
  sourceCoverage : Ledger
  odooFinancialAvailable : Bool
  evidenceSufficient : Option Bool
  qualityGate : Option Verdict

/-- `outputs` of a fresh state. -/
def Outputs.empty : Outputs := ⟨[], none, none, fun _ => none, false, none, none⟩

/-- `DecisionState` -/
structure DecisionState (F : Type) where
  requestId : String
  userId : String
  query : String
  role : Option String
  projectCode : Option String
  allowedMailboxes : List String
  allowedOdooIds : List String
  evidence : List (Evidence F)
  outputs : Outputs
  reportJson : Option (Dict F)
  loopCount : ℕ

end DecisionCenter
