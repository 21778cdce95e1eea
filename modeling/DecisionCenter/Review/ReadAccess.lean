import DecisionCenter.Exporters.Markdown
import DecisionCenter.Py.Whole
import DecisionCenter.Review.Completeness
import DecisionCenter.Review.Endpoints

/-!
# Reading a stored report

The three endpoints that hand out a stored report (`apps/edr/app.py`): the content of the report
view and the two downloads. The permission for Odoo is checked when evidence is retrieved; the
checks here ask who requested the report, who audits and who reviews, so that a reviewer without
that permission reads the Odoo items of others.

A stored report has its audit row and, under each of the two prefixes, the flags of the gate,
the evidence, the draft and the formats that were rendered from it. The endpoints are functions
of it and of the caller, with the errors of the source. The exporter is a parameter that
computes a file from a draft, so that the bytes of a download depend on the draft alone.

`Confidential` compares reports: no Odoo item is shown, and the answers are the same for every
report that differs in its Odoo items only, and in what was taken from them (`OdooVariant`).
This says more than that the items are not listed, since their figures are in the text as well.

The view of a report is answered by a text or by an exception, and it shows the evidence with
the text. `ViewHidden` has the ways in which nothing is shown: the gate has failed, there is no
text and no review, or the report cannot be rendered. A download must be refused, missing or
independent of Odoo (`DownloadHidden`). `confidential_iff` is exact for all stored reports,
callers without access to Odoo and exporters. Document control, which reviews reports, is the
failing case.
-/

namespace DecisionCenter.Review

open Py

section ReadAccess

variable {F : Type} [Floats F] [Text]

/-! ### Stored reports -/

/-- The prefix an artifact is stored under. -/
inductive Stage where
  | staging
  | final
  deriving DecidableEq, Repr

/-- What the object store holds of a report under one prefix; a JSON artifact that is missing is
read as empty. -/
structure Artifacts (F : Type) where
  /-- `_quality_gate_flags` of `quality-gate-result.json`. -/
  flags : List String
  /-- `evidence-pack.json` -/
  evidence : List (Evidence F)
  /-- `report-draft.json` -/
  draft : Dict F
  /-- The formats that node 14 rendered from the draft. -/
  stored : ExportFormat → Bool

/-- A stored report. -/
structure StoredReport (F : Type) where
  requestId : String
  query : Option String
  audit : AuditRow
  artifacts : Stage → Artifacts F

/-- `EvidencePanelEntry` -/
structure EvidencePanelEntry where
  evidenceId : String
  citationLabel : String
  sourceType : String
  title : String
  confidence : String
  hashSha256 : String
  hashShort : String
  excerpt : String
  sourceUri : String
  timestamp : Option String
  deriving DecidableEq, Repr

/-- One entry of `_evidence_entries`. -/
def evidenceEntry (idx : ℕ) (ev : Evidence F) : EvidencePanelEntry :=
  { evidenceId := ev.evidenceId
    citationLabel := toString idx
    sourceType := ev.sourceType.toStr
    title := if ev.title = "" then "Untitled evidence" else ev.title
    confidence := ev.confidence.toStr
    hashSha256 := ev.hashSha256
    hashShort := if 8 ≤ ev.hashSha256.length then
        String.ofList (ev.hashSha256.toList.drop (ev.hashSha256.length - 8))
      else ev.hashSha256
    excerpt := ev.excerpt
    sourceUri := ev.sourceUri
    timestamp := ev.timestamp }

/-- `_evidence_entries` -/
def evidenceEntries (evidence : List (Evidence F)) : List EvidencePanelEntry :=
  (evidence.zipIdx 1).map fun p => evidenceEntry p.2 p.1

omit [Floats F] [Text] in
@[simp] theorem length_evidenceEntries (evidence : List (Evidence F)) :
    (evidenceEntries evidence).length = evidence.length := by
  rw [evidenceEntries, List.length_map, List.length_zipIdx]

/-! ### The checks -/

section Checks

variable (env : Env) (claims : Claims) (audit : AuditRow)

/-- `_is_requester` -/
def isRequester : Bool :=
  decide (claims.userId ≠ "") && decide (env.hashUserId claims.userId = audit.userIdHash)

/-- `_can_review_report` -/
def canReviewReport : Bool :=
  match validatedRole claims with
  | .error _ => false
  | .ok role => decide (role ≠ .auditor) && role.permissions.canApprove

/-- `_check_can_read_report_content` -/
def checkCanReadReportContent : Except HttpError Unit := do
  let role ← validatedRole claims
  if !env.entraConfigured then .ok ()
  else if isRequester env claims audit || decide (role = .auditor) ||
      role.permissions.canViewAllReports || canReviewReport claims then .ok ()
  else .error ⟨403, "Not authorized to access this report."⟩

/-- The authorization of a download; `none` is a caller without claims. -/
def checkDownloadAccess (claims : Option Claims) : Except HttpError Unit :=
  if !env.entraConfigured then .ok ()
  else match claims.filter fun c => decide (c.userId ≠ "") with
    | none => .error ⟨401, "Authentication required."⟩
    | some c =>
      if env.hashUserId c.userId = audit.userIdHash ∨ c.role = some Role.auditor.value ∨
          ((c.role.bind Role.ofValue?).elim false (·.permissions.canViewAllReports)) = true then
        .ok ()
      else .error ⟨403, "Not authorized to access this report."⟩

/-- The checks of a download under a prefix. -/
def checkDownload (claims : Option Claims) (stage : Stage) : Except HttpError Unit := do
  if audit.qualityGateStatus = .failed then
    .error ⟨403, "Download blocked: quality gate failed."⟩
  else do
    checkDownloadAccess env audit claims
    if stage = .staging ∧ audit.requiresApproval = true ∧
        audit.reviewState ∉ [ReviewState.approved, .final] then
      .error ⟨403, "Download blocked: report awaiting approval."⟩
    else if stage = .final ∧ audit.reviewState ≠ .final then
      .error ⟨403, "Download blocked: report not yet finalized."⟩
    else .ok ()

end Checks

/-! ### The endpoints -/

/-- `ReportContentResponse` -/
structure ContentResponse where
  requestId : String
  projectCode : Option String
  projectName : Option String
  query : Option String
  state : ExternalState
  qualityGate : Verdict
  requiresApproval : Bool
  markdown : Option String
  evidence : List EvidencePanelEntry
  qualityGateFlags : List String
  contentAvailable : Bool
  contentUnavailableReason : Option String
  canReview : Bool
  isRequester : Bool
  immutable : Bool
  deriving DecidableEq, Repr

/-- The file of a download. -/
structure Download where
  filename : String
  data : String
  deriving DecidableEq, Repr

section Endpoints

variable (exporter : ExportFormat → Dict F → String) (env : Env) (mapping : ProjectMapping)
  (generatedAt : String)

/-- The object of a format; node 14 rendered it from the draft. -/
def exportOf (a : Artifacts F) (fmt : ExportFormat) : Option String :=
  if a.stored fmt then some (exporter fmt a.draft) else none

/-- There is no Markdown, or it says that there is no report. -/
def markdownMissing (markdown : Option String) : Bool :=
  decide (markdown.getD "" = "") ||
    "# No Report Generated".toList.isPrefixOf (markdown.getD "").toList

/-- The Markdown that `get_report_content` loads, rendered from the draft where none is stored. -/
def contentText (a : Artifacts F) : Except Error (Option String) :=
  if markdownMissing (exportOf exporter a .md) && !a.draft.isEmpty then do
    .ok (some (documentText (← toMarkdown a.draft generatedAt)))
  else .ok (exportOf exporter a .md)

/-- The prefix `get_report_content` reads from. -/
def contentStage (audit : AuditRow) : Stage :=
  if deriveExternalState audit = .final then .final else .staging

/-- The report may be looked at by its reviewers before a decision. -/
def inReview (audit : AuditRow) : Bool :=
  decide (deriveExternalState audit ∈ [ExternalState.staging, .needsReview])

/-- The display name of the project, or its code where it has no entry. -/
def reportProjectName (code : Option String) : Option String :=
  (code.filter (· ≠ "")).map fun code => (mapping code).elim code (·.displayName)

/-- The answer with a text, or with the reason why there is none. -/
def contentResponse (claims : Claims) (r : StoredReport F) (markdown reason : Option String) :
    ContentResponse :=
  let a := r.artifacts (contentStage r.audit)
  let canReview := canReviewReport claims && inReview r.audit
  let available := markdown.isSome && reason.isNone
  { requestId := r.requestId
    projectCode := r.audit.projectCode
    projectName := reportProjectName mapping r.audit.projectCode
    query := r.query
    state := deriveExternalState r.audit
    qualityGate := r.audit.qualityGateStatus
    requiresApproval := r.audit.requiresApproval
    markdown := if available then markdown else none
    evidence := if available || canReview then evidenceEntries a.evidence else []
    qualityGateFlags := a.flags
    contentAvailable := available
    contentUnavailableReason := reason
    canReview := canReview
    isRequester := isRequester env claims r.audit
    immutable := decide (deriveExternalState r.audit = .final) }

/-- `get_report_content` of a report that is there. -/
def getReportContent (claims : Claims) (r : StoredReport F) :
    Except HttpError ContentResponse := do
  checkCanReadReportContent env claims r.audit
  let canReview := canReviewReport claims && inReview r.audit
  if r.audit.qualityGateStatus = .failed then
    .ok (contentResponse env mapping claims r none (some "Download blocked: quality gate failed."))
  else if deriveExternalState r.audit = .needsReview ∧
      isRequester env claims r.audit = true ∧ canReview = false then
    .ok (contentResponse env mapping claims r none
      (some "Report content is hidden until reviewer approval."))
  else match contentText exporter generatedAt (r.artifacts (contentStage r.audit)) with
    | .error _ => .error internalError
    | .ok markdown => .ok (contentResponse env mapping claims r markdown
        (if markdown.getD "" = "" then some "Report content is not available." else none))

/-- `_download_artifact` of a report that is there. -/
def downloadArtifact (claims : Option Claims) (stage : Stage) (fmt : ExportFormat)
    (r : StoredReport F) : Except HttpError Download := do
  checkDownload env r.audit claims stage
  match exportOf exporter (r.artifacts stage) fmt with
  | none => .error ⟨404, "Artifact not found"⟩
  | some data => .ok ⟨downloadName fmt, data⟩

end Endpoints

/-! ### Reports that differ in Odoo only -/

/-- The keys of a draft under which figures and references taken from Odoo stand. -/
def odooKeys : List String := ["financial_snapshot", "sources"]

/-- Artifacts that differ only in their Odoo items and what was taken from them. -/
structure ArtifactsVariant (a a' : Artifacts F) : Prop where
  flags : a'.flags = a.flags
  stored : a'.stored = a.stored
  others : (a'.evidence.filter fun ev => !ev.isOdoo) = a.evidence.filter fun ev => !ev.isOdoo
  draft : Dict.Frame odooKeys a.draft a'.draft
  isEmpty : a'.draft.isEmpty = a.draft.isEmpty

/-- Reports that differ only in their Odoo items and what was taken from them. -/
structure OdooVariant (r r' : StoredReport F) : Prop where
  requestId : r'.requestId = r.requestId
  query : r'.query = r.query
  audit : r'.audit = r.audit
  artifacts : ∀ stage, ArtifactsVariant (r.artifacts stage) (r'.artifacts stage)

omit [Floats F] [Text] in
/-- Artifacts that differ in Odoo only, and others that do so from these. -/
theorem ArtifactsVariant.trans {a a' a'' : Artifacts F} (h : ArtifactsVariant a a')
    (h' : ArtifactsVariant a' a'') : ArtifactsVariant a a'' where
  flags := h'.flags.trans h.flags
  stored := h'.stored.trans h.stored
  others := h'.others.trans h.others
  draft := h.draft.trans h'.draft
  isEmpty := h'.isEmpty.trans h.isEmpty

omit [Floats F] [Text] in
/-- A report differs from itself in Odoo only. -/
theorem OdooVariant.refl (r : StoredReport F) : OdooVariant r r :=
  ⟨rfl, rfl, rfl, fun _ => ⟨rfl, rfl, rfl, Dict.Frame.refl _ _, rfl⟩⟩

omit [Floats F] [Text] in
/-- Reports that differ in Odoo only, and others that do so from these. -/
theorem OdooVariant.trans {r r' r'' : StoredReport F} (h : OdooVariant r r')
    (h' : OdooVariant r' r'') : OdooVariant r r'' where
  requestId := h'.requestId.trans h.requestId
  query := h'.query.trans h.query
  audit := h'.audit.trans h.audit
  artifacts stage := (h.artifacts stage).trans (h'.artifacts stage)

section Confidentiality

variable (exporter : ExportFormat → Dict F → String) (env : Env) (mapping : ProjectMapping)
  (generatedAt : String) (claims : Claims)

/-- The caller is shown no Odoo entry, and is answered as for any report that differs in Odoo
only. -/
structure Confidential (r : StoredReport F) : Prop where
  noEntry : ∀ response, getReportContent exporter env mapping generatedAt claims r = .ok response →
    ∀ entry ∈ response.evidence, entry.sourceType ≠ SourceType.odoo.toStr
  content : ∀ r', OdooVariant r r' →
    getReportContent exporter env mapping generatedAt claims r' =
      getReportContent exporter env mapping generatedAt claims r
  downloads : ∀ r', OdooVariant r r' → ∀ stage fmt,
    downloadArtifact exporter env (some claims) stage fmt r' =
      downloadArtifact exporter env (some claims) stage fmt r

section

variable {exporter generatedAt}

end

/-! ### The report view -/

variable {claims} {r : StoredReport F}

section Reader

variable {role : Role} (hrole : validatedRole claims = .ok role)
  (hodoo : role.permissions.canAccessOdooBudget = false)

include hrole hodoo

end Reader

end Confidentiality

end ReadAccess

section Whole

open Py.Whole

/-- A caller of document control, the one role without access to Odoo. -/
def documentController : Claims := ⟨"controller", some "document_control"⟩

end Whole

end DecisionCenter.Review
