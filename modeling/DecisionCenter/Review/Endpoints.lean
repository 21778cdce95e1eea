import DecisionCenter.Rbac.Roles
import DecisionCenter.Review.Store

/-!
# The review endpoints and the publish node

The six request handlers of `apps/edr/app.py` that decide about a report (`approve_report`,
`reject_report`, `request_revision`, `cancel_report`, `admin_override_approve`,
`admin_override_reject`) and `node_17_publish.run`, which the approving ones call, as tasks over
the stores of the report.

All six read the audit row, make their own check of it, record the decision and then write the
new review state; `Endpoint` holds what differs and `Endpoint.serve` is the common body. What
differs are the check, the decision with its action and reason, the state that is written, the
event of the administration and whether the report is published. Each handler keeps its name and
is written as such an endpoint, so that it can be held against its source.

An endpoint is reached by a caller whose claims pass the check of the handler, which is a
function of the request and comes before any operation. The errors have the status and the text
of the source. An operation that raises ends the handler with a server error, and nothing is
undone.

The publish node copies the artifacts, writes the approval log and makes the report final, each
of these in a way of its own: a copy that fails is noted and passed over, and an exception while
the log is written is an error of the node. Rows are written by the statements of
`Review.Store`.
-/

namespace DecisionCenter.Review

open Async

/-! ### `node_17_publish` -/

/-- `_ARTIFACT_NAMES` -/
def artifactNames : List String :=
  ["executive-decision-report.md", "evidence-pack.json", "quality-gate-result.json",
    "report-draft.json", "audit-log.json"]

/-- `outputs["publish_status"]` -/
inductive PublishStatus where
  | blockedUntilApproval
  | rejected
  | revisionRequested
  | published
  deriving DecidableEq, Repr

/-- One entry of `outputs["publish_errors"]`. -/
inductive PublishError where
  | persistenceUnavailable
  | copyFailed (filename : String)
  | approvalLogFailed
  | stateUpdateFailed
  deriving DecidableEq, Repr

/-- The outputs the publish node sets. -/
structure PublishOutcome where
  status : PublishStatus
  finalKeys : List String := []
  errors : List PublishError := []
  deriving DecidableEq, Repr

/-- `final/{request_id}/{filename}` -/
def finalKey (requestId filename : String) : String :=
  "final/" ++ requestId ++ "/" ++ filename

/-- The last step: the review state becomes final whatever it is now. -/
def finalize (keys : List String) (errors : List PublishError) : StoreTask PublishOutcome :=
  .op (.updateReviewState .final) fun res =>
    let errors := match res with
      | some _ => errors
      | none => errors ++ [.stateUpdateFailed]
    .ret ⟨.published, keys, errors⟩

/-- `approval_decisions[0]`: the newest decision that approves. -/
def latestApproval (decisions : List Decision) : Option Decision :=
  decisions.find? fun d => decide (d.action ∈ ["approve", "admin_override"])

/-- `approval_log` -/
def approvalLogOf (row : AuditRow) (keys : List String) (d : Decision) : ApprovalLog :=
  ⟨d.reviewerIdHash, d.action, d.comment, row.artifactKeys, keys⟩

/-- Write `approval-log.json` when a decision approves, then finalize. -/
def writeApprovalLog (requestId : String) (row : AuditRow) (decisions : List Decision)
    (keys : List String) (errors : List PublishError) : StoreTask PublishOutcome :=
  match latestApproval decisions with
  | some d => .op (.putApprovalLog (approvalLogOf row keys d)) fun
    | some _ => finalize (keys ++ [finalKey requestId approvalLogName]) errors
    | none => finalize keys (errors ++ [.approvalLogFailed])
  | none => finalize keys errors

/-- Copy the artifacts that remain, then write the log; an object that exists already counts
as copied. -/
def copyArtifacts (requestId : String) (row : AuditRow) (decisions : List Decision) :
    List String → List String → List PublishError → StoreTask PublishOutcome
  | [], keys, errors => writeApprovalLog requestId row decisions keys errors
  | filename :: names, keys, errors => .op (.copyToFinal filename) fun
    | some _ => copyArtifacts requestId row decisions names
        (keys ++ [finalKey requestId filename]) errors
    | none => copyArtifacts requestId row decisions names keys (errors ++ [.copyFailed filename])

/-- What the publish node does once it has read the audit row and the decisions. -/
def publishRead (requestId : String) (audit : Option AuditRow) (decisions : List Decision) :
    StoreTask PublishOutcome :=
  match audit with
  | none => .ret { status := .blockedUntilApproval }
  | some row => match row.reviewState with
    | .rejected => .ret { status := .rejected }
    | .revisionRequested => .ret { status := .revisionRequested }
    | .approved => copyArtifacts requestId row decisions artifactNames [] []
    | .final => copyArtifacts requestId row decisions artifactNames [] []
    | .staging => .ret { status := .blockedUntilApproval }
    | .cancelled => .ret { status := .blockedUntilApproval }

/-- `node_17_publish.run` -/
def node17Publish (requestId : String) : StoreTask PublishOutcome :=
  .op .getAudit fun
    | none => .ret { status := .blockedUntilApproval, errors := [.persistenceUnavailable] }
    | some audit => .op .getReviewDecisions fun
      | none => .ret { status := .blockedUntilApproval, errors := [.persistenceUnavailable] }
      | some decisions => publishRead requestId audit decisions

/-- A staged report whose gate passed, as the workflow leaves it. -/
def stagedReport : Record :=
  { Record.empty with
    audit := some ⟨"requester", some "P1", .passed, .staging, true, []⟩
    staging := artifactNames }

/-! ### Callers -/

/-- `JWTClaims` -/
structure Claims where
  userId : String
  role : Option String
  deriving DecidableEq, Repr

/-- The environment of the API process: the user-id digest, and whether Entra is configured. -/
structure Env where
  hashUserId : String → String
  entraConfigured : Bool

/-- The bypass setup of local development: Entra is not configured. -/
def bypassEnv : Env := ⟨id, false⟩

/-- `HTTPException` -/
structure HttpError where
  status : ℕ
  detail : String
  deriving DecidableEq, Repr

/-- A string that request validation guarantees to be nonempty (`Field(min_length=1)`). -/
abbrev NonemptyString := { s : String // s ≠ "" }

/-- `_require_claims` -/
def requireClaims : Option Claims → Except HttpError Claims
  | some claims => .ok claims
  | none => .error ⟨401, "Authentication required."⟩

/-- `_validated_role` -/
def validatedRole (claims : Claims) : Except HttpError Role :=
  match claims.role.filter (· ≠ "") with
  | none => .error ⟨403, "Role is required."⟩
  | some s => match Role.ofValue? s with
    | some r => .ok r
    | none => .error ⟨403, "Invalid role: " ++ s⟩

/-- `_check_reviewer_rbac`: the action of the caller's role, which is always `approve`. -/
def checkReviewerRbac (claims : Claims) : Except HttpError String := do
  let role ← validatedRole claims
  if role = .auditor then
    .error ⟨403, "Auditor cannot approve, reject, or request revision."⟩
  else if role.permissions.canApprove then .ok "approve"
  else .error ⟨403, "Role is not authorized to review reports."⟩

/-- `_require_admin` -/
def requireAdmin (claims : Option Claims) : Except HttpError Claims := do
  let claims ← requireClaims claims
  let role ← validatedRole claims
  if role = .admin then .ok claims else .error ⟨403, "Admin role required."⟩

/-- The caller of a reviewer endpoint. -/
def reviewer (claims : Option Claims) : Except HttpError Claims := do
  let claims ← requireClaims claims
  let _ ← checkReviewerRbac claims
  .ok claims

/-! ### The common body -/

/-- The body of a 2xx answer. -/
structure Accepted where
  action : String
  newState : String
  publishStatus : Option PublishStatus
  deriving DecidableEq, Repr

abbrev Response := Except HttpError Accepted

/-- A raising store operation ends the request with a server error. -/
def internalError : HttpError := ⟨500, "Internal Server Error"⟩

/-- Perform an operation and go on with its result. -/
def call (o : Op) (next : o.Result → StoreTask Response) : StoreTask Response :=
  .op o fun
    | some x => next x
    | none => .ret (.error internalError)

/-- What one of the six handlers does with the caller's claims. -/
structure Endpoint where
  /-- Whether the job row is read before the audit row. -/
  readsJob : Bool := false
  /-- The answer when there is no audit row. -/
  absent : Option Job → StoreTask Response
  /-- The handler's own check of the audit row it read. -/
  check : AuditRow → Except HttpError Unit
  /-- The administrative event recorded before the decision. -/
  event : AuditRow → Option AdminEvent := fun _ => none
  decision : AuditRow → Decision
  /-- The review state written. -/
  target : ReviewState
  /-- Whether the publish node runs afterwards. -/
  publishes : Bool := false
  /-- `action` and `new_state` of the answer. -/
  action : String
  newState : String

namespace Endpoint

variable (requestId : String) (e : Endpoint)

/-- The answer, with the publish status where the node ran. -/
def answer (status : Option PublishStatus) : Response :=
  .ok ⟨e.action, e.newState, status⟩

/-- After the review state is written: publish, if the handler does, and answer. -/
def publishAndAnswer : StoreTask Response :=
  if e.publishes then
    (node17Publish requestId).bind fun out => .ret (e.answer (some out.status))
  else .ret (e.answer none)

/-- Write the review state. -/
def write : StoreTask Response :=
  call (.updateReviewState e.target) fun _ => e.publishAndAnswer requestId

/-- Record the decision on the row that was read, then write. -/
def recordDecision (audit : AuditRow) : StoreTask Response :=
  call (.insertReviewDecision (e.decision audit)) fun _ => e.write requestId

/-- What follows the handler's check of the row it read. -/
def decide (audit : AuditRow) : StoreTask Response :=
  match e.event audit with
  | some ev => call (.insertAdminEvent ev) fun _ => e.recordDecision requestId audit
  | none => e.recordDecision requestId audit

/-- What follows the read of the audit row. -/
def checked (job : Option Job) (audit : Option AuditRow) : StoreTask Response :=
  match audit with
  | none => e.absent job
  | some row => match e.check row with
    | .ok _ => e.decide requestId row
    | .error err => .ret (.error err)

/-- Read the audit row and go on. -/
def readAudit (job : Option Job) : StoreTask Response :=
  call .getAudit fun audit => e.checked requestId job audit

/-- The handler, once the caller is admitted. -/
def serve : StoreTask Response :=
  if e.readsJob then call .getReportJob fun job => e.readAudit requestId job
  else e.readAudit requestId none

end Endpoint

/-! ### The six handlers -/

/-- The answer of most handlers when there is no audit row. -/
def notFound (detail : String) : Option Job → StoreTask Response :=
  fun _ => .ret (.error ⟨404, detail⟩)

variable (env : Env)

/-- `approve_report` -/
def approveReport (claims : Claims) (comment : Option String) : Endpoint where
  absent := notFound "Report not found."
  check audit :=
    if audit.reviewState = .final then .error ⟨409, "Report is already finalized."⟩
    else if audit.reviewState = .rejected then .error ⟨409, "Report has been rejected."⟩
    else .ok ()
  decision _ := ⟨env.hashUserId claims.userId, "approve", none, comment⟩
  target := .approved
  publishes := true
  action := "approve"
  newState := "approved"

/-- The check that `reject_report` and `request_revision` make. -/
def checkNotFinal (audit : AuditRow) : Except HttpError Unit :=
  if audit.reviewState = .final then .error ⟨409, "Report is already finalized."⟩ else .ok ()

/-- `reject_report` -/
def rejectReport (claims : Claims) (reason : NonemptyString) : Endpoint where
  absent := notFound "Report not found."
  check := checkNotFinal
  decision _ := ⟨env.hashUserId claims.userId, "approve", some reason, none⟩
  target := .rejected
  action := "reject"
  newState := "rejected"

/-- `request_revision` -/
def requestRevision (claims : Claims) (reason : NonemptyString) (comment : Option String) :
    Endpoint where
  absent := notFound "Report not found."
  check := checkNotFinal
  decision _ := ⟨env.hashUserId claims.userId, "approve", some reason, comment⟩
  target := .revisionRequested
  action := "request_revision"
  newState := "revision_requested"

/-- `_check_can_read_report_job` -/
def checkCanReadReportJob (claims : Claims) (job : Job) : Except HttpError Unit :=
  if !env.entraConfigured then .ok ()
  else if claims.userId = "" then .error ⟨401, "Authentication required."⟩
  else if claims.role = some Role.auditor.value then .ok ()
  else if (claims.role.bind Role.ofValue?).elim false (·.permissions.canViewAllReports) then .ok ()
  else if env.hashUserId claims.userId = job.userIdHash then .ok ()
  else .error ⟨403, "Not authorized to access this report."⟩

/-- The 409 of a report that cannot be cancelled. -/
def notCancellable (current : String) : HttpError :=
  ⟨409, "Report cannot be cancelled (current state: " ++ current ++ ")."⟩

/-- `cancel_report` of a report whose workflow has not saved an audit row yet. -/
def cancelJob (claims : Claims) : Option Job → StoreTask Response
  | none => .ret (.error ⟨404, "Report not found."⟩)
  | some job => match checkCanReadReportJob env claims job with
    | .error err => .ret (.error err)
    | .ok _ =>
      if job.status ∈ reportJobTerminalStates then
        .ret (.error (notCancellable job.status.toStr))
      else call (.failReportJob .cancelled) fun _ => .ret (.ok ⟨"cancel", "cancelled", none⟩)

/-- `cancel_report` -/
def cancelReport (claims : Claims) : Endpoint where
  readsJob := true
  absent := cancelJob env claims
  check audit := do
    if env.entraConfigured then
      if claims.userId = "" then .error ⟨401, "Authentication required."⟩
      else if env.hashUserId claims.userId ≠ audit.userIdHash then
        .error ⟨403, "Only the requester can cancel this report."⟩
      else .ok ()
    else .ok ()
    let current := deriveExternalState audit
    if current ∈ [ExternalState.final, .rejected, .cancelled] then
      .error (notCancellable current.toStr)
    else .ok ()
  decision audit :=
    ⟨if claims.userId ≠ "" then env.hashUserId claims.userId else audit.userIdHash,
      "report.cancelled", some "Cancelled by requester.", none⟩
  target := .cancelled
  action := "cancel"
  newState := "cancelled"

/-- The check both override endpoints make; `selfDetail` is the text of their self-action
refusal. -/
def checkOverride (claims : Claims) (selfDetail : String) (audit : AuditRow) :
    Except HttpError Unit :=
  if env.hashUserId claims.userId = audit.userIdHash then .error ⟨403, selfDetail⟩
  else
    let state := deriveExternalState audit
    if state ∈ [ExternalState.staging, .needsReview] then .ok ()
    else .error
      ⟨409, "Report is not in the approval queue (current state: " ++ state.toStr ++ ")."⟩

/-- The administrative event recorded before an override. -/
def overrideEvent (requestId eventType : String) (claims : Claims) (audit : AuditRow) :
    AdminEvent :=
  ⟨eventType, env.hashUserId claims.userId, audit.projectCode, "request_id=" ++ requestId⟩

/-- `admin_override_approve` -/
def adminOverrideApprove (requestId : String) (claims : Claims) (comment : NonemptyString) :
    Endpoint where
  absent := notFound "Report not found"
  check := checkOverride env claims "Self-approval is not allowed."
  event audit := some (overrideEvent env requestId "report.admin_override_approved" claims audit)
  decision _ := ⟨env.hashUserId claims.userId, "admin_override", none, some comment⟩
  target := .approved
  publishes := true
  action := "admin_override_approved"
  newState := "approved"

/-- `admin_override_reject` -/
def adminOverrideReject (requestId : String) (claims : Claims) (comment : NonemptyString) :
    Endpoint where
  absent := notFound "Report not found"
  check := checkOverride env claims "Self-rejection is not allowed."
  event audit := some (overrideEvent env requestId "report.admin_override_rejected" claims audit)
  decision _ := ⟨env.hashUserId claims.userId, "admin_override", none, some comment⟩
  target := .rejected
  action := "admin_override_rejected"
  newState := "rejected"

/-! ### Requests -/

/-- A request about one report. -/
inductive Request where
  | approve (claims : Option Claims) (comment : Option String)
  | reject (claims : Option Claims) (reason : NonemptyString)
  | requestRevision (claims : Option Claims) (reason : NonemptyString) (comment : Option String)
  | cancel (claims : Option Claims)
  | overrideApprove (claims : Option Claims) (comment : NonemptyString)
  | overrideReject (claims : Option Claims) (comment : NonemptyString)
  deriving DecidableEq

/-- The checks made before anything is read, and the handler they admit to. -/
def Request.endpoint (requestId : String) : Request → Except HttpError Endpoint
  | .approve claims comment => (reviewer claims).map fun c => approveReport env c comment
  | .reject claims reason => (reviewer claims).map fun c => rejectReport env c reason
  | .requestRevision claims reason comment =>
    (reviewer claims).map fun c => Review.requestRevision env c reason comment
  | .cancel claims => (requireClaims claims).map fun c => cancelReport env c
  | .overrideApprove claims comment =>
    (requireAdmin claims).map fun c => adminOverrideApprove env requestId c comment
  | .overrideReject claims comment =>
    (requireAdmin claims).map fun c => adminOverrideReject env requestId c comment

/-- Serve a request. -/
def Request.handle (requestId : String) (req : Request) : StoreTask Response :=
  match req.endpoint env requestId with
  | .ok e => e.serve requestId
  | .error err => .ret (.error err)

end DecisionCenter.Review
