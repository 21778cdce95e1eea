import DecisionCenter.Async.Task
import DecisionCenter.Graph.State

/-!
# What the stores hold about a report

The rows and objects kept under one `request_id`: the audit row, the review decisions, the
administrative events and the job in PostgreSQL (`apps/edr/persistence/postgres_store.py`), and
the artifacts under `staging/` and `final/` in MinIO (`apps/edr/persistence/minio_store.py`).

Every statement and every object access of the review code names a single request id, so an
operation acts on one `Record`. An operation may also raise instead; `down` says which do.

Of the audit row there are the columns that the review code reads, with the review state and the
verdict of the gate as inductive types, and `_derive_external_state` turns the two into the
state that is shown. Decisions and events are appended and never changed. The objects are a set
of names here, since the review code asks only whether an object exists; their contents are in
`Review.Archive`.

`Op` has one constructor for each statement and access, and each has a type of results of its
own, so that a handler can go on only with what the operation returns. `effect` is what an
operation does to a record and returns, and `act` the same where it may raise: then it does
nothing (`act_cases`). Time stamps and the ids of rows are left out where nothing reads them.
-/

namespace DecisionCenter.Review

open Async

/-! ### Rows -/

/-- `audit_log.review_state`, the values that are ever written. -/
inductive ReviewState where
  | staging
  | approved
  | rejected
  | revisionRequested
  | final
  | cancelled
  deriving DecidableEq, Repr

/-- The state name the API reports. -/
inductive ExternalState where
  | final
  | rejected
  | approved
  | revisionRequested
  | cancelled
  | failed
  | needsReview
  | staging
  deriving DecidableEq, Repr

def ExternalState.toStr : ExternalState → String
  | .final => "final"
  | .rejected => "rejected"
  | .approved => "approved"
  | .revisionRequested => "revision_requested"
  | .cancelled => "cancelled"
  | .failed => "failed"
  | .needsReview => "needs_review"
  | .staging => "staging"

/-- The columns of `audit_log` that the review code reads. -/
structure AuditRow where
  userIdHash : String
  projectCode : Option String
  qualityGateStatus : Verdict
  reviewState : ReviewState
  requiresApproval : Bool
  artifactKeys : List String
  deriving DecidableEq, Repr

/-- `_derive_external_state` -/
def deriveExternalState (audit : AuditRow) : ExternalState :=
  match audit.reviewState with
  | .final => .final
  | .rejected => .rejected
  | .approved => .approved
  | .revisionRequested => .revisionRequested
  | .cancelled => .cancelled
  | .staging => match audit.qualityGateStatus with
    | .failed => .failed
    | .needsReview => .needsReview
    | .passed => .staging

/-- A row of `review_decisions`. -/
structure Decision where
  reviewerIdHash : String
  action : String
  reason : Option String
  comment : Option String
  deriving DecidableEq, Repr

/-- A row of `admin_events`. -/
structure AdminEvent where
  eventType : String
  actorHash : String
  projectCode : Option String
  detail : String
  deriving DecidableEq, Repr

/-- `report_jobs.status` -/
inductive JobStatus where
  | queued
  | running
  | completed
  | failed
  | timeout
  | cancelled
  deriving DecidableEq, Repr

def JobStatus.toStr : JobStatus → String
  | .queued => "queued"
  | .running => "running"
  | .completed => "completed"
  | .failed => "failed"
  | .timeout => "timeout"
  | .cancelled => "cancelled"

/-- `REPORT_JOB_TERMINAL_STATES` -/
def reportJobTerminalStates : List JobStatus := [.completed, .failed, .timeout, .cancelled]

/-- A row of `report_jobs`. -/
structure Job where
  userIdHash : String
  status : JobStatus
  deriving DecidableEq, Repr

/-- The content of `approval-log.json`, without the id of the report and without `approved_at`. That
is the `created_at` which the database gives the decision; nothing reads it back, and the text of
the file is stated for any. -/
structure ApprovalLog where
  approverIdHash : String
  approvalAction : String
  approvalComment : Option String
  stagingArtifactKeys : List String
  finalArtifactKeys : List String
  deriving DecidableEq, Repr

/-- Everything stored under one request id. -/
structure Record where
  audit : Option AuditRow
  /-- Newest first. -/
  decisions : List Decision
  adminEvents : List AdminEvent
  job : Option Job
  /-- File names under `staging/{request_id}/`. -/
  staging : List String
  /-- File names under `final/{request_id}/`. -/
  final : List String
  approvalLog : Option ApprovalLog
  deriving DecidableEq, Repr

/-- A request id nothing is stored under. -/
def Record.empty : Record := ⟨none, [], [], none, [], [], none⟩

/-! ### Operations -/

/-- The store operations of the review code and of node 15. -/
inductive Op where
  | getAudit
  | getReportJob
  | getReviewDecisions
  | insertAdminEvent (e : AdminEvent)
  | insertReviewDecision (d : Decision)
  | updateReviewState (s : ReviewState)
  | failReportJob (s : JobStatus)
  | insertAudit (row : AuditRow)
  | putStaging (filename : String)
  | copyToFinal (filename : String)
  | putApprovalLog (log : ApprovalLog)
  deriving DecidableEq, Repr

/-- What a copy that did not fail did: it wrote the object, or found it written already. -/
inductive Copied where
  | written
  | exists
  deriving DecidableEq, Repr

/-- The result of an operation that does not raise. -/
def Op.Result : Op → Type
  | .getAudit => Option AuditRow
  | .getReportJob => Option Job
  | .getReviewDecisions => List Decision
  | .copyToFinal _ => Copied
  | _ => Unit

/-- What the caller sees: the result, or the exception (`none`). -/
abbrev Op.Outcome (o : Op) : Type := Option o.Result

/-- `approval-log.json` -/
def approvalLogName : String := "approval-log.json"

/-- Write an object name into a prefix; writing an existing name replaces it. -/
def putName (names : List String) (filename : String) : List String :=
  if filename ∈ names then names else names ++ [filename]

namespace Record

/-- `UPDATE audit_log SET review_state = …` -/
def setReviewState (r : Record) (s : ReviewState) : Record :=
  { r with audit := r.audit.map fun row => { row with reviewState := s } }

/-- What an operation returns and does when the services are up; only a copy can still fail,
when its source is missing. -/
def effect (o : Op) (r : Record) : o.Outcome × Record :=
  match o with
  | .getAudit => (some r.audit, r)
  | .getReportJob => (some r.job, r)
  | .getReviewDecisions => (some r.decisions, r)
  | .insertAdminEvent e => (some (), { r with adminEvents := r.adminEvents ++ [e] })
  | .insertReviewDecision d => (some (), { r with decisions := d :: r.decisions })
  | .updateReviewState s => (some (), r.setReviewState s)
  | .failReportJob s => (some (), { r with job := r.job.map fun j => { j with status := s } })
  | .insertAudit row => (some (), { r with audit := some row })
  | .putStaging filename => (some (), { r with staging := putName r.staging filename })
  | .copyToFinal filename =>
    if filename ∈ r.final then (some .exists, r)
    else if filename ∈ r.staging then
      (some .written, { r with final := r.final ++ [filename] })
    else (none, r)
  | .putApprovalLog log =>
    (some (), { r with final := putName r.final approvalLogName, approvalLog := some log })

/-- One operation on the record; those of `down` raise and do nothing. -/
def act (down : Op → Bool) (o : Op) (r : Record) : o.Outcome × Record :=
  if down o then (none, r) else r.effect o

/-- `review_state` of the audit row, where there is one. -/
def reviewState? (r : Record) : Option ReviewState := r.audit.map (·.reviewState)

@[simp] theorem audit_setReviewState (r : Record) (s : ReviewState) :
    (r.setReviewState s).audit = r.audit.map fun row => { row with reviewState := s } := rfl

/-- An operation raises and does nothing, or has its effect. -/
theorem act_cases (down : Op → Bool) (o : Op) (r : Record) :
    (down o = true ∧ r.act down o = (none, r)) ∨ (down o = false ∧ r.act down o = r.effect o) := by
  unfold act
  cases down o <;> simp

end Record

/-- The tasks over the stores of one report. -/
abbrev StoreTask := Task Op Op.Outcome

end DecisionCenter.Review
