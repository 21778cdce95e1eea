import DecisionCenter.Data.Table

/-!
# The table of report jobs

`report_jobs` and the statements on it (`apps/edr/persistence/postgres_store.py`). A job row
follows the background task that generates one report: queued, running through the nodes of the
workflow, and at the end completed, failed, timed out or cancelled.

The status is a `TEXT` column without a constraint and stays a string here. `Terminal` and
`InFlight` are the two sets that the statements ask for, and a row may be in neither. Of the
audit log there are the columns that statements on the jobs read.

Each statement is an `Update` of `Data.Table`: the condition of its `WHERE`, and what is set.
`mark_report_job_running` and `mark_report_job_stage_complete` ask in the condition that the job
has not ended; `complete_report_job` and `fail_report_job` do not, and match a job that has
ended as well. What this difference makes possible is the subject of `Jobs.Lifecycle`.

The two statements of the recovery match jobs in flight only, the first one by a join with the
audit log. That they leave the ids of the rows alone (`KeepsKeys`) is what an update of a table
with keys has to be accompanied by.
-/

namespace DecisionCenter.Jobs

/-- A `TIMESTAMP` column; each statement is given the value of its `NOW()`. -/
abbrev Timestamp : Type := Int

/-- A row of `report_jobs`. The status is a `TEXT` column and may hold any text. -/
structure ReportJob where
  jobId : String
  requestId : String
  userIdHash : String
  projectCode : Option String
  query : Option String
  status : String
  currentNode : Int
  totalNodes : Int
  currentStage : Option String
  stageStatus : Option String
  resultStatus : Option String
  qualityGateStatus : Option String
  exportedFormats : List String
  errorClass : Option String
  errorMessage : Option String
  createdAt : Option Timestamp
  startedAt : Option Timestamp
  completedAt : Option Timestamp
  updatedAt : Option Timestamp
  deriving DecidableEq, Repr

/-- The columns of `audit_log` that statements on the jobs read. -/
structure AuditEntry where
  requestId : String
  qualityGateStatus : Option String
  deriving DecidableEq, Repr

/-- `status IN ('completed', 'failed', 'timeout', 'cancelled')` -/
def terminalStatuses : List String := ["completed", "failed", "timeout", "cancelled"]

/-- `status IN ('queued', 'running')` -/
def inFlightStatuses : List String := ["queued", "running"]

namespace ReportJob

/-- The job will not be worked on any more. -/
def Terminal (j : ReportJob) : Prop := j.status ∈ terminalStatuses

/-- The job waits for its task or is worked on. -/
def InFlight (j : ReportJob) : Prop := j.status ∈ inFlightStatuses

instance (j : ReportJob) : Decidable j.Terminal :=
  inferInstanceAs (Decidable (j.status ∈ terminalStatuses))

instance (j : ReportJob) : Decidable j.InFlight :=
  inferInstanceAs (Decidable (j.status ∈ inFlightStatuses))

/-- A job in flight has not ended. -/
theorem InFlight.not_terminal {j : ReportJob} (h : j.InFlight) : ¬ j.Terminal := by
  have hdisj : ∀ s ∈ inFlightStatuses, s ∉ terminalStatuses := by decide
  exact hdisj j.status h

end ReportJob

/-! ### Statements -/

open Table

/-- The row `insert_report_job` inserts. -/
def queuedJob (now : Timestamp) (jobId requestId userIdHash : String)
    (projectCode query : Option String) (totalNodes : Int) : ReportJob where
  jobId := jobId
  requestId := requestId
  userIdHash := userIdHash
  projectCode := projectCode
  query := query
  status := "queued"
  currentNode := 0
  totalNodes := totalNodes
  currentStage := some "queued"
  stageStatus := some "queued"
  resultStatus := none
  qualityGateStatus := none
  exportedFormats := []
  errorClass := none
  errorMessage := none
  createdAt := some now
  startedAt := none
  completedAt := none
  updatedAt := some now

/-- `mark_report_job_running` -/
def markReportJobRunning (now : Timestamp) (jobId currentStage : String) (currentNode : Int) :
    Update ReportJob :=
  set (fun j => j.jobId = jobId ∧ ¬ j.Terminal) fun j =>
    { j with
      status := "running"
      currentStage := some currentStage
      currentNode := currentNode
      stageStatus := some "running"
      startedAt := j.startedAt.or (some now)
      updatedAt := some now }

/-- `mark_report_job_stage_complete` -/
def markReportJobStageComplete (now : Timestamp) (jobId currentStage : String)
    (currentNode : Int) : Update ReportJob :=
  set (fun j => j.jobId = jobId ∧ ¬ j.Terminal) fun j =>
    { j with
      currentStage := some currentStage
      currentNode := currentNode
      stageStatus := some "completed"
      updatedAt := some now }

/-- `complete_report_job` -/
def completeReportJob (now : Timestamp) (jobId resultStatus : String)
    (qualityGateStatus : Option String) (exportedFormats : List String) : Update ReportJob :=
  -- Unlike the two statements above, this one and the next also match a terminal row.
  set (fun j => j.jobId = jobId) fun j =>
    { j with
      status := "completed"
      currentNode := j.totalNodes
      currentStage := some "completed"
      stageStatus := some "completed"
      resultStatus := some resultStatus
      qualityGateStatus := qualityGateStatus
      exportedFormats := exportedFormats
      completedAt := some now
      updatedAt := some now }

/-- `fail_report_job` -/
def failReportJob (now : Timestamp) (jobId status : String) (currentStage : Option String)
    (errorClass errorMessage : String) : Update ReportJob :=
  set (fun j => j.jobId = jobId) fun j =>
    { j with
      status := status
      currentStage := currentStage
      stageStatus := some status
      errorClass := some errorClass
      errorMessage := some errorMessage
      completedAt := some now
      updatedAt := some now }

/-- The `CASE` over the gate status in the first statement of the recovery. A `NULL` status
meets neither comparison. -/
def recoveredResult (qualityGateStatus : Option String) : String :=
  if qualityGateStatus = some "failed" then "failed"
  else if qualityGateStatus = some "needs_review" then "needs_review"
  else "staging"

/-- What the first statement of the recovery makes of a job whose audit row is `a`. -/
def recoverCompletedRow (now : Timestamp) (a : AuditEntry) (j : ReportJob) : ReportJob :=
  { j with
    status := "completed"
    currentNode := j.totalNodes
    currentStage := some "completed"
    stageStatus := some "completed"
    resultStatus := some (recoveredResult a.qualityGateStatus)
    qualityGateStatus := a.qualityGateStatus
    completedAt := some now
    updatedAt := some now }

/-- What its second statement makes of a job without an audit row. -/
def recoverFailedRow (now : Timestamp) (j : ReportJob) : ReportJob :=
  { j with
    status := "failed"
    currentStage := j.currentStage.or (some "app_restart_or_worker_lost")
    stageStatus := some "failed"
    errorClass := some "WorkerLost"
    errorMessage := some "Report generation failed: app_restart_or_worker_lost."
    completedAt := some now
    updatedAt := some now }

/-- The first statement of `recover_report_jobs_after_restart`: jobs whose report was saved. -/
def recoverCompleted (now : Timestamp) (auditLog : List AuditEntry) : Update ReportJob :=
  setFrom (fun j a => j.requestId = a.requestId) (fun j => j.InFlight)
    (recoverCompletedRow now) auditLog

/-- Its second statement: jobs without a report. -/
def recoverFailed (now : Timestamp) (auditLog : List AuditEntry) : Update ReportJob :=
  set (fun j => j.InFlight ∧ ¬ ∃ a ∈ auditLog, a.requestId = j.requestId) (recoverFailedRow now)

/-! ### Jobs that are not in flight, which the recovery leaves alone -/

section NotInFlight

variable (now : Timestamp) {auditLog : List AuditEntry} {j : ReportJob}

/-- The first statement of the recovery matches jobs in flight only. -/
theorem recoverCompleted_of_not_inFlight (h : ¬ j.InFlight) :
    recoverCompleted now auditLog j = none := by
  rw [recoverCompleted, setFrom, decide_eq_false h]
  rfl

/-- The second statement of the recovery matches jobs in flight only. -/
theorem recoverFailed_of_not_inFlight (h : ¬ j.InFlight) :
    recoverFailed now auditLog j = none := by
  have hp : ¬ (j.InFlight ∧ ¬ ∃ a ∈ auditLog, a.requestId = j.requestId) := fun hj => h hj.1
  rw [recoverFailed, Table.set, decide_eq_false hp]
  rfl

end NotInFlight

/-! ### The keys, which no statement writes -/

/-- `job_id` and `request_id` stay what they are. -/
structure KeepsKeys (u : Update ReportJob) : Prop where
  jobId : u.Keeps ReportJob.jobId
  requestId : u.Keeps ReportJob.requestId

private theorem keepsKeys_set {p : ReportJob → Bool} {f : ReportJob → ReportJob}
    (hjob : ∀ j, (f j).jobId = j.jobId) (hreq : ∀ j, (f j).requestId = j.requestId) :
    KeepsKeys (set p f) :=
  ⟨keeps_set hjob, keeps_set hreq⟩

/-- The first statement of the recovery leaves the ids alone. -/
theorem keepsKeys_recoverCompleted (now : Timestamp) (auditLog : List AuditEntry) :
    KeepsKeys (recoverCompleted now auditLog) :=
  ⟨keeps_setFrom fun _ _ => rfl, keeps_setFrom fun _ _ => rfl⟩

/-- The second statement of the recovery leaves the ids alone. -/
theorem keepsKeys_recoverFailed (now : Timestamp) (auditLog : List AuditEntry) :
    KeepsKeys (recoverFailed now auditLog) := keepsKeys_set (fun _ => rfl) fun _ => rfl

end DecisionCenter.Jobs
