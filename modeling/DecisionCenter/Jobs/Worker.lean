import DecisionCenter.Async.Fault
import DecisionCenter.Jobs.ReportJobs
import DecisionCenter.Review.Endpoints

/-!
# The task of a report job

The background task that generates a report (`_run_report_job` in `apps/edr/app.py`, which
drives `run_workflow` of `apps/edr/graph/runner.py`) and the cancellation of a report, as tasks
over the two rows kept for it: its job and its audit row. Every awaited operation may raise, be
cancelled or run out of time, before or after it has taken effect.

A task is a tree of operations (`Async`), whose branches are the results that an operation may
have. The `try` block of the source appears as `attempt`, which goes on with the result or hands
the interruption to `handleInterrupt`, the three `except` branches of the source. `runStages` is
the loop over the stages with the two callbacks of each, and node 15 is the one stage that
writes a row of its own and swallows an exception of it.

What the nodes compute is left out: a finished workflow leaves a `WorkflowResult`, which has the
outputs that `_run_report_job` and node 15 read, and is arbitrary. The texts of the errors are
those of the source.

The world of the runs has the two rows and the tasks at work on them. A step performs the next
operation of a task under given circumstances, starts a cancellation, decides on the report,
ends the process and every task with it, or runs one of the two statements of the recovery.
`store_perform` says once what an operation does to the rows, and the two modules that follow
use nothing else of `perform`.
-/

namespace DecisionCenter.Jobs

open Async Review

/-! ### The stages -/

/-- The stages of `NODES`, by module name. -/
def stageNames : List String :=
  ["node_00_begin", "node_01_auth", "node_02_intent", "node_03_scope", "node_04_plan",
    "node_05_sharepoint", "node_06_owncloud", "node_07_email", "node_08_odoo",
    "node_09_normalize", "node_10_sufficiency", "node_11_self_correct", "node_12_draft_json",
    "node_13_quality_gate", "node_14_compose_md", "node_15_save_audit", "node_16_review",
    "node_17_publish"]

/-- `NODE_COUNT` -/
def nodeCount : ℕ := stageNames.length

/-- What a finished workflow leaves: the outputs `_run_report_job` reads, and the audit row that
node 15 wrote. -/
structure WorkflowResult where
  qualityGate : Option Verdict
  markdownReportStatus : Option String
  exportedReports : List String
  auditRow : AuditRow
  /-- The row has the verdict of the gate. -/
  gate : auditRow.qualityGateStatus = qualityGate.getD .needsReview
  /-- Nobody has reviewed the report yet. -/
  staged : auditRow.reviewState = .staging

/-- `_derive_status` -/
def deriveStatus (result : WorkflowResult) : String :=
  if result.qualityGate = some .passed ∧ result.markdownReportStatus = some "generated" then
    "ready"
  else if result.qualityGate = some .failed then "failed"
  else "in_progress"

/-! ### Exceptions -/

/-- An exception an operation raises by itself. -/
inductive Exc where
  | timeoutError
  | rbacDeniedError
  | other (errorClass : String)
  deriving DecidableEq, Repr

/-- What ends an awaited operation: an exception of its own, the cancellation of the task, or
the deadline of `asyncio.wait_for`, which cancels the workflow and raises `TimeoutError`. -/
inductive Interrupt where
  | raised (e : Exc)
  | cancelled
  | deadline
  deriving DecidableEq, Repr

/-- `exc.__class__.__name__` -/
def Exc.name : Exc → String
  | .timeoutError => "TimeoutError"
  | .rbacDeniedError => "RbacDeniedError"
  | .other errorClass => errorClass

/-! ### Operations -/

/-- The statuses `fail_report_job` is called with. -/
inductive Failure where
  | failed
  | timeout
  | cancelled
  deriving DecidableEq, Repr

def Failure.toStr : Failure → String
  | .failed => "failed"
  | .timeout => "timeout"
  | .cancelled => "cancelled"

/-- Every failure is a terminal status. -/
theorem Failure.toStr_mem (f : Failure) : f.toStr ∈ terminalStatuses := by
  cases f <;> decide

/-- A write to the job row. -/
inductive JobWrite where
  | running (stage : String) (node : ℕ)
  | stageComplete (stage : String) (node : ℕ)
  | complete (resultStatus qualityGateStatus : String) (exportedFormats : List String)
  | fail (status : Failure) (stage : Option String) (errorClass errorMessage : String)
  deriving DecidableEq, Repr

/-- The statement that makes the write. -/
def JobWrite.statement (now : Timestamp) (jobId : String) : JobWrite → Table.Update ReportJob
  | .running stage node => markReportJobRunning now jobId stage node
  | .stageComplete stage node => markReportJobStageComplete now jobId stage node
  | .complete result gate formats => completeReportJob now jobId result (some gate) formats
  | .fail status stage errorClass errorMessage =>
    failReportJob now jobId status.toStr stage errorClass errorMessage

/-- What the write makes of the row it names. -/
def JobWrite.apply (now : Timestamp) (w : JobWrite) (j : ReportJob) : ReportJob :=
  (w.statement now j.jobId).row j

/-- The operations of the two tasks. -/
inductive Op where
  | initSchema
  | getReportJob
  | getAudit
  | runNode (index : ℕ)
  | insertAudit (row : AuditRow)
  | write (w : JobWrite)
  | insertReviewDecision (d : Decision)
  | updateReviewState (s : ReviewState)
  deriving DecidableEq, Repr

/-- The result of an operation that does not raise. -/
def Op.Result : Op → Type
  | .getReportJob => Option ReportJob
  | .getAudit => Option AuditRow
  | _ => Unit

/-- What the caller sees. -/
abbrev Op.Outcome (o : Op) : Type := Except Interrupt o.Result

/-- The tasks over the rows of one report. -/
abbrev JobTask := Task Op Op.Outcome Unit

/-! ### `_run_report_job` -/

/-- `_safe_job_error` -/
def safeJobError (stage : String) (e : Exc) (timeout : Bool) : String :=
  let label := if stage = "" then "workflow" else stage
  if timeout then "Report generation timed out during " ++ label ++ "."
  else if e = .rbacDeniedError then
    "Report generation blocked during " ++ label ++ ": access denied."
  else "Report generation failed during " ++ label ++ "."

/-- Write a failure, as the last thing the task does. -/
def failJob (status : Failure) (stage errorClass errorMessage : String) : JobTask :=
  .op (.write (.fail status (some stage) errorClass errorMessage)) fun _ => .ret ()

/-- The `except` branches; `stage` is `current_stage`. -/
def handleInterrupt (stage : String) : Interrupt → JobTask
  | .deadline => failJob .timeout stage "TimeoutError" (safeJobError stage .timeoutError true)
  | .cancelled => failJob .cancelled stage "CancelledError" "Report generation was cancelled."
  | .raised .timeoutError =>
    failJob .timeout stage "TimeoutError" (safeJobError stage .timeoutError true)
  | .raised e => failJob .failed stage e.name (safeJobError stage e false)

/-- Perform an operation inside the `try` block and go on with its result. -/
def attempt (stage : String) (o : Op) (next : o.Result → JobTask) : JobTask :=
  .op o fun
    | .ok x => next x
    | .error e => handleInterrupt stage e

/-- What follows the workflow: the job is completed if the report was saved. -/
def finishJob (result : WorkflowResult) (stage : String) : JobTask :=
  attempt stage .getAudit fun
    | none => attempt stage (.write (.fail .failed (some "node_15_save_audit") "PersistenceError"
        "Report generation failed during node_15_save_audit.")) fun _ => .ret ()
    | some _ => attempt stage (.write (.complete (deriveStatus result)
        (result.qualityGate.getD .needsReview).toStr result.exportedReports)) fun _ => .ret ()

/-- Node 15 records an exception of the insert and goes on; a cancellation is no `Exception`. -/
def saveAudit (result : WorkflowResult) (stage : String) (next : JobTask) : JobTask :=
  .op (.insertAudit result.auditRow) fun
    | .ok _ => next
    | .error (.raised _) => next
    | .error .cancelled => handleInterrupt stage .cancelled
    | .error .deadline => handleInterrupt stage .deadline

/-- The stages from `index` on, with the calls of `on_stage_event`; `last` is the stage before
them. -/
def runStages (result : WorkflowResult) : (last : String) → (index : ℕ) → List String → JobTask
  | last, _, [] => finishJob result last
  | _, index, stage :: stages =>
    attempt stage .getReportJob fun job =>
      if job.any fun j => j.status = "cancelled" then handleInterrupt stage .cancelled
      else attempt stage (.write (.running stage (index + 1))) fun _ =>
        attempt stage (.runNode index) fun _ =>
          let rest := attempt stage (.write (.stageComplete stage (index + 1))) fun _ =>
            runStages result stage (index + 1) stages
          if stage = "node_15_save_audit" then saveAudit result stage rest else rest

/-- `_run_report_job`. Outside the `try` block an exception ends the task. -/
def runReportJob (result : WorkflowResult) : JobTask :=
  .op .initSchema fun
    | .ok _ => runStages result "queued" 0 stageNames
    | .error _ => .ret ()

/-! ### `cancel_report` -/

/-- The part of the job row that the check of the caller reads. -/
def ReportJob.owner (j : ReportJob) : Job := ⟨j.userIdHash, .queued⟩

/-- Perform an operation of the handler; one that raises ends it. -/
def callOp (o : Op) (next : o.Result → JobTask) : JobTask :=
  .op o fun
    | .ok x => next x
    | .error _ => .ret ()

/-- `cancel_report` while there is no audit row. `task.cancel()` is no operation of its own: any
operation of the worker may be cancelled, which is what the call comes to where this process has the
worker's task. -/
def cancelUnsaved (env : Env) (claims : Claims) : Option ReportJob → JobTask
  | none => .ret ()
  | some job => match checkCanReadReportJob env claims job.owner with
    | .error _ => .ret ()
    | .ok _ =>
      let current := if job.status = "" then "queued" else job.status
      if current ∈ terminalStatuses then .ret ()
      else callOp (.write (.fail .cancelled job.currentStage "Cancelled"
        "Report generation was cancelled.")) fun _ => .ret ()

/-- `cancel_report`, once the claims are there; its answers are left out. -/
def cancelReport (env : Env) (claims : Claims) : JobTask :=
  callOp .initSchema fun _ =>
    callOp .getReportJob fun job =>
      callOp .getAudit fun
        | none => cancelUnsaved env claims job
        | some row => match (Review.cancelReport env claims).check row with
          | .error _ => .ret ()
          | .ok _ =>
            callOp (.insertReviewDecision ((Review.cancelReport env claims).decision row))
              fun _ => callOp (.updateReviewState .cancelled) fun _ => .ret ()

/-! ### The rows of one report -/

/-- The job row and the audit row of one report. -/
structure Rows where
  job : Option ReportJob
  audit : Option AuditRow
  deriving DecidableEq, Repr

namespace Rows

/-- Write the review state of the audit row. -/
def review (s : Rows) (state : ReviewState) : Rows :=
  { s with audit := s.audit.map fun row => { row with reviewState := state } }

/-- `audit_log`, as the statements of the recovery join the job `j` to it. -/
def auditLog (s : Rows) (j : ReportJob) : List AuditEntry :=
  s.audit.toList.map fun row => ⟨j.requestId, some row.qualityGateStatus.toStr⟩

/-- What an operation returns and does. The decisions are not read here. -/
def effect (now : Timestamp) (o : Op) (s : Rows) : o.Result × Rows :=
  match o with
  | .initSchema => ((), s)
  | .getReportJob => (s.job, s)
  | .getAudit => (s.audit, s)
  | .runNode _ => ((), s)
  | .insertAudit row => ((), { s with audit := some row })
  | .write w => ((), { s with job := s.job.map fun j => w.apply now j })
  | .insertReviewDecision _ => ((), s)
  | .updateReviewState state => ((), s.review state)

end Rows

/-! ### Runs -/

/-- The circumstances of one operation. -/
structure Circumstance where
  now : Timestamp
  fault : Fault Interrupt

/-- One step of the system. -/
inductive Action where
  /-- The task at position `i` performs its next operation. -/
  | perform (i : ℕ) (c : Circumstance)
  /-- A request to cancel the report arrives. -/
  | cancel (env : Env) (claims : Claims)
  /-- A decision about the report, or the publish node, writes the review state. -/
  | review (state : ReviewState)
  /-- The process ends, and with it every task. -/
  | crash
  /-- The first statement of the recovery. -/
  | recoverCompleted (now : Timestamp)
  /-- Its second statement. -/
  | recoverFailed (now : Timestamp)

/-- The rows of a report and the tasks that work on them. -/
abbrev World := Pool Rows Op Op.Outcome Unit

/-- One operation under its circumstances. -/
def perform (c : Circumstance) (o : Op) (s : Rows) : o.Outcome × Rows :=
  c.fault.act (Rows.effect c.now) o s

/-- The rows and the tasks after a step. -/
def step (w : World) : Action → World
  | .perform i c => w.step (perform c) i
  | .cancel env claims => ⟨w.store, w.tasks ++ [cancelReport env claims]⟩
  | .review state => ⟨w.store.review state, w.tasks⟩
  | .crash => ⟨w.store, w.tasks.map fun _ => .ret ()⟩
  | .recoverCompleted now =>
    ⟨{ w.store with job := w.store.job.map fun j =>
        (Jobs.recoverCompleted now (w.store.auditLog j)).row j }, w.tasks⟩
  | .recoverFailed now =>
    ⟨{ w.store with job := w.store.job.map fun j =>
        (Jobs.recoverFailed now (w.store.auditLog j)).row j }, w.tasks⟩

/-- The operation that takes effect in a step, if one does. -/
def Action.effectiveOp (w : World) : Action → Option (Timestamp × Op)
  | .perform i c => if c.fault.effective then (w.nextOp i).map fun o => (c.now, o) else none
  | _ => none

/-- An operation that takes effect is the next one of a task that performs it. -/
theorem effectiveOp_eq_some {w : World} {a : Action} {now : Timestamp} {o : Op}
    (h : a.effectiveOp w = some (now, o)) :
    ∃ i c next, a = .perform i c ∧ w.tasks[i]? = some (.op o next) := by
  cases a with
  | perform i c =>
    rw [Action.effectiveOp] at h
    split at h
    · obtain ⟨o', ho, heq⟩ := Option.map_eq_some_iff.mp h
      cases heq
      obtain ⟨next, hget⟩ := Pool.nextOp_eq_some ho
      exact ⟨i, c, next, rfl, hget⟩
    · cases h
  | cancel env claims => cases h
  | review state => cases h
  | crash => cases h
  | recoverCompleted now => cases h
  | recoverFailed now => cases h

/-- A task changes the rows by the operation that takes effect, if one does. -/
theorem store_perform (w : World) (i : ℕ) (c : Circumstance) :
    (step w (.perform i c)).store = match (Action.perform i c).effectiveOp w with
      | some (now, o) => (Rows.effect now o w.store).2
      | none => w.store := by
  have hstore := Pool.store_step (perform c) w i
  rw [Action.effectiveOp, step, hstore]
  cases w.nextOp i with
  | none => cases c.fault.effective <;> rfl
  | some o =>
    dsimp only
    rw [perform, Fault.act_snd]
    cases c.fault.effective <;> rfl

/-- The job as `stage_report` inserts it under a new id, and its task. -/
def start (now : Timestamp) (jobId userIdHash : String) (projectCode query : Option String)
    (result : WorkflowResult) : World :=
  ⟨⟨some (queuedJob now jobId jobId userIdHash projectCode query nodeCount), none⟩,
    [runReportJob result]⟩

end DecisionCenter.Jobs
