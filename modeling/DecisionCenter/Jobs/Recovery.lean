import DecisionCenter.Jobs.ReportJobs

/-!
# Recovery of report jobs after a restart

The task of a report job lives in the process, so a restart orphans every job in flight.
`recover_report_jobs_after_restart` settles them with two statements: jobs whose report was
saved are completed, the others fail. `recoverReportJobs_spec` says what this does to tables of
any content, and that doing it again does nothing.

`Database` has the two tables with their constraints as fields: the ids of the jobs differ, and
so do those of the audit rows. A statement is an `Update` of `Data.Table`, a partial function on
rows, and that it leaves the key columns alone is proved beside it, so that the constraints hold
of the result without further proof.

The first statement joins the jobs with the audit log, and the second one is run on what it
leaves: a job that was completed is not in flight, and so passed over. `settle` is what the two
come to for one row, and `reportJobs_recover` says that they are `settle` on every row, which is
where the tables go out of sight.

`Recovered` then lists what is wanted of the result: no job is left in flight, the right ones
are completed, all other rows and the audit log are what they were, and the counts returned are
those of the rows that moved. Two clocks are read, one for each statement, and the second run
may be at any later time.
-/

namespace DecisionCenter.Jobs

open Table

/-- The two tables, with their `PRIMARY KEY` and `UNIQUE` constraints. -/
@[ext] structure Database where
  reportJobs : List ReportJob
  auditLog : List AuditEntry
  nodup_jobId : (reportJobs.map (·.jobId)).Nodup
  nodup_requestId : (reportJobs.map (·.requestId)).Nodup
  nodup_auditId : (auditLog.map (·.requestId)).Nodup

namespace Database

variable (db : Database)

/-- `get_report_job` -/
def getReportJob (jobId : String) : Option ReportJob :=
  lookup ReportJob.jobId jobId db.reportJobs

/-- `get_audit` -/
def getAudit (requestId : String) : Option AuditEntry :=
  lookup AuditEntry.requestId requestId db.auditLog

/-- The report of the job was saved. -/
def HasAudit (j : ReportJob) : Prop := ∃ a ∈ db.auditLog, a.requestId = j.requestId

instance (j : ReportJob) : Decidable (db.HasAudit j) :=
  inferInstanceAs (Decidable (∃ a ∈ db.auditLog, a.requestId = j.requestId))

/-- Execute an `UPDATE` of `report_jobs`. -/
def update (u : Update ReportJob) (h : KeepsKeys u) : Database where
  reportJobs := u.exec db.reportJobs
  auditLog := db.auditLog
  nodup_jobId := by
    rw [Update.map_key_exec _ h.jobId]
    exact db.nodup_jobId
  nodup_requestId := by
    rw [Update.map_key_exec _ h.requestId]
    exact db.nodup_requestId
  nodup_auditId := db.nodup_auditId

/-- What the recovery returns. -/
structure RecoveryCounts where
  completed : ℕ
  failed : ℕ
  deriving DecidableEq, Repr

/-- `recover_report_jobs_after_restart`; each of its statements has its own `NOW()`. -/
def recoverReportJobsAfterRestart (now now' : Timestamp) : RecoveryCounts × Database :=
  let completed := recoverCompleted now db.auditLog
  let repaired := db.update completed (keepsKeys_recoverCompleted now db.auditLog)
  let failed := recoverFailed now' repaired.auditLog
  (⟨completed.affected db.reportJobs, failed.affected repaired.reportJobs⟩,
    repaired.update failed (keepsKeys_recoverFailed now' repaired.auditLog))

/-! ### One row -/

section Row

variable {db} (now now' : Timestamp) {j : ReportJob}

/-- A job in flight is matched by the first statement exactly when its report was saved. -/
theorem recoverCompleted_of_inFlight (db : Database) (h : j.InFlight) :
    (db.HasAudit j ∧ ∃ a ∈ db.auditLog, a.requestId = j.requestId ∧
      recoverCompleted now db.auditLog j = some (recoverCompletedRow now a j)) ∨
    (¬ db.HasAudit j ∧ recoverCompleted now db.auditLog j = none) := by
  rw [recoverCompleted, setFrom, decide_eq_true h, if_pos rfl]
  cases hfind : db.auditLog.find? fun a => j.requestId = a.requestId with
  | none =>
    refine .inr ⟨?_, rfl⟩
    rintro ⟨a, ha, hreq⟩
    have hne := List.find?_eq_none.mp hfind a ha
    exact hne (decide_eq_true hreq.symm)
  | some a =>
    have ha : a ∈ db.auditLog := List.mem_of_find?_eq_some hfind
    have hfound := List.find?_some hfind
    have hreq : j.requestId = a.requestId := of_decide_eq_true hfound
    exact .inl ⟨⟨a, ha, hreq.symm⟩, a, ha, hreq.symm, rfl⟩

/-- A job in flight without a report is matched by the second statement. -/
theorem recoverFailed_of_inFlight (h : j.InFlight) (hna : ¬ db.HasAudit j) :
    recoverFailed now db.auditLog j = some (recoverFailedRow now j) := by
  have hp : j.InFlight ∧ ¬ ∃ a ∈ db.auditLog, a.requestId = j.requestId := ⟨h, hna⟩
  rw [recoverFailed, Table.set, decide_eq_true hp]
  rfl

/-- What the two statements make of a row, one after the other. -/
def settle (db : Database) (j : ReportJob) : ReportJob :=
  (recoverFailed now' db.auditLog).row ((recoverCompleted now db.auditLog).row j)

private theorem not_inFlight_recoverCompletedRow (a : AuditEntry) :
    ¬ (recoverCompletedRow now a j).InFlight := by
  have h : "completed" ∉ inFlightStatuses := by decide
  exact h

private theorem not_inFlight_recoverFailedRow : ¬ (recoverFailedRow now j).InFlight := by
  have h : "failed" ∉ inFlightStatuses := by decide
  exact h

private theorem settle_of_not_inFlight (h : ¬ j.InFlight) : settle now now' db j = j := by
  rw [settle, Update.row_of_none (recoverCompleted_of_not_inFlight now h),
    Update.row_of_none (recoverFailed_of_not_inFlight now' h)]

/-- A saved job is completed from its audit row, and the second statement passes it over. -/
theorem settle_of_hasAudit (h : j.InFlight) (ha : db.HasAudit j) :
    ∃ a ∈ db.auditLog, a.requestId = j.requestId ∧
      settle now now' db j = recoverCompletedRow now a j := by
  obtain ⟨-, a, hmem, hreq, hrow⟩ | ⟨hna, -⟩ := recoverCompleted_of_inFlight now db h
  · refine ⟨a, hmem, hreq, ?_⟩
    have hend : ¬ (recoverCompletedRow now a j).InFlight := not_inFlight_recoverCompletedRow now a
    rw [settle, Update.row_of_some hrow,
      Update.row_of_none (recoverFailed_of_not_inFlight now' hend)]
  · exact absurd ha hna

private theorem settle_of_not_hasAudit (h : j.InFlight) (hna : ¬ db.HasAudit j) :
    settle now now' db j = recoverFailedRow now' j := by
  obtain ⟨ha, -⟩ | ⟨-, hrow⟩ := recoverCompleted_of_inFlight now db h
  · exact absurd ha hna
  · rw [settle, Update.row_of_none hrow, Update.row_of_some (recoverFailed_of_inFlight now' h hna)]

private theorem not_inFlight_settle (db : Database) (j : ReportJob) :
    ¬ (settle now now' db j).InFlight := by
  by_cases h : j.InFlight
  · by_cases ha : db.HasAudit j
    · obtain ⟨a, -, -, hj⟩ := settle_of_hasAudit now now' h ha
      rw [hj]
      exact not_inFlight_recoverCompletedRow now a
    · rw [settle_of_not_hasAudit now now' h ha]
      exact not_inFlight_recoverFailedRow now'
  · rw [settle_of_not_inFlight now now' h]
    exact h

private theorem status_settle_of_hasAudit (h : j.InFlight) (ha : db.HasAudit j) :
    (settle now now' db j).status = "completed" := by
  obtain ⟨a, -, -, hj⟩ := settle_of_hasAudit now now' h ha
  rw [hj]
  rfl

private theorem status_settle_of_not_hasAudit (h : j.InFlight) (hna : ¬ db.HasAudit j) :
    (settle now now' db j).status = "failed" := by
  rw [settle_of_not_hasAudit now now' h hna]
  rfl

end Row

/-! ### The tables -/

variable (now now' : Timestamp)

/-- The recovery settles every row by itself. -/
theorem reportJobs_recover :
    (db.recoverReportJobsAfterRestart now now').2.reportJobs =
      db.reportJobs.map (settle now now' db) := by
  have hcomp : settle now now' db =
      (recoverFailed now' db.auditLog).row ∘ (recoverCompleted now db.auditLog).row := rfl
  rw [hcomp, ← List.map_map]
  rfl

private theorem getReportJob_recover (jobId : String) :
    (db.recoverReportJobsAfterRestart now now').2.getReportJob jobId =
      (db.getReportJob jobId).map (settle now now' db) := by
  have hfirst := lookup_exec db.reportJobs
    (keepsKeys_recoverCompleted now db.auditLog).jobId jobId
  have hsecond := lookup_exec ((recoverCompleted now db.auditLog).exec db.reportJobs)
    (keepsKeys_recoverFailed now' db.auditLog).jobId jobId
  rw [hfirst, Option.map_map] at hsecond
  exact hsecond

/-- The row of a job after the recovery. -/
theorem getReportJob_recover_of_mem {j : ReportJob} (hj : j ∈ db.reportJobs) :
    (db.recoverReportJobsAfterRestart now now').2.getReportJob j.jobId =
      some (settle now now' db j) := by
  have hrow : db.getReportJob j.jobId = some j := lookup_of_mem db.nodup_jobId hj
  rw [getReportJob_recover, hrow, Option.map_some]

/-- The rows in flight that are in the state `status` in the tables `db'`. -/
def movedTo (db db' : Database) (status : String) : ℕ :=
  db.reportJobs.countP fun j =>
    j.InFlight ∧ (db'.getReportJob j.jobId).map (·.status) = some status

private theorem movedTo_completed :
    (recoverCompleted now db.auditLog).affected db.reportJobs =
      db.movedTo (db.recoverReportJobsAfterRestart now now').2 "completed" := by
  refine List.countP_congr fun j hj => ?_
  rw [decide_eq_true_iff, getReportJob_recover_of_mem db now now' hj, Option.map_some,
    Option.some_inj]
  by_cases h : j.InFlight
  · obtain ⟨ha, a, -, -, hrow⟩ | ⟨hna, hrow⟩ := recoverCompleted_of_inFlight now db h
    · have hstatus := status_settle_of_hasAudit now now' h ha
      rw [hrow]
      exact ⟨fun _ => ⟨h, hstatus⟩, fun _ => rfl⟩
    · have hstatus := status_settle_of_not_hasAudit now now' h hna
      rw [hrow, hstatus]
      have hne : "failed" ≠ "completed" := by decide
      exact ⟨fun hf => absurd hf Bool.false_ne_true, fun hf => absurd hf.2 hne⟩
  · rw [recoverCompleted_of_not_inFlight now h]
    exact ⟨fun hf => absurd hf Bool.false_ne_true, fun hf => absurd hf.1 h⟩

/-- The second statement counts the jobs that have failed in the end, as it is run on what the first
one has left. -/
private theorem movedTo_failed :
    (recoverFailed now' db.auditLog).affected
        ((recoverCompleted now db.auditLog).exec db.reportJobs) =
      db.movedTo (db.recoverReportJobsAfterRestart now now').2 "failed" := by
  rw [Update.affected, Update.exec, List.countP_map]
  refine List.countP_congr fun j hj => ?_
  rw [decide_eq_true_iff, getReportJob_recover_of_mem db now now' hj, Option.map_some,
    Option.some_inj, Function.comp_apply]
  by_cases h : j.InFlight
  · obtain ⟨ha, a, -, -, hrow⟩ | ⟨hna, hrow⟩ := recoverCompleted_of_inFlight now db h
    · have hend : ¬ (recoverCompletedRow now a j).InFlight :=
        not_inFlight_recoverCompletedRow now a
      have hstatus := status_settle_of_hasAudit now now' h ha
      rw [Update.row_of_some hrow, recoverFailed_of_not_inFlight now' hend, hstatus]
      have hne : "completed" ≠ "failed" := by decide
      exact ⟨fun hf => absurd hf Bool.false_ne_true, fun hf => absurd hf.2 hne⟩
    · have hstatus := status_settle_of_not_hasAudit now now' h hna
      rw [Update.row_of_none hrow, recoverFailed_of_inFlight now' h hna]
      exact ⟨fun _ => ⟨h, hstatus⟩, fun _ => rfl⟩
  · rw [Update.row_of_none (recoverCompleted_of_not_inFlight now h),
      recoverFailed_of_not_inFlight now' h]
    exact ⟨fun hf => absurd hf Bool.false_ne_true, fun hf => absurd hf.1 h⟩

/-- What the recovery is for: from the tables `db` it makes `db'` and returns `counts`. -/
structure Recovered (db db' : Database) (counts : RecoveryCounts) : Prop where
  /-- No job is left in flight. -/
  settled : ∀ j ∈ db'.reportJobs, ¬ j.InFlight
  /-- A job in flight is completed exactly when its report was saved. -/
  completed : ∀ j ∈ db.reportJobs, j.InFlight → ∃ j', db'.getReportJob j.jobId = some j' ∧
    (j'.status = "completed" ↔ db.HasAudit j) ∧ (j'.status = "failed" ↔ ¬ db.HasAudit j)
  /-- Every other job is what it was. -/
  frame : ∀ j ∈ db.reportJobs, ¬ j.InFlight → db'.getReportJob j.jobId = some j
  /-- No job comes or goes. -/
  jobs : db'.reportJobs.map (·.jobId) = db.reportJobs.map (·.jobId)
  audits : db'.auditLog = db.auditLog
  completed_count : counts.completed = db.movedTo db' "completed"
  failed_count : counts.failed = db.movedTo db' "failed"

/-- The recovery does all that `Recovered` lists; each part is read off `settle`. -/
private theorem recovered_recover :
    Recovered db (db.recoverReportJobsAfterRestart now now').2
      (db.recoverReportJobsAfterRestart now now').1 where
  settled := by
    rw [reportJobs_recover]
    intro j' hj'
    obtain ⟨j, -, rfl⟩ := List.mem_map.mp hj'
    exact not_inFlight_settle now now' db j
  completed := by
    intro j hj h
    refine ⟨settle now now' db j, getReportJob_recover_of_mem db now now' hj, ?_⟩
    have hne : "completed" ≠ "failed" := by decide
    by_cases ha : db.HasAudit j
    · rw [status_settle_of_hasAudit now now' h ha]
      exact ⟨iff_of_true rfl ha, iff_of_false hne (not_not_intro ha)⟩
    · rw [status_settle_of_not_hasAudit now now' h ha]
      exact ⟨iff_of_false hne.symm ha, iff_of_true rfl ha⟩
  frame := by
    intro j hj h
    rw [getReportJob_recover_of_mem db now now' hj, settle_of_not_inFlight now now' h]
  jobs := by
    have hfirst := Update.map_key_exec db.reportJobs
      (keepsKeys_recoverCompleted now db.auditLog).jobId
    have hsecond := Update.map_key_exec ((recoverCompleted now db.auditLog).exec db.reportJobs)
      (keepsKeys_recoverFailed now' db.auditLog).jobId
    exact hsecond.trans hfirst
  audits := rfl
  completed_count := movedTo_completed db now now'
  failed_count := movedTo_failed db now now'

/-- Without jobs in flight the recovery does nothing. -/
theorem recover_of_settled (h : ∀ j ∈ db.reportJobs, ¬ j.InFlight) :
    db.recoverReportJobsAfterRestart now now' = (⟨0, 0⟩, db) := by
  have hfirst : ∀ j ∈ db.reportJobs, recoverCompleted now db.auditLog j = none :=
    fun j hj => recoverCompleted_of_not_inFlight now (h j hj)
  have hsecond : ∀ j ∈ db.reportJobs, recoverFailed now' db.auditLog j = none :=
    fun j hj => recoverFailed_of_not_inFlight now' (h j hj)
  have hrepaired : db.update (recoverCompleted now db.auditLog)
      (keepsKeys_recoverCompleted now db.auditLog) = db :=
    Database.ext (Update.exec_eq_self hfirst) rfl
  have hfailed : db.update (recoverFailed now' db.auditLog)
      (keepsKeys_recoverFailed now' db.auditLog) = db :=
    Database.ext (Update.exec_eq_self hsecond) rfl
  simp only [recoverReportJobsAfterRestart, hrepaired, hfailed, Update.affected_eq_zero hfirst,
    Update.affected_eq_zero hsecond]

/-- The recovery settles tables of any content as it should, and a second recovery, at any later
time, finds nothing to do. The second part is the first one once more: what has been settled is not
in flight. -/
theorem recoverReportJobs_spec :
    Recovered db (db.recoverReportJobsAfterRestart now now').2
      (db.recoverReportJobsAfterRestart now now').1 ∧
    ∀ later later' : Timestamp,
      (db.recoverReportJobsAfterRestart now now').2.recoverReportJobsAfterRestart later later' =
        (⟨0, 0⟩, (db.recoverReportJobsAfterRestart now now').2) := by
  have hrec := recovered_recover db now now'
  refine ⟨hrec, fun later later' => ?_⟩
  exact recover_of_settled _ later later' hrec.settled

end Database

end DecisionCenter.Jobs
