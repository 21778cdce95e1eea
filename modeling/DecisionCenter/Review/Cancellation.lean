import DecisionCenter.Audits.Listing
import DecisionCenter.Jobs.Worker

/-!
# Who may cancel a report

`cancel_report` (`apps/edr/app.py`) over the two tables, with any text in their columns. Once
there is an audit row, its requester alone may cancel; before that the handler makes the check
of a read of the job, which lets the roles pass that read every report.

`Tables` has the rows of all reports, as the statements find them, by job and by request. The
handler looks for the audit row first. Where there is one it compares the hash of the caller
with that of the row, and refuses the terminal states; where there is none it goes to the job,
by the check that reads make. Both branches are written out with their errors, and with Entra
switched off everybody passes.

`RequesterOnly` asks that a cancellation which succeeds is one by the requester of the report,
as the row or the job names it. The check of a read admits the requester, auditors and the roles
that view all reports (`checkCanReadReportJob_eq_ok_iff`), so that the branch without an audit
row is where it can fail.

`requesterOnly_iff` is exact for all tables and callers with Entra: nobody who reads every
report cancels a job of another user that is not finished and has no audit row yet. An auditor
and a running report are the failing case.
-/

namespace DecisionCenter.Cancellation

open Review

/-- The tables that `cancel_report` reads and writes. -/
structure Tables where
  reportJobs : List Jobs.ReportJob
  auditLog : List Audits.AuditRow
  /-- With the report each is about, newest first. -/
  reviewDecisions : List (String × Decision)

namespace Tables

variable (db : Tables) (requestId : String)

/-- `get_report_job` -/
def job? : Option Jobs.ReportJob := Table.lookup (·.jobId) requestId db.reportJobs

/-- `get_audit` -/
def audit? : Option Audits.AuditRow := Table.lookup (·.requestId) requestId db.auditLog

/-- The hash of the requester that is stored for the report: the audit row's, once there is one. -/
def requesterHash : Option String :=
  ((db.audit? requestId).map (·.userIdHash)).or ((db.job? requestId).map (·.userIdHash))

end Tables

/-! ### The handler -/

section Handler

variable (env : Env) (now : Jobs.Timestamp) (requestId : String) (claims : Claims) (db : Tables)

/-- The 409 of a report in the state `current`. -/
def notCancellable (current : String) : HttpError :=
  ⟨409, "Report cannot be cancelled (current state: " ++ current ++ ")."⟩

/-- `cancel_report` while there is no audit row: the tables then. The task of the job, which is
cancelled too, is left out. -/
def cancelJob : Except HttpError Tables :=
  match db.job? requestId with
  | none => .error ⟨404, "Report not found."⟩
  | some job =>
    match checkCanReadReportJob env claims job.owner with
    | .error err => .error err
    | .ok _ =>
      let current := if job.status = "" then "queued" else job.status
      if current ∈ Jobs.terminalStatuses then .error (notCancellable current)
      else .ok
        { db with
          reportJobs := (Jobs.failReportJob now requestId "cancelled" job.currentStage "Cancelled"
            "Report generation was cancelled.").exec db.reportJobs }

/-- "Owner-only: requester must match." -/
def checkRequester (audit : Audits.AuditRow) : Except HttpError Unit :=
  if !env.entraConfigured then .ok ()
  else if claims.userId = "" then .error ⟨401, "Authentication required."⟩
  else if env.hashUserId claims.userId ≠ audit.userIdHash then
    .error ⟨403, "Only the requester can cancel this report."⟩
  else .ok ()

/-- `cancel_report` once there is an audit row. -/
def cancelAudited (audit : Audits.AuditRow) : Except HttpError Tables :=
  match checkRequester env claims audit with
  | .error err => .error err
  | .ok _ =>
    let current := Audits.deriveExternalState audit
    if current ∈ ["final", "rejected", "cancelled"] then .error (notCancellable current)
    else
      let canceller := if claims.userId ≠ "" then env.hashUserId claims.userId
        else audit.userIdHash
      .ok
        { db with
          reviewDecisions := (requestId, ⟨canceller, "report.cancelled",
            some "Cancelled by requester.", none⟩) :: db.reviewDecisions
          auditLog := (Table.set (fun r : Audits.AuditRow => r.requestId = requestId) fun r =>
            { r with reviewState := some "cancelled" }).exec db.auditLog }

/-- `cancel_report`: the tables after a success, or the error. -/
def cancelReport (claims : Option Claims) : Except HttpError Tables :=
  match requireClaims claims with
  | .error err => .error err
  | .ok claims =>
    match db.audit? requestId with
    | none => cancelJob env now requestId claims db
    | some audit => cancelAudited env requestId claims db audit

end Handler

/-! ### The requester -/

/-- A report is cancelled by its requester only. -/
def RequesterOnly (env : Env) (now : Jobs.Timestamp) (requestId : String) (claims : Option Claims)
    (db : Tables) : Prop :=
  ∀ db', cancelReport env now requestId db claims = .ok db' →
    ∃ c, claims = some c ∧ db.requesterHash requestId = some (env.hashUserId c.userId)

/-- The role reads every report. -/
def ReadsEveryReport (role : Option String) : Prop :=
  role = some Role.auditor.value ∨
    (role.bind Role.ofValue?).elim false (·.permissions.canViewAllReports) = true

section Requester

variable {hashUserId : String → String} {now : Jobs.Timestamp} {requestId : String} {c : Claims}
  {db : Tables}

/-- Whom the check of a read lets pass. -/
theorem checkCanReadReportJob_eq_ok_iff {job : Job} :
    checkCanReadReportJob ⟨hashUserId, true⟩ c job = .ok () ↔
      c.userId ≠ "" ∧ (ReadsEveryReport c.role ∨ hashUserId c.userId = job.userIdHash) := by
  rw [checkCanReadReportJob, ReadsEveryReport]
  by_cases huser : c.userId = ""
  · simp [huser]
  by_cases hauditor : c.role = some Role.auditor.value
  · simp [huser, hauditor]
  by_cases hall : (c.role.bind Role.ofValue?).elim false (·.permissions.canViewAllReports) = true
  · simp [huser, hall]
  by_cases hhash : hashUserId c.userId = job.userIdHash
  · simp [huser, hhash]
  · simp [huser, hauditor, hall, hhash]

private theorem checkRequester_eq_ok_iff {audit : Audits.AuditRow} :
    checkRequester ⟨hashUserId, true⟩ c audit = .ok () ↔
      c.userId ≠ "" ∧ hashUserId c.userId = audit.userIdHash := by
  rw [checkRequester]
  by_cases huser : c.userId = ""
  · simp [huser]
  · by_cases hhash : hashUserId c.userId = audit.userIdHash <;> simp [huser, hhash]

/-- A job without an audit row is cancelled if it is not finished and the caller may read it. A job
without a status counts as queued. -/
theorem cancelJob_isOk_iff :
    (∃ db', cancelJob ⟨hashUserId, true⟩ now requestId c db = .ok db') ↔
      ∃ job, db.job? requestId = some job ∧ job.status ∉ Jobs.terminalStatuses ∧
        checkCanReadReportJob ⟨hashUserId, true⟩ c job.owner = .ok () := by
  rw [cancelJob]
  cases hjob : db.job? requestId with
  | none => simp
  | some job =>
    have hcurrent : (if job.status = "" then "queued" else job.status) ∈ Jobs.terminalStatuses ↔
        job.status ∈ Jobs.terminalStatuses := by
      split
      · next hempty =>
        rw [hempty]
        exact iff_of_false (by decide) (by decide)
      · rfl
    dsimp only
    rw [if_congr hcurrent rfl rfl]
    cases hcheck : checkCanReadReportJob ⟨hashUserId, true⟩ c job.owner with
    | error err => simp [hcheck]
    | ok u => by_cases hdone : job.status ∈ Jobs.terminalStatuses <;> simp [hdone, hcheck]

/-- With Entra, a report is cancelled by its requester only, unless somebody who reads every report
cancels a job of another user that is not finished and has no audit row yet. Once there is an audit
row, the handler compares the requester itself. -/
theorem requesterOnly_iff (hashUserId : String → String) (now : Jobs.Timestamp)
    (requestId : String) (claims : Option Claims) (db : Tables) :
    RequesterOnly ⟨hashUserId, true⟩ now requestId claims db ↔
      ∀ c job, claims = some c → c.userId ≠ "" → ReadsEveryReport c.role →
        db.audit? requestId = none → db.job? requestId = some job →
        job.status ∉ Jobs.terminalStatuses → hashUserId c.userId = job.userIdHash := by
  constructor
  · rintro h c job rfl huser hrole haudit hjob hstatus
    have hcheck : checkCanReadReportJob ⟨hashUserId, true⟩ c job.owner = .ok () :=
      checkCanReadReportJob_eq_ok_iff.mpr ⟨huser, .inl hrole⟩
    obtain ⟨db', hdb'⟩ : ∃ db', cancelJob ⟨hashUserId, true⟩ now requestId c db = .ok db' :=
      cancelJob_isOk_iff.mpr ⟨job, hjob, hstatus, hcheck⟩
    have hcancel : cancelReport ⟨hashUserId, true⟩ now requestId db (some c) = .ok db' := by
      rw [cancelReport, requireClaims, haudit]
      exact hdb'
    obtain ⟨_, hc, hhash⟩ := h db' hcancel
    obtain rfl := Option.some.inj hc
    rw [Tables.requesterHash, haudit, hjob] at hhash
    exact (Option.some.inj hhash).symm
  · intro h db' hdb'
    cases claims with
    | none => cases hdb'
    | some c =>
      refine ⟨c, rfl, ?_⟩
      rw [cancelReport, requireClaims] at hdb'
      dsimp only at hdb'
      cases haudit : db.audit? requestId with
      | none =>
        rw [haudit] at hdb'
        obtain ⟨job, hjob, hstatus, hcheck⟩ := cancelJob_isOk_iff.mp ⟨db', hdb'⟩
        obtain ⟨huser, hrole | hhash⟩ := checkCanReadReportJob_eq_ok_iff.mp hcheck
        · -- the role is exempt from the check, and the condition is needed
          have hhash := h c job rfl huser hrole haudit hjob hstatus
          rw [Tables.requesterHash, haudit, hjob]
          exact congrArg some hhash.symm
        · rw [Tables.requesterHash, haudit, hjob]
          exact congrArg some hhash.symm
      | some audit =>
        rw [haudit] at hdb'
        dsimp only at hdb'
        rw [cancelAudited] at hdb'
        have hcheck : checkRequester ⟨hashUserId, true⟩ c audit = .ok () := by
          cases hcheck : checkRequester ⟨hashUserId, true⟩ c audit with
          | error err =>
            rw [hcheck] at hdb'
            cases hdb'
          | ok u => rfl
        rw [Tables.requesterHash, haudit]
        exact congrArg some (checkRequester_eq_ok_iff.mp hcheck).2.symm

/-- The job of `alice` is running, and nothing is saved yet. -/
def runningReport : Tables where
  reportJobs :=
    [{ Jobs.queuedJob 0 "r1" "r1" "alice" (some "P1") (some "status of P1") 18 with
        status := "running" }]
  auditLog := []
  reviewDecisions := []

/-- An auditor cancels the running report of another user. -/
theorem not_requesterOnly_auditor :
    ¬ RequesterOnly ⟨id, true⟩ 0 "r1" (some ⟨"audra", some "auditor"⟩) runningReport := by
  have hrequester : runningReport.requesterHash "r1" = some "alice" := by decide +kernel
  have hcancelled : (cancelReport ⟨id, true⟩ 0 "r1" runningReport
      (some ⟨"audra", some "auditor"⟩)).toOption.isSome = true := by
    decide +kernel
  intro h
  cases hcancel : cancelReport ⟨id, true⟩ 0 "r1" runningReport (some ⟨"audra", some "auditor"⟩) with
  | error err =>
    rw [hcancel] at hcancelled
    cases hcancelled
  | ok db' =>
    obtain ⟨c, hc, hhash⟩ := h db' hcancel
    obtain rfl := Option.some.inj hc
    rw [hrequester] at hhash
    exact absurd hhash (by decide)

end Requester

end DecisionCenter.Cancellation
