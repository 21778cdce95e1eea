import DecisionCenter.Jobs.Lifecycle
import DecisionCenter.Py.Value

/-!
# What the status endpoint shows

`get_report_status` answers from two rows: from the job while it is not completed, and from the
audit row afterwards. Once the job has ended and the report is saved, the answer is the state of
the audit row, unless the job failed, ran out of time or was cancelled beside an audit row that
tells another story. `statusAgrees_iff_reconciled` says which steps bring the two rows apart.

`StatusAgrees` is about a pair of rows and every caller who is let in. The state of a job is
shown by the name of its status, that of an audit row by `_derive_external_state`, so the
question is which failures the audit row can tell of: a failed report and a cancelled one have
states there, a time-out has none. `statusAgrees_iff` has it without the endpoint: the failure
that the job ended with, if it ended with one, is told by the audit row (`Failure.ToldBy`).

Over a run one follows the pair of failure and audit row, where there is one (`Rows.pair`). A
step leaves it as it was or makes a new one, by writing a failure, by inserting the audit row or
by a decision of a reviewer, and `Action.pairs` names what it makes.

`Reconciled` asks of such a step that the pair it leaves agrees, which is a condition on the
step and the rows before it. The failing runs let the deadline pass after node 15 has inserted
the audit row: the job says that it has timed out, and the report waits for a review.
-/

namespace DecisionCenter.Jobs

open Async Review

/-! ### `get_report_status` -/

/-- `ReportStatusResponse`; `updated_at` and `qg_failure_reason` are left out. -/
structure ReportStatusResponse where
  requestId : String
  state : String
  qualityGate : Option String
  totalNodes : Int
  currentNode : Int
  isTerminal : Bool
  currentStage : Option String
  stageStatus : Option String
  errorClass : Option String
  errorMessage : Option String
  deriving DecidableEq, Repr

/-- `str(job.get("status") or "queued")` -/
def ReportJob.shownStatus (j : ReportJob) : String := if j.status = "" then "queued" else j.status

/-- `_job_external_state` -/
def jobExternalState (j : ReportJob) : String :=
  if j.shownStatus = "timeout" then "timed_out"
  else if j.shownStatus = "completed" then
    let result := j.resultStatus.getD ""
    if result ∈ ["staging", "needs_review", "failed"] then result else "staging"
  else j.shownStatus

/-- `_job_status_response` -/
def jobStatusResponse (j : ReportJob) : ReportStatusResponse where
  requestId := if j.requestId = "" then j.jobId else j.requestId
  state := jobExternalState j
  qualityGate := j.qualityGateStatus
  totalNodes := if j.totalNodes = 0 then nodeCount else j.totalNodes
  currentNode := j.currentNode
  isTerminal := j.shownStatus ∈ terminalStatuses
  currentStage := j.currentStage
  stageStatus := j.stageStatus
  errorClass := j.errorClass
  errorMessage := j.errorMessage

/-- The answer from the audit row. -/
def auditStatusResponse (requestId : String) (row : AuditRow) : ReportStatusResponse where
  requestId := requestId
  state := (deriveExternalState row).toStr
  qualityGate := some row.qualityGateStatus.toStr
  totalNodes := nodeCount
  currentNode := nodeCount
  isTerminal := true
  currentStage := some "completed"
  stageStatus := some "completed"
  errorClass := none
  errorMessage := none

/-- `_check_can_read_own_report`: the check of a job, made with the owner of the report. -/
def checkCanReadOwnReport (env : Env) (claims : Claims) (row : AuditRow) :
    Except HttpError Unit :=
  checkCanReadReportJob env claims ⟨row.userIdHash, .queued⟩

/-- The rest of `get_report_status` after the job was passed over. -/
def readAuditStatus (env : Env) (claims : Claims) (requestId : String) :
    Option AuditRow → Except HttpError ReportStatusResponse
  | none => .error ⟨404, "Report not found."⟩
  | some row => do
    checkCanReadOwnReport env claims row
    .ok (auditStatusResponse requestId row)

/-- `get_report_status` -/
def getReportStatus (env : Env) (claims : Option Claims) (requestId : String) (s : Rows) :
    Except HttpError ReportStatusResponse := do
  let claims ← requireClaims claims
  match s.job with
  | some job =>
    checkCanReadReportJob env claims job.owner
    if job.status ≠ "completed" ∨ s.audit = none then .ok (jobStatusResponse job)
    else readAuditStatus env claims requestId s.audit
  | none => readAuditStatus env claims requestId s.audit

/-- Once the job is terminal and the report is saved, whoever may ask is shown the state of the
audit row. -/
def StatusAgrees (s : Rows) : Prop :=
  ∀ env claims requestId resp j row, s.job = some j → s.audit = some row → j.Terminal →
    getReportStatus env claims requestId s = .ok resp →
      resp.state = (deriveExternalState row).toStr

/-! ### Failures beside an audit row -/

/-- The failure that a job ended with. -/
def ReportJob.failure? (j : ReportJob) : Option Failure :=
  if j.status = "failed" then some .failed
  else if j.status = "timeout" then some .timeout
  else if j.status = "cancelled" then some .cancelled
  else none

/-- The audit row tells of the same failure: a cancellation of a report that the requester
cancelled, or a failure where the gate failed and nobody has decided. It never tells of a
time-out. -/
def Failure.ToldBy (row : AuditRow) : Failure → Prop
  | .failed => row.reviewState = .staging ∧ row.qualityGateStatus = .failed
  | .timeout => False
  | .cancelled => row.reviewState = .cancelled

/-- The state name of a failed job. -/
def Failure.externalState : Failure → String
  | .failed => "failed"
  | .timeout => "timed_out"
  | .cancelled => "cancelled"

private theorem externalState_eq_iff (f : Failure) (row : AuditRow) :
    f.externalState = (deriveExternalState row).toStr ↔ f.ToldBy row := by
  obtain ⟨_, _, gate, state, _, _⟩ := row
  cases f <;> cases state <;> cases gate <;>
    simp [Failure.externalState, Failure.ToldBy, deriveExternalState, ExternalState.toStr]

/-- The failure of the job and the audit row, where the report has both. -/
def Rows.pair (s : Rows) : Option (Failure × AuditRow) :=
  (s.job.bind (·.failure?)).bind fun f => s.audit.map fun row => (f, row)

private theorem failure?_eq_some {j : ReportJob} {f : Failure} (h : j.failure? = some f) :
    j.status = f.toStr := by
  rw [ReportJob.failure?] at h
  split at h
  · next hs => cases h; exact hs
  · split at h
    · next hs => cases h; exact hs
    · split at h
      · next hs => cases h; exact hs
      · cases h

private theorem failure?_of_status {j : ReportJob} {f : Failure} (h : j.status = f.toStr) :
    j.failure? = some f := by
  rw [ReportJob.failure?, h]
  cases f <;> rfl

private theorem failure?_of_completed {j : ReportJob} (h : j.status = "completed") :
    j.failure? = none := by
  rw [ReportJob.failure?, h]
  rfl

private theorem failure?_of_not_terminal {j : ReportJob} (h : ¬ j.Terminal) :
    j.failure? = none := by
  cases hf : j.failure? with
  | none => rfl
  | some f => exact absurd (ReportJob.Terminal.of_status f.toStr_mem (failure?_eq_some hf)) h

/-- A terminal job is completed or ended with a failure. -/
theorem terminal_cases {j : ReportJob} (h : j.Terminal) :
    j.status = "completed" ∨ ∃ f, j.failure? = some f := by
  have hs : j.status = "completed" ∨ j.status = "failed" ∨ j.status = "timeout" ∨
      j.status = "cancelled" := by simpa [ReportJob.Terminal, terminalStatuses] using h
  obtain hs | hs | hs | hs := hs
  · exact .inl hs
  · exact .inr ⟨.failed, failure?_of_status hs⟩
  · exact .inr ⟨.timeout, failure?_of_status hs⟩
  · exact .inr ⟨.cancelled, failure?_of_status hs⟩

private theorem jobExternalState_of_failure {j : ReportJob} {f : Failure}
    (h : j.failure? = some f) : jobExternalState j = f.externalState := by
  rw [jobExternalState, ReportJob.shownStatus, failure?_eq_some h]
  cases f <;> rfl

/-- The admitted callers of a report with both rows: they see the job unless it is completed. Then
the audit row tells the state, and before that it is not asked. -/
theorem state_of_getReportStatus {env : Env} {claims : Option Claims} {requestId : String}
    {s : Rows} {resp : ReportStatusResponse} {j : ReportJob} {row : AuditRow}
    (hj : s.job = some j) (hrow : s.audit = some row)
    (h : getReportStatus env claims requestId s = .ok resp) :
    resp.state = if j.status = "completed" then (deriveExternalState row).toStr
      else jobExternalState j := by
  obtain ⟨c, -, h⟩ := Py.bind_eq_ok.mp h
  rw [hj] at h
  obtain ⟨-, -, h⟩ := Py.bind_eq_ok.mp h
  by_cases hs : j.status = "completed"
  · have hcond : ¬ (j.status ≠ "completed" ∨ s.audit = none) := by simp [hs, hrow]
    rw [if_neg hcond, hrow] at h
    obtain ⟨-, -, h⟩ := Py.bind_eq_ok.mp h
    cases h
    rw [if_pos hs]
    rfl
  · rw [if_pos (.inl hs)] at h
    cases h
    rw [if_neg hs]
    rfl

/-- Somebody may ask: without Entra anybody may. -/
theorem getReportStatus_bypass {s : Rows} {j : ReportJob} {row : AuditRow} (hj : s.job = some j)
    (hrow : s.audit = some row) :
    ∃ resp, getReportStatus bypassEnv (some ⟨"requester", none⟩) "report" s = .ok resp := by
  by_cases hs : j.status = "completed"
  · have hcond : ¬ (j.status ≠ "completed" ∨ s.audit = none) := by simp [hs, hrow]
    refine ⟨auditStatusResponse "report" row, ?_⟩
    rw [getReportStatus, hj, hrow]
    rw [hrow] at hcond
    simp only [if_neg hcond]
    rfl
  · refine ⟨jobStatusResponse j, ?_⟩
    rw [getReportStatus, hj]
    simp only [if_pos (Or.inl hs : j.status ≠ "completed" ∨ s.audit = none)]
    rfl

/-- The endpoint agrees with the audit row exactly when the row tells of the failure that the
job ended with, if it ended with one. -/
theorem statusAgrees_iff {s : Rows} :
    StatusAgrees s ↔ ∀ f row, s.pair = some (f, row) → f.ToldBy row := by
  constructor
  · intro h f row hpair
    obtain ⟨f', hf, hrow⟩ := Option.bind_eq_some_iff.mp hpair
    obtain ⟨j, hj, hf⟩ := Option.bind_eq_some_iff.mp hf
    obtain ⟨row', hrow', heq⟩ := Option.map_eq_some_iff.mp hrow
    obtain ⟨rfl, rfl⟩ := Prod.mk.inj heq
    clear hrow
    obtain ⟨resp, hresp⟩ := getReportStatus_bypass hj hrow'
    have hterm : j.Terminal := ReportJob.Terminal.of_status f'.toStr_mem (failure?_eq_some hf)
    have hstate := h _ _ _ resp j row' hj hrow' hterm hresp
    have hne : j.status ≠ "completed" := by
      intro hs
      rw [failure?_of_completed hs] at hf
      cases hf
    rw [state_of_getReportStatus hj hrow' hresp, if_neg hne, jobExternalState_of_failure hf]
      at hstate
    exact (externalState_eq_iff f' row').mp hstate
  · intro h env claims requestId resp j row hj hrow hterm hresp
    rw [state_of_getReportStatus hj hrow hresp]
    obtain hs | ⟨f, hf⟩ := terminal_cases hterm
    · rw [if_pos hs]
    · have hpair : s.pair = some (f, row) := by
        rw [Rows.pair, hj, Option.bind_some, hf, Option.bind_some, hrow, Option.map_some]
      have htold := (externalState_eq_iff f row).mpr (h f row hpair)
      split
      · rfl
      · rw [jobExternalState_of_failure hf, htold]

/-! ### Steps that bring the rows apart -/

/-- The failure and the audit row that a step leaves side by side: a failure recorded when the
report is saved, a report saved or a decision written when the job has failed. -/
def Action.pairs (w : World) (a : Action) : Option (Failure × AuditRow) :=
  match a with
  | .review state => (w.store.review state).pair
  | _ => match a.effectiveOp w with
    | some (_, .write (.fail f _ _ _)) => w.store.audit.map fun row => (f, row)
    | some (_, .insertAudit row) => (w.store.job.bind (·.failure?)).map fun f => (f, row)
    | some (_, .updateReviewState state) => (w.store.review state).pair
    | _ => none

/-- The audit row that the step leaves beside a failed job tells of that failure. -/
def Reconciled (w : World) (a : Action) : Prop :=
  ∀ f row, a.pairs w = some (f, row) → f.ToldBy row

private theorem pair_of_failure?_eq_none {s : Rows} {j : ReportJob} (hj : s.job = some j)
    (hf : j.failure? = none) : s.pair = none := by
  rw [Rows.pair, hj, Option.bind_some, hf]
  rfl

private theorem pair_of_audit_eq_none {s : Rows} (h : s.audit = none) : s.pair = none := by
  rw [Rows.pair, h]
  cases s.job.bind (·.failure?) <;> rfl

/-- What a write leaves: the failure it records, or nothing new. A pair is a failed job beside an
audit row, so that a write of a node leaves none of its own. -/
theorem pair_write {s : Rows} {j : ReportJob} (hj : s.job = some j) (now : Timestamp)
    (wr : JobWrite) :
    (Rows.effect now (.write wr) s).2.pair =
        (match wr with
          | .fail f _ _ _ => s.audit.map fun row => (f, row)
          | _ => none) ∨
      ((∀ f stage c m, wr ≠ .fail f stage c m) ∧
        (Rows.effect now (.write wr) s).2.pair = s.pair) := by
  have hjob : (Rows.effect now (.write wr) s).2.job = some (wr.apply now j) := by
    rw [Rows.effect, hj]
    rfl
  -- A guarded write keeps a terminal row, and leaves any other in progress.
  have hguarded : ∀ n, wr.node? = some n → (Rows.effect now (.write wr) s).2.pair = none ∨
      (Rows.effect now (.write wr) s).2.pair = s.pair := by
    intro n hn
    by_cases hterm : j.Terminal
    · right
      rw [apply_of_terminal now hn hterm] at hjob
      rw [Rows.pair, hjob, Rows.pair, hj]
      rfl
    · left
      obtain ⟨-, -, hlive⟩ := apply_node now hn hterm
      exact pair_of_failure?_eq_none hjob (failure?_of_not_terminal hlive)
  cases wr with
  | running stage node =>
    obtain h | h := hguarded node rfl
    · exact .inl h
    · exact .inr ⟨fun _ _ _ _ => nofun, h⟩
  | stageComplete stage node =>
    obtain h | h := hguarded node rfl
    · exact .inl h
    · exact .inr ⟨fun _ _ _ _ => nofun, h⟩
  | complete result gate formats =>
    obtain ⟨hstatus, -⟩ := apply_final now j (w := .complete result gate formats) rfl
    exact .inl (pair_of_failure?_eq_none hjob (failure?_of_completed hstatus))
  | fail f stage errorClass errorMessage =>
    obtain ⟨hstatus, -⟩ := apply_final now j (w := .fail f stage errorClass errorMessage) rfl
    left
    rw [Rows.pair, hjob, Option.bind_some, failure?_of_status hstatus]
    rfl

/-- An operation of a task leaves the pair that `pairs` names, or leaves the one there was. Whether
a fault lets it take effect is part of the circumstance. -/
theorem pair_perform {w : World} {j : ReportJob} (hj : w.store.job = some j) (i : ℕ)
    (c : Circumstance) :
    (step w (.perform i c)).store.pair = (Action.perform i c).pairs w ∨
      ((Action.perform i c).pairs w = none ∧
        (step w (.perform i c)).store.pair = w.store.pair) := by
  have hstore := store_perform w i c
  rw [Action.pairs]
  · cases hop : (Action.perform i c).effectiveOp w with
    | none =>
      rw [hop] at hstore
      rw [hstore]
      exact .inr ⟨rfl, rfl⟩
    | some p =>
      obtain ⟨now, o⟩ := p
      rw [hop] at hstore
      rw [hstore]
      cases o with
      | write wr =>
        -- the failure that is written, or none, or a write that leaves the pair as it was
        obtain hpair | ⟨hne, hpair⟩ := pair_write hj now wr
        · left
          rw [hpair]
          cases wr <;> rfl
        · right
          refine ⟨?_, hpair⟩
          cases wr with
          | running stage node => rfl
          | stageComplete stage node => rfl
          | complete result gate formats => rfl
          | fail f stage c m => exact absurd rfl (hne f stage c m)
      | insertAudit row =>
        left
        change Rows.pair ⟨w.store.job, some row⟩ = _
        rw [Rows.pair]
        cases w.store.job.bind (·.failure?) <;> rfl
      | updateReviewState state => exact .inl rfl
      | initSchema => exact .inr ⟨rfl, rfl⟩
      | getReportJob => exact .inr ⟨rfl, rfl⟩
      | getAudit => exact .inr ⟨rfl, rfl⟩
      | runNode index => exact .inr ⟨rfl, rfl⟩
      | insertReviewDecision d => exact .inr ⟨rfl, rfl⟩
  · intro state hstate
    cases hstate

/-- A step leaves the pair that `pairs` names, or leaves the one there was. A review changes the
audit row, and with it the pair that there is. -/
theorem pair_step {w : World} (h : Invariant w) (a : Action) :
    (step w a).store.pair = a.pairs w ∨
      (a.pairs w = none ∧ (step w a).store.pair = w.store.pair) := by
  obtain ⟨j, hj, -⟩ := h.job
  cases a with
  | perform i c => exact pair_perform hj i c
  | review state => exact .inl rfl
  | cancel env claims => exact .inr ⟨rfl, rfl⟩
  | crash => exact .inr ⟨rfl, rfl⟩
  | recoverCompleted now =>
    have hjob : (step w (.recoverCompleted now)).store.job =
        some ((Jobs.recoverCompleted now (w.store.auditLog j)).row j) := by
      rw [step, hj]
      rfl
    by_cases hflight : j.InFlight
    · left
      obtain h | ⟨a, h⟩ := row_recoverCompleted now (w.store.auditLog j) hflight
      · rw [h] at hjob
        exact pair_of_failure?_eq_none hjob (failure?_of_not_terminal hflight.not_terminal)
      · rw [h] at hjob
        exact pair_of_failure?_eq_none hjob (failure?_of_completed rfl)
    · right
      rw [row_recover_of_not_inFlight hflight (.inl rfl)] at hjob
      refine ⟨rfl, ?_⟩
      rw [Rows.pair, hjob, Rows.pair, hj]
      rfl
  -- with an audit row the job is not failed by the recovery; without one there is no pair
  | recoverFailed now =>
    have hjob : (step w (.recoverFailed now)).store.job =
        some ((Jobs.recoverFailed now (w.store.auditLog j)).row j) := by
      rw [step, hj]
      rfl
    cases haudit : w.store.audit with
    | none => exact .inl (pair_of_audit_eq_none haudit)
    | some row =>
      right
      rw [row_recoverFailed_of_audit now haudit] at hjob
      refine ⟨rfl, ?_⟩
      rw [Rows.pair, hjob, Rows.pair, hj]
      rfl

/-- In every run of the task of a job, of cancellations, decisions and the recovery, the status
endpoint agrees with the audit row in every state if and only if no step leaves a failed job beside
an audit row that tells another story. At the start there is no audit row, and from then on the pair
of the two changes only where `pairs` says so. -/
theorem statusAgrees_iff_reconciled (now : Timestamp) (jobId userIdHash : String)
    (projectCode query : Option String) (result : WorkflowResult) (run : List Action) :
    Run.Throughout step (fun w => StatusAgrees w.store)
        (start now jobId userIdHash projectCode query result) run ↔
      Run.Along step Reconciled (start now jobId userIdHash projectCode query result) run := by
  have hstep : ∀ w a, Invariant w → Invariant (step w a) := fun w a h => h.step a
  refine Run.throughout_iff_along (Q := Reconciled) hstep (fun w a h hagree => ?_)
    (invariant_start now jobId userIdHash projectCode query result) ?_ run
  · rw [statusAgrees_iff] at hagree ⊢
    obtain hpair | ⟨hnone, hpair⟩ := pair_step h a
    · rw [hpair]
      exact Iff.rfl
    · rw [hpair]
      refine iff_of_true hagree fun f row hp => ?_
      exact absurd (hnone.symm.trans hp) (Option.some_ne_none _).symm
  · rw [statusAgrees_iff]
    intro f row hpair
    have hnone : (start now jobId userIdHash projectCode query result).store.pair = none :=
      pair_of_audit_eq_none rfl
    exact absurd (hnone.symm.trans hpair) (Option.some_ne_none _).symm

/-- The task saves the report, and the deadline passes before the job is completed. -/
def timeoutAfterSave : List Action :=
  List.replicate 65 (.perform 0 quietly) ++
    [.perform 0 ⟨0, .before .deadline⟩, .perform 0 quietly]

/-- The deadline passes behind the insert of the audit row: the job has timed out, and the report is
in review. -/
theorem not_statusAgrees_timeoutAfterSave :
    ¬ Run.Throughout step (fun w => StatusAgrees w.store)
      (start 0 "job" "requester" none none plainResult) timeoutAfterSave := by
  intro h
  have hagree := h timeoutAfterSave [] (List.append_nil _).symm
  have hpair : (Run.exec step (start 0 "job" "requester" none none plainResult)
      timeoutAfterSave).store.pair = some (.timeout, plainResult.auditRow) := by
    decide +kernel
  exact statusAgrees_iff.mp hagree .timeout plainResult.auditRow hpair

end DecisionCenter.Jobs
