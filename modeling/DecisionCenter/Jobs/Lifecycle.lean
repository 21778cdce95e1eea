import DecisionCenter.Jobs.Worker
import Mathlib.Algebra.Order.Group.Int

/-!
# The life cycle of a report job

Runs of the task, of cancellations and of the recovery on one job row, in any order and with any
operation interrupted. The node of the job never goes back and a completed job stands at its
last node. A terminal status stays what it is as long as `complete_report_job` and
`fail_report_job`, which lack the guard of their siblings, do not reach a job that has ended
otherwise.

A statement either has the guard and records a node, or has none and ends the job
(`node_or_final`), so that everything is said of the two kinds. A task is described by the nodes
that it is still to write: `Rising` says of the rest of a task that they go up from a given one.
This is proved once, by induction on the stages, and is what remains true of a task whatever
happens to the row meanwhile.

The `Invariant` joins the two: the row is sound, the task of the job rises from the node that
the row shows, and no other task records nodes. A step can leave the row, make one write, or be
one of the two statements of the recovery (`row_step`), and each of these keeps the invariant,
with any of the interruptions before or after its effect.

So in a reachable state the life cycle is kept by a step exactly when the step is `Guarded`
(`stepKeeps_iff`), and `lifecycle_iff` has this along every run. The failing runs cancel a job
which the task then completes, or which runs out of time after it.
-/

namespace DecisionCenter.Jobs

open Async Review

/-! ### Writes to the row -/

/-- The status a write without a guard leaves. -/
def JobWrite.finalStatus : JobWrite → Option String
  | .running _ _ => none
  | .stageComplete _ _ => none
  | .complete _ _ _ => some "completed"
  | .fail status _ _ _ => some status.toStr

/-- The node a write with a guard records. -/
def JobWrite.node? : JobWrite → Option ℕ
  | .running _ node => some node
  | .stageComplete _ node => some node
  | .complete _ _ _ => none
  | .fail _ _ _ _ => none

/-- What never changes in a life of the row, and what holds of it at any time. -/
structure ReportJob.Sound (j : ReportJob) : Prop where
  total : j.totalNodes = nodeCount
  le_total : j.currentNode ≤ j.totalNodes
  completed : j.status = "completed" → j.currentNode = j.totalNodes

/-- From `j` to `j'` the life cycle is kept: a terminal status stays, the node does not fall,
and a completed job stands at the last node. -/
structure KeepsLifecycle (j j' : ReportJob) : Prop where
  terminal : j.Terminal → j'.status = j.status
  node : j.currentNode ≤ j'.currentNode
  completed : j'.status = "completed" → j'.currentNode = j'.totalNodes

namespace ReportJob

variable {j : ReportJob}

/-- A row with a terminal status is terminal. -/
theorem Terminal.of_status {s : String} (hs : s ∈ terminalStatuses) (h : j.status = s) :
    j.Terminal := by
  rw [Terminal, h]
  exact hs

private theorem Sound.keeps_refl (h : j.Sound) : KeepsLifecycle j j :=
  ⟨fun _ => rfl, le_refl _, h.completed⟩

end ReportJob

section Apply

variable (now : Timestamp) {w : JobWrite} {j : ReportJob}

/-- A guarded write leaves a terminal row alone. -/
theorem apply_of_terminal {n : ℕ} (hn : w.node? = some n) (h : j.Terminal) :
    w.apply now j = j := by
  have hp : ¬ (j.jobId = j.jobId ∧ ¬ j.Terminal) := fun hj => hj.2 h
  cases w with
  | running stage node =>
    rw [JobWrite.apply, JobWrite.statement, markReportJobRunning, Table.row_set,
      decide_eq_false hp, if_neg Bool.false_ne_true]
  | stageComplete stage node =>
    rw [JobWrite.apply, JobWrite.statement, markReportJobStageComplete, Table.row_set,
      decide_eq_false hp, if_neg Bool.false_ne_true]
  | complete result gate formats => cases hn
  | fail status stage errorClass errorMessage => cases hn

/-- On a row in progress it records its node, and the job is still in progress. -/
theorem apply_node {n : ℕ} (hn : w.node? = some n) (h : ¬ j.Terminal) :
    (w.apply now j).currentNode = n ∧ (w.apply now j).totalNodes = j.totalNodes ∧
      ¬ (w.apply now j).Terminal := by
  have hp : j.jobId = j.jobId ∧ ¬ j.Terminal := ⟨rfl, h⟩
  cases w with
  | running stage node =>
    have hrunning : "running" ∉ terminalStatuses := by decide
    rw [JobWrite.apply, JobWrite.statement, markReportJobRunning, Table.row_set,
      decide_eq_true hp, if_pos rfl]
    cases hn
    exact ⟨rfl, rfl, hrunning⟩
  | stageComplete stage node =>
    rw [JobWrite.apply, JobWrite.statement, markReportJobStageComplete, Table.row_set,
      decide_eq_true hp, if_pos rfl]
    cases hn
    exact ⟨rfl, rfl, h⟩
  | complete result gate formats => cases hn
  | fail status stage errorClass errorMessage => cases hn

/-- A write without a guard leaves its status, which is terminal, on any row. A completed job
is put to its last node, a failed one stays where it is. -/
theorem apply_final (j : ReportJob) {s : String} (hs : w.finalStatus = some s) :
    (w.apply now j).status = s ∧ s ∈ terminalStatuses ∧
      (w.apply now j).totalNodes = j.totalNodes ∧
      ((s = "completed" ∧ (w.apply now j).currentNode = j.totalNodes) ∨
        (s ≠ "completed" ∧ (w.apply now j).currentNode = j.currentNode)) := by
  have hp : j.jobId = j.jobId := rfl
  cases w with
  | running stage node => cases hs
  | stageComplete stage node => cases hs
  | complete result gate formats =>
    have hcompleted : "completed" ∈ terminalStatuses := by decide
    rw [JobWrite.apply, JobWrite.statement, completeReportJob, Table.row_set,
      decide_eq_true hp, if_pos rfl]
    cases hs
    exact ⟨rfl, hcompleted, rfl, .inl ⟨rfl, rfl⟩⟩
  | fail status stage errorClass errorMessage =>
    have hne : status.toStr ≠ "completed" := by cases status <;> decide
    rw [JobWrite.apply, JobWrite.statement, failReportJob, Table.row_set,
      decide_eq_true hp, if_pos rfl]
    cases hs
    exact ⟨rfl, status.toStr_mem, rfl, .inr ⟨hne, rfl⟩⟩

/-- Every write either has a guard or ends the job. -/
theorem node_or_final (w : JobWrite) :
    (∃ n, w.node? = some n ∧ w.finalStatus = none) ∨
      (w.node? = none ∧ ∃ s, w.finalStatus = some s) := by
  cases w with
  | running stage node => exact .inl ⟨node, rfl, rfl⟩
  | stageComplete stage node => exact .inl ⟨node, rfl, rfl⟩
  | complete result gate formats => exact .inr ⟨rfl, _, rfl⟩
  | fail status stage errorClass errorMessage => exact .inr ⟨rfl, _, rfl⟩

end Apply

/-! ### The nodes a task writes -/

/-- The node an operation records. -/
def Op.node? : Op → Option ℕ
  | .write w => w.node?
  | _ => none

/-- The nodes that the task goes on to record rise from `k` and stay within the total. -/
def Rising : ℕ → JobTask → Prop
  | _, .ret _ => True
  | k, .op o next => (∀ n, o.node? = some n → k ≤ n ∧ n ≤ nodeCount) ∧
      ∀ x, Rising (o.node?.getD k) (next x)

/-- A task that rises from a node rises from every node below it. -/
theorem Rising.mono {t : JobTask} : ∀ {k k' : ℕ}, Rising k t → k' ≤ k → Rising k' t := by
  induction t with
  | ret r => intro _ _ _ _; trivial
  | op o next ih =>
    rintro k k' ⟨hnode, hnext⟩ hk
    refine ⟨fun n hn => ⟨hk.trans (hnode n hn).1, (hnode n hn).2⟩, fun x => ?_⟩
    cases hn : o.node? with
    | some n =>
      have hx := hnext x
      rw [hn] at hx
      exact hx
    | none =>
      have hx := hnext x
      rw [hn] at hx
      exact ih x hx hk

section Rising

variable {k : ℕ}

/-- An operation that records no node. -/
theorem rising_op {o : Op} {next : o.Outcome → JobTask} (ho : o.node? = none)
    (h : ∀ x, Rising k (next x)) : Rising k (.op o next) := by
  refine ⟨fun n hn => ?_, fun x => ?_⟩
  · rw [ho] at hn
    cases hn
  · rw [ho]
    exact h x

/-- An operation that records the node `n`. -/
theorem rising_node {o : Op} {next : o.Outcome → JobTask} {n : ℕ} (ho : o.node? = some n)
    (hk : k ≤ n) (hn : n ≤ nodeCount) (h : ∀ x, Rising n (next x)) :
    Rising k (.op o next) := by
  refine ⟨fun m hm => ?_, fun x => ?_⟩
  · rw [ho] at hm
    cases hm
    exact ⟨hk, hn⟩
  · rw [ho]
    exact h x

private theorem rising_failJob (status : Failure) (stage errorClass errorMessage : String) :
    Rising k (failJob status stage errorClass errorMessage) :=
  rising_op rfl fun _ => trivial

private theorem rising_handleInterrupt (stage : String) (e : Interrupt) :
    Rising k (handleInterrupt stage e) := by
  cases e with
  | raised e => cases e <;> exact rising_failJob _ _ _ _
  | cancelled => exact rising_failJob _ _ _ _
  | deadline => exact rising_failJob _ _ _ _

private theorem rising_attempt {stage : String} {o : Op} {next : o.Result → JobTask}
    (ho : o.node? = none) (h : ∀ x, Rising k (next x)) : Rising k (attempt stage o next) := by
  refine rising_op ho fun x => ?_
  cases x with
  | ok x => exact h x
  | error e => exact rising_handleInterrupt stage e

private theorem rising_attempt_node {stage : String} {o : Op} {next : o.Result → JobTask} {n : ℕ}
    (ho : o.node? = some n) (hk : k ≤ n) (hn : n ≤ nodeCount) (h : ∀ x, Rising n (next x)) :
    Rising k (attempt stage o next) := by
  refine rising_node ho hk hn fun x => ?_
  cases x with
  | ok x => exact h x
  | error e => exact rising_handleInterrupt stage e

private theorem rising_callOp {o : Op} {next : o.Result → JobTask} (ho : o.node? = none)
    (h : ∀ x, Rising k (next x)) : Rising k (callOp o next) := by
  refine rising_op ho fun x => ?_
  cases x with
  | ok x => exact h x
  | error e => trivial

private theorem rising_finishJob (result : WorkflowResult) (stage : String) :
    Rising k (finishJob result stage) := by
  refine rising_attempt rfl fun audit => ?_
  cases audit with
  | none => exact rising_attempt rfl fun _ => trivial
  | some row => exact rising_attempt rfl fun _ => trivial

private theorem rising_saveAudit (result : WorkflowResult) (stage : String) {next : JobTask}
    (h : Rising k next) : Rising k (saveAudit result stage next) := by
  refine rising_op rfl fun x => ?_
  match x with
  | .ok _ => exact h
  | .error (.raised _) => exact h
  | .error .cancelled => exact rising_handleInterrupt stage _
  | .error .deadline => exact rising_handleInterrupt stage _

/-- The stages from `index` on record the nodes after `index`. Each stage ends with the write of its
node, so that the nodes written rise by one. -/
theorem rising_runStages (result : WorkflowResult) (stages : List String) :
    ∀ (last : String) (index : ℕ), index + stages.length ≤ nodeCount →
      Rising index (runStages result last index stages) := by
  induction stages with
  | nil => intro last index _; exact rising_finishJob result last
  | cons stage stages ih =>
    intro last index hlen
    rw [List.length_cons] at hlen
    have hnode : index + 1 ≤ nodeCount := by omega
    have hrest : Rising (index + 1) (attempt stage (.write (.stageComplete stage (index + 1)))
        fun _ => runStages result stage (index + 1) stages) :=
      rising_attempt_node rfl le_rfl hnode fun _ => ih stage (index + 1) (by omega)
    refine rising_attempt rfl fun job => ?_
    split
    · exact rising_handleInterrupt stage _
    · refine rising_attempt_node rfl (Nat.le_succ index) hnode fun _ => ?_
      refine rising_attempt rfl fun _ => ?_
      split
      · exact rising_saveAudit result stage hrest
      · exact hrest

private theorem rising_runReportJob (result : WorkflowResult) : Rising 0 (runReportJob result) := by
  refine rising_op rfl fun x => ?_
  cases x with
  | ok _ => exact rising_runStages result stageNames "queued" 0 (Nat.zero_add _).le
  | error _ => trivial

private theorem rising_cancelUnsaved (env : Env) (claims : Claims) (job : Option ReportJob) :
    Rising k (cancelUnsaved env claims job) := by
  cases job with
  | none => trivial
  | some job =>
    have hlive : ∀ current : String, Rising k (if current ∈ terminalStatuses then .ret ()
        else callOp (.write (.fail .cancelled job.currentStage "Cancelled"
          "Report generation was cancelled.")) fun _ => .ret ()) := by
      intro current
      split
      · trivial
      · exact rising_callOp rfl fun _ => trivial
    rw [cancelUnsaved]
    split
    · trivial
    · exact hlive _

/-- A cancellation records no node. -/
theorem rising_cancelReport (env : Env) (claims : Claims) :
    Rising k (cancelReport env claims) := by
  refine rising_callOp rfl fun _ => rising_callOp rfl fun job => rising_callOp rfl fun audit => ?_
  cases audit with
  | none => exact rising_cancelUnsaved env claims job
  | some row =>
    dsimp only
    split
    · trivial
    · exact rising_callOp rfl fun _ => rising_callOp rfl fun _ => trivial

end Rising

/-! ### The invariant -/

/-- The job row is sound, the first task records rising nodes while the job is in progress, and
no other task records any. -/
structure Invariant (w : World) : Prop where
  job : ∃ j, w.store.job = some j ∧ j.Sound
  tasks : ∃ t ts, w.tasks = t :: ts ∧ (∀ u ∈ ts, ∀ k, Rising k u) ∧
    ∀ j, w.store.job = some j → ¬ j.Terminal → ∃ k : ℕ, j.currentNode ≤ k ∧ Rising k t

/-- The invariant holds of the queued job and its task. -/
theorem invariant_start (now : Timestamp) (jobId userIdHash : String)
    (projectCode query : Option String) (result : WorkflowResult) :
    Invariant (start now jobId userIdHash projectCode query result) where
  job := by
    refine ⟨_, rfl, rfl, Int.natCast_nonneg nodeCount, fun h => ?_⟩
    have hne : "queued" ≠ "completed" := by decide
    exact absurd h hne
  tasks := by
    refine ⟨_, [], rfl, fun u hu => absurd hu List.not_mem_nil, ?_⟩
    rintro j ⟨⟩ _
    exact ⟨0, le_rfl, rising_runReportJob result⟩

/-- The write that an action makes to the job row. -/
def Action.jobWrite (w : World) (a : Action) : Option (Timestamp × JobWrite) :=
  match a.effectiveOp w with
  | some (now, .write wr) => some (now, wr)
  | _ => none

private theorem effectiveOp_of_jobWrite {w : World} {a : Action} {now : Timestamp} {wr : JobWrite}
    (h : a.jobWrite w = some (now, wr)) : a.effectiveOp w = some (now, .write wr) := by
  rw [Action.jobWrite] at h
  split at h
  · next now' wr' heq =>
    cases h
    exact heq
  · cases h

/-- The `complete` and `fail` writes of the action reach no job that has ended with another
status: the condition their siblings have in the `WHERE` clause, up to a write that repeats the
status. -/
def Guarded (w : World) (a : Action) : Prop :=
  ∀ now wr s j, a.jobWrite w = some (now, wr) → wr.finalStatus = some s →
    w.store.job = some j → j.Terminal → j.status = s

/-- The life cycle is kept by the step. -/
def StepKeeps (w : World) (a : Action) : Prop :=
  ∃ j j', w.store.job = some j ∧ (step w a).store.job = some j' ∧ KeepsLifecycle j j'

/-! ### What a step does to the row -/

section Step

variable {w : World} {j : ReportJob}

/-- The statements of the recovery leave every other row alone. -/
theorem row_recover_of_not_inFlight (h : ¬ j.InFlight) {now : Timestamp}
    {auditLog : List AuditEntry} {u : Table.Update ReportJob}
    (hu : u = recoverCompleted now auditLog ∨ u = recoverFailed now auditLog) : u.row j = j := by
  obtain rfl | rfl := hu
  · exact Table.Update.row_of_none (recoverCompleted_of_not_inFlight now h)
  · exact Table.Update.row_of_none (recoverFailed_of_not_inFlight now h)

/-- The first statement of the recovery completes a job from an audit row or passes it over. -/
theorem row_recoverCompleted (now : Timestamp) (auditLog : List AuditEntry) (h : j.InFlight) :
    (recoverCompleted now auditLog).row j = j ∨
      ∃ a, (recoverCompleted now auditLog).row j = recoverCompletedRow now a j := by
  rw [Table.Update.row, recoverCompleted, Table.setFrom, decide_eq_true h, if_pos rfl]
  cases auditLog.find? fun a => j.requestId = a.requestId with
  | none => exact .inl rfl
  | some a => exact .inr ⟨a, rfl⟩

private theorem row_recoverFailed (now : Timestamp) (auditLog : List AuditEntry) :
    (recoverFailed now auditLog).row j = j ∨
      (recoverFailed now auditLog).row j = recoverFailedRow now j := by
  rw [recoverFailed, Table.row_set]
  split
  · exact .inr rfl
  · exact .inl rfl

/-- The second statement passes over a job whose report was saved. -/
theorem row_recoverFailed_of_audit (now : Timestamp) {s : Rows} {row : AuditRow}
    (h : s.audit = some row) : (recoverFailed now (s.auditLog j)).row j = j := by
  have hmem : (⟨j.requestId, some row.qualityGateStatus.toStr⟩ : AuditEntry) ∈ s.auditLog j := by
    rw [Rows.auditLog, h]
    exact List.mem_singleton_self _
  have hp : ¬ (j.InFlight ∧ ¬ ∃ a ∈ s.auditLog j, a.requestId = j.requestId) :=
    fun hj => hj.2 ⟨_, hmem, rfl⟩
  rw [recoverFailed, Table.row_set, decide_eq_false hp]
  rfl

/-- Everything a step can do to the row: leave it, make a write, or end a job in flight in one
of the two ways of the recovery. -/
theorem row_step (hj : w.store.job = some j) (a : Action) :
    ((step w a).store.job = some j ∧ a.jobWrite w = none) ∨
    (∃ now wr, a.jobWrite w = some (now, wr) ∧
      (step w a).store.job = some (wr.apply now j)) ∨
    (a.jobWrite w = none ∧ ¬ j.Terminal ∧
      ((∃ now e, (step w a).store.job = some (recoverCompletedRow now e j)) ∨
        ∃ now, (step w a).store.job = some (recoverFailedRow now j))) := by
  cases a with
  | perform i c =>
    have hstore := store_perform w i c
    rw [Action.jobWrite]
    -- only the operation that a task performs on the store can touch the row
    cases hop : (Action.perform i c).effectiveOp w with
    | none =>
      rw [hop] at hstore
      rw [hstore]
      exact .inl ⟨hj, rfl⟩
    | some p =>
      obtain ⟨now, o⟩ := p
      rw [hop] at hstore
      rw [hstore]
      cases o with
      | write wr =>
        have hrow : w.store.job.map (wr.apply now) = some (wr.apply now j) := by
          rw [hj, Option.map_some]
        exact .inr (.inl ⟨now, wr, rfl, hrow⟩)
      | initSchema => exact .inl ⟨hj, rfl⟩
      | getReportJob => exact .inl ⟨hj, rfl⟩
      | getAudit => exact .inl ⟨hj, rfl⟩
      | runNode index => exact .inl ⟨hj, rfl⟩
      | insertAudit row => exact .inl ⟨hj, rfl⟩
      | insertReviewDecision d => exact .inl ⟨hj, rfl⟩
      | updateReviewState state => exact .inl ⟨hj, rfl⟩
  | cancel env claims => exact .inl ⟨hj, rfl⟩
  | review state => exact .inl ⟨hj, rfl⟩
  | crash => exact .inl ⟨hj, rfl⟩
  -- the two statements of the recovery: they end a row in flight and skip any other
  | recoverCompleted now =>
    rw [step, hj, Option.map_some]
    by_cases hflight : j.InFlight
    · obtain h | ⟨e, h⟩ := row_recoverCompleted now (w.store.auditLog j) hflight
      · rw [h]
        exact .inl ⟨rfl, rfl⟩
      · rw [h]
        exact .inr (.inr ⟨rfl, hflight.not_terminal, .inl ⟨now, e, rfl⟩⟩)
    · rw [row_recover_of_not_inFlight hflight (.inl rfl)]
      exact .inl ⟨rfl, rfl⟩
  | recoverFailed now =>
    rw [step, hj, Option.map_some]
    by_cases hflight : j.InFlight
    · obtain h | h := row_recoverFailed (j := j) now (w.store.auditLog j)
      · rw [h]
        exact .inl ⟨rfl, rfl⟩
      · rw [h]
        exact .inr (.inr ⟨rfl, hflight.not_terminal, .inr ⟨now, rfl⟩⟩)
    · rw [row_recover_of_not_inFlight hflight (.inr rfl)]
      exact .inl ⟨rfl, rfl⟩

/-! ### What a step keeps -/

private theorem sound_recoverCompletedRow (h : j.Sound) (now : Timestamp) (a : AuditEntry) :
    (recoverCompletedRow now a j).Sound := ⟨h.total, le_rfl, fun _ => rfl⟩

private theorem sound_recoverFailedRow (h : j.Sound) (now : Timestamp) :
    (recoverFailedRow now j).Sound := by
  refine ⟨h.total, h.le_total, fun hc => ?_⟩
  have hne : "failed" ≠ "completed" := by decide
  exact absurd hc hne

/-- A write keeps the row sound when the node it records is one of the workflow. -/
theorem sound_apply {now : Timestamp} {wr : JobWrite} (h : j.Sound)
    (hnode : ∀ n, wr.node? = some n → ¬ j.Terminal → n ≤ nodeCount) :
    (wr.apply now j).Sound := by
  obtain ⟨n, hn, -⟩ | ⟨-, s, hs⟩ := node_or_final wr
  · by_cases hterm : j.Terminal
    · rw [apply_of_terminal _ hn hterm]
      exact h
    · obtain ⟨hcur, htot, hlive⟩ := apply_node now hn hterm
      refine ⟨htot.trans h.total, ?_, fun hc => ?_⟩
      · rw [hcur, htot, h.total]
        exact_mod_cast hnode n hn hterm
      · have hmem : "completed" ∈ terminalStatuses := by decide
        exact absurd (ReportJob.Terminal.of_status hmem hc) hlive
  · obtain ⟨hstatus, -, htot, ⟨rfl, hcur⟩ | ⟨hne, hcur⟩⟩ := apply_final now j hs
    · exact ⟨htot.trans h.total, (hcur.trans htot.symm).le, fun _ => hcur.trans htot.symm⟩
    · refine ⟨htot.trans h.total, ?_, fun hc => absurd (hstatus.symm.trans hc) hne⟩
      rw [hcur, htot]
      exact h.le_total

/-- A write keeps the life cycle exactly when it leaves no terminal row with another status. The
writes of a node are guarded, and those that end a job are not. -/
theorem keepsLifecycle_apply_iff {now : Timestamp} {wr : JobWrite} (h : j.Sound)
    (hnode : ∀ n, wr.node? = some n → ¬ j.Terminal → j.currentNode ≤ n ∧ n ≤ nodeCount) :
    KeepsLifecycle j (wr.apply now j) ↔
      ∀ s, wr.finalStatus = some s → j.Terminal → j.status = s := by
  have hsound : (wr.apply now j).Sound :=
    sound_apply h fun n hn hterm => (hnode n hn hterm).2
  obtain ⟨n, hn, hfin⟩ | ⟨-, s, hs⟩ := node_or_final wr
  · refine iff_of_true ?_ fun s hs => absurd (hfin.symm.trans hs) (Option.some_ne_none s).symm
    by_cases hterm : j.Terminal
    · rw [apply_of_terminal _ hn hterm]
      exact h.keeps_refl
    · refine ⟨fun ht => absurd ht hterm, ?_, hsound.completed⟩
      rw [(apply_node _ hn hterm).1]
      exact (hnode n hn hterm).1
  · obtain ⟨hstatus, -, -, hcur⟩ := apply_final now j hs
    constructor
    · intro hkeep s' hs' hterm
      obtain rfl : s = s' := Option.some.inj (hs.symm.trans hs')
      exact (hkeep.terminal hterm).symm.trans hstatus
    · intro hguard
      refine ⟨fun hterm => hstatus.trans (hguard s hs hterm).symm, ?_, hsound.completed⟩
      obtain ⟨-, hcur⟩ | ⟨-, hcur⟩ := hcur
      · rw [hcur]
        exact h.le_total
      · rw [hcur]

end Step

/-- An operation of a task that rises from every node records none. -/
theorem node?_of_rising {o : Op} {next : o.Outcome → JobTask}
    (h : ∀ k, Rising k (.op o next)) : o.node? = none := by
  cases hn : o.node? with
  | none => rfl
  | some n =>
    have hle := (h (nodeCount + 1)).1 n hn
    omega

/-- The node an action records, while the job is in progress: not before the current one, and
one of the workflow. -/
theorem Invariant.node {w : World} (h : Invariant w) {a : Action} {now : Timestamp}
    {wr : JobWrite} (ha : a.jobWrite w = some (now, wr)) {n : ℕ} (hn : wr.node? = some n)
    {j : ReportJob} (hj : w.store.job = some j) (hterm : ¬ j.Terminal) :
    j.currentNode ≤ n ∧ n ≤ nodeCount := by
  obtain ⟨t, ts, htasks, hothers, hworker⟩ := h.tasks
  obtain ⟨i, c, next, rfl, hget⟩ := effectiveOp_eq_some (effectiveOp_of_jobWrite ha)
  rw [htasks] at hget
  cases i with
  | zero =>
    obtain rfl : t = .op (.write wr) next := by simpa using hget
    obtain ⟨k, hk, hrise⟩ := hworker j hj hterm
    obtain ⟨hle, htot⟩ := hrise.1 n hn
    exact ⟨hk.trans (by exact_mod_cast hle), htot⟩
  | succ i =>
    have hmem : Async.Task.op (.write wr) next ∈ ts := List.mem_of_getElem? hget
    have hnone : (Op.write wr).node? = none := node?_of_rising (hothers _ hmem)
    exact absurd (hn.symm.trans hnone) (Option.some_ne_none n)

/-- After a step the row is sound, and if the job is still in progress it was before, and the
step recorded the node it shows or left the row alone. -/
theorem Invariant.job_step {w : World} (h : Invariant w) (a : Action) {j : ReportJob}
    (hj : w.store.job = some j) (hsound : j.Sound) :
    ∃ j', (step w a).store.job = some j' ∧ j'.Sound ∧ (¬ j'.Terminal → ¬ j.Terminal ∧
      (j' = j ∨ ∃ now wr n, a.jobWrite w = some (now, wr) ∧ wr.node? = some n ∧
        j'.currentNode = n)) := by
  obtain ⟨hrow, -⟩ | ⟨now, wr, ha, hrow⟩ | ⟨-, -, ⟨now, e, hrow⟩ | ⟨now, hrow⟩⟩ := row_step hj a
  · exact ⟨j, hrow, hsound, fun hlive => ⟨hlive, .inl rfl⟩⟩
  · have hnode : ∀ n, wr.node? = some n → ¬ j.Terminal → j.currentNode ≤ n ∧ n ≤ nodeCount :=
      fun n hn hterm => h.node ha hn hj hterm
    refine ⟨_, hrow, sound_apply hsound fun n hn hterm => (hnode n hn hterm).2, fun hlive => ?_⟩
    obtain ⟨n, hn, -⟩ | ⟨-, s, hs⟩ := node_or_final wr
    · have hterm : ¬ j.Terminal := by
        intro hterm
        rw [apply_of_terminal _ hn hterm] at hlive
        exact hlive hterm
      exact ⟨hterm, .inr ⟨now, wr, n, ha, hn, (apply_node _ hn hterm).1⟩⟩
    · obtain ⟨hstatus, hmem, -⟩ := apply_final now j hs
      exact absurd (ReportJob.Terminal.of_status hmem hstatus) hlive
  · have hmem : "completed" ∈ terminalStatuses := by decide
    exact ⟨_, hrow, sound_recoverCompletedRow hsound now e, fun hlive => absurd hmem hlive⟩
  · have hmem : "failed" ∈ terminalStatuses := by decide
    exact ⟨_, hrow, sound_recoverFailedRow hsound now, fun hlive => absurd hmem hlive⟩

private theorem op_of_jobWrite {w : World} {i : ℕ} {c : Circumstance} {o : Op}
    {next : o.Outcome → JobTask} {now : Timestamp} {wr : JobWrite}
    (hget : w.tasks[i]? = some (.op o next))
    (ha : (Action.perform i c).jobWrite w = some (now, wr)) : o = .write wr := by
  obtain ⟨i', c', next', hact, hget'⟩ := effectiveOp_eq_some (effectiveOp_of_jobWrite ha)
  cases hact
  cases hget.symm.trans hget'
  rfl

/-- The first task goes on from a node that the row has not passed. The node of a live row is
written by this task only. -/
theorem Invariant.worker_step {w : World} (h : Invariant w) {c : Circumstance} {o : Op}
    {next : o.Outcome → JobTask} (hget : w.tasks[0]? = some (.op o next)) (x : o.Outcome)
    {j' : ReportJob} (hj' : (step w (.perform 0 c)).store.job = some j') (hlive : ¬ j'.Terminal) :
    ∃ k : ℕ, j'.currentNode ≤ k ∧ Rising k (next x) := by
  obtain ⟨j, hj, hsound⟩ := h.job
  obtain ⟨t, ts, htasks, -, hworker⟩ := h.tasks
  obtain ⟨j'', hj'', -, hstep⟩ := h.job_step (.perform 0 c) hj hsound
  obtain rfl : j'' = j' := Option.some.inj (hj''.symm.trans hj')
  obtain ⟨hterm, hrow⟩ := hstep hlive
  obtain ⟨k, hk, hrise⟩ := hworker j hj hterm
  obtain rfl : t = .op o next := by
    rw [htasks] at hget
    simpa using hget
  refine ⟨o.node?.getD k, ?_, hrise.2 x⟩
  obtain rfl | ⟨now, wr, n, ha, hn, hcur⟩ := hrow
  · cases hn : o.node? with
    | none => exact hk
    | some n =>
      have hkn : k ≤ n := (hrise.1 n hn).1
      exact hk.trans (by exact_mod_cast hkn)
  · obtain rfl := op_of_jobWrite hget ha
    rw [Op.node?, hn, hcur]
    exact le_rfl

/-- Where the first task does not move, a row in progress does not either. -/
theorem Invariant.rest_step {w : World} (h : Invariant w) {a : Action} {t : JobTask}
    (hfirst : w.tasks[0]? = some t)
    (ha : ∀ now wr n, a.jobWrite w = some (now, wr) → wr.node? ≠ some n) {j' : ReportJob}
    (hj' : (step w a).store.job = some j') (hlive : ¬ j'.Terminal) :
    ∃ k : ℕ, j'.currentNode ≤ k ∧ Rising k t := by
  obtain ⟨j, hj, hsound⟩ := h.job
  obtain ⟨t', ts, htasks, -, hworker⟩ := h.tasks
  obtain rfl : t' = t := by
    rw [htasks] at hfirst
    simpa using hfirst
  obtain ⟨j'', hj'', -, hstep⟩ := h.job_step a hj hsound
  obtain rfl : j'' = j' := Option.some.inj (hj''.symm.trans hj')
  obtain ⟨hterm, rfl | ⟨now, wr, n, hwrite, hn, -⟩⟩ := hstep hlive
  · exact hworker _ hj hterm
  · exact absurd hn (ha now wr n hwrite)

/-- Every step leaves a sound job. -/
theorem Invariant.step_job {w : World} (h : Invariant w) (a : Action) :
    ∃ j, (step w a).store.job = some j ∧ j.Sound := by
  obtain ⟨j, hj, hsound⟩ := h.job
  obtain ⟨j', hj', hsound', -⟩ := h.job_step a hj hsound
  exact ⟨j', hj', hsound'⟩

/-- After an operation the task of the job is still to write rising nodes, and the other tasks
none. -/
theorem Invariant.perform_tasks {w : World} (h : Invariant w) (i : ℕ) (c : Circumstance) :
    ∃ t ts, (Jobs.step w (.perform i c)).tasks = t :: ts ∧ (∀ u ∈ ts, ∀ k, Rising k u) ∧
      ∀ j, (Jobs.step w (.perform i c)).store.job = some j → ¬ j.Terminal →
        ∃ k : ℕ, j.currentNode ≤ k ∧ Rising k t := by
  obtain ⟨t, ts, htasks, hothers, hworker⟩ := h.tasks
  have hfirst : w.tasks[0]? = some t := by
    rw [htasks]
    rfl
  obtain heq | ⟨o, next, hget, heq⟩ := Pool.step_cases (perform c) w i
  · rw [Jobs.step, heq]
    exact ⟨t, ts, htasks, hothers, hworker⟩
  · have hset : (Jobs.step w (.perform i c)).tasks =
        w.tasks.set i (next (perform c o w.store).1) := by rw [Jobs.step, heq]
    cases i with
    -- the task of the job itself
    | zero =>
      refine ⟨next (perform c o w.store).1, ts, ?_, hothers,
        fun j' hj' hlive => h.worker_step hget _ hj' hlive⟩
      rw [hset, htasks, List.set_cons_zero]
    -- another task, which writes no node
    | succ i =>
      have hmem : Async.Task.op o next ∈ ts := by
        rw [htasks] at hget
        exact List.mem_of_getElem? hget
      have hnode : o.node? = none := node?_of_rising (hothers _ hmem)
      refine ⟨t, ts.set i (next (perform c o w.store).1), ?_, ?_, ?_⟩
      · rw [hset, htasks, List.set_cons_succ]
      · intro u hu k
        obtain hu | rfl := List.mem_or_eq_of_mem_set hu
        · exact hothers u hu k
        · have hrise := (hothers _ hmem k).2 (perform c o w.store).1
          rw [hnode] at hrise
          exact hrise
      · intro j' hj' hlive
        refine h.rest_step hfirst (fun now wr n hwr hn => ?_) hj' hlive
        obtain rfl := op_of_jobWrite hget hwr
        exact absurd (hnode.symm.trans hn) (Option.some_ne_none n).symm

/-- Every step keeps the invariant. The row is sound in any case, and of the tasks only the one that
performs an operation changes. -/
theorem Invariant.step {w : World} (h : Invariant w) (a : Action) : Invariant (step w a) where
  job := h.step_job a
  tasks := by
    obtain ⟨t, ts, htasks, hothers, -⟩ := h.tasks
    have hfirst : w.tasks[0]? = some t := by
      rw [htasks]
      rfl
    -- a step that writes nothing to the row writes no node
    have hnone : ∀ {b : Action}, b.jobWrite w = none → ∀ now wr n,
        b.jobWrite w = some (now, wr) → wr.node? ≠ some n :=
      fun hb now wr n hwr => absurd (hb.symm.trans hwr) (Option.some_ne_none _).symm
    cases a with
    | perform i c => exact h.perform_tasks i c
    | cancel env claims =>
      refine ⟨t, ts ++ [cancelReport env claims], ?_, ?_,
        fun j' hj' hlive => h.rest_step hfirst (hnone rfl) hj' hlive⟩
      · rw [Jobs.step, htasks, List.cons_append]
      · intro u hu k
        obtain hu | hu := List.mem_append.mp hu
        · exact hothers u hu k
        · obtain rfl := List.mem_singleton.mp hu
          exact rising_cancelReport env claims
    | crash =>
      refine ⟨.ret (), ts.map fun _ => .ret (), ?_, ?_, ?_⟩
      · rw [Jobs.step, htasks, List.map_cons]
      · intro u hu k
        obtain ⟨-, -, rfl⟩ := List.mem_map.mp hu
        trivial
      · intro j' hj' hlive
        obtain ⟨k, hk, -⟩ := h.rest_step hfirst (hnone rfl) hj' hlive
        exact ⟨k, hk, trivial⟩
    | review state =>
      exact ⟨t, ts, htasks, hothers,
        fun j' hj' hlive => h.rest_step hfirst (hnone rfl) hj' hlive⟩
    | recoverCompleted now =>
      exact ⟨t, ts, htasks, hothers,
        fun j' hj' hlive => h.rest_step hfirst (hnone rfl) hj' hlive⟩
    | recoverFailed now =>
      exact ⟨t, ts, htasks, hothers,
        fun j' hj' hlive => h.rest_step hfirst (hnone rfl) hj' hlive⟩

/-! ### The life cycle -/

/-- In a reachable state, a step keeps the life cycle exactly when its unguarded writes reach no
job that ended otherwise. -/
theorem stepKeeps_iff {w : World} (h : Invariant w) (a : Action) :
    StepKeeps w a ↔ Guarded w a := by
  obtain ⟨j, hj, hsound⟩ := h.job
  have hkeeps : ∀ {j'}, (step w a).store.job = some j' →
      (StepKeeps w a ↔ KeepsLifecycle j j') := by
    intro j' hj'
    constructor
    · rintro ⟨i, i', hi, hi', hkeep⟩
      obtain rfl := Option.some.inj (hi.symm.trans hj)
      obtain rfl := Option.some.inj (hi'.symm.trans hj')
      exact hkeep
    · exact fun hkeep => ⟨j, j', hj, hj', hkeep⟩
  have hfree : a.jobWrite w = none → Guarded w a := by
    intro hnone now wr s i ha
    exact absurd (hnone.symm.trans ha) (Option.some_ne_none _).symm
  obtain ⟨hrow, hnone⟩ | ⟨now, wr, ha, hrow⟩ | ⟨hnone, hlive, hrow⟩ := row_step hj a
  · exact iff_of_true ((hkeeps hrow).mpr hsound.keeps_refl) (hfree hnone)
  · rw [hkeeps hrow, keepsLifecycle_apply_iff hsound fun n hn hterm => h.node ha hn hj hterm]
    constructor
    · intro hguard now' wr' s i ha' hs hi hterm
      obtain ⟨rfl, rfl⟩ := Prod.mk.inj (Option.some.inj (ha'.symm.trans ha))
      obtain rfl := Option.some.inj (hi.symm.trans hj)
      exact hguard s hs hterm
    · exact fun hguard s hs hterm => hguard now wr s j ha hs hj hterm
  · refine iff_of_true ?_ (hfree hnone)
    obtain ⟨now, e, hrow⟩ | ⟨now, hrow⟩ := hrow
    · refine (hkeeps hrow).mpr ⟨fun hterm => absurd hterm hlive, hsound.le_total, fun _ => rfl⟩
    · exact (hkeeps hrow).mpr ⟨fun hterm => absurd hterm hlive, le_rfl,
        (sound_recoverFailedRow hsound now).completed⟩

/-- Along every run of the task of a job, of cancellations and of the recovery, each step keeps the
life cycle if and only if no `complete_report_job` and no `fail_report_job` reaches a job that has
ended with another status. The invariant carries what a single step needs to be judged by, from the
queued job on. -/
theorem lifecycle_iff (now : Timestamp) (jobId userIdHash : String)
    (projectCode query : Option String) (result : WorkflowResult) (run : List Action) :
    Run.Along step StepKeeps (start now jobId userIdHash projectCode query result) run ↔
      Run.Along step Guarded (start now jobId userIdHash projectCode query result) run :=
  Run.along_congr (P := StepKeeps) (Q := Guarded) (fun _ a h => Invariant.step h a)
    (fun _ a h => stepKeeps_iff h a)
    (invariant_start now jobId userIdHash projectCode query result) run

/-- A report on which nothing has been exported, whose gate asks for a review. -/
def plainResult : WorkflowResult where
  qualityGate := none
  markdownReportStatus := none
  exportedReports := []
  auditRow := ⟨"requester", none, .needsReview, .staging, true, []⟩
  gate := rfl
  staged := rfl

/-- An operation that does not raise. -/
def quietly : Circumstance := ⟨0, .none⟩

/-- The requester asks to cancel while the job runs out of time: the handler reads the job, the
task records the time-out, and the handler records the cancellation. -/
def timeoutThenCancel : List Action :=
  [.cancel bypassEnv ⟨"requester", none⟩, .perform 0 quietly, .perform 1 quietly,
    .perform 1 quietly, .perform 1 quietly, .perform 0 ⟨0, .before .deadline⟩,
    .perform 0 quietly, .perform 1 quietly]

/-- A job that has run out of time is cancelled by a request that has checked it before. -/
theorem not_lifecycle_timeoutThenCancel :
    ¬ Run.Along step StepKeeps (start 0 "job" "requester" none none plainResult)
      timeoutThenCancel := by
  intro h
  obtain ⟨j, j', hj, hj', hkeep⟩ := Run.along_iff.mp h (timeoutThenCancel.take 7)
    (.perform 1 quietly) [] rfl
  have hbefore : (Run.exec step (start 0 "job" "requester" none none plainResult)
      (timeoutThenCancel.take 7)).store.job.map (·.status) = some "timeout" := by decide
  have hafter : (step (Run.exec step (start 0 "job" "requester" none none plainResult)
      (timeoutThenCancel.take 7)) (.perform 1 quietly)).store.job.map (·.status) =
        some "cancelled" := by decide
  rw [hj, Option.map_some, Option.some_inj] at hbefore
  rw [hj', Option.map_some, Option.some_inj] at hafter
  have hmem : "timeout" ∈ terminalStatuses := by decide
  have hstatus := hkeep.terminal (ReportJob.Terminal.of_status hmem hbefore)
  rw [hbefore, hafter] at hstatus
  have hne : "cancelled" ≠ "timeout" := by decide
  exact hne hstatus

end DecisionCenter.Jobs
