import DecisionCenter.Review.Effects
import Mathlib.Logic.Function.Basic

/-!
# The quality gate and publication

Runs made of workflow executions, which end in node 15 (`node_15_save_audit.run`) and node 17,
and of review requests, over the stores of all reports. The verdict of the gate reaches the
audit row in node 15. A report whose row says `failed` is published by no request but a normal
approval, whose handler does not look at the verdict.

A `Store` has a record for each request id. An event of a run is a workflow that ends, under an
id that is new, or a request about some report, with any operations raising. A workflow saves a
row that is staged, puts the artifacts under `staging/` and then comes to node 17, which finds a
row that is not approved and does nothing (`finishWorkflow_cases`).

`GateBlocks` is about every state of the run: no report whose gate failed is final or has an
object under `final/`. The invariant adds to it that such a report is not approved either, since
an approved report may be published by the node of another request.

A request keeps the invariant unless it approves a failed report (`GateInvariant.serve`), by the
case analysis of `Review.Effects`: the overrides ask for the approval queue, in which no failed
report is. `gateBlocks_of_run` follows by induction on the run. A failed report that is approved
becomes final, and the override of the same report is refused.
-/

namespace DecisionCenter.Review

open Async

variable {F : Type} {env : Env}

/-! ### `node_15_save_audit` -/

/-- `_requires_approval`: only pure document-control answers need none. -/
def requiresApproval (outputs : Outputs) : Bool :=
  decide (outputs.intent = []) || !outputs.intent.all fun i => decide (i = "document_control")

/-- The file names node 15 writes under `staging/`: the exports, or a placeholder, and the JSON
artifacts. -/
def stagingArtifacts (state : DecisionState F) (formats : List String) : List String :=
  (if formats = [] then ["executive-decision-report.md"]
    else formats.map fun fmt => "executive-decision-report." ++ fmt)
    ++ ["evidence-pack.json", "quality-gate-result.json"]
    ++ (if state.reportJson.elim false (!·.isEmpty) then ["report-draft.json"] else [])
    ++ ["audit-log.json"]

/-- Write artifacts under `staging/`; the keys of those that were written. -/
def putArtifacts (requestId : String) : List String → StoreTask (List String)
  | [] => .ret []
  | filename :: names => .op (.putStaging filename) fun res =>
    (putArtifacts requestId names).bind fun keys => .ret (match res with
      | some _ => ("staging/" ++ requestId ++ "/" ++ filename) :: keys
      | none => keys)

/-- The audit row of a finished workflow. -/
def savedRow (env : Env) (state : DecisionState F) (keys : List String) : AuditRow where
  userIdHash := env.hashUserId state.userId
  projectCode := state.projectCode
  qualityGateStatus := state.outputs.qualityGate.getD .needsReview
  reviewState := .staging
  requiresApproval := requiresApproval state.outputs
  artifactKeys := keys

/-- `node_15_save_audit.run`: a store that fails is recorded and the node goes on. The result
is `audit_status`. -/
def node15SaveAudit (env : Env) (state : DecisionState F) (formats : List String) :
    StoreTask String :=
  (putArtifacts state.requestId (stagingArtifacts state formats)).bind fun keys =>
    .op (.insertAudit (savedRow env state keys)) fun res => .ret (
      if res.isSome ∧ keys.length = (stagingArtifacts state formats).length then "persisted"
      else "degraded")

/-- The end of a workflow execution: save, then the publish node. -/
def finishWorkflow (env : Env) (state : DecisionState F) (formats : List String) :
    StoreTask PublishOutcome :=
  (node15SaveAudit env state formats).bind fun _ => node17Publish state.requestId

/-! ### Runs -/

/-- The stores, by request id. -/
abbrev Store := String → Record

/-- One event of a run; the operations of `down` raise in it. -/
inductive Event (F : Type) where
  | workflow (state : DecisionState F) (formats : List String) (down : Op → Bool)
  | request (requestId : String) (served : Served)

/-- The stores after an event. -/
def step (env : Env) (store : Store) : Event F → Store
  | .workflow state formats down =>
    Function.update store state.requestId
      ((finishWorkflow env state formats).run (Record.act down) (store state.requestId)).2
  | .request requestId s =>
    Function.update store requestId (serve env requestId (store requestId) s)

/-- The workflow of a request works under a new id (`uuid.uuid4()`): nothing was saved
under it before. -/
def Event.Fresh (store : Store) : Event F → Prop
  | .workflow state _ _ => (store state.requestId).audit = none
  | .request _ _ => True

/-- The stores before the first event. -/
def emptyStore : Store := fun _ => .empty

/-- The events are a run from the empty stores. -/
def IsRun (env : Env) (events : List (Event F)) : Prop :=
  Run.Along (step env) (fun store ev => ev.Fresh store) emptyStore events

/-- A report whose gate failed is not final and has no final objects. -/
def GateBlocks (store : Store) : Prop :=
  ∀ requestId row, (store requestId).audit = some row → row.qualityGateStatus = .failed →
    row.reviewState ≠ .final ∧ (store requestId).final = []

/-- An admitted reviewer's normal approval of a report whose gate failed, in a state that
`approve_report` does not refuse. -/
def Event.ApprovesFailed (store : Store) : Event F → Prop
  | .request requestId ⟨.approve claims _, _⟩ => ∃ c row, reviewer claims = .ok c ∧
      (store requestId).audit = some row ∧ row.qualityGateStatus = .failed ∧
      row.reviewState ≠ .final ∧ row.reviewState ≠ .rejected
  | _ => False

/-! ### The invariant -/

/-- What holds of every record: without a row nothing is final, and with a failed gate the
report is not even approved. -/
def GateInvariant (r : Record) : Prop :=
  (r.audit = none → r.final = []) ∧
    ∀ row, r.audit = some row → row.qualityGateStatus = .failed →
      row.reviewState ≠ .approved ∧ row.reviewState ≠ .final ∧ r.final = []

private theorem GateInvariant.of_untouched {r r' : Record} (h : GateInvariant r)
    (hu : Untouched r r') : GateInvariant r' := by
  obtain ⟨haudit, hfinal⟩ := hu
  unfold GateInvariant
  rw [haudit, hfinal]
  exact h

private theorem untouched_putArtifacts (requestId : String) (names : List String) {down : Op → Bool}
    {r : Record} : Untouched r ((putArtifacts requestId names).run (Record.act down) r).2 := by
  induction names generalizing r with
  | nil => exact .refl r
  | cons name names ih =>
    have h₀ : Untouched r (r.act down (.putStaging name)).2 := untouched_act rfl rfl
    rw [putArtifacts, Task.run_op, Task.run_bind', Task.run_ret]
    exact h₀.trans ih

/-- Saving a workflow under a new id leaves no row or a staged one, and no final objects. The row is
missing where its insert raises. -/
theorem finishWorkflow_cases {state : DecisionState F} {formats : List String}
    {down : Op → Bool} {r : Record} (hfresh : r.audit = none) :
    ((finishWorkflow env state formats).run (Record.act down) r).2.final = r.final ∧
      ∀ row, ((finishWorkflow env state formats).run (Record.act down) r).2.audit = some row →
        row.reviewState = .staging := by
  unfold finishWorkflow node15SaveAudit
  rw [Task.run_bind', Task.run_bind', Task.run_op, Task.run_ret]
  generalize hputs : (putArtifacts state.requestId (stagingArtifacts state formats)).run
    (Record.act down) r = puts
  have hput : Untouched r puts.2 := by
    rw [← hputs]
    exact untouched_putArtifacts _ _
  generalize hsave : puts.2.act down (.insertAudit (savedRow env state puts.1)) = saved
  have hsaved : saved.2.final = r.final ∧ ∀ row, saved.2.audit = some row →
      row.reviewState = .staging := by
    rw [← hsave]
    rcases puts.2.act_cases down (.insertAudit (savedRow env state puts.1)) with
      ⟨-, hact⟩ | ⟨-, hact⟩
    · rw [hact]
      refine ⟨hput.2, fun row hrow => ?_⟩
      rw [hput.1, hfresh] at hrow
      cases hrow
    · rw [hact]
      refine ⟨hput.2, fun row hrow => ?_⟩
      cases hrow
      rfl
  -- the publish node leaves a staged row alone
  rcases publish_cases state.requestId with hu | ⟨row, hrow, hstate, -⟩
  · refine ⟨hu.2.trans hsaved.1, fun row hrow => hsaved.2 row ?_⟩
    rw [← hu.1]
    exact hrow
  · exact absurd (hsaved.2 row hrow) (by rcases hstate with h | h <;> rw [h] <;> decide)

/-- A request that does not approve a failed report keeps the invariant. The verdict is the one of
the row that was read, as no request writes it. -/
theorem GateInvariant.serve {store : Store} {requestId : String} {s : Served}
    (h : GateInvariant (store requestId))
    (hs : ¬ (Event.request requestId s : Event F).ApprovesFailed store) :
    GateInvariant (serve env requestId (store requestId) s) := by
  rcases serve_cases (store requestId) s with ⟨e, he, ⟨row, hacc, hw⟩ | ⟨-, hu⟩⟩ | ⟨-, hsame⟩
  · obtain ⟨written, haudit, hwritten⟩ := hw.audit
    refine ⟨fun hnone => ?_, fun row' hrow' hfailed => ?_⟩
    · rw [haudit] at hnone
      cases hnone
    · obtain rfl : _ = row' := Option.some.inj (haudit.symm.trans hrow')
      have hrow := hacc.row_eq
      -- the verdict is the one of the row that was read, so no publishing handler accepted it
      have hquiet : e.publishes = false ∧ e.target ≠ .approved ∧ e.target ≠ .final := by
        have hcheck := hacc.check_ok
        obtain ⟨req, down⟩ := s
        rcases Request.endpoint_cases he with ⟨claims, _, c, rfl, hc, rfl⟩ |
          ⟨_, _, c, rfl, -, rfl⟩ | ⟨_, _, _, c, rfl, -, rfl⟩ | ⟨_, c, rfl, -, rfl⟩ |
          ⟨_, _, c, rfl, -, rfl⟩ | ⟨_, _, c, rfl, -, rfl⟩
        · have hne := approveReport_check.mp hcheck
          exact absurd ⟨c, row, hc, hrow, hfailed, hne.1, hne.2⟩ hs
        · simp [rejectReport]
        · simp [Review.requestRevision]
        · simp [cancelReport]
        · exact absurd hfailed (checkOverride_ok hcheck).2
        · exact absurd hfailed (checkOverride_ok hcheck).2
      rcases hwritten with rfl | ⟨hp, -⟩
      · exact ⟨hquiet.2.1, hquiet.2.2, (hw.final hquiet.1).trans (h.2 row hrow hfailed).2.2⟩
      · rw [hquiet.1] at hp
        cases hp
  · exact h.of_untouched hu
  · rw [hsame]
    exact h

/-- So does a workflow under a new id: the row it leaves is staged. -/
theorem GateInvariant.finishWorkflow {state : DecisionState F} {formats : List String}
    {down : Op → Bool} {r : Record} (h : GateInvariant r) (hfresh : r.audit = none) :
    GateInvariant ((finishWorkflow env state formats).run (Record.act down) r).2 := by
  obtain ⟨hfinal, hstaged⟩ : _ ∧ _ := finishWorkflow_cases hfresh
  have hnone : r.final = [] := h.1 hfresh
  refine ⟨fun _ => hfinal.trans hnone, fun row hrow _ => ?_⟩
  have hstate := hstaged row hrow
  exact ⟨by rw [hstate]; decide, by rw [hstate]; decide, hfinal.trans hnone⟩

/-- The invariant, of all reports. -/
def GateInvariants (store : Store) : Prop := ∀ id, GateInvariant (store id)

/-- An event that approves no failed report keeps the invariant for all reports. -/
private theorem gateInvariants_step {store : Store} {ev : Event F} (h : GateInvariants store)
    (hfresh : ev.Fresh store) (hev : ¬ ev.ApprovesFailed store) :
    GateInvariants (step env store ev) := by
  intro id
  cases ev with
  | workflow state formats down =>
    by_cases hid : id = state.requestId
    · subst hid
      rw [step, Function.update_self]
      exact (h state.requestId).finishWorkflow hfresh
    · rw [step, Function.update_of_ne hid]
      exact h id
  | request requestId s =>
    by_cases hid : id = requestId
    · subst hid
      rw [step, Function.update_self]
      exact (h id).serve hev
    · rw [step, Function.update_of_ne hid]
      exact h id

/-- In every run in which no report whose gate failed is approved, every state reached satisfies the
property: no such report is final or has a final object. The condition is on the requests of the
run, not on what they find; an override needs none, as it refuses a failed report by itself. -/
theorem gateBlocks_of_run (env : Env) (events : List (Event F)) (hrun : IsRun env events)
    (hev : Run.Along (step env) (fun store ev => ¬ ev.ApprovesFailed store) emptyStore events) :
    ∀ before, before <+: events → GateBlocks (Run.exec (step env) emptyStore before) := by
  rintro before ⟨after, rfl⟩ id row hrow hfailed
  have hstart : GateInvariants emptyStore :=
    fun id => ⟨fun _ => rfl, fun row hrow _ => by cases hrow⟩
  have hbefore := Run.along_and.mpr
    ⟨(Run.along_append.mp hrun).1, (Run.along_append.mp hev).1⟩
  have hinv : GateInvariants (Run.exec (step env) emptyStore before) :=
    Run.exec_induction (fun store ev h hP => gateInvariants_step h hP.1 hP.2) hstart hbefore
  exact ((hinv id).2 row hrow hfailed).2

/-! ### A failed report that is published -/

/-- A workflow whose gate fails. -/
def failedWorkflow : DecisionState ℤ where
  requestId := "r1"
  userId := "requester"
  query := "What did the project cost?"
  role := some "finance"
  projectCode := some "P1"
  allowedMailboxes := []
  allowedOdooIds := []
  evidence := []
  outputs := { Outputs.empty with intent := ["financial"], qualityGate := some .failed }
  reportJson := none
  loopCount := 0

/-- The workflow fails the gate, then a finance reviewer approves its report. -/
def failedThenApproved : List (Event ℤ) :=
  [.workflow failedWorkflow [] fun _ => false,
    .request "r1" ⟨.approve (some ⟨"reviewer", some "finance"⟩) none, fun _ => false⟩]

/-- The approval publishes the report. -/
theorem not_gateBlocks_failedThenApproved :
    IsRun bypassEnv failedThenApproved ∧
      ¬ GateBlocks (Run.exec (step bypassEnv) emptyStore failedThenApproved) := by
  refine ⟨⟨rfl, trivial, trivial⟩, fun h => ?_⟩
  have hfinal := (h "r1" _ rfl (by decide)).1
  revert hfinal
  decide

/-- A failed report, and an override of its approval. -/
def failedThenOverridden : List (Event ℤ) :=
  [.workflow failedWorkflow [] fun _ => false,
    .request "r1" ⟨.overrideApprove (some ⟨"admin", some "admin"⟩) ⟨"ok", by decide⟩,
      fun _ => false⟩]

/-- The override is refused. -/
theorem gateBlocks_overrideRefused :
    GateBlocks (Run.exec (step bypassEnv) emptyStore failedThenOverridden) :=
  gateBlocks_of_run bypassEnv failedThenOverridden ⟨rfl, trivial, trivial⟩ ⟨id, id, trivial⟩
    failedThenOverridden List.prefix_rfl

end DecisionCenter.Review
