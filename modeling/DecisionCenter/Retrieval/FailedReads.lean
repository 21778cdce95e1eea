import DecisionCenter.Graph.Draft
import DecisionCenter.Graph.GateSpec
import DecisionCenter.Retrieval.Enabled

/-!
# Failed reads and the quality gate

A read that fails has to keep the report from passing. The gate sees the coverage ledger only,
where it blocks on the status `error` of an enabled source. SharePoint and e-mail failures
arrive there; of the failures of node 8, a timeout of the project record is recorded as
`timeout`, and a failed read of the cost lines is recorded as the success of the others.

`Reads` has the results of the nodes, and `FailedRead` says of them that a mandatory read of an
enabled source failed, or was not made without a documented reason; the second never happens.
What is recorded as an error is all of this but the two failures of node 8
(`Reads.status_eq_error_iff`), which are called swallowed.

The gate is blocked by a failure that is recorded, of whichever source, and the ledger of node 8
reaches it unchanged, as the nodes 9 to 12 leave it alone (`draftRun_coverage`). So a failed
read blocks unless it is swallowed and no other source failed beside it
(`Authorized.blocks_of_failed`).

In that case the verdict is that of the content. `failureBlocks_iff` is exact over all
connectors and replies: a swallowed failure must stand beside a failure of another source, or
beside a report whose content does not pass.
-/

namespace DecisionCenter

open Async Py

variable {F : Type} {mapping : ProjectMapping}

/-! ### Failed reads -/

/-- The search of node 5 failed. -/
def SharepointRead.hasFailed : SharepointRead F → Bool
  | failed _ => true
  | _ => false

/-- The mailbox read of node 7 failed. -/
def EmailRead.hasFailed : EmailRead F → Bool
  | failed _ _ => true
  | _ => false

/-- The read of the project record timed out, or the read of the cost lines failed. -/
def OdooRead.hasSwallowed : OdooRead F → Bool
  | failed .timeout => true
  | found _ (.failed _) _ => true
  | _ => false

/-- A mandatory read of node 8 failed, or could not be asked for. -/
def OdooRead.hasFailed : OdooRead F → Bool
  | failed _ => true
  | interrupted _ _ => true
  | found _ (.failed _) _ => true
  | _ => false

/-- A mandatory read of the source failed. -/
def Reads.hasFailed (reads : Reads F) : ProjectSource → Bool
  | .odoo => reads.odoo.hasFailed
  | .sharepoint => reads.sharepoint.hasFailed
  | .email => reads.email.hasFailed

/-- The statuses of a documented skip. -/
def documentedSkips : List CoverageStatus := [.blocked, .rbacDenied]

/-- An enabled source failed, or was not attempted without a documented reason. -/
def FailedRead (a : Authorized F mapping) (reads : Reads F) : Prop :=
  ∃ s, a.entry.enables s = true ∧ (reads.hasFailed s = true ∨
    reads.attempted s = false ∧ reads.status a.entry s ∉ documentedSkips)

/-- Odoo is enabled, and node 8 does not record a failure of it as an error. -/
def SwallowedFailure (a : Authorized F mapping) (reads : Reads F) : Prop :=
  a.entry.enables .odoo = true ∧ reads.odoo.hasSwallowed = true

/-- Another enabled source failed. -/
def OtherFailure (a : Authorized F mapping) (reads : Reads F) : Prop :=
  ∃ s, s ≠ .odoo ∧ a.entry.enables s = true ∧ reads.hasFailed s = true

/-! ### What the ledger says of them -/

/-- A failure is recorded as an error, unless it is swallowed. Only node 8 swallows one: that of the
cost lines, once the project record is read. -/
theorem Reads.status_eq_error_iff {m : ProjectEntry} {reads : Reads F} {s : ProjectSource} :
    reads.status m s = .error ↔
      reads.hasFailed s = true ∧ ¬ (s = .odoo ∧ reads.odoo.hasSwallowed = true) := by
  have hfound : ∀ items : List (Evidence F), foundStatus items ≠ .error := by
    intro items
    rw [foundStatus]
    split <;> simp
  cases s with
  | odoo =>
    rw [status, hasFailed]
    cases reads.odoo with
    | denied => simp [OdooRead.status, OdooRead.hasFailed]
    | interrupted _ _ => simp [OdooRead.status, OdooRead.hasFailed, OdooRead.hasSwallowed]
    | failed f =>
      cases f <;> simp [OdooRead.status, OdooRead.hasFailed, OdooRead.hasSwallowed]
    | found _ cost _ =>
      cases cost <;> simp [OdooRead.status, OdooRead.hasFailed, OdooRead.hasSwallowed, hfound]
  | sharepoint =>
    rw [status, hasFailed]
    cases reads.sharepoint <;> simp [SharepointRead.status, SharepointRead.hasFailed, hfound]
  | email =>
    rw [status, hasFailed]
    cases reads.email with
    | noAllowlist => cases h : m.enables .email <;> simp [EmailRead.status, EmailRead.hasFailed]
    | _ => simp [EmailRead.status, EmailRead.hasFailed, hfound]

/-- An enabled source is skipped for a documented reason only: the role is denied, or there is
nothing to read it from. -/
theorem Reads.status_of_not_attempted {m : ProjectEntry} {reads : Reads F} {s : ProjectSource}
    (hs : m.enables s = true) (h : reads.attempted s = false) :
    reads.status m s ∈ documentedSkips := by
  cases s with
  | odoo =>
    rw [attempted] at h
    rw [status]
    cases hr : reads.odoo with
    | denied => simp [OdooRead.status, documentedSkips]
    | _ => simp [hr, OdooRead.attempted] at h
  | sharepoint =>
    rw [attempted] at h
    rw [status]
    cases hr : reads.sharepoint with
    | denied => simp [SharepointRead.status, documentedSkips]
    | _ => simp [hr, SharepointRead.attempted] at h
  | email =>
    rw [attempted] at h
    rw [status, hs]
    cases hr : reads.email with
    | failed mailbox f => simp [hr, EmailRead.attempted] at h
    | found mailbox items rawCount => simp [hr, EmailRead.attempted] at h
    | _ => simp [EmailRead.status, documentedSkips]

/-- The sources that block the gate. -/
theorem mem_coverageBlocking {cov : Ledger} {s : ProjectSource} :
    s ∈ coverageBlocking cov ↔ (cov.entry s).enabled = true ∧ ((cov.entry s).status = .error ∨
      (cov.entry s).attempted = false ∧ (cov.entry s).status ∉ documentedSkips) := by
  have hall : s ∈ ProjectSource.all := by cases s <;> decide
  simp only [coverageBlocking, Ledger.connectorErrors, Ledger.notAttempted, Ledger.enabled,
    List.mem_append, List.mem_filter, hall, true_and, decide_eq_true_eq, Bool.and_eq_true,
    Bool.not_eq_true', documentedSkips, and_or_left]

/-! ### The verdict -/

section Verdict

variable [Text] [Floats F]

/-- Node 12 leaves the ledger as it is. -/
theorem draftRun_coverage {replies : DraftReplies F} {state drafted : DecisionState F}
    (h : draftRun mapping replies state = .ok drafted) :
    drafted.outputs.sourceCoverage = state.outputs.sourceCoverage := by
  rw [draftRun] at h
  dsimp only at h
  split at h
  · cases h
    rfl
  · obtain ⟨report, -, h⟩ := bind_eq_ok.mp h
    cases h
    rfl

/-! ### Failures that pass -/

variable (a : Authorized F mapping)

/-- The gate is blocked by the failures that are recorded. -/
theorem Authorized.blocks_iff {g : Gathered F} {state : DecisionState F}
    (h : a.ready? g = some state) :
    coverageBlocking state.outputs.sourceCoverage ≠ [] ↔
      ∃ s, a.entry.enables s = true ∧ g.reads.status a.entry s = .error := by
  rw [ne_eq, List.eq_nil_iff_forall_not_mem, not_forall]
  refine exists_congr fun s => ?_
  obtain ⟨reason, hentry⟩ := a.ready_entry h s
  rw [not_not, mem_coverageBlocking, hentry]
  refine and_congr_right fun hs => or_iff_left ?_
  rintro ⟨hnot, hstatus⟩
  exact hstatus (Reads.status_of_not_attempted hs hnot)

/-- With a failure, the ledger blocks the gate unless the failure is swallowed and there is no
other. -/
theorem Authorized.blocks_of_failed {g : Gathered F} {state : DecisionState F}
    (h : a.ready? g = some state) (hfailed : FailedRead a g.reads) :
    coverageBlocking state.outputs.sourceCoverage = [] ↔
      SwallowedFailure a g.reads ∧ ¬ OtherFailure a g.reads := by
  rw [← not_iff_not, ← ne_eq, a.blocks_iff h]
  simp only [Reads.status_eq_error_iff]
  constructor
  · rintro ⟨s, hs, hfail, hkept⟩ ⟨hswallowed, hother⟩
    by_cases hodoo : s = .odoo
    · exact hkept ⟨hodoo, hswallowed.2⟩
    · exact hother ⟨s, hodoo, hs, hfail⟩
  · intro hnot
    obtain ⟨s, hs, hfail | ⟨hskip, hstatus⟩⟩ := hfailed
    · by_cases hother : OtherFailure a g.reads
      · obtain ⟨s, hodoo, hs, hfail⟩ := hother
        exact ⟨s, hs, hfail, fun hkept => hodoo hkept.1⟩
      · refine ⟨s, hs, hfail, ?_⟩
        rintro ⟨rfl, hswallowed⟩
        exact hnot ⟨⟨hs, hswallowed⟩, hother⟩
    · exact absurd (Reads.status_of_not_attempted hs hskip) hstatus

/-- With a failed read, no report drafted from the state passes the gate. -/
def FailureBlocks (replies : DraftReplies F) (g : Gathered F) : Prop :=
  FailedRead a g.reads → ∀ state, a.ready? g = some state →
    ∀ drafted, draftRun mapping replies state = .ok drafted → ¬ GatePasses drafted

/-- A failed read keeps the report from passing just if node 8 did not swallow it, or another source
has failed as well, or the content of the report does not pass. A swallowed failure leaves the
verdict to the content, which may be without an objection. -/
theorem failureBlocks_iff {S : Type} (world : Connectors F S) (settings : RetrievalSettings)
    (s₀ : S) (replies : DraftReplies F) :
    let g := ((a.gather settings).run world.answer s₀).1
    FailureBlocks a replies g ↔
      (SwallowedFailure a g.reads → OtherFailure a g.reads ∨
        ∀ state, a.ready? g = some state →
          ∀ drafted, draftRun mapping replies state = .ok drafted → ¬ ContentPasses drafted) := by
  intro g
  constructor
  · intro h hswallowed
    rw [or_iff_not_imp_left]
    intro hother state hstate drafted hdraft hcontent
    have hfailed : FailedRead a g.reads := by
      refine ⟨.odoo, hswallowed.1, .inl ?_⟩
      have hread := hswallowed.2
      rw [Reads.hasFailed]
      match hr : g.reads.odoo, hread with
      | .failed _, _ => rfl
      | .found _ (.failed _) _, _ => rfl
    have hnone := (a.blocks_of_failed hstate hfailed).mpr ⟨hswallowed, hother⟩
    rw [← draftRun_coverage hdraft] at hnone
    exact h hfailed state hstate drafted hdraft (gatePasses_iff.mpr ⟨hcontent, hnone⟩)
  · intro h hfailed state hstate drafted hdraft hpasses
    obtain ⟨hcontent, hnone⟩ := gatePasses_iff.mp hpasses
    rw [draftRun_coverage hdraft] at hnone
    obtain ⟨hswallowed, hother⟩ := (a.blocks_of_failed hstate hfailed).mp hnone
    exact (h hswallowed).resolve_left hother state hstate drafted hdraft hcontent

end Verdict

section Whole

open Py.Whole

/-- A project with Odoo enabled and a verified analytic account. -/
def accountProject : ProjectEntry :=
  { ProjectEntry.empty with
    projectName := "Depot", enabledSources := ["odoo"]
    odoo := { ProjectEntry.empty.odoo with
      projectExternalId := some "7", analyticAccountId := some "3" } }

private theorem generates_projectManager :
    Role.projectManager.permissions.canGenerateReport = true := rfl

/-- A manager's request for it, past node 1. -/
def accountState : Authorized ℤ (fun _ => some accountProject) where
  role := .projectManager
  code := "P1"
  entry := accountProject
  state :=
    { requestId := "r1", userId := "u1", query := "Status of the project"
      role := some "project_manager", projectCode := some "P1", allowedMailboxes := []
      allowedOdooIds := ["7"], evidence := [], outputs := Outputs.empty, reportJson := none
      loopCount := 0 }
  known := rfl
  generates := generates_projectManager
  role_eq := rfl
  code_eq := rfl
  mailboxes_eq := rfl
  odooIds_eq := rfl
  noEvidence := rfl
  noCoverage := rfl
  noLoops := rfl

/-- Its record in Odoo. -/
def depotRecord : Evidence ℤ :=
  { evidenceId := "odoo-project-project-7", sourceType := .odoo
    sourceUri := "odoo://project.project/7", title := "Depot", timestamp := none
    excerpt := "Depot", hashSha256 := "h7", confidence := .high, tags := [], metadata := [] }

/-- Connectors that find the record, and fail on the cost lines. -/
def costlessConnectors : Connectors ℤ Unit where
  answer c s := match c with
    | .read (.odoo q) _ =>
      (if q.path = "account_id" then .error (.error "HTTP 500") else .ok [depotRecord], s)
    | .read _ _ => (.ok [], s)
    | .remaining => ((50000 : ℤ), s)
    | .plan => (none, s)
  labelled c s := by
    cases c with
    | read r timeoutMs =>
      cases r with
      | odoo q =>
        intro items hitems e he
        change (if q.path = "account_id" then (.error (.error "HTTP 500") : ReadResult ℤ)
          else .ok [depotRecord]) = .ok items at hitems
        split at hitems
        · cases hitems
        · cases hitems
          rw [List.mem_singleton.mp he]
          rfl
      | _ =>
        rintro items ⟨⟩
        exact AllFrom.nil
    | remaining => trivial
    | plan => trivial

/-- A report of the LLM with one claim, cited from the record. -/
def depotDraft : DraftReplies ℤ :=
  ⟨some (.dict [("executive_summary", .list [.dict [
      ("claim", .str "The depot is under construction."),
      ("text", .str "The depot is under construction."),
      ("evidence_ids", .list [.str "odoo-project-project-7"])]]),
    ("key_findings", .list []), ("root_causes", .list []), ("delay_analysis", .list []),
    ("contractual_implications", .list []), ("recommended_actions", .list []),
    ("financial_snapshot", .dict [])]), none, none⟩

/-- The run of the retrieval phase. -/
def costlessRun : Gathered ℤ := ((accountState.gather {}).run costlessConnectors.answer ()).1

/-- The cost lines cannot be read, and the report passes. -/
theorem not_failureBlocks_costLines :
    ¬ ∀ (S : Type) (world : Connectors ℤ S) (settings : RetrievalSettings)
      (mapping : ProjectMapping) (a : Authorized ℤ mapping) (s₀ : S) (replies : DraftReplies ℤ),
      FailureBlocks a replies ((a.gather settings).run world.answer s₀).1 := by
  intro h
  have hpassed : ((accountState.ready? costlessRun).bind fun state =>
      (draftRun (fun _ => some accountProject) depotDraft state).toOption.bind fun drafted =>
        (gateRun drafted).toOption.bind (·.outputs.qualityGate)) = some .passed := by
    decide +kernel
  obtain ⟨state, hstate, hpassed⟩ := Option.bind_eq_some_iff.mp hpassed
  obtain ⟨drafted, hdrafted, hpassed⟩ := Option.bind_eq_some_iff.mp hpassed
  obtain ⟨state', hstate', hpassed⟩ := Option.bind_eq_some_iff.mp hpassed
  have hfailed : FailedRead accountState costlessRun.reads := ⟨.odoo, by decide, .inl rfl⟩
  exact h Unit costlessConnectors {} _ accountState () depotDraft hfailed state hstate drafted
    (eq_ok_of_toOption hdrafted) ⟨state', eq_ok_of_toOption hstate', hpassed⟩

end Whole

end DecisionCenter
