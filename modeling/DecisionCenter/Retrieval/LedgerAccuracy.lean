import DecisionCenter.Retrieval.FailedReads

/-!
# The accuracy of the coverage ledger

Nodes 5, 7 and 8 each record one entry, with the number of items they add. The status is `ok`
for a read that delivered items; node 8 isolates its further reads, so that the project record
alone makes the status `ok` when a registered source fails.

The registered sources are read in a loop that keeps the items and drops the failures.
`readSources` reads them with their outcomes (`SourceOutcome`), and `readSpecs_eq` says that the
loop of the source is this with the outcomes forgotten. So the failures which the node does not
see can be named, without changing the node.

`LedgerAccurate` says of a node that it left one entry for its source and no other, that the
entry counts the items which were added, and that its status is `ok` just if the read ended
normally with an item. For nodes 5 and 7 this always holds. For node 8 it holds of the mandatory
reads where the cost lines did not fail, and of all its reads just if no failed one stands
beside items of others (`ledgerAccurate_allReads_iff`).

`LedgerTells` is the same with the last part restricted to some runs, so that one statement
covers what is told in every case. `ledgerAccurate_nodes` collects the nodes, over all
connectors and settings. A project whose purchase orders cannot be read is the failing case.
-/

namespace DecisionCenter

open Async Py

section LedgerAccuracy

variable {F : Type} [Text]

/-! ### The registered sources, one by one -/

/-- How the read of a registered source ends: an entry of `odoo_source_status`. -/
inductive SourceOutcome (F : Type) where
  | unmapped
  | failed (f : ReadFailure)
  | found (items : List (Evidence F))

/-- The items of a registered source, tagged with it. -/
def SourceOutcome.items (s : OdooSource) : SourceOutcome F → List (Evidence F)
  | found items => items.map (tagItem s)
  | _ => []

/-- The read of a registered source failed. -/
def SourceOutcome.hasFailed : SourceOutcome F → Bool
  | failed _ => true
  | _ => false

/-- The loop of `_retrieve_extended_sources`, source by source. -/
def specOutcomes : List SourceSpec → Retrieval F (List (OdooSource × SourceOutcome F))
  | [] => .ret []
  | (s, query) :: specs =>
    let goOn (outcome : SourceOutcome F) :=
      (specOutcomes specs).bind fun rest => .ret ((s, outcome) :: rest)
    match query with
    | none => goOn .unmapped
    | some q => (readOdooTimed q extendedTimeoutMs).bind fun
      | .ok items => goOn (.found items)
      | .error .timeout => Retrieval.remaining.bind fun left =>
        if left ≤ 0 then .ret [(s, .failed .timeout)] else goOn (.failed .timeout)
      | .error (.error text) => goOn (.failed (.error text))

/-- `_retrieve_extended_sources`, with the outcome of every source. -/
def readSources (odoo : OdooConfig) (code : String) (allowedOdooIds : List String)
    (sources : List OdooSource) : Retrieval F (List (OdooSource × SourceOutcome F)) :=
  match buildAllSourceQueries odoo code allowedOdooIds sources with
  | .error _ => .ret []
  | .ok specs => specOutcomes specs

/-- The items of the sources read. -/
def sourceItems (outcomes : List (OdooSource × SourceOutcome F)) : List (Evidence F) :=
  outcomes.flatMap fun o => o.2.items o.1

omit [Text] in
/-- The loop collects the items of its sources. Once one source is done, whatever came of it, the
rest is the same loop with a longer list. -/
theorem readSpecs_eq (specs : List SourceSpec) (acc : List (Evidence F)) :
    readSpecs specs acc = (specOutcomes specs).bind fun outcomes =>
      .ret (acc ++ sourceItems outcomes) := by
  induction specs generalizing acc with
  | nil => rw [readSpecs, specOutcomes, Task.ret_bind, sourceItems, List.flatMap_nil,
      List.append_nil]
  | cons spec specs ih =>
    obtain ⟨s, query⟩ := spec
    -- one source done, whatever came of it, the rest is the induction hypothesis
    have hgoOn (outcome : SourceOutcome F) :
        readSpecs specs (acc ++ outcome.items s) =
          ((specOutcomes specs).bind fun rest =>
            .ret ((s, outcome) :: rest)).bind fun outcomes =>
              .ret (acc ++ sourceItems outcomes) := by
      rw [ih, Task.bind_assoc]
      refine congrArg _ (funext fun rest => ?_)
      simp [sourceItems]
    have hskip : acc = acc ++ (.unmapped : SourceOutcome F).items s := (List.append_nil acc).symm
    have hfail (f : ReadFailure) : acc = acc ++ (.failed f : SourceOutcome F).items s :=
      (List.append_nil acc).symm
    cases query with
    | none => exact (congrArg _ hskip).trans (hgoOn .unmapped)
    | some q =>
      rw [readSpecs, specOutcomes]
      dsimp only
      rw [Task.bind_assoc]
      refine congrArg _ (funext fun x => ?_)
      cases x with
      | ok items => exact hgoOn (.found items)
      | error f =>
        cases f with
        | error text => exact (congrArg _ (hfail _)).trans (hgoOn (.failed (.error text)))
        -- a timeout ends the loop where no time is left, and is one failed source otherwise
        | timeout =>
          dsimp only
          rw [Task.bind_assoc]
          refine congrArg _ (funext fun left => ?_)
          split
          · simp [sourceItems, SourceOutcome.items]
          · exact (congrArg _ (hfail _)).trans (hgoOn (.failed .timeout))

/-- The extended retrieval collects the items of its sources. -/
theorem readExtendedSources_eq (odoo : OdooConfig) (code : String) (allowedOdooIds : List String)
    (sources : List OdooSource) (acc : List (Evidence F)) :
    readExtendedSources odoo code allowedOdooIds sources acc =
      (readSources odoo code allowedOdooIds sources).bind fun outcomes =>
        .ret (acc ++ sourceItems outcomes) := by
  rw [readExtendedSources, readSources]
  cases buildAllSourceQueries odoo code allowedOdooIds sources with
  | ok specs => exact readSpecs_eq specs acc
  | error exc =>
    dsimp only
    rw [Task.ret_bind, sourceItems, List.flatMap_nil, List.append_nil]

/-! ### Node 8 in full -/

/-- What node 8 awaits once the project record is read, with the outcome of every source. -/
def furtherOutcomes (settings : RetrievalSettings) (m : ProjectEntry) (state : DecisionState F)
    (code : String) (project : List (Evidence F)) :
    Retrieval F (OdooRead F × List (OdooSource × SourceOutcome F)) :=
  match costQuery m.odoo code state.allowedOdooIds with
  | .error exc => .ret (.interrupted project exc.text, [])
  | .ok query => (readCostLines query).bind fun cost =>
    if settings.odooExtendedSourcesEnabled || m.odoo.extendedSources then
      (readSources m.odoo code state.allowedOdooIds
        (activeSources settings.odooExtendedIncludeMedium)).bind fun outcomes =>
          .ret (.found project cost (sourceItems outcomes), outcomes)
    else .ret (.found project cost [], [])

private theorem readFurther_eq (settings : RetrievalSettings) (m : ProjectEntry)
    (state : DecisionState F) (code : String) (project : List (Evidence F)) :
    readFurther settings m state code project =
      (furtherOutcomes settings m state code project).bind fun r => .ret r.1 := by
  rw [readFurther, furtherOutcomes]
  cases costQuery m.odoo code state.allowedOdooIds with
  | error exc => rfl
  | ok query =>
    dsimp only
    rw [Task.bind_assoc]
    refine congrArg _ (funext fun cost => ?_)
    split
    · rw [Task.bind_assoc, readExtendedSources_eq, Task.bind_assoc]
      rfl
    · rfl

/-- What node 8 awaits, with the outcome of every registered source. -/
def readOdooOutcomes (settings : RetrievalSettings) (m : ProjectEntry) (perms : RolePermissions)
    (state : DecisionState F) (code : String) :
    Retrieval F (OdooRead F × List (OdooSource × SourceOutcome F)) :=
  if !perms.canAccessOdooBudget then .ret (.denied, [])
  else match projectQuery m.odoo code state.allowedOdooIds with
    | .error exc => .ret (.failed (.error exc.text), [])
    | .ok query => (readOdooWithRetry query projectTimeoutMs odooMaxRetries).bind fun
      | .error f => .ret (.failed f, [])
      | .ok project => furtherOutcomes settings m state code project

/-- The outcomes only add to what node 8 awaits. -/
theorem readOdooFacts_eq (settings : RetrievalSettings) (m : ProjectEntry)
    (perms : RolePermissions) (state : DecisionState F) (code : String) :
    readOdooFacts settings m perms state code =
      (readOdooOutcomes settings m perms state code).bind fun r => .ret r.1 := by
  rw [readOdooFacts, readOdooOutcomes]
  split
  · rfl
  cases projectQuery m.odoo code state.allowedOdooIds with
  | error exc => rfl
  | ok query =>
    dsimp only
    rw [Task.bind_assoc]
    refine congrArg _ (funext fun x => ?_)
    cases x with
    | error f => rfl
    | ok project => exact readFurther_eq settings m state code project

/-! ### Accuracy -/

/-- The node left one entry for its source and no other, and it counts the items the node added;
where `told`, its status is `ok` just if the read ended normally with an item. -/
def LedgerTells (source : ProjectSource) (told normal : Prop) (before after : DecisionState F) :
    Prop :=
  ∃ items entry, after.evidence = before.evidence ++ items ∧
    after.outputs.sourceCoverage = before.outputs.sourceCoverage.record source entry ∧
    entry.evidenceCount = items.length ∧ (told → (entry.status = .ok ↔ normal ∧ items ≠ []))

/-- The node left one entry for its source and no other: it counts the items the node added, and
its status is `ok` just if the read ended normally with an item. -/
abbrev LedgerAccurate (source : ProjectSource) (normal : Prop) (before after : DecisionState F) :
    Prop :=
  LedgerTells source True normal before after

/-- The search of node 5 ended normally. -/
def SharepointRead.Normal : SharepointRead F → Prop
  | found _ => True
  | _ => False

/-- The mailbox read of node 7 ended normally. -/
def EmailRead.Normal : EmailRead F → Prop
  | found _ _ _ => True
  | _ => False

/-- The project record was read. -/
def OdooRead.Normal : OdooRead F → Prop
  | found _ _ _ => True
  | _ => False

/-- The cost lines were read, or there is no account to read them from. -/
def CostRead.Normal : CostRead F → Prop
  | failed _ => False
  | _ => True

/-- The project record was read, and the read of the cost lines failed. -/
def OdooRead.CostFailed : OdooRead F → Prop
  | found _ cost _ => ¬ cost.Normal
  | _ => False

/-- All reads of node 8 ended normally. -/
def AllReadsNormal (r : OdooRead F × List (OdooSource × SourceOutcome F)) : Prop :=
  match r.1 with
  | .found _ cost _ => cost.Normal ∧ ∀ o ∈ r.2, o.2.hasFailed = false
  | _ => False

omit [Text] in
/-- Where all reads ended normally, those of the registered sources did. -/
theorem AllReadsNormal.sources {r : OdooRead F × List (OdooSource × SourceOutcome F)}
    (h : AllReadsNormal r) : ∀ o ∈ r.2, o.2.hasFailed = false := by
  unfold AllReadsNormal at h
  split at h
  · exact h.2
  · cases h

omit [Text] in
private theorem foundStatus_eq_ok {items : List (Evidence F)} :
    foundStatus items = .ok ↔ items ≠ [] := by
  rw [foundStatus]
  cases items <;> simp

section Nodes

variable [Floats F]

/-- `run` of node 5, with its search. -/
def sharepointNode {S : Type} (world : Connectors F S) (m : ProjectEntry)
    (perms : RolePermissions) (code : String) (state : DecisionState F) (s : S) :
    DecisionState F :=
  recordSharepoint m ((searchSharepoint m perms state.query code).run world.answer s).1 state

/-- `run` of node 7, with its read. -/
def emailNode {S : Type} (world : Connectors F S) (m : ProjectEntry) (perms : RolePermissions)
    (code : String) (state : DecisionState F) (s : S) : DecisionState F :=
  recordEmail m ((searchMessages m perms state code).run world.answer s).1 state

/-- `run` of node 8, with its reads. -/
def odooNode {S : Type} (world : Connectors F S) (settings : RetrievalSettings)
    (m : ProjectEntry) (perms : RolePermissions) (code : String) (state : DecisionState F)
    (s : S) : DecisionState F :=
  recordOdoo m ((readOdooFacts settings m perms state code).run world.answer s).1 state

/-- Node 5 records its search accurately. -/
theorem ledgerAccurate_sharepoint (m : ProjectEntry) (r : SharepointRead F)
    (state : DecisionState F) :
    LedgerAccurate .sharepoint r.Normal state (recordSharepoint m r state) := by
  obtain ⟨reason, h⟩ := recordSharepoint_eq m r state
  rw [h]
  refine ⟨r.items, _, rfl, rfl, rfl, fun _ => ?_⟩
  cases r with
  | found r =>
    simp [SharepointRead.status, SharepointRead.Normal, SharepointRead.items, foundStatus_eq_ok]
  | _ => simp [SharepointRead.status, SharepointRead.Normal]

omit [Floats F] in
/-- Node 7 records its read accurately. -/
theorem ledgerAccurate_email (m : ProjectEntry) (r : EmailRead F) (state : DecisionState F) :
    LedgerAccurate .email r.Normal state (recordEmail m r state) := by
  obtain ⟨reason, h⟩ := recordEmail_eq m r state
  rw [h]
  refine ⟨r.items, _, rfl, rfl, rfl, fun _ => ?_⟩
  cases r with
  | found mailbox items rawCount =>
    simp [EmailRead.status, EmailRead.Normal, EmailRead.items, foundStatus_eq_ok]
  | noAllowlist =>
    simp only [EmailRead.status, EmailRead.Normal, false_and, iff_false]
    split <;> simp
  | _ => simp [EmailRead.status, EmailRead.Normal]

omit [Text] [Floats F] in
/-- Node 8 records the read of the project record accurately. -/
theorem ledgerAccurate_odoo (m : ProjectEntry) (r : OdooRead F) (state : DecisionState F) :
    LedgerAccurate .odoo r.Normal state (recordOdoo m r state) := by
  obtain ⟨available, reason, h⟩ := recordOdoo_eq m r state
  rw [h]
  refine ⟨r.items, _, rfl, rfl, rfl, fun _ => ?_⟩
  match r with
  | .found project cost extended =>
    simp only [OdooRead.status, OdooRead.Normal, true_and]
    exact foundStatus_eq_ok
  | .denied => simp [OdooRead.status, OdooRead.Normal]
  | .failed .timeout => simp [OdooRead.status, OdooRead.Normal]
  | .failed (.error _) => simp [OdooRead.status, OdooRead.Normal]
  | .interrupted _ _ => simp [OdooRead.status, OdooRead.Normal]

omit [Floats F] in
private theorem odooNode_eq {S : Type} (world : Connectors F S) (settings : RetrievalSettings)
    (m : ProjectEntry) (perms : RolePermissions) (code : String) (state : DecisionState F)
    (s : S) :
    odooNode world settings m perms code state s =
      recordOdoo m ((readOdooOutcomes settings m perms state code).run world.answer s).1.1
        state := by
  rw [odooNode, readOdooFacts_eq, Task.run_bind', Task.run_ret]

omit [Floats F] in
/-- Of all its reads, node 8 gives an accurate account just if no failed read stands beside items
of others, once the project record is read. -/
theorem ledgerAccurate_allReads_iff {S : Type} (world : Connectors F S)
    (settings : RetrievalSettings) (m : ProjectEntry) (perms : RolePermissions) (code : String)
    (state : DecisionState F) (s : S) :
    let r := ((readOdooOutcomes settings m perms state code).run world.answer s).1
    LedgerAccurate .odoo (AllReadsNormal r) state (odooNode world settings m perms code state s) ↔
      (r.1.Normal → r.1.items ≠ [] → AllReadsNormal r) := by
  intro r
  rw [odooNode_eq]
  obtain ⟨items, entry, hitems, hcoverage, hcount, hstatus⟩ := ledgerAccurate_odoo m r.1 state
  obtain ⟨available, reason, hrecord⟩ := recordOdoo_eq m r.1 state
  have hadded : items = r.1.items := by
    rw [hrecord] at hitems
    exact (List.append_cancel_left hitems).symm
  have hstatus := hstatus trivial
  have hnormal : AllReadsNormal r → r.1.Normal := by
    intro hall
    unfold AllReadsNormal at hall
    cases hr : r.1 with
    | found project cost extended => trivial
    | _ => rw [hr] at hall; exact hall
  subst hadded
  constructor
  · rintro ⟨items', entry', hitems', hcoverage', -, hstatus'⟩ hread hne
    have hentry := congrFun (hcoverage.symm.trans hcoverage') .odoo
    simp only [Ledger.record, if_true, Option.some_inj] at hentry
    exact ((hstatus' trivial).mp (hentry ▸ hstatus.mpr ⟨hread, hne⟩)).1
  · intro h
    refine ⟨r.1.items, entry, hitems, hcoverage, hcount, fun _ => ?_⟩
    rw [hstatus]
    exact ⟨fun hok => ⟨h hok.1 hok.2, hok.2⟩, fun hok => ⟨hnormal hok.1, hok.2⟩⟩

omit [Text] [Floats F] in
/-- What is told in every case is told where `told` holds. -/
theorem LedgerTells.of_accurate {source : ProjectSource} {told normal : Prop}
    {before after : DecisionState F} (h : LedgerAccurate source normal before after) :
    LedgerTells source told normal before after := by
  obtain ⟨items, entry, hitems, hcoverage, hcount, hstatus⟩ := h
  exact ⟨items, entry, hitems, hcoverage, hcount, fun _ => hstatus trivial⟩

/-- Whatever the connectors do, nodes 5, 7 and 8 each record one entry and count the items they
add. The status is `ok` just if the search, the mailbox or the project record was read with an item;
for node 8 this says nothing of the runs in which the read of the cost lines failed. -/
theorem ledgerAccurate_nodes {S : Type} (world : Connectors F S) (settings : RetrievalSettings)
    (m : ProjectEntry) (perms : RolePermissions) (code : String) (state : DecisionState F)
    (s : S) :
    LedgerAccurate .sharepoint ((searchSharepoint m perms state.query code).run world.answer
        s).1.Normal state (sharepointNode world m perms code state s) ∧
      LedgerAccurate .email ((searchMessages m perms state code).run world.answer s).1.Normal
        state (emailNode world m perms code state s) ∧
      let r := ((readOdooFacts settings m perms state code).run world.answer s).1
      LedgerTells .odoo (¬ r.CostFailed) r.Normal state
        (odooNode world settings m perms code state s) :=
  ⟨ledgerAccurate_sharepoint m _ state, ledgerAccurate_email m _ state,
    .of_accurate (ledgerAccurate_odoo m _ state)⟩

end Nodes

end LedgerAccuracy

section Whole

open Py.Whole

/-- Connectors that find the project record and fail on the purchase orders. -/
def orderlessConnectors : Connectors ℤ Unit where
  answer c s := match c with
    | .read (.odoo q) _ =>
      (if q.model = "purchase.order" then .error (.error "HTTP 500")
        else .ok (if q.model = "project.project" then [depotRecord] else []), s)
    | .read _ _ => (.ok [], s)
    | .remaining => ((50000 : ℤ), s)
    | .plan => (none, s)
  labelled c s := by
    cases c with
    | read r timeoutMs =>
      cases r with
      | odoo q =>
        intro items hitems e he
        change (if q.model = "purchase.order" then (.error (.error "HTTP 500") : ReadResult ℤ)
          else .ok (if q.model = "project.project" then [depotRecord] else [])) = .ok items
          at hitems
        split_ifs at hitems
        · cases hitems
          rw [List.mem_singleton.mp he]
          rfl
        · cases hitems
          cases he
      | _ =>
        rintro items ⟨⟩
        exact AllFrom.nil
    | remaining => trivial
    | plan => trivial

/-- How node 8's reads end there. -/
def orderlessReads : OdooRead ℤ × List (OdooSource × SourceOutcome ℤ) :=
  ((readOdooOutcomes { odooExtendedSourcesEnabled := true } accountProject
    Role.projectManager.permissions accountState.state "P1").run orderlessConnectors.answer ()).1

private theorem not_allReadsNormal_orderless : ¬ AllReadsNormal orderlessReads := by
  intro h
  have hfailed : (orderlessReads.2.any fun o => o.2.hasFailed) = true := by decide
  obtain ⟨o, hmem, ho⟩ := List.any_eq_true.mp hfailed
  rw [h.sources o hmem] at ho
  cases ho

/-- A registered source fails, and the status of the project record stands. -/
theorem not_ledgerAccurate_orderless :
    ¬ ∀ (S : Type) (world : Connectors ℤ S) (settings : RetrievalSettings) (m : ProjectEntry)
      (role : Role) (code : String) (state : DecisionState ℤ) (s : S),
      LedgerAccurate .odoo (AllReadsNormal
        ((readOdooOutcomes settings m role.permissions state code).run world.answer s).1)
        state (odooNode world settings m role.permissions code state s) := by
  intro h
  have hitems : orderlessReads.1.items ≠ [] := List.ne_nil_of_length_pos (by decide)
  have hread : orderlessReads.1.Normal := by trivial
  have hiff := ledgerAccurate_allReads_iff orderlessConnectors
    { odooExtendedSourcesEnabled := true } accountProject Role.projectManager.permissions "P1"
    accountState.state ()
  exact not_allReadsNormal_orderless (hiff.mp (h Unit orderlessConnectors
    { odooExtendedSourcesEnabled := true } accountProject .projectManager "P1"
    accountState.state ()) hread hitems)

end Whole

end DecisionCenter
