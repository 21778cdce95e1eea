import DecisionCenter.Retrieval.Awaited
import DecisionCenter.Retrieval.Enabled
import DecisionCenter.Retrieval.OdooRequests

/-!
# The records a report is drawn from

The calls of Odoo behind the nodes 5 to 11: for each read that is awaited, the login of the
service user and after it at most one search, of at most a hundred records under the one leaf
that links them to the mapped project. This is independent of the role, of what Odoo and the
other connectors return, and of the plan of node 11.

`ProjectRecords` is what the records in question have to be: those of a model of the registry,
or the project record, or the cost lines of its account, linked by the value that the mapping
has for the project. A query is `InProject` if its domain is the leaf for such records; the
queries that the builders make are, by cases on the source and its scope.

Then come the calls. A read of an Odoo query is posted as a payload that asks for the query, and
what the workflow calls for a payload serves it, so that a call has the leaf of the query as its
domain (`StaysInProject`). The number of searches is that of one task, over all answers.

The nodes come last, through `Authorized.Awaits`: each Odoo read that is awaited is one of these
queries. `searchesProject_gather` states it for every run of the phase. Ids that JavaScript
cannot hold exactly are put aside by a condition on the mapping.
-/

namespace DecisionCenter

open Async Py

section Scope

variable {F : Type} [Text] [JsonScript F]

/-- A leaf is all of a domain. -/
def leaf (path : String) (value : Value F) : List (Value F) :=
  [.list [.str path, .str "=", value]]

/-- The records of a model under a domain are those of the project. -/
inductive ProjectRecords (odoo : OdooConfig) (code : String) : String → List (Value F) → Prop
  /-- The project record, by its id. -/
  | project {n : ℕ} (h : recordId odoo.projectExternalId = .ok (some n)) :
    ProjectRecords odoo code (Script.trim F (odoo.projectModel.getD "project.project"))
      (leaf "id" (.int n))
  /-- The project record, by its name, where the mapping has no id. -/
  | named (h : recordId odoo.projectExternalId = .ok none) :
    ProjectRecords odoo code (Script.trim F (odoo.projectModel.getD "project.project"))
      (leaf "name" (.str ((odoo.projectName.filter (· ≠ "")).getD code)))
  /-- The cost lines of the analytic account. -/
  | costs {n : ℕ} (h : recordId odoo.analyticAccountId = .ok (some n)) :
    ProjectRecords odoo code
      (Script.trim F ((odoo.costModel.filter (· ≠ "")).getD defaultCostModel))
      (leaf "account_id" (.int n))
  /-- A registered source, by a path that leads to no other project. -/
  | source {s : OdooSource} (hs : s ∈ odooSources)
    (hallowed : (s.model, s.linkPath) ∉ denylistedPaths) {n : ℕ}
    (h : resolveLinkValue s odoo = .ok (some n)) :
    ProjectRecords odoo code s.model (leaf s.linkPath (.int n))

/-- The call searches records of the project, a hundred at most. -/
def RpcCall.InProject (odoo : OdooConfig) (code : String) : RpcCall F → Prop
  | .searchRead _ model domain _ limit offset =>
    ProjectRecords odoo code model domain ∧ 1 ≤ limit ∧ limit ≤ 100 ∧ offset = 0
  | _ => False

/-- The ids of the mapping are ones that JavaScript holds exactly. -/
def OdooConfig.Exact (odoo : OdooConfig) : Prop :=
  ∀ raw ∈ [odoo.projectExternalId, odoo.analyticAccountId], ∀ n, recordId raw = .ok (some n) →
    n ≤ maxExact

variable [Floats F]

/-- The payload of a read arrives, and for it the workflow calls nothing but the login of the
service user and, after it, one search of records of the project. -/
def OdooQuery.InProject (env : OdooEnv) (odoo : OdooConfig) (code : String) (q : OdooQuery) :
    Prop :=
  ∃ payload : Dict F, received q.payload = some payload ∧
    CallsAtMost env (RpcCall.InProject odoo code) (odooQueryCalls env payload)

variable {env : OdooEnv} {odoo : OdooConfig} {code : String}

private theorem OdooQuery.inProject {q : OdooQuery} (hq : q.Exact)
    (h : ProjectRecords (F := F) odoo code (Script.trim F q.model) q.domain) :
    q.InProject (F := F) env odoo code := by
  refine ⟨q.payload, received_eq (portable_payload hq), ?_⟩
  refine callsAtMost_odooQueryCalls fun request hrequest uid c hc => ?_
  have hserves := serves_furtherCalls hq (asks_payload (F := F) hq) hrequest uid c hc
  cases c with
  | authenticate database username apiKey => exact hserves
  | searchCount uid model domain => exact absurd hserves.1 (by decide)
  | searchRead uid model domain fields limit offset =>
    obtain ⟨-, rfl, rfl, -, ⟨-, hlimit⟩, rfl⟩ := hserves
    exact ⟨h, hlimit.1, hlimit.2, rfl⟩

private theorem projectQuery_inProject (h : odoo.Exact) {ids : List String} {q : OdooQuery}
    (hq : projectQuery odoo code ids = .ok q) : q.InProject (F := F) env odoo code := by
  obtain ⟨id, hid, rfl⟩ := projectQuery_eq_ok hq
  cases id with
  | none => exact OdooQuery.inProject ⟨nofun, nofun⟩ (.named hid)
  | some n =>
    refine OdooQuery.inProject ⟨fun n' hn => ?_, nofun⟩ (.project hid)
    cases hn
    exact h _ List.mem_cons_self n hid

private theorem costQuery_inProject (h : odoo.Exact) {ids : List String} {q : OdooQuery}
    (hq : costQuery odoo code ids = .ok (some q)) : q.InProject (F := F) env odoo code := by
  obtain ⟨n, hid, rfl⟩ := costQuery_eq_some hq
  refine OdooQuery.inProject ⟨fun n' hn => ?_, fun limit hlimit => ?_⟩ (.costs hid)
  · cases hn
    exact h _ (List.mem_cons_of_mem _ List.mem_cons_self) n hid
  · cases hlimit
    decide

omit [Text] [JsonScript F] [Floats F] in
/-- The models of the registry hold no blank. -/
theorem odooSources_words : ∀ s ∈ odooSources,
    ∀ c ∈ s.model.toList, c.isAlphanum = true ∨ c = '.' ∨ c = '_' := by
  have hall : (odooSources.all fun s => s.model.toList.all fun c =>
      c.isAlphanum || c == '.' || c == '_') = true := by rfl
  intro s hs c hc
  simpa [or_assoc] using List.all_eq_true.mp (List.all_eq_true.mp hall s hs) c hc

omit [Text] [JsonScript F] [Floats F] in
private theorem odooSources_limits : ∀ s ∈ odooSources, s.limit = 100 := by decide

private theorem sourceQuery_inProject (h : odoo.Exact) {s : OdooSource} (hs : s ∈ odooSources)
    {ids : List String} {q : OdooQuery} (hq : buildSourceQuery s odoo code ids = .ok (some q)) :
    q.InProject (F := F) env odoo code := by
  obtain ⟨hallowed, n, hid, rfl⟩ := buildSourceQuery_eq_some hq
  have hrecords : ProjectRecords (F := F) odoo code (Script.trim F s.model)
      (leaf s.linkPath (.int n)) := by
    rw [JsonScript.trim_eq s.model (odooSources_words s hs)]
    exact .source hs hallowed hid
  refine OdooQuery.inProject ⟨fun n' hn => ?_, fun limit hlimit => ?_⟩ hrecords
  · cases hn
    rw [resolveLinkValue, rawLinkValue] at hid
    split at hid
    · exact h _ List.mem_cons_self n hid
    · exact h _ (List.mem_cons_of_mem _ List.mem_cons_self) n hid
  · cases hlimit
    rw [odooSources_limits s hs]
    decide

/-! ### The nodes -/

/-- A read of Odoo stays in the project. -/
def Call.InProject (env : OdooEnv) (odoo : OdooConfig) (code : String) (c : Call F) : Prop :=
  ∀ q limit, c = .read (.odoo q) limit → q.InProject (F := F) env odoo code

/-- All reads of Odoo that a task awaits stay in the project. -/
abbrev StaysInProject {R : Type} (env : OdooEnv) (odoo : OdooConfig) (code : String)
    (t : Retrieval F R) : Prop :=
  t.Always (Call.InProject env odoo code) fun _ => True

/-- The nodes 5 to 11 have Odoo search the records of the mapped project only. -/
structure Authorized.SearchesProject {mapping : ProjectMapping} (a : Authorized F mapping)
    (settings : RetrievalSettings) (env : OdooEnv) : Prop where
  always : StaysInProject env a.entry.odoo a.code (a.gather settings)

/-- Whatever is retrieved, Odoo is called for the mapped project, to read at most: each read that is
awaited is the login of the service user and at most one search of records that the mapping links.
The planner and the role choose which reads there are, and nothing of their domain. -/
theorem searchesProject_gather {mapping : ProjectMapping} (a : Authorized F mapping)
    (settings : RetrievalSettings) (env : OdooEnv) (h : a.entry.odoo.Exact) :
    a.SearchesProject settings env := by
  refine ⟨(awaitsIn_gather a settings).mono (fun c hc => ?_) fun _ _ => trivial⟩
  rintro q limit rfl
  cases hc with
  | project hq => exact projectQuery_inProject h hq
  | costs hq => exact costQuery_inProject h hq
  | source hs hq => exact sourceQuery_inProject h hs hq

end Scope

section Whole

open Py.Whole

local instance : JsonScript ℤ := wholeScript

/-- A project with both ids. -/
def linkedProject : ProjectEntry :=
  { odooOnlyProject with
    odoo := { odooOnlyProject.odoo with
      projectExternalId := some " 7", analyticAccountId := some "31" } }

/-- A manager's request for it, past node 1. -/
def linkedState : Authorized ℤ (fun _ => some linkedProject) where
  role := .projectManager
  code := "P1"
  entry := linkedProject
  state := { odooOnlyState.state with allowedOdooIds := linkedProject.allowedOdooIds }
  known := rfl
  generates := odooOnlyState.generates
  role_eq := odooOnlyState.role_eq
  code_eq := odooOnlyState.code_eq
  mailboxes_eq := odooOnlyState.mailboxes_eq
  odooIds_eq := rfl
  noEvidence := odooOnlyState.noEvidence
  noCoverage := odooOnlyState.noCoverage
  noLoops := odooOnlyState.noLoops

private theorem exact_linkedProject : linkedProject.odoo.Exact := by
  intro raw hraw n hn
  obtain rfl | hraw := List.mem_cons.mp hraw
  · have hid : recordId linkedProject.odoo.projectExternalId = .ok (some 7) := rfl
    cases hid.symm.trans hn
    decide
  · obtain rfl := List.mem_singleton.mp hraw
    have hid : recordId linkedProject.odoo.analyticAccountId = .ok (some 31) := rfl
    cases hid.symm.trans hn
    decide

/-- A project that is linked by two ids. -/
theorem searchesProject_linkedState :
    linkedState.SearchesProject {} ⟨"https://odoo", "live", "reader", "key"⟩ :=
  searchesProject_gather linkedState {} _ exact_linkedProject

end Whole

end DecisionCenter
