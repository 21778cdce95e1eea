import DecisionCenter.Graph.Normalize
import DecisionCenter.Retrieval.Email
import DecisionCenter.Retrieval.Odoo

/-!
# The retrieval phase

The nodes of `apps/edr/graph` from the gate of node 1 to the self-correction of node 11, in the
order of `apps/edr/graph/runner.py`. `gather` is all they await; what they make of it is read
off the result, node by node, up to the state that node 12 drafts from. Nodes 2 to 4 touch
neither the evidence nor the coverage ledger.

A request passes node 1 if its role is known, its project mapped and its query within the
bounds, and `Authorized` is a state that has passed it, with these facts as fields. Everything
after it is about an authorized state, so that no lookup has to be done again.

Node 10 judges whether the pack is sufficient, by whether there is anything in it and, for the
words of a financial query, anything of Odoo. If it is not, node 11 asks the planner what else
to read, and reads that with the same builders as the nodes before: documents, and the record of
the project. The runner comes to this node once, so that its bound on the number of rounds is
never met.

So a run is one task, `gather`, whose result has the first reads and the correction
(`Gathered`), and the states of the workflow are functions of it: `collected`, `prepared` and
`ready?`, which is none where the run ends before node 12. All results on whole runs are stated
over `gather`, any connectors, and these three.
-/

namespace DecisionCenter

open Async Py

variable {F : Type}

/-! ### Authorisation -/

/-- The `RbacDeniedError`s of node 1. -/
inductive RbacDenied where
  | invalidRole
  | cannotGenerate
  | noProject
  | unknownProject
  deriving DecidableEq, Repr

/-- A state that has passed node 1: the role is known, the project is mapped, the allowlists are
those of its mapping, and nothing has been retrieved. -/
structure Authorized (F : Type) (mapping : ProjectMapping) where
  role : Role
  code : String
  entry : ProjectEntry
  state : DecisionState F
  known : mapping code = some entry
  generates : role.permissions.canGenerateReport = true
  role_eq : state.role = some role.value
  code_eq : state.projectCode = some code
  mailboxes_eq : state.allowedMailboxes = entry.allowedMailboxes
  odooIds_eq : state.allowedOdooIds = entry.allowedOdooIds
  noEvidence : state.evidence = []
  noCoverage : state.outputs.sourceCoverage = fun _ => none
  noLoops : state.loopCount = 0

/-- The request fields of a fresh `DecisionState`. -/
structure ReportRequest where
  requestId : String
  userId : String
  query : String
  role : Option String
  projectCode : Option String

/-- `run` of node 1, on a fresh state. -/
def authorize [Text] [Floats F] (mapping : ProjectMapping) (r : ReportRequest) :
    Except RbacDenied (Authorized F mapping) :=
  match hrole : r.role.bind Role.ofValue? with
  | none => .error .invalidRole
  | some role =>
    if hgen : role.permissions.canGenerateReport = true then
      match hcode : r.projectCode.filter (· ≠ "") with
      | none => .error .noProject
      | some code =>
        match hknown : mapping code with
        | none => .error .unknownProject
        | some entry => .ok
          { role, code, entry, known := hknown, generates := hgen
            state :=
              { requestId := r.requestId, userId := r.userId, query := r.query
                role := r.role, projectCode := r.projectCode
                allowedMailboxes := entry.allowedMailboxes
                allowedOdooIds := entry.allowedOdooIds
                evidence := []
                outputs := { Outputs.empty with
                  projectIdentity := some (resolveProjectIdentity mapping r.projectCode
                    ([] : List (Evidence F))) }
                reportJson := none, loopCount := 0 }
            role_eq := by
              obtain ⟨v, hv, hof⟩ := Option.bind_eq_some_iff.mp hrole
              rw [hv, Role.value_of_ofValue? hof]
            code_eq := (Option.filter_eq_some_iff.mp hcode).1
            mailboxes_eq := rfl, odooIds_eq := rfl, noEvidence := rfl, noCoverage := rfl
            noLoops := rfl }
    else .error .cannotGenerate

section Authorize

variable [Text] [Floats F] {mapping : ProjectMapping} {r : ReportRequest} {role : Role}
  {code : String}

/-- What a request passes node 1 with. -/
theorem authorize_eq_ok {entry : ProjectEntry} (hrole : r.role.bind Role.ofValue? = some role)
    (hgen : role.permissions.canGenerateReport = true)
    (hcode : r.projectCode.filter (· ≠ "") = some code) (hentry : mapping code = some entry) :
    ∃ a : Authorized F mapping, authorize mapping r = .ok a ∧ a.code = code := by
  unfold authorize
  split
  · next h => rw [hrole] at h; cases h
  next role' h =>
  obtain rfl : role = role' := Option.some.inj (hrole.symm.trans h)
  rw [dif_pos hgen]
  split
  · next h => rw [hcode] at h; cases h
  next code' h =>
  obtain rfl : code = code' := Option.some.inj (hcode.symm.trans h)
  split
  · next h => rw [hentry] at h; cases h
  · exact ⟨_, rfl, rfl⟩

/-- Only a project without a mapping is rejected as unknown. -/
theorem authorize_ne_unknownProject {entry : ProjectEntry} (hcode : r.projectCode = some code)
    (hentry : mapping code = some entry) :
    (authorize mapping r : Except RbacDenied (Authorized F mapping)) ≠ .error .unknownProject := by
  unfold authorize
  split
  · exact nofun
  split
  · split
    · exact nofun
    next code' h =>
    obtain rfl : code' = code :=
      Option.some.inj ((Option.filter_eq_some_iff.mp h).1.symm.trans hcode)
    split
    · next h => rw [hentry] at h; cases h
    · exact nofun
  · exact nofun

/-- A request that has a role and a code, but no entry, is rejected as one for an unknown project.
-/
theorem authorize_eq_unknownProject (hrole : r.role.bind Role.ofValue? = some role)
    (hgen : role.permissions.canGenerateReport = true)
    (hcode : r.projectCode.filter (· ≠ "") = some code) (hentry : mapping code = none) :
    (authorize mapping r : Except RbacDenied (Authorized F mapping)) = .error .unknownProject := by
  unfold authorize
  split
  · next h => rw [hrole] at h; cases h
  next role' h =>
  obtain rfl : role = role' := Option.some.inj (hrole.symm.trans h)
  rw [dif_pos hgen]
  split
  · next h => rw [hcode] at h; cases h
  next code' h =>
  obtain rfl : code = code' := Option.some.inj (hcode.symm.trans h)
  split
  · rfl
  · next h => rw [hentry] at h; cases h

end Authorize

/-! ### ownCloud -/

/-- Node 6 (`node_06_owncloud.py`): what it adds. A failure adds nothing and is not recorded. -/
def listOwncloud (m : ProjectEntry) (perms : RolePermissions) (code : String) :
    Retrieval F (List (Evidence F)) :=
  if perms.canAccessOwncloud then
    (Retrieval.read (.owncloud code m.owncloudBasePath)).bind fun x => .ret (x.toOption.getD [])
  else .ret []

/-! ### Sufficiency -/

section Sufficiency

variable [Text]

/-- `_FINANCIAL_KEYWORDS` -/
def financialKeywords : List String :=
  ["budget", "cost", "payment", "invoice", "contract value", "actual cost"]

/-- `sufficiency == "sufficient"`: there is evidence, and Odoo evidence for a financial query. -/
def isSufficient (query : String) (evidence : List (Evidence F)) : Bool :=
  let isFinancial := financialKeywords.any fun kw => contains (lower query) kw
  !(isFinancial && (odooEvidence evidence).isEmpty) && !evidence.isEmpty

/-- `run` of node 10. -/
def checkSufficiency (state : DecisionState F) : DecisionState F :=
  { state with
    outputs := { state.outputs with
      evidenceSufficient := some (isSufficient state.query state.evidence) } }

end Sufficiency

/-! ### Self-correction -/

/-- How node 11 ends. -/
inductive Correction (F : Type) where
  | maxLoops
  | notNeeded
  /-- The call of the planner raised, and the workflow with it. -/
  | raised
  | stopped
  /-- The plan was carried out: what the two reads added. -/
  | retried (documents records : List (Evidence F))

/-- The items node 11 adds to the pack. -/
def Correction.items : Correction F → List (Evidence F)
  | .retried documents records => documents ++ records
  | _ => []

/-- `_MAX_LOOPS` -/
def maxLoops : ℕ := 3

/-- `name in v`: an element of a list, a key of a dictionary or a part of a string; anything else
raises. -/
def holdsName? (v : Value F) : Option (String → Bool) :=
  match v with
  | .list xs => some fun name => xs.any (·.eqStr name)
  | .dict items => some fun name => items.any fun kv => kv.1 == name
  | .str s => some (contains s)
  | _ => none

/-- A read of node 11, if it is planned; a failure adds nothing. -/
def reread (planned : Bool) (r : Read F) : Retrieval F (List (Evidence F)) :=
  if planned then (Retrieval.read r).bind fun x => .ret (x.toOption.getD [])
  else .ret []

/-- The read of the project record in node 11; a query that cannot be built adds nothing either. -/
def rereadRecord (planned : Bool) (query : Except Raised OdooQuery) :
    Retrieval F (List (Evidence F)) :=
  match query with
  | .error _ => .ret []
  | .ok q => reread planned (.odoo q)

variable [Text] [Floats F]

/-- `_try_retrieval` -/
def tryRetrieval (m : ProjectEntry) (state : DecisionState F) (code : String) (plan : Dict F) :
    Retrieval F (Correction F) :=
  match holdsName? (plan.getD "target_sources" (.list [])) with
  -- the exception is caught around the call
  | none => .ret (.retried [] [])
  | some targets =>
    let query := (plan.get "new_query").orElse (.str state.query)
    (reread (targets "sharepoint") (.sharepoint ⟨query, code, m.siteId, m.driveId⟩)).bind
      fun documents =>
        (rereadRecord (targets "odoo")
          (projectQuery m.odoo code state.allowedOdooIds)).bind fun records =>
            .ret (.retried documents records)

/-- What node 11 awaits. -/
def selfCorrect (m : ProjectEntry) (state : DecisionState F) (code : String) :
    Retrieval F (Correction F) :=
  if maxLoops ≤ state.loopCount then .ret .maxLoops
  else if state.outputs.evidenceSufficient = some true then .ret .notNeeded
  else .op .plan fun
    | none => .ret .raised
    | some parsed =>
      let plan := parsed.getD [("action", .str "stop")]
      if (plan.getD "action" (.str "stop")).eqStr "stop" ∨ maxLoops - 1 ≤ state.loopCount then
        .ret .stopped
      else tryRetrieval m state code plan

omit [Text] [Floats F] in
/-- `run` of node 11, after its calls; `none` where it raised. -/
def recordCorrection (c : Correction F) (state : DecisionState F) : Option (DecisionState F) :=
  match c with
  | .maxLoops => some state
  | .notNeeded => some state
  | .raised => none
  | .stopped => some { state with loopCount := state.loopCount + 1 }
  | .retried _ _ => some { state.extend c.items with loopCount := state.loopCount + 1 }

/-! ### The phase -/

/-- The results of nodes 5 to 8. -/
structure Reads (F : Type) where
  sharepoint : SharepointRead F
  owncloud : List (Evidence F)
  email : EmailRead F
  odoo : OdooRead F

/-- Everything the retrieval phase awaits: the first reads, and what self-correction adds. -/
structure Gathered (F : Type) where
  reads : Reads F
  correction : Correction F

namespace Authorized

variable {mapping : ProjectMapping} (a : Authorized F mapping)

/-- The state after node 5. -/
def afterSharepoint (r : SharepointRead F) : DecisionState F := recordSharepoint a.entry r a.state

/-- The state after node 8. -/
def collected (reads : Reads F) : DecisionState F :=
  recordOdoo a.entry reads.odoo (recordEmail a.entry reads.email
    ((a.afterSharepoint reads.sharepoint).extend reads.owncloud))

/-- The state after node 10. -/
def prepared (reads : Reads F) : DecisionState F :=
  checkSufficiency (normalizeRun (a.collected reads))

/-- The state node 12 drafts from, if node 11 did not raise. -/
def ready? (g : Gathered F) : Option (DecisionState F) :=
  recordCorrection g.correction (a.prepared g.reads)

/-- What nodes 5 to 8 await. -/
def collect (settings : RetrievalSettings) : Retrieval F (Reads F) :=
  let perms := a.role.permissions
  (searchSharepoint a.entry perms a.state.query a.code).bind fun sharepoint =>
    let state := a.afterSharepoint sharepoint
    (listOwncloud a.entry perms a.code).bind fun owncloud =>
      let state := state.extend owncloud
      (searchMessages a.entry perms state a.code).bind fun email =>
        let state := recordEmail a.entry email state
        (readOdooFacts settings a.entry perms state a.code).bind fun odoo =>
          .ret ⟨sharepoint, owncloud, email, odoo⟩

/-- What nodes 5 to 11 await. -/
def gather (settings : RetrievalSettings) : Retrieval F (Gathered F) :=
  (a.collect settings).bind fun reads =>
    (selfCorrect a.entry (a.prepared reads) a.code).bind fun correction =>
      .ret ⟨reads, correction⟩

end Authorized

end DecisionCenter
