import DecisionCenter.Graph.Intent
import DecisionCenter.Rbac.Roles
import DecisionCenter.Retrieval.Calls

/-!
# SharePoint retrieval

Node 5 (`apps/edr/graph/node_05_sharepoint.py`): search terms are derived from the query and the
mapping and tried in order until one finds documents. What the node awaits and what it then
records are kept apart, here as for the other retrieval nodes: `searchSharepoint` is the task,
and `recordSharepoint` the change of the state.

The terms are the words of the query without the stopwords and the names and codes of the
mapping, or for a financial query those of the financial vocabulary, without repetitions and in
the order in which the source adds them (`deriveSearchTerms`). Whether a query is financial is
what its report type says, and some of the first terms are tried.

The loop over the terms is a recursion on the list. It remembers what was tried and how many
items came back, and stops at the first term that leaves items behind the screening, by which a
financial query keeps financial evidence alone. A failed read ends the node, and what was found
before it is nothing, as the loop would have stopped.

`SharepointRead` has the ways in which it ends: the role may not read documents, a failure, or
what was found. The record has one entry of the ledger with the notes of the source, and that
the items are documents follows from the labels (`searchSharepoint_labelled`).
-/

namespace DecisionCenter

open Async Py

variable {F : Type}

/-- `coverage.record(state, …)` -/
def DecisionState.cover (state : DecisionState F) (source : ProjectSource)
    (entry : CoverageEntry) : DecisionState F :=
  { state with
    outputs := { state.outputs with
      sourceCoverage := state.outputs.sourceCoverage.record source entry } }

/-- `state.evidence.extend(…)` -/
def DecisionState.extend (state : DecisionState F) (items : List (Evidence F)) :
    DecisionState F :=
  { state with evidence := state.evidence ++ items }

section Record

variable (state : DecisionState F) (source : ProjectSource) (entry : CoverageEntry)

end Record

variable [Text]

/-! ### Search terms -/

/-- `_STOPWORDS` -/
def stopwords : List String :=
  ["give", "me", "a", "an", "the", "small", "summary", "sumary", "for", "this", "that",
    "project", "please", "report", "of", "on", "about", "what", "is", "are", "show", "tell",
    "get", "provide", "generate", "status", "overview", "brief", "and", "to", "in", "with",
    "kindly", "do", "you", "can"]

/-- `_query_keywords` -/
def queryKeywords (query : String) : String :=
  join " " ((Text.findAll r"[A-Za-z0-9]+" (lower query)).filter fun t =>
    decide (t ∉ stopwords) && decide (2 < t.length))

/-- `FINANCIAL_SEARCH_TERMS` -/
def financialTerms : List String :=
  ["BOQ", "bill of quantities", "payment certificate", "invoice", "purchase order", "LPO",
    "cost report", "variation", "budget", "procurement", "payment", "مصاريف", "تكاليف",
    "ميزانية", "فاتورة", "فواتير", "مستخلص", "دفعة", "مدفوعات", "مشتريات"]

/-- Add a term that is not there yet. -/
def addTerm (terms : List String) (term : String) : List String :=
  if term ≠ "" ∧ term ∉ terms then terms ++ [term] else terms

/-- `financial_search_terms` -/
def financialSearchTerms (query : String) : List String :=
  ((if query ≠ "" ∧ searches financialEvidenceRe query then [strip query] else [])
    ++ financialTerms).foldl addTerm []

/-- `financial_search_query` -/
def financialSearchQuery (query : String) : String :=
  join " " ((financialSearchTerms query).take 10)

/-- `classify_report_type(query) == "financial"` -/
def isFinancialQuery (query : String) : Bool := decide (classifyReportType query = .financial)

/-- `derive_search_terms` -/
def deriveSearchTerms (query : String) (m : ProjectEntry) (code : String) : List String :=
  if isFinancialQuery query then
    let terms := ((financialSearchTerms query).map strip).foldl addTerm []
    if terms = [] then ["BOQ"] else terms
  else
    let name := if m.projectName ≠ "" then m.projectName else m.sharepointProjectName
    let terms := ((queryKeywords query :: name :: m.sharepointAliases ++ [code]).map strip).foldl
      addTerm []
    if terms = [] then [query] else terms

/-! ### The search -/

variable [Floats F]

/-- The items of a result that a report of the query's type may use. -/
def screenEvidence (query : String) (items : List (Evidence F)) : List (Evidence F) :=
  if isFinancialQuery query then
    let kept := evidenceIds (filterFinancialEvidence items query)
    items.filter fun e => decide (e.evidenceId ∈ kept)
  else items

/-- What a search leaves: the items of the last term, the terms tried and the counts. -/
structure SharepointFound (F : Type) where
  evidence : List (Evidence F) := []
  tried : List String := []
  rawCount : ℕ := 0
  filteredCount : ℕ := 0

/-- How the search of node 5 ends. -/
inductive SharepointRead (F : Type) where
  | denied
  | failed (f : ReadFailure)
  | found (r : SharepointFound F)

/-- Search for the terms in order, until one finds documents. -/
def searchTerms (m : ProjectEntry) (query code : String) :
    List String → SharepointFound F → Retrieval F (SharepointRead F)
  | [], acc => .ret (.found acc)
  | term :: terms, acc =>
    (Retrieval.read (.sharepoint ⟨.str term, code, m.siteId, m.driveId⟩)).bind fun
      | .error f => .ret (.failed f)
      | .ok raw =>
        let items := screenEvidence query raw
        let acc : SharepointFound F :=
          { evidence := items
            tried := acc.tried ++ [term]
            rawCount := acc.rawCount + raw.length
            filteredCount := acc.filteredCount + if isFinancialQuery query then
              (filterFinancialEvidence raw query).length else 0 }
        if items.isEmpty then searchTerms m query code terms acc else .ret (.found acc)

/-- What node 5 awaits. -/
def searchSharepoint (m : ProjectEntry) (perms : RolePermissions) (query code : String) :
    Retrieval F (SharepointRead F) :=
  if perms.canAccessSharepoint then
    searchTerms m query code
      ((deriveSearchTerms query m code).take (if isFinancialQuery query then 6 else 3)) {}
  else .ret .denied

/-- Why a search found nothing. -/
def noDocuments (query : String) (r : SharepointFound F) : String :=
  if isFinancialQuery query ∧ r.rawCount ≠ 0 then
    "SharePoint returned documents, but none matched the financial evidence policy after " ++
      "filtering (raw=" ++ toString r.rawCount ++ ", kept=" ++ toString r.filteredCount ++ ")."
  else "No SharePoint documents matched terms tried: " ++
    (Value.list (r.tried.map .str) : Value F).toStr ++ "."

/-- `run` of node 5, after its search. -/
def recordSharepoint (m : ProjectEntry) (read : SharepointRead F) (state : DecisionState F) :
    DecisionState F :=
  let enabled := m.enables .sharepoint
  match read with
  | .denied => state.cover .sharepoint
      ⟨enabled, false, .rbacDenied, 0, "Role not permitted to access SharePoint."⟩
  | .failed f => state.cover .sharepoint
      ⟨enabled, true, .error, 0, "SharePoint connector error: " ++ f.toStr⟩
  | .found r => (state.extend r.evidence).cover .sharepoint
      ⟨enabled, true, if r.evidence.isEmpty then .zeroNoMatch else .ok, r.evidence.length,
        if r.evidence.isEmpty then noDocuments state.query r else ""⟩

/-! ### What the search delivers -/

/-- The items node 5 adds to the pack. -/
def SharepointRead.items : SharepointRead F → List (Evidence F)
  | .found r => r.evidence
  | _ => []

/-- Screening adds nothing. -/
theorem screenEvidence_subset (query : String) (items : List (Evidence F)) :
    screenEvidence query items ⊆ items := by
  unfold screenEvidence
  split
  · exact fun _ h => List.mem_of_mem_filter h
  · exact fun _ h => h

private theorem searchTerms_labelled (m : ProjectEntry) (query code : String) (terms : List String)
    {acc : SharepointFound F} (hacc : AllFrom .sharepoint acc.evidence) :
    (searchTerms m query code terms acc).Ensures Call.Labelled fun r =>
      AllFrom .sharepoint r.items := by
  induction terms generalizing acc with
  | nil => exact hacc
  | cons term terms ih =>
    refine (Retrieval.ensures_read _ _).bind fun x hx => ?_
    cases x with
    | error f => exact nofun
    | ok raw =>
      have hitems : AllFrom .sharepoint (screenEvidence query raw) :=
        (hx raw rfl).subset (screenEvidence_subset query raw)
      dsimp only
      split
      · exact ih hitems
      · exact hitems

/-- Node 5 adds SharePoint items only. -/
theorem searchSharepoint_labelled (m : ProjectEntry) (perms : RolePermissions)
    (query code : String) :
    (searchSharepoint m perms query code : Retrieval F (SharepointRead F)).Ensures Call.Labelled
      fun r => AllFrom .sharepoint r.items := by
  rw [searchSharepoint]
  split
  · exact searchTerms_labelled m query code _ nofun
  · exact nofun

end DecisionCenter
