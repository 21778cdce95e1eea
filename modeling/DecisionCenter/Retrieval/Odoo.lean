import DecisionCenter.Retrieval.Sharepoint

/-!
# Odoo retrieval

Node 8 (`apps/edr/graph/node_08_odoo.py`): the project record, the cost lines of the verified
analytic account, and the registered sources where the extended retrieval is on. All reads share
one time budget. The mandatory ones are tried again once after an exception that is no timeout.
A failed read of the project record ends the node; a failed read of the cost lines, or of a
registered source, does not.

Time is what the clock of the world answers, in milliseconds. `readOdooTimed` asks how much is
left and gives the read no more than that, or fails at once; `readOdooWithRetry` tries again if
there is time for another attempt and the pause before it. It is a recursion on the number of
retries, of which the source has one.

Queries are built from the mapping, and building one may raise, when an id that has to be a
number is none. For the project record this is a failure of its read. For the cost lines it ends
the node with the project record in the pack (`OdooRead.interrupted`). For the registered
sources it ends the extended retrieval, as all their queries are built before the first is read.

`OdooRead` has the ways in which the node ends, and `recordOdoo` makes of them the entry of the
ledger and the flag for the finance data. Items of the extended sources are tagged with the
source they come from (`tagItem`), which later nodes read.
-/

namespace DecisionCenter

open Async Py

variable {F : Type}

/-- The settings node 8 reads (`apps/edr/config.py`). -/
structure RetrievalSettings where
  odooExtendedSourcesEnabled : Bool := false
  odooExtendedIncludeMedium : Bool := true
  deriving DecidableEq, Repr

/-! ### Timed reads -/

/-- `ODOO_PROJECT_IDENTITY_TIMEOUT_S` -/
def projectTimeoutMs : ℤ := 25000

/-- `ODOO_ACTUAL_COST_TIMEOUT_S` -/
def costTimeoutMs : ℤ := 20000

/-- `ODOO_EXTENDED_SOURCE_TIMEOUT_S` -/
def extendedTimeoutMs : ℤ := 5000

/-- `ODOO_RETRY_BACKOFF_S` and half a second. -/
def retryReserveMs : ℤ := 1000

/-- `ODOO_MAX_RETRIES` -/
def odooMaxRetries : ℕ := 1

/-- `_read_odoo_timed` under `_remaining_timeout`. -/
def readOdooTimed (q : OdooQuery) (capMs : ℤ) : Retrieval F (ReadResult F) :=
  Retrieval.remaining.bind fun left =>
    if left ≤ 0 then .ret (.error .timeout)
    else Retrieval.read (.odoo q) (some (min capMs left))

/-- `_read_odoo_with_retry`, with so many retries left. -/
def readOdooWithRetry (q : OdooQuery) (capMs : ℤ) : ℕ → Retrieval F (ReadResult F)
  | 0 => readOdooTimed q capMs
  | retries + 1 => (readOdooTimed q capMs).bind fun
    | .ok items => .ret (.ok items)
    | .error .timeout => .ret (.error .timeout)
    | .error (.error text) => Retrieval.remaining.bind fun left =>
      -- there must be time for another attempt
      if left < capMs + retryReserveMs then .ret (.error (.error text))
      else readOdooWithRetry q capMs retries

/-! ### Extended sources -/

/-- `meta[key] = value` -/
def setMeta (metadata : List (String × MetaValue F)) (key : String) (value : MetaValue F) :
    List (String × MetaValue F) :=
  if (metadata.lookup key).isSome then
    metadata.map fun kv => if kv.1 = key then (key, value) else kv
  else metadata ++ [(key, value)]

/-- An item of a registered source, tagged with it. -/
def tagItem (s : OdooSource) (e : Evidence F) : Evidence F :=
  { e with
    metadata := setMeta (setMeta (setMeta e.metadata "odoo_source_key" (.scalar (.str s.key)))
      "odoo_category" (.scalar (.str s.category)))
      "odoo_confidence" (.scalar (.str s.confidence.toStr))
    tags := if s.category ∈ e.tags then e.tags else e.tags ++ [s.category] }

/-- The loop of `_retrieve_extended_sources`: one source that fails does not drop the others, but
the loop ends with the budget. -/
def readSpecs : List SourceSpec → List (Evidence F) → Retrieval F (List (Evidence F))
  | [], acc => .ret acc
  | (_, none) :: specs, acc => readSpecs specs acc
  | (s, some q) :: specs, acc => (readOdooTimed q extendedTimeoutMs).bind fun
    | .ok items => readSpecs specs (acc ++ items.map (tagItem s))
    | .error .timeout => Retrieval.remaining.bind fun left =>
      if left ≤ 0 then .ret acc else readSpecs specs acc
    | .error (.error _) => readSpecs specs acc

/-- `_retrieve_extended_sources`, in the handler of node 8: all queries are built before the first
read, and an exception of a builder ends it. -/
def readExtendedSources [Text] (odoo : OdooConfig) (code : String) (allowedOdooIds : List String)
    (sources : List OdooSource) (acc : List (Evidence F)) : Retrieval F (List (Evidence F)) :=
  match buildAllSourceQueries odoo code allowedOdooIds sources with
  | .error _ => .ret acc
  | .ok specs => readSpecs specs acc

/-! ### The node -/

/-- How the read of the cost lines ends. -/
inductive CostRead (F : Type) where
  /-- There is no verified analytic account. -/
  | notConfigured
  | failed (f : ReadFailure)
  | found (items : List (Evidence F))

/-- The cost lines read. -/
def CostRead.items : CostRead F → List (Evidence F)
  | .found items => items
  | _ => []

/-- How the reads of node 8 end. -/
inductive OdooRead (F : Type) where
  | denied
  /-- The project record could not be asked for, or not be read. -/
  | failed (f : ReadFailure)
  /-- The query of the cost lines could not be built, with the project record in the pack. -/
  | interrupted (project : List (Evidence F)) (text : String)
  | found (project : List (Evidence F)) (cost : CostRead F) (extended : List (Evidence F))

/-- Read the cost lines, if there is a query. -/
def readCostLines (query : Option OdooQuery) : Retrieval F (CostRead F) :=
  match query with
  | none => .ret .notConfigured
  | some q => (readOdooWithRetry q costTimeoutMs odooMaxRetries).bind fun
    | .ok items => .ret (.found items)
    | .error f => .ret (.failed f)

section Node

variable [Text]

/-- What node 8 awaits once the project record is read. -/
def readFurther (settings : RetrievalSettings) (m : ProjectEntry) (state : DecisionState F)
    (code : String) (project : List (Evidence F)) : Retrieval F (OdooRead F) :=
  match costQuery m.odoo code state.allowedOdooIds with
  | .error exc => .ret (.interrupted project exc.text)
  | .ok query => (readCostLines query).bind fun cost =>
    if settings.odooExtendedSourcesEnabled || m.odoo.extendedSources then
      (readExtendedSources m.odoo code state.allowedOdooIds
        (activeSources settings.odooExtendedIncludeMedium) []).bind fun extended =>
          .ret (.found project cost extended)
    else .ret (.found project cost [])

/-- What node 8 awaits. -/
def readOdooFacts (settings : RetrievalSettings) (m : ProjectEntry) (perms : RolePermissions)
    (state : DecisionState F) (code : String) : Retrieval F (OdooRead F) :=
  if !perms.canAccessOdooBudget then .ret .denied
  else match projectQuery m.odoo code state.allowedOdooIds with
    | .error exc => .ret (.failed (.error exc.text))
    | .ok query => (readOdooWithRetry query projectTimeoutMs odooMaxRetries).bind fun
      | .error f => .ret (.failed f)
      | .ok project => readFurther settings m state code project

end Node

/-- The items node 8 adds to the pack. -/
def OdooRead.items : OdooRead F → List (Evidence F)
  | .interrupted project _ => project
  | .found project cost extended => project ++ cost.items ++ extended
  | _ => []

/-- `outputs["odoo_financial_available"] = …` -/
def setFinancialAvailable (available : Bool) (state : DecisionState F) : DecisionState F :=
  { state with outputs := { state.outputs with odooFinancialAvailable := available } }

/-- `run` of node 8, after its reads. -/
def recordOdoo (m : ProjectEntry) (read : OdooRead F) (state : DecisionState F) :
    DecisionState F :=
  let enabled := m.enables .odoo
  match read with
  | .denied => state.cover .odoo
      ⟨enabled, false, .rbacDenied, 0, "Role not permitted to access Odoo budget data."⟩
  | .failed .timeout => (setFinancialAvailable false state).cover .odoo
      ⟨enabled, true, .timeout, 0, "Odoo retrieval exceeded 50s budget."⟩
  | .failed (.error text) => state.cover .odoo
      ⟨enabled, true, .error, 0, "Odoo connector error: " ++ text⟩
  | .interrupted project text => (state.extend project).cover .odoo
      ⟨enabled, true, .error, project.length, "Odoo connector error: " ++ text⟩
  | .found project cost extended =>
    let items := (OdooRead.found project cost extended).items
    (setFinancialAvailable (!cost.items.isEmpty) (state.extend items)).cover .odoo
      ⟨enabled, true, if items.isEmpty then .zeroNoMatch else .ok, items.length,
        if items.isEmpty then "Odoo returned no records for the mapped project id." else ""⟩

/-! ### What the reads deliver -/

private theorem readOdooTimed_labelled (q : OdooQuery) (capMs : ℤ) :
    (readOdooTimed q capMs : Retrieval F (ReadResult F)).Ensures Call.Labelled fun x =>
      ∀ items, x = .ok items → AllFrom .odoo items := by
  refine Retrieval.ensures_remaining.bind fun left _ => ?_
  split
  · exact nofun
  · exact Retrieval.ensures_read _ _

private theorem readOdooWithRetry_labelled (q : OdooQuery) (capMs : ℤ) (retries : ℕ) :
    (readOdooWithRetry q capMs retries : Retrieval F (ReadResult F)).Ensures Call.Labelled
      fun x => ∀ items, x = .ok items → AllFrom .odoo items := by
  induction retries with
  | zero => exact readOdooTimed_labelled q capMs
  | succ retries ih =>
    refine (readOdooTimed_labelled q capMs).bind fun x hx => ?_
    match x, hx with
    | .ok items, hx => exact hx
    | .error .timeout, _ => exact nofun
    | .error (.error text), _ =>
      refine Retrieval.ensures_remaining.bind fun left _ => ?_
      split
      · exact nofun
      · exact ih

private theorem allFrom_map_tagItem (s : OdooSource) {items : List (Evidence F)}
    (h : AllFrom .odoo items) : AllFrom .odoo (items.map (tagItem s)) := by
  intro e he
  obtain ⟨e', he', rfl⟩ := List.mem_map.mp he
  exact h e' he'

/-- The registered sources deliver Odoo items. -/
private theorem readSpecs_labelled (specs : List SourceSpec) {acc : List (Evidence F)}
    (hacc : AllFrom .odoo acc) :
    (readSpecs specs acc).Ensures Call.Labelled fun items => AllFrom .odoo items := by
  induction specs generalizing acc with
  | nil => exact hacc
  | cons spec specs ih =>
    obtain ⟨s, query⟩ := spec
    cases query with
    | none => exact ih hacc
    | some q =>
      rw [readSpecs]
      refine (readOdooTimed_labelled _ _).bind fun x hx => ?_
      match x, hx with
      | .ok items, hx => exact ih (hacc.append (allFrom_map_tagItem s (hx items rfl)))
      | .error .timeout, _ =>
        refine Retrieval.ensures_remaining.bind fun left _ => ?_
        split
        · exact hacc
        · exact ih hacc
      | .error (.error _), _ => exact ih hacc

private theorem readExtendedSources_labelled [Text] (odoo : OdooConfig) (code : String)
    (allowedOdooIds : List String) (sources : List OdooSource) {acc : List (Evidence F)}
    (hacc : AllFrom .odoo acc) :
    (readExtendedSources odoo code allowedOdooIds sources acc).Ensures Call.Labelled
      fun items => AllFrom .odoo items := by
  rw [readExtendedSources]
  split
  · exact hacc
  · exact readSpecs_labelled _ hacc

private theorem readCostLines_labelled (query : Option OdooQuery) :
    (readCostLines query : Retrieval F (CostRead F)).Ensures Call.Labelled fun cost =>
      AllFrom .odoo cost.items := by
  cases query with
  | none => exact nofun
  | some q =>
    refine (readOdooWithRetry_labelled _ _ _).bind fun x hx => ?_
    cases x with
    | ok items => exact hx items rfl
    | error f => exact nofun

variable [Text]

private theorem readFurther_labelled (settings : RetrievalSettings) (m : ProjectEntry)
    (state : DecisionState F) (code : String) {project : List (Evidence F)}
    (hproject : AllFrom .odoo project) :
    (readFurther settings m state code project).Ensures Call.Labelled fun r =>
      AllFrom .odoo r.items := by
  rw [readFurther]
  split
  · exact hproject
  · refine (readCostLines_labelled _).bind fun cost hcost => ?_
    have hboth : AllFrom .odoo (project ++ cost.items) := hproject.append hcost
    split
    · refine (readExtendedSources_labelled _ _ _ _ AllFrom.nil).bind fun extended hextended => ?_
      exact hboth.append hextended
    · exact hboth.append AllFrom.nil

/-- Node 8 adds Odoo items only. -/
theorem readOdooFacts_labelled (settings : RetrievalSettings) (m : ProjectEntry)
    (perms : RolePermissions) (state : DecisionState F) (code : String) :
    (readOdooFacts settings m perms state code).Ensures Call.Labelled fun r =>
      AllFrom .odoo r.items := by
  rw [readOdooFacts]
  split
  · exact nofun
  split
  · exact nofun
  · refine (readOdooWithRetry_labelled _ _ _).bind fun x hx => ?_
    cases x with
    | error f => exact nofun
    | ok project => exact readFurther_labelled settings m state code (hx project rfl)

end DecisionCenter
