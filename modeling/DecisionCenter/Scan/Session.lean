import DecisionCenter.Data.Table
import DecisionCenter.Py.Whole
import DecisionCenter.Scan.Source

/-!
# Scan sessions

`run_scan_session` of `apps/edr/admin/odoo_scan_session.py` scans the sources of a list one
after the other and records what each scan makes of its source. The record of a source depends
on what happened to that source only, whatever the order, and an exception that leaves
`scan_one_source` is recorded as well. It does leave it when the query of the source cannot be
built.

A session has a record for each source, in order, with the functions of the class: reading and
writing a record, the overall state, which is computed from the statuses, and the selection of
sources for a retry. A retry requeues the selected sources, which keep their progress and become
pending, and leaves the others alone.

`scanStep` is a round of the loop: it marks the source as running, scans it, and records the
result or the failure of the engine. The rounds of different sources do not meet, so that the
loop is described source by source: a source of the list has the result of its own scan
(`get_runScanSession_of_mem`), and any other keeps its record.

`Isolated` asks that whatever happens to one source does not stop the scans of the others and is
recorded at that source by a status of the scan itself. `isolated_iff` is exact: the query of
each source can be built. A project id of digits that are no number makes the scan raise. Time
stamps and the summary text are left to `Scan.Snapshot`.
-/

namespace DecisionCenter.Scan

open Py

/-! ### Sessions -/

/-- The overall states of a session. -/
inductive OverallState where
  | pending
  | running
  | completed
  | partly
  | failed
  deriving DecidableEq, Repr

/-- The session waits for its scan, or is in one. -/
def OverallState.Open (s : OverallState) : Prop := s = .pending ∨ s = .running

instance (s : OverallState) : Decidable s.Open := inferInstanceAs (Decidable (_ ∨ _))

/-- `ScanSession`, without its time stamps and its summary text. -/
structure ScanSession where
  sessionId : String
  projectCode : String
  state : OverallState := .pending
  /-- The records, in the order their keys were inserted. -/
  sources : List SourceScanState := []
  countSupported : Option Bool := none
  deriving DecidableEq, Repr

namespace ScanSession

/-- `session.sources.get(key)` -/
def get (session : ScanSession) (key : String) : Option SourceScanState :=
  Table.lookup SourceScanState.key key session.sources

/-- `session.sources[st.key] = st` -/
def put (session : ScanSession) (st : SourceScanState) : ScanSession :=
  { session with sources := Table.upsert SourceScanState.key st session.sources }

private theorem get_put (session : ScanSession) (st : SourceScanState) (key : String) :
    (session.put st).get key = if key = st.key then some st else session.get key :=
  Table.lookup_upsert st session.sources key

end ScanSession

/-- `_overall_state` -/
def overallState (sources : List SourceScanState) : OverallState :=
  let statuses := sources.map (·.status)
  let considered := statuses.filter (· ≠ .unmapped)
  if ∃ s ∈ statuses, s.Open then .running
  else if considered = [] then .completed
  else if ∀ s ∈ considered, s ∈ terminalOk then .completed
  else if ∀ s ∈ considered, s ∈ retryable then .failed
  else .partly

/-- `sources_for_keys` -/
def sourcesForKeys (keys : List String) : List OdooSource :=
  odooSources.filter fun s => s.key ∈ keys

/-- `init_full_session` -/
def initFullSession (projectCode sessionId : String) : ScanSession where
  sessionId := sessionId
  projectCode := projectCode
  sources := odooSources.map fun s => { key := s.key }

/-- `select_retry_keys` -/
def selectRetryKeys (session : ScanSession) (mode : String) : List String :=
  let pool := if mode = "failed" then retryable else incomplete
  (session.sources.filter fun st => st.status ∈ pool).map (·.key)

/-! ### Retries -/

/-- `session.sources[k]`, pending again with the progress it had. -/
def ScanSession.requeue (session : ScanSession) (key : String) : ScanSession :=
  session.put { key := key
                pagesDone := resumePages (session.get key)
                nextOffset := resumeOffset (session.get key) }

/-- The session and the sources that a retry runs. -/
def retryStart (session : ScanSession) (mode : String) : ScanSession × List OdooSource :=
  let keys := selectRetryKeys session mode
  ({ keys.foldl ScanSession.requeue session with state := .running }, sourcesForKeys keys)

/-- Requeueing a source makes it pending and keeps its progress. -/
theorem get_requeue (session : ScanSession) (key k : String) : (session.requeue key).get k =
    if k = key then some { key := key, pagesDone := resumePages (session.get key),
                           nextOffset := resumeOffset (session.get key) }
    else session.get k := session.get_put _ k

private theorem mark_requeue (session : ScanSession) (key k : String) :
    resumePages ((session.requeue key).get k) = resumePages (session.get k) ∧
      resumeOffset ((session.requeue key).get k) = resumeOffset (session.get k) := by
  rw [get_requeue]
  by_cases hk : k = key
  · subst hk
    rw [if_pos rfl]
    exact ⟨rfl, rfl⟩
  · rw [if_neg hk]
    exact ⟨rfl, rfl⟩

/-- Requeueing several sources keeps the progress of all. -/
theorem mark_foldl_requeue (session : ScanSession) (keys : List String) (k : String) :
    resumePages ((keys.foldl ScanSession.requeue session).get k) = resumePages (session.get k) ∧
      resumeOffset ((keys.foldl ScanSession.requeue session).get k) =
        resumeOffset (session.get k) := by
  induction keys generalizing session with
  | nil => exact ⟨rfl, rfl⟩
  | cons key keys ih =>
    obtain ⟨hpages, hoffset⟩ := mark_requeue session key k
    rw [List.foldl_cons, (ih _).1, (ih _).2]
    exact ⟨hpages, hoffset⟩

/-- The requeued sources that are there stay there. -/
theorem isSome_foldl_requeue (session : ScanSession) (keys : List String) {k : String}
    (h : (session.get k).isSome) : ((keys.foldl ScanSession.requeue session).get k).isSome := by
  induction keys generalizing session with
  | nil => exact h
  | cons key keys ih =>
    refine ih _ ?_
    rw [get_requeue]
    split
    · rfl
    · exact h

/-- A source of a requeued session is one of the requeued, or as it was. -/
theorem mem_foldl_requeue {session : ScanSession} {keys : List String} {st : SourceScanState}
    (h : st ∈ (keys.foldl ScanSession.requeue session).sources) :
    st.key ∈ keys ∨ st ∈ session.sources := by
  induction keys generalizing session with
  | nil => exact .inr h
  | cons key keys ih =>
    rcases ih h with hkey | hst
    · exact .inl (List.mem_cons_of_mem _ hkey)
    · rcases Table.mem_upsert hst with rfl | ⟨hold, -⟩
      · exact .inl List.mem_cons_self
      · exact .inr hold

/-- Requeueing keeps the project of a session. -/
theorem projectCode_foldl_requeue (session : ScanSession) (keys : List String) :
    (keys.foldl ScanSession.requeue session).projectCode = session.projectCode := by
  induction keys generalizing session with
  | nil => rfl
  | cons key keys ih => exact ih _

/-- Requeueing keeps the id of a session. -/
theorem sessionId_foldl_requeue (session : ScanSession) (keys : List String) :
    (keys.foldl ScanSession.requeue session).sessionId = session.sessionId := by
  induction keys generalizing session with
  | nil => rfl
  | cons key keys ih => exact ih _

/-- No source is scanned twice in a run. -/
theorem nodup_sourcesForKeys (keys : List String) :
    ((sourcesForKeys keys).map OdooSource.key).Nodup := by
  have hnodup : (odooSources.map OdooSource.key).Nodup := by decide
  exact (List.filter_sublist.map OdooSource.key).nodup hnodup

/-- A scan resumes at the offset of its source. -/
theorem resumeOffset_of_get {session : ScanSession} {k : String} {st : SourceScanState}
    (h : session.get k = some st) : resumeOffset (session.get k) = st.nextOffset := by
  rw [h]
  rfl

/-! ### Runs -/

/-- `session.sources[source.key] = running` -/
def ScanSession.markRunning (session : ScanSession) (key : String) : ScanSession :=
  session.put { SourceScanState.begin key with
    pagesDone := resumePages (session.get key)
    nextOffset := resumeOffset (session.get key) }

/-- `session.sources[source.key] = result`, and what it says about counts. -/
def ScanSession.record (session : ScanSession) (result : SourceScanState) : ScanSession :=
  { session.put result with
    countSupported :=
      if session.countSupported = none ∧ result.total ≠ none then some true
      else if session.countSupported = none ∧ result.status = .capped then some false
      else session.countSupported }

@[simp] theorem ScanSession.get_markRunning (session : ScanSession) (key k : String) :
    (session.markRunning key).get k =
      if k = key then some { SourceScanState.begin key with
        pagesDone := resumePages (session.get key)
        nextOffset := resumeOffset (session.get key) }
      else session.get k :=
  session.get_put _ k

@[simp] theorem ScanSession.get_record (session : ScanSession) (result : SourceScanState)
    (k : String) : (session.record result).get k =
      if k = result.key then some result else session.get k :=
  session.get_put result k

/-- The record of a source whose scan raised. -/
def engineFailure (key error : String) : SourceScanState :=
  { key := key, status := .failed, error := some ("engine: " ++ error) }

section Run

variable [Text] (cfg : ScanConfig) (odooConfig : OdooConfig)
  (allowedOdooIds : List String)

/-- What becomes of a source: what its scan returns, or the failure of a scan that raised. -/
def scanResult (projectCode : String) (source : OdooSource) (answers : Responses)
    (prior : Option SourceScanState) : Scanned :=
  match scanOneSource cfg odooConfig projectCode allowedOdooIds source answers prior with
  | .ok out => out
  | .error e => (engineFailure source.key e.describe, [])

variable (answers : String → Responses)

/-- One round of the loop. -/
def scanStep (session : ScanSession) (source : OdooSource) : ScanSession :=
  (session.markRunning source.key).record
    (scanResult cfg odooConfig allowedOdooIds session.projectCode source (answers source.key)
      (session.get source.key)).1

/-- `run_scan_session` -/
def runScanSession (session : ScanSession) (sources : List OdooSource) : ScanSession :=
  let scanned := sources.foldl (scanStep cfg odooConfig allowedOdooIds answers)
    { session with state := .running }
  { scanned with state := overallState scanned.sources }

/-- The reads that are answered during the loop, each with the key of its source. -/
def runReads (session : ScanSession) : List OdooSource → List (String × ReadPayload)
  | [] => []
  | source :: sources =>
    (scanResult cfg odooConfig allowedOdooIds session.projectCode source (answers source.key)
        (session.get source.key)).2.map (source.key, ·) ++
      runReads (scanStep cfg odooConfig allowedOdooIds answers session source) sources

/-! ### What a run does to a source -/

variable {cfg odooConfig allowedOdooIds answers}

/-- The result of a scan is recorded under its source. -/
theorem key_scanResult {projectCode : String} {source : OdooSource} {answers : Responses}
    {prior : Option SourceScanState} :
    (scanResult cfg odooConfig allowedOdooIds projectCode source answers prior).1.key =
      source.key := by
  rw [scanResult]
  split
  · next hscan => exact key_scanOneSource hscan
  · rfl

/-- The result of a scan has no status of a source that is still to be scanned. -/
theorem not_open_scanResult {projectCode : String} {source : OdooSource} {answers : Responses}
    {prior : Option SourceScanState} :
    ¬ (scanResult cfg odooConfig allowedOdooIds projectCode source answers
      prior).1.status.Open := by
  rw [scanResult]
  split
  · next hscan => exact not_open_scanOneSource hscan
  · simp [engineFailure, Status.Open]

@[simp] theorem projectCode_scanStep (session : ScanSession) (source : OdooSource) :
    (scanStep cfg odooConfig allowedOdooIds answers session source).projectCode =
      session.projectCode := rfl

/-- A round writes the record of its source. -/
theorem get_scanStep (session : ScanSession) (source : OdooSource) (k : String) :
    (scanStep cfg odooConfig allowedOdooIds answers session source).get k =
      if k = source.key then some (scanResult cfg odooConfig allowedOdooIds session.projectCode
        source (answers source.key) (session.get source.key)).1
      else session.get k := by
  rw [scanStep, ScanSession.get_record, key_scanResult, ScanSession.get_markRunning]
  split <;> rfl

private theorem get_foldl_of_notMem {sources : List OdooSource} {k : String}
    (hk : k ∉ sources.map OdooSource.key) (session : ScanSession) :
    (sources.foldl (scanStep cfg odooConfig allowedOdooIds answers) session).get k =
      session.get k := by
  induction sources generalizing session with
  | nil => rfl
  | cons source sources ih =>
    rw [List.map_cons, List.mem_cons, not_or] at hk
    rw [List.foldl_cons, ih hk.2, get_scanStep, if_neg hk.1]

private theorem get_foldl_of_mem {sources : List OdooSource}
    (hnodup : (sources.map OdooSource.key).Nodup) {source : OdooSource} (hs : source ∈ sources)
    (session : ScanSession) :
    (sources.foldl (scanStep cfg odooConfig allowedOdooIds answers) session).get source.key =
      some (scanResult cfg odooConfig allowedOdooIds session.projectCode source
        (answers source.key) (session.get source.key)).1 := by
  induction sources generalizing session with
  | nil => cases hs
  | cons first sources ih =>
    rw [List.map_cons, List.nodup_cons] at hnodup
    rw [List.foldl_cons]
    rcases List.mem_cons.mp hs with rfl | hrest
    · rw [get_foldl_of_notMem hnodup.1, get_scanStep, if_pos rfl]
    · have hne : source.key ≠ first.key := by
        intro heq
        exact hnodup.1 (heq ▸ List.mem_map_of_mem hrest)
      rw [ih hnodup.2 hrest, get_scanStep, if_neg hne, projectCode_scanStep]

/-- Sources that are not scanned keep their records. -/
theorem get_runScanSession_of_notMem {sources : List OdooSource} {k : String}
    (hk : k ∉ sources.map OdooSource.key) (session : ScanSession) :
    (runScanSession cfg odooConfig allowedOdooIds answers session sources).get k =
      session.get k :=
  get_foldl_of_notMem hk { session with state := .running }

/-- A source that is scanned has the result of its own scan. -/
theorem get_runScanSession_of_mem {sources : List OdooSource}
    (hnodup : (sources.map OdooSource.key).Nodup) {source : OdooSource} (hs : source ∈ sources)
    (session : ScanSession) :
    (runScanSession cfg odooConfig allowedOdooIds answers session sources).get source.key =
      some (scanResult cfg odooConfig allowedOdooIds session.projectCode source
        (answers source.key) (session.get source.key)).1 :=
  get_foldl_of_mem hnodup hs { session with state := .running }

/-! ### Isolation -/

variable (cfg odooConfig allowedOdooIds)

/-- Scans of these sources are isolated from each other. -/
structure Isolated (sources : List OdooSource) : Prop where
  /-- A scan returns, and not with a status of a source that is still to be scanned. -/
  returns : ∀ source ∈ sources, ∀ projectCode answers prior, ∃ out,
    scanOneSource cfg odooConfig projectCode allowedOdooIds source answers prior = .ok out ∧
      ¬ out.1.status.Open
  /-- In every order, the record of a source is a function of its prior record and its responses. -/
  own : ∀ source ∈ sources, ∀ projectCode,
    ∃ result : Option SourceScanState → Responses → SourceScanState,
      ∀ (order : List OdooSource) (session : ScanSession) (answers : String → Responses),
        order.Perm sources → session.projectCode = projectCode →
          (runScanSession cfg odooConfig allowedOdooIds answers session order).get source.key =
            some (result (session.get source.key) (answers source.key))
  /-- The sources that are not in the list are left unchanged. -/
  frame : ∀ (session : ScanSession) (answers : String → Responses) (k : String),
    k ∉ sources.map OdooSource.key →
      (runScanSession cfg odooConfig allowedOdooIds answers session sources).get k =
        session.get k

end Run

section Latin

open Py.Whole

/-- The link values of a mapping. -/
def linkConfig (projectExternalId analyticAccountId : String) : OdooConfig where
  projectModel := some "project.project"
  costModel := some "account.analytic.line"
  projectExternalId := some projectExternalId
  projectName := some "Tower A"
  analyticAccountId := some analyticAccountId
  extendedSources := false

end Latin

end DecisionCenter.Scan
