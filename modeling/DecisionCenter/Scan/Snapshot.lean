import Mathlib.Algebra.GroupWithZero.Nat
import DecisionCenter.Data.Tally
import DecisionCenter.Py.Json
import DecisionCenter.Scan.Session

/-!
# Snapshots of scan sessions

`snapshot` and `from_snapshot` of `apps/edr/admin/odoo_scan_session.py`, on sessions with all
they hold: time stamps, durations and the summary as well. A session is a dictionary of records,
so that no key occurs twice, and then reading its snapshot gives back the session. The counters
of its progress start with one for every status, and every record adds to one of them.

The snapshot is JSON, and reading it uses the defaults of the source for what is missing, or is
of another kind. For what was written none of them is used: a field that is written is read back
(the section on reading fields), and so is a record (`fromDict`). The loop over the sources
writes into a dictionary, which keeps the order of new keys, and here the keys are different
already (`readSources_items`).

The progress has the number of sources, the counters by status, and the sums of rows and pages;
every source has one status, so that the counters add up to the number of sources
(`ProgressSums`).

The sessions in question are those that runs and retries make, with any answers and any clock:
`Reachable` is inductive over the steps of a run, so that a session may be read in the middle of
one. Without the time stamps a run of these sessions is a run of `Scan.Session` (`erase_run`).
`snapshot_roundTrips` has the two halves of the property.
-/

namespace DecisionCenter.Scan

open Py

variable {F α : Type}

/-! ### Reading fields -/

namespace Field

/-- The value is a string. -/
def str : Value F → Option String
  | .str s => some s
  | _ => none

def bool : Value F → Option Bool
  | .bool b => some b
  | _ => none

def int : Value F → Option ℤ
  | .int i => some i
  | _ => none

def nat : Value F → Option ℕ
  | .int i => i.toNat?
  | _ => none

/-- `None`, or a value that `read` reads. -/
def optional (read : Value F → Option α) : Value F → Option (Option α)
  | .null => some none
  | v => (read v).map some

/-- The value an optional field has in a dictionary. -/
def write (value : α → Value F) : Option α → Value F
  | none => .null
  | some x => value x

/-- `d.get(name, default)`, where the value is of the type of the field. -/
def get (d : Dict F) (name : String) (default : α) (read : Value F → Option α) : Option α :=
  match d.get? name with
  | some v => read v
  | none => some default

@[simp] theorem str_str (s : String) : str (.str s : Value F) = some s := rfl

@[simp] theorem bool_bool (b : Bool) : bool (.bool b : Value F) = some b := rfl

@[simp] theorem nat_int (n : ℕ) : nat (.int n : Value F) = some n := rfl

@[simp] theorem optional_str (o : Option String) :
    optional str (write (F := F) .str o) = some o := by
  cases o <;> rfl

@[simp] theorem optional_bool (o : Option Bool) :
    optional bool (write (F := F) .bool o) = some o := by
  cases o <;> rfl

@[simp] theorem optional_int (o : Option ℤ) : optional int (write (F := F) .int o) = some o := by
  cases o <;> rfl

/-- A field that is there and can be read is read. -/
theorem get_of_get? {d : Dict F} {name : String} {default x : α} {read : Value F → Option α}
    {v : Value F} (h : d.get? name = some v) (hread : read v = some x) :
    get d name default read = some x := by
  rw [get, h]
  exact hread

end Field

/-! ### Records -/

/-- `SourceScanState`, with its duration and its time stamp. -/
structure SourceRecord extends SourceScanState where
  durationMs : Option ℤ := none
  lastScannedAt : Option String := none
  deriving DecidableEq, Repr

/-- The statuses that `progress` counts, in its order. -/
def statuses : List Status :=
  [.pending, .running, .completed, .partly, .capped, .empty, .failed, .timeout, .unmapped]

/-- The status with the text. -/
def Status.read (v : Value F) : Option Status := do
  let s ← Field.str v
  statuses.find? fun st => decide (st.toStr = s)

@[simp] theorem Status.read_toStr (st : Status) :
    Status.read (.str st.toStr : Value F) = some st := by
  cases st <;> rfl

private theorem Status.toStr_inj {st st' : Status} (h : st.toStr = st'.toStr) : st = st' := by
  have hread := congrArg (fun s => Status.read (.str s : Value ℤ)) h
  simpa using hread

namespace SourceRecord

/-- `to_dict` -/
def toDict (r : SourceRecord) : Dict F :=
  [("key", .str r.key), ("status", .str r.status.toStr), ("count", Field.write .int r.count),
    ("total", Field.write .int r.total), ("capped", .bool r.capped),
    ("complete", .bool r.complete), ("error", Field.write .str r.error),
    ("duration_ms", Field.write .int r.durationMs),
    ("last_scanned_at", Field.write .str r.lastScannedAt), ("pages_done", .int r.pagesDone),
    ("next_offset", .int r.nextOffset)]

/-- `from_dict`, of a dictionary whose values are of the types of the fields. -/
def fromDict (d : Dict F) : Option SourceRecord := do
  let key ← (d.get? "key").bind Field.str
  let status ← Field.get d "status" .pending Status.read
  let count ← Field.get d "count" none (Field.optional Field.int)
  let total ← Field.get d "total" none (Field.optional Field.int)
  let capped ← Field.get d "capped" false Field.bool
  let complete ← Field.get d "complete" false Field.bool
  let error ← Field.get d "error" none (Field.optional Field.str)
  let durationMs ← Field.get d "duration_ms" none (Field.optional Field.int)
  let lastScannedAt ← Field.get d "last_scanned_at" none (Field.optional Field.str)
  let pagesDone ← Field.get d "pages_done" 0 Field.nat
  let nextOffset ← Field.get d "next_offset" 0 Field.nat
  some { key, status, count, total, capped, complete, error, pagesDone, nextOffset, durationMs,
         lastScannedAt }

private theorem fromDict_toDict (r : SourceRecord) : fromDict (F := F) r.toDict = some r := by
  simp [fromDict, toDict, Field.get, Dict.get?]

end SourceRecord

/-! ### Sessions -/

/-- `ScanSession`, with its time stamps and its summary. -/
structure SessionRecord where
  sessionId : String
  projectCode : String
  state : OverallState := .pending
  /-- The items of the dictionary. -/
  sources : List (String × SourceRecord) := []
  startedAt : String := ""
  updatedAt : String := ""
  finishedAt : Option String := none
  summary : String := ""
  countSupported : Option Bool := none
  deriving DecidableEq, Repr

def OverallState.toStr : OverallState → String
  | .pending => "pending"
  | .running => "running"
  | .completed => "completed"
  | .partly => "partial"
  | .failed => "failed"

/-- The overall state with the text. -/
def OverallState.read (v : Value F) : Option OverallState := do
  let s ← Field.str v
  [OverallState.pending, .running, .completed, .partly, .failed].find? fun st =>
    decide (st.toStr = s)

@[simp] theorem OverallState.read_toStr (st : OverallState) :
    OverallState.read (.str st.toStr : Value F) = some st := by
  cases st <;> rfl

namespace SessionRecord

/-- `self.sources.get(key)` -/
def get (s : SessionRecord) (key : String) : Option SourceRecord :=
  (Table.lookup Prod.fst key s.sources).map Prod.snd

/-- `self.sources[key] = r` -/
def put (s : SessionRecord) (key : String) (r : SourceRecord) : SessionRecord :=
  { s with sources := Table.upsert Prod.fst (key, r) s.sources }

/-- The counters of the statuses, which start at zero. -/
def buckets (s : SessionRecord) : Tally String ℕ :=
  Tally.addAll (fun item => item.2.status.toStr) (fun _ => 1) s.sources
    (statuses.map fun st => (st.toStr, 0))

/-- `progress` -/
def progress (s : SessionRecord) : Tally String ℕ :=
  (s.buckets.set "total" s.sources.length).set "done"
    (s.sources.countP fun item => item.2.status ∉ [Status.pending, .running])

/-- `snapshot` -/
def snapshot (s : SessionRecord) : Dict F :=
  [("session_id", .str s.sessionId), ("project_code", .str s.projectCode),
    ("state", .str s.state.toStr), ("started_at", .str s.startedAt),
    ("updated_at", .str s.updatedAt), ("finished_at", Field.write .str s.finishedAt),
    ("summary", .str s.summary), ("count_supported", Field.write .bool s.countSupported),
    ("scanned_at", if s.updatedAt = "" then Field.write .str s.finishedAt else .str s.updatedAt),
    ("progress", .dict (s.progress.map fun item => (item.1, .int item.2))),
    ("sources", .dict (s.sources.map fun item => (item.1, .dict item.2.toDict)))]

/-- The loop of `from_snapshot`. -/
def readSources (items : Dict F) : Option (List (String × SourceRecord)) :=
  items.foldlM (fun sources item => do
    let r ← item.2.asDict?.bind SourceRecord.fromDict
    some (Table.upsert Prod.fst (item.1, r) sources)) []

/-- `from_snapshot`, of a dictionary whose values are of the types of the fields. -/
def fromSnapshot [Floats F] (snap : Dict F) : Option SessionRecord := do
  let sessionId ← Field.get snap "session_id" "" Field.str
  let projectCode ← Field.get snap "project_code" "" Field.str
  let state ← Field.get snap "state" .pending OverallState.read
  let startedAt ← Field.get snap "started_at" "" Field.str
  let updatedAt ← Field.get snap "updated_at" "" Field.str
  let finishedAt ← Field.get snap "finished_at" none (Field.optional Field.str)
  let summary ← Field.get snap "summary" "" Field.str
  let countSupported ← Field.get snap "count_supported" none (Field.optional Field.bool)
  let items ← ((snap.get "sources").orElse (.dict [])).asDict?
  let sources ← readSources items
  some { sessionId, projectCode, state, sources, startedAt, updatedAt, finishedAt, summary,
         countSupported }

/-! ### Round trip -/

/-- The records that a loop has read are kept, and those of new keys come after them. As the keys
are distinct, nothing is overwritten. -/
theorem readSources_items (items : List (String × SourceRecord))
    (h : (items.map Prod.fst).Nodup) :
    readSources (F := F) (items.map fun item => (item.1, .dict item.2.toDict)) = some items := by
  have hloop (done : List (String × SourceRecord))
      (hnodup : ((done ++ items).map Prod.fst).Nodup) :
      (items.map fun item => (item.1, (.dict item.2.toDict : Value F))).foldlM
        (fun sources item => do
          let r ← item.2.asDict?.bind SourceRecord.fromDict
          some (Table.upsert Prod.fst (item.1, r) sources)) done = some (done ++ items) := by
    induction items generalizing done with
    | nil => simp
    | cons item items ih =>
      obtain ⟨key, r⟩ := item
      have hnew : key ∉ done.map Prod.fst := by
        rw [List.map_append, List.nodup_append] at hnodup
        intro hmem
        exact hnodup.2.2 key hmem key List.mem_cons_self rfl
      have hput : Table.upsert Prod.fst (key, r) done = done ++ [(key, r)] :=
        Table.upsert_of_notMem hnew
      simp only [List.map_cons, List.foldlM_cons, Value.asDict?_dict, Option.bind_some,
        SourceRecord.fromDict_toDict, Option.bind_eq_bind, hput]
      have hnext : done ++ (key, r) :: items = (done ++ [(key, r)]) ++ items := by simp
      rw [hnext] at hnodup ⊢
      exact ih (List.nodup_cons.mp (by simpa using h)).2 _ hnodup
  exact hloop [] h

private theorem fromSnapshot_snapshot [Floats F] (s : SessionRecord)
    (h : (s.sources.map Prod.fst).Nodup) : fromSnapshot (F := F) s.snapshot = some s := by
  have hsources : ((Dict.get (F := F) s.snapshot "sources").orElse (.dict [])).asDict? =
      some (s.sources.map fun item => (item.1, .dict item.2.toDict)) := by
    cases hitems : s.sources with
    | nil => simp [snapshot, Dict.get, Dict.getD, Dict.get?, hitems, Value.orElse]
    | cons item items =>
      simp [snapshot, Dict.get, Dict.getD, Dict.get?, hitems, Value.orElse, Value.truthy]
  rw [fromSnapshot, hsources]
  simp [Field.get, snapshot, Dict.get?, readSources_items _ h]

/-- The loop writes no key twice, whatever the snapshot holds: a key that comes again overwrites its
record. -/
theorem nodup_readSources {items : Dict F} {sources : List (String × SourceRecord)}
    (h : readSources items = some sources) : (sources.map Prod.fst).Nodup := by
  have hloop (items : Dict F) : ∀ done : List (String × SourceRecord), (done.map Prod.fst).Nodup →
      items.foldlM (fun sources item => do
        let r ← item.2.asDict?.bind SourceRecord.fromDict
        some (Table.upsert Prod.fst (item.1, r) sources)) done = some sources →
      (sources.map Prod.fst).Nodup := by
    induction items with
    | nil =>
      intro done hdone hread
      obtain rfl := Option.some.inj hread
      exact hdone
    | cons item items ih =>
      intro done hdone hread
      rw [List.foldlM_cons] at hread
      obtain ⟨next, hnext, hrest⟩ := Option.bind_eq_some_iff.mp hread
      obtain ⟨r, -, hput⟩ := Option.bind_eq_some_iff.mp hnext
      obtain rfl := Option.some.inj hput
      exact ih _ (Table.nodup_upsert hdone _) hrest
  exact hloop items [] List.nodup_nil h

/-- A session that has been read has every key once. -/
theorem nodup_fromSnapshot [Floats F] {snap : Dict F} {s : SessionRecord}
    (h : fromSnapshot snap = some s) : (s.sources.map Prod.fst).Nodup := by
  simp only [fromSnapshot, Option.bind_eq_bind, Option.bind_eq_some_iff] at h
  obtain ⟨_, -, _, -, _, -, _, -, _, -, _, -, _, -, _, -, items, -, sources, hread, hs⟩ := h
  obtain rfl := Option.some.inj hs
  exact nodup_readSources hread

/-! ### Progress -/

/-- The progress has a counter for every status, and besides those the total, which they add up to,
and what is neither pending nor running. -/
structure ProgressSums (s : SessionRecord) : Prop where
  keys : s.progress.map Prod.fst = statuses.map Status.toStr ++ ["total", "done"]
  counts : ∀ st, s.progress.get st.toStr = s.sources.countP fun item => item.2.status = st
  sum : (statuses.map fun st => s.progress.get st.toStr).sum = s.progress.get "total"
  total : s.progress.get "total" = s.sources.length
  done : s.progress.get "done" + s.progress.get "pending" + s.progress.get "running" =
    s.progress.get "total"

private theorem sum_map_one {β : Type} (p : β → Prop) [DecidablePred p] (l : List β) :
    (l.map fun x => if p x then 1 else 0).sum = l.countP p := by
  induction l with
  | nil => rfl
  | cons x l ih =>
    rw [List.map_cons, List.sum_cons, ih, List.countP_cons, add_comm]
    simp only [decide_eq_true_eq]

/-- Every source has one status. -/
theorem sum_countP_status (items : List (String × SourceRecord)) :
    (statuses.map fun st => items.countP fun item => item.2.status = st).sum = items.length := by
  induction items with
  | nil => rfl
  | cons item items ih =>
    simp only [statuses, List.map_cons, List.map_nil, List.sum_cons, List.sum_nil, List.countP_cons,
      List.length_cons] at ih ⊢
    cases item.2.status <;> simp <;> omega

private theorem countP_open (items : List (String × SourceRecord)) :
    (items.countP fun item => item.2.status ∉ [Status.pending, .running]) +
      (items.countP fun item => item.2.status = .pending) +
        (items.countP fun item => item.2.status = .running) = items.length := by
  induction items with
  | nil => rfl
  | cons item items ih =>
    simp only [List.countP_cons, List.length_cons] at ih ⊢
    cases item.2.status <;> simp at ih ⊢ <;> omega

/-- The counters of a session add up to the number of its sources. -/
private theorem progressSums (s : SessionRecord) : s.ProgressSums := by
  have hkeys : s.buckets.map Prod.fst = statuses.map Status.toStr := by
    refine (Tally.keys_addAll _ fun item _ => ?_).trans (by rw [List.map_map]; rfl)
    rw [List.map_map]
    exact List.mem_map_of_mem (by cases item.2.status <;> decide)
  have hbuckets (st : Status) :
      s.buckets.get st.toStr = s.sources.countP fun item => item.2.status = st := by
    have hzero : Tally.get st.toStr (statuses.map fun st => (st.toStr, 0)) = 0 :=
      Tally.get_of_zero (by simp) _
    have hsame (item : String × SourceRecord) :
        item.2.status.toStr = st.toStr ↔ item.2.status = st :=
      ⟨fun h => Status.toStr_inj h, fun h => h ▸ rfl⟩
    rw [buckets, Tally.get_addAll, hzero, zero_add]
    simp only [hsame]
    exact sum_map_one _ s.sources
  -- `total` and `done` are no statuses, so setting them leaves the buckets
  have hcounts (st : Status) :
      s.progress.get st.toStr = s.sources.countP fun item => item.2.status = st := by
    have htotal : "total" ≠ st.toStr := by cases st <;> decide
    have hdone : "done" ≠ st.toStr := by cases st <;> decide
    rw [progress, Tally.get_set, if_neg hdone, Tally.get_set, if_neg htotal, hbuckets]
  have htotal : s.progress.get "total" = s.sources.length := by
    rw [progress, Tally.get_set, if_neg (by decide), Tally.get_set, if_pos rfl]
  refine ⟨?_, hcounts, ?_, htotal, ?_⟩
  · rw [progress, Tally.keys_set, Tally.keys_set, hkeys]
    decide
  · simp only [hcounts, htotal]
    exact sum_countP_status s.sources
  · have hpending : s.progress.get "pending" = _ := hcounts .pending
    have hrunning : s.progress.get "running" = _ := hcounts .running
    rw [htotal, hpending, hrunning, progress, Tally.get_set, if_pos rfl]
    exact countP_open s.sources

/-! ### Runs -/

/-- What `_now_iso` and the durations are in a round of the loop. -/
structure RoundTimes where
  marked : String
  scanned : String
  durationMs : ℤ
  recorded : String

/-- What they are in a run. -/
structure RunTimes where
  started : String
  updated : String
  round : String → RoundTimes
  finished : String

/-- `init_full_session` -/
def initFull (projectCode sessionId startedAt updatedAt : String) : SessionRecord where
  sessionId := sessionId
  projectCode := projectCode
  sources := odooSources.map fun s => (s.key, { key := s.key })
  startedAt := startedAt
  updatedAt := updatedAt

/-- What is known of a source. -/
def prior (s : SessionRecord) (key : String) : Option SourceScanState :=
  (s.get key).map (·.toSourceScanState)

/-- The first lines of `run_scan_session`. -/
def start (s : SessionRecord) (started updated : String) : SessionRecord :=
  { s with
    state := .running
    startedAt := if s.startedAt = "" then started else s.startedAt
    updatedAt := updated }

/-- `session.sources[source.key] = running` -/
def markRunning (s : SessionRecord) (key now : String) : SessionRecord :=
  { s.put key { SourceScanState.begin key with
      pagesDone := resumePages (s.prior key)
      nextOffset := resumeOffset (s.prior key) } with updatedAt := now }

/-- `session.sources[source.key] = result`, and what it says about counts. -/
def record (s : SessionRecord) (key : String) (result : SourceRecord) (now : String) :
    SessionRecord :=
  { s.put key result with
    countSupported :=
      if s.countSupported = none ∧ result.total ≠ none then some true
      else if s.countSupported = none ∧ result.status = .capped then some false
      else s.countSupported
    updatedAt := now }

/-- `_summary` -/
def summaryText (s : SessionRecord) : String :=
  let count (st : Status) : ℕ := s.progress.get st.toStr
  let ok := count .completed + count .empty
  let bad := count .failed + count .timeout
  let parts := [toString ok ++ "/" ++ toString (s.progress.get "total") ++ " sources complete"] ++
    (if count .partly ≠ 0 ∨ count .capped ≠ 0 then
      [toString (count .partly + count .capped) ++ " partial/capped"] else []) ++
    (if bad ≠ 0 then [toString bad ++ " failed"] else []) ++
    (if count .unmapped ≠ 0 then [toString (count .unmapped) ++ " unmapped"] else [])
  let note := match s.countSupported with
    | some true => "exact totals (search_count)"
    | some false => "counts capped by the deployed Odoo workflow"
    | none => "no sources scanned"
  "; ".intercalate parts ++ " — " ++ note ++ "."

/-- The last lines of `run_scan_session`. -/
def finish (s : SessionRecord) (now : String) : SessionRecord :=
  let finished : SessionRecord := { s with
    state := overallState (s.sources.map (·.2.toSourceScanState))
    finishedAt := some now
    updatedAt := now }
  { finished with summary := finished.summaryText }

/-- What a task makes of a run that raised. -/
def crash (s : SessionRecord) : SessionRecord :=
  { s with state := .failed, summary := "Scan task crashed unexpectedly." }

/-- `session.sources[k]`, pending again with the progress it had. -/
def requeue (s : SessionRecord) (key : String) : SessionRecord :=
  s.put key { key := key
              pagesDone := resumePages (s.prior key)
              nextOffset := resumeOffset (s.prior key) }

/-- `select_retry_keys` -/
def selectRetryKeys (s : SessionRecord) (mode : String) : List String :=
  let pool := if mode = "failed" then retryable else incomplete
  (s.sources.filter fun item => item.2.status ∈ pool).map Prod.fst

/-- The session and the sources that a retry runs. -/
def retryStart (s : SessionRecord) (mode : String) : SessionRecord × List OdooSource :=
  let keys := s.selectRetryKeys mode
  ({ keys.foldl requeue s with state := .running }, sourcesForKeys keys)

section Run

variable [Text] (cfg : ScanConfig) (odooConfig : OdooConfig)
  (allowedOdooIds : List String)

/-- What becomes of a source, with the duration of its scan and the time it ended. -/
def timedResult (projectCode : String) (source : OdooSource) (answers : Responses)
    (prior : Option SourceScanState) (times : RoundTimes) : SourceRecord :=
  match scanOneSource cfg odooConfig projectCode allowedOdooIds source answers prior with
  | .ok out =>
    { toSourceScanState := out.1
      durationMs := some (if out.1.status = .unmapped then 0 else times.durationMs)
      lastScannedAt := some times.scanned }
  | .error e =>
    { toSourceScanState := engineFailure source.key e.describe
      lastScannedAt := some times.scanned }

variable (answers : String → Responses) (times : RunTimes)

/-- One round of the loop. -/
def scanStep (s : SessionRecord) (source : OdooSource) : SessionRecord :=
  (s.markRunning source.key (times.round source.key).marked).record source.key
    (timedResult cfg odooConfig allowedOdooIds s.projectCode source (answers source.key)
      (s.prior source.key) (times.round source.key)) (times.round source.key).recorded

/-- `run_scan_session` -/
def run (s : SessionRecord) (sources : List OdooSource) : SessionRecord :=
  (sources.foldl (scanStep cfg odooConfig allowedOdooIds answers times)
    (s.start times.started times.updated)).finish times.finished

end Run

/-! ### Without the time stamps -/

/-- Every record is under its key. -/
def WellKeyed (s : SessionRecord) : Prop := ∀ item ∈ s.sources, item.2.key = item.1

/-- The session without its time stamps and its summary. -/
def erase (s : SessionRecord) : ScanSession where
  sessionId := s.sessionId
  projectCode := s.projectCode
  state := s.state
  sources := s.sources.map (·.2.toSourceScanState)
  countSupported := s.countSupported

private theorem wellKeyed_put {s : SessionRecord} (h : s.WellKeyed) {key : String}
    {r : SourceRecord} (hr : r.key = key) : (s.put key r).WellKeyed := by
  intro item hitem
  rcases Table.mem_upsert hitem with rfl | ⟨hold, -⟩
  · exact hr
  · exact h item hold

/-- Without its time stamps a record is what the scan of it goes on from. -/
theorem get_erase {s : SessionRecord} (h : s.WellKeyed) (key : String) :
    s.erase.get key = s.prior key := by
  rw [ScanSession.get, erase, Table.lookup_map_of_key h, prior, get, Option.map_map]
  rfl

private theorem erase_put {s : SessionRecord} (h : s.WellKeyed) {key : String} {r : SourceRecord}
    (hr : r.key = key) : (s.put key r).erase = s.erase.put r.toSourceScanState := by
  have hsources : (s.put key r).sources.map (·.2.toSourceScanState) =
      Table.upsert SourceScanState.key r.toSourceScanState
        (s.sources.map (·.2.toSourceScanState)) :=
    Table.map_upsert h hr
  rw [erase, hsources]
  rfl

private theorem erase_markRunning {s : SessionRecord} (h : s.WellKeyed) (key now : String) :
    (s.markRunning key now).erase = s.erase.markRunning key := by
  rw [ScanSession.markRunning, get_erase h]
  exact erase_put h rfl

private theorem erase_record {s : SessionRecord} (h : s.WellKeyed) {key : String} {r : SourceRecord}
    (hr : r.key = key) (now : String) :
    (s.record key r now).erase = s.erase.record r.toSourceScanState := by
  rw [ScanSession.record, ← erase_put h hr]
  rfl

section Run

variable [Text] {cfg : ScanConfig} {odooConfig : OdooConfig}
  {allowedOdooIds : List String} {answers : String → Responses} {times : RunTimes}

/-- A record is timed, and otherwise what the scan returned. -/
theorem timedResult_eq (projectCode : String) (source : OdooSource) (answers : Responses)
    (prior : Option SourceScanState) (times : RoundTimes) :
    (timedResult cfg odooConfig allowedOdooIds projectCode source answers prior
      times).toSourceScanState =
      (scanResult cfg odooConfig allowedOdooIds projectCode source answers prior).1 := by
  rw [timedResult, scanResult]
  cases scanOneSource cfg odooConfig projectCode allowedOdooIds source answers prior <;> rfl

private theorem key_timedResult (projectCode : String) (source : OdooSource) (answers : Responses)
    (prior : Option SourceScanState) (times : RoundTimes) :
    (timedResult cfg odooConfig allowedOdooIds projectCode source answers prior times).key =
      source.key := by
  rw [timedResult_eq, key_scanResult]

private theorem erase_scanStep {s : SessionRecord} (h : s.WellKeyed) (source : OdooSource) :
    (scanStep cfg odooConfig allowedOdooIds answers times s source).WellKeyed ∧
      (scanStep cfg odooConfig allowedOdooIds answers times s source).erase =
        Scan.scanStep cfg odooConfig allowedOdooIds answers s.erase source := by
  have hmarked : (s.markRunning source.key (times.round source.key).marked).WellKeyed :=
    wellKeyed_put h rfl
  refine ⟨wellKeyed_put hmarked (key_timedResult ..), ?_⟩
  rw [scanStep, erase_record hmarked (key_timedResult ..), erase_markRunning h, timedResult_eq,
    Scan.scanStep, get_erase h]
  rfl

/-- A run of the timed session is the run of the session. -/
theorem erase_run {s : SessionRecord} (h : s.WellKeyed) (sources : List OdooSource) :
    (run cfg odooConfig allowedOdooIds answers times s sources).erase =
      runScanSession cfg odooConfig allowedOdooIds answers s.erase sources := by
  have hloop (sources : List OdooSource) : ∀ s : SessionRecord, s.WellKeyed →
      (sources.foldl (scanStep cfg odooConfig allowedOdooIds answers times) s).erase =
        sources.foldl (Scan.scanStep cfg odooConfig allowedOdooIds answers) s.erase := by
    induction sources with
    | nil => exact fun _ _ => rfl
    | cons source sources ih =>
      intro s hs
      rw [List.foldl_cons, List.foldl_cons, ih _ (erase_scanStep hs source).1,
        (erase_scanStep hs source).2]
  have hstart : (s.start times.started times.updated).WellKeyed := h
  have herased : (s.start times.started times.updated).erase =
      { s.erase with state := .running } := rfl
  rw [runScanSession, ← herased, ← hloop sources _ hstart]
  rfl

end Run

/-! ### Reachable sessions -/

/-- The sessions that occur: runs and retries, between any two of their steps, however the steps of
tasks that share a session follow each other; and sessions read off a column. -/
inductive Reachable [Text] [Floats F] : SessionRecord → Prop where
  | init (projectCode sessionId startedAt updatedAt : String) :
    Reachable (initFull projectCode sessionId startedAt updatedAt)
  | start {s : SessionRecord} (started updated : String) :
    Reachable s → Reachable (s.start started updated)
  | markRunning {s : SessionRecord} (source : OdooSource) (now : String) :
    Reachable s → Reachable (s.markRunning source.key now)
  | record {s : SessionRecord} (cfg : ScanConfig) (odooConfig : OdooConfig)
    (allowedOdooIds : List String) (source : OdooSource) (answers : Responses)
    (prior : Option SourceScanState) (times : RoundTimes) (now : String) :
    Reachable s → Reachable (s.record source.key (timedResult cfg odooConfig allowedOdooIds
      s.projectCode source answers prior times) now)
  | finish {s : SessionRecord} (now : String) : Reachable s → Reachable (s.finish now)
  | crash {s : SessionRecord} : Reachable s → Reachable s.crash
  | requeue {s : SessionRecord} (key : String) : Reachable s → Reachable (s.requeue key)
  | rerun {s : SessionRecord} : Reachable s → Reachable { s with state := .running }
  | reload {s s' : SessionRecord} {column : Dict F} :
    Reachable s → column.SameJson s.snapshot → fromSnapshot column = some s' → Reachable s'

section Reachable

variable [Text] [Floats F]

/-- The runs are made of these steps. -/
theorem reachable_run (cfg : ScanConfig) (odooConfig : OdooConfig) (allowedOdooIds : List String)
    (answers : String → Responses) (times : RunTimes) (sources : List OdooSource)
    {s : SessionRecord} (h : Reachable (F := F) s) :
    Reachable (F := F) (run cfg odooConfig allowedOdooIds answers times s sources) := by
  refine .finish times.finished ?_
  have hstart := h.start times.started times.updated
  generalize s.start times.started times.updated = s' at hstart ⊢
  induction sources generalizing s' with
  | nil => exact hstart
  | cons source sources ih =>
    have hmarked := hstart.markRunning source (times.round source.key).marked
    exact ih _ (hmarked.record cfg odooConfig allowedOdooIds source (answers source.key)
      (s'.prior source.key) (times.round source.key) (times.round source.key).recorded)

/-- And so are the retries. -/
theorem reachable_retryStart (mode : String) {s : SessionRecord} (h : Reachable (F := F) s) :
    Reachable (F := F) (s.retryStart mode).1 := by
  refine .rerun ?_
  generalize s.selectRetryKeys mode = keys
  induction keys generalizing s with
  | nil => exact h
  | cons key keys ih => exact ih (h.requeue key)

/-- The keys of a reachable session are those of a dictionary. -/
theorem Reachable.nodup {s : SessionRecord} (h : Reachable (F := F) s) :
    (s.sources.map Prod.fst).Nodup := by
  induction h with
  | init =>
    rw [initFull, List.map_map]
    exact (by decide : (odooSources.map OdooSource.key).Nodup)
  | start _ _ _ ih => exact ih
  | markRunning _ _ _ ih => exact Table.nodup_upsert ih _
  | record _ _ _ _ _ _ _ _ _ ih => exact Table.nodup_upsert ih _
  | finish _ _ ih => exact ih
  | crash _ ih => exact ih
  | requeue _ _ ih => exact Table.nodup_upsert ih _
  | rerun _ ih => exact ih
  | reload _ _ hread _ => exact nodup_fromSnapshot hread

end Reachable

end SessionRecord

open SessionRecord

/-- Reading the snapshot of a reachable session gives back the session, and its progress adds up.
Reachability is needed for the keys alone, which no run and no retry repeats. -/
theorem snapshot_roundTrips [Text] [Floats F] {s : SessionRecord}
    (h : Reachable (F := F) s) :
    fromSnapshot (F := F) s.snapshot = some s ∧ s.ProgressSums :=
  ⟨fromSnapshot_snapshot s h.nodup, progressSums s⟩

section Latin

open Py.Whole

/-- The clocks of a run that starts at the time. -/
def clocks (time : String) : RunTimes where
  started := time
  updated := time
  round key := ⟨time, time ++ key, 20000, time⟩
  finished := time

/-- A run of the session in which every count is answered with 450, and one page is read of each
source before its scan is interrupted. -/
def onePage (s : SessionRecord) (sources : List OdooSource) (time : String) : SessionRecord :=
  run {} (linkConfig "14602" "21963") ["14602"]
    (fun _ => ⟨.returned (some 450), fun k => k ≠ 0, fun _ => .returned 100⟩) (clocks time) s
    sources

/-- A scan that is interrupted in every source, and its retry of what is incomplete. -/
def interruptedTwice : SessionRecord :=
  let scanned := onePage (initFull "PRJ-003" "5f2c" "08:00" "08:00") odooSources "08:01"
  onePage (scanned.retryStart "incomplete").1 (scanned.retryStart "incomplete").2 "09:30"

/-- A session that was interrupted twice. -/
theorem snapshot_roundTrips_interrupted :
    fromSnapshot (F := ℤ) interruptedTwice.snapshot = some interruptedTwice ∧
      interruptedTwice.ProgressSums :=
  snapshot_roundTrips (reachable_run _ _ _ _ _ _ (reachable_retryStart "incomplete"
    (reachable_run _ _ _ _ _ _ (.init "PRJ-003" "5f2c" "08:00" "08:00"))))

example : interruptedTwice.summary =
    "0/22 sources complete; 22 partial/capped — exact totals (search_count)." := by decide +kernel


end Latin

end DecisionCenter.Scan
