import Mathlib.Logic.Function.Iterate
import DecisionCenter.Async.Run
import DecisionCenter.Scan.Session

/-!
# Scan requests and scan tasks

The handlers `scan_odoo_source_map` and `retry_odoo_scan` of `apps/edr/app.py`, and the tasks
they launch, between their awaits. They share the session objects of the process, the registry
`ACTIVE_SESSIONS` and the table of saved sessions.

A session object is a reference into `World.session`: a handler that takes a live session and
the task that scans it share the object, and a session that is loaded is a new object under its
old id. `run_scan_session` catches what its sources raise, so that a task always comes to its
end.

An actor is a handler or a task in one of its phases, which are the awaits of the source: what
it does between two of them is one step, and any other actor may come in between. What it learns
at an await, the context of the mapping, the answer of the database or the responses of Odoo,
comes with the action and is arbitrary. A save may fail, and the handlers differ in what they do
then.

The checks of the handlers are made on the registry at the step in which the source makes them,
and the entry is written at the step of the launch, so that the gap between the two is in the
model. `taskAlone_created` says that the steps of a task, put together, are `run_scan_session`:
what is known of sessions by themselves holds of those that tasks scan.
-/

namespace DecisionCenter.Scan

open Py

/-! ### Actors -/

/-- What `_load_odoo_map_context` reads off the mapping. -/
structure MapContext where
  odooConfig : OdooConfig
  allowedOdooIds : List String
  odooEnabled : Bool

/-- Where a scan task is. -/
inductive TaskPhase where
  /-- It is yet to start. -/
  | created (sources : List OdooSource)
  /-- It has saved the session and goes on with the next source. -/
  | between (sources : List OdooSource)
  | scanning (source : OdooSource) (prior : Option SourceScanState) (rest : List OdooSource)
  /-- It saves the finished session. -/
  | flushing

/-- A handler, or a scan task, at one of its awaits. -/
inductive Actor where
  | scanRequest (code : String)
  /-- Admitted: it saves the new session, and then launches the task. -/
  | scanPersist (ref : ℕ) (ctx : MapContext)
  | retryRequest (code sessionId mode : String)
  /-- It reads the saved session. -/
  | retryLoad (code sessionId mode : String) (ctx : MapContext)
  /-- Admitted: it writes the admin event, and then launches the task. -/
  | retryLog (ref : ℕ) (sources : List OdooSource) (ctx : MapContext)
  | task (ref : ℕ) (ctx : MapContext) (phase : TaskPhase)
  | done

/-! ### The world -/

/-- An entry of `ACTIVE_SESSIONS`. -/
structure Entry where
  sessionId : String
  ref : ℕ
  deriving DecidableEq, Repr

/-- The process and the table. -/
structure World where
  /-- The session objects; those below `refs` have been made. -/
  session : ℕ → ScanSession
  refs : ℕ
  /-- `ACTIVE_SESSIONS` -/
  active : List Entry
  /-- `odoo_scan_sessions` -/
  saved : List ScanSession
  /-- The handlers and tasks; those below `actors` have been started. -/
  actor : ℕ → Actor
  actors : ℕ

namespace World

/-- A process that has just started. -/
def start (saved : List ScanSession) : World where
  session _ := ⟨"", "", .pending, [], none⟩
  refs := 0
  active := []
  saved := saved
  actor _ := .done
  actors := 0

/-- Start a handler or a task. -/
def spawn (w : World) (a : Actor) : World :=
  { w with actor := Function.update w.actor w.actors a, actors := w.actors + 1 }

/-- A handler or task goes on. -/
def become (w : World) (i : ℕ) (a : Actor) : World :=
  { w with actor := Function.update w.actor i a }

/-- A new session object. -/
def alloc (w : World) (s : ScanSession) : World :=
  { w with session := Function.update w.session w.refs s, refs := w.refs + 1 }

/-- Write to a session object. -/
def write (w : World) (ref : ℕ) (s : ScanSession) : World :=
  { w with session := Function.update w.session ref s }

/-- `save_scan_session` -/
def save (w : World) (s : ScanSession) : World :=
  { w with saved := Table.upsert ScanSession.sessionId s w.saved }

/-- `_persist_scan` where it succeeds. -/
def saveIf (w : World) (saved : Bool) (s : ScanSession) : World := if saved then w.save s else w

/-- `register` -/
def register (w : World) (ref : ℕ) : World :=
  { w with active := Table.upsert Entry.sessionId ⟨(w.session ref).sessionId, ref⟩ w.active }

/-- `get_active` -/
def getActive (w : World) (sessionId : String) : Option ℕ :=
  (Table.lookup Entry.sessionId sessionId w.active).map (·.ref)

/-- `active_running_for_project` -/
def activeRunningForProject (w : World) (code : String) : Option ℕ :=
  (w.active.find? fun e =>
    decide ((w.session e.ref).projectCode = code ∧ (w.session e.ref).state.Open)).map (·.ref)

/-- No session has the id: `uuid4` gives no id twice. -/
def FreshId (w : World) (sessionId : String) : Prop :=
  (∀ ref < w.refs, (w.session ref).sessionId ≠ sessionId) ∧
    ∀ s ∈ w.saved, s.sessionId ≠ sessionId

instance (w : World) (sessionId : String) : Decidable (w.FreshId sessionId) :=
  inferInstanceAs (Decidable (_ ∧ _))

/-! ### Steps of the handlers -/

/-- `_launch_scan_task`, with which handler `i` ends. -/
def launch (w : World) (i ref : ℕ) (ctx : MapContext) (sources : List OdooSource) : World :=
  ((w.register ref).become i .done).spawn (.task ref ctx (.created sources))

/-- The retry of a session, from the selection of its keys to the admin event. -/
def admitRetry (w : World) (i ref : ℕ) (mode : String) (ctx : MapContext) : World :=
  if selectRetryKeys (w.session ref) mode = [] then w.become i .done
  else (w.write ref (retryStart (w.session ref) mode).1).become i
    (.retryLog ref (retryStart (w.session ref) mode).2 ctx)

/-- A handler has its mapping context (and a scan its admin event); `newId` is the id that a new
session would be given. -/
def gotContext (w : World) (i : ℕ) (ctx : MapContext) (newId : String) : World :=
  match w.actor i with
  | .scanRequest code =>
    if ctx.odooEnabled = false then w.become i .done
    else if (w.activeRunningForProject code).isSome then w.become i .done
    else if w.FreshId newId then
      (w.alloc (initFullSession code newId)).become i (.scanPersist w.refs ctx)
    else w
  | .retryRequest code sessionId mode =>
    match w.getActive sessionId with
    | some ref =>
      if (w.session ref).projectCode = code then
        if (w.session ref).state.Open then w.become i .done else w.admitRetry i ref mode ctx
      else w.become i (.retryLoad code sessionId mode ctx)
    | none => w.become i (.retryLoad code sessionId mode ctx)
  | _ => w

/-- What handler `i` awaits has returned. -/
def resume (w : World) (i : ℕ) : World :=
  match w.actor i with
  | .scanPersist ref ctx =>
    (w.save (w.session ref)).launch i ref ctx (sourcesForKeys (odooSources.map (·.key)))
  | .retryLoad code sessionId mode ctx =>
    match Table.lookup ScanSession.sessionId sessionId w.saved with
    | some snap =>
      if snap.projectCode = code then (w.alloc snap).admitRetry i w.refs mode ctx
      else w.become i .done
    | none => w.become i .done
  | .retryLog ref sources ctx => w.launch i ref ctx sources
  | _ => w

/-- What handler `i` awaits raises; the save of a scan may have landed all the same. -/
def failed (w : World) (i : ℕ) (landed : Bool) : World :=
  match w.actor i with
  | .scanPersist ref _ => (w.saveIf landed (w.session ref)).become i .done
  | .task _ _ _ => w
  | _ => w.become i .done

end World

/-! ### Steps of a task -/

section Tasks

variable [Text] (cfg : ScanConfig)

/-- From one await of `run_scan_session` to the next. -/
def taskStep (ctx : MapContext) (answers : Responses) (s : ScanSession) :
    TaskPhase → ScanSession × Option TaskPhase
  | .created sources => ({ s with state := .running }, some (.between sources))
  | .between (source :: rest) =>
    (s.markRunning source.key, some (.scanning source (s.get source.key) rest))
  | .scanning source prior rest =>
    (s.record (scanResult cfg ctx.odooConfig ctx.allowedOdooIds s.projectCode source answers
      prior).1, some (.between rest))
  | .between [] => ({ s with state := overallState s.sources }, some .flushing)
  | .flushing => (s, none)

/-- What the task does next. -/
def TaskPhase.actor (ref : ℕ) (ctx : MapContext) : Option TaskPhase → Actor
  | some phase => .task ref ctx phase
  | none => .done

/-- Task `i` goes on to its next await, where `saved` says whether the session is saved. -/
def World.work (w : World) (i : ℕ) (answers : Responses) (saved : Bool) : World :=
  match w.actor i with
  | .task ref ctx phase =>
    let out := taskStep cfg ctx answers (w.session ref) phase
    ((w.write ref out.1).saveIf saved out.1).become i (TaskPhase.actor ref ctx out.2)
  | _ => w

/-! ### Runs -/

/-- The steps of the process. -/
inductive Action where
  /-- `POST …/scan` -/
  | scan (code : String)
  /-- `POST …/scan/{session_id}/retry` -/
  | retry (code sessionId mode : String)
  | gotContext (i : ℕ) (ctx : MapContext) (newId : String)
  | resume (i : ℕ)
  | failed (i : ℕ) (landed : Bool)
  | work (i : ℕ) (answers : Responses) (saved : Bool)

def World.step (w : World) : Action → World
  | .scan code => w.spawn (.scanRequest code)
  | .retry code sessionId mode => w.spawn (.retryRequest code sessionId mode)
  | .gotContext i ctx newId => w.gotContext i ctx newId
  | .resume i => w.resume i
  | .failed i landed => w.failed i landed
  | .work i answers saved => w.work cfg i answers saved

/-- A task that is not interleaved with anything runs `run_scan_session`. -/
def taskAlone (ctx : MapContext) (answers : String → Responses) :
    ScanSession × Option TaskPhase → ScanSession × Option TaskPhase
  | (s, some (.scanning source prior rest)) =>
    taskStep cfg ctx (answers source.key) s (.scanning source prior rest)
  | (s, some phase) => taskStep cfg ctx ⟨.timeout, fun _ => true, fun _ => .timeout⟩ s phase
  | (s, none) => (s, none)

variable {cfg} {ctx : MapContext} {answers : String → Responses}

private theorem taskAlone_between (s : ScanSession) (sources : List OdooSource) :
    (taskAlone cfg ctx answers)^[2 * sources.length] (s, some (.between sources)) =
      (sources.foldl (scanStep cfg ctx.odooConfig ctx.allowedOdooIds answers) s,
        some (.between [])) := by
  induction sources generalizing s with
  | nil => rfl
  | cons source sources ih =>
    have hlength : 2 * (source :: sources).length = 2 * sources.length + 1 + 1 := by
      rw [List.length_cons]
      omega
    rw [hlength, Function.iterate_succ_apply, Function.iterate_succ_apply]
    exact ih _

/-- The steps of a task, put together, are `run_scan_session`. -/
theorem taskAlone_created (s : ScanSession) (sources : List OdooSource) :
    (taskAlone cfg ctx answers)^[2 * sources.length + 2] (s, some (.created sources)) =
      (runScanSession cfg ctx.odooConfig ctx.allowedOdooIds answers s sources,
        some .flushing) := by
  have hlength : 2 * sources.length + 2 = 1 + 2 * sources.length + 1 := by omega
  rw [hlength, Function.iterate_succ_apply, Function.iterate_add_apply]
  have hfirst : taskAlone cfg ctx answers (s, some (.created sources)) =
      ({ s with state := .running }, some (.between sources)) := rfl
  rw [hfirst, taskAlone_between]
  rfl

end Tasks

end DecisionCenter.Scan
