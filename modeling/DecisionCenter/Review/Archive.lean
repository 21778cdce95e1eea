import DecisionCenter.Async.Fault
import DecisionCenter.Async.Simulation
import DecisionCenter.Review.Effects
import Mathlib.Logic.Function.Basic

/-!
# The objects of a report and their contents

`Record` knows which objects exist under `staging/` and `final/`. An `Archive` also has their
contents, as the object store does: `put_json` and `put_bytes` replace an object, and
`copy_to_final` refuses a name that exists. The same handlers run on it, now with every
operation possibly raising before or after it has taken effect, and with crashes between.
`represents_exec` connects the two levels.

A content is bytes, which are arbitrary, or the approval log, of which the entry it names is
kept. So what is said about the log can be said without its JSON, and about any file without its
format; the bytes themselves come in with `Persistence.SharedBucket`.

`Represents` is the abstraction: a record has the rows of the archive and the names of its
objects. Each operation returns the same on both levels, and the handlers are the same tasks, so
that it is a simulation. What is proved of the interleavings of requests on a record holds on an
archive, and the case analysis of `Review.Effects` need not be done again.

A `Publication` is the world of the runs. It has the archive and the handlers at work on it, and
remembers who made the report final and which files have been copied, both read off the
operations that take effect. A step performs an operation under a fault, lets a request arrive,
or ends the process. What an operation can change under `final/` is said once for each kind of
operation, and the modules on complete publication and on writing once use these lemmas.
-/

namespace DecisionCenter.Review

open Async

/-- What an object under `final/` holds. -/
inductive Content (B : Type) where
  /-- The bytes of a staged artifact. -/
  | artifact (bytes : B)
  /-- The JSON text of the approval log. -/
  | log (l : ApprovalLog)
  deriving DecidableEq

/-- Everything stored under one request id, contents included. -/
structure Archive (B : Type) where
  audit : Option AuditRow
  /-- Newest first. -/
  decisions : List Decision
  adminEvents : List AdminEvent
  job : Option Job
  /-- The objects under `staging/{request_id}/`, by file name. -/
  staging : String → Option B
  /-- The objects under `final/{request_id}/`, by file name. -/
  final : String → Option (Content B)

variable {B : Type}

namespace Archive

/-- A request id nothing is stored under. -/
def empty : Archive B := ⟨none, [], [], none, fun _ => none, fun _ => none⟩

/-- `UPDATE audit_log SET review_state = …` -/
def setReviewState (a : Archive B) (s : ReviewState) : Archive B :=
  { a with audit := a.audit.map fun row => { row with reviewState := s } }

/-- `review_state` of the audit row, where there is one. -/
def reviewState? (a : Archive B) : Option ReviewState := a.audit.map (·.reviewState)

/-- What `approval-log.json` says, where it exists. -/
def approvalLog (a : Archive B) : Option ApprovalLog :=
  match a.final approvalLogName with
  | some (.log l) => some l
  | _ => none

/-- Write an object under `final/`, over the one there may be. -/
def putFinal (a : Archive B) (filename : String) (c : Content B) : Archive B :=
  { a with final := Function.update a.final filename (some c) }

/-- What an operation returns and does when it does not raise; `drafts` are the bytes that node 15
has for each file name. -/
def effect (drafts : String → B) (o : Op) (a : Archive B) : o.Outcome × Archive B :=
  match o with
  | .getAudit => (some a.audit, a)
  | .getReportJob => (some a.job, a)
  | .getReviewDecisions => (some a.decisions, a)
  | .insertAdminEvent e => (some (), { a with adminEvents := a.adminEvents ++ [e] })
  | .insertReviewDecision d => (some (), { a with decisions := d :: a.decisions })
  | .updateReviewState s => (some (), a.setReviewState s)
  | .failReportJob s => (some (), { a with job := a.job.map fun j => { j with status := s } })
  | .insertAudit row => (some (), { a with audit := some row })
  | .putStaging filename =>
    (some (), { a with staging := Function.update a.staging filename (some (drafts filename)) })
  | .copyToFinal filename =>
    if (a.final filename).isSome then (some .exists, a)
    else match a.staging filename with
      | some bytes => (some .written, a.putFinal filename (.artifact bytes))
      | none => (none, a)
  | .putApprovalLog log => (some (), a.putFinal approvalLogName (.log log))

/-- One operation under a fault. A caller that sees an exception does not know whether the
operation has taken effect. -/
def perform (drafts : String → B) (fault : Fault Unit) (o : Op) (a : Archive B) :
    o.Outcome × Archive B :=
  match fault with
  | .none => a.effect drafts o
  | .before _ => (none, a)
  | .after _ => (none, (a.effect drafts o).2)

/-- An operation changes the archive if its fault lets it take effect. -/
theorem perform_snd (drafts : String → B) (fault : Fault Unit) (o : Op) (a : Archive B) :
    (a.perform drafts fault o).2 =
      if fault.effective then (a.effect drafts o).2 else a := by
  cases fault <;> rfl

/-! ### The record of an archive -/

/-- The record has the rows and the object names of the archive. -/
structure Represents (a : Archive B) (r : Record) : Prop where
  audit : r.audit = a.audit
  decisions : r.decisions = a.decisions
  adminEvents : r.adminEvents = a.adminEvents
  job : r.job = a.job
  staging : ∀ name, name ∈ r.staging ↔ (a.staging name).isSome = true
  final : ∀ name, name ∈ r.final ↔ (a.final name).isSome = true

private theorem mem_putName {names : List String} {name filename : String} :
    name ∈ putName names filename ↔ name ∈ names ∨ name = filename := by
  rw [putName]
  split
  · next h =>
    refine ⟨.inl, ?_⟩
    rintro (hmem | rfl)
    · exact hmem
    · exact h
  · rw [List.mem_append, List.mem_singleton]

/-- Writing an object adds its name. -/
theorem isSome_update {C : Type} {objects : String → Option C} {name filename : String} {c : C} :
    (Function.update objects filename (some c) name).isSome = true ↔
      (objects name).isSome = true ∨ name = filename := by
  by_cases h : name = filename
  · subst h
    simp
  · simp [h]

/-- The operations of the two levels return the same and keep the record of the archive. A record
knows whether an object is there, and the archive what it holds. -/
theorem represents_effect (drafts : String → B) {a : Archive B} {r : Record}
    (h : a.Represents r) (o : Op) :
    (a.effect drafts o).1 = (r.effect o).1 ∧
      (a.effect drafts o).2.Represents (r.effect o).2 := by
  obtain ⟨haudit, hdecisions, hevents, hjob, hstaging, hfinal⟩ := h
  cases o with
  | getAudit =>
    exact ⟨congrArg some haudit.symm, haudit, hdecisions, hevents, hjob, hstaging, hfinal⟩
  | getReportJob =>
    exact ⟨congrArg some hjob.symm, haudit, hdecisions, hevents, hjob, hstaging, hfinal⟩
  | getReviewDecisions =>
    exact ⟨congrArg some hdecisions.symm, haudit, hdecisions, hevents, hjob, hstaging, hfinal⟩
  | insertAdminEvent e =>
    exact ⟨rfl, haudit, hdecisions, congrArg (· ++ [e]) hevents, hjob, hstaging, hfinal⟩
  | insertReviewDecision d =>
    exact ⟨rfl, haudit, congrArg (d :: ·) hdecisions, hevents, hjob, hstaging, hfinal⟩
  | updateReviewState s =>
    exact ⟨rfl, congrArg (Option.map _) haudit, hdecisions, hevents, hjob, hstaging, hfinal⟩
  | failReportJob s =>
    exact ⟨rfl, haudit, hdecisions, hevents, congrArg (Option.map _) hjob, hstaging, hfinal⟩
  | insertAudit row => exact ⟨rfl, rfl, hdecisions, hevents, hjob, hstaging, hfinal⟩
  -- the writes of objects: the record keeps the names where the archive keeps the bytes
  | putStaging filename =>
    refine ⟨rfl, haudit, hdecisions, hevents, hjob, fun name => ?_, hfinal⟩
    exact mem_putName.trans ((or_congr_left (hstaging name)).trans isSome_update.symm)
  | putApprovalLog log =>
    refine ⟨rfl, haudit, hdecisions, hevents, hjob, hstaging, fun name => ?_⟩
    exact mem_putName.trans ((or_congr_left (hfinal name)).trans isSome_update.symm)
  | copyToFinal filename =>
    have hexists := hfinal filename
    have hsource := hstaging filename
    simp only [effect, Record.effect]
    by_cases hex : (a.final filename).isSome = true
    · rw [if_pos hex, if_pos (hexists.mpr hex)]
      exact ⟨rfl, haudit, hdecisions, hevents, hjob, hstaging, hfinal⟩
    · rw [if_neg hex, if_neg fun hmem => hex (hexists.mp hmem)]
      cases hbytes : a.staging filename with
      | none =>
        rw [hbytes] at hsource
        rw [if_neg fun hmem => Bool.false_ne_true (hsource.mp hmem)]
        exact ⟨rfl, haudit, hdecisions, hevents, hjob, hstaging, hfinal⟩
      | some bytes =>
        rw [hbytes] at hsource
        rw [if_pos (hsource.mpr rfl)]
        refine ⟨rfl, haudit, hdecisions, hevents, hjob, hstaging, fun name => ?_⟩
        rw [List.mem_append, List.mem_singleton]
        exact (or_congr_left (hfinal name)).trans isSome_update.symm

/-- Requests on an archive do what they do on its record: under every schedule their tasks are in
the same place, and the record is that of the archive. -/
theorem represents_exec (drafts : String → B) {c : Pool (Archive B) Op Op.Outcome Response}
    {c' : Pool Record Op Op.Outcome Response} (h : c.Alike Represents c') (schedule : List ℕ) :
    (c.exec (effect drafts) schedule).Alike Represents (c'.exec Record.effect schedule) :=
  Simulates.exec (fun o _ _ hrep => represents_effect drafts hrep o) h schedule

/-! ### What an operation changes under `final/` -/

@[simp] theorem final_putFinal_self (a : Archive B) (filename : String) (c : Content B) :
    (a.putFinal filename c).final filename = some c := Function.update_self _ _ _

/-- Writing an object leaves the others. -/
theorem final_putFinal_of_ne (a : Archive B) {name filename : String} (h : name ≠ filename)
    (c : Content B) : (a.putFinal filename c).final name = a.final name :=
  Function.update_of_ne h _ _

/-- Writing a new object changes no object. -/
theorem final_putFinal_of_new {a : Archive B} {filename : String} (hnew : a.final filename = none)
    (c : Content B) {name : String} {c' : Content B} (h : a.final name = some c') :
    (a.putFinal filename c).final name = some c' := by
  have hne : name ≠ filename := by
    rintro rfl
    rw [hnew] at h
    cases h
  rw [a.final_putFinal_of_ne hne, h]

/-- Writing a review state leaves that state, where there is a row. -/
theorem reviewState?_setReviewState {a : Archive B} {s s' : ReviewState}
    (h : (a.setReviewState s).reviewState? = some s') : s = s' := by
  rw [reviewState?, setReviewState, Option.map_map] at h
  obtain ⟨row, -, hs⟩ := Option.map_eq_some_iff.mp h
  exact hs

/-- A copy leaves every object as it is and writes at most the one it names, with the staged
bytes. -/
theorem final_copyToFinal (drafts : String → B) (a : Archive B) (filename : String) :
    (a.effect drafts (.copyToFinal filename)).2 = a ∨
      ∃ bytes, a.final filename = none ∧ a.staging filename = some bytes ∧
        (a.effect drafts (.copyToFinal filename)).2 = a.putFinal filename (.artifact bytes) := by
  simp only [effect]
  cases hfinal : a.final filename with
  | some c => exact .inl rfl
  | none =>
    cases hstaging : a.staging filename with
    | none => exact .inl rfl
    | some bytes => exact .inr ⟨bytes, rfl, rfl, rfl⟩

end Archive

/-! ### Runs -/

/-- The reviewer of a request that may publish. -/
def Request.reviewerHash? (env : Env) : Request → Option String
  | .approve claims _ => claims.map fun c => env.hashUserId c.userId
  | .overrideApprove claims _ => claims.map fun c => env.hashUserId c.userId
  | _ => none

/-- The archive of a report, the handlers at work on it, and what has happened so far. -/
structure Publication (B : Type) where
  pool : Pool (Archive B) Op Op.Outcome Response
  /-- The request that each task serves. -/
  requests : List Request
  /-- The task whose publish node has last made the report final. -/
  finalizer : Option ℕ
  /-- The names whose copy has been carried out. -/
  copied : List String

/-- One step: a request arrives, a handler performs its next operation, or the process ends. -/
inductive PublicationStep where
  | arrive (req : Request)
  | perform (i : ℕ) (fault : Fault Unit)
  | crash

namespace Publication

/-- The operation of the step that takes effect, with the task that performs it. -/
def effectiveOp (w : Publication B) : PublicationStep → Option (ℕ × Op)
  | .perform i fault =>
    if fault.effective then (w.pool.nextOp i).map fun o => (i, o) else none
  | _ => none

/-- Who has made the report final, after an operation. -/
def finalizerAfter (w : Publication B) : Option (ℕ × Op) → Option ℕ
  | some (i, .updateReviewState .final) => some i
  | _ => w.finalizer

/-- What has been copied, after an operation. -/
def copiedAfter (w : Publication B) : Option (ℕ × Op) → List String
  | some (_, .copyToFinal filename) => filename :: w.copied
  | _ => w.copied

end Publication

/-- The archive and the handlers after a step. -/
def publicationStep (env : Env) (requestId : String) (drafts : String → B) (w : Publication B)
    (a : PublicationStep) : Publication B where
  pool := match a with
    | .arrive req => ⟨w.pool.store, w.pool.tasks ++ [req.handle env requestId]⟩
    | .perform i fault => w.pool.step (fun o s => s.perform drafts fault o) i
    | .crash => ⟨w.pool.store, w.pool.tasks.map fun _ => .ret (.error internalError)⟩
  requests := match a with
    | .arrive req => w.requests ++ [req]
    | _ => w.requests
  finalizer := w.finalizerAfter (w.effectiveOp a)
  copied := w.copiedAfter (w.effectiveOp a)

/-- A report as the workflow leaves it: saved, with its artifacts staged, and not reviewed. -/
structure SavedReport (B : Type) where
  row : AuditRow
  staged : row.reviewState = .staging
  job : Option Job
  staging : String → Option B

/-- The archive of a saved report. -/
def SavedReport.archive (s : SavedReport B) : Archive B :=
  { Archive.empty with audit := some s.row, job := s.job, staging := s.staging }

/-- A saved report before any request about it. -/
def SavedReport.start (s : SavedReport B) : Publication B := ⟨⟨s.archive, []⟩, [], none, []⟩

section Step

variable {env : Env} {requestId : String} {drafts : String → B} {w : Publication B}

/-- Only the operation that takes effect changes the archive. An arrival and a crash have none, and
a fault may keep one from taking effect. -/
theorem store_publicationStep (a : PublicationStep) :
    (publicationStep env requestId drafts w a).pool.store =
      match w.effectiveOp a with
      | some (_, o) => (w.pool.store.effect drafts o).2
      | none => w.pool.store := by
  cases a with
  | arrive req => rfl
  | crash => rfl
  | perform i fault =>
    have hstore := Pool.store_step (fun o s => Archive.perform drafts fault o s) w.pool i
    rw [publicationStep, Publication.effectiveOp]
    dsimp only
    rw [hstore]
    cases w.pool.nextOp i with
    | none => cases fault.effective <;> rfl
    | some o =>
      dsimp only
      rw [Archive.perform_snd]
      cases fault.effective <;> rfl

/-- An operation that takes effect is the next one of a task that performs it. -/
theorem effectiveOp_eq_some {a : PublicationStep} {i : ℕ} {o : Op}
    (h : w.effectiveOp a = some (i, o)) :
    ∃ fault next, a = .perform i fault ∧ fault.effective = true ∧
      w.pool.tasks[i]? = some (.op o next) := by
  cases a with
  | arrive req => cases h
  | crash => cases h
  | perform j fault =>
    rw [Publication.effectiveOp] at h
    split at h
    · next heff =>
      obtain ⟨o', ho, heq⟩ := Option.map_eq_some_iff.mp h
      cases heq
      obtain ⟨next, hget⟩ := Pool.nextOp_eq_some ho
      exact ⟨fault, next, rfl, heff, hget⟩
    · cases h

end Step

end DecisionCenter.Review
