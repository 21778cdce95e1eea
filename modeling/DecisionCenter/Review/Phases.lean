import DecisionCenter.Review.Serial

/-!
# Phases of a request

Where a request that is being served stands, as seen from the other requests: before its read of
the audit row, past its own check, past its write with the publication ahead, publishing, or
with nothing left that another request could notice. `At` says which task each phase is, and the
lemmas below give, phase by phase, the operation such a task performs next and the phase it is
in afterwards.

A task in itself is a tree of operations and says nothing about where it is in the handler. The
phases are coarse on purpose: the operations that neither read nor write the review state, such
as the record of the decision, do not change them (`Op.Keeps`), and a request past its check
remembers the row it has read, as what it writes later was accepted for that row.

For each phase there is one lemma on the next step. Before its write a request only reads; past
its check it records its decision or writes its target; after the write a publishing request
reads the row once more and publishes or stops, and any other one is done. A request that has
returned is closing if it answered well, and else refused (`At.of_ret`).

So the proof on interleavings is about phases and states, and none of its cases unfolds a
handler.
-/

namespace DecisionCenter.Review

open Async

/-- The phases of a request. -/
inductive Phase where
  /-- The audit row has not been read. -/
  | start
  /-- The handler's check accepted the row it read; nothing is written yet. -/
  | checked
  /-- `approved` is written and the publish node has not read the row yet. -/
  | written
  /-- The publish node read an approved or final row and writes under `final/`. -/
  | publishing
  /-- The request is accepted and changes nothing any more. -/
  | closing
  /-- The request is refused and changes nothing any more. -/
  | refused
  deriving DecidableEq, Repr

/-- The request has written its review state. -/
def Phase.wrote : Phase → Bool
  | .written => true
  | .publishing => true
  | .closing => true
  | _ => false

/-- An operation that leaves the audit row and the final objects alone. -/
def Op.Keeps (o : Op) : Prop := o.keepsAudit = true ∧ o.keepsFinal = true

/-- The answer is a 2xx. -/
def Response.isOk : Response → Bool
  | .ok _ => true
  | .error _ => false

/-- What a publishing handler does with the outcome of the publish node. -/
def Endpoint.finish (e : Endpoint) (out : PublishOutcome) : StoreTask Response :=
  .ret (e.answer (some out.status))

/-- The task of a request in a phase; `row₀` is the audit row before the requests. -/
inductive At (env : Env) (requestId : String) (row₀ : AuditRow) (req : Request) :
    Phase → StoreTask Response → Prop where
  | serve {e : Endpoint} (he : req.endpoint env requestId = .ok e) :
      At env requestId row₀ req .start (e.serve requestId)
  | readAudit {e : Endpoint} (he : req.endpoint env requestId = .ok e) (job : Option Job) :
      At env requestId row₀ req .start (e.readAudit requestId job)
  | checked {e : Endpoint} {s : ReviewState} {t : StoreTask Response}
      (he : req.endpoint env requestId = .ok e) (hcheck : e.check (row₀.withState s) = .ok ())
      (hs : s = .staging → row₀.reviewState = .staging)
      (ht : t = e.decide requestId (row₀.withState s) ∨
        t = e.recordDecision requestId (row₀.withState s) ∨ t = e.write requestId) :
      At env requestId row₀ req .checked t
  | written {e : Endpoint} (he : req.endpoint env requestId = .ok e) (hp : e.publishes = true) :
      At env requestId row₀ req .written ((node17Publish requestId).bind e.finish)
  | publishing {e : Endpoint} {t : StoreTask PublishOutcome}
      (he : req.endpoint env requestId = .ok e) (hp : e.publishes = true) (ht : Finishing t) :
      At env requestId row₀ req .publishing (t.bind e.finish)
  | closing {t : StoreTask Response} (ht : t.Always Op.Keeps (·.isOk = true)) :
      At env requestId row₀ req .closing t
  | refused {t : StoreTask Response} (ht : t.Always Op.Keeps (·.isOk = false)) :
      At env requestId row₀ req .refused t

variable {env : Env} {requestId : String} {row₀ : AuditRow} {req : Request} {r : Record}

/-- The phase after the handler's check of the row that was read. -/
theorem at_checked {e : Endpoint} {s : ReviewState} (job : Option Job)
    (he : req.endpoint env requestId = .ok e) (hs : s = .staging → row₀.reviewState = .staging) :
    At env requestId row₀ req .checked (e.checked requestId job (some (row₀.withState s))) ∨
      At env requestId row₀ req .refused (e.checked requestId job (some (row₀.withState s))) := by
  unfold Endpoint.checked
  dsimp only
  cases hcheck : e.check (row₀.withState s) with
  | ok u => exact .inl (.checked he hcheck hs (.inl rfl))
  | error err => exact .inr (.refused rfl)

/-- Before its write a request only reads: it goes on to its check, or is refused. The cancellation
reads the job besides. -/
theorem At.start_step {o : Op} {next : o.Outcome → StoreTask Response} {s : ReviewState}
    (h : At env requestId row₀ req .start (.op o next))
    (hrow : r.audit = some (row₀.withState s)) (hs : s = .staging → row₀.reviewState = .staging) :
    o.Keeps ∧ ∃ p, (p = .start ∨ p = .checked ∨ p = .refused) ∧
      At env requestId row₀ req p (next (r.effect o).1) := by
  have hread : ∀ (e : Endpoint) (job : Option Job), req.endpoint env requestId = .ok e →
      .op o next = e.readAudit requestId job →
      o.Keeps ∧ ∃ p, (p = .start ∨ p = .checked ∨ p = .refused) ∧
        At env requestId row₀ req p (next (r.effect o).1) := by
    intro e job he ht
    cases ht
    refine ⟨⟨rfl, rfl⟩, ?_⟩
    change ∃ p, _ ∧ At env requestId row₀ req p (e.checked requestId job r.audit)
    rw [hrow]
    rcases at_checked job he hs with h | h
    · exact ⟨.checked, .inr (.inl rfl), h⟩
    · exact ⟨.refused, .inr (.inr rfl), h⟩
  generalize ht : Task.op o next = t at h
  cases h with
  | serve he =>
    next e =>
    unfold Endpoint.serve at ht
    split at ht
    · cases ht
      exact ⟨⟨rfl, rfl⟩, .start, .inl rfl, .readAudit he r.job⟩
    · exact hread e none he ht
  | readAudit he job => exact hread _ job he ht

/-- Past its check a request records its decision, or writes its target. The check was made on a
state that may have been left since. -/
theorem At.checked_step {o : Op} {next : o.Outcome → StoreTask Response}
    (h : At env requestId row₀ req .checked (.op o next)) :
    (o.Keeps ∧ At env requestId row₀ req .checked (next (r.effect o).1)) ∨
      ∃ e s, req.endpoint env requestId = .ok e ∧ e.check (row₀.withState s) = .ok () ∧
        (s = .staging → row₀.reviewState = .staging) ∧ o = .updateReviewState e.target ∧
        next (r.effect o).1 = e.publishAndAnswer requestId := by
  generalize ht' : Task.op o next = t at h
  cases h with
  | checked he hcheck hs ht =>
    next e s =>
    have hrecord : t = e.recordDecision requestId (row₀.withState s) →
        (o.Keeps ∧ At env requestId row₀ req .checked (next (r.effect o).1)) := by
      intro h
      rw [h] at ht'
      cases ht'
      exact ⟨⟨rfl, rfl⟩, .checked he hcheck hs (.inr (.inr rfl))⟩
    rcases ht with ht | ht | ht
    · unfold Endpoint.decide at ht
      split at ht
      · rw [ht] at ht'
        cases ht'
        exact .inl ⟨⟨rfl, rfl⟩, .checked he hcheck hs (.inr (.inl rfl))⟩
      · exact .inl (hrecord ht)
    · exact .inl (hrecord ht)
    · rw [ht] at ht'
      cases ht'
      exact .inr ⟨e, s, he, hcheck, hs, rfl, rfl⟩

/-- After its write a publishing request is `written`, any other is done. -/
theorem at_publishAndAnswer {e : Endpoint} (he : req.endpoint env requestId = .ok e) :
    At env requestId row₀ req (if e.publishes then .written else .closing)
      (e.publishAndAnswer requestId) := by
  unfold Endpoint.publishAndAnswer
  cases hp : e.publishes with
  | true => exact .written he hp
  | false => exact .closing rfl

/-- The publish node reads the row: approved or final it publishes, else it stops. -/
theorem At.written_step {o : Op} {next : o.Outcome → StoreTask Response} {s : ReviewState}
    (h : At env requestId row₀ req .written (.op o next))
    (hrow : r.audit = some (row₀.withState s)) :
    o.Keeps ∧ (∃ k, .op o next = (node17Publish requestId).bind k) ∧
      (∃ e, req.endpoint env requestId = .ok e ∧ e.publishes = true) ∧
      At env requestId row₀ req
        (if s = .approved ∨ s = .final then .publishing else .closing) (next (r.effect o).1) := by
  generalize ht : Task.op o next = t at h
  cases h with
  | written he hp =>
    next e =>
    refine ⟨?_, ⟨e.finish, rfl⟩, ⟨e, he, hp⟩, ?_⟩
    · cases ht
      exact ⟨rfl, rfl⟩
    · cases ht
      change At env requestId row₀ req _
        (Async.Task.bind (Async.Task.op Op.getReviewDecisions _) e.finish)
      -- the row is still one to publish, or another request has changed it in between
      split
      · next hstate =>
        refine .publishing he hp (.inr ⟨rfl, fun r' => ?_⟩)
        change Finishing (publishRead requestId r.audit r'.decisions)
        rw [hrow]
        exact finishing_publishRead r'.decisions hstate
      · next hstate =>
        refine .closing
          (Task.Always.bind (Q := fun _ => True) ⟨⟨rfl, rfl⟩, fun x => ?_⟩ fun _ _ => rfl)
        cases x with
        | none => trivial
        | some decisions =>
          change (publishRead requestId r.audit decisions).Always Op.Keeps _
          rw [hrow]
          unfold publishRead
          simp only [AuditRow.reviewState_withState]
          cases s with
          | approved => exact absurd (.inl rfl) hstate
          | final => exact absurd (.inr rfl) hstate
          | _ => trivial

/-- A publishing request copies, or writes `final` and is done. The copies and the approval log keep
the audit row. -/
theorem At.publishing_step {o : Op} {next : o.Outcome → StoreTask Response}
    (h : At env requestId row₀ req .publishing (.op o next)) :
    (o.keepsAudit = true ∧ At env requestId row₀ req .publishing (next (r.effect o).1)) ∨
      (o = .updateReviewState .final ∧
        At env requestId row₀ req .closing (next (r.effect o).1)) := by
  generalize ht' : Task.op o next = t at h
  cases h with
  | publishing he hp ht =>
    next e t₀ =>
    cases t₀ with
    | ret a => exact ht.elim
    | op o' next' =>
      cases ht'
      rcases ht with ⟨rfl, hnext⟩ | ⟨hkeep, hnext⟩
      · obtain ⟨a, ha⟩ := hnext (r.effect (.updateReviewState .final)).1
        refine .inr ⟨rfl, ?_⟩
        dsimp only
        rw [ha]
        exact .closing rfl
      · exact .inl ⟨hkeep, .publishing he hp (hnext r)⟩

/-- A request whose writes are done performs operations that nobody notices, and stays so. -/
theorem At.closing_step {o : Op} {next : o.Outcome → StoreTask Response}
    (h : At env requestId row₀ req .closing (.op o next)) :
    o.Keeps ∧ At env requestId row₀ req .closing (next (r.effect o).1) := by
  generalize ht' : Task.op o next = t at h
  cases h with
  | closing ht =>
    subst ht'
    exact ⟨ht.1, .closing (ht.2 _)⟩

/-- A request that was refused performs operations that nobody notices, and stays so. -/
theorem At.refused_step {o : Op} {next : o.Outcome → StoreTask Response}
    (h : At env requestId row₀ req .refused (.op o next)) :
    o.Keeps ∧ At env requestId row₀ req .refused (next (r.effect o).1) := by
  generalize ht' : Task.op o next = t at h
  cases h with
  | refused ht =>
    subst ht'
    exact ⟨ht.1, .refused (ht.2 _)⟩

/-- A request that has returned is closing if its answer is a 2xx, and refused otherwise. In the
phases before, there is still an operation to perform. -/
theorem At.of_ret {p : Phase} {a : Response} (h : At env requestId row₀ req p (.ret a)) :
    p = if a.isOk then .closing else .refused := by
  generalize ht' : Task.ret a = t at h
  cases h with
  -- the phases before the end still have an operation to perform
  | serve he =>
    unfold Endpoint.serve at ht'
    split at ht'
    · cases ht'
    · cases ht'
  | readAudit he job => cases ht'
  | checked he hcheck hs ht =>
    rcases ht with ht | ht | ht
    · unfold Endpoint.decide at ht
      split at ht
      · rw [ht] at ht'; cases ht'
      · rw [ht] at ht'; cases ht'
    · rw [ht] at ht'; cases ht'
    · rw [ht] at ht'; cases ht'
  | written he hp => cases ht'
  | publishing he hp ht =>
    next e t₀ =>
    cases t₀ with
    | ret b => exact ht.elim
    | op o next => cases ht'
  | closing ht =>
    subst ht'
    have hok : a.isOk = true := ht
    rw [hok]
    rfl
  | refused ht =>
    subst ht'
    have hok : a.isOk = false := ht
    rw [hok]
    rfl

end DecisionCenter.Review
