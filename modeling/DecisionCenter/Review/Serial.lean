import DecisionCenter.Review.Effects

/-!
# Requests served alone

The abstract review machine: what an accepted request makes of the review state. With the
services up, a handler that is served alone takes exactly this step, publishing included, so a
serial order of requests is a run of the machine.

The machine has a state of the report and for each request a next one, or none where the
handler's check refuses it; publishing is part of the step, so that an approval leads to `final`
at once. It has the two facts on which orders of requests depend. A report that is final is
accepted by no handler, and a rejected one by no handler that publishes.

That the handlers take this step is proved from their tasks. With the services up every
operation has its effect, so that a task can be run to its end; what the publish node still has
to do behind its read is called finishing, and a finishing task leaves the row final whatever
copies succeed (`Finishing.audit_run`). A handler that accepts the row leaves the outcome of the
machine, and any other one leaves the row as it was (`Endpoint.served_effect`).

`audit_serial` is the induction over a list of requests. That final objects belong to final
reports only is carried along in the same way. `Review.Serializability` compares an interleaving
with such a run.
-/

namespace DecisionCenter.Review

open Async

/-! ### The machine -/

namespace AuditRow

/-- The row with another review state. -/
def withState (row : AuditRow) (s : ReviewState) : AuditRow := { row with reviewState := s }

@[simp] theorem reviewState_withState (row : AuditRow) (s : ReviewState) :
    (row.withState s).reviewState = s := rfl

end AuditRow

/-- The review state an accepted request ends in. -/
def Endpoint.outcome (e : Endpoint) : ReviewState := if e.publishes then .final else e.target

/-- The step of the machine: the handler refuses the row, or leaves its outcome. -/
def Endpoint.next (e : Endpoint) (row : AuditRow) (s : ReviewState) : ReviewState :=
  match e.check (row.withState s) with
  | .ok _ => e.outcome
  | .error _ => s

variable {env : Env} {requestId : String}

/-- The step of a request; a caller who is not admitted changes nothing. -/
def Request.next (env : Env) (requestId : String) (row : AuditRow) (req : Request)
    (s : ReviewState) : ReviewState :=
  match req.endpoint env requestId with
  | .ok e => e.next row s
  | .error _ => s

/-- A run of the machine. -/
def serialState (env : Env) (requestId : String) (row : AuditRow) (order : List Request)
    (s : ReviewState) : ReviewState :=
  order.foldl (fun s req => req.next env requestId row s) s

/-- An accepted request leads to its outcome. -/
theorem Endpoint.next_of_ok {e : Endpoint} {row : AuditRow} {s : ReviewState}
    (h : e.check (row.withState s) = .ok ()) : e.next row s = e.outcome := by
  unfold next
  rw [h]

/-- One that is refused leaves the state. -/
theorem Endpoint.next_of_error {e : Endpoint} {row : AuditRow} {s : ReviewState}
    (h : e.check (row.withState s) ≠ .ok ()) : e.next row s = s := by
  unfold next
  split
  · next u hu => exact absurd hu h
  · rfl

/-- Requests in two parts. -/
theorem serialState_append (row : AuditRow) (order order' : List Request) (s : ReviewState) :
    serialState env requestId row (order ++ order') s =
      serialState env requestId row order' (serialState env requestId row order s) :=
  List.foldl_append

/-- No handler accepts a final report. -/
theorem check_final {req : Request} {e : Endpoint} {row : AuditRow}
    (he : req.endpoint env requestId = .ok e) (hrow : row.reviewState = .final) :
    e.check row ≠ .ok () := by
  intro hcheck
  rcases Request.endpoint_cases he with ⟨_, _, c, -, -, rfl⟩ | ⟨_, _, c, -, -, rfl⟩ |
    ⟨_, _, _, c, -, -, rfl⟩ | ⟨_, c, -, -, rfl⟩ | ⟨_, _, c, -, -, rfl⟩ | ⟨_, _, c, -, -, rfl⟩
  · exact (approveReport_check.mp hcheck).1 hrow
  · exact checkNotFinal_ok.mp hcheck hrow
  · exact checkNotFinal_ok.mp hcheck hrow
  · exact cancelReport_check hcheck (by rw [hrow]; decide)
  · have hstaging := (checkOverride_ok hcheck).1
    rw [hrow] at hstaging
    cases hstaging
  · have hstaging := (checkOverride_ok hcheck).1
    rw [hrow] at hstaging
    cases hstaging

/-- The publishing handlers write `approved`. -/
theorem target_of_publishes {req : Request} {e : Endpoint}
    (he : req.endpoint env requestId = .ok e) (hp : e.publishes = true) :
    e.target = .approved := by
  rcases Request.endpoint_cases he with ⟨_, _, c, -, -, rfl⟩ | ⟨_, _, c, -, -, rfl⟩ |
    ⟨_, _, _, c, -, -, rfl⟩ | ⟨_, c, -, -, rfl⟩ | ⟨_, _, c, -, -, rfl⟩ | ⟨_, _, c, -, -, rfl⟩
  · rfl
  · cases hp
  · cases hp
  · cases hp
  · rfl
  · cases hp

/-- The publishing handlers refuse a rejected report. -/
theorem check_rejected {req : Request} {e : Endpoint} {row : AuditRow}
    (he : req.endpoint env requestId = .ok e) (hp : e.publishes = true)
    (hrow : row.reviewState = .rejected) : e.check row ≠ .ok () := by
  intro hcheck
  rcases Request.endpoint_cases he with ⟨_, _, c, -, -, rfl⟩ | ⟨_, _, c, -, -, rfl⟩ |
    ⟨_, _, _, c, -, -, rfl⟩ | ⟨_, c, -, -, rfl⟩ | ⟨_, _, c, -, -, rfl⟩ | ⟨_, _, c, -, -, rfl⟩
  · exact (approveReport_check.mp hcheck).2 hrow
  · cases hp
  · cases hp
  · cases hp
  · have hstaging := (checkOverride_ok hcheck).1
    rw [hrow] at hstaging
    cases hstaging
  · cases hp

/-- Once final, the machine stays final. -/
theorem Request.next_final (row : AuditRow) (req : Request) :
    req.next env requestId row .final = .final := by
  unfold Request.next
  split
  · next e he => exact Endpoint.next_of_error (check_final he rfl)
  · rfl

/-! ### The handlers take the machine's step -/

/-- With the services up, an operation has its effect. -/
theorem act_up : Record.act (fun _ => false) = Record.effect := by
  funext o r
  rfl

/-- The task writes `final` as its last operation and the audit row in no other. -/
def Finishing {R : Type} : StoreTask R → Prop
  | .ret _ => False
  | .op o next => (o = .updateReviewState .final ∧ ∀ x, ∃ a, next x = .ret a) ∨
      (o.keepsAudit = true ∧ ∀ r : Record, Finishing (next (r.effect o).1))

/-- An operation that keeps the audit row does so where it takes effect. -/
theorem audit_effect {o : Op} {r : Record} (h : o.keepsAudit = true) :
    (r.effect o).2.audit = r.audit := by
  rw [← act_up]
  exact audit_act h

/-- An operation that keeps the final objects does so where it takes effect. -/
theorem final_effect {o : Op} {r : Record} (h : o.keepsFinal = true) :
    (r.effect o).2.final = r.final := by
  rw [← act_up]
  exact final_act h

/-- A finishing task leaves the row final. -/
theorem Finishing.audit_run {R : Type} {t : StoreTask R} (h : Finishing t) (r : Record) :
    (t.run Record.effect r).2.audit = (r.setReviewState .final).audit := by
  induction t generalizing r with
  | ret a => exact h.elim
  | op o next ih =>
    rcases h with ⟨rfl, hnext⟩ | ⟨hkeep, hnext⟩
    · obtain ⟨a, ha⟩ := hnext (r.effect (.updateReviewState .final)).1
      rw [Task.run_op, ha]
      rfl
    · rw [Task.run_op, ih _ (hnext r), Record.audit_setReviewState, Record.audit_setReviewState,
        audit_effect hkeep]

private theorem finishing_finalize (keys : List String) (errors : List PublishError) :
    Finishing (finalize keys errors) :=
  .inl ⟨rfl, fun _ => ⟨_, rfl⟩⟩

private theorem finishing_writeApprovalLog (row : AuditRow) (decisions : List Decision)
    (keys : List String) (errors : List PublishError) :
    Finishing (writeApprovalLog requestId row decisions keys errors) := by
  unfold writeApprovalLog
  split
  · exact .inr ⟨rfl, fun r => finishing_finalize _ _⟩
  · exact finishing_finalize _ _

private theorem finishing_copyArtifacts (row : AuditRow) (decisions : List Decision)
    (names keys : List String) (errors : List PublishError) :
    Finishing (copyArtifacts requestId row decisions names keys errors) := by
  induction names generalizing keys errors with
  | nil => exact finishing_writeApprovalLog _ _ _ _
  | cons name names ih =>
    refine .inr ⟨rfl, fun r => ?_⟩
    cases (r.effect (.copyToFinal name)).1 with
    | none => exact ih _ _
    | some _ => exact ih _ _

/-- What the publish node still does after reading an approved or final row. -/
theorem finishing_publishRead {row : AuditRow} (decisions : List Decision)
    (h : row.reviewState = .approved ∨ row.reviewState = .final) :
    Finishing (publishRead requestId (some row) decisions) := by
  rcases h with h | h
  · simpa [publishRead, h] using finishing_copyArtifacts row decisions artifactNames [] []
  · simpa [publishRead, h] using finishing_copyArtifacts row decisions artifactNames [] []

/-- A handler that accepts the row leaves its outcome. Nothing is down here: the faults are those of
interleavings. -/
theorem Endpoint.audit_serve {e : Endpoint} {r : Record} {row : AuditRow}
    (hrow : r.audit = some row) (hcheck : e.check row = .ok ())
    (htarget : e.publishes = true → e.target = .approved) :
    ((e.serve requestId).run Record.effect r).2.audit = some (row.withState e.outcome) := by
  -- backwards: from the publish node over the write of the state to the decision that is recorded
  have hpublish : ∀ r' : Record, r'.audit = some (row.withState e.target) →
      ((e.publishAndAnswer requestId).run Record.effect r').2.audit =
        some (row.withState e.outcome) := by
    intro r' hr'
    unfold publishAndAnswer outcome
    split
    · next hp =>
      have hread : Finishing (publishRead requestId r'.audit r'.decisions) := by
        rw [hr', htarget hp]
        exact finishing_publishRead r'.decisions (.inl rfl)
      rw [Task.run_bind', Task.run_ret]
      change ((publishRead requestId r'.audit r'.decisions).run Record.effect r').2.audit = _
      rw [hread.audit_run, Record.audit_setReviewState, hr']
      rfl
    · exact hr'
  have hwrite : ∀ r' : Record, r'.audit = some row →
      ((e.recordDecision requestId row).run Record.effect r').2.audit =
        some (row.withState e.outcome) := by
    intro r' hr'
    have hdecision : (r'.effect (.insertReviewDecision (e.decision row))).2.audit = some row :=
      (audit_effect rfl).trans hr'
    refine hpublish _ ?_
    change (Record.setReviewState _ e.target).audit = _
    rw [Record.audit_setReviewState, hdecision]
    rfl
  have hdecide : ∀ job, ((e.checked requestId job (some row)).run Record.effect r).2.audit =
      some (row.withState e.outcome) := by
    intro job
    simp only [checked, hcheck]
    unfold Endpoint.decide
    split
    · exact hwrite _ ((audit_effect rfl).trans hrow)
    · exact hwrite r hrow
  unfold serve
  split
  · change ((e.checked requestId r.job r.audit).run Record.effect r).2.audit = _
    rw [hrow]
    exact hdecide _
  · change ((e.checked requestId none r.audit).run Record.effect r).2.audit = _
    rw [hrow]
    exact hdecide _

/-- What serving a request alone does, with the services up. -/
theorem Endpoint.served_effect {req : Request} {e : Endpoint} (r : Record)
    (he : req.endpoint env requestId = .ok e) :
    e.Served (fun _ => false) r ((e.serve requestId).run Record.effect r).2 := by
  rw [← act_up]
  exact Endpoint.served_serve requestId (Request.quiet_endpoint he)

/-- The record after the requests of a list have been served one after another. -/
def serial (env : Env) (requestId : String) (r : Record) (order : List Request) : Record :=
  order.foldl (fun r req => ((req.handle env requestId).run Record.effect r).2) r

/-- A request served alone takes the machine's step. -/
theorem audit_handle {r : Record} {row : AuditRow} {s : ReviewState}
    (hrow : r.audit = some (row.withState s)) (req : Request) :
    ((req.handle env requestId).run Record.effect r).2.audit =
      some (row.withState (req.next env requestId row s)) := by
  unfold Request.handle Request.next
  cases he : req.endpoint env requestId with
  | error err => exact hrow
  | ok e =>
    dsimp only
    by_cases hcheck : e.check (row.withState s) = .ok ()
    · rw [Endpoint.next_of_ok hcheck,
        Endpoint.audit_serve hrow hcheck (target_of_publishes he)]
      rfl
    · rw [Endpoint.next_of_error hcheck]
      rcases Endpoint.served_effect r he with ⟨row', hacc, -⟩ | ⟨-, hu⟩
      · obtain rfl : row' = row.withState s := Option.some.inj (hacc.row_eq.symm.trans hrow)
        exact absurd hacc.check_ok hcheck
      · exact hu.1.trans hrow

/-- A serial order of requests is a run of the machine. -/
theorem audit_serial {r : Record} {row : AuditRow} {s : ReviewState}
    (hrow : r.audit = some (row.withState s)) (order : List Request) :
    (serial env requestId r order).audit =
      some (row.withState (serialState env requestId row order s)) := by
  induction order generalizing r s with
  | nil => exact hrow
  | cons req order ih => exact ih (audit_handle hrow req)

/-- Only a final report has objects under `final/`. -/
def FinalObjectsFinal (r : Record) : Prop := r.final ≠ [] → r.reviewState? = some .final

/-- A request served alone leaves final objects to final reports only. The publish node writes
`final` after its copies. -/
theorem FinalObjectsFinal.handle {r : Record} (h : FinalObjectsFinal r) (req : Request) :
    FinalObjectsFinal ((req.handle env requestId).run Record.effect r).2 := by
  unfold Request.handle
  cases he : req.endpoint env requestId with
  | error err => exact h
  | ok e =>
    rcases Endpoint.served_effect r he with ⟨row, hacc, hw⟩ | ⟨-, hu⟩
    · intro hobj
      cases hp : e.publishes with
      | true =>
        rw [Record.reviewState?, Endpoint.audit_serve hacc.row_eq hacc.check_ok
          (target_of_publishes he), Endpoint.outcome, hp]
        rfl
      | false =>
        -- the row that was accepted is not final, so there were no objects
        rw [hw.final hp] at hobj
        have hfinal := h hobj
        rw [Record.reviewState?, hacc.row_eq] at hfinal
        exact absurd hacc.check_ok (check_final he (Option.some.inj hfinal))
    · intro hobj
      rw [hu.2] at hobj
      rw [Record.reviewState?, hu.1]
      exact h hobj

/-- Requests that are served one after the other leave final objects to final reports only. -/
theorem FinalObjectsFinal.serial {r : Record} (h : FinalObjectsFinal r) (order : List Request) :
    FinalObjectsFinal (serial env requestId r order) := by
  induction order generalizing r with
  | nil => exact h
  | cons req order ih => exact ih (h.handle req)

private theorem audit_handle_none {r : Record} (hrow : r.audit = none) (req : Request) :
    ((req.handle env requestId).run Record.effect r).2.audit = none := by
  unfold Request.handle
  cases he : req.endpoint env requestId with
  | error err => exact hrow
  | ok e =>
    rcases Endpoint.served_effect r he with ⟨row, hacc, -⟩ | ⟨-, hu⟩
    · rw [hacc.row_eq] at hrow
      cases hrow
    · exact hu.1.trans hrow

/-- A report without an audit row has none after any requests. -/
theorem audit_serial_none {r : Record} (hrow : r.audit = none) (order : List Request) :
    (serial env requestId r order).audit = none := by
  induction order generalizing r with
  | nil => exact hrow
  | cons req order ih => exact ih (audit_handle_none hrow req)

end DecisionCenter.Review
