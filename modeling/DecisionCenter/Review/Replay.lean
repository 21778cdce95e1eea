import DecisionCenter.Review.Effects

/-!
# Replaying the decisions of a report

Whether the review state of a report can be read off the actions of its `review_decisions` rows.
A cancellation is recorded under an action of its own. An approval, a rejection and a revision
request are all recorded as `approve`, and both override endpoints record `admin_override`, so
after any of them another history leaves the same actions and another state.

A history is a list of requests, each answered well, about a saved report. It leaves the report
saved, adds the action of each request to the decisions, and the last one leaves one of its own
states (`accepted_step`, `accepted_exec`); an approval has two, final and approved, as the
publication may be cut short.

`Replays` says that any other history with the same actions ends in the same state. To refute it
one needs such a history: the `rival` of a request is admitted wherever the request is, records
the same action and leaves none of its states. Every request but a cancellation has one, since
the checks of the handlers that share an action admit the same rows.

With every service up, a handler whose check passes answers well, so that the rival is indeed
served. `replays_iff` is exact over all histories: the actions determine the state just if the
history is empty or ends in a cancellation.
-/

namespace DecisionCenter.Review

open Async

variable {env : Env} {requestId : String}

/-- The answer to a request. -/
def answer (env : Env) (requestId : String) (r : Record) (s : Served) : Response :=
  ((s.request.handle env requestId).run (Record.act s.down) r).1

/-- Every request of the history is accepted. -/
def AcceptedHistory (env : Env) (requestId : String) (r : Record) (history : List Served) : Prop :=
  Run.Along (serve env requestId) (fun r s => (answer env requestId r s).isOk = true) r history

/-- The actions of the decisions about a report, oldest first. -/
def Record.actions (r : Record) : List String := (r.decisions.map (·.action)).reverse

/-- The actions that the history leaves determine the review state: every other history of
accepted requests with the same actions ends in the same state. -/
def Replays (env : Env) (requestId : String) (r : Record) (history : List Served) : Prop :=
  ∀ history', AcceptedHistory env requestId r history' →
    (Run.exec (serve env requestId) r history').actions =
      (Run.exec (serve env requestId) r history).actions →
    (Run.exec (serve env requestId) r history').reviewState? =
      (Run.exec (serve env requestId) r history).reviewState?

/-! ### Operations that record no decision -/

/-- The operation records no decision. -/
def Op.keepsDecisions : Op → Bool
  | .insertReviewDecision _ => false
  | _ => true

section Decisions

variable {down : Op → Bool} {r : Record}

private theorem decisions_act {o : Op} (h : o.keepsDecisions = true) :
    (r.act down o).2.decisions = r.decisions := by
  obtain ⟨-, hact⟩ | ⟨-, hact⟩ := r.act_cases down o
  · rw [hact]
  · rw [hact]
    cases o with
    | insertReviewDecision d => cases h
    | copyToFinal name =>
      dsimp only [Record.effect]
      split_ifs <;> rfl
    | _ => rfl

private theorem decisions_run {R : Type} {t : StoreTask R} {Q : R → Prop}
    (h : t.Always (fun o => o.keepsDecisions = true) Q) :
    (t.run (Record.act down) r).2.decisions = r.decisions := by
  induction t generalizing r with
  | ret x => rfl
  | op o next ih =>
    obtain ⟨ho, hnext⟩ := h
    rw [Task.run_op]
    have hrest := ih _ (r := (r.act down o).2) (hnext (r.act down o).1)
    exact hrest.trans (decisions_act ho)

/-- The publish node records no decision. -/
theorem keepsDecisions_node17Publish :
    (node17Publish requestId).Always (fun o => o.keepsDecisions = true) fun _ => True :=
  always_node17Publish rfl rfl (fun _ _ => rfl) (fun _ => rfl) rfl

end Decisions

/-! ### Accepted requests -/

namespace Endpoint

variable {e : Endpoint} {down : Op → Bool} {r : Record}

/-- A call that is answered well did not raise, and what follows it answers well. -/
theorem isOk_call {o : Op} {next : o.Result → StoreTask Response}
    (h : ((call o next).run (Record.act down) r).1.isOk = true) :
    ∃ x, down o = false ∧ r.effect o = (some x, (r.effect o).2) ∧
      (call o next).run (Record.act down) r = (next x).run (Record.act down) (r.effect o).2 := by
  rw [run_call] at h ⊢
  obtain ⟨-, hact⟩ | ⟨hdown, hact⟩ := r.act_cases down o
  · rw [hact] at h
    cases h
  · rw [hact] at h ⊢
    cases hres : (r.effect o).1 with
    | none =>
      rw [hres] at h
      cases h
    | some x => exact ⟨x, hdown, by rw [← hres], rfl⟩

/-- Writing the state records no decision. -/
theorem decisions_write :
    ((e.write requestId).run (Record.act down) r).2.decisions = r.decisions := by
  have hpublish : (e.publishAndAnswer requestId).Always (fun o => o.keepsDecisions = true)
      fun _ => True := by
    rw [publishAndAnswer]
    split
    · exact keepsDecisions_node17Publish.bind fun _ _ => trivial
    · trivial
  have hwrite : (e.write requestId).Always (fun o => o.keepsDecisions = true) fun _ => True := by
    refine ⟨rfl, fun x => ?_⟩
    cases x with
    | none => trivial
    | some _ => exact hpublish
  exact decisions_run hwrite

private theorem accepted_write (h : ((e.write requestId).run (Record.act down) r).1.isOk = true) :
    down (.updateReviewState e.target) = false := by
  obtain ⟨-, hdown, -⟩ := isOk_call h
  exact hdown

private theorem accepted_recordDecision {row : AuditRow}
    (h : ((e.recordDecision requestId row).run (Record.act down) r).1.isOk = true) :
    down (.insertReviewDecision (e.decision row)) = false ∧
      down (.updateReviewState e.target) = false ∧
      ((e.recordDecision requestId row).run (Record.act down) r).2.decisions =
        e.decision row :: r.decisions := by
  obtain ⟨x, hdown, -, hrun⟩ := isOk_call h
  have hwrite := h
  rw [recordDecision, hrun] at hwrite
  refine ⟨hdown, accepted_write hwrite, ?_⟩
  rw [recordDecision, hrun, decisions_write]
  rfl

/-- A decision that is answered well has gone through, and was recorded. -/
private theorem accepted_decide {row : AuditRow}
    (h : ((e.decide requestId row).run (Record.act down) r).1.isOk = true) :
    e.GoesThrough down row ∧
      ((e.decide requestId row).run (Record.act down) r).2.decisions =
        e.decision row :: r.decisions := by
  rw [GoesThrough, Endpoint.decide] at *
  cases hev : e.event row with
  | none =>
    rw [hev] at h
    obtain ⟨hdec, hstate, hdecs⟩ := accepted_recordDecision h
    exact ⟨⟨fun _ hev => (by cases hev), hdec, hstate⟩, hdecs⟩
  | some ev =>
    rw [hev] at h
    obtain ⟨x, hdown, -, hrun⟩ := isOk_call h
    have hrecord := h
    rw [hrun] at hrecord ⊢
    obtain ⟨hdec, hstate, hdecs⟩ := accepted_recordDecision hrecord
    refine ⟨⟨fun ev' hev' => ?_, hdec, hstate⟩, hdecs⟩
    obtain rfl : ev = ev' := Option.some.inj hev'
    exact hdown

/-- A request about a saved report that is answered well was accepted by its handler, and left
its decision. -/
theorem accepted_serve {row : AuditRow} (hrow : r.audit = some row)
    (h : ((e.serve requestId).run (Record.act down) r).1.isOk = true) :
    e.Accepts down r row ∧
      ((e.serve requestId).run (Record.act down) r).2.decisions =
        e.decision row :: r.decisions := by
  -- from the read of the audit row on, both kinds of request go the same way
  have hread : ∀ job, ((e.readAudit requestId job).run (Record.act down) r).1.isOk = true →
      down .getAudit = false ∧ e.check row = .ok () ∧ e.GoesThrough down row ∧
        ((e.readAudit requestId job).run (Record.act down) r).2.decisions =
          e.decision row :: r.decisions := by
    intro job hok
    obtain ⟨audit, hdown, heff, hrun⟩ := isOk_call hok
    obtain rfl : some row = audit := by
      rw [← hrow]
      exact Option.some.inj (congrArg Prod.fst heff)
    rw [readAudit, hrun] at hok ⊢
    rw [checked] at hok ⊢
    cases hcheck : e.check row with
    | error err =>
      rw [hcheck] at hok
      cases hok
    | ok u =>
      rw [hcheck] at hok
      obtain ⟨hgo, hdecs⟩ := accepted_decide hok
      exact ⟨hdown, rfl, hgo, hdecs⟩
  rw [serve] at h ⊢
  split at h
  · next hjob =>
    obtain ⟨job, hdown, -, hrun⟩ := isOk_call h
    rw [if_pos hjob]
    rw [hrun] at h ⊢
    obtain ⟨haudit, hcheck, hgo, hdecs⟩ := hread job h
    exact ⟨⟨hrow, fun _ => hdown, haudit, hcheck, hgo⟩, hdecs⟩
  · next hjob =>
    rw [if_neg hjob]
    obtain ⟨haudit, hcheck, hgo, hdecs⟩ := hread none h
    exact ⟨⟨hrow, fun hj => absurd hj hjob, haudit, hcheck, hgo⟩, hdecs⟩

end Endpoint

/-! ### Actions and outcomes -/

/-- The action that the handler of the request records. -/
def Request.recordedAction : Request → String
  | .approve _ _ => "approve"
  | .reject _ _ => "approve"
  | .requestRevision _ _ _ => "approve"
  | .cancel _ => "report.cancelled"
  | .overrideApprove _ _ => "admin_override"
  | .overrideReject _ _ => "admin_override"

private theorem action_decision {req : Request} {e : Endpoint}
    (he : req.endpoint env requestId = .ok e) (row : AuditRow) :
    (e.decision row).action = req.recordedAction := by
  obtain ⟨_, _, c, rfl, -, rfl⟩ | ⟨_, _, c, rfl, -, rfl⟩ | ⟨_, _, _, c, rfl, -, rfl⟩ |
    ⟨_, c, rfl, -, rfl⟩ | ⟨_, _, c, rfl, -, rfl⟩ | ⟨_, _, c, rfl, -, rfl⟩ :=
      Request.endpoint_cases he <;> rfl

/-- The states that an accepted request can leave: the target, and `final` where it publishes. -/
def Endpoint.Leaves (e : Endpoint) (s : ReviewState) : Prop :=
  s = e.target ∨ (e.publishes = true ∧ s = .final)

/-- An accepted request leaves a row in one of its states, and adds its action. A publication may
end in `final` or be stopped by a fault before it. -/
theorem accepted_step {r : Record} {row : AuditRow} {s : Served} (hrow : r.audit = some row)
    (h : (answer env requestId r s).isOk = true) :
    ∃ e state, s.request.endpoint env requestId = .ok e ∧ e.check row = .ok () ∧
      (serve env requestId r s).audit = some { row with reviewState := state } ∧
      e.Leaves state ∧
      (serve env requestId r s).actions = r.actions ++ [s.request.recordedAction] := by
  rw [answer, Request.handle] at h
  cases he : s.request.endpoint env requestId with
  | error err =>
    rw [he] at h
    cases h
  | ok e =>
    rw [he] at h
    obtain ⟨hacc, hdecs⟩ := Endpoint.accepted_serve hrow h
    have hserve : serve env requestId r s = ((e.serve requestId).run (Record.act s.down) r).2 := by
      rw [serve, Request.handle, he]
    have hserved : e.Served s.down r ((e.serve requestId).run (Record.act s.down) r).2 :=
      Endpoint.served_serve requestId (Request.quiet_endpoint he)
    obtain ⟨row', hacc', hwrote⟩ | ⟨hnot, -⟩ := hserved
    · obtain rfl : row' = row := Option.some.inj (hacc'.row_eq.symm.trans hrow)
      obtain ⟨state, haudit, hstate⟩ := hwrote.audit
      refine ⟨e, state, rfl, hacc.check_ok, by rw [hserve, haudit], hstate, ?_⟩
      rw [hserve, Record.actions, hdecs, List.map_cons, List.reverse_cons,
        action_decision he row']
      rfl
    · exact absurd ⟨row, hacc⟩ hnot

/-- A history of accepted requests about a saved report leaves it saved, and adds the action of
each. -/
theorem accepted_exec {history : List Served} : ∀ {r : Record} {row : AuditRow},
    r.audit = some row → AcceptedHistory env requestId r history →
    (∃ row', (Run.exec (serve env requestId) r history).audit = some row') ∧
      (Run.exec (serve env requestId) r history).actions =
        r.actions ++ history.map (·.request.recordedAction) := by
  induction history with
  | nil =>
    intro r row hrow _
    exact ⟨⟨row, hrow⟩, (List.append_nil _).symm⟩
  | cons s history ih =>
    rintro r row hrow ⟨hok, hhist⟩
    obtain ⟨e, state, -, -, haudit, -, hact⟩ := accepted_step hrow hok
    obtain ⟨hsaved, hactions⟩ := ih haudit hhist
    refine ⟨hsaved, ?_⟩
    rw [Run.exec_cons, hactions, hact, List.append_assoc]
    rfl

/-! ### A rival of every decision but a cancellation -/

/-- A request that leaves the same action and another state. -/
def Request.rival : Request → Option Request
  | .approve claims _ => some (.reject claims ⟨"Insufficient evidence", by decide⟩)
  | .reject claims reason => some (.requestRevision claims reason none)
  | .requestRevision claims reason _ => some (.reject claims reason)
  | .cancel _ => none
  | .overrideApprove claims comment => some (.overrideReject claims comment)
  | .overrideReject claims comment => some (.overrideApprove claims comment)

private theorem checkOverride_congr {claims : Claims} {detail detail' : String} {row : AuditRow}
    (h : checkOverride env claims detail row = .ok ()) :
    checkOverride env claims detail' row = .ok () := by
  rw [checkOverride] at h ⊢
  split_ifs at h ⊢
  exact h

private theorem endpoint_of_reviewer {claims : Option Claims} {c : Claims} {f : Claims → Endpoint}
    (h : reviewer claims = .ok c) : (reviewer claims).map f = .ok (f c) := by
  rw [h]
  rfl

/-- The rival is admitted wherever the request is, records the same action, and leaves none of
its states. -/
theorem rival_spec {req req' : Request} {e : Endpoint} {row : AuditRow}
    (he : req.endpoint env requestId = .ok e) (hcheck : e.check row = .ok ())
    (hreq : req.rival = some req') :
    ∃ e', req'.endpoint env requestId = .ok e' ∧ e'.check row = .ok () ∧
      req'.recordedAction = req.recordedAction ∧
      ∀ s s', e.Leaves s → e'.Leaves s' → s' ≠ s := by
  obtain ⟨claims, comment, c, rfl, hc, rfl⟩ | ⟨claims, reason, c, rfl, hc, rfl⟩ |
    ⟨claims, reason, comment, c, rfl, hc, rfl⟩ | ⟨claims, c, rfl, hc, rfl⟩ |
    ⟨claims, comment, c, rfl, hc, rfl⟩ | ⟨claims, comment, c, rfl, hc, rfl⟩ :=
      Request.endpoint_cases he
  -- approve against reject
  · cases hreq
    refine ⟨_, endpoint_of_reviewer hc, ?_, rfl, ?_⟩
    · exact checkNotFinal_ok.mpr (approveReport_check.mp hcheck).1
    · intro s s' hs hs'
      simp only [Endpoint.Leaves, approveReport, rejectReport] at hs hs'
      grind
  · cases hreq
    refine ⟨_, endpoint_of_reviewer hc, hcheck, rfl, ?_⟩
    intro s s' hs hs'
    simp only [Endpoint.Leaves, rejectReport, Review.requestRevision] at hs hs'
    grind
  · cases hreq
    refine ⟨_, endpoint_of_reviewer hc, hcheck, rfl, ?_⟩
    intro s s' hs hs'
    simp only [Endpoint.Leaves, rejectReport, Review.requestRevision] at hs hs'
    grind
  · cases hreq
  · cases hreq
    refine ⟨adminOverrideReject env requestId c comment, ?_, checkOverride_congr hcheck, rfl, ?_⟩
    · rw [Request.endpoint, hc]
      rfl
    · intro s s' hs hs'
      simp only [Endpoint.Leaves, adminOverrideApprove, adminOverrideReject] at hs hs'
      grind
  · cases hreq
    refine ⟨adminOverrideApprove env requestId c comment, ?_, checkOverride_congr hcheck, rfl, ?_⟩
    · rw [Request.endpoint, hc]
      rfl
    · intro s s' hs hs'
      simp only [Endpoint.Leaves, adminOverrideApprove, adminOverrideReject] at hs hs'
      grind

/-! ### Requests served with every service up -/

/-- No operation raises. -/
def up : Op → Bool := fun _ => false

section Up

variable {e : Endpoint} {r : Record}

private theorem isOk_publishAndAnswer (down : Op → Bool) :
    ((e.publishAndAnswer requestId).run (Record.act down) r).1.isOk = true := by
  rw [Endpoint.publishAndAnswer]
  split
  · rw [Task.run_bind']
    rfl
  · rfl

private theorem isOk_recordDecision_up (row : AuditRow) :
    ((e.recordDecision requestId row).run (Record.act up) r).1.isOk = true := by
  rw [Endpoint.recordDecision, Endpoint.run_call]
  change ((e.write requestId).run (Record.act up) _).1.isOk = true
  rw [Endpoint.write, Endpoint.run_call]
  exact isOk_publishAndAnswer up

private theorem isOk_decide_up (row : AuditRow) :
    ((e.decide requestId row).run (Record.act up) r).1.isOk = true := by
  rw [Endpoint.decide]
  split
  · next ev hev =>
    rw [Endpoint.run_call]
    exact isOk_recordDecision_up row
  · exact isOk_recordDecision_up row

/-- With every service up, a handler whose check passes answers well. -/
theorem isOk_serve_up {row : AuditRow} (hrow : r.audit = some row) (hcheck : e.check row = .ok ()) :
    ((e.serve requestId).run (Record.act up) r).1.isOk = true := by
  have hread : ∀ job, ((e.readAudit requestId job).run (Record.act up) r).1.isOk = true := by
    intro job
    rw [Endpoint.readAudit, Endpoint.run_call]
    change ((e.checked requestId job r.audit).run (Record.act up) r).1.isOk = true
    rw [hrow, Endpoint.checked, hcheck]
    exact isOk_decide_up row
  rw [Endpoint.serve]
  split
  · rw [Endpoint.run_call]
    exact hread r.job
  · exact hread none

private theorem isOk_answer_up {req : Request} {row : AuditRow}
    (he : req.endpoint env requestId = .ok e) (hrow : r.audit = some row)
    (hcheck : e.check row = .ok ()) : (answer env requestId r ⟨req, up⟩).isOk = true := by
  rw [answer, Request.handle, he]
  exact isOk_serve_up hrow hcheck

end Up

/-! ### Which histories replay -/

/-- The last request is a cancellation, or there was none. -/
def EndsCancelled (history : List Served) : Prop :=
  ∀ s, history.getLast? = some s → ∃ claims, s.request = .cancel claims

/-- A history that ends in anything but a cancellation has a rival. The rival is accepted in the
same state, leaves the same action and another state. -/
theorem not_replays_of_rival {r : Record} {row : AuditRow} {before : List Served} {s : Served}
    {req' : Request} (hrow : r.audit = some row)
    (hacc : AcceptedHistory env requestId r (before ++ [s])) (hreq : s.request.rival = some req') :
    ¬ Replays env requestId r (before ++ [s]) := by
  intro h
  obtain ⟨hbefore, hok, -⟩ := Run.along_append.mp hacc
  obtain ⟨⟨row₁, hrow₁⟩, hact₁⟩ := accepted_exec hrow hbefore
  obtain ⟨e, state, he, hcheck, haudit, hleaves, hact⟩ := accepted_step hrow₁ hok
  obtain ⟨e', he', hcheck', hsame, hdiff⟩ := rival_spec he hcheck hreq
  have hok' := isOk_answer_up he' hrow₁ hcheck'
  obtain ⟨e'', state', he'', -, haudit', hleaves', hact'⟩ := accepted_step hrow₁ hok'
  obtain rfl : e'' = e' := Except.ok.inj (he''.symm.trans he')
  have hacc' : AcceptedHistory env requestId r (before ++ [⟨req', up⟩]) :=
    Run.along_append.mpr ⟨hbefore, hok', trivial⟩
  have heq := h (before ++ [⟨req', up⟩]) hacc' (by
    rw [Run.exec_append, Run.exec_append, Run.exec_cons, Run.exec_cons, Run.exec_nil,
      Run.exec_nil, hact, hact', hsame])
  rw [Run.exec_append, Run.exec_append, Run.exec_cons, Run.exec_cons, Run.exec_nil,
    Run.exec_nil, Record.reviewState?, haudit', Record.reviewState?, haudit] at heq
  exact hdiff state state' hleaves hleaves' (Option.some.inj heq)

private theorem rival_eq_none {req : Request} (h : req.rival = none) :
    ∃ claims, req = .cancel claims := by
  cases req with
  | cancel claims => exact ⟨claims, rfl⟩
  | approve claims comment => cases h
  | reject claims reason => cases h
  | requestRevision claims reason comment => cases h
  | overrideApprove claims comment => cases h
  | overrideReject claims comment => cases h

/-- Only a cancellation is recorded as one. -/
theorem cancel_of_recordedAction {req : Request} (h : req.recordedAction = "report.cancelled") :
    ∃ claims, req = .cancel claims := by
  have happrove : "approve" ≠ "report.cancelled" := by decide
  have hoverride : "admin_override" ≠ "report.cancelled" := by decide
  cases req with
  | cancel claims => exact ⟨claims, rfl⟩
  | approve claims comment => exact absurd h happrove
  | reject claims reason => exact absurd h happrove
  | requestRevision claims reason comment => exact absurd h happrove
  | overrideApprove claims comment => exact absurd h hoverride
  | overrideReject claims comment => exact absurd h hoverride

/-- An accepted history that ends in a cancellation leaves the report cancelled. -/
theorem reviewState?_cancelled {r : Record} {row : AuditRow} {before : List Served} {s : Served}
    (hrow : r.audit = some row) (hacc : AcceptedHistory env requestId r (before ++ [s]))
    (hs : ∃ claims, s.request = .cancel claims) :
    (Run.exec (serve env requestId) r (before ++ [s])).reviewState? = some .cancelled := by
  obtain ⟨hbefore, hok, -⟩ := Run.along_append.mp hacc
  obtain ⟨⟨row₁, hrow₁⟩, -⟩ := accepted_exec hrow hbefore
  obtain ⟨e, state, he, -, haudit, hleaves, -⟩ := accepted_step hrow₁ hok
  obtain ⟨claims, hreq⟩ := hs
  rw [hreq] at he
  obtain ⟨c, -, rfl⟩ := map_eq_ok he
  obtain rfl : state = .cancelled := by
    obtain rfl | ⟨hp, -⟩ := hleaves
    · rfl
    · cases hp
  rw [Run.exec_append, Run.exec_cons, Run.exec_nil, Record.reviewState?, haudit]
  rfl

/-- The actions that a history of accepted requests leaves determine the review state of a saved
report exactly when the history is empty or ends in a cancellation. Behind any other last request
there is a rival, served in its place, which leaves the same actions and another state. -/
theorem replays_iff {r : Record} {row : AuditRow} (hrow : r.audit = some row)
    {history : List Served} (hacc : AcceptedHistory env requestId r history) :
    Replays env requestId r history ↔ EndsCancelled history := by
  constructor
  · intro h s hs
    obtain ⟨before, rfl⟩ := List.getLast?_eq_some_iff.mp hs
    cases hreq : s.request.rival with
    | none => exact rival_eq_none hreq
    | some req' => exact absurd h (not_replays_of_rival hrow hacc hreq)
  · intro h history' hacc' hact
    have hsame : history'.map (·.request.recordedAction) =
        history.map (·.request.recordedAction) := by
      rw [(accepted_exec hrow hacc').2, (accepted_exec hrow hacc).2] at hact
      exact List.append_cancel_left hact
    obtain rfl | ⟨before, s, rfl⟩ := history.eq_nil_or_concat'
    · obtain rfl : history' = [] := List.map_eq_nil_iff.mp hsame
      rfl
    · have hs := h s List.getLast?_concat
      obtain rfl | ⟨before', s', rfl⟩ := history'.eq_nil_or_concat'
      · simp at hsame
      · rw [reviewState?_cancelled hrow hacc hs]
        refine reviewState?_cancelled hrow hacc' (cancel_of_recordedAction ?_)
        rw [List.map_append, List.map_append, List.map_singleton, List.map_singleton] at hsame
        obtain ⟨-, hlast⟩ := List.append_inj' hsame rfl
        obtain ⟨claims, hreq⟩ := hs
        rw [List.cons.injEq] at hlast
        rw [hlast.1, hreq]
        rfl

/-- A finance reviewer approves the report. -/
def approvedHistory : List Served := [⟨.approve (some ⟨"reviewer", some "finance"⟩) none, up⟩]

/-- The requester cancels the report. -/
def cancelledHistory : List Served := [⟨.cancel (some ⟨"requester", some "finance"⟩), up⟩]

/-- An approval and a cancellation behind it. -/
theorem replays_cancelledHistory :
    Replays bypassEnv "r1" stagedReport cancelledHistory ↔ EndsCancelled cancelledHistory :=
  @replays_iff _ _ stagedReport ⟨"requester", some "P1", .passed, .staging, true, []⟩ rfl
    cancelledHistory ⟨by decide, trivial⟩

/-- A rejection leaves the same actions as the approval. -/
theorem not_replays_approvedHistory :
    ¬ (AcceptedHistory bypassEnv "r1" stagedReport approvedHistory →
    Replays bypassEnv "r1" stagedReport approvedHistory) := by
  intro h
  have hacc : AcceptedHistory bypassEnv "r1" stagedReport approvedHistory := ⟨by decide, trivial⟩
  have hrejected : AcceptedHistory bypassEnv "r1" stagedReport
      [⟨.reject (some ⟨"reviewer", some "finance"⟩) ⟨"Insufficient evidence", by decide⟩, up⟩] :=
    ⟨by decide, trivial⟩
  have heq := h hacc _ hrejected (by decide)
  revert heq
  decide

end DecisionCenter.Review
