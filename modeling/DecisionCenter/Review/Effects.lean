import DecisionCenter.Review.Endpoints

/-!
# What a review request can do to a report

One inversion lemma for the publish node and one for the common body of the handlers: which
review state a served request leaves, and under which checks. Everything about sequences of
requests is derived from these.

The publish node is taken first. Having read the row, it publishes if the row is approved or
final and touches nothing otherwise (`publish_cases`); what it does when it publishes is
`Finalized`, in which any of its operations may have raised. Of the rest of its operations only
this matters, that they keep the audit row or the final objects, and there is a class of
operations for each (`Op.keepsAudit`, `Op.keepsFinal`).

A handler reads, checks, records and writes. `Endpoint.Accepts` says that it comes to its write,
with the row it has read and no operation in between that raises, and `Served` what then is
left. A handler that publishes leaves what the publish node makes of it; any other leaves its
target, and changes nothing else of the row. Where it does not accept, the row and the final
objects stay as they are (`served_serve`).

For the six requests the checks are computed once, each as a condition on the row
(`checkOverride_ok` and its siblings), and `serve_cases` is what the modules on runs start from.
That all operations of a request are operations of the review code is proved in passing, and
used where an invariant has to hold through each of them.
-/

namespace DecisionCenter.Review

open Async

variable {down : Op → Bool} {r : Record}

/-- The review states that `cancel_report` names terminal. -/
def terminalReviewStates : List ReviewState := [.final, .rejected, .cancelled]

/-! ### Operations that leave the audit row or the final objects alone -/

/-- The operation does not write the audit row. -/
def Op.keepsAudit : Op → Bool
  | .updateReviewState _ => false
  | .insertAudit _ => false
  | _ => true

/-- The operation does not write under `final/`. -/
def Op.keepsFinal : Op → Bool
  | .copyToFinal _ => false
  | .putApprovalLog _ => false
  | _ => true

/-- An operation that keeps the audit row does so whether it raises or not. -/
theorem audit_act {o : Op} (h : o.keepsAudit = true) : (r.act down o).2.audit = r.audit := by
  rcases r.act_cases down o with ⟨-, hact⟩ | ⟨-, hact⟩
  · rw [hact]
  · rw [hact]
    cases o with
    | updateReviewState s => exact absurd h (by simp [Op.keepsAudit])
    | insertAudit row => exact absurd h (by simp [Op.keepsAudit])
    | copyToFinal name =>
      dsimp only [Record.effect]
      split_ifs <;> rfl
    | _ => rfl

/-- An operation that keeps the final objects does so whether it raises or not. -/
theorem final_act {o : Op} (h : o.keepsFinal = true) : (r.act down o).2.final = r.final := by
  rcases r.act_cases down o with ⟨-, hact⟩ | ⟨-, hact⟩
  · rw [hact]
  · rw [hact]
    cases o with
    | copyToFinal name => exact absurd h (by simp [Op.keepsFinal])
    | putApprovalLog log => exact absurd h (by simp [Op.keepsFinal])
    | _ => rfl

/-- The audit row and the objects under `final/` are as before. -/
def Untouched (r r' : Record) : Prop := r'.audit = r.audit ∧ r'.final = r.final

/-- A report that stays is untouched. -/
theorem Untouched.refl (r : Record) : Untouched r r := ⟨rfl, rfl⟩

/-- A report that is untouched by two operations is so by both together. -/
theorem Untouched.trans {r r' r'' : Record} (h : Untouched r r') (h' : Untouched r' r'') :
    Untouched r r'' := ⟨h'.1.trans h.1, h'.2.trans h.2⟩

/-- An operation that keeps the row and the objects leaves the report untouched. -/
theorem untouched_act {o : Op} (ha : o.keepsAudit = true) (hf : o.keepsFinal = true) :
    Untouched r (r.act down o).2 := ⟨audit_act ha, final_act hf⟩

/-! ### The publish node -/

/-- The audit row is as before, or its review state has become final. -/
def Finalized (r r' : Record) : Prop :=
  r'.audit = r.audit ∨ r'.audit = (r.setReviewState .final).audit

/-- Preceding operations that keep the audit row do not matter. -/
theorem Finalized.of_audit {r₀ r r' : Record} (h : Finalized r r') (h₀ : r.audit = r₀.audit) :
    Finalized r₀ r' := by
  rcases h with h | h
  · exact .inl (h.trans h₀)
  · refine .inr (h.trans ?_)
    rw [Record.audit_setReviewState, Record.audit_setReviewState, h₀]

private theorem finalized_finalize (keys : List String) (errors : List PublishError) :
    Finalized r ((finalize keys errors).run (Record.act down) r).2 := by
  change Finalized r (r.act down (.updateReviewState .final)).2
  rcases r.act_cases down (.updateReviewState .final) with ⟨-, hact⟩ | ⟨-, hact⟩
  · rw [hact]
    exact .inl rfl
  · rw [hact]
    exact .inr rfl

private theorem finalized_writeApprovalLog (requestId : String) (row : AuditRow)
    (decisions : List Decision) (keys : List String) (errors : List PublishError) :
    Finalized r ((writeApprovalLog requestId row decisions keys errors).run
      (Record.act down) r).2 := by
  unfold writeApprovalLog
  split
  · next d _ =>
    rw [Task.run_op]
    have haudit : (r.act down (.putApprovalLog (approvalLogOf row keys d))).2.audit = r.audit :=
      audit_act rfl
    split
    · exact (finalized_finalize _ _).of_audit haudit
    · exact (finalized_finalize _ _).of_audit haudit
  · exact finalized_finalize _ _

private theorem finalized_copyArtifacts (requestId : String) (row : AuditRow)
    (decisions : List Decision) (names keys : List String) (errors : List PublishError) :
    Finalized r ((copyArtifacts requestId row decisions names keys errors).run
      (Record.act down) r).2 := by
  induction names generalizing keys errors r with
  | nil => exact finalized_writeApprovalLog _ _ _ _ _
  | cons name names ih =>
    rw [copyArtifacts, Task.run_op]
    have haudit : (r.act down (.copyToFinal name)).2.audit = r.audit := audit_act rfl
    split
    · exact (ih _ _).of_audit haudit
    · exact (ih _ _).of_audit haudit

/-- Having read the row as it is, the node publishes when it is approved or final. -/
theorem publishRead_cases (requestId : String) (decisions : List Decision)
    {audit : Option AuditRow} (haudit : audit = r.audit) :
    Untouched r ((publishRead requestId audit decisions).run (Record.act down) r).2 ∨
      ∃ row, r.audit = some row ∧ (row.reviewState = .approved ∨ row.reviewState = .final) ∧
        Finalized r ((publishRead requestId audit decisions).run (Record.act down) r).2 := by
  subst haudit
  unfold publishRead
  cases hrow : r.audit with
  | none => exact .inl (.refl r)
  | some row =>
    dsimp only
    have hcopy : ∀ names, Finalized r ((copyArtifacts requestId row decisions names [] []).run
        (Record.act down) r).2 :=
      fun names => finalized_copyArtifacts requestId row decisions names [] []
    cases hstate : row.reviewState with
    | approved => exact .inr ⟨row, rfl, .inl hstate, hcopy artifactNames⟩
    | final => exact .inr ⟨row, rfl, .inr hstate, hcopy artifactNames⟩
    | _ => exact .inl (.refl r)

/-- The publish node touches a report only when it reads it as approved or final. -/
theorem publish_cases (requestId : String) :
    Untouched r ((node17Publish requestId).run (Record.act down) r).2 ∨
      ∃ row, r.audit = some row ∧ (row.reviewState = .approved ∨ row.reviewState = .final) ∧
        Finalized r ((node17Publish requestId).run (Record.act down) r).2 := by
  unfold node17Publish
  rw [Task.run_op]
  rcases r.act_cases down .getAudit with ⟨-, hread⟩ | ⟨-, hread⟩
  · rw [hread]
    exact .inl (.refl r)
  · rw [hread]
    dsimp only [Record.effect]
    rw [Task.run_op]
    rcases r.act_cases down .getReviewDecisions with ⟨-, hdecs⟩ | ⟨-, hdecs⟩
    · rw [hdecs]
      exact .inl (.refl r)
    · rw [hdecs]
      dsimp only [Record.effect]
      exact publishRead_cases requestId r.decisions rfl

/-! ### The handlers -/

/-- Without an audit row the handler leaves the row and the final objects alone. -/
def Endpoint.Quiet (e : Endpoint) : Prop :=
  ∀ (down : Op → Bool) (job : Option Job) (r : Record),
    Untouched r ((e.absent job).run (Record.act down) r).2

private theorem untouched_notFound (detail : String) (job : Option Job) :
    Untouched r ((notFound detail job).run (Record.act down) r).2 := .refl r

private theorem untouched_cancelJob (env : Env) (claims : Claims) (job : Option Job) :
    Untouched r ((cancelJob env claims job).run (Record.act down) r).2 := by
  cases job with
  | none => exact .refl r
  | some job =>
    unfold cancelJob
    dsimp only
    split
    · exact .refl r
    · split
      · exact .refl r
      · have h : Untouched r (r.act down (.failReportJob .cancelled)).2 := untouched_act rfl rfl
        unfold call
        rw [Task.run_op]
        cases (r.act down (.failReportJob .cancelled)).1 with
        | none => exact h
        | some _ => exact h

/-- What a handler that passed its checks on `row` did: it wrote its target, and where it
publishes the row may have become final. -/
def Endpoint.Wrote (e : Endpoint) (row : AuditRow) (r r' : Record) : Prop :=
  if e.publishes then
    r'.audit = some { row with reviewState := e.target } ∨
      r'.audit = some { row with reviewState := .final }
  else r'.audit = some { row with reviewState := e.target } ∧ r'.final = r.final

/-- The row that is left differs from the one read in the review state alone. -/
theorem Endpoint.Wrote.audit {e : Endpoint} {row : AuditRow} {r r' : Record}
    (h : e.Wrote row r r') :
    ∃ s, r'.audit = some { row with reviewState := s } ∧
      (s = e.target ∨ (e.publishes = true ∧ s = .final)) := by
  unfold Wrote at h
  split at h
  · next hp =>
    rcases h with h | h
    · exact ⟨e.target, h, .inl rfl⟩
    · exact ⟨.final, h, .inr ⟨hp, rfl⟩⟩
  · exact ⟨e.target, h.1, .inl rfl⟩

/-- A handler that does not publish leaves the final objects alone. -/
theorem Endpoint.Wrote.final {e : Endpoint} {row : AuditRow} {r r' : Record}
    (h : e.Wrote row r r') (hp : e.publishes = false) : r'.final = r.final := by
  unfold Wrote at h
  rw [hp, if_neg (by simp)] at h
  exact h.2

/-- The part of a handler that is run wrote its target if `P` holds, and else did nothing. -/
def Endpoint.WroteIff (e : Endpoint) (P : Prop) (row : AuditRow) (r r' : Record) : Prop :=
  (P ∧ e.Wrote row r r') ∨ (¬ P ∧ Untouched r r')

/-- Up to its write, no operation of the handler raises. -/
def Endpoint.GoesThrough (e : Endpoint) (down : Op → Bool) (row : AuditRow) : Prop :=
  (∀ ev, e.event row = some ev → down (.insertAdminEvent ev) = false) ∧
    down (.insertReviewDecision (e.decision row)) = false ∧
    down (.updateReviewState e.target) = false

/-- The handler reads `row`, accepts it, and writes. -/
structure Endpoint.Accepts (e : Endpoint) (down : Op → Bool) (r : Record) (row : AuditRow) :
    Prop where
  row_eq : r.audit = some row
  job_read : e.readsJob = true → down .getReportJob = false
  audit_read : down .getAudit = false
  check_ok : e.check row = .ok ()
  goesThrough : e.GoesThrough down row

/-- The record `r'` that serving a request leaves: the target is written if the handler
accepts the row, and else nothing that matters changes. -/
def Endpoint.Served (e : Endpoint) (down : Op → Bool) (r r' : Record) : Prop :=
  (∃ row, e.Accepts down r row ∧ e.Wrote row r r') ∨
    (¬ ∃ row, e.Accepts down r row) ∧ Untouched r r'

namespace Endpoint

variable {e : Endpoint} (requestId : String)

/-- `call` ends with a server error when the operation raises, and goes on otherwise. -/
theorem run_call (o : Op) (next : o.Result → StoreTask Response) :
    (call o next).run (Record.act down) r =
      ((r.act down o).1.elim (.ret (.error internalError)) next).run (Record.act down)
        (r.act down o).2 := by
  unfold call
  rw [Task.run_op]
  cases (r.act down o).1 <;> rfl

/-- A handler's part that starts with an operation which cannot fail but by raising. Where it raises
nothing more is written, and otherwise the rest decides. -/
theorem wroteIff_call {o : Op} {next : o.Result → StoreTask Response} {row : AuditRow}
    {P : Prop} (ha : o.keepsAudit = true) (hf : o.keepsFinal = true)
    (hup : ∃ x, (r.effect o).1 = some x)
    (h : ∀ x r', r'.audit = r.audit →
      e.WroteIff P row r' ((next x).run (Record.act down) r').2) :
    e.WroteIff (down o = false ∧ P) row r ((call o next).run (Record.act down) r).2 := by
  have h₀ : Untouched r (r.act down o).2 := untouched_act ha hf
  rw [run_call]
  rcases r.act_cases down o with ⟨hdown, hact⟩ | ⟨hdown, hact⟩
  · refine .inr ⟨fun hP => ?_, ?_⟩
    · rw [hP.1] at hdown
      cases hdown
    · rw [hact]
      exact .refl r
  · obtain ⟨x, hx⟩ := hup
    have hres : (r.act down o).1 = some x := by rw [hact, hx]
    rw [hres]
    rcases h x _ h₀.1 with ⟨hP, hw⟩ | ⟨hP, hu⟩
    · refine .inl ⟨⟨hdown, hP⟩, ?_⟩
      unfold Wrote at hw ⊢
      split
      · next hp => rwa [if_pos hp] at hw
      · next hp =>
        rw [if_neg hp] at hw
        exact ⟨hw.1, hw.2.trans h₀.2⟩
    · exact .inr ⟨fun hP' => hP hP'.2, h₀.trans hu⟩

private theorem wrote_publishAndAnswer {row : AuditRow} (hrow : r.audit = some row)
    (hstate : row.reviewState = e.target) :
    e.Wrote row r ((e.publishAndAnswer requestId).run (Record.act down) r).2 := by
  have hsame : r.audit = some { row with reviewState := e.target } := by rw [hrow, ← hstate]
  unfold publishAndAnswer Wrote
  split
  · change _ ∨ _
    rw [Task.run_bind', Task.run_ret]
    rcases publish_cases requestId with h | ⟨row', hrow', -, h | h⟩
    · exact .inl (h.1.trans hsame)
    · exact .inl (h.trans hsame)
    · refine .inr (h.trans ?_)
      rw [Record.audit_setReviewState, hrow]
      rfl
  · exact ⟨hsame, rfl⟩

/-- The write of the review state, and what follows it, leaves what `Wrote` says. -/
private theorem wroteIff_write {row : AuditRow} (hrow : r.audit = some row) :
    e.WroteIff (down (.updateReviewState e.target) = false) row r
      ((e.write requestId).run (Record.act down) r).2 := by
  unfold write
  rw [run_call]
  rcases r.act_cases down (.updateReviewState e.target) with ⟨hdown, hact⟩ | ⟨hdown, hact⟩
  · rw [hact]
    refine .inr ⟨fun h => ?_, .refl r⟩
    rw [h] at hdown
    cases hdown
  · rw [hact]
    have hrow' : (r.setReviewState e.target).audit =
        some { row with reviewState := e.target } := by
      rw [Record.audit_setReviewState, hrow]
      rfl
    have hw : e.Wrote _ _ ((e.publishAndAnswer requestId).run (Record.act down) _).2 :=
      wrote_publishAndAnswer requestId hrow' rfl
    unfold Wrote at hw
    refine .inl ⟨hdown, ?_⟩
    unfold Wrote
    exact hw

private theorem wroteIff_recordDecision {row : AuditRow} (hrow : r.audit = some row) :
    e.WroteIff (down (.insertReviewDecision (e.decision row)) = false ∧
        down (.updateReviewState e.target) = false) row r
      ((e.recordDecision requestId row).run (Record.act down) r).2 :=
  wroteIff_call rfl rfl ⟨(), rfl⟩ fun _ _ haudit => wroteIff_write requestId (haudit.trans hrow)

private theorem wroteIff_decide {row : AuditRow} (hrow : r.audit = some row) :
    e.WroteIff (e.GoesThrough down row) row r
      ((e.decide requestId row).run (Record.act down) r).2 := by
  unfold Endpoint.decide GoesThrough
  cases hev : e.event row with
  | none =>
    have h : e.WroteIff _ row r ((e.recordDecision requestId row).run (Record.act down) r).2 :=
      wroteIff_recordDecision requestId hrow
    simpa using h
  | some ev =>
    have h : e.WroteIff _ row r ((call (.insertAdminEvent ev) fun _ =>
        e.recordDecision requestId row).run (Record.act down) r).2 :=
      wroteIff_call rfl rfl ⟨(), rfl⟩ fun _ _ haudit =>
        wroteIff_recordDecision requestId (haudit.trans hrow)
    simpa using h

/-- The handler from the check of the row on; the reads before it have gone through. Without a row
it only touches the job. -/
theorem served_checked (hquiet : e.Quiet) (job : Option Job) (haudit : down .getAudit = false)
    (hjob : e.readsJob = true → down .getReportJob = false) :
    e.Served down r ((e.checked requestId job r.audit).run (Record.act down) r).2 := by
  unfold checked
  cases hrow : r.audit with
  | none =>
    refine .inr ⟨?_, hquiet down job r⟩
    rintro ⟨row, h⟩
    rw [h.row_eq] at hrow
    cases hrow
  | some row =>
    dsimp only
    have hsame : ∀ row', e.Accepts down r row' → row' = row :=
      fun row' h => Option.some.inj (h.row_eq.symm.trans hrow)
    cases hcheck : e.check row with
    | error err =>
      refine .inr ⟨?_, .refl r⟩
      rintro ⟨row', h⟩
      have hok := h.check_ok
      rw [hsame row' h, hcheck] at hok
      cases hok
    | ok u =>
      rcases wroteIff_decide requestId hrow with ⟨hgo, hw⟩ | ⟨hgo, hu⟩
      · exact .inl ⟨row, ⟨hrow, hjob, haudit, hcheck, hgo⟩, hw⟩
      -- the write failed: nothing was accepted, and nothing has changed
      · refine .inr ⟨?_, hu⟩
        rintro ⟨row', h⟩
        have hgo' := h.goesThrough
        rw [hsame row' h] at hgo'
        exact hgo hgo'

private theorem served_readAudit (hquiet : e.Quiet) (job : Option Job)
    (hjob : e.readsJob = true → down .getReportJob = false) :
    e.Served down r ((e.readAudit requestId job).run (Record.act down) r).2 := by
  unfold readAudit
  rw [run_call]
  rcases r.act_cases down .getAudit with ⟨hdown, hread⟩ | ⟨hdown, hread⟩
  · rw [hread]
    refine .inr ⟨?_, .refl r⟩
    rintro ⟨row, h⟩
    rw [h.audit_read] at hdown
    cases hdown
  · rw [hread]
    exact served_checked requestId hquiet job hdown hjob

/-- What serving a request does: where the handler accepts the row it writes its target, and
in every other case the row and the final objects stay as they are. -/
theorem served_serve (hquiet : e.Quiet) :
    e.Served down r ((e.serve requestId).run (Record.act down) r).2 := by
  unfold serve
  split
  · next hreads =>
    rw [run_call]
    rcases r.act_cases down .getReportJob with ⟨hdown, hread⟩ | ⟨hdown, hread⟩
    · rw [hread]
      refine .inr ⟨?_, .refl r⟩
      rintro ⟨row, h⟩
      rw [h.job_read hreads] at hdown
      cases hdown
    · rw [hread]
      exact served_readAudit requestId hquiet r.job fun _ => hdown
  · next hreads => exact served_readAudit requestId hquiet none fun h => absurd h hreads

end Endpoint

/-! ### Requests -/

variable {env : Env} {requestId : String}

/-- A check that admits the caller admits to the handler it is mapped to. -/
theorem map_eq_ok {ε α β : Type} {x : Except ε α} {f : α → β} {b : β} (h : x.map f = .ok b) :
    ∃ a, x = .ok a ∧ f a = b := by
  cases x with
  | error e => cases h
  | ok a => exact ⟨a, rfl, Except.ok.inj h⟩

/-- Which handler a request that is admitted reaches. The six handlers differ in their checks, their
targets and in whether they publish. -/
theorem Request.endpoint_cases {req : Request} {e : Endpoint}
    (h : req.endpoint env requestId = .ok e) :
    (∃ claims comment c, req = .approve claims comment ∧ reviewer claims = .ok c ∧
        e = approveReport env c comment) ∨
      (∃ claims reason c, req = .reject claims reason ∧ reviewer claims = .ok c ∧
        e = rejectReport env c reason) ∨
      (∃ claims reason comment c, req = .requestRevision claims reason comment ∧
        reviewer claims = .ok c ∧ e = Review.requestRevision env c reason comment) ∨
      (∃ claims c, req = .cancel claims ∧ requireClaims claims = .ok c ∧
        e = cancelReport env c) ∨
      (∃ claims comment c, req = .overrideApprove claims comment ∧ requireAdmin claims = .ok c ∧
        e = adminOverrideApprove env requestId c comment) ∨
      (∃ claims comment c, req = .overrideReject claims comment ∧ requireAdmin claims = .ok c ∧
        e = adminOverrideReject env requestId c comment) := by
  cases req with
  | approve claims comment =>
    obtain ⟨c, hc, rfl⟩ := map_eq_ok h
    exact .inl ⟨claims, comment, c, rfl, hc, rfl⟩
  | reject claims reason =>
    obtain ⟨c, hc, rfl⟩ := map_eq_ok h
    exact .inr (.inl ⟨claims, reason, c, rfl, hc, rfl⟩)
  | requestRevision claims reason comment =>
    obtain ⟨c, hc, rfl⟩ := map_eq_ok h
    exact .inr (.inr (.inl ⟨claims, reason, comment, c, rfl, hc, rfl⟩))
  | cancel claims =>
    obtain ⟨c, hc, rfl⟩ := map_eq_ok h
    exact .inr (.inr (.inr (.inl ⟨claims, c, rfl, hc, rfl⟩)))
  | overrideApprove claims comment =>
    obtain ⟨c, hc, rfl⟩ := map_eq_ok h
    exact .inr (.inr (.inr (.inr (.inl ⟨claims, comment, c, rfl, hc, rfl⟩))))
  | overrideReject claims comment =>
    obtain ⟨c, hc, rfl⟩ := map_eq_ok h
    exact .inr (.inr (.inr (.inr (.inr ⟨claims, comment, c, rfl, hc, rfl⟩))))

/-- The six handlers do nothing to a report without an audit row. -/
theorem Request.quiet_endpoint {req : Request} {e : Endpoint}
    (h : req.endpoint env requestId = .ok e) : e.Quiet := by
  rcases Request.endpoint_cases h with ⟨_, _, c, -, -, rfl⟩ | ⟨_, _, c, -, -, rfl⟩ |
    ⟨_, _, _, c, -, -, rfl⟩ | ⟨_, c, -, -, rfl⟩ | ⟨_, _, c, -, -, rfl⟩ | ⟨_, _, c, -, -, rfl⟩
  · exact fun down job r => untouched_notFound _ job
  · exact fun down job r => untouched_notFound _ job
  · exact fun down job r => untouched_notFound _ job
  · exact fun down job r => untouched_cancelJob env c job
  · exact fun down job r => untouched_notFound _ job
  · exact fun down job r => untouched_notFound _ job

/-! ### The handlers' checks -/

private theorem deriveExternalState_mem_terminal {row : AuditRow} :
    deriveExternalState row ∈ [ExternalState.final, .rejected, .cancelled] ↔
      row.reviewState ∈ terminalReviewStates := by
  unfold deriveExternalState terminalReviewStates
  cases row.reviewState <;> cases row.qualityGateStatus <;> simp

/-- The approval queue: staged reports whose gate has not failed. -/
theorem deriveExternalState_mem_queue {row : AuditRow} :
    deriveExternalState row ∈ [ExternalState.staging, .needsReview] ↔
      row.reviewState = .staging ∧ row.qualityGateStatus ≠ .failed := by
  unfold deriveExternalState
  cases row.reviewState <;> cases row.qualityGateStatus <;> simp

/-- An approval is refused for final and rejected reports, and for no others: the verdict of the
gate does not enter. -/
theorem approveReport_check {claims : Claims} {comment : Option String} {row : AuditRow} :
    (approveReport env claims comment).check row = .ok () ↔
      row.reviewState ≠ .final ∧ row.reviewState ≠ .rejected := by
  simp only [approveReport]
  split_ifs <;> simp [*]

/-- A rejection and a revision request are refused for final reports only. -/
theorem checkNotFinal_ok {row : AuditRow} :
    checkNotFinal row = .ok () ↔ row.reviewState ≠ .final := by
  unfold checkNotFinal
  split_ifs with h <;> simp [h]

/-- `cancel_report` refuses the terminal states. -/
theorem cancelReport_check {claims : Claims} {row : AuditRow}
    (h : (cancelReport env claims).check row = .ok ()) :
    row.reviewState ∉ terminalReviewStates := by
  rw [← deriveExternalState_mem_terminal]
  intro hmem
  simp only [cancelReport, hmem, if_true] at h
  split_ifs at h <;> cases h

/-- Whether the requester may cancel does not depend on the review state. -/
theorem cancelReport_of_check {claims : Claims} {row row' : AuditRow}
    (h : (cancelReport env claims).check row = .ok ()) (huser : row'.userIdHash = row.userIdHash)
    (hstate : row'.reviewState ∉ terminalReviewStates) :
    (cancelReport env claims).check row' = .ok () := by
  rw [← deriveExternalState_mem_terminal] at hstate
  simp only [cancelReport, huser, hstate, if_false] at h ⊢
  split_ifs at h ⊢ <;> first | rfl | cases h

/-- The override endpoints act on the approval queue only. -/
theorem checkOverride_ok {claims : Claims} {selfDetail : String} {row : AuditRow}
    (h : checkOverride env claims selfDetail row = .ok ()) :
    row.reviewState = .staging ∧ row.qualityGateStatus ≠ .failed := by
  rw [← deriveExternalState_mem_queue]
  by_contra hmem
  simp only [checkOverride, hmem, if_false] at h
  split_ifs at h

/-! ### The operations of a request -/

section Always

variable {P : Op → Prop}

/-- What holds of the copies, the log and the final state holds of all that follows a copy. -/
private theorem always_copyArtifacts (hcopy : ∀ name ∈ artifactNames, P (.copyToFinal name))
    (hlog : ∀ log, P (.putApprovalLog log)) (hfinal : P (.updateReviewState .final))
    (row : AuditRow) (decisions : List Decision) (names : List String)
    (hnames : ∀ name ∈ names, name ∈ artifactNames) (keys : List String)
    (errors : List PublishError) :
    (copyArtifacts requestId row decisions names keys errors).Always P fun _ => True := by
  have hfinalize : ∀ keys errors, (finalize keys errors).Always P fun _ => True :=
    fun _ _ => ⟨hfinal, fun _ => trivial⟩
  induction names generalizing keys errors with
  | nil =>
    rw [copyArtifacts, writeApprovalLog]
    split
    · refine ⟨hlog _, fun x => ?_⟩
      cases x with
      | none => exact hfinalize _ _
      | some _ => exact hfinalize _ _
    · exact hfinalize _ _
  | cons name names ih =>
    have hrest := ih fun n hn => hnames n (List.mem_cons_of_mem _ hn)
    refine ⟨hcopy name (hnames name List.mem_cons_self), fun x => ?_⟩
    cases x with
    | none => exact hrest _ _
    | some _ => exact hrest _ _

private theorem always_publishRead (hcopy : ∀ name ∈ artifactNames, P (.copyToFinal name))
    (hlog : ∀ log, P (.putApprovalLog log)) (hfinal : P (.updateReviewState .final))
    (audit : Option AuditRow) (decisions : List Decision) :
    (publishRead requestId audit decisions).Always P fun _ => True := by
  cases audit with
  | none => trivial
  | some row =>
    have hcopies : (copyArtifacts requestId row decisions artifactNames [] []).Always P
        fun _ => True :=
      always_copyArtifacts hcopy hlog hfinal row decisions artifactNames (fun _ hn => hn) [] []
    rw [publishRead]
    split <;> trivial

/-- What holds of the two reads, the copies of the artifacts and the two writes holds of every
operation of the publish node. -/
theorem always_node17Publish (haudit : P .getAudit) (hdecisions : P .getReviewDecisions)
    (hcopy : ∀ name ∈ artifactNames, P (.copyToFinal name))
    (hlog : ∀ log, P (.putApprovalLog log)) (hfinal : P (.updateReviewState .final)) :
    (node17Publish requestId).Always P fun _ => True := by
  refine ⟨haudit, fun audit => ?_⟩
  cases audit with
  | none => trivial
  | some audit =>
    refine ⟨hdecisions, fun decisions => ?_⟩
    cases decisions with
    | none => trivial
    | some decisions => exact always_publishRead hcopy hlog hfinal audit decisions

/-- The operations of the review code: it inserts no audit row, stages no artifact, and copies
the artifacts of its list only. -/
def Op.ofReview : Op → Bool
  | .insertAudit _ => false
  | .putStaging _ => false
  | .copyToFinal filename => decide (filename ∈ artifactNames)
  | _ => true

private theorem always_call {o : Op} {next : o.Result → StoreTask Response} (ho : P o)
    (h : ∀ x, (next x).Always P fun _ => True) : (call o next).Always P fun _ => True := by
  refine ⟨ho, fun x => ?_⟩
  cases x with
  | none => trivial
  | some x => exact h x

namespace Endpoint

variable {e : Endpoint}

private theorem ofReview_decide (row : AuditRow) :
    (e.decide requestId row).Always (·.ofReview = true) fun _ => True := by
  have hwrite : (e.write requestId).Always (·.ofReview = true) fun _ => True := by
    refine always_call rfl fun _ => ?_
    rw [publishAndAnswer]
    split
    · have hpublish : (node17Publish requestId).Always (·.ofReview = true) fun _ => True :=
        always_node17Publish rfl rfl (fun _ hn => decide_eq_true hn) (fun _ => rfl) rfl
      exact hpublish.bind fun _ _ => trivial
    · trivial
  have hrecord : (e.recordDecision requestId row).Always (·.ofReview = true) fun _ => True :=
    always_call rfl fun _ => hwrite
  rw [Endpoint.decide]
  split
  · exact always_call rfl fun _ => hrecord
  · exact hrecord

private theorem ofReview_serve
    (habsent : ∀ job, (e.absent job).Always (·.ofReview = true) fun _ => True) :
    (e.serve requestId).Always (·.ofReview = true) fun _ => True := by
  have hread : ∀ job, (e.readAudit requestId job).Always (·.ofReview = true) fun _ => True := by
    refine fun job => always_call rfl fun audit => ?_
    cases audit with
    | none => exact habsent job
    | some row =>
      rw [checked]
      split
      · exact ofReview_decide row
      · trivial
  rw [serve]
  split
  · exact always_call rfl hread
  · exact hread none

end Endpoint

/-- Every operation of a request is one of the review code. So it inserts no audit row and stages
nothing, which is left to node 15. -/
theorem Request.ofReview_handle (req : Request) :
    (req.handle env requestId).Always (·.ofReview = true) fun _ => True := by
  have hcancel : ∀ claims job,
      (cancelJob env claims job).Always (·.ofReview = true) fun _ => True := by
    intro claims job
    cases job with
    | none => trivial
    | some job =>
      rw [cancelJob]
      split
      · trivial
      · split
        · trivial
        · exact always_call rfl fun _ => trivial
  rw [Request.handle]
  cases he : req.endpoint env requestId with
  | error err => trivial
  | ok e =>
    dsimp only
    obtain ⟨_, _, c, -, -, rfl⟩ | ⟨_, _, c, -, -, rfl⟩ | ⟨_, _, _, c, -, -, rfl⟩ |
      ⟨_, c, -, -, rfl⟩ | ⟨_, _, c, -, -, rfl⟩ | ⟨_, _, c, -, -, rfl⟩ :=
        Request.endpoint_cases he
    · exact Endpoint.ofReview_serve fun _ => trivial
    · exact Endpoint.ofReview_serve fun _ => trivial
    · exact Endpoint.ofReview_serve fun _ => trivial
    · exact Endpoint.ofReview_serve (hcancel c)
    · exact Endpoint.ofReview_serve fun _ => trivial
    · exact Endpoint.ofReview_serve fun _ => trivial

end Always

/-! ### Serving -/

/-- A request served while the operations of `down` raise. -/
structure Served where
  request : Request
  down : Op → Bool

/-- The record after a request has been served. -/
def serve (env : Env) (requestId : String) (r : Record) (s : Served) : Record :=
  ((s.request.handle env requestId).run (Record.act s.down) r).2

/-- What serving a request does: its handler was reached and did what `Endpoint.Served` says,
or the caller was refused. -/
theorem serve_cases (r : Record) (s : Served) :
    (∃ e, s.request.endpoint env requestId = .ok e ∧
        e.Served s.down r (serve env requestId r s)) ∨
      (∃ err, s.request.endpoint env requestId = .error err) ∧ serve env requestId r s = r := by
  unfold serve Request.handle
  cases h : s.request.endpoint env requestId with
  | error err => exact .inr ⟨⟨err, rfl⟩, rfl⟩
  | ok e => exact .inl ⟨e, rfl, Endpoint.served_serve requestId (Request.quiet_endpoint h)⟩

end DecisionCenter.Review
