import DecisionCenter.Review.Concurrency
import Mathlib.Data.List.Permutation

/-!
# Interleaved requests have a serial order

The history of `Review/Concurrency.lean` is carried along the steps of the handlers' tasks, and
read off when every request has returned.

`PoolInvariant` relates a pool of tasks to a history: each task is in the phase that the history
has for it (`Review.Phases`), the stores hold the review state and the objects that go with it,
and the history is consistent. A step of a request performs its next operation, and by its phase
there are few that it can be. If the operation keeps the row and the objects, the request moves
on; if it is the write of the review state, the history grows by a write; and if it is one of
the publish node, by a step of the publication. That the step does not overtake another request
is used at the two writes (`Tracked.step`).

A report without an audit row is a case by itself: its handlers touch the job at most, and no
request is accepted.

When all requests have returned, the accepted ones are those whose phase is closing, and the two
orders of the history are orders of these. `PoolInvariant.serializable` takes the one that gives
the result, and `serializable_of_stepOk` is the theorem for every interleaving from the start.
An approval and a cancellation that are both accepted, and a rejection that overtakes an
approval, show what an overtaking step does.
-/

namespace DecisionCenter.Review

open Async

variable {env : Env} {requestId : String} {reqs : List Request} {row₀ : AuditRow}

/-! ### Reports with an audit row -/

/-- The tasks are in the phases of the history and the stores agree with it. -/
structure PoolInvariant (env : Env) (requestId : String) (reqs : List Request)
    (row₀ : AuditRow) (c : ReviewPool) (g : History) : Prop where
  store : ∃ s, c.store.audit = some (row₀.withState s) ∧
    g.Consistent env requestId reqs row₀ s c.store.final
  tasks : ∀ i req, reqs[i]? = some req →
    ∃ t, c.tasks[i]? = some t ∧ At env requestId row₀ req (g.phase i) t
  outside : ∀ i, reqs[i]? = none → c.tasks[i]? = none ∧ g.phase i = .refused

/-- Some history is consistent with the pool. -/
def Tracked (env : Env) (requestId : String) (reqs : List Request) (row₀ : AuditRow)
    (c : ReviewPool) : Prop := ∃ g, PoolInvariant env requestId reqs row₀ c g

/-- One request moves to phase `p`; the others stay where they are. The history moves with it, and
has to be consistent with the store. -/
theorem PoolInvariant.advance {c : ReviewPool} {g g' : History} {i : ℕ} {req : Request}
    {p : Phase} {s : ReviewState} {t t' : StoreTask Response} {r' : Record}
    (h : PoolInvariant env requestId reqs row₀ c g) (hreq : reqs[i]? = some req)
    (ht : c.tasks[i]? = some t) (hphase : g'.phase = Function.update g.phase i p)
    (hat : At env requestId row₀ req p t') (haudit : r'.audit = some (row₀.withState s))
    (hcons : g'.Consistent env requestId reqs row₀ s r'.final) :
    PoolInvariant env requestId reqs row₀ ⟨r', c.tasks.set i t'⟩ g' := by
  have hlt : i < c.tasks.length := (List.getElem?_eq_some_iff.mp ht).1
  refine ⟨⟨s, haudit, hcons⟩, fun j reqj hj => ?_, fun j hj => ?_⟩
  · rw [hphase]
    -- the request that moved, then the others
    by_cases hij : j = i
    · subst hij
      obtain rfl : reqj = req := Option.some.inj (hj.symm.trans hreq)
      refine ⟨t', ?_, ?_⟩
      · rw [List.getElem?_set_self hlt]
      · rw [Function.update_self]
        exact hat
    · obtain ⟨tj, htj, hatj⟩ := h.tasks j reqj hj
      refine ⟨tj, ?_, ?_⟩
      · rw [List.getElem?_set_ne (Ne.symm hij)]
        exact htj
      · rw [Function.update_of_ne hij]
        exact hatj
  · obtain ⟨htj, hpj⟩ := h.outside j hj
    have hij : j ≠ i := by
      rintro rfl
      rw [hj] at hreq
      cases hreq
    rw [hphase]
    refine ⟨?_, ?_⟩
    · rw [List.getElem?_set_ne (Ne.symm hij)]
      exact htj
    · rw [Function.update_of_ne hij]
      exact hpj

section Step

variable {c : ReviewPool} {g g' : History} {i : ℕ} {req : Request} {s : ReviewState} {o : Op}
  {next : o.Outcome → StoreTask Response}

/-- An operation that keeps the row and the objects leaves the stores as the history has them. -/
theorem PoolInvariant.keeps {p : Phase} (h : PoolInvariant env requestId reqs row₀ c g)
    (hreq : reqs[i]? = some req) (ht : c.tasks[i]? = some (.op o next)) (hk : o.Keeps)
    (haudit : c.store.audit = some (row₀.withState s))
    (hphase : g'.phase = Function.update g.phase i p)
    (hat : At env requestId row₀ req p (next (c.store.effect o).1))
    (hcons : g'.Consistent env requestId reqs row₀ s c.store.final) :
    PoolInvariant env requestId reqs row₀
      ⟨(c.store.effect o).2, c.tasks.set i (next (c.store.effect o).1)⟩ g' := by
  refine h.advance hreq ht hphase hat ((audit_effect hk.1).trans haudit) ?_
  rw [final_effect hk.2]
  exact hcons

/-- The write of the review state is the write of the history. -/
theorem audit_updateReviewState {r : Record} (haudit : r.audit = some (row₀.withState s))
    (target : ReviewState) :
    (r.effect (.updateReviewState target)).2.audit = some (row₀.withState target) := by
  change (r.setReviewState target).audit = _
  rw [Record.audit_setReviewState, haudit]
  rfl

/-- A request past its check records its decision or writes; if the row has changed since, `StepOk`
says that its check would still accept it. -/
private theorem PoolInvariant.step_checked (h : PoolInvariant env requestId reqs row₀ c g)
    (hreq : reqs[i]? = some req) (ht : c.tasks[i]? = some (.op o next))
    (haudit : c.store.audit = some (row₀.withState s))
    (hcons : g.Consistent env requestId reqs row₀ s c.store.final) (hphase : g.phase i = .checked)
    (hat : At env requestId row₀ req .checked (.op o next))
    (hok : StepOk env requestId reqs c i) :
    Tracked env requestId reqs row₀
      ⟨(c.store.effect o).2, c.tasks.set i (next (c.store.effect o).1)⟩ := by
  rcases hat.checked_step (r := c.store) with ⟨hk, hat'⟩ | ⟨e, s', he, hcheck, hs', rfl, hnext⟩
  · have hcons' := hcons.move (i := i) (p := .checked) (by rw [hphase]; rfl) rfl
    exact ⟨_, h.keeps hreq ht hk haudit rfl hat' hcons'⟩
  · have hwrite : e.check (row₀.withState s) = .ok () ∨ s = e.target :=
      (hok req e _ _ hreq he ht haudit).1 next rfl
    have haudit' := audit_updateReviewState haudit e.target
    have hat' : At env requestId row₀ req _ (e.publishAndAnswer requestId) :=
      at_publishAndAnswer he
    rw [hnext]
    cases hp : e.publishes with
    | true =>
      rw [hp] at hat'
      have hcons' := hcons.write_approved hphase hreq he hp hcheck hs' hwrite
      exact ⟨_, h.advance hreq ht rfl hat' haudit' hcons'⟩
    | false =>
      rw [hp] at hat'
      have hcons' := hcons.write_quiet hphase hreq he hp hwrite
      exact ⟨_, h.advance hreq ht rfl hat' haudit' hcons'⟩

/-- A request that has written reads the row once more, and publishes or stops. -/
private theorem PoolInvariant.step_written (h : PoolInvariant env requestId reqs row₀ c g)
    (hreq : reqs[i]? = some req) (ht : c.tasks[i]? = some (.op o next))
    (haudit : c.store.audit = some (row₀.withState s))
    (hcons : g.Consistent env requestId reqs row₀ s c.store.final) (hphase : g.phase i = .written)
    (hat : At env requestId row₀ req .written (.op o next))
    (hok : StepOk env requestId reqs c i) :
    Tracked env requestId reqs row₀
      ⟨(c.store.effect o).2, c.tasks.set i (next (c.store.effect o).1)⟩ := by
  obtain ⟨hk, hpub, ⟨e, he, hp⟩, hat'⟩ := hat.written_step haudit
  have hread := (hok req e _ _ hreq he ht haudit).2 hpub
  by_cases hstate : s = .approved ∨ s = .final
  · rw [if_pos hstate] at hat'
    have hcons' := hcons.begin_publishing hphase ⟨req, e, hreq, he, hp⟩
    exact ⟨_, h.keeps hreq ht hk haudit rfl hat' hcons'⟩
  · -- The publication refuses, and what it read is no overtaking's.
    rw [if_neg hstate] at hat'
    have hrejected : s = .rejected := by
      rcases hread with h' | h' | h'
      · exact absurd (.inl h') hstate
      · exact absurd (.inr h') hstate
      · exact h'
    subst hrejected
    exact ⟨_, h.keeps hreq ht hk haudit rfl hat' (hcons.stop_rejected hphase hreq he hp)⟩

private theorem PoolInvariant.step_publishing (h : PoolInvariant env requestId reqs row₀ c g)
    (hreq : reqs[i]? = some req) (ht : c.tasks[i]? = some (.op o next))
    (haudit : c.store.audit = some (row₀.withState s))
    (hcons : g.Consistent env requestId reqs row₀ s c.store.final)
    (hphase : g.phase i = .publishing)
    (hat : At env requestId row₀ req .publishing (.op o next)) :
    Tracked env requestId reqs row₀
      ⟨(c.store.effect o).2, c.tasks.set i (next (c.store.effect o).1)⟩ := by
  rcases hat.publishing_step (r := c.store) with ⟨hk, hat'⟩ | ⟨rfl, hat'⟩
  · have hself : Function.update g.phase i .publishing = g.phase := by
      rw [← hphase, Function.update_eq_self]
    exact ⟨g, h.advance hreq ht hself.symm hat' ((audit_effect hk).trans haudit)
      (hcons.copy hphase _)⟩
  · have haudit' := audit_updateReviewState haudit .final
    exact ⟨_, h.advance hreq ht rfl hat' haudit' (hcons.finish hphase)⟩

/-- A request that has nothing to write any more stays in its phase. -/
theorem PoolInvariant.step_settled {p : Phase} (h : PoolInvariant env requestId reqs row₀ c g)
    (hreq : reqs[i]? = some req) (ht : c.tasks[i]? = some (.op o next))
    (haudit : c.store.audit = some (row₀.withState s))
    (hcons : g.Consistent env requestId reqs row₀ s c.store.final) (hphase : g.phase i = p)
    (hstep : o.Keeps ∧ At env requestId row₀ req p (next (c.store.effect o).1)) :
    Tracked env requestId reqs row₀
      ⟨(c.store.effect o).2, c.tasks.set i (next (c.store.effect o).1)⟩ := by
  have hself : Function.update g.phase i p = g.phase := by
    rw [← hphase, Function.update_eq_self]
  exact ⟨g, h.keeps hreq ht hstep.1 haudit hself.symm hstep.2 hcons⟩

end Step

/-- A step that is not an overtaking keeps the invariant, with a longer history. The phases are gone
through as the task of the request performs its operations. -/
theorem Tracked.step {c : ReviewPool} {i : ℕ} (h : Tracked env requestId reqs row₀ c)
    (hok : StepOk env requestId reqs c i) :
    Tracked env requestId reqs row₀ (c.step Record.effect i) := by
  obtain ⟨g, h⟩ := h
  rcases c.step_cases Record.effect i with hsame | ⟨o, next, ht, hstep⟩
  · rw [hsame]
    exact ⟨g, h⟩
  rw [hstep]
  obtain ⟨s, haudit, hcons⟩ := h.store
  cases hreq : reqs[i]? with
  | none =>
    rw [(h.outside i hreq).1] at ht
    cases ht
  | some req =>
    obtain ⟨t, ht', hat⟩ := h.tasks i req hreq
    obtain rfl : t = .op o next := Option.some.inj (ht'.symm.trans ht)
    -- the phase of the request says which operation this is
    cases hphase : g.phase i with
    | start =>
      rw [hphase] at hat
      obtain ⟨hk, p, hp, hat'⟩ := hat.start_step haudit hcons.staging
      have hpw : p.wrote = false := by rcases hp with rfl | rfl | rfl <;> rfl
      have hcons' := hcons.move (i := i) (by rw [hphase]; rfl) hpw
      exact ⟨_, h.keeps hreq ht hk haudit rfl hat' hcons'⟩
    | checked =>
      rw [hphase] at hat
      exact h.step_checked hreq ht haudit hcons hphase hat hok
    | written =>
      rw [hphase] at hat
      exact h.step_written hreq ht haudit hcons hphase hat hok
    | publishing =>
      rw [hphase] at hat
      exact h.step_publishing hreq ht haudit hcons hphase hat
    | closing =>
      rw [hphase] at hat
      exact h.step_settled hreq ht haudit hcons hphase hat.closing_step
    | refused =>
      rw [hphase] at hat
      exact h.step_settled hreq ht haudit hcons hphase hat.refused_step

/-- The phases before the first step. -/
def startPhase (env : Env) (requestId : String) (reqs : List Request) (i : ℕ) : Phase :=
  match reqs[i]? with
  | some req => match req.endpoint env requestId with
    | .ok _ => .start
    | .error _ => .refused
  | none => .refused

/-- Before the first step nothing is written. -/
theorem wrote_startPhase (i : ℕ) : (startPhase env requestId reqs i).wrote = false := by
  unfold startPhase
  split
  · split <;> rfl
  · rfl

/-- The invariant holds before the first step. -/
private theorem poolInvariant_start {r : Record} (haudit : r.audit = some row₀)
    (hfinal : r.final ≠ [] → row₀.reviewState = .final) :
    PoolInvariant env requestId reqs row₀ (startPool env requestId reqs r)
      ⟨startPhase env requestId reqs, [], [], False⟩ := by
  have hnone : ∀ i (q : Phase), q.wrote = true → startPhase env requestId reqs i ≠ q := by
    rintro i q hq rfl
    rw [wrote_startPhase] at hq
    cases hq
  refine ⟨⟨row₀.reviewState, haudit, ?_⟩, fun i req hreq => ?_, fun i hi => ?_⟩
  · exact
      { writes_nodup := List.nodup_nil
        settled_nodup := fun _ => List.nodup_nil
        mem_writes := fun i => by simp [wrote_startPhase]
        mem_settled := fun _ i => by simp [hnone i .closing rfl]
        publishing := fun i hi => hnone i .publishing rfl hi
        writes_quiet := fun _ => rfl
        writes_published := by rintro ⟨i, hi, -⟩; cases hi
        published_final := fun h => h.elim
        settled_serial := fun _ => .inl rfl
        objects := fun h => .inl (hfinal h)
        approved := .inl
        staging := id }
  · refine ⟨req.handle env requestId, by simp [startPool, hreq], ?_⟩
    simp only [startPhase, hreq]
    unfold Request.handle
    cases he : req.endpoint env requestId with
    | ok e => exact .serve he
    | error err => exact .refused rfl
  · refine ⟨by simp [startPool, hi], ?_⟩
    simp only [startPhase, hi]

/-- When every request has returned, the accepted ones are those that are closing. The other ones
have been refused. -/
theorem PoolInvariant.acceptedAt_iff {c : ReviewPool} {g : History}
    (h : PoolInvariant env requestId reqs row₀ c g) (hdone : c.Done) (i : ℕ) :
    (acceptedAt c i = true ↔ g.phase i = .closing) ∧
      (g.phase i = .closing ∨ g.phase i = .refused) := by
  cases hreq : reqs[i]? with
  | none =>
    obtain ⟨ht, hp⟩ := h.outside i hreq
    simp [acceptedAt, ht, hp]
  | some req =>
    obtain ⟨t, ht, hat⟩ := h.tasks i req hreq
    have hret := hdone t (List.mem_of_getElem? ht)
    cases t with
    | op o next => simp [Task.result?] at hret
    | ret a =>
      have hp := hat.of_ret
      have hacc : acceptedAt c i = a.isOk := by
        simp [acceptedAt, ht, returnedOk, Task.result?]
      rw [hacc, hp]
      cases a.isOk <;> simp

/-- A list of the accepted positions is an order of the accepted requests. -/
theorem perm_acceptedRequests {c : ReviewPool} {order : List ℕ} (hnodup : order.Nodup)
    (hmem : ∀ i, i ∈ order ↔ acceptedAt c i = true)
    (hlt : ∀ i, acceptedAt c i = true → i < reqs.length) :
    (requestsAt reqs order).Perm (acceptedRequests reqs c) := by
  refine List.Perm.filterMap _ ?_
  refine (List.perm_ext_iff_of_nodup hnodup (List.nodup_range.filter _)).mpr fun i => ?_
  rw [hmem i, List.mem_filter, List.mem_range]
  exact ⟨fun h => ⟨hlt i h, h⟩, fun h => h.2⟩

/-- The invariant, once every request has returned. The history is then the serial order looked for:
that of the writes, or that of rest. -/
theorem PoolInvariant.serializable {c : ReviewPool} {g : History} {r : Record}
    (hr : r.audit = some row₀) (h : PoolInvariant env requestId reqs row₀ c g) (hdone : c.Done) :
    Serializable env requestId reqs r c ∧ FinalOnlyPublished c := by
  obtain ⟨s, haudit, hcons⟩ := h.store
  have hacc := h.acceptedAt_iff hdone
  have hrest : ∀ q : Phase, q ≠ .closing → q ≠ .refused → ¬ ∃ i, g.phase i = q := by
    rintro q hc hf ⟨i, rfl⟩
    rcases (hacc i).2 with h' | h'
    · exact hc h'
    · exact hf h'
  have hlt : ∀ i, acceptedAt c i = true → i < reqs.length := by
    intro i hi
    by_contra hge
    have hout := (h.outside i (List.getElem?_eq_none (Nat.le_of_not_lt hge))).2
    rw [(hacc i).1.mp hi] at hout
    cases hout
  have hserial : ∀ order : List ℕ, (serial env requestId r (requestsAt reqs order)).reviewState? =
      some (stateAfter env requestId reqs row₀ order) := by
    intro order
    rw [Record.reviewState?, audit_serial (s := row₀.reviewState) hr]
    rfl
  have hstate : c.store.reviewState? = some s := by
    rw [Record.reviewState?, haudit]
    rfl
  constructor
  · by_cases hpub : g.published
    · -- the serial order is the order of the writes
      refine ⟨requestsAt reqs g.writes, perm_acceptedRequests hcons.writes_nodup ?_ hlt, ?_⟩
      · intro i
        rw [hcons.mem_writes, (hacc i).1]
        rcases (hacc i).2 with h' | h' <;> rw [h'] <;> decide
      · obtain ⟨hsome, hfinal⟩ := hcons.published_final hpub
        have hs : s = .final := hfinal.resolve_right (hrest .publishing (by decide) (by decide))
        rw [hserial, hstate, hcons.writes_published hsome, hs]
    · -- the serial order is the order in which the requests came to rest
      refine ⟨requestsAt reqs g.settled,
        perm_acceptedRequests (hcons.settled_nodup hpub) ?_ hlt, ?_⟩
      · intro i
        rw [hcons.mem_settled hpub, (hacc i).1]
      · have hs := (hcons.settled_serial hpub).resolve_right (by
          rintro ⟨_, _, _, hw⟩
          exact hrest .written (by decide) (by decide) hw)
        rw [hserial, hstate, hs]
  · intro hobj
    have hs := (hcons.objects hobj).resolve_right (hrest .publishing (by decide) (by decide))
    exact .inr (by rw [hstate, hs])

/-! ### Reports without an audit row -/

/-- A handler that finds no audit row only touches the job. For all but the cancellation this is an
error at once. -/
theorem always_absent {req : Request} {e : Endpoint} (he : req.endpoint env requestId = .ok e)
    (job : Option Job) : (e.absent job).Always Op.Keeps fun _ => True := by
  have hcancel : ∀ c : Claims, (cancelJob env c job).Always Op.Keeps fun _ => True := by
    intro c
    unfold cancelJob
    split
    · trivial
    · split
      · trivial
      · split
        · trivial
        · refine ⟨⟨rfl, rfl⟩, fun x => ?_⟩
          cases x <;> trivial
  rcases Request.endpoint_cases he with ⟨_, _, c, -, -, rfl⟩ | ⟨_, _, c, -, -, rfl⟩ |
    ⟨_, _, _, c, -, -, rfl⟩ | ⟨_, c, -, -, rfl⟩ | ⟨_, _, c, -, -, rfl⟩ | ⟨_, _, c, -, -, rfl⟩
  · trivial
  · trivial
  · trivial
  · exact hcancel c
  · trivial
  · trivial

/-- A request about a report without an audit row: before its read, or with nothing to write. -/
def Rowless (env : Env) (requestId : String) (t : StoreTask Response) : Prop :=
  (∃ req e, Request.endpoint env requestId req = .ok e ∧
    (t = e.serve requestId ∨ ∃ job, t = e.readAudit requestId job)) ∨
  t.Always Op.Keeps fun _ => True

/-- A handler that has found no audit row goes on without one, whatever it performs. -/
theorem Rowless.step {o : Op} {next : o.Outcome → StoreTask Response} {r : Record}
    (h : Rowless env requestId (.op o next)) (hrow : r.audit = none) :
    o.Keeps ∧ Rowless env requestId (next (r.effect o).1) := by
  have hread : ∀ (req : Request) (e : Endpoint) (job : Option Job),
      req.endpoint env requestId = .ok e → .op o next = e.readAudit requestId job →
      o.Keeps ∧ Rowless env requestId (next (r.effect o).1) := by
    intro req e job he ht
    cases ht
    refine ⟨⟨rfl, rfl⟩, .inr ?_⟩
    change (e.checked requestId job r.audit).Always Op.Keeps fun _ => True
    rw [hrow]
    exact always_absent he job
  rcases h with ⟨req, e, he, ht | ⟨job, ht⟩⟩ | h
  · unfold Endpoint.serve at ht
    split at ht
    · cases ht
      exact ⟨⟨rfl, rfl⟩, .inl ⟨req, e, he, .inr ⟨r.job, rfl⟩⟩⟩
    · exact hread req e none he ht
  · exact hread req e job he ht
  · exact ⟨h.1, .inr (h.2 _)⟩

/-- The stores have no audit row and no final objects, and no request will change that. -/
def RowlessPool (env : Env) (requestId : String) (c : ReviewPool) : Prop :=
  (c.store.audit = none ∧ c.store.final = []) ∧ ∀ t ∈ c.tasks, Rowless env requestId t

/-- Without an audit row no step creates one. -/
theorem RowlessPool.step {c : ReviewPool} (h : RowlessPool env requestId c) (i : ℕ) :
    RowlessPool env requestId (c.step Record.effect i) := by
  obtain ⟨⟨haudit, hfinal⟩, htasks⟩ := h
  rcases c.step_cases Record.effect i with hsame | ⟨o, next, ht, hstep⟩
  · rw [hsame]
    exact ⟨⟨haudit, hfinal⟩, htasks⟩
  rw [hstep]
  obtain ⟨hk, hnext⟩ := (htasks _ (List.mem_of_getElem? ht)).step haudit
  refine ⟨⟨(audit_effect hk.1).trans haudit, (final_effect hk.2).trans hfinal⟩, fun t hmem => ?_⟩
  rcases List.mem_or_eq_of_mem_set hmem with hmem | rfl
  · exact htasks t hmem
  · exact hnext

/-! ### The result -/

/-- In every interleaving of any requests about a report none of whose steps overtakes another
request, once all have returned: the review state is the one of a serial order of the accepted
requests, and objects exist under `final/` only if the report is approved or final. The serial order
is that of the writes where an approval is published, and else that in which the requests have come
to rest. -/
theorem serializable_of_stepOk (env : Env) (requestId : String) (reqs : List Request)
    (r : Record) (schedule : List ℕ) (hfinal : FinalObjectsFinal r)
    (hok : Run.Along (Pool.step Record.effect) (StepOk env requestId reqs)
      (startPool env requestId reqs r) schedule)
    (hdone : ((startPool env requestId reqs r).exec Record.effect schedule).Done) :
    Serializable env requestId reqs r
        ((startPool env requestId reqs r).exec Record.effect schedule) ∧
      FinalOnlyPublished ((startPool env requestId reqs r).exec Record.effect schedule) := by
  cases haudit : r.audit with
  | some row₀ =>
    have hstart : Tracked env requestId reqs row₀ (startPool env requestId reqs r) := by
      refine ⟨_, poolInvariant_start haudit fun hobj => ?_⟩
      have hstate := hfinal hobj
      rw [Record.reviewState?, haudit] at hstate
      exact Option.some.inj hstate
    -- `Tracked` is the invariant: the history explains the state in every state of the run
    have hend : Tracked env requestId reqs row₀
        ((startPool env requestId reqs r).exec Record.effect schedule) :=
      Run.exec_induction (fun c i hc hi => Tracked.step hc hi) hstart hok
    obtain ⟨g, hg⟩ := hend
    exact hg.serializable haudit hdone
  | none =>
    -- without a row nothing is admitted, so every order of the requests is as good
    have hempty : r.final = [] := by
      by_contra hobj
      have hstate := hfinal hobj
      rw [Record.reviewState?, haudit] at hstate
      cases hstate
    have hstart : RowlessPool env requestId (startPool env requestId reqs r) := by
      refine ⟨⟨haudit, hempty⟩, fun t ht => ?_⟩
      obtain ⟨req, -, rfl⟩ := List.mem_map.mp ht
      unfold Request.handle
      cases he : req.endpoint env requestId with
      | ok e => exact .inl ⟨req, e, he, .inl rfl⟩
      | error err => exact .inr trivial
    have hend : RowlessPool env requestId
        ((startPool env requestId reqs r).exec Record.effect schedule) :=
      Run.exec_induction (fun c i (hc : RowlessPool env requestId c) _ => hc.step i) hstart hok
    refine ⟨⟨_, List.Perm.refl _, ?_⟩, fun hobj => absurd hend.1.2 hobj⟩
    rw [Record.reviewState?, Record.reviewState?, audit_serial_none haudit, hend.1.1]

/-! ### Overtaken requests -/

/-- A reviewer's approval and the requester's cancellation. -/
def approveAndCancel : List Request :=
  [.approve (some ⟨"reviewer", some "finance"⟩) none, .cancel (some ⟨"requester", some "finance"⟩)]

/-- An approval and a rejection by two reviewers. -/
def approveAndReject : List Request :=
  [.approve (some ⟨"reviewer", some "finance"⟩) none,
    .reject (some ⟨"other", some "legal"⟩) ⟨"incomplete", by decide⟩]

/-- The cancellation runs between the approval's write and its publication. -/
def cancelInBetween : List ℕ := [0, 0, 0, 1, 1, 1, 1, 0, 0]

/-- The rejection has read the row before the approval and writes after it. -/
def rejectAround : List ℕ := 1 :: List.replicate 12 0 ++ [1, 1]

/-- The approval and the cancellation are both accepted and the report ends cancelled, where
either serial order publishes it; and a rejection that overtakes an approval leaves the
published objects of a rejected report. -/
theorem not_serializable_overtaken :
    ¬ Serializable bypassEnv "r1" approveAndCancel stagedReport
        ((startPool bypassEnv "r1" approveAndCancel stagedReport).exec Record.effect
          cancelInBetween) ∧
      ¬ FinalOnlyPublished
        ((startPool bypassEnv "r1" approveAndReject stagedReport).exec Record.effect
          rejectAround) := by
  constructor
  · rintro ⟨order, hperm, hstate⟩
    have haccepted : acceptedRequests approveAndCancel
        ((startPool bypassEnv "r1" approveAndCancel stagedReport).exec Record.effect
          cancelInBetween) = approveAndCancel := by decide
    rw [haccepted] at hperm
    have hall : ∀ order ∈ approveAndCancel.permutations',
        (serial bypassEnv "r1" stagedReport order).reviewState? = some .final := by decide
    rw [hall order (List.mem_permutations'.mpr hperm)] at hstate
    revert hstate
    decide
  · intro h
    have hobj := h (by decide)
    revert hobj
    decide

/-- A handler that is about to read the audit row is not about to run the publish node: that
one reads the decisions even when there is no row. -/
theorem readAudit_ne_publish {e : Endpoint} {job : Option Job} {err : HttpError}
    (habsent : e.absent job = .ret (.error err)) (k : PublishOutcome → StoreTask Response) :
    e.readAudit requestId job ≠ (node17Publish requestId).bind k := by
  intro h
  injection h with _ hnext
  have hnone := congrFun hnext (some none)
  change e.absent job = _ at hnone
  rw [habsent] at hnone
  cases hnone

/-- `StepOk` for the task, handler and row at hand. -/
theorem stepOk_of_eq {c : ReviewPool} {i : ℕ} {req : Request} {e : Endpoint}
    {t : StoreTask Response} {row : AuditRow} (hreq : reqs[i]? = some req)
    (he : req.endpoint env requestId = .ok e) (ht : c.tasks[i]? = some t)
    (hrow : c.store.audit = some row)
    (hwrite : ∀ k, t = .op (.updateReviewState e.target) k →
      e.check row = .ok () ∨ row.reviewState = e.target)
    (hread : (∃ k, t = (node17Publish requestId).bind k) →
      row.reviewState = .approved ∨ row.reviewState = .final ∨ row.reviewState = .rejected) :
    StepOk env requestId reqs c i := by
  intro req' e' t' row' hreq' he' ht' hrow'
  obtain rfl : req' = req := Option.some.inj (hreq'.symm.trans hreq)
  obtain rfl : e' = e := Except.ok.inj (he'.symm.trans he)
  obtain rfl : t' = t := Option.some.inj (ht'.symm.trans ht)
  obtain rfl : row' = row := Option.some.inj (hrow'.symm.trans hrow)
  exact ⟨hwrite, hread⟩

/-- The rejection comes between the approval's write and its publication, which then stops. -/
theorem serializable_rejectedApproval :
    Serializable bypassEnv "r1" approveAndReject stagedReport
        ((startPool bypassEnv "r1" approveAndReject stagedReport).exec Record.effect
          [0, 0, 0, 1, 1, 1, 0, 0]) ∧
      FinalOnlyPublished ((startPool bypassEnv "r1" approveAndReject stagedReport).exec
        Record.effect [0, 0, 0, 1, 1, 1, 0, 0]) := by
  refine serializable_of_stepOk bypassEnv "r1" approveAndReject stagedReport _
    (fun h => absurd rfl h) ⟨?_, ?_, ?_, ?_, ?_, ?_, ?_, ?_, trivial⟩ (by decide)
  -- the approval reads, records its decision and writes
  · exact stepOk_of_eq rfl rfl rfl rfl (fun k hk => (by cases hk))
      fun ⟨k, hk⟩ => absurd hk (readAudit_ne_publish rfl k)
  · exact stepOk_of_eq rfl rfl rfl rfl (fun k hk => (by cases hk)) fun ⟨k, hk⟩ => (by cases hk)
  · exact stepOk_of_eq rfl rfl rfl rfl (fun k hk => .inl rfl) fun ⟨k, hk⟩ => (by cases hk)
  -- the rejection does, over the approved row
  · exact stepOk_of_eq rfl rfl rfl rfl (fun k hk => (by cases hk)) fun _ => .inl rfl
  · exact stepOk_of_eq rfl rfl rfl rfl (fun k hk => (by cases hk)) fun _ => .inl rfl
  · exact stepOk_of_eq rfl rfl rfl rfl (fun k hk => .inl rfl) fun _ => .inl rfl
  -- the publish node reads a rejected row
  · exact stepOk_of_eq rfl rfl rfl rfl (fun k hk => (by cases hk)) fun _ => .inr (.inr rfl)
  · exact stepOk_of_eq rfl rfl rfl rfl (fun k hk => (by cases hk)) fun _ => .inr (.inr rfl)

end DecisionCenter.Review
