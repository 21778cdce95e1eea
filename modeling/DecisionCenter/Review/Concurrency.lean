import DecisionCenter.Review.Phases
import Mathlib.Data.List.Perm.Basic
import Mathlib.Data.List.Range
import Mathlib.Logic.Function.Basic

/-!
# Concurrent review requests

Any number of requests about one report, interleaved at their store operations. The handlers
write the review state without testing it again, so another request may have written in between.
`StepOk` says that a step is not of this kind: the row a handler writes is one its own check
would still accept, and the publish node does not find a revision request or a cancellation in
place of the approval. Along such interleavings the accepted requests have a serial order with
the same result, and only a final report has final objects.

Two orders are kept along a run: of the writes of the review state, and of the requests that
have come to rest. The first is the serial order when some approval is published, the second
when none is.

`History` has both with the phases of the requests, and is all that the argument is about.
`Consistent` relates it to the review state: which of the abstract runs gives it, and what
follows from a publisher that is under way. How a history may grow is said by a few lemmas, one
for a kind of step (`move`, `write_quiet`, `write_approved`, `copy`, `finish`), and each of them
keeps it consistent.

What makes these possible is what the checks of the handlers say about one another. A handler
that does not publish and accepts an approved report gives its own state to any report that is
neither final nor rejected, and so it can be moved in front of a write that came later. The
tasks of the handlers come in with `Review.Serializability`.
-/

namespace DecisionCenter.Review

open Async

/-! ### Interleavings -/

/-- The stores of a report and the requests that are being served. -/
abbrev ReviewPool := Pool Record Op Op.Outcome Response

variable (env : Env) (requestId : String) (reqs : List Request)

/-- The requests before their first step. -/
def startPool (r : Record) : ReviewPool := ⟨r, reqs.map fun req => req.handle env requestId⟩

/-- The task has returned a 2xx. -/
def returnedOk (t : StoreTask Response) : Bool := t.result?.elim false (·.isOk)

/-- The request at position `i` has been accepted. -/
def acceptedAt (c : ReviewPool) (i : ℕ) : Bool := c.tasks[i]?.elim false returnedOk

/-- The requests at the given positions. -/
def requestsAt (order : List ℕ) : List Request := order.filterMap (reqs[·]?)

/-- The accepted requests, in the order they were given. -/
def acceptedRequests (c : ReviewPool) : List Request :=
  requestsAt reqs ((List.range reqs.length).filter (acceptedAt c))

/-- The review state is one that a serial order of the accepted requests produces from `r`. -/
def Serializable (r : Record) (c : ReviewPool) : Prop :=
  ∃ order : List Request, order.Perm (acceptedRequests reqs c) ∧
    (serial env requestId r order).reviewState? = c.store.reviewState?

/-- Objects exist under `final/` only if the report is approved or final. -/
def FinalOnlyPublished (c : ReviewPool) : Prop :=
  c.store.final ≠ [] →
    c.store.reviewState? = some .approved ∨ c.store.reviewState? = some .final

/-- The next step of request `i` does not overtake another request: a handler writes its review
state over a row its check would still accept, or which holds that state already, and the
publish node reads an approved, final or rejected row. -/
def StepOk (c : ReviewPool) (i : ℕ) : Prop :=
  ∀ req e t row, reqs[i]? = some req → req.endpoint env requestId = .ok e →
    c.tasks[i]? = some t → c.store.audit = some row →
    (∀ k, t = .op (.updateReviewState e.target) k →
      e.check row = .ok () ∨ row.reviewState = e.target) ∧
    ((∃ k, t = (node17Publish requestId).bind k) →
      row.reviewState = .approved ∨ row.reviewState = .final ∨ row.reviewState = .rejected)

/-! ### The history of an interleaving -/

/-- What is remembered of an interleaving: the phases, the order in which the review state was
written, the order in which requests came to rest, and whether a publication has begun. -/
structure History where
  phase : ℕ → Phase
  writes : List ℕ
  settled : List ℕ
  published : Prop

/-- The request at position `i` publishes. -/
def Publisher (i : ℕ) : Prop :=
  ∃ req e, reqs[i]? = some req ∧ req.endpoint env requestId = .ok e ∧ e.publishes = true

variable (row₀ : AuditRow)

/-- The review state after the requests at the given positions, served one after another. -/
def stateAfter (order : List ℕ) : ReviewState :=
  serialState env requestId row₀ (requestsAt reqs order) row₀.reviewState

/-- The invariant on the history: `s` is the review state of the report and `final` its final
objects. -/
structure History.Consistent (g : History) (s : ReviewState) (final : List String) : Prop where
  writes_nodup : g.writes.Nodup
  settled_nodup : ¬ g.published → g.settled.Nodup
  mem_writes : ∀ i, i ∈ g.writes ↔ (g.phase i).wrote = true
  mem_settled : ¬ g.published → ∀ i, i ∈ g.settled ↔ g.phase i = .closing
  publishing : ∀ i, g.phase i = .publishing → g.published
  /-- Without a publishing request the writes are serial already. -/
  writes_quiet : (¬ ∃ i ∈ g.writes, Publisher env requestId reqs i) →
    s = stateAfter env requestId reqs row₀ g.writes
  writes_published : (∃ i ∈ g.writes, Publisher env requestId reqs i) →
    stateAfter env requestId reqs row₀ g.writes = .final
  published_final : g.published → (∃ i ∈ g.writes, Publisher env requestId reqs i) ∧
    (s = .final ∨ ∃ i, g.phase i = .publishing)
  /-- Until a publication begins, the requests at rest are serial, up to pending approvals. -/
  settled_serial : ¬ g.published → s = stateAfter env requestId reqs row₀ g.settled ∨
    (s = .approved ∧ stateAfter env requestId reqs row₀ g.settled ≠ .final ∧
      stateAfter env requestId reqs row₀ g.settled ≠ .rejected ∧ ∃ i, g.phase i = .written)
  objects : final ≠ [] → s = .final ∨ ∃ i, g.phase i = .publishing
  approved : s = .approved → row₀.reviewState = .approved ∨
    ∃ i ∈ g.writes, Publisher env requestId reqs i
  staging : s = .staging → row₀.reviewState = .staging

variable {env requestId reqs row₀}

private theorem stateAfter_append (order : List ℕ) {i : ℕ} {req : Request}
    (hreq : reqs[i]? = some req) : stateAfter env requestId reqs row₀ (order ++ [i]) =
      req.next env requestId row₀ (stateAfter env requestId reqs row₀ order) := by
  unfold stateAfter requestsAt
  rw [List.filterMap_append, serialState_append]
  simp [hreq, serialState]

private theorem Request.next_eq {req : Request} {e : Endpoint}
    (he : req.endpoint env requestId = .ok e) (s : ReviewState) :
    req.next env requestId row₀ s = e.next row₀ s := by
  unfold Request.next
  rw [he]

/-! ### What the handlers' checks say about each other -/

/-- A publishing handler that passed its check accepts an approved report, or read a staged
one. -/
theorem check_approved {req : Request} {e : Endpoint} {s : ReviewState}
    (he : req.endpoint env requestId = .ok e) (hp : e.publishes = true)
    (hcheck : e.check (row₀.withState s) = .ok ()) :
    e.check (row₀.withState .approved) = .ok () ∨ s = .staging := by
  rcases Request.endpoint_cases he with ⟨_, _, c, -, -, rfl⟩ | ⟨_, _, c, -, -, rfl⟩ |
    ⟨_, _, _, c, -, -, rfl⟩ | ⟨_, c, -, -, rfl⟩ | ⟨_, _, c, -, -, rfl⟩ | ⟨_, _, c, -, -, rfl⟩
  · exact .inl (approveReport_check.mpr (by simp))
  · cases hp
  · cases hp
  · cases hp
  · exact .inr (checkOverride_ok hcheck).1
  · cases hp

private theorem Endpoint.outcome_of_quiet {e : Endpoint} (hp : e.publishes = false) :
    e.outcome = e.target := by
  unfold outcome
  rw [hp]
  rfl

private theorem Endpoint.outcome_of_publishes {e : Endpoint} (hp : e.publishes = true) :
    e.outcome = .final := by
  unfold outcome
  rw [hp]
  rfl

/-- A handler that does not publish gives its own state to a report it accepts, and leaves it to
one that has it. -/
theorem next_of_quiet {e : Endpoint} {s : ReviewState} (hp : e.publishes = false)
    (hok : e.check (row₀.withState s) = .ok () ∨ s = e.target) : e.next row₀ s = e.target := by
  by_cases hcheck : e.check (row₀.withState s) = .ok ()
  · rw [Endpoint.next_of_ok hcheck, Endpoint.outcome_of_quiet hp]
  · rw [Endpoint.next_of_error hcheck]
    exact hok.resolve_left hcheck

/-- A handler that does not publish and accepts an approved report gives its own state to any
report that is neither final nor rejected. -/
theorem next_of_check_approved {req : Request} {e : Endpoint} {z : ReviewState}
    (he : req.endpoint env requestId = .ok e) (hp : e.publishes = false)
    (hcheck : e.check (row₀.withState .approved) = .ok ())
    (hfinal : z ≠ .final) (hrejected : z ≠ .rejected) : e.next row₀ z = e.target := by
  have houtcome : e.outcome = e.target := Endpoint.outcome_of_quiet hp
  rcases Request.endpoint_cases he with ⟨_, _, c, -, -, rfl⟩ | ⟨_, _, c, -, -, rfl⟩ |
    ⟨_, _, _, c, -, -, rfl⟩ | ⟨_, c, -, -, rfl⟩ | ⟨_, _, c, -, -, rfl⟩ | ⟨_, _, c, -, -, rfl⟩
  · cases hp
  · exact (Endpoint.next_of_ok (checkNotFinal_ok.mpr hfinal)).trans houtcome
  · exact (Endpoint.next_of_ok (checkNotFinal_ok.mpr hfinal)).trans houtcome
  · by_cases hz : z = .cancelled
    · -- the cancellation is refused and the report is cancelled already
      subst hz
      exact Endpoint.next_of_error fun h => cancelReport_check h (by simp [terminalReviewStates])
    · refine (Endpoint.next_of_ok ?_).trans houtcome
      exact cancelReport_of_check hcheck rfl (by simp [terminalReviewStates, hfinal, hrejected, hz])
  · cases hp
  · have hstaging := (checkOverride_ok hcheck).1
    cases hstaging

/-- The handlers that do not publish write a state that is neither final, approved nor
staged. -/
theorem target_of_quiet {req : Request} {e : Endpoint} (he : req.endpoint env requestId = .ok e)
    (hp : e.publishes = false) :
    e.target ≠ .final ∧ e.target ≠ .approved ∧ e.target ≠ .staging := by
  rcases Request.endpoint_cases he with ⟨_, _, c, -, -, rfl⟩ | ⟨_, _, c, -, -, rfl⟩ |
    ⟨_, _, _, c, -, -, rfl⟩ | ⟨_, c, -, -, rfl⟩ | ⟨_, _, c, -, -, rfl⟩ | ⟨_, _, c, -, -, rfl⟩
  · cases hp
  · simp [rejectReport]
  · simp [Review.requestRevision]
  · simp [cancelReport]
  · cases hp
  · simp [adminOverrideReject]

/-! ### How the history grows -/

section Positions

variable {phase : ℕ → Phase} {order : List ℕ} {i : ℕ} {p : Phase} {f : Phase → Prop}

/-- Appending a position that is new keeps a list of positions without repetition. -/
theorem nodup_append_position (h : order.Nodup) (hi : i ∉ order) : (order ++ [i]).Nodup := by
  rw [List.nodup_append]
  refine ⟨h, by simp, ?_⟩
  intro a ha b hb hab
  rw [List.mem_singleton] at hb
  exact hi (by rw [← hb, ← hab]; exact ha)

/-- The positions in phases of a kind, when `i` enters a phase of that kind. -/
theorem mem_append_position (h : ∀ j, j ∈ order ↔ f (phase j)) (hp : f p) (j : ℕ) :
    j ∈ order ++ [i] ↔ f (Function.update phase i p j) := by
  rw [List.mem_append, List.mem_singleton]
  by_cases hj : j = i
  · subst hj
    rw [Function.update_self]
    exact ⟨fun _ => hp, fun _ => .inr rfl⟩
  · rw [Function.update_of_ne hj, ← h j]
    exact ⟨fun h => h.resolve_right hj, .inl⟩

/-- The positions in phases of a kind, when `i` moves without changing the kind. -/
theorem mem_of_move (h : ∀ j, j ∈ order ↔ f (phase j)) (hi : f (phase i) ↔ f p) (j : ℕ) :
    j ∈ order ↔ f (Function.update phase i p j) := by
  rw [h j]
  by_cases hj : j = i
  · subst hj
    rw [Function.update_self]
    exact hi
  · rw [Function.update_of_ne hj]

/-- Another request stays in its phase when `i` moves. -/
theorem exists_update {q : Phase} (hi : phase i ≠ q) (h : ∃ j, phase j = q) :
    ∃ j, Function.update phase i p j = q := by
  obtain ⟨j, hj⟩ := h
  have hij : j ≠ i := by
    rintro rfl
    exact hi hj
  exact ⟨j, by rw [Function.update_of_ne hij, hj]⟩

/-- A request other than `i` is in the phase it was in. -/
theorem of_update {q : Phase} {j : ℕ} (hp : p ≠ q) (h : Function.update phase i p j = q) :
    phase j = q := by
  by_cases hj : j = i
  · subst hj
    rw [Function.update_self] at h
    exact absurd h hp
  · rwa [Function.update_of_ne hj] at h

end Positions

namespace History.Consistent

variable {g : History} {s : ReviewState} {final : List String} {i : ℕ} {req : Request}
  {e : Endpoint}

/-- A request that has not written goes on without writing. Nothing in the history depends on which
of the early phases it is in. -/
theorem move {p : Phase} (h : g.Consistent env requestId reqs row₀ s final)
    (hi : (g.phase i).wrote = false) (hp : p.wrote = false) :
    ({ g with phase := Function.update g.phase i p } : History).Consistent
      env requestId reqs row₀ s final := by
  have hne : ∀ q : Phase, q.wrote = true → g.phase i ≠ q ∧ p ≠ q := by
    intro q hq
    constructor
    · rintro rfl
      rw [hi] at hq
      cases hq
    · rintro rfl
      rw [hp] at hq
      cases hq
  exact
    { h with
      mem_writes := mem_of_move (f := fun q => q.wrote = true) h.mem_writes (by rw [hi, hp])
      mem_settled := fun hpub => mem_of_move (f := fun q => q = .closing) (h.mem_settled hpub)
        ⟨fun h => absurd h (hne .closing rfl).1, fun h => absurd h (hne .closing rfl).2⟩
      publishing := fun j hj => h.publishing j (of_update (hne .publishing rfl).2 hj)
      published_final := fun hpub => ⟨(h.published_final hpub).1,
        (h.published_final hpub).2.imp_right (exists_update (hne .publishing rfl).1)⟩
      settled_serial := fun hpub => (h.settled_serial hpub).imp_right
        fun ⟨hs, hf, hr, hw⟩ => ⟨hs, hf, hr, exists_update (hne .written rfl).1 hw⟩
      objects := fun hobj => (h.objects hobj).imp_right (exists_update (hne .publishing rfl).1) }

/-- No request writes over a final report. -/
theorem not_final (he : req.endpoint env requestId = .ok e)
    (hok : e.check (row₀.withState s) = .ok () ∨ s = e.target)
    (htarget : e.target ≠ .final) : s ≠ .final := by
  rintro rfl
  rcases hok with hok | hok
  · exact check_final he rfl hok
  · exact htarget hok.symm

/-- The request at a position publishes if its handler does. -/
theorem publisher_iff (hreq : reqs[i]? = some req) (he : req.endpoint env requestId = .ok e) :
    Publisher env requestId reqs i ↔ e.publishes = true := by
  constructor
  · rintro ⟨req', e', hreq', he', hp⟩
    obtain rfl : req' = req := Option.some.inj (hreq'.symm.trans hreq)
    obtain rfl : e' = e := Except.ok.inj (he'.symm.trans he)
    exact hp
  · exact fun hp => ⟨req, e, hreq, he, hp⟩

/-- A request that does not publish adds no publisher. -/
theorem publisher_append_quiet {order : List ℕ} (hreq : reqs[i]? = some req)
    (he : req.endpoint env requestId = .ok e) (hp : e.publishes = false) :
    (∃ j ∈ order ++ [i], Publisher env requestId reqs j) ↔
      ∃ j ∈ order, Publisher env requestId reqs j := by
  simp only [List.mem_append, List.mem_singleton]
  constructor
  · rintro ⟨j, hj | rfl, hpj⟩
    · exact ⟨j, hj, hpj⟩
    · rw [publisher_iff hreq he, hp] at hpj
      cases hpj
  · rintro ⟨j, hj, hpj⟩
    exact ⟨j, .inl hj, hpj⟩

/-- A request that does not publish writes its state and is done. It comes to rest with its write,
so that both orders grow by it. -/
theorem write_quiet (h : g.Consistent env requestId reqs row₀ s final)
    (hphase : g.phase i = .checked) (hreq : reqs[i]? = some req)
    (he : req.endpoint env requestId = .ok e) (hp : e.publishes = false)
    (hok : e.check (row₀.withState s) = .ok () ∨ s = e.target) :
    ({ g with
        phase := Function.update g.phase i .closing
        writes := g.writes ++ [i]
        settled := g.settled ++ [i] } : History).Consistent env requestId reqs row₀
      e.target final := by
  obtain ⟨hfinal, happroved, hstaging⟩ := target_of_quiet he hp
  have hs : s ≠ .final := not_final he hok hfinal
  have hiw : i ∉ g.writes := by
    rw [h.mem_writes, hphase]
    simp [Phase.wrote]
  have hnext : e.next row₀ s = e.target := next_of_quiet hp hok
  -- nothing about publishers changes: neither who wrote nor who is publishing
  have hpublisher : (∃ j ∈ g.writes ++ [i], Publisher env requestId reqs j) ↔
      ∃ j ∈ g.writes, Publisher env requestId reqs j := publisher_append_quiet hreq he hp
  have hpublishing : (∃ j, g.phase j = .publishing) →
      ∃ j, Function.update g.phase i .closing j = .publishing :=
    exists_update (by rw [hphase]; decide)
  exact
    { writes_nodup := nodup_append_position h.writes_nodup hiw
      settled_nodup := fun hpub => nodup_append_position (h.settled_nodup hpub) (by
        rw [h.mem_settled hpub, hphase]
        decide)
      mem_writes := mem_append_position (f := fun q => q.wrote = true) h.mem_writes rfl
      mem_settled := fun hpub =>
        mem_append_position (f := fun q => q = .closing) (h.mem_settled hpub) rfl
      publishing := fun j hj => h.publishing j (of_update (by decide) hj)
      writes_quiet := by
        intro hno
        rw [hpublisher] at hno
        rw [stateAfter_append _ hreq, Request.next_eq he, ← h.writes_quiet hno, hnext]
      writes_published := by
        intro hsome
        rw [hpublisher] at hsome
        rw [stateAfter_append _ hreq, h.writes_published hsome, Request.next_final]
      published_final := by
        intro hpub
        obtain ⟨hsome, hor⟩ := h.published_final hpub
        exact ⟨hpublisher.mpr hsome, .inr (hpublishing (hor.resolve_left hs))⟩
      -- either the serial run is at this state already, or the row was approved and the request
      -- is one that an approved row lets pass, which alone would do the same
      settled_serial := by
        intro hpub
        left
        rw [stateAfter_append _ hreq, Request.next_eq he]
        rcases h.settled_serial hpub with hserial | ⟨happ, hzf, hzr, -⟩
        · rw [← hserial, hnext]
        · have hcheck : e.check (row₀.withState .approved) = .ok () := by
            rw [happ] at hok
            exact hok.resolve_right fun h => happroved h.symm
          exact (next_of_check_approved he hp hcheck hzf hzr).symm
      objects := fun hobj => .inr (hpublishing ((h.objects hobj).resolve_left hs))
      approved := fun h' => absurd h' happroved
      staging := fun h' => absurd h' hstaging }

/-- No request publishes a rejected report. -/
theorem not_rejected (he : req.endpoint env requestId = .ok e) (hp : e.publishes = true)
    (hok : e.check (row₀.withState s) = .ok () ∨ s = e.target) : s ≠ .rejected := by
  rintro rfl
  rcases hok with hok | hok
  · exact check_rejected he hp rfl hok
  · rw [target_of_publishes he hp] at hok
    cases hok

/-- Where no publishing request has written, one that is served alone in this place publishes. -/
theorem check_unpublished {s' : ReviewState} (h : g.Consistent env requestId reqs row₀ s final)
    (he : req.endpoint env requestId = .ok e) (hp : e.publishes = true)
    (hcheck : e.check (row₀.withState s') = .ok ())
    (hs' : s' = .staging → row₀.reviewState = .staging)
    (hok : e.check (row₀.withState s) = .ok () ∨ s = e.target)
    (hno : ¬ ∃ j ∈ g.writes, Publisher env requestId reqs j) :
    e.check (row₀.withState s) = .ok () := by
  rcases hok with hok | hok
  · exact hok
  · rw [target_of_publishes he hp] at hok
    subst hok
    rcases check_approved he hp hcheck with happ | hst
    · exact happ
    · have hrow := (h.approved rfl).resolve_right hno
      rw [hs' hst] at hrow
      cases hrow

/-- A publishing request writes `approved`. It has written, but has not come to rest before the
publish node is done. -/
theorem write_approved {s' : ReviewState} (h : g.Consistent env requestId reqs row₀ s final)
    (hphase : g.phase i = .checked) (hreq : reqs[i]? = some req)
    (he : req.endpoint env requestId = .ok e) (hp : e.publishes = true)
    (hcheck : e.check (row₀.withState s') = .ok ())
    (hs' : s' = .staging → row₀.reviewState = .staging)
    (hok : e.check (row₀.withState s) = .ok () ∨ s = e.target) :
    ({ g with
        phase := Function.update g.phase i .written
        writes := g.writes ++ [i] } : History).Consistent env requestId reqs row₀
      e.target final := by
  have htarget : e.target = .approved := target_of_publishes he hp
  have hs : s ≠ .final := not_final he hok (by rw [htarget]; decide)
  have hsr : s ≠ .rejected := not_rejected he hp hok
  have hiw : i ∉ g.writes := by
    rw [h.mem_writes, hphase]
    simp [Phase.wrote]
  have hpi : Publisher env requestId reqs i := (publisher_iff hreq he).mpr hp
  have houtcome : e.outcome = .final := Endpoint.outcome_of_publishes hp
  have hmem : ∃ j ∈ g.writes ++ [i], Publisher env requestId reqs j := ⟨i, by simp, hpi⟩
  have hpublishing : (∃ j, g.phase j = .publishing) →
      ∃ j, Function.update g.phase i .written j = .publishing :=
    exists_update (by rw [hphase]; decide)
  have hserial : (¬ ∃ j ∈ g.writes, Publisher env requestId reqs j) →
      e.check (row₀.withState s) = .ok () := h.check_unpublished he hp hcheck hs' hok
  exact
    { writes_nodup := nodup_append_position h.writes_nodup hiw
      settled_nodup := h.settled_nodup
      mem_writes := mem_append_position (f := fun q => q.wrote = true) h.mem_writes rfl
      mem_settled := fun hpub => mem_of_move (f := fun q => q = .closing) (h.mem_settled hpub) (by
        rw [hphase]
        decide)
      publishing := fun j hj => h.publishing j (of_update (by decide) hj)
      writes_quiet := fun hno => absurd hmem hno
      -- a publisher after another changes nothing; the first one is served as it would be alone
      writes_published := by
        intro _
        rw [stateAfter_append _ hreq]
        by_cases hsome : ∃ j ∈ g.writes, Publisher env requestId reqs j
        · rw [h.writes_published hsome, Request.next_final]
        · rw [Request.next_eq he, ← h.writes_quiet hsome, Endpoint.next_of_ok (hserial hsome),
            houtcome]
      published_final := fun hpub =>
        ⟨hmem, .inr (hpublishing ((h.published_final hpub).2.resolve_left hs))⟩
      -- the write of `approved` is not settled: the request still has to publish
      settled_serial := by
        intro hpub
        have hwritten : ∃ j, Function.update g.phase i .written j = .written :=
          ⟨i, Function.update_self ..⟩
        rcases h.settled_serial hpub with hserial | ⟨-, hzf, hzr, -⟩
        · rw [← hserial]
          exact .inr ⟨htarget, hs, hsr, hwritten⟩
        · exact .inr ⟨htarget, hzf, hzr, hwritten⟩
      objects := fun hobj => .inr (hpublishing ((h.objects hobj).resolve_left hs))
      approved := fun _ => .inr hmem
      staging := by
        intro h'
        rw [htarget] at h'
        cases h' }

/-- The publish node reads an approved or final row. From now on the order of the writes is the
serial one. -/
theorem begin_publishing (h : g.Consistent env requestId reqs row₀ s final)
    (hphase : g.phase i = .written) (hpi : Publisher env requestId reqs i) :
    ({ g with
        phase := Function.update g.phase i .publishing
        published := True } : History).Consistent env requestId reqs row₀ s final := by
  have hiw : i ∈ g.writes := by
    rw [h.mem_writes, hphase]
    rfl
  have hpublishing : ∃ j, Function.update g.phase i .publishing j = .publishing :=
    ⟨i, Function.update_self ..⟩
  exact
    { h with
      settled_nodup := fun hpub => absurd trivial hpub
      mem_writes := mem_of_move (f := fun q => q.wrote = true) h.mem_writes (by
        rw [hphase]
        decide)
      mem_settled := fun hpub => absurd trivial hpub
      publishing := fun _ _ => trivial
      published_final := fun _ => ⟨⟨i, hiw, hpi⟩, .inr hpublishing⟩
      settled_serial := fun hpub => absurd trivial hpub
      objects := fun _ => .inr hpublishing }

/-- The publish node reads a rejected row and stops. It comes to rest behind the rejection, whose
place in the order of rest is before it. -/
theorem stop_rejected (h : g.Consistent env requestId reqs row₀ .rejected final)
    (hphase : g.phase i = .written) (hreq : reqs[i]? = some req)
    (he : req.endpoint env requestId = .ok e) (hp : e.publishes = true) :
    ({ g with
        phase := Function.update g.phase i .closing
        settled := g.settled ++ [i] } : History).Consistent env requestId reqs row₀
      .rejected final := by
  have hpublishing : (∃ j, g.phase j = .publishing) →
      ∃ j, Function.update g.phase i .closing j = .publishing :=
    exists_update (by rw [hphase]; decide)
  exact
    { h with
      settled_nodup := fun hpub => nodup_append_position (h.settled_nodup hpub) (by
        rw [h.mem_settled hpub, hphase]
        decide)
      mem_writes := mem_of_move (f := fun q => q.wrote = true) h.mem_writes (by
        rw [hphase]
        decide)
      mem_settled := fun hpub =>
        mem_append_position (f := fun q => q = .closing) (h.mem_settled hpub) rfl
      publishing := fun j hj => h.publishing j (of_update (by decide) hj)
      published_final := fun hpub => ⟨(h.published_final hpub).1,
        (h.published_final hpub).2.imp_right hpublishing⟩
      settled_serial := by
        intro hpub
        left
        -- the approval comes after the rejection and is refused
        have hserial := (h.settled_serial hpub).resolve_right fun ⟨happ, _⟩ => by cases happ
        rw [stateAfter_append _ hreq, Request.next_eq he, ← hserial]
        exact (Endpoint.next_of_error (check_rejected he hp rfl)).symm
      objects := fun hobj => (h.objects hobj).imp_right hpublishing }

/-- While a request publishes, objects may appear. -/
theorem copy (h : g.Consistent env requestId reqs row₀ s final) (hphase : g.phase i = .publishing)
    (final' : List String) : g.Consistent env requestId reqs row₀ s final' :=
  { h with objects := fun _ => .inr ⟨i, hphase⟩ }

/-- The publish node writes `final`. The order of the writes is the serial one since
`begin_publishing`, and this write has no place of its own in it. -/
theorem finish (h : g.Consistent env requestId reqs row₀ s final)
    (hphase : g.phase i = .publishing) :
    ({ g with phase := Function.update g.phase i .closing } : History).Consistent
      env requestId reqs row₀ .final final := by
  have hpub : g.published := h.publishing i hphase
  obtain ⟨hsome, -⟩ := h.published_final hpub
  exact
    { writes_nodup := h.writes_nodup
      settled_nodup := h.settled_nodup
      mem_writes := mem_of_move (f := fun q => q.wrote = true) h.mem_writes (by
        rw [hphase]
        decide)
      mem_settled := fun hno => absurd hpub hno
      publishing := fun _ _ => hpub
      writes_quiet := fun hno => absurd hsome hno
      writes_published := h.writes_published
      published_final := fun _ => ⟨hsome, .inl rfl⟩
      settled_serial := fun hno => absurd hpub hno
      objects := fun _ => .inl rfl
      approved := fun h' => by cases h'
      staging := fun h' => by cases h' }

end History.Consistent

end DecisionCenter.Review
