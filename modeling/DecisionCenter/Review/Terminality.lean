import DecisionCenter.Review.Effects

/-!
# Terminal review states

Sequences of review requests about one report, served one after another, in an environment whose
operations may raise. `final` is left by no request. `rejected` and `cancelled` are left by the
requests `Reopens` lists, whose handlers do not test for them, and by no others.

Which requests leave a terminal state is a table (`Request.leaves`), with the kind of request
and the state: an approval, a rejection and a revision request leave a cancelled report, and a
revision request a rejected one. It is derived from the checks of the handlers: one whose check
accepts a terminal report leaves its state, or writes the state that is there already
(`leaves_of_check`), and conversely a handler of the table accepts the report and writes another
state (`check_of_leaves`).

`Reopens` adds what a run needs besides: the caller is admitted, there is a row, and no
operation raises on the way to the write. One request changes a terminal state just if it
reopens the report (`serve_keeps_iff`), for every record and all faults.

`Absorbing` is about a run: from a state that is terminal no step leads to another one.
`absorbing_iff` has the single request along the run, which is an induction on the list. A
cancelled report that is approved afterwards is published.
-/

namespace DecisionCenter.Review

open Async

variable {env : Env} {requestId : String}

/-- The report's review state is terminal. -/
def Terminal (r : Record) : Prop := ∃ s ∈ terminalReviewStates, r.reviewState? = some s

/-- Terminal states are absorbing along a run of requests: once one is reached, every later
state of the run is the same. -/
def Absorbing (env : Env) (requestId : String) (r : Record) (run : List Served) : Prop :=
  ∀ before after, run = before ++ after → Terminal (Run.exec (serve env requestId) r before) →
    ∀ mid, mid <+: after → (Run.exec (serve env requestId) r (before ++ mid)).reviewState? =
      (Run.exec (serve env requestId) r before).reviewState?

/-- The kind of request whose handler does not refuse this terminal state: an approval, a
rejection or a revision request of a cancelled report, or a revision request of a rejected
one. -/
def Request.leaves : Request → ReviewState → Bool
  | .approve _ _, .cancelled => true
  | .reject _ _, .cancelled => true
  | .requestRevision _ _ _, .cancelled => true
  | .requestRevision _ _ _, .rejected => true
  | _, _ => false

/-- The request is of such a kind for the row's state, its caller is admitted, and no
operation it needs raises. -/
def Reopens (env : Env) (requestId : String) (r : Record) (s : Served) : Prop :=
  ∃ e row, s.request.endpoint env requestId = .ok e ∧ r.audit = some row ∧
    s.request.leaves row.reviewState = true ∧ s.down .getAudit = false ∧
    e.GoesThrough s.down row

/-! ### One request -/

/-- A handler whose check accepts a terminal report leaves its state, or writes the state that
is there already. -/
theorem leaves_of_check {req : Request} {e : Endpoint} {row : AuditRow}
    (he : req.endpoint env requestId = .ok e) (hcheck : e.check row = .ok ())
    (hterm : row.reviewState ∈ terminalReviewStates) :
    req.leaves row.reviewState = true ∨ (e.target = row.reviewState ∧ e.publishes = false) := by
  have hcases : row.reviewState = .final ∨ row.reviewState = .rejected ∨
      row.reviewState = .cancelled := by simpa [terminalReviewStates] using hterm
  -- endpoint by endpoint: what the check still lets pass of the three terminal states
  rcases Request.endpoint_cases he with ⟨_, _, c, rfl, -, rfl⟩ | ⟨_, _, c, rfl, -, rfl⟩ |
    ⟨_, _, _, c, rfl, -, rfl⟩ | ⟨_, c, rfl, -, rfl⟩ | ⟨_, _, c, rfl, -, rfl⟩ |
      ⟨_, _, c, rfl, -, rfl⟩
  · have hne := approveReport_check.mp hcheck
    rcases hcases with h | h | h
    · exact absurd h hne.1
    · exact absurd h hne.2
    · exact .inl (by rw [h]; rfl)
  · have hne := checkNotFinal_ok.mp hcheck
    rcases hcases with h | h | h
    · exact absurd h hne
    · exact .inr ⟨h.symm, rfl⟩
    · exact .inl (by rw [h]; rfl)
  · have hne := checkNotFinal_ok.mp hcheck
    rcases hcases with h | h | h
    · exact absurd h hne
    · exact .inl (by rw [h]; rfl)
    · exact .inl (by rw [h]; rfl)
  · exact absurd hterm (cancelReport_check hcheck)
  · have hstaging := (checkOverride_ok hcheck).1
    rw [hstaging] at hcases
    simp at hcases
  · have hstaging := (checkOverride_ok hcheck).1
    rw [hstaging] at hcases
    simp at hcases

/-- A handler that leaves a terminal state accepts it and writes another one. Which handlers do is
read off the table of `Request.leaves`. -/
theorem check_of_leaves {req : Request} {e : Endpoint} {row : AuditRow}
    (he : req.endpoint env requestId = .ok e) (hleaves : req.leaves row.reviewState = true) :
    e.check row = .ok () ∧ e.readsJob = false ∧ e.target ≠ row.reviewState ∧
      row.reviewState ≠ .final := by
  rcases Request.endpoint_cases he with ⟨_, _, c, rfl, -, rfl⟩ | ⟨_, _, c, rfl, -, rfl⟩ |
    ⟨_, _, _, c, rfl, -, rfl⟩ | ⟨_, c, rfl, -, rfl⟩ | ⟨_, _, c, rfl, -, rfl⟩ |
      ⟨_, _, c, rfl, -, rfl⟩
  · have hs : row.reviewState = .cancelled := by
      cases h : row.reviewState <;> simp [h, Request.leaves] at hleaves ⊢
    exact ⟨approveReport_check.mpr (by simp [hs]), rfl, by simp [hs, approveReport], by simp [hs]⟩
  · have hs : row.reviewState = .cancelled := by
      cases h : row.reviewState <;> simp [h, Request.leaves] at hleaves ⊢
    exact ⟨checkNotFinal_ok.mpr (by simp [hs]), rfl, by simp [hs, rejectReport], by simp [hs]⟩
  · have hs : row.reviewState = .cancelled ∨ row.reviewState = .rejected := by
      cases h : row.reviewState <;> simp [h, Request.leaves] at hleaves ⊢
    rcases hs with hs | hs
    · exact ⟨checkNotFinal_ok.mpr (by simp [hs]), rfl, by simp [hs, Review.requestRevision],
        by simp [hs]⟩
    · exact ⟨checkNotFinal_ok.mpr (by simp [hs]), rfl, by simp [hs, Review.requestRevision],
        by simp [hs]⟩
  · simp [Request.leaves] at hleaves
  · simp [Request.leaves] at hleaves
  · simp [Request.leaves] at hleaves

/-- One request changes a terminal state exactly when it reopens the report. A request that is
accepted and leaves the state as it was writes that state again. -/
theorem serve_keeps_iff {r : Record} {s : Served} (hterm : Terminal r) :
    (serve env requestId r s).reviewState? = r.reviewState? ↔ ¬ Reopens env requestId r s := by
  obtain ⟨state, hmem, hstate⟩ := hterm
  obtain ⟨row, hrow, rfl⟩ : ∃ row, r.audit = some row ∧ row.reviewState = state := by
    simpa [Record.reviewState?] using hstate
  rcases serve_cases r s with ⟨e, he, ⟨row', hacc, hw⟩ | ⟨hnot, hu⟩⟩ | ⟨⟨err, herr⟩, hsame⟩
  · obtain rfl : row' = row := Option.some.inj (hacc.row_eq.symm.trans hrow)
    rcases leaves_of_check he hacc.check_ok hmem with hleaves | ⟨htarget, hpub⟩
    · -- the handler leaves the state: it is reopened, and the state written is another one
      have hreopens : Reopens env requestId r s :=
        ⟨e, row', he, hrow, hleaves, hacc.audit_read, hacc.goesThrough⟩
      obtain ⟨-, -, hne, hfinal⟩ := check_of_leaves he hleaves
      have hchanged : (serve env requestId r s).reviewState? ≠ r.reviewState? := by
        obtain ⟨written, haudit, hwritten⟩ := hw.audit
        rw [hstate, Record.reviewState?, haudit]
        intro heq
        obtain rfl : written = row'.reviewState := Option.some.inj heq
        rcases hwritten with h | ⟨-, h⟩
        · exact hne h.symm
        · exact hfinal h
      exact ⟨fun h => absurd h hchanged, fun h => absurd hreopens h⟩
    · -- the state written is the one there is
      have hkept : (serve env requestId r s).reviewState? = r.reviewState? := by
        obtain ⟨written, haudit, rfl | ⟨hp, -⟩⟩ := hw.audit
        · rw [hstate, Record.reviewState?, haudit, ← htarget]
          rfl
        · rw [hpub] at hp
          cases hp
      refine ⟨fun _ => ?_, fun _ => hkept⟩
      rintro ⟨e', row'', he', hrow'', hleaves, -⟩
      obtain rfl : e' = e := Except.ok.inj (he'.symm.trans he)
      obtain rfl : row'' = row' := Option.some.inj (hrow''.symm.trans hrow)
      exact (check_of_leaves he hleaves).2.2.1 htarget
  · have hkept : (serve env requestId r s).reviewState? = r.reviewState? := by
      unfold Record.reviewState?
      rw [hu.1]
    refine ⟨fun _ => ?_, fun _ => hkept⟩
    rintro ⟨e', row', he', hrow', hleaves, hread, hgo⟩
    obtain rfl : e' = e := Except.ok.inj (he'.symm.trans he)
    obtain ⟨hcheck, hjob, -, -⟩ := check_of_leaves he hleaves
    exact hnot ⟨row', hrow', fun h => absurd h (by simp [hjob]), hread, hcheck, hgo⟩
  · refine ⟨fun _ => ?_, fun _ => by rw [hsame]⟩
    rintro ⟨e', row', he', -⟩
    rw [herr] at he'
    cases he'

/-- Only terminal reports are reopened. -/
theorem Reopens.terminal {r : Record} {s : Served} (h : Reopens env requestId r s) :
    Terminal r := by
  obtain ⟨e, row, -, hrow, hleaves, -⟩ := h
  refine ⟨row.reviewState, ?_, by rw [Record.reviewState?, hrow]; rfl⟩
  unfold Request.leaves at hleaves
  split at hleaves <;> simp_all [terminalReviewStates]

/-! ### Runs -/

/-- Along a run none of whose requests reopens the report, a terminal state is kept. -/
theorem reviewState?_exec {r : Record} {run : List Served} (hterm : Terminal r)
    (h : Run.Along (serve env requestId) (fun r s => ¬ Reopens env requestId r s) r run) :
    (Run.exec (serve env requestId) r run).reviewState? = r.reviewState? := by
  induction run generalizing r with
  | nil => rfl
  | cons s run ih =>
    obtain ⟨hs, hrun⟩ := h
    have hkept := (serve_keeps_iff hterm).mpr hs
    have hterm' : Terminal (serve env requestId r s) := by
      obtain ⟨state, hmem, hstate⟩ := hterm
      exact ⟨state, hmem, hkept.trans hstate⟩
    rw [Run.exec_cons]
    exact (ih hterm' hrun).trans hkept

/-- A run keeps every terminal state it reaches exactly when none of its requests reopens the report
in the state it is served in. A single request is the case of `serve_keeps_iff`, and the run is an
induction on its requests. -/
theorem absorbing_iff (env : Env) (requestId : String) (r : Record) (run : List Served) :
    Absorbing env requestId r run ↔
      Run.Along (serve env requestId) (fun r s => ¬ Reopens env requestId r s) r run := by
  constructor
  · intro h
    refine Run.along_iff.mpr fun before s after hrun hreopens => ?_
    have hterm := hreopens.terminal
    have hkept := h before (s :: after) hrun hterm [s] ⟨after, rfl⟩
    rw [Run.exec_append] at hkept
    exact (serve_keeps_iff hterm).mp hkept hreopens
  · rintro h before after rfl hterm mid ⟨rest, rfl⟩
    have hmid := (Run.along_append.mp (Run.along_append.mp h).2).1
    rw [Run.exec_append]
    exact reviewState?_exec hterm hmid

/-! ### A cancelled report that is published -/

/-- The requester cancels, then a finance reviewer approves. -/
def cancelThenApprove : List Served :=
  [⟨.cancel (some ⟨"requester", some "finance"⟩), fun _ => false⟩,
    ⟨.approve (some ⟨"reviewer", some "finance"⟩) none, fun _ => false⟩]

/-- The approval publishes the cancelled report. -/
theorem not_absorbing_cancelThenApprove :
    ¬ Absorbing bypassEnv "r1" stagedReport cancelThenApprove := by
  intro h
  have hterm : Terminal (Run.exec (serve bypassEnv "r1") stagedReport
      (cancelThenApprove.take 1)) := ⟨.cancelled, by decide, by decide⟩
  have hkept := h (cancelThenApprove.take 1) (cancelThenApprove.drop 1) rfl hterm
    (cancelThenApprove.drop 1) ⟨[], rfl⟩
  revert hkept
  decide

end DecisionCenter.Review
