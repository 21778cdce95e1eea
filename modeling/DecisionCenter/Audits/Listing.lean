import Mathlib.Tactic.FinCases
import DecisionCenter.Data.Paging
import DecisionCenter.Review.Store

/-!
# Listing the audit table by external state

The state of a report is told twice: `_derive_external_state` of `apps/edr/app.py` reads it off
the columns of a row, and `list_audits` and `list_approval_queue` of
`apps/edr/persistence/postgres_store.py` turn it into conditions on these columns.

`FiltersAgree` is what the two would have to do to tell the same: for every scope (owner,
project, dates) and every state that the listing accepts, the pages of the listing show the rows
in the scope whose derived state is that one, each once and the newest first; and the approval
queue shows those that are to be reviewed. `filtersAgree_iff` says on which tables they do:
those all of whose rows `Conforms` describes. The condition is on the columns of one row at a
time, so that one row which does not conform spoils the listing of a table, and no others can
make up for it.

The proof compares conditions and not listings. What a listing shows of a table with distinct
times tells of every row whether its conditions are true of it (`Shows.wanted_iff`), and
conditions that are true of the wanted rows only agree with the derived state just where the row
conforms (`agrees_iff_conforms`), by cases on the columns.

The last part is about the rows that the workflow writes (`ofReview`): of these the filters miss
the drafts whose gate asks for a review and the decided ones whose gate failed.
-/

namespace DecisionCenter.Audits

open Table

/-- The columns of `audit_log` that the two functions read. Where `Review.AuditRow` has the values
the workflow writes, these are the columns as the schema has them. -/
structure AuditRow where
  requestId : String
  userIdHash : String
  projectCode : Option String
  qualityGateStatus : Option String
  reviewState : Option String
  createdAt : ℤ
  deriving DecidableEq, Repr

/-! ### The derived state -/

/-- The review states that win over the gate. -/
def decidedStates : List String :=
  ["final", "rejected", "approved", "revision_requested", "cancelled"]

/-- `audit.get("review_state") or "staging"` -/
def AuditRow.reviewed (audit : AuditRow) : String :=
  if audit.reviewState.getD "" = "" then "staging" else audit.reviewState.getD ""

/-- `_derive_external_state` -/
def deriveExternalState (audit : AuditRow) : String :=
  if audit.reviewed ∈ decidedStates then audit.reviewed
  else if audit.qualityGateStatus = some "failed" then "failed"
  else if audit.qualityGateStatus = some "needs_review" then "needs_review"
  else "staging"

/-- The states `list_audits` accepts. -/
def externalStates : List String := ["failed", "needs_review", "staging"] ++ decidedStates

private theorem deriveExternalState_mem (audit : AuditRow) :
    deriveExternalState audit ∈ externalStates := by
  rw [deriveExternalState, externalStates]
  split
  case isTrue h => exact List.mem_append_right _ h
  split
  · simp
  split <;> simp

/-! ### The filters -/

/-- The arguments of `list_audits` that narrow the rows down apart from their state. -/
structure Scope where
  userIdHash : Option String
  projectCode : Option String
  dateFrom : Option ℤ
  dateTo : Option ℤ

/-- All of the table. -/
def Scope.all : Scope := ⟨none, none, none, none⟩

/-- The clause of an argument, where it is given. -/
def clause {β : Type} (cond : β → Condition AuditRow) (arg : Option β) :
    List (Condition AuditRow) := (arg.map cond).toList

/-- The clauses before the ones of the state. -/
def Scope.owner (scope : Scope) : List (Condition AuditRow) :=
  clause (fun v => isTrue fun r => r.userIdHash = v) scope.userIdHash ++
    clause (isEq AuditRow.projectCode) scope.projectCode

/-- The clauses after the ones of the state. -/
def Scope.window (scope : Scope) : List (Condition AuditRow) :=
  clause (fun v => isTrue fun r => v ≤ r.createdAt) scope.dateFrom ++
    clause (fun v => isTrue fun r => r.createdAt ≤ v) scope.dateTo

/-- The row is in the scope. -/
def Scope.contains (scope : Scope) (r : AuditRow) : Bool :=
  selects scope.owner r && selects scope.window r

/-- The clauses of an external state; `none` is the filter nothing is known about. -/
def stateConditions (state : String) : Option (List (Condition AuditRow)) :=
  if state = "failed" then some [isEq AuditRow.qualityGateStatus "failed"]
  else if state = "needs_review" then
    some [isEq AuditRow.qualityGateStatus "needs_review", isEq AuditRow.reviewState "staging"]
  else if state ∈ decidedStates then some [isEq AuditRow.reviewState state]
  else if state = "staging" then
    some [isEq AuditRow.reviewState "staging", isNe AuditRow.qualityGateStatus "failed"]
  else none

/-- A page of the selected rows, newest first, and the number of all of them. -/
def select (conds : List (Condition AuditRow)) (limit offset : ℕ) (rows : List AuditRow) :
    List AuditRow × ℕ :=
  let hits := orderByDesc AuditRow.createdAt (rows.filter (selects conds))
  (page limit offset hits, hits.length)

/-- `list_audits` -/
def listAudits (scope : Scope) (state : Option String) (limit offset : ℕ)
    (rows : List AuditRow) : List AuditRow × ℕ :=
  match state.elim (some []) stateConditions with
  -- "Unknown state filter — return empty."
  | none => ([], 0)
  | some conds => select (scope.owner ++ conds ++ scope.window) limit offset rows

/-- `list_approval_queue` -/
def listApprovalQueue (projectCode : Option String) (limit offset : ℕ) (rows : List AuditRow) :
    List AuditRow × ℕ :=
  select ([isEq AuditRow.reviewState "staging",
    isTrue fun r => r.qualityGateStatus.getD "" ≠ "failed"] ++
      clause (isEq AuditRow.projectCode) projectCode) limit offset rows

/-- Without a state filter, the rows in scope are listed. -/
example (scope : Scope) (limit offset : ℕ) (rows : List AuditRow) :
    listAudits scope none limit offset rows =
      select (scope.owner ++ [] ++ scope.window) limit offset rows := rfl

/-! ### What a listing shows -/

/-- The pages of a selection put together. -/
theorem everyPage_select (conds : List (Condition AuditRow)) {limit : ℕ} (h : 0 < limit)
    (rows : List AuditRow) :
    everyPage limit (fun offset => select conds limit offset rows) =
      orderByDesc AuditRow.createdAt (rows.filter (selects conds)) := everyPage_page h

/-- The listing shows, page after page, the rows of `rows` that `wanted` is true of, each once and
the newest first, and reports their number with every page. -/
structure Shows (listing : ℕ → ℕ → List AuditRow × ℕ) (wanted : AuditRow → Bool)
    (rows : List AuditRow) : Prop where
  each : ∀ limit, 0 < limit → (everyPage limit (listing limit)).Perm (rows.filter wanted)
  newestFirst : ∀ limit, 0 < limit → (everyPage limit (listing limit)).Pairwise
    fun r r' => r'.createdAt < r.createdAt
  total : ∀ limit offset, (listing limit offset).2 = (rows.filter wanted).length

variable {rows : List AuditRow}

/-- A selection shows the rows its clauses are true of. -/
theorem shows_select (h : (rows.map AuditRow.createdAt).Nodup) (conds : List (Condition AuditRow)) :
    Shows (fun limit offset => select conds limit offset rows) (selects conds) rows where
  each limit hlimit := by
    rw [everyPage_select conds hlimit]
    exact orderByDesc_perm _ _
  newestFirst limit hlimit := by
    rw [everyPage_select conds hlimit]
    have hsub : ((rows.filter (selects conds)).map AuditRow.createdAt).Sublist
        (rows.map AuditRow.createdAt) := List.filter_sublist.map _
    exact pairwise_orderByDesc (hsub.nodup h)
  total _ _ := length_orderByDesc _ _

/-- What is shown says which rows of the table are wanted. -/
theorem Shows.wanted_iff {listing : ℕ → ℕ → List AuditRow × ℕ} {wanted wanted' : AuditRow → Bool}
    (hshows : Shows listing wanted rows) (hshows' : Shows listing wanted' rows) :
    ∀ r ∈ rows, wanted r = wanted' r := by
  intro r hr
  have hperm : (rows.filter wanted).Perm (rows.filter wanted') :=
    (hshows.each 1 Nat.one_pos).symm.trans (hshows'.each 1 Nat.one_pos)
  have hmem : r ∈ rows.filter wanted ↔ r ∈ rows.filter wanted' := hperm.mem_iff
  rw [List.mem_filter, List.mem_filter, and_iff_right hr, and_iff_right hr] at hmem
  exact Bool.eq_iff_iff.mpr hmem

/-- A listing shows rows that satisfy a test; which test is said is immaterial if the rows of the
table agree on it. -/
theorem Shows.congr {listing : ℕ → ℕ → List AuditRow × ℕ} {wanted wanted' : AuditRow → Bool}
    (hshows : Shows listing wanted rows) (h : ∀ r ∈ rows, wanted r = wanted' r) :
    Shows listing wanted' rows where
  each limit hlimit := by
    rw [← List.filter_congr h]
    exact hshows.each limit hlimit
  newestFirst := hshows.newestFirst
  total limit offset := by
    rw [← List.filter_congr h]
    exact hshows.total limit offset

/-! ### Agreement -/

/-- The state filters agree with the derived state: for every scope, each filter shows the rows in
scope that derive the state, every row in scope is shown under exactly one, and the approval queue
shows the rows that await a decision. -/
structure FiltersAgree (rows : List AuditRow) : Prop where
  audits : ∀ scope, ∀ s ∈ externalStates,
    Shows (fun limit offset => listAudits scope (some s) limit offset rows)
      (fun r => scope.contains r && deriveExternalState r = s) rows
  cover : ∀ scope limit, 0 < limit → ∀ r ∈ rows, scope.contains r = true →
    ∃! s, s ∈ externalStates ∧
      r ∈ everyPage limit fun offset => listAudits scope (some s) limit offset rows
  queue : ∀ projectCode,
    Shows (fun limit offset => listApprovalQueue projectCode limit offset rows)
      (fun r => selects (clause (isEq AuditRow.projectCode) projectCode) r &&
        decide (deriveExternalState r ∈ ["staging", "needs_review"])) rows

/-- The rows the definitions agree on: one that is decided has not failed the gate, and any other
has failed it, or is in staging with a gate status that is not `needs_review`. -/
def Conforms (r : AuditRow) : Prop :=
  if r.reviewed ∈ decidedStates then r.qualityGateStatus ≠ some "failed"
  else r.qualityGateStatus = some "failed" ∨
    r.reviewState = some "staging" ∧ ∃ g, r.qualityGateStatus = some g ∧ g ≠ "needs_review"

/-- The clauses of a state, for the states that have some. -/
def clausesOf (s : String) : List (Condition AuditRow) := (stateConditions s).getD []

private theorem stateConditions_of_mem {s : String} (h : s ∈ externalStates) :
    stateConditions s = some (clausesOf s) := by
  fin_cases h <;> rfl

private theorem listAudits_of_mem {s : String} (h : s ∈ externalStates) (scope : Scope)
    (limit offset : ℕ) : listAudits scope (some s) limit offset rows =
      select (scope.owner ++ clausesOf s ++ scope.window) limit offset rows := by
  rw [listAudits, Option.elim_some, stateConditions_of_mem h]

/-- The conditions of a scope stand around those of the filter, and select what both do. -/
theorem selects_scope (scope : Scope) (conds : List (Condition AuditRow)) (r : AuditRow) :
    selects (scope.owner ++ conds ++ scope.window) r =
      (scope.contains r && selects conds r) := by
  rw [selects_append, selects_append, Scope.contains, Bool.and_right_comm]

/-! What the clauses of each state select. -/

section Row

variable {r : AuditRow}

private theorem selects_failed :
    selects (clausesOf "failed") r = true ↔ r.qualityGateStatus = some "failed" := by
  rw [selects_iff]
  simp [clausesOf, stateConditions]

private theorem selects_needsReview : selects (clausesOf "needs_review") r = true ↔
    r.qualityGateStatus = some "needs_review" ∧ r.reviewState = some "staging" := by
  rw [selects_iff]
  simp [clausesOf, stateConditions]

private theorem selects_staging : selects (clausesOf "staging") r = true ↔
    r.reviewState = some "staging" ∧ ∃ g, r.qualityGateStatus = some g ∧ g ≠ "failed" := by
  rw [selects_iff]
  simp [clausesOf, stateConditions, decidedStates]

private theorem selects_decided {s : String} (h : s ∈ decidedStates) :
    selects (clausesOf s) r = true ↔ r.reviewState = some s := by
  rw [selects_iff]
  fin_cases h <;> simp [clausesOf, stateConditions, decidedStates]

private theorem reviewed_of_reviewState {s : String} (h : r.reviewState = some s) (hs : s ≠ "") :
    r.reviewed = s := by
  simp [AuditRow.reviewed, h, hs]

private theorem reviewState_of_reviewed (h : r.reviewed ≠ "staging") :
    r.reviewState = some r.reviewed := by
  cases hreview : r.reviewState with
  | none => simp [AuditRow.reviewed, hreview] at h
  | some s =>
    by_cases hs : s = ""
    · simp [AuditRow.reviewed, hreview, hs] at h
    · rw [reviewed_of_reviewState hreview hs]

private theorem ne_staging_of_decided {s : String} (h : s ∈ decidedStates) : s ≠ "staging" := by
  rintro rfl
  revert h
  decide

private theorem derive_of_decided (h : r.reviewed ∈ decidedStates) :
    deriveExternalState r = r.reviewed := if_pos h

private theorem derive_of_not_decided (h : r.reviewed ∉ decidedStates) : deriveExternalState r =
    if r.qualityGateStatus = some "failed" then "failed"
    else if r.qualityGateStatus = some "needs_review" then "needs_review"
    else "staging" := if_neg h

/-- Every filter selects the row exactly when it derives the state. -/
def Agrees (r : AuditRow) : Prop :=
  ∀ s ∈ externalStates, selects (clausesOf s) r = true ↔ deriveExternalState r = s

private theorem agrees_of_decided (hr : r.reviewed ∈ decidedStates)
    (hgate : r.qualityGateStatus ≠ some "failed") : Agrees r := by
  have hne := ne_staging_of_decided hr
  have hreview := reviewState_of_reviewed hne
  have hstate := derive_of_decided hr
  have hother : ∀ s, s ∉ decidedStates → r.reviewed ≠ s := fun s hs heq => hs (heq ▸ hr)
  intro s hs
  rw [hstate]
  rcases List.mem_append.mp hs with hs | hs
  · fin_cases hs
    · rw [selects_failed]
      exact iff_of_false hgate (hother _ (by decide))
    · rw [selects_needsReview, hreview]
      exact iff_of_false (fun h => hne (Option.some.inj h.2)) (hother _ (by decide))
    · rw [selects_staging, hreview]
      exact iff_of_false (fun h => hne (Option.some.inj h.1)) hne
  · rw [selects_decided hs, hreview, Option.some.injEq]

/-- A report that nobody has decided on and whose gate has failed is listed as it is shown. -/
private theorem agrees_of_gateFailed (hr : r.reviewed ∉ decidedStates)
    (hgate : r.qualityGateStatus = some "failed") : Agrees r := by
  have hstate : deriveExternalState r = "failed" := by rw [derive_of_not_decided hr, if_pos hgate]
  intro s hs
  rw [hstate]
  rcases List.mem_append.mp hs with hs | hs
  · fin_cases hs
    · rw [selects_failed]
      exact iff_of_true hgate rfl
    · rw [selects_needsReview, hgate]
      exact iff_of_false (fun h => absurd h.1 (by decide)) (by decide)
    · rw [selects_staging, hgate]
      refine iff_of_false ?_ (by decide)
      rintro ⟨-, g, hg, hne⟩
      exact hne (Option.some.inj hg).symm
  · rw [selects_decided hs]
    refine iff_of_false (fun hreview => hr ?_) ?_
    · rw [reviewed_of_reviewState hreview (by rintro rfl; revert hs; decide)]
      exact hs
    · rintro rfl
      revert hs
      decide

/-- A staged report is listed as it is shown, unless its gate has failed or asks for a review. -/
private theorem agrees_of_inStaging {g : String} (hreview : r.reviewState = some "staging")
    (hgate : r.qualityGateStatus = some g) (hfailed : g ≠ "failed") (hneeds : g ≠ "needs_review") :
    Agrees r := by
  have hr : r.reviewed ∉ decidedStates := by
    rw [reviewed_of_reviewState hreview (by decide)]
    decide
  have hstate : deriveExternalState r = "staging" := by
    rw [derive_of_not_decided hr, hgate, if_neg (by simpa), if_neg (by simpa)]
  intro s hs
  rw [hstate]
  rcases List.mem_append.mp hs with hs | hs
  · fin_cases hs
    · rw [selects_failed, hgate]
      exact iff_of_false (by simpa) (by decide)
    · rw [selects_needsReview, hgate]
      exact iff_of_false (fun h => hneeds (Option.some.inj h.1)) (by decide)
    · rw [selects_staging]
      exact iff_of_true ⟨hreview, g, hgate, hfailed⟩ rfl
  · rw [selects_decided hs, hreview, Option.some.injEq]

/-- The filters agree with the derived state of the conforming rows, and of no other. The two cases
are those of the definition: a row that is decided, and one that is still to be decided. -/
theorem agrees_iff_conforms : Agrees r ↔ Conforms r := by
  by_cases hr : r.reviewed ∈ decidedStates
  · rw [Conforms, if_pos hr]
    refine ⟨fun h hgate => ?_, agrees_of_decided hr⟩
    have hstate := (h "failed" (by decide)).mp (selects_failed.mpr hgate)
    rw [derive_of_decided hr] at hstate
    rw [hstate] at hr
    revert hr
    decide
  · rw [Conforms, if_neg hr]
    constructor
    · intro h
      by_cases hgate : r.qualityGateStatus = some "failed"
      · exact .inl hgate
      have hstate := derive_of_not_decided hr
      rw [if_neg hgate] at hstate
      -- A row whose gate asks for a review is under both filters.
      by_cases hneeds : r.qualityGateStatus = some "needs_review"
      · rw [if_pos hneeds] at hstate
        have hlisted := selects_needsReview.mp ((h "needs_review" (by decide)).mpr hstate)
        have hboth := (h "staging" (by decide)).mp
          (selects_staging.mpr ⟨hlisted.2, _, hneeds, by decide⟩)
        rw [hstate] at hboth
        exact absurd hboth (by decide)
      rw [if_neg hneeds] at hstate
      obtain ⟨hreview, g, hg, -⟩ := selects_staging.mp ((h "staging" (by decide)).mpr hstate)
      exact .inr ⟨hreview, g, hg, fun heq => hneeds (heq ▸ hg)⟩
    · rintro (hgate | ⟨hreview, g, hg, hneeds⟩)
      · exact agrees_of_gateFailed hr hgate
      · by_cases hfailed : g = "failed"
        · exact agrees_of_gateFailed hr (hfailed ▸ hg)
        · exact agrees_of_inStaging hreview hg hfailed hneeds

/-- The clauses of the approval queue, apart from the project's. -/
def queueConditions : List (Condition AuditRow) :=
  [isEq AuditRow.reviewState "staging", isTrue fun r => r.qualityGateStatus.getD "" ≠ "failed"]

private theorem selects_queue : selects queueConditions r = true ↔
    r.reviewState = some "staging" ∧ r.qualityGateStatus ≠ some "failed" := by
  have hgate : r.qualityGateStatus.getD "" = "failed" ↔ r.qualityGateStatus = some "failed" := by
    cases r.qualityGateStatus <;> simp
  rw [selects_iff]
  simp [queueConditions, hgate]

/-- The queue needs no more than the filters do. It shows what has not been decided and has not
failed, which are the two states named here. -/
theorem selects_queue_of_agrees (h : Agrees r) : selects queueConditions r = true ↔
    deriveExternalState r ∈ ["staging", "needs_review"] := by
  rw [selects_queue]
  constructor
  · rintro ⟨hreview, hgate⟩
    have hr : r.reviewed ∉ decidedStates := by
      rw [reviewed_of_reviewState hreview (by decide)]
      decide
    rw [derive_of_not_decided hr, if_neg hgate]
    split <;> simp
  · intro hstate
    simp only [List.mem_cons, List.not_mem_nil, or_false] at hstate
    rcases hstate with hstate | hstate
    · obtain ⟨hreview, g, hg, hne⟩ :=
        selects_staging.mp ((h "staging" (by decide)).mpr hstate)
      exact ⟨hreview, fun heq => hne (Option.some.inj (hg.symm.trans heq))⟩
    · obtain ⟨hgate, hreview⟩ :=
        selects_needsReview.mp ((h "needs_review" (by decide)).mpr hstate)
      exact ⟨hreview, fun heq => absurd (hgate.symm.trans heq) (by decide)⟩

end Row

/-! The tables. -/

private theorem shows_listAudits (h : (rows.map AuditRow.createdAt).Nodup) (scope : Scope)
    {s : String} (hs : s ∈ externalStates) :
    Shows (fun limit offset => listAudits scope (some s) limit offset rows)
      (fun r => scope.contains r && selects (clausesOf s) r) rows := by
  have hlisting := shows_select h (scope.owner ++ clausesOf s ++ scope.window)
  simp only [listAudits_of_mem hs]
  exact hlisting.congr fun r _ => selects_scope scope _ r

private theorem contains_all (r : AuditRow) : Scope.all.contains r = true := rfl

/-- What the filters show of the whole table decides about each of its rows. -/
theorem FiltersAgree.agrees (hagree : FiltersAgree rows)
    (h : (rows.map AuditRow.createdAt).Nodup) : ∀ r ∈ rows, Agrees r := by
  intro r hr s hs
  have hrow := (shows_listAudits h Scope.all hs).wanted_iff (hagree.audits Scope.all s hs) r hr
  simp only [contains_all, Bool.true_and] at hrow
  rw [hrow, decide_eq_true_eq]

/-- If each row is listed as it is shown, the filters agree; the rest is that the pages are those of
one list. -/
private theorem filtersAgree_of_agrees (h : (rows.map AuditRow.createdAt).Nodup)
    (hagree : ∀ r ∈ rows, Agrees r) : FiltersAgree rows := by
  have haudits : ∀ scope, ∀ s ∈ externalStates,
      Shows (fun limit offset => listAudits scope (some s) limit offset rows)
        (fun r => scope.contains r && deriveExternalState r = s) rows := by
    intro scope s hs
    refine (shows_listAudits h scope hs).congr fun r hr => ?_
    have hrow : selects (clausesOf s) r = decide (deriveExternalState r = s) := by
      rw [Bool.eq_iff_iff, decide_eq_true_eq]
      exact hagree r hr s hs
    rw [hrow]
  refine ⟨haudits, fun scope limit hlimit r hr hin => ?_, fun projectCode => ?_⟩
  · -- The one state under which a row is shown is the state it derives.
    have hshown : ∀ s ∈ externalStates,
        (r ∈ everyPage limit fun offset => listAudits scope (some s) limit offset rows) ↔
          deriveExternalState r = s := by
      intro s hs
      rw [((haudits scope s hs).each limit hlimit).mem_iff, List.mem_filter, hin, Bool.true_and,
        and_iff_right hr, decide_eq_true_eq]
    refine ⟨deriveExternalState r, ⟨deriveExternalState_mem r, ?_⟩, ?_⟩
    · exact (hshown _ (deriveExternalState_mem r)).mpr rfl
    · rintro s ⟨hs, hmem⟩
      exact ((hshown s hs).mp hmem).symm
  · refine (shows_select h _).congr fun r hr => ?_
    have hrow : selects queueConditions r =
        decide (deriveExternalState r ∈ ["staging", "needs_review"]) := by
      rw [Bool.eq_iff_iff, decide_eq_true_eq]
      exact selects_queue_of_agrees (hagree r hr)
    rw [selects_append, ← queueConditions, hrow, Bool.and_comm]

/-- On a table with distinct times the filters agree with the derived state exactly when every row
conforms. Times are distinct so that a page is determined by its filter; which rows conform is a
condition on the columns of a row. -/
theorem filtersAgree_iff (rows : List AuditRow) (h : (rows.map AuditRow.createdAt).Nodup) :
    FiltersAgree rows ↔ ∀ r ∈ rows, Conforms r := by
  constructor
  · intro hagree r hr
    exact agrees_iff_conforms.mp (hagree.agrees h r hr)
  · intro hrows
    exact filtersAgree_of_agrees h fun r hr => agrees_iff_conforms.mpr (hrows r hr)

/-- A report that passed the gate and one that failed it are each under their own state. -/
theorem filtersAgree_passed_failed :
    FiltersAgree [⟨"r1", "u1", some "PRJ-001", some "passed", some "staging", 1⟩,
      ⟨"r2", "u1", some "PRJ-001", some "failed", some "staging", 2⟩] := by
  refine (filtersAgree_iff _ (by decide)).mpr ?_
  simp [Conforms, AuditRow.reviewed, decidedStates]

/-- A draft whose gate asks for a review is listed under `staging` as well. -/
theorem not_filtersAgree_needsReview :
    ¬ ∀ rows : List AuditRow, (rows.map AuditRow.createdAt).Nodup → FiltersAgree rows := by
  intro hall
  let draft : AuditRow := ⟨"r1", "u1", some "PRJ-001", some "needs_review", some "staging", 1⟩
  have hagree := (hall [draft] (by decide)).cover Scope.all 1 Nat.one_pos draft (by simp) rfl
  have hstaging : "staging" ∈ externalStates ∧ draft ∈ everyPage 1 fun offset =>
      listAudits Scope.all (some "staging") 1 offset [draft] := ⟨by decide, by decide⟩
  have hneeds : "needs_review" ∈ externalStates ∧ draft ∈ everyPage 1 fun offset =>
      listAudits Scope.all (some "needs_review") 1 offset [draft] := ⟨by decide, by decide⟩
  exact absurd (hagree.unique hstaging hneeds) (by decide)

/-! ### Rows of the workflow -/

/-- The column value of a review state. -/
def reviewStateStr : Review.ReviewState → String
  | .staging => "staging"
  | .approved => "approved"
  | .rejected => "rejected"
  | .revisionRequested => "revision_requested"
  | .final => "final"
  | .cancelled => "cancelled"

/-- A row as the workflow writes it, in the columns of the schema. -/
def ofReview (requestId : String) (createdAt : ℤ) (row : Review.AuditRow) : AuditRow where
  requestId := requestId
  userIdHash := row.userIdHash
  projectCode := row.projectCode
  qualityGateStatus := some row.qualityGateStatus.toStr
  reviewState := some (reviewStateStr row.reviewState)
  createdAt := createdAt

private theorem reviewed_ofReview (requestId : String) (createdAt : ℤ) (row : Review.AuditRow) :
    (ofReview requestId createdAt row).reviewed = reviewStateStr row.reviewState :=
  reviewed_of_reviewState rfl (by cases row.reviewState <;> decide)

/-- On rows of the workflow, the state is the one the review endpoints go by. -/
theorem deriveExternalState_ofReview (requestId : String) (createdAt : ℤ)
    (row : Review.AuditRow) : deriveExternalState (ofReview requestId createdAt row) =
      (Review.deriveExternalState row).toStr := by
  rw [deriveExternalState, reviewed_ofReview, ofReview, Review.deriveExternalState]
  cases row.reviewState <;> cases row.qualityGateStatus <;>
    simp [reviewStateStr, decidedStates, Verdict.toStr, Review.ExternalState.toStr]

/-- Of the rows the workflow writes, the filters miss the drafts whose gate asks for a review and
the decided ones whose gate failed. -/
theorem conforms_ofReview (requestId : String) (createdAt : ℤ) (row : Review.AuditRow) :
    Conforms (ofReview requestId createdAt row) ↔
      row.qualityGateStatus ≠
        if row.reviewState = .staging then Verdict.needsReview else Verdict.failed := by
  rw [Conforms, reviewed_ofReview, ofReview]
  cases row.reviewState <;> cases row.qualityGateStatus <;>
    simp [reviewStateStr, decidedStates, Verdict.toStr]

end DecisionCenter.Audits
