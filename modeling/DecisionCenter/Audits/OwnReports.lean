import DecisionCenter.Audits.Listing
import DecisionCenter.Jobs.StatusView
import DecisionCenter.Review.Cancellation
import DecisionCenter.Review.ReadAccess

/-!
# The reports of a caller

`list_reports` and `get_report` of `apps/edr/app.py`. Who may see a report is told in five
places: the list narrows its query down to the hash of the caller, and the detail, the status,
the downloads and the content check the row that they have read, each with a function of its
own.

`OwnReports` says that the five agree, for a table of reports and a caller. Page after page, the
list without a state filter has exactly the reports in the scope of the filter that the caller
can open, each once and the newest first; with a state filter it has only such reports; each
summary tells of its report what the detail tells; and status and downloads let the caller pass
for the same reports, the content at least for them.

`ownReports_of_role` has this of every table whose rows have distinct ids and distinct times,
and every caller with a valid role and a user id, where Entra is configured. Without Entra the
list is not narrowed down and the checks pass, for the development setup. Distinct times are
needed for the pages to fit together, as the order of the query is the time alone.

The proof compares what is listed and what is opened through the hash: the check of a row is the
clause of the list (`checkCanReadOwnReport_iff`), and `Audits.Listing` says what a list with
clauses shows.
-/

namespace DecisionCenter.Audits

open Py Table
open Review (Claims Env HttpError requireClaims validatedRole ExportFormat exportedFormats)

/-- A row of `audit_log`. -/
structure Report where
  requestId : String
  query : Option String
  createdAt : ℤ
  updatedAt : ℤ
  audit : Review.AuditRow
  deriving DecidableEq, Repr

/-- The columns that the filters read. -/
def Report.columns (r : Report) : AuditRow := ofReview r.requestId r.createdAt r.audit

/-- `list_audits`, with all columns of the rows. -/
def listReportRows (scope : Scope) (state : Option String) (limit offset : ℕ)
    (reports : List Report) : List Report × ℕ :=
  match state.elim (some []) stateConditions with
  | none => ([], 0)
  | some conds =>
    let hits := orderByDesc Report.createdAt
      (reports.filter fun r => selects (scope.owner ++ conds ++ scope.window) r.columns)
    (page limit offset hits, hits.length)

/-- The rows that the list pages through. -/
def reportHits (scope : Scope) (state : Option String) (reports : List Report) : List Report :=
  (state.elim (some []) stateConditions).elim [] fun conds => orderByDesc Report.createdAt
    (reports.filter fun r => selects (scope.owner ++ conds ++ scope.window) r.columns)

private theorem listReportRows_eq (scope : Scope) (state : Option String) (limit offset : ℕ)
    (reports : List Report) : listReportRows scope state limit offset reports =
      (page limit offset (reportHits scope state reports),
        (reportHits scope state reports).length) := by
  rw [listReportRows, reportHits]
  cases state.elim (some []) stateConditions with
  | none => simp [page]
  | some conds => rfl

/-- The rows are those of `list_audits`. -/
theorem map_columns_listReportRows (scope : Scope) (state : Option String) (limit offset : ℕ)
    (reports : List Report) :
    (listReportRows scope state limit offset reports).1.map Report.columns =
      (listAudits scope state limit offset (reports.map Report.columns)).1 := by
  rw [listReportRows_eq, listAudits, reportHits]
  cases state.elim (some []) stateConditions with
  | none => simp [page]
  | some conds =>
    have hmap (rows : List Report) : (orderByDesc Report.createdAt rows).map Report.columns =
        orderByDesc AuditRow.createdAt (rows.map Report.columns) :=
      List.map_insertionSort _ _ Report.columns rows fun _ _ _ _ => Iff.rfl
    change (page limit offset (orderByDesc _ _)).map _ = page limit offset (orderByDesc _ _)
    rw [page, page, List.map_take, List.map_drop, hmap, List.filter_map]
    rfl

section Hits

variable {scope : Scope} {state : Option String} {reports : List Report}

private theorem mem_of_mem_reportHits {r : Report} (h : r ∈ reportHits scope state reports) :
    r ∈ reports ∧ scope.contains r.columns = true := by
  rw [reportHits] at h
  cases hstate : state.elim (some []) stateConditions with
  | none => simp [hstate] at h
  | some conds =>
    rw [hstate, Option.elim_some, (orderByDesc_perm Report.createdAt _).mem_iff, List.mem_filter,
      selects_scope, Bool.and_eq_true] at h
    exact ⟨h.1, h.2.1⟩

private theorem mem_reportHits_none {r : Report} :
    r ∈ reportHits scope none reports ↔ r ∈ reports ∧ scope.contains r.columns = true := by
  refine ⟨mem_of_mem_reportHits, fun ⟨hr, hscope⟩ => ?_⟩
  rw [reportHits, Option.elim_none, Option.elim_some,
    (orderByDesc_perm Report.createdAt _).mem_iff, List.mem_filter, selects_scope, hscope]
  exact ⟨hr, rfl⟩

private theorem newestFirst_reportHits (h : (reports.map Report.createdAt).Nodup) :
    (reportHits scope state reports).Pairwise fun r r' => r'.createdAt < r.createdAt := by
  rw [reportHits]
  cases state.elim (some []) stateConditions with
  | none => exact .nil
  | some conds =>
    have hsub : ((reports.filter fun r =>
        selects (scope.owner ++ conds ++ scope.window) r.columns).map Report.createdAt).Sublist
          (reports.map Report.createdAt) := List.filter_sublist.map _
    exact pairwise_orderByDesc (hsub.nodup h)

end Hits

/-! ### The endpoints -/

/-- The filters of `list_reports`. -/
structure ReportFilter where
  state : Option String
  projectCode : Option String
  dateFrom : Option ℤ
  dateTo : Option ℤ
  deriving DecidableEq, Repr

/-- The rows that a caller with this scope asks for. -/
def ReportFilter.scope (f : ReportFilter) (userIdHash : Option String) : Scope :=
  ⟨userIdHash, f.projectCode, f.dateFrom, f.dateTo⟩

/-- `ReportSummary` -/
structure ReportSummary where
  requestId : String
  projectCode : Option String
  projectName : Option String
  queryExcerpt : Option String
  state : String
  qualityGate : Verdict
  requiresApproval : Bool
  createdAt : ℤ
  updatedAt : ℤ
  deriving DecidableEq, Repr

/-- `ReportListResponse` -/
structure ReportListResponse where
  reports : List ReportSummary
  total : ℕ
  limit : ℕ
  offset : ℕ
  deriving DecidableEq, Repr

/-- `ReportDetail` -/
structure ReportDetail where
  requestId : String
  projectCode : Option String
  query : Option String
  state : String
  qualityGate : Verdict
  requiresApproval : Bool
  createdAt : ℤ
  updatedAt : ℤ
  exportedFormats : List ExportFormat
  reviewDecisions : List Review.Decision
  deriving DecidableEq, Repr

section Endpoints

variable [Text] (env : Env) (mapping : Option ProjectMapping)
  (decisions : String → List Review.Decision)

/-- `s.rstrip()` -/
def rstrip (s : String) : String :=
  String.ofList (s.toList.reverse.dropWhile Text.isSpace).reverse

/-- `_query_excerpt` -/
def queryExcerpt (query : Option String) (limit : ℕ := 120) : Option String :=
  (query.filter (· ≠ "")).map fun query =>
    if query.length ≤ limit then query
    else rstrip (String.ofList (query.toList.take (limit - 1))) ++ "…"

/-- `_lookup_name` -/
def lookupName (code : Option String) : Option String :=
  match code.filter (· ≠ ""), mapping with
  | some code, some mapping => some <| (mapping code).elim code fun entry =>
      if entry.displayName = "" then code else entry.displayName
  | _, _ => none

def reportSummary (r : Report) : ReportSummary where
  requestId := r.requestId
  projectCode := r.audit.projectCode
  projectName := lookupName mapping r.audit.projectCode
  queryExcerpt := queryExcerpt r.query
  state := deriveExternalState r.columns
  qualityGate := r.audit.qualityGateStatus
  requiresApproval := r.audit.requiresApproval
  createdAt := r.createdAt
  updatedAt := r.updatedAt

omit [Text] in
/-- The hash that the list is narrowed down to. -/
def scopedUserHash (claims : Claims) (role : Role) : Except HttpError (Option String) :=
  if role = .auditor ∨ role.permissions.canViewAllReports = true then .ok none
  else if claims.userId = "" then .error ⟨401, "Authentication required."⟩
  else .ok (some (env.hashUserId claims.userId))

/-- `list_reports` -/
def listReports (claims : Option Claims) (f : ReportFilter) (limit offset : ℕ)
    (reports : List Report) : Except HttpError ReportListResponse := do
  let claims ← requireClaims claims
  let role ← validatedRole claims
  let userIdHash ← scopedUserHash env claims role
  let rows := listReportRows (f.scope userIdHash) f.state limit offset reports
  return ⟨rows.1.map (reportSummary mapping), rows.2, limit, offset⟩

omit [Text] in
def reportDetail (r : Report) : ReportDetail where
  requestId := r.requestId
  projectCode := r.audit.projectCode
  query := r.query
  state := deriveExternalState r.columns
  qualityGate := r.audit.qualityGateStatus
  requiresApproval := r.audit.requiresApproval
  createdAt := r.createdAt
  updatedAt := r.updatedAt
  exportedFormats := exportedFormats r.audit.artifactKeys
  reviewDecisions := decisions r.requestId

omit [Text] in
/-- `get_report` -/
def getReport (claims : Option Claims) (requestId : String) (reports : List Report) :
    Except HttpError ReportDetail := do
  let claims ← requireClaims claims
  match lookup Report.requestId requestId reports with
  | none => .error ⟨404, "Report not found."⟩
  | some r => do
    Jobs.checkCanReadOwnReport env claims r.audit
    return reportDetail decisions r

end Endpoints

/-! ### What a caller sees -/

/-- What a page has, and the number reported with it. -/
def shownPage (x : Except HttpError ReportListResponse) : List ReportSummary × ℕ :=
  x.toOption.elim ([], 0) fun r => (r.reports, r.total)

/-- The summary tells of a report what its detail does. -/
structure ReportSummary.Summarizes [Text] (s : ReportSummary) (d : ReportDetail) : Prop where
  requestId : s.requestId = d.requestId
  projectCode : s.projectCode = d.projectCode
  queryExcerpt : s.queryExcerpt = Audits.queryExcerpt d.query
  state : s.state = d.state
  qualityGate : s.qualityGate = d.qualityGate
  requiresApproval : s.requiresApproval = d.requiresApproval
  createdAt : s.createdAt = d.createdAt
  updatedAt : s.updatedAt = d.updatedAt

section OwnReports

variable [Text] (env : Env) (mapping : Option ProjectMapping)
  (decisions : String → List Review.Decision) (claims : Claims)

omit [Text] in
/-- The caller can open the report. -/
def Opens (requestId : String) (reports : List Report) : Prop :=
  ∃ d, getReport env decisions (some claims) requestId reports = .ok d

/-- The list, the detail, the status, the downloads and the content agree about what the caller may
see. -/
structure OwnReports (reports : List Report) : Prop where
  /-- Without a filter by state, the list has the reports in its scope that the caller can open. -/
  lists : ∀ f : ReportFilter, f.state = none → ∀ limit, 0 < limit → ∀ s,
    s ∈ (everyPage limit fun offset =>
      shownPage (listReports env mapping (some claims) f limit offset reports)) ↔
        ∃ r ∈ reports, (f.scope none).contains r.columns = true ∧
          Opens env decisions claims r.requestId reports ∧ s = reportSummary mapping r
  /-- With any filter, it has no report twice, and the newest first. -/
  newestFirst : ∀ (f : ReportFilter) limit, 0 < limit → (everyPage limit fun offset =>
    shownPage (listReports env mapping (some claims) f limit offset reports)).Pairwise
      fun s s' => s'.createdAt < s.createdAt
  /-- What it says of a report is what the detail says. -/
  opens : ∀ f limit offset x, listReports env mapping (some claims) f limit offset reports = .ok x →
    ∀ s ∈ x.reports, ∃ d, getReport env decisions (some claims) s.requestId reports = .ok d ∧
      s.Summarizes d
  /-- The status of a report, with or without a job of its requester. -/
  status : ∀ r ∈ reports, ∀ job : Option Jobs.ReportJob,
    (∀ j ∈ job, j.userIdHash = r.audit.userIdHash) →
      ((∃ x, Jobs.getReportStatus env (some claims) r.requestId ⟨job, some r.audit⟩ = .ok x) ↔
        Opens env decisions claims r.requestId reports)
  download : ∀ r ∈ reports, Review.checkDownloadAccess env r.audit (some claims) = .ok () ↔
    Opens env decisions claims r.requestId reports
  content : ∀ r ∈ reports, Opens env decisions claims r.requestId reports →
    Review.checkCanReadReportContent env claims r.audit = .ok ()

end OwnReports

section Agreement

variable [Text] {hashUserId : String → String} {mapping : Option ProjectMapping}
  {decisions : String → List Review.Decision} {claims : Claims} {role : Role}
  {userIdHash : Option String} {reports : List Report}

omit [Text] in
/-- A scope with a hash has the rows of that hash. -/
theorem contains_scope (f : ReportFilter) (c : AuditRow) :
    (f.scope userIdHash).contains c = true ↔
      (∀ v ∈ userIdHash, c.userIdHash = v) ∧ (f.scope none).contains c = true := by
  have hwindow : (f.scope userIdHash).window = (f.scope none).window := rfl
  have howner : (f.scope userIdHash).owner =
      clause (fun v => Table.isTrue fun r => r.userIdHash = v) userIdHash ++
        (f.scope none).owner := rfl
  rw [Scope.contains, Scope.contains, hwindow, howner, selects_append, Bool.and_assoc,
    Bool.and_eq_true]
  refine and_congr_left fun _ => ?_
  cases userIdHash with
  | none => simp [clause, selects]
  | some v => simp [clause, selects]

omit [Text] in
/-- The roles that read every report are auditors and those with the permission. -/
private theorem readsEveryReport_iff (hrole : validatedRole claims = .ok role) :
    Cancellation.ReadsEveryReport claims.role ↔
      role = .auditor ∨ role.permissions.canViewAllReports = true := by
  have hvalue : claims.role = some role.value := by
    rw [validatedRole] at hrole
    split at hrole
    · cases hrole
    · next s hs =>
      split at hrole
      · next r hr =>
        cases hrole
        rw [Role.value_of_ofValue? hr]
        exact (Option.filter_eq_some_iff.mp hs).1
      · cases hrole
  rw [Cancellation.ReadsEveryReport, hvalue, Option.bind_some, Role.ofValue?_value,
    Option.elim_some,
    Option.some.injEq]
  refine or_congr_left ⟨fun h => ?_, fun h => congrArg Role.value h⟩
  have hof := congrArg Role.ofValue? h
  rwa [Role.ofValue?_value, Role.ofValue?_value, Option.some.injEq] at hof

omit [Text] in
/-- The check of a row is the clause of the list. -/
theorem checkCanReadOwnReport_iff (hrole : validatedRole claims = .ok role)
    (hscope : scopedUserHash ⟨hashUserId, true⟩ claims role = .ok userIdHash)
    (huser : claims.userId ≠ "") (audit : Review.AuditRow) :
    Jobs.checkCanReadOwnReport ⟨hashUserId, true⟩ claims audit = .ok () ↔
      ∀ v ∈ userIdHash, audit.userIdHash = v := by
  rw [Jobs.checkCanReadOwnReport, Cancellation.checkCanReadReportJob_eq_ok_iff,
    readsEveryReport_iff hrole, and_iff_right huser]
  rw [scopedUserHash] at hscope
  split at hscope
  · next hall =>
    cases hscope
    exact iff_of_true (.inl hall) (by simp)
  · next hown =>
    cases hscope
    rw [or_iff_right hown]
    simp [eq_comm]

omit [Text] in
private theorem getReport_eq (hids : (reports.map Report.requestId).Nodup) {r : Report}
    (hr : r ∈ reports) : getReport ⟨hashUserId, true⟩ decisions (some claims) r.requestId reports =
      (Jobs.checkCanReadOwnReport ⟨hashUserId, true⟩ claims r.audit).map
        fun _ => reportDetail decisions r := by
  rw [getReport, requireClaims, lookup_of_mem hids hr]
  rfl

omit [Text] in
private theorem opens_iff (hids : (reports.map Report.requestId).Nodup) {r : Report}
    (hr : r ∈ reports) : Opens ⟨hashUserId, true⟩ decisions claims r.requestId reports ↔
      Jobs.checkCanReadOwnReport ⟨hashUserId, true⟩ claims r.audit = .ok () := by
  rw [Opens, getReport_eq hids hr]
  cases Jobs.checkCanReadOwnReport ⟨hashUserId, true⟩ claims r.audit with
  | ok u => simp [Except.map]
  | error err => simp [Except.map]

/-- The listing is one page of the hits, and has their number. -/
private theorem listReports_eq (hrole : validatedRole claims = .ok role)
    (hscope : scopedUserHash ⟨hashUserId, true⟩ claims role = .ok userIdHash) (f : ReportFilter)
    (limit offset : ℕ) :
    listReports ⟨hashUserId, true⟩ mapping (some claims) f limit offset reports =
      .ok ⟨(page limit offset (reportHits (f.scope userIdHash) f.state reports)).map
        (reportSummary mapping), (reportHits (f.scope userIdHash) f.state reports).length, limit,
        offset⟩ := by
  rw [listReports, requireClaims]
  change (do
    let role ← validatedRole claims
    let userIdHash ← scopedUserHash ⟨hashUserId, true⟩ claims role
    let rows := listReportRows (f.scope userIdHash) f.state limit offset reports
    return ⟨rows.1.map (reportSummary mapping), rows.2, limit, offset⟩ :
      Except HttpError ReportListResponse) = _
  rw [hrole]
  change (do
    let userIdHash ← scopedUserHash ⟨hashUserId, true⟩ claims role
    let rows := listReportRows (f.scope userIdHash) f.state limit offset reports
    return ⟨rows.1.map (reportSummary mapping), rows.2, limit, offset⟩ :
      Except HttpError ReportListResponse) = _
  rw [hscope]
  change Except.ok _ = _
  rw [listReportRows_eq]

/-- The pages put together. -/
theorem everyPage_listReports (hrole : validatedRole claims = .ok role)
    (hscope : scopedUserHash ⟨hashUserId, true⟩ claims role = .ok userIdHash) (f : ReportFilter)
    {limit : ℕ} (hlimit : 0 < limit) :
    (everyPage limit fun offset => shownPage
      (listReports ⟨hashUserId, true⟩ mapping (some claims) f limit offset reports)) =
        (reportHits (f.scope userIdHash) f.state reports).map (reportSummary mapping) := by
  let rows := (reportHits (f.scope userIdHash) f.state reports).map (reportSummary mapping)
  have hrows : everyPage limit (fun offset => (page limit offset rows, rows.length)) = rows :=
    everyPage_page hlimit
  refine Eq.trans ?_ hrows
  refine congrArg (everyPage limit) (funext fun offset => ?_)
  rw [listReports_eq hrole hscope, List.length_map, page, page, List.map_take, List.map_drop]
  rfl

omit [Text] in
/-- The check of a download is that of the detail. -/
theorem checkDownloadAccess_iff (audit : Review.AuditRow) :
    Review.checkDownloadAccess ⟨hashUserId, true⟩ audit (some claims) = .ok () ↔
      Jobs.checkCanReadOwnReport ⟨hashUserId, true⟩ claims audit = .ok () := by
  rw [Jobs.checkCanReadOwnReport, Cancellation.checkCanReadReportJob_eq_ok_iff,
    Cancellation.ReadsEveryReport, Review.checkDownloadAccess]
  by_cases huser : claims.userId = ""
  · have hnone : (some claims).filter (fun c : Claims => decide (c.userId ≠ "")) = none := by
      simp [huser]
    rw [hnone]
    simp [huser]
  · have hsome : (some claims).filter (fun c : Claims => decide (c.userId ≠ "")) = some claims := by
      simp [huser]
    rw [hsome, and_iff_right huser, or_comm, Bool.not_true, if_neg Bool.false_ne_true]
    dsimp only
    split
    · next h => exact iff_of_true rfl h
    · next h => exact iff_of_false (by rintro ⟨⟩) h

omit [Text] in
/-- Whoever reads a report may look at its content. -/
theorem checkContent_of_check (hrole : validatedRole claims = .ok role) {audit : Review.AuditRow}
    (h : Jobs.checkCanReadOwnReport ⟨hashUserId, true⟩ claims audit = .ok ()) :
    Review.checkCanReadReportContent ⟨hashUserId, true⟩ claims audit = .ok () := by
  rw [Jobs.checkCanReadOwnReport, Cancellation.checkCanReadReportJob_eq_ok_iff,
    readsEveryReport_iff hrole] at h
  have hallowed : (Review.isRequester ⟨hashUserId, true⟩ claims audit || decide (role = .auditor) ||
      role.permissions.canViewAllReports || Review.canReviewReport claims) = true := by
    obtain ⟨huser, (hauditor | hall) | hhash⟩ := h
    · simp [hauditor]
    · simp [hall]
    · have hown : Review.isRequester ⟨hashUserId, true⟩ claims audit = true := by
        rw [Review.isRequester, decide_eq_true huser, decide_eq_true hhash]
        rfl
      simp [hown]
  rw [Review.checkCanReadReportContent, hrole]
  exact if_pos hallowed

omit [Text] in
/-- So is the check of the status, with or without a job of the requester. The job has the same
owner as the audit row, so that its check decides nothing else. -/
theorem getReportStatus_iff {audit : Review.AuditRow} {job : Option Jobs.ReportJob}
    (hjob : ∀ j ∈ job, j.userIdHash = audit.userIdHash) (requestId : String) :
    (∃ x, Jobs.getReportStatus ⟨hashUserId, true⟩ (some claims) requestId ⟨job, some audit⟩ =
      .ok x) ↔ Jobs.checkCanReadOwnReport ⟨hashUserId, true⟩ claims audit = .ok () := by
  have haudit : (∃ x, Jobs.readAuditStatus ⟨hashUserId, true⟩ claims requestId (some audit) =
      .ok x) ↔ Jobs.checkCanReadOwnReport ⟨hashUserId, true⟩ claims audit = .ok () := by
    rw [Jobs.readAuditStatus]
    cases Jobs.checkCanReadOwnReport ⟨hashUserId, true⟩ claims audit with
    | ok u => exact iff_of_true ⟨_, rfl⟩ rfl
    | error err => exact iff_of_false (by rintro ⟨x, ⟨⟩⟩) (by rintro ⟨⟩)
  rw [Jobs.getReportStatus, requireClaims]
  cases job with
  | none => exact haudit
  | some j =>
    -- the job has the same owner as the audit row, so the check of the job decides both
    have howner : Review.checkCanReadReportJob ⟨hashUserId, true⟩ claims j.owner =
        Jobs.checkCanReadOwnReport ⟨hashUserId, true⟩ claims audit := by
      rw [Jobs.checkCanReadOwnReport, ← hjob j rfl]
      rfl
    change (∃ x, (do
      Review.checkCanReadReportJob ⟨hashUserId, true⟩ claims j.owner
      if j.status ≠ "completed" ∨ some audit = none then .ok (Jobs.jobStatusResponse j)
      else Jobs.readAuditStatus ⟨hashUserId, true⟩ claims requestId (some audit) :
        Except HttpError Jobs.ReportStatusResponse) = .ok x) ↔ _
    rw [howner, ← haudit]
    cases hcheck : Jobs.checkCanReadOwnReport ⟨hashUserId, true⟩ claims audit with
    | ok u =>
      refine iff_of_true ?_ (haudit.mpr hcheck)
      by_cases hstatus : j.status = "completed"
      · obtain ⟨x, hx⟩ := haudit.mpr hcheck
        exact ⟨x, (if_neg (by simp [hstatus])).trans hx⟩
      · exact ⟨Jobs.jobStatusResponse j, if_pos (.inl hstatus)⟩
    | error err =>
      refine iff_of_false (by rintro ⟨x, ⟨⟩⟩) fun h => ?_
      rw [haudit, hcheck] at h
      cases h

/-- With Entra configured, a caller with a role and an id is listed what the caller may open, each
report once over all the pages and in falling order of time. Reports that were created at the same
time have no order of their own, which is why times are distinct here. -/
theorem ownReports_of_role (hashUserId : String → String) (mapping : Option ProjectMapping)
    (decisions : String → List Review.Decision) (hrole : validatedRole claims = .ok role)
    (huser : claims.userId ≠ "") (hids : (reports.map Report.requestId).Nodup)
    (htimes : (reports.map Report.createdAt).Nodup) :
    OwnReports ⟨hashUserId, true⟩ mapping decisions claims reports := by
  obtain ⟨userIdHash, hscope⟩ : ∃ userIdHash,
      scopedUserHash ⟨hashUserId, true⟩ claims role = .ok userIdHash := by
    rw [scopedUserHash]
    split
    · exact ⟨_, rfl⟩
    · exact ⟨_, rfl⟩
  -- what is listed and what is opened are compared through the hash alone
  have hopens (r : Report) (hr : r ∈ reports) :
      Opens ⟨hashUserId, true⟩ decisions claims r.requestId reports ↔
        ∀ v ∈ userIdHash, r.audit.userIdHash = v :=
    (opens_iff hids hr).trans (checkCanReadOwnReport_iff hrole hscope huser r.audit)
  refine ⟨fun f hf limit hlimit s => ?_, fun f limit hlimit => ?_,
    fun f limit offset x hx s hs => ?_, fun r hr job hjob => ?_, fun r hr => ?_, fun r hr h => ?_⟩
  · rw [everyPage_listReports hrole hscope f hlimit, hf, List.mem_map]
    refine exists_congr fun r => ?_
    rw [mem_reportHits_none, contains_scope, and_assoc, and_assoc, eq_comm (b := s)]
    refine and_congr_right fun hr => ?_
    rw [hopens r hr, and_left_comm]
    rfl
  · rw [everyPage_listReports hrole hscope f hlimit, List.pairwise_map]
    exact newestFirst_reportHits htimes
  · rw [listReports_eq hrole hscope] at hx
    cases hx
    obtain ⟨r, hr, rfl⟩ := List.mem_map.mp hs
    obtain ⟨hr, hin⟩ := mem_of_mem_reportHits (List.mem_of_mem_drop (List.mem_of_mem_take hr))
    have hcheck := (checkCanReadOwnReport_iff hrole hscope huser r.audit).mpr
      ((contains_scope f r.columns).mp hin).1
    refine ⟨reportDetail decisions r, ?_, rfl, rfl, rfl, rfl, rfl, rfl, rfl, rfl⟩
    exact (getReport_eq hids hr).trans (by rw [hcheck]; rfl)
  · rw [getReportStatus_iff hjob, opens_iff hids hr]
  · rw [checkDownloadAccess_iff, opens_iff hids hr]
  · exact checkContent_of_check hrole ((opens_iff hids hr).mp h)

end Agreement

section Whole

open Py.Whole

/-- The audit row of a draft. -/
def draftOf (userIdHash : String) : Review.AuditRow :=
  ⟨userIdHash, some "P1", .passed, .staging, true, []⟩

/-- A manager is listed one of two reports. -/
theorem ownReports_manager : OwnReports ⟨id, true⟩ none (fun _ => [])
    ⟨"u1", some "project_manager"⟩
    [⟨"r1", some "Budget?", 1, 1, draftOf "u1"⟩, ⟨"r2", none, 2, 2, draftOf "u2"⟩] := by
  have hrole : validatedRole ⟨"u1", some "project_manager"⟩ = .ok .projectManager := by decide
  exact ownReports_of_role id none (fun _ => []) hrole (by decide) (by decide) (by decide)

end Whole

end DecisionCenter.Audits
