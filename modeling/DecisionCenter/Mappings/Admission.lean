import DecisionCenter.Async.Run
import DecisionCenter.Mappings.Edits
import DecisionCenter.Mappings.Migration
import DecisionCenter.Py.Whole
import DecisionCenter.Retrieval.Workflow
import DecisionCenter.Review.Endpoints

/-!
# Admission by the table, retrieval by the file

`_enforce_complete_source_mapping` (`apps/edr/app.py`) admits a request when the project's row
is complete; node 1 and the retrieval nodes then look the project up in the mapping file. The
two agree in every reachable table exactly when all seeded rows and all edits do: nothing
carries an edit over to the file.

The file is fixed, and a run is a list of requests, each of them one of the five endpoints with
whatever it learns from outside, from an empty table on. `init_schema` runs with each, so that
the seeding and the migrations are part of it. `Honours` says of a project that is admitted that
the workflow knows it, and retrieves by the coordinates that its row holds.

A row follows the file if it is complete only where the file has an entry of the project that
reads the same (`FollowsFile`). That is a property of a single row which another migration does
not touch, and for such properties the step is general: a request keeps it in all rows exactly
when the rows it writes have it, once they are migrated (`everyRow_step`).
`Mappings.Enforcement` uses the same lemma for another property.

`configured_throughout_iff` is exact along runs: the file lists a project, and what is seeded
and written follows it. For a `PUT` there is a criterion on its body. An admin who stores a
project that the file does not list is the failing case.
-/

namespace DecisionCenter.Mappings

open Async.Run Py Review

variable {F : Type}

/-! ### The guard -/

/-- `_enforce_complete_source_mapping`; `none` is a database that does not answer. -/
def enforceCompleteSourceMapping [Floats F] (file : MappingFile)
    (db : Option (List (MappingRow F))) (projectCode : Option String) : Except HttpError Unit :=
  match projectCode.filter (· ≠ ""), db with
  | some code, some rows =>
    let rows := initSchema file rows
    if rows.isEmpty ∨ (getSourceMapping code rows).any fun r => r.mappingStatus = "complete" then
      .ok ()
    else .error ⟨422, "Project " ++ Floats.repr (F := F) (.str code) ++
      " has no complete source mapping. Configure it in the Source Mapping admin screen."⟩
  -- no project, or the exception is swallowed
  | _, _ => .ok ()

/-! ### What the nodes read -/

/-- A field of the group in the `microsoft` column. -/
def Enrichment.groupField (x : Enrichment F) (k : String) (default : Value F) : Value F :=
  match x.microsoft.get "group" with
  | .dict g => Dict.getD g k default
  | _ => default

/-- The entry by which the nodes retrieve holds what is stored in the routing columns. -/
structure ReadsAs (m : ProjectEntry) (x : Routing F) : Prop where
  siteId : x.coordinates.sharepoint.getD "site_id" (.str "") = .str (m.siteId.getD "")
  driveId : x.coordinates.sharepoint.getD "drive_id" (.str "") = .str (m.driveId.getD "")
  projectExternalId : x.coordinates.odoo.getD "project_external_id" (.str "") =
    .str (m.odoo.projectExternalId.getD "")
  analyticAccountId : x.coordinates.odoo.getD "analytic_account_id" (.str "") =
    .str (m.odoo.analyticAccountId.getD "")
  sharedMailboxes : x.coordinates.email.getD "shared_mailboxes" (.list []) =
    strList m.sharedMailboxes
  documentControlMailbox : x.coordinates.email.getD "document_control_mailbox" (.str "") =
    .str m.documentControlMailbox
  groupId : x.enrichment.groupField "id" (.str "") = .str (m.group.id.getD "")
  groupMail : x.enrichment.groupField "mail" (.str "") = .str (m.group.mail.getD "")
  mailEnabled : x.enrichment.groupField "mail_enabled" (.bool false) = .bool m.group.mailEnabled
  enabledSources : ∀ s : ProjectSource, s.toStr ∈ x.enrichment.enabledSources ↔ m.enables s = true

/-- What a request body says of the same fields. -/
structure MatchesBody (m : ProjectEntry) (body : SourceMappingUpsertRequest) : Prop where
  siteId : body.sharepoint.siteId = m.siteId.getD ""
  driveId : body.sharepoint.driveId = m.driveId.getD ""
  projectExternalId : body.odoo.projectExternalId = m.odoo.projectExternalId.getD ""
  analyticAccountId : body.odoo.analyticAccountId = m.odoo.analyticAccountId.getD ""
  sharedMailboxes : body.email.sharedMailboxes = m.sharedMailboxes
  documentControlMailbox : body.email.documentControlMailbox = m.documentControlMailbox
  groupId : body.microsoft.group.id = m.group.id.getD ""
  groupMail : body.microsoft.group.mail = m.group.mail.getD ""
  mailEnabled : body.microsoft.group.mailEnabled = m.group.mailEnabled
  enabledSources : ∀ s : ProjectSource, s.toStr ∈ body.enabledSources ↔ m.enables s = true

/-- A stored body reads back as it was sent, whatever is routed: texts, lists of texts and flags
each by themselves. -/
theorem readsAs_row {m : ProjectEntry} {body : SourceMappingUpsertRequest} (code status : String) :
    ReadsAs m (body.row code status : MappingRow F).routing ↔ MatchesBody m body := by
  have hstr : ∀ s t : String, (Value.str s : Value F) = .str t ↔ s = t := fun s t =>
    Value.str.injEq s t ▸ Iff.rfl
  have hlist : ∀ xs ys : List String, (strList xs : Value F) = strList ys ↔ xs = ys := by
    intro xs ys
    rw [strList, strList, Value.list.injEq]
    exact (List.map_injective_iff.mpr fun s t h => (hstr s t).mp h).eq_iff
  have hbool : ∀ a b : Bool, (Value.bool a : Value F) = .bool b ↔ a = b := fun a b =>
    Value.bool.injEq a b ▸ Iff.rfl
  constructor
  · rintro ⟨h1, h2, h3, h4, h5, h6, h7, h8, h9, h10⟩
    exact ⟨(hstr _ _).mp h1, (hstr _ _).mp h2, (hstr _ _).mp h3, (hstr _ _).mp h4,
      (hlist _ _).mp h5, (hstr _ _).mp h6, (hstr _ _).mp h7, (hstr _ _).mp h8,
      (hbool _ _).mp h9, h10⟩
  · rintro ⟨h1, h2, h3, h4, h5, h6, h7, h8, h9, h10⟩
    exact ⟨(hstr _ _).mpr h1, (hstr _ _).mpr h2, (hstr _ _).mpr h3, (hstr _ _).mpr h4,
      (hlist _ _).mpr h5, (hstr _ _).mpr h6, (hstr _ _).mpr h7, (hstr _ _).mpr h8,
      (hbool _ _).mpr h9, h10⟩

section Honours

variable [Text] [Floats F]

/-- The workflow knows the project, and retrieves by the coordinates stored for it. -/
structure Honours (file : MappingFile) (code : String) (x : Routing F) : Prop where
  known : ∀ r : ReportRequest, r.projectCode = some code →
    (authorize file.load r : Except RbacDenied (Authorized F file.load)) ≠ .error .unknownProject
  reads : ∀ a : Authorized F file.load, a.code = code → ReadsAs a.entry x

private theorem honours_iff {file : MappingFile} {code : String} (hcode : code ≠ "")
    (x : Routing F) : Honours file code x ↔ ∃ m, file.load code = some m ∧ ReadsAs m x := by
  let r : ReportRequest := ⟨"", "", "", some Role.admin.value, some code⟩
  have hrole : r.role.bind Role.ofValue? = some .admin := Role.ofValue?_value .admin
  have hfilter : r.projectCode.filter (· ≠ "") = some code :=
    Option.filter_eq_some_iff.mpr ⟨rfl, decide_eq_true hcode⟩
  constructor
  · intro h
    cases hm : file.load code with
    | none => exact absurd (authorize_eq_unknownProject hrole rfl hfilter hm) (h.known r rfl)
    | some m =>
      obtain ⟨a, -, ha⟩ := authorize_eq_ok (F := F) hrole rfl hfilter hm
      have hentry : a.entry = m := Option.some.inj (a.known.symm.trans (ha ▸ hm))
      exact ⟨m, rfl, hentry ▸ h.reads a ha⟩
  · rintro ⟨m, hm, hreads⟩
    refine ⟨fun r hr => authorize_ne_unknownProject hr hm, fun a ha => ?_⟩
    obtain rfl : m = a.entry := Option.some.inj ((ha ▸ hm).symm.trans a.known)
    exact hreads

end Honours

/-! ### Rows that follow the file -/

/-- If the row of a project is complete, the file lists the project as the row routes it. -/
def FollowsFile (file : MappingFile) (r : MappingRow F) : Prop :=
  r.projectCode ≠ "" → r.mappingStatus = "complete" →
    ∃ m, file.load r.projectCode = some m ∧ ReadsAs m r.routing

private theorem followsFile_congr {file : MappingFile} {r r' : MappingRow F}
    (hcode : r.projectCode = r'.projectCode) (h : r.routing = r'.routing) :
    FollowsFile file r ↔ FollowsFile file r' := by
  have hstatus : r.mappingStatus = r'.mappingStatus := congrArg (·.enrichment.mappingStatus) h
  rw [FollowsFile, FollowsFile, hcode, h, hstatus]

/-! ### The system -/

section System

variable [Text] [Floats F] (owncloudConfigured : Bool) (file : MappingFile)

/-- What happens to the table: an edit, or another request, which runs `init_schema` as well. -/
inductive Request where
  | edit (e : Edit)
  | other

/-- The table after a request. -/
def step (rows : List (MappingRow F)) : Request → List (MappingRow F)
  | .edit e => e.apply owncloudConfigured (initSchema file rows)
  | .other => initSchema file rows

/-- The row a request leaves for a project, if it writes one. -/
def Request.lastWritten (rows : List (MappingRow F)) (code : String) :
    Request → Option (MappingRow F)
  | .edit e => e.lastWritten owncloudConfigured (initSchema file rows) code
  | .other => none

/-- Each row that `init_schema` leaves has the property. -/
def EveryRow (P : String → MappingRow F → Prop) (rows : List (MappingRow F)) : Prop :=
  ∀ code r, getSourceMapping code (initSchema file rows) = some r → P code r

/-- Every project the guard admits is retrieved as its row says. -/
def Configured (rows : List (MappingRow F)) : Prop :=
  ∀ code, code ≠ "" → enforceCompleteSourceMapping file (some rows) (some code) = .ok () →
    ∃ r, getSourceMapping code (initSchema file rows) = some r ∧ Honours file code r.routing

/-- The entry each project is seeded from follows the file once it has been migrated. -/
def SeedsFollow (F : Type) (file : MappingFile) : Prop :=
  file ≠ [] ∧ ∀ code e, (file.find? fun e => e.projectCode = code) = some e →
    FollowsFile file (migrateRow file (seedRow e : MappingRow F))

/-- The rows a request writes follow the file once they have been migrated. -/
def WritesFollow (rows : List (MappingRow F)) : Request → Prop
  | .edit e => ∀ code w, e.lastWritten owncloudConfigured (initSchema file rows) code = some w →
    FollowsFile file (migrateRow file w)
  | .other => True

/-! ### What the guard admits -/

variable {owncloudConfigured} {file} {rows : List (MappingRow F)}

omit [Text] in
/-- A project is admitted if its row is complete, or if there is no row of any project. -/
theorem admitted_iff {code : String} (hcode : code ≠ "") :
    enforceCompleteSourceMapping file (some rows) (some code) = .ok () ↔
      initSchema file rows = [] ∨
        ∃ r, getSourceMapping code (initSchema file rows) = some r ∧
          r.mappingStatus = "complete" := by
  have hfilter : (some code).filter (· ≠ "") = some code :=
    Option.filter_eq_some_iff.mpr ⟨rfl, decide_eq_true hcode⟩
  have hrow : ∀ o : Option (MappingRow F), o.any (fun r => r.mappingStatus = "complete") = true ↔
      ∃ r, o = some r ∧ r.mappingStatus = "complete" := by
    intro o
    cases o <;> simp
  unfold enforceCompleteSourceMapping
  rw [hfilter]
  dsimp only
  rw [← hrow, ← List.isEmpty_iff]
  split
  · next h => exact iff_of_true rfl h
  · next h => exact iff_of_false (fun hok => by cases hok) h

/-- All is as configured exactly when there are rows, and those follow the file. Without rows
everybody is admitted and nobody has a row. -/
theorem configured_iff : Configured file rows ↔
    initSchema file rows ≠ [] ∧
      ∀ code r, getSourceMapping code (initSchema file rows) = some r → FollowsFile file r := by
  constructor
  · intro h
    constructor
    · -- an empty table admits every project, and has a row for none
      intro hempty
      obtain ⟨r, hr, -⟩ := h "P" (by decide) ((admitted_iff (by decide)).mpr (.inl hempty))
      rw [hempty] at hr
      cases hr
    · intro code r hr hcode hstatus
      have hkey : r.projectCode = code := Table.key_of_lookup hr
      rw [hkey] at hcode ⊢
      obtain ⟨r', hr', hhonours⟩ := h code hcode ((admitted_iff hcode).mpr (.inr ⟨r, hr, hstatus⟩))
      obtain rfl : r = r' := Option.some.inj (hr.symm.trans hr')
      exact (honours_iff hcode _).mp hhonours
  · rintro ⟨hne, hfollow⟩ code hcode hadmitted
    obtain ⟨r, hr, hstatus⟩ := ((admitted_iff hcode).mp hadmitted).resolve_left hne
    have hkey : r.projectCode = code := Table.key_of_lookup hr
    have hlisted := hfollow code r hr (hkey ▸ hcode) hstatus
    rw [hkey] at hlisted
    exact ⟨r, hr, (honours_iff hcode _).mpr hlisted⟩

/-! ### What a request changes -/

private theorem step_ne_nil (h : initSchema file rows ≠ []) (a : Request) :
    step owncloudConfigured file rows a ≠ [] := by
  cases a with
  | edit e => exact e.apply_ne_nil h owncloudConfigured
  | other => exact h

/-- After a request, `init_schema` migrates what the request has written and what there was. Where
nothing was seeded and nothing written, the file is empty as well. -/
theorem getSourceMapping_initSchema_step (a : Request) (code : String) :
    getSourceMapping code (initSchema file (step owncloudConfigured file rows a)) =
      ((a.lastWritten owncloudConfigured file rows code).or
        (getSourceMapping code (initSchema file rows))).map (migrateRow file) := by
  have hstep : getSourceMapping code (step owncloudConfigured file rows a) =
      (a.lastWritten owncloudConfigured file rows code).or
        (getSourceMapping code (initSchema file rows)) := by
    cases a with
    | edit e => exact e.getSourceMapping_apply owncloudConfigured _ code
    | other => rfl
  by_cases hne : step owncloudConfigured file rows a = []
  · -- nothing was seeded and nothing written, so the file is empty as well
    have hempty : initSchema file rows = [] := by
      by_contra h
      exact step_ne_nil h a hne
    have hrows : rows = [] := by
      by_contra h
      rw [initSchema_of_ne_nil h] at hempty
      exact h (List.map_eq_nil_iff.mp hempty)
    rw [← hstep, hne, ← hrows, hempty, hrows]
    rfl
  · rw [getSourceMapping_initSchema hne, hstep]

/-- A property that another migration of a row does not touch: a request keeps it exactly when
the rows it writes have it once they are migrated. -/
theorem everyRow_step {P : String → MappingRow F → Prop}
    (hmigrate : ∀ code r, P code (migrateRow file r) → P code (migrateRow file (migrateRow file r)))
    (h : EveryRow file P rows) (a : Request) :
    EveryRow file P (step owncloudConfigured file rows a) ↔
      ∀ code w, a.lastWritten owncloudConfigured file rows code = some w →
        P code (migrateRow file w) := by
  constructor
  · intro hevery code w hw
    refine hevery code _ ?_
    rw [getSourceMapping_initSchema_step, hw]
    rfl
  · intro hwritten code r hr
    rw [getSourceMapping_initSchema_step] at hr
    obtain ⟨r₀, hr₀, rfl⟩ := Option.map_eq_some_iff.mp hr
    rcases Option.or_eq_some_iff.mp hr₀ with hw | ⟨-, hrow⟩
    · exact hwritten code r₀ hw
    · -- a row that is not written has been migrated before
      obtain ⟨r₁, -, rfl⟩ := List.mem_map.mp (Table.mem_of_lookup hrow)
      exact hmigrate code r₁ (h code _ hrow)

omit [Text] [Floats F] in
/-- A seeded table has the property when each entry that seeds a row does. -/
theorem everyRow_nil {P : String → MappingRow F → Prop} :
    EveryRow file P [] ↔ ∀ code e, (file.find? fun e => e.projectCode = code) = some e →
      P code (migrateRow file (seedRow e)) := by
  constructor
  · intro h code e he
    refine h code _ ?_
    rw [getSourceMapping_initSchema_nil, he]
    rfl
  · intro h code r hr
    rw [getSourceMapping_initSchema_nil] at hr
    obtain ⟨e, he, rfl⟩ := Option.map_eq_some_iff.mp hr
    exact h code e he

/-- A request keeps the table as configured exactly when what it writes follows the file. -/
theorem configured_step (h : Configured file rows) (a : Request) :
    Configured file (step owncloudConfigured file rows a) ↔
      WritesFollow owncloudConfigured file rows a := by
  obtain ⟨hne, hfollow⟩ := configured_iff.mp h
  have hne' : initSchema file (step owncloudConfigured file rows a) ≠ [] := by
    rw [initSchema_of_ne_nil (step_ne_nil hne a), ne_eq, List.map_eq_nil_iff]
    exact step_ne_nil hne a
  have hwrites : WritesFollow owncloudConfigured file rows a ↔
      ∀ code w, a.lastWritten owncloudConfigured file rows code = some w →
        FollowsFile file (migrateRow file w) := by
    cases a with
    | edit e => exact Iff.rfl
    | other => exact iff_of_true trivial nofun
  rw [configured_iff, and_iff_right hne', hwrites]
  refine everyRow_step (P := fun _ r => FollowsFile file r) ?_ hfollow a
  intro _ r hr
  exact (followsFile_congr (projectCode_migrateRow file _)
    (routing_migrateRow_migrateRow file r)).mpr hr

/-! ### What an admin may send -/

/-- Outside the verified projects, a `PUT` follows the file if the body is not complete, or says
what the file says. -/
theorem writesFollow_put {code : String} (hcode : code ≠ "")
    (hverified : code ∉ verifiedCodes) (body : SourceMappingUpsertRequest) :
    WritesFollow owncloudConfigured file rows (.edit (.put code body)) ↔
      ((computeMappingStatus owncloudConfigured body).1 = "complete" →
        ∃ m, file.load code = some m ∧ MatchesBody m body) := by
  let w : MappingRow F := storedRow owncloudConfigured code body
  -- no repair of the file touches a project outside the verified ones
  have hrepairs : repairs file code = [] := by
    refine List.filter_eq_nil_iff.mpr fun e _ h => ?_
    obtain ⟨hmem, rfl⟩ := of_decide_eq_true h
    exact hverified hmem
  have hrouting : (migrateRow file w).routing = w.routing := by
    rw [routing_migrateRow, show w.projectCode = code from rfl, hrepairs]
    rfl
  have hfollows : FollowsFile file (migrateRow file w) ↔ FollowsFile file w :=
    followsFile_congr (projectCode_migrateRow file w) hrouting
  have hlast : ∀ c, (Edit.put code body).lastWritten owncloudConfigured
      (initSchema file rows) c = if code = c then some w else none := by
    intro c
    rw [Edit.lastWritten, Edit.written, List.reverse_singleton, List.find?_singleton]
    by_cases hc : code = c <;> simp [hc, w, storedRow, SourceMappingUpsertRequest.row]
  have hw : FollowsFile file w ↔ ((computeMappingStatus owncloudConfigured body).1 = "complete" →
      ∃ m, file.load code = some m ∧ MatchesBody m body) := by
    constructor
    · intro h hstatus
      obtain ⟨m, hm, hreads⟩ := h hcode hstatus
      exact ⟨m, hm, (readsAs_row _ _).mp hreads⟩
    · intro h _ hstatus
      obtain ⟨m, hm, hmatches⟩ := h hstatus
      exact ⟨m, hm, (readsAs_row _ _).mpr hmatches⟩
  rw [← hw, ← hfollows]
  constructor
  · intro h
    exact h code w (by rw [hlast, if_pos rfl])
  · intro h c v hv
    rw [hlast] at hv
    split at hv
    · obtain rfl := Option.some.inj hv
      exact h
    · cases hv

/-! ### The seeded table -/

/-- Before the first request, the table holds what it is seeded with. -/
theorem configured_nil : Configured (F := F) file [] ↔ SeedsFollow F file := by
  rw [configured_iff, SeedsFollow]
  refine and_congr ?_ (everyRow_nil (P := fun _ r => FollowsFile file r))
  rw [ne_eq, ne_eq, initSchema_nil_eq_nil]

/-- Along a run of requests from an empty table, every admitted project is retrieved as its row says
exactly when the file lists a project and all that is seeded and written follows the file. For an
empty file everybody is admitted, and nobody retrieved. -/
theorem configured_throughout_iff (run : List Request) :
    Throughout (step owncloudConfigured file) (Configured (F := F) file) [] run ↔
      SeedsFollow F file ∧
        Along (step owncloudConfigured file) (WritesFollow (F := F) owncloudConfigured file)
          [] run := by
  have hiff : Configured (F := F) file [] →
      (Throughout (step owncloudConfigured file) (Configured (F := F) file) [] run ↔
        Along (step owncloudConfigured file) (WritesFollow (F := F) owncloudConfigured file)
          [] run) := by
    intro h
    exact @throughout_iff_along _ _ _ (WritesFollow owncloudConfigured file) (fun _ => True)
      (Configured file) (fun _ _ _ => trivial) (fun _ a _ hrows => configured_step hrows a)
      [] trivial h run
  rw [← configured_nil]
  constructor
  · intro h
    have hstart : Configured (F := F) file [] := h [] run rfl
    exact ⟨hstart, (hiff hstart).mp h⟩
  · rintro ⟨hstart, hrun⟩
    exact (hiff hstart).mpr hrun

end System

/-! ### A project of the table only -/

section Whole

open Py.Whole

/-- A project of the file, with its Odoo project. -/
def listedEntry : FileEntry where
  projectCode := "P1"
  projectName := "Bridge"
  mappingStatus := "complete"
  enabledSources := some ["odoo"]
  odoo :=
    { projectModel := some "project.project", costModel := some "account.analytic.line"
      projectExternalId := some "41", projectName := some "Bridge" }

/-- A complete mapping of a project that the file does not list. -/
def unlistedBody : SourceMappingUpsertRequest where
  projectName := "Harbour"
  odoo :=
    { projectModel := "project.project", costModel := "account.analytic.line"
      projectExternalId := "42", projectName := "Harbour" }
  enabledSources := ["odoo"]

/-- Once an admin has stored it, the project is admitted, and rejected as unknown. -/
theorem not_configured_unlisted :
    ¬ ∀ run : List Request,
      Throughout (step false [listedEntry]) (Configured (F := ℤ) [listedEntry]) [] run := by
  intro h
  let put : Request := .edit (.put "P2" unlistedBody)
  have hstored : Configured (F := ℤ) [listedEntry] (step false [listedEntry] [] put) :=
    h [put] [put] [] rfl
  have hrow : getSourceMapping (F := ℤ) "P2"
      (initSchema [listedEntry] (step false [listedEntry] [] put)) =
        some (storedRow false "P2" unlistedBody) := rfl
  have hcomplete : (storedRow (F := ℤ) false "P2" unlistedBody).mappingStatus = "complete" := by
    decide +kernel
  obtain ⟨m, hm, -⟩ := (configured_iff.mp hstored).2 "P2" _ hrow (by decide) hcomplete
  have hunlisted : MappingFile.load [listedEntry] "P2" = none := rfl
  rw [show (storedRow (F := ℤ) false "P2" unlistedBody).projectCode = "P2" from rfl,
    hunlisted] at hm
  cases hm

end Whole

end DecisionCenter.Mappings
