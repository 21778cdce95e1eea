import DecisionCenter.Mappings.Survival

/-!
# Confirmed and disabled mappings

The site of a complete row and the status of a disabled one are for the admin's `PUT` to change.
The other endpoints write through the same upsert, and `init_schema` runs before each of them;
each protects the rows by a test of its own. A run leaves them alone exactly when no step of it
meets a row that these tests let through.

`Spared` is what may become of a row: if it is complete it keeps its site, and if it is disabled
it stays so. `RowsSpared` has this of all rows of two tables, and a request `Protects` them
unless it is a `PUT`, which is excepted for the project that it names and no other.

A request does two things in turn, the migrations and the writes of the endpoint, and either may
do harm. `MigrationSpares` is the condition on the first: the file agrees with the rows of the
verified projects that are complete or disabled. `Edit.SparesWritten` is the condition on the
second, for each kind of edit by the test that its endpoint makes. Both are conditions on the
table and the request.

`protects_along_iff` is exact along runs from any table. The synchronisation looks for complete
rows only, and saves a project again that an admin has disabled.
-/

namespace DecisionCenter.Mappings

open Async.Run Py

variable {F : Type}

/-! ### Rows and tables -/

/-- The id of the SharePoint site. -/
def MappingRow.site (r : MappingRow F) : Value F := r.sharepoint.getD "site_id" (.str "")

/-- The site the file gives. -/
def FileEntry.site (e : FileEntry) : String := e.sharepoint.siteId.getD ""

/-- What may become of a row without a `PUT`: if it is complete, it does not get another site,
and if it is disabled, it stays so. -/
structure Spared (r r' : MappingRow F) : Prop where
  site : r.mappingStatus = "complete" → r.site = .str "" ∨ r'.site = .str "" ∨ r.site = r'.site
  disabled : r.mappingStatus = "disabled" → r'.mappingStatus = "disabled"

/-- A row that stays is spared. -/
theorem Spared.refl (r : MappingRow F) : Spared r r := ⟨fun _ => .inr (.inr rfl), id⟩

/-- Every row of a table is spared in the next. -/
def RowsSpared (rows rows' : List (MappingRow F)) : Prop :=
  ∀ code r r', getSourceMapping code rows = some r → getSourceMapping code rows' = some r' →
    Spared r r'

/-! ### The migrations -/

/-- The entry that a row which is not enriched takes its status from. -/
def statusEntry (F : Type) (file : MappingFile) (code : String) : Option FileEntry :=
  ((repairs file code).find? fun e => (e.kept : Kept F).done).or (repairs file code).getLast?

/-- The file agrees with the rows of the verified projects that are complete or disabled. -/
def MigrationSpares (file : MappingFile) (rows : List (MappingRow F)) : Prop :=
  ∀ code r, getSourceMapping code rows = some r →
    (r.mappingStatus = "complete" → ∀ e, (repairs file code).getLast? = some e →
      r.site = .str "" ∨ e.site = "" ∨ r.site = .str e.site) ∧
    (r.mappingStatus = "disabled" → isEnriched r.microsoft = false →
      ∀ e, statusEntry F file code = some e → e.statusColumn = "disabled")

private theorem site_migrateRow (file : MappingFile) (r : MappingRow F) :
    (migrateRow file r).site =
      (((repairs file r.projectCode).getLast?).map fun e => .str e.site).getD r.site := by
  have hsharepoint := congrArg Rewritten.sharepoint (rewritten_migrateRow file r)
  rw [MappingRow.site, show (migrateRow file r).sharepoint = _ from hsharepoint]
  cases (repairs file r.projectCode).getLast? <;> rfl

/-- The status that the migrations leave: that of the file for a verified project, unless it has
been enriched. -/
private theorem mappingStatus_migrateRow (file : MappingFile) (r : MappingRow F) :
    (migrateRow file r).mappingStatus =
      if isEnriched r.microsoft then r.mappingStatus
      else ((statusEntry F file r.projectCode).map FileEntry.statusColumn).getD
        r.mappingStatus := by
  have hstatus : (migrateRow file r).mappingStatus =
      (Table.settle Kept.done r.kept
        ((repairs file r.projectCode).map FileEntry.kept)).mappingStatus :=
    congrArg Kept.mappingStatus (kept_migrateRow file r)
  rw [hstatus]
  cases hdone : isEnriched r.microsoft with
  | true =>
    rw [Table.settle_of_done (show r.kept.done = true from hdone)]
    rfl
  | false =>
    cases hlast : (repairs file r.projectCode).getLast? with
    | none =>
      rw [statusEntry, List.getLast?_eq_none_iff.mp hlast]
      rfl
    | some e =>
      have hkept : ((repairs file r.projectCode).map (FileEntry.kept (F := F))).getLast? =
          some e.kept := by
        rw [List.getLast?_map, hlast]
        rfl
      rw [Table.settle_of_not_done (show r.kept.done = false from hdone) hkept, statusEntry, hlast,
        List.find?_map]
      change ((((repairs file r.projectCode).find? fun e => (e.kept : Kept F).done).map
        FileEntry.kept).getD e.kept).mappingStatus = _
      cases (repairs file r.projectCode).find? fun e => (e.kept : Kept F).done <;> rfl

/-- The migrations spare the rows just if the file agrees with those that are protected. -/
private theorem rowsSpared_initSchema_iff {file : MappingFile} {rows : List (MappingRow F)} :
    RowsSpared rows (initSchema file rows) ↔ MigrationSpares file rows := by
  have hrow : ∀ code r, getSourceMapping code rows = some r →
      getSourceMapping code (initSchema file rows) = some (migrateRow file r) := by
    intro code r hr
    have hne : rows ≠ [] := by
      rintro rfl
      cases hr
    rw [getSourceMapping_initSchema hne, hr, Option.map_some]
  -- row by row: the migration can touch the site of a complete row and revive a disabled one
  have hspared : ∀ code r, getSourceMapping code rows = some r →
      (Spared r (migrateRow file r) ↔
        (r.mappingStatus = "complete" → ∀ e, (repairs file code).getLast? = some e →
          r.site = .str "" ∨ e.site = "" ∨ r.site = .str e.site) ∧
        (r.mappingStatus = "disabled" → isEnriched r.microsoft = false →
          ∀ e, statusEntry F file code = some e → e.statusColumn = "disabled")) := by
    intro code r hr
    have hcode : r.projectCode = code := Table.key_of_lookup hr
    have hsite := site_migrateRow file r
    have hstatus := mappingStatus_migrateRow file r
    rw [hcode] at hsite hstatus
    constructor
    · rintro ⟨hcomplete, hdisabled⟩
      refine ⟨fun hc e he => ?_, fun hd henriched e he => ?_⟩
      · have h := hcomplete hc
        rw [hsite, he] at h
        simpa using h
      · have h := hdisabled hd
        rw [hstatus, henriched, he] at h
        exact h
    · rintro ⟨hcomplete, hdisabled⟩
      refine ⟨fun hc => ?_, fun hd => ?_⟩
      · rw [hsite]
        cases hlast : (repairs file code).getLast? with
        | none => exact .inr (.inr rfl)
        | some e => simpa using hcomplete hc e hlast
      · rw [hstatus]
        split
        · exact hd
        · next henriched =>
          cases hentry : statusEntry F file code with
          | none => exact hd
          | some e => exact hdisabled hd (Bool.eq_false_iff.mpr henriched) e hentry
  constructor
  · intro h code r hr
    exact (hspared code r hr).mp (h code r _ hr (hrow code r hr))
  · intro h code r r' hr hr'
    rw [hrow code r hr] at hr'
    obtain rfl := Option.some.inj hr'
    exact (hspared code r hr).mpr (h code r hr)

/-! ### The endpoints -/

section Edits

variable [Text] [Floats F] (owncloudConfigured : Bool)

/-- The last of the pairs saved for a code. -/
def savedPair (pairs : List MatchedPair) (rows : List (MappingRow F)) (code : String) :
    Option MatchedPair :=
  (pairs.filter (·.autoSaved (confirmedSiteIds rows))).reverse.find? fun pair =>
    "odoo-" ++ toString pair.odooProjectId = code

/-- What the tests of an endpoint let through is neither disabled nor complete with another
site. -/
def Edit.Spares (rows : List (MappingRow F)) : Edit → Prop
  | put _ _ => True
  | disable _ => True
  | confirm code req => ∀ r body, getSourceMapping code rows = some r → r.body = .ok body →
      isPlaceholderSite body.sharepoint.siteId = true ∨ body.sharepoint.siteId = req.siteId →
      r.mappingStatus ≠ "disabled" ∧
        (r.mappingStatus = "complete" → body.sharepoint.siteId = "" ∨
          body.sharepoint.siteId = req.siteId)
  | enrich requested results =>
      requested.all (· ∈ verifiedCodes) → requested.all (fun code =>
        (getSourceMapping code rows).all fun row => row.body.toOption.isSome) →
      ∀ result ∈ results.getD [], ∀ r body,
        getSourceMapping result.projectCode rows = some r → r.body = .ok body →
        r.mappingStatus ≠ "disabled"
  | sync pairs => ∀ code pair, savedPair pairs rows code = some pair →
      ∀ r, getSourceMapping code rows = some r → r.mappingStatus ≠ "disabled" ∧
        (r.mappingStatus = "complete" → r.site = .str "" ∨
          r.site = .str pair.sharepointSiteId)

/-- The rows an endpoint writes spare those they replace. -/
def Edit.SparesWritten (rows : List (MappingRow F)) (e : Edit) : Prop :=
  ∀ code w r, e.lastWritten owncloudConfigured rows code = some w →
    getSourceMapping code rows = some r → Spared r w

variable {owncloudConfigured} {rows : List (MappingRow F)} {e : Edit}

private theorem rowsSpared_apply_iff : RowsSpared rows (e.apply owncloudConfigured rows) ↔
    e.SparesWritten owncloudConfigured rows := by
  constructor
  · intro h code w r hw hr
    refine h code r w hr ?_
    rw [e.getSourceMapping_apply, hw, Option.some_or]
  · intro h code r r' hr hr'
    rw [e.getSourceMapping_apply] at hr'
    rcases Option.or_eq_some_iff.mp hr' with hw | ⟨-, hkept⟩
    · exact h code r' r hw hr
    · obtain rfl := Option.some.inj (hr.symm.trans hkept)
      exact Spared.refl r

omit [Floats F] in
/-- A computed status is not `disabled`. -/
theorem mappingStatus_storedRow_ne (code : String) (body : SourceMappingUpsertRequest) :
    (storedRow owncloudConfigured code body : MappingRow F).mappingStatus ≠ "disabled" := by
  rw [storedRow, SourceMappingUpsertRequest.row, computeMappingStatus]
  dsimp only
  split <;> decide

/-- The site a row is read with is the one it stores. -/
theorem site_of_body {r : MappingRow F} {body : SourceMappingUpsertRequest}
    (h : r.body = .ok body) : r.site = .str body.sharepoint.siteId := by
  obtain ⟨siteId, hsite, hrest⟩ := bind_eq_ok.mp (body_eq_ok.mp h).sharepoint
  have hsiteId : body.sharepoint.siteId = siteId := by
    obtain ⟨driveId, -, hrest⟩ := bind_eq_ok.mp hrest
    obtain ⟨rootPath, -, hrest⟩ := bind_eq_ok.mp hrest
    rw [← Except.ok.inj hrest]
  rw [hsiteId, MappingRow.site]
  rw [strField] at hsite
  split at hsite
  · next s hs => rw [hs, Except.ok.inj hsite]
  · cases hsite

omit [Floats F] in
private theorem site_storedRow (code : String) (body : SourceMappingUpsertRequest) :
    (storedRow owncloudConfigured code body : MappingRow F).site =
      .str body.sharepoint.siteId := rfl

/-! #### One endpoint at a time -/

/-- Disabling a row keeps its site. -/
theorem sparesWritten_disable (code : String) :
    (Edit.disable code).SparesWritten owncloudConfigured rows := by
  intro c w r hw hr
  obtain ⟨hmem, hcode⟩ := Edit.mem_written hw
  rw [Edit.written] at hmem
  split at hmem
  · cases hmem
  · next row hrow =>
    split at hmem
    · cases hmem
    · obtain rfl := List.mem_singleton.mp hmem
      have hkey : row.projectCode = c := hcode
      rw [← hkey, Table.key_of_lookup hrow] at hr
      obtain rfl := Option.some.inj (hrow.symm.trans hr)
      exact ⟨fun _ => .inr (.inr rfl), fun _ => rfl⟩

/-- What a confirmation may do to a protected row. -/
private theorem sparesWritten_confirm_iff {code : String} {req : MicrosoftMappingConfirmRequest} :
    (Edit.confirm code req).SparesWritten owncloudConfigured rows ↔
      (Edit.confirm code req).Spares rows := by
  constructor
  · intro h r body hr hbody hguard
    let w : MappingRow F := storedRow owncloudConfigured code (req.merge body)
    have hrow : confirmRow owncloudConfigured code req rows = some w :=
      confirmRow_eq_some.mpr ⟨r, body, hr, hbody, hguard, rfl⟩
    have hwritten : (Edit.confirm code req).lastWritten owncloudConfigured rows code = some w := by
      rw [Edit.lastWritten, Edit.written, hrow]
      exact List.find?_cons_of_pos (decide_eq_true rfl)
    have hspared : Spared r w := h code w r hwritten hr
    refine ⟨fun hd => mappingStatus_storedRow_ne code _ (hspared.disabled hd), fun hc => ?_⟩
    have hsite := hspared.site hc
    rw [site_of_body hbody, site_storedRow] at hsite
    -- the requested site is not empty
    simpa [MicrosoftMappingConfirmRequest.merge, req.siteId_ne] using hsite
  · intro h c w r hw hr
    obtain ⟨hmem, hcode⟩ := Edit.mem_written hw
    obtain ⟨row, body, hrow, hbody, hguard, rfl⟩ :=
      confirmRow_eq_some.mp (Option.mem_toList.mp hmem)
    obtain rfl : code = c := hcode
    obtain rfl := Option.some.inj (hr.symm.trans hrow)
    obtain ⟨hactive, hsite⟩ := h r body hr hbody hguard
    refine ⟨fun hc => ?_, fun hd => absurd hd hactive⟩
    rw [site_of_body hbody, site_storedRow]
    rcases hsite hc with hempty | hsame
    · exact .inl (congrArg Value.str hempty)
    · exact .inr (.inr (congrArg Value.str hsame))

/-- What an enrichment may do to a protected row. -/
private theorem sparesWritten_enrich_iff {requested : List String}
    {results : Option (List EmailGroupProjectResult)} :
    (Edit.enrich requested results).SparesWritten owncloudConfigured rows ↔
      (Edit.enrich requested results).Spares rows := by
  constructor
  · intro h hscope hreadable result hresult r body hr hbody hd
    let w : MappingRow F :=
      storedRow owncloudConfigured result.projectCode (result.merge body)
    have hmem : w ∈ (Edit.enrich requested results).written owncloudConfigured rows := by
      rw [Edit.written, if_pos ⟨hscope, hreadable⟩]
      exact List.mem_filterMap.mpr
        ⟨result, hresult, enrichRow_eq_some.mpr ⟨r, body, hr, hbody, rfl⟩⟩
    obtain ⟨w', hw'⟩ := exists_lastWritten hmem
    have hdisabled := (h result.projectCode w' r hw' hr).disabled hd
    -- whichever row of the project is written last, its status is computed
    obtain ⟨hmem', -⟩ := Edit.mem_written hw'
    rw [Edit.written, if_pos ⟨hscope, hreadable⟩] at hmem'
    obtain ⟨result', -, hrow'⟩ := List.mem_filterMap.mp hmem'
    obtain ⟨_, body', -, -, rfl⟩ := enrichRow_eq_some.mp hrow'
    exact mappingStatus_storedRow_ne _ _ hdisabled
  · intro h c w r hw hr
    obtain ⟨hmem, hcode⟩ := Edit.mem_written hw
    rw [Edit.written] at hmem
    split at hmem
    · next haccepted =>
      obtain ⟨result, hresult, hrow⟩ := List.mem_filterMap.mp hmem
      obtain ⟨row, body, hlookup, hbody, rfl⟩ := enrichRow_eq_some.mp hrow
      obtain rfl : result.projectCode = c := hcode
      obtain rfl := Option.some.inj (hr.symm.trans hlookup)
      have hactive := h haccepted.1 haccepted.2 result hresult r body hr hbody
      -- the merge keeps the coordinates
      have hsite : (storedRow owncloudConfigured result.projectCode (result.merge body) :
          MappingRow F).site = r.site := (site_of_body hbody).symm
      exact ⟨fun _ => .inr (.inr hsite.symm), fun hd => absurd hd hactive⟩
    · cases hmem

private theorem lastWritten_sync (pairs : List MatchedPair) (code : String) :
    (Edit.sync pairs).lastWritten owncloudConfigured rows code =
      (savedPair pairs rows code).map MatchedPair.row := by
  rw [Edit.lastWritten, Edit.written, ← List.map_reverse, List.find?_map]
  rfl

/-- What a synchronisation may do to a protected row. -/
private theorem sparesWritten_sync_iff {pairs : List MatchedPair} :
    (Edit.sync pairs).SparesWritten owncloudConfigured rows ↔ (Edit.sync pairs).Spares rows := by
  have hpair : ∀ code pair r, savedPair pairs rows code = some pair →
      (Spared r (pair.row : MappingRow F) ↔ r.mappingStatus ≠ "disabled" ∧
        (r.mappingStatus = "complete" → r.site = .str "" ∨
          r.site = .str pair.sharepointSiteId)) := by
    intro code pair r hsaved
    have hmem := List.mem_reverse.mp (List.mem_of_find?_eq_some hsaved)
    have hsite : pair.sharepointSiteId ≠ "" := by
      have hauto := (List.mem_filter.mp hmem).2
      simp only [MatchedPair.autoSaved, Bool.and_eq_true, decide_eq_true_eq] at hauto
      exact hauto.1.1
    have hstored : (pair.row : MappingRow F).site = .str pair.sharepointSiteId := rfl
    have hactivated : (pair.row : MappingRow F).mappingStatus ≠ "disabled" :=
      show "complete" ≠ "disabled" by decide
    constructor
    · rintro ⟨hcomplete, hdisabled⟩
      refine ⟨fun hd => absurd (hdisabled hd) hactivated, fun hc => ?_⟩
      have h := hcomplete hc
      rw [hstored] at h
      simpa [hsite] using h
    · rintro ⟨hactive, hcomplete⟩
      refine ⟨fun hc => ?_, fun hd => absurd hd hactive⟩
      rw [hstored]
      exact (hcomplete hc).imp_right .inr
  constructor
  · intro h code pair hsaved r hr
    refine (hpair code pair r hsaved).mp (h code pair.row r ?_ hr)
    rw [lastWritten_sync, hsaved, Option.map_some]
  · intro h code w r hw hr
    rw [lastWritten_sync] at hw
    obtain ⟨pair, hsaved, rfl⟩ := Option.map_eq_some_iff.mp hw
    exact (hpair code pair r hsaved).mpr (h code pair hsaved r hr)

/-! ### Runs -/

variable (owncloudConfigured) (file : MappingFile)

/-- The request is an admin's `PUT`. -/
def Request.isPut : Request → Bool
  | .edit (.put _ _) => true
  | _ => false

/-- The request spares the rows with its call of `init_schema`, and, unless it is a `PUT`, with
what it writes. -/
def Request.Protects (rows : List (MappingRow F)) (a : Request) : Prop :=
  RowsSpared rows (initSchema file rows) ∧
    (a.isPut = false → RowsSpared (initSchema file rows) (step owncloudConfigured file rows a))

/-- What lets a request spare the rows. -/
def Request.Spares (rows : List (MappingRow F)) (a : Request) : Prop :=
  MigrationSpares file rows ∧
    match a with
    | .edit e => e.Spares (initSchema file rows)
    | .other => True

variable {owncloudConfigured} {file}

/-- A request protects the rows just if its migrations and its writes spare them. -/
private theorem protects_iff (a : Request) :
    a.Protects owncloudConfigured file rows ↔ a.Spares file rows := by
  refine and_congr rowsSpared_initSchema_iff ?_
  have hother : ∀ {e : Edit}, (Request.edit e).isPut = false →
      (((Request.edit e).isPut = false →
          RowsSpared (initSchema file rows) (step owncloudConfigured file rows (.edit e))) ↔
        e.SparesWritten owncloudConfigured (initSchema file rows)) := by
    intro e hput
    rw [forall_prop_of_true hput]
    exact rowsSpared_apply_iff
  cases a with
  | other =>
    refine iff_of_true (fun _ code r r' hr hr' => ?_) trivial
    obtain rfl := Option.some.inj (hr.symm.trans hr')
    exact Spared.refl r
  | edit e =>
    cases e with
    | put code body => exact iff_of_true (fun hput => absurd hput (by simp [Request.isPut])) trivial
    | disable code => exact iff_of_true ((hother rfl).mpr (sparesWritten_disable code)) trivial
    | confirm code req => exact (hother rfl).trans sparesWritten_confirm_iff
    | enrich requested results => exact (hother rfl).trans sparesWritten_enrich_iff
    | sync pairs => exact (hother rfl).trans sparesWritten_sync_iff

/-- Along a run of requests from any table, only a `PUT` gives a complete row another site or
activates a disabled one exactly when each step has no such row let through by its tests. The tests
differ from endpoint to endpoint, and the migrations have none. -/
theorem protects_along_iff (owncloudConfigured : Bool) (file : MappingFile)
    (rows : List (MappingRow F)) (run : List Request) :
    Along (step owncloudConfigured file)
        (fun rows a => a.Protects owncloudConfigured file rows) rows run ↔
      Along (step owncloudConfigured file) (fun rows a => a.Spares file rows) rows run :=
  along_congr (fun _ _ (_ : True) => trivial) (fun _ a _ => protects_iff a) trivial run

end Edits

/-! ### A disabled project that is synchronised -/

section Whole

open Py.Whole

/-- A pair of an Odoo project and its site. -/
def towerPair : MatchedPair where
  odooProjectId := 7
  odooProjectName := "Tower"
  sharepointSiteId := "contoso,tower,1"
  sharepointDriveId := some "drive-1"
  sharepointSiteName := "tower"
  sharepointDisplayName := "Tower"
  sharepointWebUrl := "https://contoso.sharepoint.com/sites/tower"

/-- An admin disables the project that a synchronisation has saved; the next one, which looks for
complete rows only, saves it again as complete. -/
theorem not_protects_sync :
    ¬ ∀ run : List Request, Along (step false [listedEntry])
      (fun (rows : List (MappingRow ℤ)) a => a.Protects false [listedEntry] rows) [] run := by
  intro h
  let sync : Request := .edit (.sync [towerPair])
  let disable : Request := .edit (.disable "odoo-7")
  obtain ⟨-, -, ⟨-, hlast⟩, -⟩ := h [sync, disable, sync]
  let disabled : MappingRow ℤ := { towerPair.row with mappingStatus := "disabled" }
  have hspared : Spared disabled towerPair.row :=
    hlast rfl "odoo-7" disabled towerPair.row rfl rfl
  exact absurd (hspared.disabled rfl) (by decide)

end Whole

end DecisionCenter.Mappings
