import DecisionCenter.Graph.Citations
import DecisionCenter.Mappings.Store

/-!
# Edits of the source mappings

The five endpoints that write the table (`apps/edr/app.py`): the admin's `PUT` and `disable`,
the confirmation of a Microsoft mapping, the group enrichment and the synchronisation with Odoo
and SharePoint. What the last two learn from Microsoft Graph and Odoo is an input. Each endpoint
runs `init_schema` first; a handler that answers with an error leaves the table as it is then.

`Edit` has one constructor for each endpoint. The rows it writes are computed from the table
behind `init_schema` (`Edit.written`), one after the other, each endpoint with a test of its
own: a confirmation does not replace a site that is no placeholder, an enrichment is for
verified projects whose rows can be read, and the synchronisation passes over sites that a
complete mapping has.

A `PUT` stores the body with the status computed from it. The confirmation and the enrichment
read the row as the detail shows it, replace the columns that they own, and store the result as
a `PUT` would, with the status computed anew (`storedRow`). The synchronisation writes rows of
its own.

What an edit means for one project is said once, in `Edit.getSourceMapping_apply`: it has the
last row that the edit writes for it, or the row it had behind `init_schema`. All results on
runs of edits go by this.
-/

namespace DecisionCenter.Mappings

open Py

variable {F : Type}

/-! ### Confirmation -/

/-- `MicrosoftMappingConfirmRequest` -/
structure MicrosoftMappingConfirmRequest where
  siteId : String
  driveId : String
  rootPath : String := ""
  mailboxes : List String := []
  documentControlMailbox : String := ""
  siteId_ne : siteId ≠ ""
  driveId_ne : driveId ≠ ""

/-- `_is_placeholder_site` -/
def isPlaceholderSite [Text] (siteId : String) : Bool :=
  decide (siteId ∈ ["", "example-site-id", "example-site-id-001", "example-site-id-002"]) ||
    contains (lower siteId) "example"

/-- The mapping with the confirmed coordinates. -/
def MicrosoftMappingConfirmRequest.merge (req : MicrosoftMappingConfirmRequest)
    (existing : SourceMappingUpsertRequest) : SourceMappingUpsertRequest :=
  { existing with
    sharepoint :=
      { siteId := req.siteId
        driveId := req.driveId
        rootPath := if req.rootPath ≠ "" then req.rootPath
          else if existing.sharepoint.rootPath ≠ "" then existing.sharepoint.rootPath else "/" }
    email :=
      { existing.email with
        sharedMailboxes := if req.mailboxes ≠ [] then req.mailboxes
          else existing.email.sharedMailboxes
        documentControlMailbox := if req.documentControlMailbox ≠ "" then
          req.documentControlMailbox else existing.email.documentControlMailbox } }

/-! ### Enrichment -/

/-- `EmailGroupProjectResult`, what the scan found for one project. -/
structure EmailGroupProjectResult where
  projectCode : String
  groupMembershipStatus : String
  group : SourceMappingMicrosoftGroup := {}
  groupMembers : List SourceMappingMicrosoftGroupMember := []
  memberCount : ℤ := 0
  relatedPeople : RelatedPeople := {}
  emailEnabled : Bool := false
  missingPermissions : List String := []
  blockers : List String := []

/-- The mapping with what the scan found. -/
def EmailGroupProjectResult.merge [Text] (result : EmailGroupProjectResult)
    (existing : SourceMappingUpsertRequest) : SourceMappingUpsertRequest :=
  let memberEmails := (result.groupMembers.filter fun m => strip m.email ≠ "").map fun m =>
    lower (strip m.email)
  let kept := existing.enabledSources.filter (· ≠ "owncloud")
  { existing with
    owncloud := { basePath := "" }
    email :=
      { existing.email with
        sharedMailboxes := existing.email.sharedMailboxes.filter fun mailbox =>
          lower (strip mailbox) ∉ memberEmails }
    microsoft :=
      { group := result.group
        groupMembers := result.groupMembers
        groupMembershipStatus := result.groupMembershipStatus
        memberCount := result.memberCount
        missingPermissions := result.missingPermissions
        blockers := result.blockers }
    relatedPeople := result.relatedPeople
    enabledSources := sortIds (if result.emailEnabled then kept ++ ["email"]
      else kept.filter (· ≠ "email")) }

/-! ### Synchronisation -/

/-- An Odoo project and the SharePoint site of its name, with the site's document library. -/
structure MatchedPair where
  odooProjectId : ℤ
  odooProjectName : String
  sharepointSiteId : String
  sharepointDriveId : Option String
  sharepointSiteName : String
  sharepointDisplayName : String
  sharepointWebUrl : String

/-- The sites that a complete row holds. -/
def confirmedSiteIds (rows : List (MappingRow F)) : List String :=
  rows.filterMap fun r =>
    if r.mappingStatus = "complete" then
      match r.sharepoint.getD "site_id" (.str "") with
      | .str s => some s
      | _ => none
    else none

/-- `_process_one_pair(…).auto_saved` -/
def MatchedPair.autoSaved (pair : MatchedPair) (confirmed : List String) : Bool :=
  decide (pair.sharepointSiteId ≠ "") && decide (pair.sharepointDriveId.getD "" ≠ "") &&
    decide (pair.sharepointSiteId ∉ confirmed)

/-- The row a pair is saved as. -/
def MatchedPair.row (pair : MatchedPair) : MappingRow F :=
  let internalKey := "odoo-" ++ toString pair.odooProjectId
  { projectCode := internalKey
    projectName := pair.odooProjectName
    contractNumbers := []
    sharepoint :=
      [("site_id", .str pair.sharepointSiteId),
        ("drive_id", .str (pair.sharepointDriveId.getD "")), ("root_path", .str "/"),
        ("web_url", .str pair.sharepointWebUrl), ("site_name", .str pair.sharepointSiteName),
        ("display_name", .str pair.sharepointDisplayName)]
    owncloud := [("base_path", .str "")]
    email := SourceMappingEmail.dump {}
    microsoft := ("group", .dict []) :: (SourceMappingMicrosoft.dump {}).tail
    odoo :=
      [("project_external_id", .str (toString pair.odooProjectId)),
        ("project_name", .str pair.odooProjectName), ("project_model", .str "project.project"),
        ("cost_model", .str "account.analytic.line"),
        ("mapping_method", .str "ODOO_MAIN_NAME_EQUALS_SHAREPOINT_SITE_NAME"),
        ("match_confidence", .int 100), ("internal_key", .str internalKey)]
    relatedPeople := RelatedPeople.dump {}
    enabledSources := ["sharepoint", "odoo"]
    allowedRoles := []
    mappingStatus := "complete" }

/-! ### The endpoints -/

/-- A request to one of the endpoints. -/
inductive Edit where
  | put (code : String) (body : SourceMappingUpsertRequest)
  | disable (code : String)
  | confirm (code : String) (req : MicrosoftMappingConfirmRequest)
  /-- The codes asked for, and the results of the scan, unless it was blocked. -/
  | enrich (requested : List String) (results : Option (List EmailGroupProjectResult))
  /-- The pairs of exactly matching names. -/
  | sync (pairs : List MatchedPair)

variable [Text] [Floats F]

/-- The row a request body is stored as, with the status computed for it. -/
def storedRow (owncloudConfigured : Bool) (code : String) (body : SourceMappingUpsertRequest) :
    MappingRow F :=
  body.row code (computeMappingStatus owncloudConfigured body).1

/-- The row `confirm_microsoft_mapping` writes, unless it answers with an error. -/
def confirmRow (owncloudConfigured : Bool) (code : String) (req : MicrosoftMappingConfirmRequest)
    (rows : List (MappingRow F)) : Option (MappingRow F) := do
  let row ← getSourceMapping code rows
  let existing ← row.body.toOption
  if !isPlaceholderSite existing.sharepoint.siteId ∧ existing.sharepoint.siteId ≠ req.siteId then
    none
  else some (storedRow owncloudConfigured code (req.merge existing))

/-- The row `enrich_email_groups` writes for a result, if the project has one. -/
def enrichRow (owncloudConfigured : Bool) (rows : List (MappingRow F))
    (result : EmailGroupProjectResult) : Option (MappingRow F) := do
  let row ← getSourceMapping result.projectCode rows
  let existing ← row.body.toOption
  some (storedRow owncloudConfigured result.projectCode (result.merge existing))

/-- The rows an endpoint writes, in order. -/
def Edit.written (owncloudConfigured : Bool) (rows : List (MappingRow F)) :
    Edit → List (MappingRow F)
  | put code body => [storedRow owncloudConfigured code body]
  | disable code =>
    match getSourceMapping code rows with
    | none => []
    | some row =>
      if row.mappingStatus = "disabled" then [] else [{ row with mappingStatus := "disabled" }]
  | confirm code req => (confirmRow owncloudConfigured code req rows).toList
  | enrich requested results =>
    -- a row of a requested project that cannot be read fails the request
    if requested.all (· ∈ verifiedCodes) ∧ requested.all (fun code =>
        (getSourceMapping code rows).all fun row => row.body.toOption.isSome) then
      (results.getD []).filterMap (enrichRow owncloudConfigured rows)
    else []
  | sync pairs =>
    (pairs.filter (·.autoSaved (confirmedSiteIds rows))).map (·.row)

/-- The table after an endpoint's writes. -/
def Edit.apply (owncloudConfigured : Bool) (e : Edit) (rows : List (MappingRow F)) :
    List (MappingRow F) :=
  match e with
  | disable code =>
    match getSourceMapping code rows with
    | none => rows
    | some row => if row.mappingStatus = "disabled" then rows else disableSourceMapping code rows
  | e => (e.written owncloudConfigured rows).foldl (fun rows w => upsertSourceMapping w rows) rows

/-! ### What an endpoint writes -/

/-- The row an endpoint leaves for a project, if it writes one. -/
def Edit.lastWritten (owncloudConfigured : Bool) (rows : List (MappingRow F)) (e : Edit)
    (code : String) : Option (MappingRow F) :=
  (e.written owncloudConfigured rows).reverse.find? fun w => w.projectCode = code

omit [Text] [Floats F] in
private theorem getSourceMapping_foldl_upsert (code : String) (ws rows : List (MappingRow F)) :
    getSourceMapping code (ws.foldl (fun rows w => upsertSourceMapping w rows) rows) =
      (ws.reverse.find? fun w => w.projectCode = code).or (getSourceMapping code rows) := by
  induction ws generalizing rows with
  | nil => rfl
  | cons w ws ih =>
    rw [List.foldl_cons, ih, upsertSourceMapping, getSourceMapping, Table.lookup_upsert,
      List.reverse_cons, List.find?_append, Option.or_assoc]
    congr 1
    by_cases h : w.projectCode = code
    · simp [h]
    · simp [h, Ne.symm h]

omit [Text] [Floats F] in
/-- Disabling a project changes the status of its row, and no other row. -/
theorem getSourceMapping_disable (code other : String) (rows : List (MappingRow F)) :
    getSourceMapping other (disableSourceMapping code rows) =
      (getSourceMapping other rows).map fun r =>
        if r.projectCode = code then { r with mappingStatus := "disabled" } else r := by
  have hkeeps : (Table.set (fun r : MappingRow F => decide (r.projectCode = code)) fun r =>
      { r with mappingStatus := "disabled" }).Keeps (·.projectCode) :=
    Table.keeps_set fun _ => rfl
  rw [disableSourceMapping, getSourceMapping, Table.lookup_exec rows hkeeps]
  congr 1
  funext r
  by_cases h : r.projectCode = code <;> simp [Table.Update.row, Table.set, h]

/-- After an edit, a project has the row the edit leaves for it, or the row it had. The last row
that an edit writes for a project is the one that counts. -/
theorem Edit.getSourceMapping_apply (owncloudConfigured : Bool) (e : Edit)
    (rows : List (MappingRow F)) (code : String) :
    getSourceMapping code (e.apply owncloudConfigured rows) =
      (e.lastWritten owncloudConfigured rows code).or (getSourceMapping code rows) := by
  cases e with
  | disable c =>
    rw [apply, lastWritten, written]
    cases hrow : getSourceMapping c rows with
    | none => rfl
    | some row =>
      have hcode : row.projectCode = c := Table.key_of_lookup hrow
      dsimp only
      split
      · rfl
      · rw [getSourceMapping_disable, List.reverse_singleton, List.find?_singleton]
        by_cases hc : c = code
        · subst hc
          simp [hrow, hcode]
        · have hne : row.projectCode ≠ code := hcode ▸ hc
          cases hother : getSourceMapping code rows with
          | none => simp [hne]
          | some other =>
            have hkey : other.projectCode ≠ c := (Table.key_of_lookup hother) ▸ Ne.symm hc
            simp [hne, hkey]
  | _ => exact getSourceMapping_foldl_upsert code _ rows

omit [Text] [Floats F] in
private theorem foldl_upsert_ne_nil {rows : List (MappingRow F)} (h : rows ≠ [])
    (ws : List (MappingRow F)) :
    ws.foldl (fun rows w => upsertSourceMapping w rows) rows ≠ [] := by
  induction ws generalizing rows with
  | nil => exact h
  | cons w ws ih => exact ih (Table.upsert_ne_nil w rows)

/-- No edit empties the table. -/
theorem Edit.apply_ne_nil {rows : List (MappingRow F)} (h : rows ≠ []) (owncloudConfigured : Bool)
    (e : Edit) : e.apply owncloudConfigured rows ≠ [] := by
  cases e with
  | disable c =>
    rw [apply]
    split
    · exact h
    · split
      · exact h
      · rw [disableSourceMapping, Table.Update.exec, ne_eq, List.map_eq_nil_iff]
        exact h
  | _ => exact foldl_upsert_ne_nil h _

/-! ### The rows the endpoints write -/

variable {owncloudConfigured : Bool} {rows : List (MappingRow F)} {w : MappingRow F}

/-- When a confirmation writes a row: the project has one that can be read, and its site is a
placeholder or the one confirmed. -/
theorem confirmRow_eq_some {code : String} {req : MicrosoftMappingConfirmRequest} :
    confirmRow owncloudConfigured code req rows = some w ↔
      ∃ row existing, getSourceMapping code rows = some row ∧ row.body = .ok existing ∧
        (isPlaceholderSite existing.sharepoint.siteId = true ∨
          existing.sharepoint.siteId = req.siteId) ∧
        w = storedRow owncloudConfigured code (req.merge existing) := by
  -- the guard of the source, read positively
  have hguard : ∀ site : String, isPlaceholderSite site = true ∨ site = req.siteId ↔
      ¬ (!isPlaceholderSite site ∧ site ≠ req.siteId) := by
    intro site
    cases isPlaceholderSite site <;> simp
  constructor
  · intro h
    obtain ⟨row, hrow, h⟩ := Option.bind_eq_some_iff.mp h
    obtain ⟨existing, hexisting, h⟩ := Option.bind_eq_some_iff.mp h
    split at h
    · cases h
    · next hpass =>
      refine ⟨row, existing, hrow, ?_, (hguard _).mpr hpass, (Option.some.inj h).symm⟩
      cases hbody : row.body with
      | error err =>
        rw [hbody] at hexisting
        cases hexisting
      | ok body =>
        rw [hbody] at hexisting
        rw [Option.some.inj hexisting]
  · rintro ⟨row, existing, hrow, hbody, hpass, rfl⟩
    rw [confirmRow, hrow]
    dsimp only [Option.bind_eq_bind, Option.bind_some]
    rw [hbody]
    exact if_neg ((hguard _).mp hpass)

/-- When an enrichment writes a row: the project has one that can be read. -/
theorem enrichRow_eq_some {result : EmailGroupProjectResult} :
    enrichRow owncloudConfigured rows result = some w ↔
      ∃ row existing, getSourceMapping result.projectCode rows = some row ∧
        row.body = .ok existing ∧
        w = storedRow owncloudConfigured result.projectCode (result.merge existing) := by
  rw [enrichRow]
  cases hrow : getSourceMapping result.projectCode rows with
  | none => simp
  | some row => cases hbody : row.body <;> simp [hbody, Except.toOption, eq_comm]

/-- The last row that is written for a project is one of those that are written. -/
theorem Edit.mem_written {e : Edit} {code : String}
    (h : e.lastWritten owncloudConfigured rows code = some w) :
    w ∈ e.written owncloudConfigured rows ∧ w.projectCode = code := by
  have hcode := List.find?_some h
  exact ⟨List.mem_reverse.mp (List.mem_of_find?_eq_some h), of_decide_eq_true hcode⟩

/-- Each row that is written has a last one for its project. -/
theorem exists_lastWritten {e : Edit} (h : w ∈ e.written owncloudConfigured rows) :
    ∃ w', e.lastWritten owncloudConfigured rows w.projectCode = some w' := by
  refine Option.isSome_iff_exists.mp (List.find?_isSome.mpr ⟨w, List.mem_reverse.mpr h, ?_⟩)
  exact decide_eq_true rfl

end DecisionCenter.Mappings
