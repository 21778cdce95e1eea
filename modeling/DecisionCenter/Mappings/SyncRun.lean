import DecisionCenter.Async.Attempt
import DecisionCenter.Mappings.Edits
import DecisionCenter.Mappings.SiteMatching
import DecisionCenter.Py.Whole

/-!
# A synchronisation with Odoo and SharePoint

`run_odoo_sharepoint_sync` (`apps/edr/admin/odoo_sharepoint_sync.py`) and the endpoint that
saves what it returns. The exact pairs are processed side by side, each with two requests to
Microsoft Graph whose answers are arbitrary; the rows they are checked against were read before.
A run saves no two mappings of one site if the matching is one to one, and the matching is so
just for projects and sites whose names keep them apart.

A pair is processed by a task: it asks for the library of the site and for its members, an
exception of either being caught, and then decides whether the pair is to be saved. It is
skipped without a site or a library, and where a complete row among those that were read has the
site. Whatever is answered, the result is one of this pair (`ensures_processOnePair`).

The results of a run stand in the order of the pairs, and those that are to be saved are an edit
of `Mappings.Edits`. The sites that are saved are sites of the exact pairs, in their order
(`sites_saved`), so that two rows with one site need two exact pairs with it.

`matchesOneToOne_iff` has the matching, its behaviour under reordering and every run that saves
it, and is exact: names must keep projects and sites apart. Two projects of one name and their
one site are the failing case.
-/

namespace DecisionCenter.Mappings

open Py Async

variable {F : Type}

/-! ### Requests to Microsoft Graph -/

/-- The requests of `_process_one_pair`. -/
inductive GraphRequest where
  | drives (siteId : String)
  | permissions (siteId : String)

/-- What `_graph_get` returns: the status and the body. -/
abbrev GraphAnswer (F : Type) (_ : GraphRequest) : Type := ℕ × Dict F

section Answers

variable [Floats F]

omit [Floats F] in
/-- `data.get("value", [])`, whose elements are used as dictionaries. -/
def answerItems (data : Dict F) : Option (List (Dict F)) := do
  (← (data.getD "value" (.list [])).iter.toOption).mapM Value.asDict?

omit [Floats F] in
/-- `_enumerate_all_sites` -/
def enumerateAllSites (answer : ℕ × Dict F) : Option (List (Dict F)) :=
  if answer.1 ≠ 200 then some []
  else do
    let items ← answerItems answer.2
    let urls ← items.mapM fun s => (strField s "webUrl").toOption
    pure (((items.zip urls).filter fun s => !contains s.2 "contentstorage").map Prod.fst)

omit [Floats F] in
/-- `_get_document_library_drive` -/
def getDocumentLibraryDrive (answer : ℕ × Dict F) : Option (Value F) :=
  if answer.1 ≠ 200 then some .null
  else do
    match (← answerItems answer.2).filter (fun d => (d.get "driveType").eqStr "documentLibrary")
      with
    | [] => pure .null
    | d :: _ => d.get? "id"

/-- `email`, if it is one with an `@`; an address that is no string raises, at the latest when the
result is built. -/
def mailAddress : Value F → Option (Option String)
  | .str s => some (if contains s "@" then some s else none)
  | .list xs => if xs.any (·.eqStr "@") then none else some none
  | .dict d => if (Dict.get? d "@").isSome then none else some none
  | v => if v.truthy then none else some none

/-- The body of the loop of `_get_site_member_emails`. -/
def addMemberEmails (emails : List String) (perm : Dict F) : Option (List String) := do
  let granted ← (dictField perm "grantedToV2").toOption
  let user ← (dictField granted "user").toOption
  let email ← mailAddress ((user.get "email").orElse (user.get "userPrincipalName"))
  let emails := emails ++ email.toList
  let siteUser ← (dictField granted "siteUser").toOption
  let suEmail ← mailAddress (siteUser.get "email")
  pure (emails ++ suEmail.toList.filter (· ∉ emails))

/-- `_get_site_member_emails` -/
def getSiteMemberEmails (answer : ℕ × Dict F) : Option (List String × String) :=
  if answer.1 = 403 then some ([], "PERMISSIONS_INSUFFICIENT")
  else if answer.1 ≠ 200 then some ([], "HTTP_" ++ toString answer.1)
  else do
    let emails ← (← answerItems answer.2).foldlM addMemberEmails []
    pure (emails, if emails ≠ [] then "ok" else "empty")

end Answers

/-! ### One pair -/

/-- `OdooSitePairResult` -/
structure OdooSitePairResult extends MatchedPair where
  internalKey : String
  projectMemberEmails : List String
  memberReadStatus : String
  autoSaved : Bool
  saveSkippedReason : Option String

/-- The project whose complete row holds the site. -/
def existingCode (rows : List (MappingRow F)) (siteId : String) : Option String :=
  (rows.find? fun r => (r.sharepoint.getD "site_id" (.str "")).eqStr siteId &&
    decide (r.mappingStatus = "complete")).map (·.projectCode)

/-- Why a pair is not saved. -/
def saveSkippedReason (rows : List (MappingRow F)) (siteId : String) (driveId : Option String) :
    Option String :=
  if siteId = "" then some "site_id is empty"
  else if driveId.getD "" = "" then some "drive_id could not be determined"
  else if siteId ∈ confirmedSiteIds rows then
    some ("site_id already in MANUALLY_CONFIRMED mapping (project_code=" ++
      (existingCode rows siteId).getD "None" ++ ")")
  else none

/-- `drive_id`, validated as a string or `None`. -/
def driveIdOf : Value F → Option (Option String)
  | .null => some none
  | .str s => some (some s)
  | _ => none

/-- What `_process_one_pair` returns once both requests are answered. -/
def pairResult (rows : List (MappingRow F)) (proj : OdooProjectInfo) (site : SharePointSiteInfo)
    (drive : Value F) (members : List String × String) : Option OdooSitePairResult := do
  let driveId ← driveIdOf drive
  let reason := saveSkippedReason rows site.siteId driveId
  pure
    { odooProjectId := proj.odooId
      odooProjectName := proj.name
      sharepointSiteId := site.siteId
      sharepointDriveId := driveId
      sharepointSiteName := site.siteName
      sharepointDisplayName := site.displayName
      sharepointWebUrl := site.webUrl
      internalKey := "odoo-" ++ toString proj.odooId
      projectMemberEmails := members.1
      memberReadStatus := members.2
      autoSaved := reason.isNone
      saveSkippedReason := reason }

/-- `_process_one_pair` -/
def processOnePair [Floats F] (rows : List (MappingRow F)) (proj : OdooProjectInfo)
    (site : SharePointSiteInfo) : Attempt GraphRequest (GraphAnswer F) OdooSitePairResult := do
  let drives ← Attempt.await (.drives site.siteId)
  let drive ← Attempt.ofOption (getDocumentLibraryDrive drives)
  let permissions ← Attempt.await (.permissions site.siteId)
  let members ← Attempt.ofOption (getSiteMemberEmails permissions)
  Attempt.ofOption (pairResult rows proj site drive members)

/-! ### A run -/

/-- What a run reads before it matches. -/
structure SyncSources (F : Type) where
  odooConfigured : Bool
  /-- The records of the Odoo call, unless it raises. -/
  odooRecords : Option (List (Dict F))
  token : String
  tokenRoles : List String
  /-- The answer to the search for sites, unless it raises. -/
  sitesAnswer : Option (ℕ × Dict F)

/-- A run of the endpoint: what it finds, and how it goes on. -/
structure SyncRun (F S : Type) where
  rows : List (MappingRow F)
  sources : SyncSources F
  /-- How Microsoft Graph answers. -/
  act : (o : GraphRequest) → S → Option (GraphAnswer F o) × S
  graph : S
  /-- The order in which the pairs are given their turns. -/
  schedule : List ℕ
  /-- The saves before an await of the endpoint raises, or more than there are. -/
  saves : ℕ

section Run

variable [Floats F] [Text] (nfc : String → String) {S : Type}

/-- The projects and the sites, `none` inside if the run is blocked, outside if it raises. -/
def SyncSources.read (sources : SyncSources F) :
    Option (Option (List OdooProjectInfo × List SharePointSiteInfo)) := do
  let projects ← match sources.odooConfigured, sources.odooRecords with
    | true, some raw => (odooProjects nfc raw).toOption.map some
    | _, _ => some none
  let sites ← if sources.token ≠ "" ∧ "Sites.Read.All" ∈ sources.tokenRoles then do
      let raw ← enumerateAllSites (← sources.sitesAnswer)
      (raw.mapM (sharePointSite nfc)).map some
    else some none
  pure (projects.bind fun projects => sites.map fun sites => (projects, sites))

/-- What `asyncio.gather` returns for the exact pairs. -/
def SyncRun.gathered (run : SyncRun F S)
    (pairs : List (OdooProjectInfo × SharePointSiteInfo)) : Option (List OdooSitePairResult) :=
  Attempt.gathered ((Pool.mk run.graph (pairs.map fun pair =>
    (processOnePair run.rows pair.1 pair.2).run)).exec run.act run.schedule)

/-- `run_odoo_sharepoint_sync(…).matched_pairs`, unless the run raises. -/
def SyncRun.matchedPairs (run : SyncRun F S) : Option (List OdooSitePairResult) := do
  match ← run.sources.read nfc with
  | none => pure []
  | some (projects, sites) => run.gathered (matchProjectsToSites projects sites).exact

/-- The rows `sync_odoo_sharepoint` saves, in order. -/
def SyncRun.saved (run : SyncRun F S) : List (MappingRow F) :=
  ((((run.matchedPairs nfc).getD []).filter (·.autoSaved)).map (·.row)).take run.saves

/-! ### What a pair comes to -/

/-- The result is of this project and site, and is to be saved if nothing speaks against it. -/
structure ResultOf (rows : List (MappingRow F)) (pair : OdooProjectInfo × SharePointSiteInfo)
    (result : OdooSitePairResult) : Prop where
  project : result.odooProjectId = pair.1.odooId
  site : result.sharepointSiteId = pair.2.siteId
  autoSaved : result.autoSaved = result.toMatchedPair.autoSaved (confirmedSiteIds rows)

omit [Floats F] [Text] in
private theorem isNone_saveSkippedReason (rows : List (MappingRow F)) (siteId : String)
    (driveId : Option String) :
    (saveSkippedReason rows siteId driveId).isNone =
      (decide (siteId ≠ "") && decide (driveId.getD "" ≠ "") &&
        decide (siteId ∉ confirmedSiteIds rows)) := by
  unfold saveSkippedReason
  split
  · next h => simp [h]
  · next h =>
    split
    · next h' => simp [h']
    · next h' => split <;> simp_all

omit [Floats F] [Text] in
private theorem resultOf_pairResult {rows : List (MappingRow F)} {proj : OdooProjectInfo}
    {site : SharePointSiteInfo} {drive : Value F} {members : List String × String}
    {result : OdooSitePairResult} (h : pairResult rows proj site drive members = some result) :
    ResultOf rows (proj, site) result := by
  obtain ⟨driveId, -, h⟩ := Option.bind_eq_some_iff.mp h
  obtain rfl := Option.some.inj h
  exact ⟨rfl, rfl, isNone_saveSkippedReason rows site.siteId driveId⟩

omit [Text] in
/-- Whatever Microsoft Graph answers, the task returns a result of its pair. -/
theorem ensures_processOnePair (rows : List (MappingRow F)) (proj : OdooProjectInfo)
    (site : SharePointSiteInfo) :
    Attempt.Ensures (fun _ _ => True) True (ResultOf rows (proj, site))
      (processOnePair rows proj site) := by
  refine (Attempt.ensures_await fun _ => trivial).bind fun drives _ => ?_
  refine (Attempt.ensures_ofOption trivial fun drive _ => trivial).bind
    fun drive (_ : True) => ?_
  refine (Attempt.ensures_await fun _ => trivial).bind fun permissions _ => ?_
  refine (Attempt.ensures_ofOption trivial fun members _ => trivial).bind
    fun members (_ : True) => ?_
  exact Attempt.ensures_ofOption trivial fun result h => resultOf_pairResult h

omit [Text] in
/-- What a run returns: for each exact pair, in order, a result of it. -/
theorem resultsOf_gathered {run : SyncRun F S}
    {pairs : List (OdooProjectInfo × SharePointSiteInfo)} {results : List OdooSitePairResult}
    (h : run.gathered pairs = some results) : List.Forall₂ (ResultOf run.rows) pairs results :=
  Attempt.results_of_gathered (fun _ _ => trivial)
    (fun pair => ensures_processOnePair run.rows pair.1 pair.2) h

omit [Floats F] [Text] in
/-- The results that are to be saved, as an edit of the table writes them. -/
theorem written_of_resultsOf [Floats F] [Text] {rows : List (MappingRow F)}
    {pairs : List (OdooProjectInfo × SharePointSiteInfo)} {results : List OdooSitePairResult}
    (h : List.Forall₂ (ResultOf rows) pairs results) (owncloudConfigured : Bool) :
    ((results.filter (·.autoSaved)).map (·.row) : List (MappingRow F)) =
      (Edit.sync (results.map (·.toMatchedPair))).written owncloudConfigured rows := by
  rw [Edit.written, List.filter_map, List.map_map]
  have hfilter : results.filter (·.autoSaved) =
      results.filter ((·.autoSaved (confirmedSiteIds rows)) ∘ (·.toMatchedPair)) := by
    induction h with
    | nil => rfl
    | cons hresult _ ih => rw [List.filter_cons, List.filter_cons, ih, hresult.autoSaved]; rfl
  rw [hfilter]
  rfl

omit [Floats F] [Text] in
/-- The sites of the results are those of the pairs. -/
theorem sites_of_resultsOf {rows : List (MappingRow F)}
    {pairs : List (OdooProjectInfo × SharePointSiteInfo)} {results : List OdooSitePairResult}
    (h : List.Forall₂ (ResultOf rows) pairs results) :
    results.map (·.sharepointSiteId) = pairs.map (·.2.siteId) := by
  induction h with
  | nil => rfl
  | cons hresult _ ih => rw [List.map_cons, List.map_cons, ih, hresult.site]

/-- The sites of the rows a run saves are sites of its exact pairs, in their order. Pairs whose site
could not be read are left out, and so are those behind the limit. -/
theorem sites_saved {run : SyncRun F S} {projects : List OdooProjectInfo}
    {sites : List SharePointSiteInfo}
    (hread : run.sources.read nfc = some (some (projects, sites))) :
    ((run.saved nfc).map (·.sharepoint.get "site_id")).Sublist
      ((matchProjectsToSites projects sites).exact.map fun pair => .str pair.2.siteId) := by
  cases h : run.matchedPairs nfc with
  | none =>
    rw [SyncRun.saved, h, Option.getD_none, List.filter_nil, List.map_nil, List.take_nil]
    exact List.nil_sublist _
  | some results =>
    have hgathered : run.gathered (matchProjectsToSites projects sites).exact = some results := by
      simpa only [SyncRun.matchedPairs, hread, Option.bind_eq_bind, Option.bind_some] using h
    have hsites := sites_of_resultsOf (resultsOf_gathered hgathered)
    have hall : ((results.map (·.row)).map fun row : MappingRow F => row.sharepoint.get "site_id") =
        (matchProjectsToSites projects sites).exact.map fun pair => .str pair.2.siteId := by
      calc (results.map (·.row)).map (fun row : MappingRow F => row.sharepoint.get "site_id")
        _ = (results.map (·.sharepointSiteId)).map Value.str := by
          rw [List.map_map, List.map_map]
          rfl
        _ = _ := by
          rw [hsites, List.map_map]
          rfl
    rw [← hall, SyncRun.saved, h]
    exact ((List.take_sublist _ _).trans (List.filter_sublist.map _)).map _

/-! ### One mapping for a site -/

/-- The matching is one to one and complete, it is the same in every order, and no run that has
read these projects and sites saves two mappings of one site. -/
structure MatchesOneToOne (F : Type) [Floats F] (projects : List OdooProjectInfo)
    (sites : List SharePointSiteInfo) : Prop where
  oneToOne : OneToOne (matchProjectsToSites projects sites).exact
  partition : ((matchProjectsToSites projects sites).exact.map Prod.fst ++
    ((matchProjectsToSites projects sites).noMatch ++
      (matchProjectsToSites projects sites).multi)).Perm projects
  anyOrder : ∀ projects' sites', projects'.Perm projects → sites'.Perm sites →
    (matchProjectsToSites projects' sites').exact.Perm
      (matchProjectsToSites projects sites).exact ∧
    (matchProjectsToSites projects' sites').noMatch.Perm
      (matchProjectsToSites projects sites).noMatch ∧
    (matchProjectsToSites projects' sites').multi.Perm (matchProjectsToSites projects sites).multi
  saves : ∀ (S : Type) (run : SyncRun F S), run.sources.read nfc = some (some (projects, sites)) →
    (run.saved nfc).Pairwise fun a b => a.sharepoint.get "site_id" ≠ b.sharepoint.get "site_id"

/-- What is matched one to one is saved once for a site. -/
theorem pairwise_saved {run : SyncRun F S} {projects : List OdooProjectInfo}
    {sites : List SharePointSiteInfo} (hread : run.sources.read nfc = some (some (projects, sites)))
    (h : OneToOne (matchProjectsToSites projects sites).exact) :
    (run.saved nfc).Pairwise fun a b =>
      a.sharepoint.get "site_id" ≠ b.sharepoint.get "site_id" := by
  refine List.pairwise_map.mp (List.Pairwise.sublist (sites_saved nfc hread) ?_)
  refine List.pairwise_map.mpr (h.imp fun {a b} hne heq => hne.2 ?_)
  exact Value.str.inj heq

/-- The matching is one to one just if the names keep projects and sites apart. That it is complete,
and the same in every order, holds in any case; what may fail is that a site is given to two
projects. -/
theorem matchesOneToOne_iff (projects : List OdooProjectInfo) (sites : List SharePointSiteInfo) :
    MatchesOneToOne nfc F projects sites ↔ Apart projects sites := by
  constructor
  · exact fun h => (oneToOne_iff projects sites).mp h.oneToOne
  · intro h
    have hone := (oneToOne_iff projects sites).mpr h
    exact
      { oneToOne := hone
        partition := matching_partition projects sites
        anyOrder := fun _ _ hprojects hsites => matching_perm hprojects hsites
        saves := fun _ _ hread => pairwise_saved nfc hread hone }

end Run

/-! ### Two projects of one name -/

section Namesakes

open Py.Whole

/-- Two Odoo projects whose names differ in a space, and the site of the name. -/
def namesakeSources : SyncSources ℤ where
  odooConfigured := true
  odooRecords := some
    [[("id", .int 1), ("name", .str "Tower A")], [("id", .int 2), ("name", .str "Tower  A")]]
  token := "token"
  tokenRoles := ["Sites.Read.All"]
  sitesAnswer := some (200, [("value", .list [.dict
    [("id", .str "site-1"), ("displayName", .str "Tower A"), ("name", .str "TowerA"),
      ("webUrl", .str "https://example.sharepoint.com/sites/test")]])])

/-- A run over them in which the site has a document library. -/
def namesakeRun : SyncRun ℤ Unit where
  rows := []
  sources := namesakeSources
  act
    | .drives _, s => (some (200, [("value", .list [.dict
        [("id", .str "drive-1"), ("driveType", .str "documentLibrary")]])]), s)
    | .permissions _, s => (some (403, []), s)
  graph := ()
  schedule := [0, 1, 0, 1]
  saves := 2

/-- The run saves the site for both projects. -/
theorem not_matchesOneToOne_namesakes : ∃ projects sites,
    namesakeRun.sources.read id = some (some (projects, sites)) ∧
    (namesakeRun.saved id).map (fun r => (r.projectCode, (r.sharepoint.get "site_id").toStr)) =
      [("odoo-1", "site-1"), ("odoo-2", "site-1")] ∧
    ¬ MatchesOneToOne id ℤ projects sites := by
  refine ⟨[⟨1, "Tower A", "Tower A"⟩, ⟨2, "Tower  A", "Tower A"⟩],
    [⟨"site-1", "Tower A", "TowerA", "Tower A", "https://example.sharepoint.com/sites/test"⟩],
    by decide +kernel, by decide +kernel, fun h => ?_⟩
  exact absurd h.oneToOne (by unfold OneToOne; decide)

end Namesakes

end DecisionCenter.Mappings
