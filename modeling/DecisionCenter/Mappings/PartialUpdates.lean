import DecisionCenter.Mappings.ColumnJson
import DecisionCenter.Mappings.Survival

/-!
# Updates of a part of a mapping

A confirmation writes the `sharepoint` and `email` columns of a row, an enrichment what it finds
in Microsoft Graph. Both take over the other columns from what `_row_to_source_mapping_detail`
reads of the row, after the migrations of `init_schema`. They keep a column just if it held the
dump of a model, and the migrations do not change what is read of it.

`Edit.keeps` has the columns an update is to keep. `KeepsRest` compares the table before the
request with the one after it, in these columns, of every row that the update rewrites; columns
are compared as JSON whose entries have no order. What an update writes for a project is read of
its row, but for the columns it owns (`rewrites_of_lastWritten`), and `stays_apply_iff` says
what becomes of one column of one row.

`keepsRest_iff` puts the columns together and is exact for all tables and both updates. Rows at
rest whose columns are all dumped lose nothing.

Which rows are dumped depends on who wrote them. The request handlers store dumps, and of the
seeding this is true in the columns which an enrichment is to keep; what a synchronisation
stores of Odoo has keys of its own and is no dump. Confirming the site of a row that the
synchronisation has stored drops what the row says of its match.
-/

namespace DecisionCenter.Mappings

open Py

variable {F : Type}

/-- The columns an update of a part is to keep. -/
def Edit.keeps : Edit → List Column
  | .confirm _ _ => [.projectName, .contractNumbers, .owncloud, .microsoft, .odoo, .relatedPeople,
      .enabledSources, .allowedRoles]
  | .enrich _ _ => [.sharepoint, .odoo, .contractNumbers, .allowedRoles]
  | _ => []

private theorem owns_of_keeps {e : Edit} {c : Column} (h : c ∈ e.keeps) : e.owns c = false := by
  cases e with
  | confirm code req => cases c <;> first | rfl | simp [Edit.keeps] at h
  | enrich requested results => cases c <;> first | rfl | simp [Edit.keeps] at h
  | _ => cases h

section Updates

variable [Text] [Floats F] (owncloudConfigured : Bool)

/-- The update passes its tests and writes the row of the project. -/
def Edit.Rewrites (rows : List (MappingRow F)) (code : String) : Edit → Prop
  | .confirm confirmed req => confirmed = code ∧ ∃ r body, getSourceMapping code rows = some r ∧
      r.body = .ok body ∧ (isPlaceholderSite body.sharepoint.siteId = true ∨
        body.sharepoint.siteId = req.siteId)
  | .enrich requested results => (requested.all (· ∈ verifiedCodes) ∧
      requested.all fun other => (getSourceMapping other rows).all fun r =>
        r.body.toOption.isSome) ∧
      (∃ result ∈ results.getD [], result.projectCode = code) ∧
      ∃ r body, getSourceMapping code rows = some r ∧ r.body = .ok body
  | _ => False

/-- The columns that the update is to keep are the same JSON in all rows afterwards. -/
def Edit.KeepsRest (file : MappingFile) (e : Edit) (rows : List (MappingRow F)) : Prop :=
  ∀ code r r', getSourceMapping code rows = some r →
    getSourceMapping code (e.apply owncloudConfigured (initSchema file rows)) = some r' →
    ∀ c ∈ e.keeps, c.Stays r r'

/-- In the rows that the update writes, the columns it is to keep are dumped, and the migrations do
not change what is read of them; in the others, the migrations leave these columns alone. -/
structure Edit.RestDumped (file : MappingFile) (e : Edit) (rows : List (MappingRow F)) : Prop where
  rewritten : ∀ code r, getSourceMapping code rows = some r → ∀ c ∈ e.keeps,
    e.Rewrites (initSchema file rows) code → c.Dumped r ∧ c.ReadAlike r (migrateRow file r)
  migrated : ∀ code r, getSourceMapping code rows = some r → ∀ c ∈ e.keeps,
    ¬ e.Rewrites (initSchema file rows) code → c.Stays r (migrateRow file r)

variable {owncloudConfigured} {rows : List (MappingRow F)} {e : Edit} {code : String}

/-- What an update writes for a project is read of its row, but for the columns it owns. The three
updates are looked at in turn, as each has its own guard. -/
theorem rewrites_of_lastWritten {w : MappingRow F} {c : Column} (hc : c ∈ e.keeps)
    (h : e.lastWritten owncloudConfigured rows code = some w) :
    e.Rewrites rows code ∧ ∃ r body merged, getSourceMapping code rows = some r ∧
      r.body = .ok body ∧ c.Agree body merged ∧ w = storedRow owncloudConfigured code merged := by
  obtain ⟨hmem, hcode⟩ := Edit.mem_written h
  cases e with
  | confirm confirmed req =>
    obtain ⟨r, body, hr, hbody, hguard, rfl⟩ := confirmRow_eq_some.mp (Option.mem_toList.mp hmem)
    obtain rfl : confirmed = code := hcode
    exact ⟨⟨rfl, r, body, hr, hbody, hguard⟩, r, body, _, hr, hbody,
      agree_confirm body (owns_of_keeps hc), rfl⟩
  | enrich requested results =>
    rw [Edit.written] at hmem
    split at hmem
    · next haccepted =>
      obtain ⟨result, hresult, hrow⟩ := List.mem_filterMap.mp hmem
      obtain ⟨r, body, hr, hbody, rfl⟩ := enrichRow_eq_some.mp hrow
      obtain rfl : result.projectCode = code := hcode
      exact ⟨⟨haccepted, ⟨result, hresult, rfl⟩, r, body, hr, hbody⟩, r, body, _, hr, hbody,
        agree_enrich result body (owns_of_keeps hc), rfl⟩
    · cases hmem
  | _ => cases hc

/-- An update that rewrites a project writes a row for it. -/
private theorem lastWritten_of_rewrites (h : e.Rewrites rows code) :
    ∃ w, e.lastWritten owncloudConfigured rows code = some w := by
  cases e with
  | confirm confirmed req =>
    obtain ⟨rfl, r, body, hr, hbody, hguard⟩ := h
    have hrow : confirmRow owncloudConfigured confirmed req rows =
        some (storedRow owncloudConfigured confirmed (req.merge body)) :=
      confirmRow_eq_some.mpr ⟨r, body, hr, hbody, hguard, rfl⟩
    refine exists_lastWritten (w := storedRow owncloudConfigured confirmed (req.merge body)) ?_
    rw [Edit.written, hrow]
    exact List.mem_singleton_self _
  | enrich requested results =>
    obtain ⟨haccepted, ⟨result, hresult, rfl⟩, r, body, hr, hbody⟩ := h
    refine exists_lastWritten
      (w := storedRow owncloudConfigured result.projectCode (result.merge body)) ?_
    rw [Edit.written, if_pos haccepted]
    exact List.mem_filterMap.mpr
      ⟨result, hresult, enrichRow_eq_some.mpr ⟨r, body, hr, hbody, rfl⟩⟩
  | _ => cases h

/-- What becomes of one column of one row: the migrations come first, and what they leave is read
and dumped where the row is rewritten. -/
theorem stays_apply_iff {file : MappingFile} {r : MappingRow F} {c : Column}
    (hr : getSourceMapping code rows = some r) (hc : c ∈ e.keeps) :
    (∀ r', getSourceMapping code (e.apply owncloudConfigured (initSchema file rows)) = some r' →
      c.Stays r r') ↔
      (e.Rewrites (initSchema file rows) code → c.Dumped r ∧ c.ReadAlike r (migrateRow file r)) ∧
      (¬ e.Rewrites (initSchema file rows) code → c.Stays r (migrateRow file r)) := by
  have hmigrated : getSourceMapping code (initSchema file rows) = some (migrateRow file r) := by
    have hne : rows ≠ [] := by
      rintro rfl
      cases hr
    rw [getSourceMapping_initSchema hne, hr, Option.map_some]
  rw [e.getSourceMapping_apply, hmigrated]
  cases hw : e.lastWritten owncloudConfigured (initSchema file rows) code with
  | none =>
    have hnot : ¬ e.Rewrites (initSchema file rows) code := by
      intro h
      obtain ⟨w, hsome⟩ : ∃ w, e.lastWritten owncloudConfigured (initSchema file rows) code =
          some w := lastWritten_of_rewrites h
      cases hw.symm.trans hsome
    simp [hnot]
  | some w =>
    obtain ⟨hrewrites, m, body, merged, hm, hbody, hagree, rfl⟩ := rewrites_of_lastWritten hc hw
    obtain rfl := Option.some.inj (hmigrated.symm.trans hm)
    have hrow : c.Stays r (storedRow owncloudConfigured code merged) ↔
        c.Dumped r ∧ c.ReadAlike r (migrateRow file r) :=
      Column.stays_row_iff (.of_body hbody c) hagree code _
    simp [hrewrites, hrow]

/-- What is dumped, in the rows it writes, and left alone by the migrations is kept. -/
theorem Edit.RestDumped.keepsRest {file : MappingFile} (h : e.RestDumped file rows) :
    e.KeepsRest owncloudConfigured file rows := fun code r r' hr hr' c hc =>
  (stays_apply_iff hr hc).mpr ⟨h.rewritten code r hr c hc, h.migrated code r hr c hc⟩ r' hr'

/-- An update of a part keeps the rest just if the rest is dumped, in the rows it writes, and is
left alone by the migrations. What is no dump is read by the keys that the model has, and loses the
others when it is written back. -/
theorem keepsRest_iff (owncloudConfigured : Bool) (file : MappingFile) (e : Edit)
    (rows : List (MappingRow F)) :
    e.KeepsRest owncloudConfigured file rows ↔ e.RestDumped file rows := by
  constructor
  · intro h
    have hrow : ∀ code r, getSourceMapping code rows = some r → ∀ c ∈ e.keeps, _ :=
      fun code r hr c hc => (stays_apply_iff hr hc).mp fun r' hr' => h code r r' hr hr' c hc
    exact ⟨fun code r hr c hc => (hrow code r hr c hc).1,
      fun code r hr c hc => (hrow code r hr c hc).2⟩
  · exact Edit.RestDumped.keepsRest

/-- Rows at rest whose columns are all dumped lose nothing. -/
theorem keepsRest_of_atRest (owncloudConfigured : Bool) {file : MappingFile} (e : Edit)
    (h : ∀ code r, getSourceMapping code rows = some r →
      AtRest file r ∧ ∀ c ∈ e.keeps, c.Dumped r) :
    e.KeepsRest owncloudConfigured file rows := by
  refine Edit.RestDumped.keepsRest ⟨?_, ?_⟩
  · intro code r hr c hc _
    obtain ⟨hrest, hdumped⟩ := h code r hr
    refine ⟨hdumped c hc, ?_⟩
    rw [migrateRow_eq_self_iff.mpr hrest]
    exact fun _ h => h
  · intro code r hr c _ _
    rw [migrateRow_eq_self_iff.mpr (h code r hr).1]
    exact .refl r c

end Updates

/-! ### What the writers store -/

/-- What an enrichment is to keep is dumped by the seeding. -/
theorem dumped_seedRow (e : FileEntry) {requested : List String}
    {results : Option (List EmailGroupProjectResult)} {c : Column}
    (hc : c ∈ (Edit.enrich requested results).keeps) : c.Dumped (seedRow e : MappingRow F) := by
  refine ⟨{ contractNumbers := e.contractNumbers
            sharepoint := ⟨e.sharepoint.siteId.getD "", e.sharepoint.driveId.getD "",
              e.sharepoint.rootPath.getD ""⟩
            odoo := ⟨e.odoo.projectModel.getD "", e.odoo.costModel.getD "",
              e.odoo.projectExternalId.getD "", e.odoo.projectName.getD "",
              e.odoo.analyticAccountId.getD ""⟩ }, ?_⟩
  cases c
  case sharepoint => exact Dict.SameJson.of_eq rfl
  case odoo => exact Dict.SameJson.of_eq rfl
  case contractNumbers => rfl
  case allowedRoles => rfl
  all_goals simp [Edit.keeps] at hc

/-- What a synchronisation stores of Odoo is not. -/
theorem not_dumped_odoo_row (pair : MatchedPair) :
    ¬ Column.odoo.Dumped (pair.row : MappingRow F) := by
  rintro ⟨b, hstays⟩
  have hsame : (pair.row : MappingRow F).odoo.SameJson b.odoo.dump := hstays
  obtain ⟨_, haccount, -⟩ := hsame.get? (k := "analytic_account_id") rfl
  cases haccount

/-! ### A confirmation of a synchronised row -/

section Whole

open Py.Whole

def bridgePair : MatchedPair where
  odooProjectId := 42
  odooProjectName := "Bridge"
  sharepointSiteId := "contoso,bridge,1"
  sharepointDriveId := some "drive-1"
  sharepointSiteName := "bridge"
  sharepointDisplayName := "Bridge"
  sharepointWebUrl := "https://contoso/sites/bridge"

/-- The table after the pair has been saved. -/
def synchronizedTable : List (MappingRow ℤ) :=
  (Edit.sync [bridgePair]).apply false (initSchema [] [])

/-- Confirming the site that a synchronised row has drops what the row says of its match. The typed
view of the column does not know these keys. -/
theorem not_keepsRest_synchronized :
    ¬ (Edit.confirm "odoo-42"
      { siteId := "contoso,bridge,1"
        driveId := "drive-1"
        siteId_ne := by decide
        driveId_ne := by decide }).KeepsRest false [] synchronizedTable := by
  intro h
  let method (r : MappingRow ℤ) := (Value.dict r.odoo).shapeAt [.key "mapping_method"]
  have hbefore : (getSourceMapping "odoo-42" synchronizedTable).map method =
      some (some (.str "ODOO_MAIN_NAME_EQUALS_SHAREPOINT_SITE_NAME")) := by
    decide +kernel
  have hafter : (getSourceMapping "odoo-42" ((Edit.confirm "odoo-42"
      { siteId := "contoso,bridge,1"
        driveId := "drive-1"
        siteId_ne := by decide
        driveId_ne := by decide }).apply false (initSchema [] synchronizedTable))).map method =
      some none := by
    decide +kernel
  obtain ⟨r, hr, hmethod⟩ := Option.map_eq_some_iff.mp hbefore
  obtain ⟨r', hr', hmethod'⟩ := Option.map_eq_some_iff.mp hafter
  have hodoo : r.odoo.SameJson r'.odoo := h "odoo-42" r r' hr hr' .odoo (by simp [Edit.keeps])
  cases (hmethod.symm.trans (hodoo [.key "mapping_method"])).trans hmethod'

end Whole

end DecisionCenter.Mappings
