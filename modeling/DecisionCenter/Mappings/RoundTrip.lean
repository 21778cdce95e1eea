import DecisionCenter.Mappings.ColumnJson
import DecisionCenter.Mappings.Enforcement
import DecisionCenter.Mappings.Protection

/-!
# What a `PUT` stores is read back

The admin's `PUT` (`apps/edr/app.py`) stores the dumps of a request and answers with what
`_row_to_source_mapping_detail` makes of the row. The fields of the answer are the ones
requested, in whatever order the database keeps the entries of the JSON columns, and to `PUT`
them again changes no row.

`StoresAlike` relates rows that store the same JSON, the order of entries in objects apart, so
that the row which the database gives back is any row that stores alike. What is read of it is
the request (`rowToSourceMappingDetail_of_storesAlike`), by the lemmas on single columns in
`Mappings.ColumnJson`.

The answer has a status besides, computed from the fields as the stored one was. The request may
name a project that the migrations rewrite, but a `PUT` writes after them and reads its own row
before the next `init_schema`, so that the answer is not concerned (`getSourceMapping_put`).

`RoundTrip` then has the parts: the answer has the fields of the request and the status that
goes with them, the other projects keep what `init_schema` leaves them, and a second `PUT` of
what was answered leaves the same table. `roundTrip_put` proves it for every body, code, file
and table.
-/

namespace DecisionCenter.Mappings

open Py

variable {F : Type}

/-- The two rows store the same, the order of entries in JSON apart. -/
structure MappingRow.StoresAlike (r r' : MappingRow F) : Prop where
  code : r.projectCode = r'.projectCode
  status : r.mappingStatus = r'.mappingStatus
  columns : ∀ c : Column, c.Stays r r'

/-- A row stores like itself. -/
theorem MappingRow.StoresAlike.refl (r : MappingRow F) : r.StoresAlike r :=
  ⟨rfl, rfl, Column.Stays.refl r⟩

section Put

variable [Text] [Floats F] (owncloudConfigured : Bool) (file : MappingFile)

/-- `upsert_source_mapping` (`apps/edr/app.py`): the table then, and the answer; no row is the
error 500. -/
def putSourceMapping (code : String) (body : SourceMappingUpsertRequest)
    (rows : List (MappingRow F)) :
    List (MappingRow F) × Option (Except Error SourceMappingDetail) :=
  let rows' := (Edit.put code body).apply owncloudConfigured (initSchema file rows)
  (rows', (getSourceMapping code rows').map (rowToSourceMappingDetail owncloudConfigured))

/-- The detail with the fields of a request, and the status computed for it. -/
def SourceMappingUpsertRequest.detail (code : String) (body : SourceMappingUpsertRequest) :
    SourceMappingDetail :=
  { body with
    projectCode := code
    mappingStatus := (computeMappingStatus owncloudConfigured body).1 }

/-- What holds of a `PUT` and of a second one with the fields of its answer. -/
structure RoundTrip (code : String) (body : SourceMappingUpsertRequest)
    (rows : List (MappingRow F)) : Prop where
  answer : (putSourceMapping owncloudConfigured file code body rows).2 =
    some (.ok (body.detail owncloudConfigured code))
  /-- The row is shown so whenever it is read. -/
  shown : ∃ r, getSourceMapping code (putSourceMapping owncloudConfigured file code body rows).1 =
      some r ∧
    ∀ r' : MappingRow F, r'.StoresAlike r →
      rowToSourceMappingDetail owncloudConfigured r' = .ok (body.detail owncloudConfigured code)
  /-- To `PUT` the answer again leaves every row of the table as it is. -/
  again : ∀ detail,
    (putSourceMapping owncloudConfigured file code body rows).2 = some (.ok detail) →
    ∀ other, getSourceMapping other (putSourceMapping owncloudConfigured file code
        detail.toSourceMappingUpsertRequest
        (putSourceMapping owncloudConfigured file code body rows).1).1 =
      getSourceMapping other (putSourceMapping owncloudConfigured file code body rows).1

variable {owncloudConfigured} {file} {code : String} {body : SourceMappingUpsertRequest}
  {rows : List (MappingRow F)}

/-- After a `PUT`, the project has the row of the request, and the others have what `init_schema`
leaves them. -/
theorem getSourceMapping_put (other : String) :
    getSourceMapping other (putSourceMapping owncloudConfigured file code body rows).1 =
      if code = other then some (storedRow owncloudConfigured code body)
      else getSourceMapping other (initSchema file rows) := by
  have hcode : (storedRow owncloudConfigured code body : MappingRow F).projectCode = code := rfl
  rw [putSourceMapping, Edit.getSourceMapping_apply, Edit.lastWritten, Edit.written,
    List.reverse_singleton, List.find?_singleton, hcode]
  by_cases h : code = other <;> simp [h]

/-- A row that stores what the request is dumped to is read as the request. Its status is computed
anew from the columns, as it is where the row is written. -/
theorem rowToSourceMappingDetail_of_storesAlike {r : MappingRow F}
    (h : r.StoresAlike (storedRow owncloudConfigured code body)) :
    rowToSourceMappingDetail owncloudConfigured r = .ok (body.detail owncloudConfigured code) := by
  have hreads : ∀ c : Column, c.Reads r body := fun c => (h.columns c).reads
  have hbody : r.body = .ok body :=
    body_eq_ok.mpr
      { projectName := hreads .projectName
        contractNumbers := hreads .contractNumbers
        sharepoint := hreads .sharepoint
        owncloud := hreads .owncloud
        email := hreads .email
        microsoft := hreads .microsoft
        odoo := hreads .odoo
        relatedPeople := hreads .relatedPeople
        enabledSources := hreads .enabledSources
        allowedRoles := hreads .allowedRoles }
  have hactive : r.mappingStatus ≠ "disabled" := h.status ▸ mappingStatus_storedRow_ne code body
  have hcode : r.projectCode = code := h.code
  rw [rowToSourceMappingDetail_of_body hbody, if_neg hactive, hcode]
  rfl

private theorem answer_put : (putSourceMapping owncloudConfigured file code body rows).2 =
    some (.ok (body.detail owncloudConfigured code)) := by
  have hrow : getSourceMapping code
      ((Edit.put code body).apply owncloudConfigured (initSchema file rows)) =
        some (storedRow owncloudConfigured code body) :=
    (getSourceMapping_put code).trans (if_pos rfl)
  rw [putSourceMapping, hrow, Option.map_some, rowToSourceMappingDetail_of_storesAlike (.refl _)]

omit [Text] [Floats F] in
/-- What `init_schema` leaves, it leaves as it is. -/
theorem map_migrateRow_initSchema (other : String) :
    (getSourceMapping other (initSchema file rows)).map (migrateRow file) =
      getSourceMapping other (initSchema file rows) := by
  have hmigrated : getSourceMapping other (initSchema file rows) =
      (getSourceMapping other (seedSourceMappings file rows)).map (migrateRow file) :=
    Table.lookup_map _ (projectCode_migrateRow file) other
  rw [hmigrated, Option.map_map]
  congr 1
  funext r
  exact migrateRow_migrateRow file r

/-- What a `PUT` stores is read back as the request, and the second `PUT` changes nothing. -/
theorem roundTrip_put (owncloudConfigured : Bool) (file : MappingFile) (code : String)
    (body : SourceMappingUpsertRequest) (rows : List (MappingRow F)) :
    RoundTrip owncloudConfigured file code body rows where
  answer := answer_put
  shown := ⟨storedRow owncloudConfigured code body, (getSourceMapping_put code).trans (if_pos rfl),
    fun _ => rowToSourceMappingDetail_of_storesAlike⟩
  again detail hdetail other := by
    obtain rfl := Except.ok.inj (Option.some.inj (answer_put.symm.trans hdetail))
    have hne : (putSourceMapping owncloudConfigured file code body rows).1 ≠ [] :=
      Table.upsert_ne_nil (storedRow owncloudConfigured code body) _
    have hsame : (body.detail owncloudConfigured code).toSourceMappingUpsertRequest = body := rfl
    rw [hsame, getSourceMapping_put, getSourceMapping_initSchema hne, getSourceMapping_put]
    split
    · rfl
    · exact map_migrateRow_initSchema other

end Put

end DecisionCenter.Mappings
