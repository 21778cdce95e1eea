import DecisionCenter.Data.Table
import DecisionCenter.Mappings.File

/-!
# The table of source mappings

The statements on `source_mappings` in `apps/edr/persistence/postgres_store.py`. `init_schema`
runs before every use of the table: it seeds an empty table from the mapping file, fills in
empty project names, and rewrites the rows of the two verified projects from the file, but for
the columns that a completed group enrichment has written.

The table is a list of rows with different project codes, and its statements are those of
`Data.Table`: a lookup by code, an upsert, and an update of one row. A row is seeded from an
entry of the file under a code that is not there yet, so that of two entries with one code the
first counts.

`migrateRow` is what the statements behind the seeding do to one row. They act on each row by
itself, so that `init_schema` is a map over the table once there are rows
(`getSourceMapping_initSchema`), and for an empty table the same behind the seeding. `repairRow`
is the statement of one verified project, in the order of the source, with the test for the
enrichment in the row itself.

That the migrations keep the codes apart is proved once, and only an empty file leaves the table
empty. Where migrated rows come to rest is the subject of `Mappings.Migration` and
`Mappings.Survival`.
-/

namespace DecisionCenter.Mappings

open Py

variable {F : Type}

/-- The row of a project. -/
abbrev getSourceMapping (code : String) (rows : List (MappingRow F)) : Option (MappingRow F) :=
  Table.lookup MappingRow.projectCode code rows

/-- `upsert_source_mapping` -/
def upsertSourceMapping (w : MappingRow F) (rows : List (MappingRow F)) : List (MappingRow F) :=
  Table.upsert MappingRow.projectCode w rows

/-- `disable_source_mapping` -/
def disableSourceMapping (code : String) (rows : List (MappingRow F)) : List (MappingRow F) :=
  (Table.set (fun r => decide (r.projectCode = code)) fun r =>
    { r with mappingStatus := "disabled" }).exec rows

/-! ### `init_schema` -/

/-- The row an entry is seeded as. -/
def seedRow (e : FileEntry) : MappingRow F where
  projectCode := e.projectCode
  projectName := if e.registryName ≠ "" then e.registryName else e.projectCode
  contractNumbers := e.contractNumbers
  sharepoint := e.sharepointColumn
  owncloud := [("base_path", .str (e.owncloudBasePath.getD ""))]
  email :=
    [("shared_mailboxes", strList e.email.sharedMailboxes),
      ("document_control_mailbox", .str e.email.documentControlMailbox),
      ("client_domains", strList []), ("consultant_domains", strList []),
      ("contractor_domains", strList [])]
  microsoft := e.microsoftColumn
  odoo := e.odooColumn
  relatedPeople := e.relatedPeople.dump
  enabledSources := e.enabledSources.getD ["sharepoint", "owncloud", "email", "odoo"]
  allowedRoles := []
  mappingStatus := e.statusColumn

/-- `INSERT … ON CONFLICT (project_code) DO NOTHING` -/
def insertSeed (rows : List (MappingRow F)) (e : FileEntry) : List (MappingRow F) :=
  if e.projectCode ∈ rows.map (·.projectCode) then rows else rows ++ [seedRow e]

/-- `_seed_source_mappings` -/
def seedSourceMappings (file : MappingFile) (rows : List (MappingRow F)) :
    List (MappingRow F) :=
  if rows.isEmpty then file.foldl insertSeed [] else rows

/-- One statement of `_migrate_project_names`, on a row. -/
def fillName (r : MappingRow F) (e : FileEntry) : MappingRow F :=
  if r.projectCode = e.projectCode ∧ r.projectName = "" ∧ e.displayName ≠ "" then
    { r with projectName := e.displayName }
  else r

/-- The codes of the verified projects. -/
def verifiedCodes : List String := ["PRJ-001", "PRJ-002"]

/-- The group membership status of a completed enrichment. -/
def isEnriched (microsoft : Dict F) : Bool :=
  ["GROUP_MEMBERS_READ", "GROUP_FOUND_NO_MEMBERS", "GROUP_FOUND_NO_MAILBOX"].any fun s =>
    (microsoft.get "group_membership_status").eqStr s

/-- One statement of `_migrate_verified_prj_source_mappings`, on a row. -/
def repairRow (r : MappingRow F) (e : FileEntry) : MappingRow F :=
  if e.projectCode ∈ verifiedCodes ∧ r.projectCode = e.projectCode then
    let kept := isEnriched r.microsoft
    { r with
      projectName := e.registryName
      contractNumbers := e.contractNumbers
      sharepoint := e.sharepointColumn
      owncloud := [("base_path", .str (e.owncloudBasePath.getD ""))]
      email := e.emailColumn
      microsoft := if kept then r.microsoft else e.microsoftColumn
      odoo := e.odooColumn
      relatedPeople := if kept then r.relatedPeople else e.relatedPeople.dump
      enabledSources := if kept then r.enabledSources
        else e.enabledSources.getD ["sharepoint", "odoo"]
      mappingStatus := if kept then r.mappingStatus else e.statusColumn }
  else r

/-- What the two migrations make of a row. -/
def migrateRow (file : MappingFile) (r : MappingRow F) : MappingRow F :=
  file.foldl repairRow (file.foldl fillName r)

/-- `init_schema` -/
def initSchema (file : MappingFile) (rows : List (MappingRow F)) : List (MappingRow F) :=
  (seedSourceMappings file rows).map (migrateRow file)

/-! ### The migrations keep the rows apart -/

@[simp] theorem projectCode_fillName (r : MappingRow F) (e : FileEntry) :
    (fillName r e).projectCode = r.projectCode := by
  rw [fillName]
  split <;> rfl

@[simp] theorem projectCode_repairRow (r : MappingRow F) (e : FileEntry) :
    (repairRow r e).projectCode = r.projectCode := by
  rw [repairRow]
  split <;> rfl

/-- Filling in names leaves the code of a row. -/
theorem projectCode_foldl_fillName (file : MappingFile) (r : MappingRow F) :
    (file.foldl fillName r).projectCode = r.projectCode := by
  induction file generalizing r with
  | nil => rfl
  | cons e file ih => rw [List.foldl_cons, ih, projectCode_fillName]

private theorem projectCode_foldl_repairRow (file : MappingFile) (r : MappingRow F) :
    (file.foldl repairRow r).projectCode = r.projectCode := by
  induction file generalizing r with
  | nil => rfl
  | cons e file ih => rw [List.foldl_cons, ih, projectCode_repairRow]

@[simp] theorem projectCode_migrateRow (file : MappingFile) (r : MappingRow F) :
    (migrateRow file r).projectCode = r.projectCode := by
  rw [migrateRow, projectCode_foldl_repairRow, projectCode_foldl_fillName]

/-! ### What `init_schema` leaves for a project -/

/-- Once there are rows, `init_schema` migrates each of them. -/
theorem initSchema_of_ne_nil {file : MappingFile} {rows : List (MappingRow F)} (h : rows ≠ []) :
    initSchema file rows = rows.map (migrateRow file) := by
  rw [initSchema, seedSourceMappings, if_neg]
  rwa [List.isEmpty_iff]

/-- Once there are rows, `init_schema` migrates the row of each project. -/
theorem getSourceMapping_initSchema {file : MappingFile} {rows : List (MappingRow F)}
    (h : rows ≠ []) (code : String) :
    getSourceMapping code (initSchema file rows) =
      (getSourceMapping code rows).map (migrateRow file) := by
  rw [initSchema_of_ne_nil h]
  exact Table.lookup_map rows (projectCode_migrateRow file) code

private theorem insertSeed_ne_nil (rows : List (MappingRow F)) (e : FileEntry) :
    insertSeed rows e ≠ [] := by
  rw [insertSeed]
  split
  · next h =>
    rintro rfl
    cases h
  · simp

private theorem foldl_insertSeed_ne_nil (file : MappingFile) {rows : List (MappingRow F)}
    (h : rows ≠ []) : file.foldl insertSeed rows ≠ [] := by
  induction file generalizing rows with
  | nil => exact h
  | cons e file ih => exact ih (insertSeed_ne_nil rows e)

/-- Only an empty file leaves the table empty. -/
theorem initSchema_nil_eq_nil {file : MappingFile} :
    initSchema file ([] : List (MappingRow F)) = [] ↔ file = [] := by
  rw [initSchema, seedSourceMappings, if_pos List.isEmpty_nil, List.map_eq_nil_iff]
  cases file with
  | nil => simp
  | cons e file =>
    exact iff_of_false (foldl_insertSeed_ne_nil file (insertSeed_ne_nil [] e))
      (List.cons_ne_nil e file)

/-- An entry seeds the row of its code, if there is none. -/
theorem getSourceMapping_insertSeed (rows : List (MappingRow F)) (e : FileEntry) (code : String) :
    getSourceMapping code (insertSeed rows e) =
      (getSourceMapping code rows).or
        (if e.projectCode = code then some (seedRow e) else none) := by
  rw [insertSeed]
  split
  · next h =>
    split
    · next hcode =>
      subst hcode
      cases hrow : getSourceMapping e.projectCode rows with
      | none => exact absurd h (Table.lookup_eq_none.mp hrow)
      | some r => rfl
    · rw [Option.or_none]
  · rw [getSourceMapping, Table.lookup, List.find?_append, List.find?_singleton]
    congr 1
    by_cases hcode : e.projectCode = code <;> simp [seedRow, hcode]

/-- A project is seeded from the first entry with its code. -/
theorem getSourceMapping_foldl_insertSeed (file : MappingFile) (rows : List (MappingRow F))
    (code : String) :
    getSourceMapping code (file.foldl insertSeed rows) =
      (getSourceMapping code rows).or
        ((file.find? fun e => e.projectCode = code).map seedRow) := by
  induction file generalizing rows with
  | nil => simp
  | cons e file ih =>
    rw [List.foldl_cons, ih, getSourceMapping_insertSeed, Option.or_assoc, List.find?_cons]
    congr 1
    by_cases hcode : e.projectCode = code <;> simp [hcode]

/-- In an empty table, a project has the migrated seed of its first entry. -/
theorem getSourceMapping_initSchema_nil (file : MappingFile) (code : String) :
    getSourceMapping code (initSchema file ([] : List (MappingRow F))) =
      (file.find? fun e => e.projectCode = code).map fun e => migrateRow file (seedRow e) := by
  rw [initSchema, seedSourceMappings, if_pos List.isEmpty_nil]
  refine (Table.lookup_map _ (projectCode_migrateRow file) code).trans ?_
  rw [← getSourceMapping, getSourceMapping_foldl_insertSeed, Option.map_or, Option.map_map]
  rfl

end DecisionCenter.Mappings
