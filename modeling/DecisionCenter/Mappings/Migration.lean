import DecisionCenter.Mappings.Store

/-!
# The migration of a row

`init_schema` runs again and again, so what matters of its migrations is where a row comes to
rest. Of the columns that route a project's retrieval, the statements for the verified projects
rewrite three from the file each time, and leave three alone once an enrichment has been
completed. A row that has been migrated is not changed in these columns by another migration.

The two kinds are types of their own: `Coordinates` are the columns that are always rewritten,
`Enrichment` those which a completed enrichment protects, and `Routing` has both. A part of a
row on which each statement acts by itself can be followed through all of them
(`view_foldl_repairRow`), so that nothing need be said of the other columns.

The condition for the protected columns is a function of these columns alone, the enrichment
status within them. That makes the statement idempotent: where it rewrites them, they are those
of the file, and where it does not, they are as they were.

`routing_migrateRow` says where a migrated row comes to rest, and
`routing_migrateRow_migrateRow` that it stays there. Whole rows are the subject of
`Mappings.Survival`; here it is the retrieval that matters.
-/

namespace DecisionCenter.Mappings

open Py

variable {F : Type}

/-- The columns the migration always rewrites. -/
structure Coordinates (F : Type) where
  sharepoint : Dict F
  email : Dict F
  odoo : Dict F

/-- The columns the migration keeps from a completed enrichment. -/
structure Enrichment (F : Type) where
  microsoft : Dict F
  enabledSources : List String
  mappingStatus : String

/-- The columns that decide what the retrieval of a project may read. -/
structure Routing (F : Type) where
  coordinates : Coordinates F
  enrichment : Enrichment F

/-- The routing columns of a row. -/
def MappingRow.routing (r : MappingRow F) : Routing F :=
  ⟨⟨r.sharepoint, r.email, r.odoo⟩, ⟨r.microsoft, r.enabledSources, r.mappingStatus⟩⟩

/-- The coordinates of an entry of the file. -/
def FileEntry.coordinates (e : FileEntry) : Coordinates F :=
  ⟨e.sharepointColumn, e.emailColumn, e.odooColumn⟩

/-- The other routing columns of an entry. -/
def FileEntry.enrichment (e : FileEntry) : Enrichment F :=
  ⟨e.microsoftColumn, e.enabledSources.getD ["sharepoint", "odoo"], e.statusColumn⟩

/-- The enrichment is complete. -/
def Enrichment.done (x : Enrichment F) : Bool := isEnriched x.microsoft

/-- The entries that the migration writes to the row of a project. -/
def repairs (file : MappingFile) (code : String) : List FileEntry :=
  file.filter fun e => decide (e.projectCode ∈ verifiedCodes ∧ code = e.projectCode)

private theorem routing_fillName (r : MappingRow F) (e : FileEntry) :
    (fillName r e).routing = r.routing := by
  rw [fillName]
  split <;> rfl

private theorem routing_repairRow (r : MappingRow F) (e : FileEntry) :
    (repairRow r e).routing =
      if e.projectCode ∈ verifiedCodes ∧ r.projectCode = e.projectCode then
        ⟨e.coordinates, if r.routing.enrichment.done then r.routing.enrichment else e.enrichment⟩
      else r.routing := by
  rw [repairRow]
  split
  · cases h : isEnriched r.microsoft <;>
      simp [MappingRow.routing, Enrichment.done, h, FileEntry.coordinates, FileEntry.enrichment]
  · rfl

/-- What the statements of the file do to a part of a row, where each statement acts on the part
by itself. -/
theorem view_foldl_repairRow {V : Type} (view : MappingRow F → V) (f : V → FileEntry → V)
    (hview : ∀ r e, view (repairRow r e) =
      if e.projectCode ∈ verifiedCodes ∧ r.projectCode = e.projectCode then f (view r) e
      else view r)
    (file : MappingFile) (r : MappingRow F) :
    view (file.foldl repairRow r) = (repairs file r.projectCode).foldl f (view r) := by
  induction file generalizing r with
  | nil => rfl
  | cons e file ih =>
    rw [List.foldl_cons, ih, projectCode_repairRow, hview]
    by_cases he : e.projectCode ∈ verifiedCodes ∧ r.projectCode = e.projectCode
    · rw [if_pos he, repairs, repairs, List.filter_cons_of_pos (by simpa using he)]
      rfl
    · rw [if_neg he, repairs, repairs, List.filter_cons_of_neg (by simpa using he)]

/-- Where a migrated row comes to rest: its coordinates are those of the last repair, and its
enrichment is the first one that is done. -/
theorem routing_migrateRow (file : MappingFile) (r : MappingRow F) :
    (migrateRow file r).routing =
      ⟨(repairs file r.projectCode).foldl (fun _ e => e.coordinates) r.routing.coordinates,
        Table.settle Enrichment.done r.routing.enrichment
          ((repairs file r.projectCode).map FileEntry.enrichment)⟩ := by
  have hnames : ∀ r : MappingRow F, (file.foldl fillName r).routing = r.routing := by
    induction file with
    | nil => exact fun r => rfl
    | cons e file ih => exact fun r => (ih (fillName r e)).trans (routing_fillName r e)
  have hcode : (file.foldl fillName r).projectCode = r.projectCode :=
    projectCode_foldl_fillName file r
  have hrepair := view_foldl_repairRow MappingRow.routing
    (fun x e => ⟨e.coordinates, if x.enrichment.done then x.enrichment else e.enrichment⟩)
    routing_repairRow file (file.foldl fillName r)
  rw [migrateRow, hrepair, hcode, hnames]
  generalize repairs file r.projectCode = es
  -- the two halves of the routing columns are taken over side by side
  induction es using List.reverseRecOn with
  | nil => rfl
  | append_singleton es e ih =>
    rw [List.foldl_append, ih]
    simp [Table.settle]

/-- A second migration leaves the routing columns as they are. -/
theorem routing_migrateRow_migrateRow (file : MappingFile) (r : MappingRow F) :
    (migrateRow file (migrateRow file r)).routing = (migrateRow file r).routing := by
  rw [routing_migrateRow file (migrateRow file r), projectCode_migrateRow, routing_migrateRow,
    Table.settle_settle]
  -- the coordinates are those of the last entry, if there is one
  cases repairs file r.projectCode <;> rfl

end DecisionCenter.Mappings
