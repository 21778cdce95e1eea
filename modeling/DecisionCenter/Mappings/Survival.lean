import DecisionCenter.Mappings.Admission

/-!
# What an admin leaves, after a restart

`init_schema` runs before every use of the table, and its migrations inspect the rows they
rewrite. A row is at rest when they leave it alone; what an edit leaves in the table stays
there, until the row is written again, exactly when it is at rest.

The columns of a row come in two kinds, by what the migration does to them: some are rewritten
from the file each time, and some are left alone once an enrichment has been completed. Both
kinds together are the row, but for the code and the allowed roles (`MappingRow.eq_of_columns`).
So `AtRest` is a condition on the columns: a row of a verified project says what the file says,
the enriched columns possibly apart, and any row has a name if the file has one for it.

A row that has been migrated once is at rest. What a later request makes of a row that it does
not write is therefore what the first migration makes of it (`getSourceMapping_step`).

`Survives` says that what an edit leaves for the projects it writes is found in the table after
any later requests that do not write these projects. `edit_survives_iff` is exact for all files,
tables and edits. Disabling a verified project is the failing case: the next `init_schema` sets
the status of the file.
-/

namespace DecisionCenter.Mappings

open Async.Run Py

variable {F : Type}

/-! ### The columns of a row, as the migration treats them -/

/-- The columns rewritten from the file each time. -/
structure Rewritten (F : Type) where
  projectName : String
  contractNumbers : List String
  sharepoint : Dict F
  owncloud : Dict F
  email : Dict F
  odoo : Dict F

/-- The columns left alone once an enrichment has been completed. -/
structure Kept (F : Type) where
  microsoft : Dict F
  relatedPeople : Dict F
  enabledSources : List String
  mappingStatus : String

def MappingRow.rewritten (r : MappingRow F) : Rewritten F :=
  ⟨r.projectName, r.contractNumbers, r.sharepoint, r.owncloud, r.email, r.odoo⟩

def MappingRow.kept (r : MappingRow F) : Kept F :=
  ⟨r.microsoft, r.relatedPeople, r.enabledSources, r.mappingStatus⟩

def FileEntry.rewritten (e : FileEntry) : Rewritten F :=
  ⟨e.registryName, e.contractNumbers, e.sharepointColumn,
    [("base_path", .str (e.owncloudBasePath.getD ""))], e.emailColumn, e.odooColumn⟩

def FileEntry.kept (e : FileEntry) : Kept F :=
  ⟨e.microsoftColumn, e.relatedPeople.dump, e.enabledSources.getD ["sharepoint", "odoo"],
    e.statusColumn⟩

/-- The enrichment is complete. -/
def Kept.done (x : Kept F) : Bool := isEnriched x.microsoft

/-- Beside the code, only the allowed roles are in neither. -/
theorem MappingRow.eq_of_columns {r r' : MappingRow F} (hcode : r.projectCode = r'.projectCode)
    (hroles : r.allowedRoles = r'.allowedRoles) (hrewritten : r.rewritten = r'.rewritten)
    (hkept : r.kept = r'.kept) : r = r' := by
  cases r
  cases r'
  cases hrewritten
  cases hkept
  cases hcode
  cases hroles
  rfl

/-! ### Where a row comes to rest -/

private theorem rewritten_repairRow (r : MappingRow F) (e : FileEntry) :
    (repairRow r e).rewritten =
      if e.projectCode ∈ verifiedCodes ∧ r.projectCode = e.projectCode then e.rewritten
      else r.rewritten := by
  rw [repairRow]
  split <;> rfl

private theorem kept_repairRow (r : MappingRow F) (e : FileEntry) :
    (repairRow r e).kept =
      if e.projectCode ∈ verifiedCodes ∧ r.projectCode = e.projectCode then
        if r.kept.done then r.kept else e.kept
      else r.kept := by
  rw [repairRow]
  split
  · cases h : isEnriched r.microsoft <;> simp [MappingRow.kept, Kept.done, h, FileEntry.kept]
  · rfl

private theorem allowedRoles_foldl_repairRow (file : MappingFile) (r : MappingRow F) :
    (file.foldl repairRow r).allowedRoles = r.allowedRoles := by
  induction file generalizing r with
  | nil => rfl
  | cons e file ih =>
    rw [List.foldl_cons, ih, repairRow]
    split <;> rfl

private theorem rewritten_foldl_repairRow (file : MappingFile) (r : MappingRow F) :
    (file.foldl repairRow r).rewritten =
      (((repairs file r.projectCode).getLast?).map FileEntry.rewritten).getD r.rewritten := by
  rw [view_foldl_repairRow MappingRow.rewritten (fun _ e => e.rewritten) rewritten_repairRow]
  generalize repairs file r.projectCode = es
  induction es using List.reverseRecOn with
  | nil => rfl
  | append_singleton es e ih => simp

private theorem kept_foldl_repairRow (file : MappingFile) (r : MappingRow F) :
    (file.foldl repairRow r).kept =
      Table.settle Kept.done r.kept ((repairs file r.projectCode).map FileEntry.kept) := by
  rw [view_foldl_repairRow MappingRow.kept (fun x e => if x.done then x else e.kept)
    kept_repairRow, Table.settle, List.foldl_map]

/-- The name the file fills in for a project. -/
def fileName (file : MappingFile) (code : String) : String :=
  ((file.find? fun e => e.projectCode = code ∧ e.displayName ≠ "").map (·.displayName)).getD ""

/-- The statements that fill in names come to the one for the code of the row, if it has no name. -/
private theorem foldl_fillName (file : MappingFile) (r : MappingRow F) :
    file.foldl fillName r =
      { r with
        projectName := if r.projectName = "" then fileName file r.projectCode
          else r.projectName } := by
  induction file generalizing r with
  | nil =>
    have hname : (if r.projectName = "" then fileName [] r.projectCode else r.projectName) =
        r.projectName := by
      split
      · next h => exact h.symm
      · rfl
    rw [List.foldl_nil, hname]
  | cons e file ih =>
    rw [List.foldl_cons, ih, fillName, fileName, fileName, List.find?_cons]
    by_cases hname : r.projectName = ""
    · by_cases he : r.projectCode = e.projectCode ∧ e.displayName ≠ ""
      · simp [hname, he.1, he.2]
      · have hskip : ¬ (e.projectCode = r.projectCode ∧ e.displayName ≠ "") := fun h =>
          he ⟨h.1.symm, h.2⟩
        simp only [hname, true_and, he, hskip, decide_false, if_true, if_false]
    · simp [hname]

/-- The migrations leave the row as it is. -/
def AtRest (file : MappingFile) (r : MappingRow F) : Prop :=
  match (repairs file r.projectCode).getLast? with
  | none => r.projectName ≠ "" ∨ fileName file r.projectCode = ""
  | some e =>
    -- the row of a verified project says what the file says, or what an enrichment has found
    r.rewritten = e.rewritten ∧
      (isEnriched r.microsoft ∨
        r.kept = e.kept ∧ ∀ e ∈ repairs file r.projectCode, (e.kept : Kept F).done = false)

/-- What the migrations leave in the columns that an enrichment protects. -/
theorem kept_migrateRow (file : MappingFile) (r : MappingRow F) :
    (migrateRow file r).kept =
      Table.settle Kept.done r.kept ((repairs file r.projectCode).map FileEntry.kept) := by
  rw [migrateRow, kept_foldl_repairRow, foldl_fillName]
  rfl

private theorem allowedRoles_migrateRow (file : MappingFile) (r : MappingRow F) :
    (migrateRow file r).allowedRoles = r.allowedRoles := by
  rw [migrateRow, allowedRoles_foldl_repairRow, foldl_fillName]

/-- What the migrations leave in the columns that they rewrite. -/
theorem rewritten_migrateRow (file : MappingFile) (r : MappingRow F) :
    (migrateRow file r).rewritten =
      (((repairs file r.projectCode).getLast?).map FileEntry.rewritten).getD
        { r.rewritten with
          projectName := if r.projectName = "" then fileName file r.projectCode
            else r.projectName } := by
  rw [migrateRow, rewritten_foldl_repairRow, foldl_fillName]
  rfl

/-- A row is left alone just if it is at rest. What the migrations write and what they keep are
compared column by column. -/
theorem migrateRow_eq_self_iff {file : MappingFile} {r : MappingRow F} :
    migrateRow file r = r ↔ AtRest file r := by
  have hcolumns : migrateRow file r = r ↔
      (migrateRow file r).rewritten = r.rewritten ∧ (migrateRow file r).kept = r.kept := by
    constructor
    · intro h
      rw [h]
      exact ⟨rfl, rfl⟩
    · rintro ⟨hrewritten, hkept⟩
      exact MappingRow.eq_of_columns (projectCode_migrateRow file r)
        (allowedRoles_migrateRow file r) hrewritten hkept
  rw [hcolumns, rewritten_migrateRow, kept_migrateRow, AtRest]
  cases hlast : (repairs file r.projectCode).getLast? with
  | none =>
    rw [List.getLast?_eq_none_iff.mp hlast]
    by_cases hname : r.projectName = "" <;>
      simp [Table.settle, MappingRow.rewritten, hname]
  | some e =>
    have hkept : ((repairs file r.projectCode).map (FileEntry.kept (F := F))).getLast? =
        some e.kept := by
      rw [List.getLast?_map, hlast]
      rfl
    rw [Table.settle_eq_self_iff hkept, List.forall_mem_map, Option.map_some, Option.getD_some]
    exact and_congr_left' eq_comm

/-- Migrated once, a row is at rest. The repairs write constants, and what they have written they
write again. -/
theorem atRest_migrateRow (file : MappingFile) (r : MappingRow F) :
    AtRest file (migrateRow file r) := by
  rw [← migrateRow_eq_self_iff]
  refine MappingRow.eq_of_columns (projectCode_migrateRow file _)
    (allowedRoles_migrateRow file _) ?_ ?_
  · have hfirst := rewritten_migrateRow file r
    rw [rewritten_migrateRow, projectCode_migrateRow]
    cases hlast : (repairs file r.projectCode).getLast? with
    | none =>
      rw [hlast, Option.map_none, Option.getD_none] at hfirst
      have hname := congrArg Rewritten.projectName hfirst
      dsimp only [MappingRow.rewritten] at hname
      rw [Option.map_none, Option.getD_none, hfirst, hname]
      -- a name that is still empty is one the file does not know either
      by_cases h : r.projectName = "" <;> simp [h]
    | some e =>
      rw [hlast] at hfirst
      exact hfirst.symm
  · rw [kept_migrateRow file (migrateRow file r), projectCode_migrateRow, kept_migrateRow,
      Table.settle_settle]

/-- The second migration changes nothing. -/
theorem migrateRow_migrateRow (file : MappingFile) (r : MappingRow F) :
    migrateRow file (migrateRow file r) = migrateRow file r :=
  migrateRow_eq_self_iff.mpr (atRest_migrateRow file r)

/-! ### Edits -/

section Edits

variable [Text] [Floats F] (owncloudConfigured : Bool) (file : MappingFile)

/-- The request does not write the row of the project. -/
def Request.LeavesAlone (code : String) (rows : List (MappingRow F)) : Request → Prop
  | .edit e => e.lastWritten owncloudConfigured (initSchema file rows) code = none
  | .other => True

/-- The project has the row `w`, and keeps it until a request writes it. -/
def Survives (code : String) (w : MappingRow F) (rows : List (MappingRow F)) : Prop :=
  ∀ run, Along (step owncloudConfigured file)
      (fun rows a => a.LeavesAlone owncloudConfigured file code rows) rows run →
    getSourceMapping code (exec (step owncloudConfigured file) rows run) = some w

variable {owncloudConfigured} {file} {rows : List (MappingRow F)}

/-- What a request makes of a row it does not write. -/
theorem getSourceMapping_step (h : rows ≠ []) {code : String} {a : Request}
    (ha : a.LeavesAlone owncloudConfigured file code rows) :
    getSourceMapping code (step owncloudConfigured file rows a) =
      (getSourceMapping code rows).map (migrateRow file) := by
  cases a with
  | edit e =>
    rw [step, e.getSourceMapping_apply, ha, Option.none_or, getSourceMapping_initSchema h]
  | other => exact getSourceMapping_initSchema h code

/-- A row stays what it is just if it is at rest. For the other direction a single request is
enough, which writes nothing. -/
private theorem survives_iff {code : String} {w : MappingRow F}
    (hw : getSourceMapping code rows = some w) :
    Survives owncloudConfigured file code w rows ↔ AtRest file w := by
  have hne : rows ≠ [] := by
    rintro rfl
    cases hw
  rw [← migrateRow_eq_self_iff]
  constructor
  · intro h
    have hother : getSourceMapping code (initSchema file rows) = some w :=
      h [.other] ⟨trivial, trivial⟩
    rw [getSourceMapping_initSchema hne, hw] at hother
    exact Option.some.inj hother
  · intro hrest run hrun
    refine @exec_induction _ _ _ _ (fun rows => getSourceMapping code rows = some w) ?_ run rows
      hw hrun
    intro rows a hrow ha
    have hne : rows ≠ [] := by
      rintro rfl
      cases hrow
    rw [getSourceMapping_step hne ha, hrow, Option.map_some, hrest]

/-- In every table, what an edit leaves for the projects it writes outlives all later calls of
`init_schema` exactly when it is at rest. Outliving is to be found in the table after any requests
that do not write the project, and a row that is not at rest is changed by the first of these. -/
theorem edit_survives_iff (owncloudConfigured : Bool) (file : MappingFile)
    (rows : List (MappingRow F)) (e : Edit) :
    (∀ code w, e.lastWritten owncloudConfigured (initSchema file rows) code = some w →
        Survives owncloudConfigured file code w (step owncloudConfigured file rows (.edit e))) ↔
      ∀ code w, e.lastWritten owncloudConfigured (initSchema file rows) code = some w →
        AtRest file w := by
  refine forall₃_congr fun code w hw => survives_iff ?_
  rw [step, e.getSourceMapping_apply, hw, Option.some_or]

end Edits

/-! ### A disabled project that comes back -/

section Whole

open Py.Whole

/-- A verified project whose group has not been read yet. -/
def verifiedEntry : FileEntry where
  projectCode := "PRJ-001"
  projectName := "Bridge"
  mappingStatus := "complete"
  enabledSources := some ["odoo"]

/-- The next call of `init_schema` sets the status of the file. -/
theorem not_edit_survives_disable :
    ¬ ∀ (file : MappingFile) (rows : List (MappingRow ℤ)) (e : Edit) (code : String)
      (w : MappingRow ℤ), e.lastWritten false (initSchema file rows) code = some w →
        Survives false file code w (step false file rows (.edit e)) := by
  intro h
  let file : MappingFile := [verifiedEntry]
  let seeded : MappingRow ℤ := migrateRow file (seedRow verifiedEntry)
  let disabled : MappingRow ℤ := { seeded with mappingStatus := "disabled" }
  have hwritten : (Edit.disable "PRJ-001").lastWritten false (initSchema file []) "PRJ-001" =
      some disabled := rfl
  have hkept := h file [] (.disable "PRJ-001") "PRJ-001" disabled hwritten [.other]
    ⟨trivial, trivial⟩
  have hstatus := congrArg (Option.map MappingRow.mappingStatus) hkept
  have hcomplete : (getSourceMapping (F := ℤ) "PRJ-001" (exec (step false file)
      (step false file [] (.edit (.disable "PRJ-001"))) [.other])).map
        MappingRow.mappingStatus = some "complete" := rfl
  rw [hcomplete] at hstatus
  exact absurd (Option.some.inj hstatus) (by decide)

end Whole

end DecisionCenter.Mappings
