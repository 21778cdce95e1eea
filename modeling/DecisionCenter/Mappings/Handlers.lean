import Mathlib.Logic.Function.Iterate
import DecisionCenter.Async.Run
import DecisionCenter.Mappings.Edits

/-!
# The mapping endpoints between their awaits

The handlers of `apps/edr/app.py` that write `source_mappings`, side by side. Each statement of
`init_schema` is awaited by itself and in no transaction. An enrichment, a confirmation and a
synchronisation read the table once, and after the awaits that follow write the rows they have
made of what they read, one after the other; a `PUT` reads nothing.

A handler is in one of its phases: it has statements of `init_schema` to run, then reads, then
has writes that are pending. A step lets a handler arrive, or go on by one statement, read or
write, so that any other handler may come in between; what it learns from Microsoft Graph and
Odoo comes with its edit. A handler may also stop anywhere, by an exception or the end of the
process.

`Statement` are the statements of `init_schema` one by one: the seeding of an empty table, the
filling in of names, and the repair of each verified project. `Write` is the upsert of one row,
or the update that disables one.

The module ends with the agreement of the two descriptions. The statements, put together, are
`init_schema` (`foldl_statements`), and the steps of a handler that is alone are its endpoint as
`Mappings.Edits` has it (`alone_arrived`). What interleavings add is the subject of
`Mappings.AdminEdits`.
-/

namespace DecisionCenter.Mappings

open Py

variable {F : Type}

/-! ### Statements -/

/-- A statement of `init_schema` that writes the table. -/
inductive Statement where
  | insertSeed (e : FileEntry)
  | fillName (e : FileEntry)
  | repairRow (e : FileEntry)

/-- What the statement makes of a row that is there. -/
def Statement.row (r : MappingRow F) : Statement → MappingRow F
  | insertSeed _ => r
  | fillName e => Mappings.fillName r e
  | repairRow e => Mappings.repairRow r e

def Statement.exec (rows : List (MappingRow F)) : Statement → List (MappingRow F)
  | insertSeed e => Mappings.insertSeed rows e
  | fillName e => rows.map fun r => Mappings.fillName r e
  | repairRow e => rows.map fun r => Mappings.repairRow r e

/-- The statements that follow the `SELECT COUNT(*)` of `_seed_source_mappings`. -/
def statements (file : MappingFile) (rows : List (MappingRow F)) : List Statement :=
  (if rows.isEmpty then file.map .insertSeed else []) ++ file.map .fillName ++
    file.map .repairRow

/-- A write of an endpoint. -/
inductive Write (F : Type) where
  | upsert (w : MappingRow F)
  | disable (code : String)

def Write.exec (rows : List (MappingRow F)) : Write F → List (MappingRow F)
  | upsert w => upsertSourceMapping w rows
  | disable code => disableSourceMapping code rows

/-! ### Handlers -/

/-- Where a handler is. -/
inductive Phase (F : Type) where
  | arrived
  /-- These statements of its `init_schema` are left. -/
  | schema (todo : List Statement)
  /-- It has read the table, and these writes are left. -/
  | writing (todo : List (Write F))

/-- A handler of an endpoint. What it learns from Microsoft Graph and Odoo is part of the edit. -/
structure Handler (F : Type) where
  edit : Edit
  phase : Phase F

/-- The table, and the handlers; those below `handlers` have been started. -/
structure World (F : Type) where
  table : List (MappingRow F)
  handler : ℕ → Handler F
  handlers : ℕ

/-- No request has arrived. -/
def World.start (table : List (MappingRow F)) : World F where
  table := table
  handler _ := ⟨.sync [], .writing []⟩
  handlers := 0

inductive Action where
  | arrive (e : Edit)
  /-- Handler `i` goes on to its next await. -/
  | advance (i : ℕ)
  /-- What handler `i` awaits raises. -/
  | abort (i : ℕ)

section Step

variable [Text] [Floats F] (owncloudConfigured : Bool) (file : MappingFile)

/-- The writes a handler is left with once it has read the table. -/
def Edit.writes (rows : List (MappingRow F)) : Edit → List (Write F)
  | disable code =>
    match getSourceMapping code rows with
    | none => []
    | some row => if row.mappingStatus = "disabled" then [] else [.disable code]
  | e => (e.written owncloudConfigured rows).map .upsert

/-- A handler goes on: the table, and where it is then. -/
def Handler.next (rows : List (MappingRow F)) (h : Handler F) : List (MappingRow F) × Phase F :=
  match h.phase with
  | .arrived => (rows, .schema (statements file rows))
  | .schema (s :: todo) => (s.exec rows, .schema todo)
  | .schema [] => (rows, .writing (h.edit.writes owncloudConfigured rows))
  | .writing (w :: todo) => (w.exec rows, .writing todo)
  | .writing [] => (rows, .writing [])

def World.step (s : World F) : Action → World F
  | .arrive e =>
    { s with
      handler := Function.update s.handler s.handlers ⟨e, .arrived⟩
      handlers := s.handlers + 1 }
  | .advance i =>
    let out := (s.handler i).next owncloudConfigured file s.table
    { s with
      table := out.1
      handler := Function.update s.handler i ⟨(s.handler i).edit, out.2⟩ }
  | .abort i => { s with handler := Function.update s.handler i ⟨(s.handler i).edit, .writing []⟩ }

/-! ### A handler by itself -/

/-- A handler that is not interleaved with anything. -/
def Handler.alone (e : Edit) (out : List (MappingRow F) × Phase F) :
    List (MappingRow F) × Phase F :=
  (Handler.mk e out.2).next owncloudConfigured file out.1

variable {owncloudConfigured} {file} {e : Edit} {rows : List (MappingRow F)}

private theorem alone_schema (todo : List Statement) :
    (Handler.alone owncloudConfigured file e)^[todo.length] (rows, .schema todo) =
      (todo.foldl Statement.exec rows, .schema []) := by
  induction todo generalizing rows with
  | nil => rfl
  | cons s todo ih =>
    rw [List.length_cons, Function.iterate_succ_apply]
    exact ih

private theorem alone_writing (todo : List (Write F)) :
    (Handler.alone owncloudConfigured file e)^[todo.length] (rows, .writing todo) =
      (todo.foldl Write.exec rows, .writing []) := by
  induction todo generalizing rows with
  | nil => rfl
  | cons w todo ih =>
    rw [List.length_cons, Function.iterate_succ_apply]
    exact ih

omit [Text] [Floats F] in
/-- Statements that act on each row by itself, one after the other. -/
theorem foldl_map_rows (f : MappingRow F → FileEntry → MappingRow F) (file : MappingFile)
    (rows : List (MappingRow F)) :
    file.foldl (fun rows e => rows.map fun r => f r e) rows =
      rows.map fun r => file.foldl f r := by
  induction file generalizing rows with
  | nil => simp
  | cons e file ih =>
    rw [List.foldl_cons, ih, List.map_map]
    rfl

omit [Text] [Floats F] in
/-- The statements, put together, are `init_schema`. Handlers run between two of them, which is why
they are apart. -/
theorem foldl_statements : (statements file rows).foldl Statement.exec rows =
    initSchema file rows := by
  have hseeds : (if rows.isEmpty then file.map Statement.insertSeed else []).foldl Statement.exec
      rows = seedSourceMappings file rows := by
    rw [seedSourceMappings]
    split
    · next hempty =>
      rw [List.foldl_map, List.isEmpty_iff.mp hempty]
      rfl
    · rfl
  have hnames : ∀ rows : List (MappingRow F),
      (file.map Statement.fillName).foldl Statement.exec rows =
        rows.map fun r => file.foldl fillName r := by
    intro rows
    rw [List.foldl_map]
    exact foldl_map_rows fillName file rows
  have hrepairs : ∀ rows : List (MappingRow F),
      (file.map Statement.repairRow).foldl Statement.exec rows =
        rows.map fun r => file.foldl repairRow r := by
    intro rows
    rw [List.foldl_map]
    exact foldl_map_rows repairRow file rows
  rw [statements, List.foldl_append, List.foldl_append, hseeds, hnames, hrepairs, List.map_map,
    initSchema]
  rfl

private theorem foldl_writes : (e.writes owncloudConfigured rows).foldl Write.exec rows =
    e.apply owncloudConfigured rows := by
  have hupserts : ∀ ws : List (MappingRow F), (ws.map Write.upsert).foldl Write.exec rows =
      ws.foldl (fun rows w => upsertSourceMapping w rows) rows := by
    intro ws
    rw [List.foldl_map]
    rfl
  cases e with
  | disable code =>
    rw [Edit.writes, Edit.apply]
    cases getSourceMapping code rows with
    | none => rfl
    | some row =>
      dsimp only
      split <;> rfl
  | _ => exact hupserts _

/-- The steps of a handler, put together, are its endpoint. -/
theorem alone_arrived : ∃ n,
    (Handler.alone owncloudConfigured file e)^[n] (rows, .arrived) =
      (e.apply owncloudConfigured (initSchema file rows), .writing []) := by
  refine ⟨(e.writes owncloudConfigured (initSchema file rows)).length + 1 +
    (statements file rows).length + 1, ?_⟩
  have hcount : Handler.alone owncloudConfigured file e (rows, .arrived) =
      (rows, .schema (statements file rows)) := rfl
  have hread : ∀ rows : List (MappingRow F),
      Handler.alone owncloudConfigured file e (rows, .schema []) =
        (rows, .writing (e.writes owncloudConfigured rows)) := fun _ => rfl
  rw [Function.iterate_succ_apply, hcount, Function.iterate_add_apply, alone_schema,
    foldl_statements, Function.iterate_succ_apply, hread, alone_writing, foldl_writes]

end Step

end DecisionCenter.Mappings
