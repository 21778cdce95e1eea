import DecisionCenter.Exporters.Document

/-!
# The Excel exporter

`to_excel` (`apps/edr/exporters/excel.py`): the sheets with the cells of their rows, from left
to right. A cell holds a value as openpyxl is given it, which may be a number, a text or
nothing.

Every sheet is made from the report on its own: unlike the documents the workbook gives the
numbers of the snapshot as they are, with the currency and the status in cells of their own, and
its audit sheet lists the objects of all claim-bearing sections in one table, each row beginning
with the heading of its section. Items that are no objects have no row there.

The policy decides about the sheet of the financial snapshot and about three of the sections on
the audit sheet; the other two are always listed (`auditSections`). The summary, the sources,
the conflicts and the missing data have sheets of their own for every report type.

Column widths, colours, filters and the conditional formats are left out.
-/

namespace DecisionCenter

open Py

variable {F : Type}

section Sheets

variable [Floats F]

omit [Floats F] in
/-- The row of an item; only dictionaries are shown. -/
def auditRow (spec : String × String) (item : Value F) : Except Error (List (Block F)) :=
  match item with
  | .dict d => do
    let refs ← joinStrs (Dict.getD d "evidence_ids" (.list []))
    pure [[.str spec.1, Dict.getD d "text" (.str ""), Dict.getD d "confidence" (.str "medium"),
      .str refs]]
  | _ => pure []

end Sheets

end DecisionCenter
