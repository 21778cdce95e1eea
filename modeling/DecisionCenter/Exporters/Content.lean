import DecisionCenter.Exporters.Document

/-!
# What a document says of a section

Between a report and the exporters' texts: the content of a section, read from the report without
regard to any format, and how each document puts it. An item is an object with its text, its
confidence and the ids it cites, or is shown as it is; a figure is a number with two decimals and
its currency, or not available; a conflict has a type, a description and two sides.

`ShownItem.markdown` and `ShownItem.put` are the only places where content becomes text. They take
nothing but the content and, in the second case, the texts an exporter has of its own, so that two
documents that put the same content show the same items and the same figures.

Reading fails where a document cannot be made: on ids that cannot be listed and on a number that
cannot be formatted. Markdown asks less of a report than Word and PDF do, so what can be read is a
matter of the content, not of the format.
-/

namespace DecisionCenter

open Py

variable {F : Type}

/-! ### Content -/

/-- What is shown of an item. -/
inductive ShownItem (F : Type) where
  /-- An object: its text, its confidence and the ids it cites. -/
  | object (text confidence : Value F) (refs : List (Value F))
  /-- An item that is shown as it is. -/
  | plain (item : Value F)
  /-- A conflict, which may lack a type. -/
  | conflict (type : Option (Value F)) (description sourceA sourceB : Value F)

/-- The number of a figure, with two decimals, and its currency; or none. -/
abbrev ShownNumber (F : Type) : Type := Option (String × Value F)

/-- A row of the financial table. -/
structure SnapshotRow (F : Type) where
  label : String
  number : ShownNumber F
  source : Value F

/-- The financial table. A variance that is an object comes with its formula. -/
structure SnapshotTable (F : Type) where
  rows : List (SnapshotRow F)
  variance : Option (ShownNumber F × Value F)
  note : Value F

/-- What a section has to say. -/
inductive SectionContent (F : Type) where
  | nothing
  | text (s : String)
  | listed (items : List (ShownItem F))
  | snapshot (table : SnapshotTable F)
  | status (v : Value F)

/-! ### Reading a report -/

section Reading

variable [Floats F]

end Reading

/-! ### Sections and their texts -/

/-- The heading of a section, and what the documents put in front of its items and in place of
them. -/
structure SectionSpec where
  sec : ReportSection
  title : String
  lead : String
  markdownNothing : String
  docNothing : String

section Printing

variable [Floats F]

/-- A figure with its currency. -/
def numberText : ShownNumber F → String
  | some (number, currency) => number ++ " " ++ currency.toStr
  | none => "Not available"

/-! ### Markdown -/

/-- The lines of an item. -/
def ShownItem.markdown (lead : String) : ShownItem F → List String
  | .object text confidence refs =>
    ["- " ++ lead ++ text.toStr ++ " *(Confidence: " ++ confidence.toStr ++ ")*" ++
      (if refs.isEmpty then "" else
        " — " ++ join ", " (refs.map fun r => "[" ++ r.toStr ++ "]"))]
  | .plain item => ["- " ++ lead ++ item.toStr]
  | .conflict type description sourceA sourceB =>
    ["**Type:** `" ++ (type.getD (.str "unknown")).toStr ++ "`", "", description.toStr, "",
      "- Source A: " ++ sourceA.toStr, "- Source B: " ++ sourceB.toStr, ""]

/-- The lines of the variance. -/
def varianceMarkdown : Option (ShownNumber F × Value F) → List String
  | some (number, formula) => ["| Variance | " ++ numberText number ++
      (if formula.truthy then " *(Formula: " ++ formula.toStr ++ ")*" else "") ++ " | — |"]
  | none => []

/-- The lines of the financial table. -/
def SnapshotTable.markdown (table : SnapshotTable F) : List String :=
  ["| Item | Value | Source |", "|---|---|---|"] ++
    (table.rows.map fun row => "| " ++ row.label ++ " | " ++ numberText row.number ++ " | " ++
      row.source.toStr ++ " |") ++
    varianceMarkdown table.variance ++
    (if table.note.truthy then ["", "> " ++ table.note.toStr ++ "."] else [])

/-- The lines under the heading of a section. -/
def SectionContent.markdown (spec : SectionSpec) (content : SectionContent F) : List String :=
  (match content with
    | .nothing => [spec.markdownNothing]
    | .text s => [s]
    | .listed items => items.flatMap (ShownItem.markdown spec.lead)
    | .snapshot table => table.markdown
    | .status v => ["**Status:** `" ++ v.toStr ++ "`"]) ++ [""]

/-! ### Word and PDF -/

/-- The blocks of an item. -/
def ShownItem.put (kit : DocKit F) : ShownItem F → List (Block F)
  | .object text confidence refs =>
    [kit.claim text confidence (join ", " (refs.map Value.toStr))]
  | .plain item => [[kit.bullet item]]
  | .conflict type description sourceA sourceB =>
    [[kit.conflict (type.getD (.str "?")) description], [kit.side "Source A: " sourceA],
      [kit.side "Source B: " sourceB]]

/-- The row of the variance. -/
def variancePut : Option (ShownNumber F × Value F) → Block F
  | some (number, formula) => [.str "Variance", .str (numberText number ++
      (if formula.truthy then " (" ++ formula.toStr ++ ")" else "")), .str "—"]
  | none => [.str "Variance", .str "Not available", .str "—"]

/-- The blocks of the financial table. -/
def SnapshotTable.put (table : SnapshotTable F) : List (Block F) :=
  [.str "Item", .str "Value", .str "Source"] ::
    (table.rows.map fun row => [.str row.label, .str (numberText row.number), row.source]) ++
    [variancePut table.variance] ++
    (if table.note.truthy then [[table.note]] else [])

/-- The blocks under the heading of a section. -/
def SectionContent.put (kit : DocKit F) (spec : SectionSpec) :
    SectionContent F → List (Block F)
  | .nothing => [.ofStr spec.docNothing]
  | .text s => [.ofStr s]
  | .listed items => items.flatMap (ShownItem.put kit)
  | .snapshot table => table.put
  | .status v => [[kit.status v]]

end Printing

/-! ### Reading and printing a list -/

variable {α β γ δ : Type}

end DecisionCenter
