import DecisionCenter.Exporters.Markdown

/-!
# The Word and PDF exporters

`to_word` (`apps/edr/exporters/word.py`) and `_build_story` (`apps/edr/exporters/pdf.py`). The
two go through the report alike and differ in how they put a text: `DocKit` holds what differs,
so that an exporter is `docParts` of its kit between its own header and footer. An item is a
bullet of several runs in Word and one paragraph with markup in the PDF; the references of a
source are cut in the PDF; and so on, each as a field of the kit.

A document is the sequence of paragraphs and table rows that are handed to the library, without
styles and spacing. What is handed over need not be a string: python-docx is given the run of an
item as it stands in the report, while reportlab is given formatted text. A `Block` is therefore
a list of values.

Both exporters raise where a text is joined that is no string: the ids of an item (`joinStrs`),
the formula of a variance (`formulaNote`). These errors are part of the model, in the order in
which the source reaches them, so that a document exists here just if the exporter produces it.

Sections that the policy suppresses leave no part behind, and the headings of the others are
numbered in the end (`numberDocParts`), so that a suppressed section changes the numbers and
nothing else.
-/

namespace DecisionCenter

open Py

variable {F : Type}

/-! ### Blocks -/

/-- A paragraph or a row of a table: the texts that are handed over for it. -/
abbrev Block (F : Type) : Type := List (Value F)

/-- A paragraph of one text. -/
def Block.ofStr (s : String) : Block F := [.str s]

/-- How a document puts its texts. -/
structure DocKit (F : Type) where
  queryLead : String
  /-- An item with its text, its confidence and its ids. -/
  claim : Value F → Value F → String → List (Value F)
  /-- A list item that is shown as it is. -/
  bullet : Value F → Value F
  /-- A conflict with its type and description. -/
  conflict : Value F → Value F → Value F
  /-- One side of a conflict. -/
  side : String → Value F → Value F
  /-- What a table of sources shows of a title and a reference. -/
  title : Value F → Except Error (Value F)
  reference : Value F → Except Error (Value F)
  status : Value F → Value F

section Documents

variable [Floats F]

omit [Floats F] in
/-- `", ".join(v)`: what is joined has to be strings. -/
def joinStrs (v : Value F) : Except Error String := do
  let texts ← (← v.iter).mapM fun x => match x with
    | .str s => (pure s : Except Error String)
    | _ => throw .typeError
  pure (join ", " texts)

/-! ### Items and figures -/

variable [Text]

end Documents

end DecisionCenter
