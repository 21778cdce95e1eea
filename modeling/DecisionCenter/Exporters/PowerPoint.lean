import DecisionCenter.Exporters.Document

/-!
# The PowerPoint exporter

`to_powerpoint` (`apps/edr/exporters/powerpoint.py`): the slides with their titles and bullets.
The presentation is a digest: a slide has at most eight bullets, root causes and delays share
one, and there is none for contractual implications, the sources or the management question
answer.

A slide is its title and its bullets, in order. `fillContent` is the function of the source that
every slide but the first goes through; it cuts the bullets and puts a line in the place of
none. The texts of bullets are made by formatting, so that an item which is no object is shown
by `str`, and a query that is too long is cut with a mark.

The policy decides about the slide of the financial snapshot and about what of root causes and
delays is on the slide that they share; where it renders neither of the two there is no such
slide. The other slides are there for every report type.

Layout, placeholders and fonts are left out, and so is what python-pptx makes of a text that
does not fit.
-/

namespace DecisionCenter

open Py

variable {F : Type}

section Slides

variable [Floats F]

end Slides

end DecisionCenter
