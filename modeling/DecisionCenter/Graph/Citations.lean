import DecisionCenter.Evidence
import Mathlib.Data.List.Dedup
import Mathlib.Data.List.Sort

/-!
# Citations

How node 12 reads, rewrites and collects the evidence ids a draft cites: `_flatten_eids`,
`_remap_evidence_ids` and `_rebuild_sources_from_citations`. The draft is any JSON object, so
each function raises where the source does.

A citation may be written in several ways, and `flattenEids` is where they become ids: a text is
one id, a list is taken element by element and its lists once more, and what is neither is cited
by its `str`. Only dictionaries cite. `citedInSections` collects what the claim-bearing sections
cite, the figures of the snapshot apart.

The sources of a report are rebuilt from what it cites: one entry for each id that the pack has,
in the order of the ids as sorted, with the fields of the item. Ids that the pack does not have
are left out of the list, not out of the report.

The remap is about ids that the LLM has made up. A source entry of the draft that has the title
or the URI of an item of the pack stands for this item, so that its made-up id is replaced by
the real one wherever a claim cites it (`synthToReal` and what follows from it in
`Graph.Remapping`). An id that no entry explains stays as it is.
-/

namespace DecisionCenter

open Py

variable {F : Type} [Floats F]

/-! ### Evidence ids of an item -/

/-- The claim-bearing sections of a report. -/
def claimSections : List String :=
  ["executive_summary", "key_findings", "root_causes", "delay_analysis",
    "contractual_implications", "recommended_actions"]

/-- The ids one element of an `evidence_ids` value stands for. -/
def flattenElement : Value F → List String
  | .list xs => (xs.filter fun x => !x.isNull).map Value.toStr
  | .null => []
  | v => [v.toStr]

/-- `_flatten_eids` -/
def flattenEids (eids : Value F) : Except Error (List String) :=
  if !eids.truthy then pure []
  else match eids with
    | .str s => pure [s]
    | v => do pure ((← v.iter).flatMap flattenElement)

/-- The ids an element of a section cites; only dictionaries cite. -/
def citedByItem (item : Value F) : Except Error (List String) :=
  match item with
  | .dict d => flattenEids (Dict.getD d "evidence_ids" (.list []))
  | _ => pure []

/-- The ids cited in one section. -/
def citedInSection (report : Dict F) (sec : String) : Except Error (List String) := do
  let items ← (report.getD sec (.list [])).iter
  pure (← items.mapM citedByItem).flatten

/-- The ids cited in the claim-bearing sections. -/
def citedInSections (report : Dict F) : Except Error (List String) := do
  pure (← claimSections.mapM (citedInSection report)).flatten

/-! ### Rebuilding the sources -/

/-- `sorted(ids)` of a set of strings. -/
def sortIds (ids : List String) : List String := ids.dedup.insertionSort fun s t => ¬ t < s

/-- `sorted(cited)` where one more value, not always a string, has been added to the ids. Sorting
compares, so a value of another kind raises unless it is alone. -/
def sortWith (ids : List String) (extra : Value F) : Except Error (List String) :=
  match extra with
  | .str s => pure (sortIds (s :: ids))
  | v => if v.hashable = true ∧ ids = [] then pure [] else throw .typeError

/-- `evidence_by_id.get(eid)`: of items with one id the last counts. -/
def evidenceById (evidence : List (Evidence F)) (eid : String) : Option (Evidence F) :=
  evidence.reverse.find? fun ev => decide (ev.evidenceId = eid)

/-- The entry of the sources section for a cited item. -/
def sourceEntry (usedIn : String) (ev : Evidence F) : Value F :=
  .dict [("source_id", .str ev.evidenceId), ("source_type", .str ev.sourceType.toStr),
    ("title", .str ev.title), ("reference", .str ev.sourceUri),
    ("date", .str ((ev.timestamp.filter (· ≠ "")).getD "—")),
    ("confidence", .str ev.confidence.toStr), ("used_in", .list [.str usedIn])]

/-- The sources section for the cited ids that are in the pack. -/
def sourcesFor (usedIn : Evidence F → String) (evidence : List (Evidence F))
    (cited : List String) : Value F :=
  .list ((cited.filterMap (evidenceById evidence)).map fun ev => sourceEntry (usedIn ev) ev)

/-- The ids the variance cites. -/
def varianceIds (fs : Dict F) : Except Error (List String) :=
  match fs.dict? "variance" with
  | some variance => flattenEids (variance.getD "evidence_ids" (.list []))
  | none => pure []

/-- `_rebuild_sources_from_citations` -/
def rebuildSourcesFromCitations (report : Dict F) (evidence : List (Evidence F)) :
    Except Error (Dict F) := do
  let inSections ← citedInSections report
  let fs := (report.dict? "financial_snapshot").getD []
  let inFigures := ["contract_value", "estimate", "actual_cost", "committed_cost"].filterMap
    fun field => (fs.dict? field).bind fun node =>
      let eid := node.get "evidence_id"
      if eid.truthy then some eid.toStr else none
  let inVariance ← varianceIds fs
  let usedIn := fun ev : Evidence F => if ev.isOdoo then "Financial Snapshot" else "Key Findings"
  pure (report.set "sources"
    (sourcesFor usedIn evidence (sortIds (inSections ++ inFigures ++ inVariance))))

/-! ### Remapping invented ids -/

section Remap

variable [Text]

/-- `str(v or "").strip().lower()` -/
def matchText (v : Value F) : String := lower (strip (v.orElse (.str "")).toStr)

/-- The id of the last item whose `key` text is `text`; items without an id do not count. -/
def idByText (key : Evidence F → String) (evidence : List (Evidence F)) (text : String) :
    Option String :=
  if text = "" then none
  else (evidence.reverse.find? fun ev =>
    decide (ev.evidenceId ≠ "") && decide (lower (strip (key ev)) = text)).map (·.evidenceId)

/-- The evidence id a source entry stands for: matched by title, else by URI. -/
def realId (evidence : List (Evidence F)) (src : Dict F) : Option String :=
  (idByText (·.title) evidence (matchText (src.get "title"))).or
    (idByText (·.sourceUri) evidence
      (matchText ((src.get "reference").orElse (src.get "source_uri"))))

/-- The entry of `synth_to_real` one element of the sources section gives. -/
def synthEntry (evidence : List (Evidence F)) (src : Value F) :
    Except Error (Option (Value F × String)) :=
  match src with
  | .dict d =>
    let sid := Dict.getD d "source_id" (.str "")
    match realId evidence d with
    | some real =>
      if sid.truthy && !sid.eqStr real then
        if sid.hashable then pure (some (sid, real)) else throw .typeError
      else pure none
    | none => pure none
  | _ => pure none

/-- `synth_to_real` -/
def synthToReal (report : Dict F) (evidence : List (Evidence F)) :
    Except Error (List (Value F × String)) :=
  match report.getD "sources" (.list []) with
  | .list srcs => do pure ((← srcs.mapM (synthEntry evidence)).filterMap id)
  | _ => pure []

omit [Text] [Floats F] in
/-- `synth_to_real.get(e, e)` -/
def realOf (synth : List (Value F × String)) (e : String) : String :=
  ((synth.reverse.find? fun p => p.1.eqStr e).map (·.2)).getD e

omit [Text] in
/-- Rewrite the ids of a dictionary that cites. -/
def remapDict (synth : List (Value F × String)) (d : Dict F) : Except Error (Dict F) := do
  match ← flattenEids (d.get "evidence_ids") with
  | [] => pure d
  | eids => pure (d.set "evidence_ids" (.list (eids.map fun e => .str (realOf synth e))))

omit [Text] in
/-- One step of `_remap`. -/
def remapItem (synth : List (Value F × String)) (item : Value F) : Except Error (Value F) :=
  match item with
  | .dict d => do pure (.dict (← remapDict synth d))
  | v => pure v

omit [Text] in
/-- `_remap` of one section; anything that can be iterated is accepted. -/
def remapSection (synth : List (Value F × String)) (report : Dict F) (sec : String) :
    Except Error (Dict F) :=
  match report.get? sec with
  | some (.list items) => do pure (report.set sec (.list (← items.mapM (remapItem synth))))
  | some v => do
    let _ ← v.iter
    pure report
  | none => pure report

omit [Text] in
/-- The ids cited once the sections are remapped, the actual cost's among them, in order. -/
def citedAfterRemap (report : Dict F) : Except Error (List String) := do
  let inSections ← citedInSections report
  match (report.dict? "financial_snapshot").bind (·.dict? "actual_cost") with
  | some actual => sortWith inSections ((actual.get "evidence_id").orElse (.str ""))
  | none => pure (sortIds inSections)

/-- `_remap_evidence_ids` -/
def remapEvidenceIds (report : Dict F) (evidence : List (Evidence F)) : Except Error (Dict F) := do
  let synth ← synthToReal report evidence
  if synth.isEmpty then pure report
  else
    let report ← claimSections.foldlM (remapSection synth) report
    let report ← report.modifyM "management_question_answer" (remapDict synth)
    let cited ← citedAfterRemap report
    pure (report.set "sources" (sourcesFor (fun _ => "Key Findings") evidence cited))

end Remap

end DecisionCenter
