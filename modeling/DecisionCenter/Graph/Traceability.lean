import DecisionCenter.Exporters.MarkdownSpec
import DecisionCenter.Graph.NonFabrication
import DecisionCenter.Graph.PackCitations
import DecisionCenter.Graph.SnapshotSoundness
import DecisionCenter.Py.Whole

/-!
# Traceable citations

The sources section of a report, against what the report cites. On most paths it is what the LLM
wrote; where the passes on citations rebuild it, from the citations of the sections and some of
the figures, an id that only another figure carries has no entry.

`Traceable` says that whatever the report cites has an entry among its sources, and that each
entry stands for an item of the pack, under its id or with its URI. What a report cites are the
ids of its claim sections and those that its available figures carry.

The proof follows the report through the passes. Where the table of the remapping is empty
nothing is rewritten and the report keeps its sources; where it is not, the sources are rebuilt
from what is cited then. A missing executive summary is made up for, and takes over ids of the
findings: a finding that is a bare string is gone through letter by letter, which is why the
shape of the findings comes in (`cited_of_ref`). `SourcesPassed` has what the passes make of a
report, and `traceable_passed_iff` the question put back to the report that goes into them.

There the sources must cover the report (`SourcesCover`): its own ones list what it cites, or
those that are rebuilt list what the figures carry. `traceable_draftRun_iff` is exact for the
node. The salary answer lists every item of the pack and always is traceable.
-/

namespace DecisionCenter

open Py

section Traceability

variable {F : Type} [Floats F] [Text]

/-! ### Reports whose citations can be traced -/

/-- The entries of the sources section. -/
def sourceValues (report : Dict F) : List (Value F) :=
  match report.get "sources" with
  | .list srcs => srcs
  | _ => []

/-- The entry stands for an item, under its id or with its URI. -/
def Denotes (src : Value F) (ev : Evidence F) : Prop :=
  ∃ d : Dict F, src = .dict d ∧
    (d.get "source_id" = .str ev.evidenceId ∨ d.get "reference" = .str ev.sourceUri)

/-- The id has an entry, under itself or with the URI of the item whose id it is. -/
def Listed (evidence : List (Evidence F)) (report : Dict F) (e : String) : Prop :=
  ∃ src ∈ sourceValues report, ∃ d : Dict F, src = .dict d ∧ (d.get "source_id" = .str e ∨
    ∃ ev ∈ evidence, ev.evidenceId = e ∧ d.get "reference" = .str ev.sourceUri)

/-- A figure that is available; the variance is when it has a value. -/
def citedFigure (fs : Dict F) (key : String) : Option (Dict F) :=
  (fs.dict? key).filter fun node =>
    if key = "variance" then !(node.get "value").isNull else (node.get "status").eqStr "available"

/-- An available figure of the snapshot carries the id. -/
def FigureCites (report : Dict F) (e : String) : Prop :=
  ∃ fs, report.dict? "financial_snapshot" = some fs ∧ ∃ key ∈ shownKeys, ∃ node,
    citedFigure fs key = some node ∧ .str e ∈ attachedIds key node

/-- Whatever the report cites has an entry among its sources, and each entry stands for an item. -/
structure Traceable (evidence : List (Evidence F)) (report : Dict F) : Prop where
  cited : ∀ e, CitesId report e → Listed evidence report e
  figures : ∀ e, FigureCites report e → Listed evidence report e
  entries : ∀ src ∈ sourceValues report, ∃ ev ∈ evidence, Denotes src ev

/-! ### Lists of sources that are rebuilt -/

section Rebuilt

variable {evidence : List (Evidence F)} {report report' : Dict F} {e : String}

/-- Among the items with these ids there is one with the id, or with the URI of the item that has
it. -/
def ListedAmong (evidence : List (Evidence F)) (ids : String → Prop) (e : String) : Prop :=
  ∃ e', ids e' ∧ ∃ ev', evidenceById evidence e' = some ev' ∧
    (e' = e ∨ ∃ ev ∈ evidence, ev.evidenceId = e ∧ ev.sourceUri = ev'.sourceUri)

omit [Floats F] [Text] in
private theorem evidenceById_eq_some {ev : Evidence F} (h : evidenceById evidence e = some ev) :
    ev ∈ evidence ∧ ev.evidenceId = e := by
  have hid := List.find?_some h
  exact ⟨List.mem_reverse.mp (List.mem_of_find?_eq_some h), of_decide_eq_true hid⟩

omit [Floats F] [Text] in
private theorem exists_evidenceById (h : e ∈ evidenceIds evidence) :
    ∃ ev, evidenceById evidence e = some ev := by
  obtain ⟨ev, hev, rfl⟩ := List.mem_map.mp h
  exact Option.isSome_iff_exists.mp (List.find?_isSome.mpr
    ⟨ev, List.mem_reverse.mpr hev, decide_eq_true rfl⟩)

omit [Floats F] [Text] in
/-- One of the ids is listed just if an item has it. -/
theorem listedAmong_of_mem {ids : String → Prop} (he : ids e) :
    ListedAmong evidence ids e ↔ e ∈ evidenceIds evidence := by
  constructor
  · rintro ⟨e', -, ev', hev', rfl | ⟨ev, hev, rfl, -⟩⟩
    · obtain ⟨hmem, rfl⟩ := evidenceById_eq_some hev'
      exact List.mem_map_of_mem hmem
    · exact List.mem_map_of_mem hev
  · intro hmem
    obtain ⟨ev, hev⟩ := exists_evidenceById hmem
    exact ⟨e, he, ev, hev, .inl rfl⟩

omit [Floats F] [Text] in
private theorem mem_sourcesFor {usedIn : Evidence F → String} {ids : List String} {src : Value F}
    (h : report.get? "sources" = some (sourcesFor usedIn evidence ids)) :
    src ∈ sourceValues report ↔ ∃ e ∈ ids, ∃ ev, evidenceById evidence e = some ev ∧
      sourceEntry (usedIn ev) ev = src := by
  rw [sourceValues, Dict.get_of_get? h]
  simp only [sourcesFor, List.mem_map, List.mem_filterMap]
  constructor
  · rintro ⟨ev, ⟨e, he, hev⟩, rfl⟩
    exact ⟨e, he, ev, hev, rfl⟩
  · rintro ⟨e, he, ev, hev, rfl⟩
    exact ⟨ev, ⟨e, he, hev⟩, rfl⟩

omit [Floats F] [Text] in
/-- In a list that was rebuilt from some ids, an id has an entry just if it is one of these, or the
URI of its item is listed with one of them. -/
private theorem listed_sourcesFor {usedIn : Evidence F → String} {ids : List String}
    (h : report.get? "sources" = some (sourcesFor usedIn evidence ids)) :
    Listed evidence report e ↔ ListedAmong evidence (· ∈ ids) e := by
  constructor
  · rintro ⟨src, hsrc, d, rfl, hd⟩
    obtain ⟨e', he', ev', hev', hentry⟩ := (mem_sourcesFor h).mp hsrc
    cases hentry
    refine ⟨e', he', ev', hev', ?_⟩
    rcases hd with hid | ⟨ev, hev, hid, huri⟩
    · left
      rw [← (evidenceById_eq_some hev').2]
      exact Value.str.inj hid
    · exact .inr ⟨ev, hev, hid, (Value.str.inj huri).symm⟩
  · rintro ⟨e', he', ev', hev', hd⟩
    refine ⟨sourceEntry (usedIn ev') ev', (mem_sourcesFor h).mpr ⟨e', he', ev', hev', rfl⟩, _,
      rfl, ?_⟩
    rcases hd with rfl | ⟨ev, hev, hid, huri⟩
    · exact .inl (congrArg Value.str (evidenceById_eq_some hev').2)
    · exact .inr ⟨ev, hev, hid, congrArg Value.str huri.symm⟩

omit [Floats F] [Text] in
/-- Each entry of a rebuilt list stands for an item. -/
theorem entries_sourcesFor {usedIn : Evidence F → String} {ids : List String}
    (h : report.get? "sources" = some (sourcesFor usedIn evidence ids)) :
    ∀ src ∈ sourceValues report, ∃ ev ∈ evidence, Denotes src ev := by
  intro src hsrc
  obtain ⟨e, -, ev, hev, rfl⟩ := (mem_sourcesFor h).mp hsrc
  exact ⟨ev, (evidenceById_eq_some hev).1, _, rfl, .inl rfl⟩

end Rebuilt

/-! ### What is collected -/

section Collected

variable {evidence : List (Evidence F)} {report report' : Dict F} {e : String}

omit [Text] in
/-- A section cites the id. -/
def CitesIn (report : Dict F) (sec e : String) : Prop :=
  ∃ items, SectionHas report sec items ∧ ∃ item ∈ items, ∃ es, citedByItem item = .ok es ∧ e ∈ es

omit [Text] in
private theorem citesId_iff :
    CitesId report e ↔ ∃ sec ∈ claimSections, CitesIn report sec e := Iff.rfl

omit [Text] in
private theorem citesIn_congr {sec : String} (h : report'.get? sec = report.get? sec) :
    CitesIn report' sec e ↔ CitesIn report sec e := by
  simp only [CitesIn, SectionHas, Dict.getD, h]

omit [Text] in
private theorem citesId_congr (h : ∀ sec ∈ claimSections, report'.get? sec = report.get? sec) :
    CitesId report' e ↔ CitesId report e :=
  exists_congr fun sec => and_congr_right fun hsec => citesIn_congr (h sec hsec)

omit [Text] in
private theorem mem_citedInSection {sec : String} {ids : List String}
    (h : citedInSection report sec = .ok ids) : e ∈ ids ↔ CitesIn report sec e := by
  obtain ⟨items, hitems, h⟩ := bind_eq_ok.mp h
  obtain ⟨lists, hlists, h⟩ := bind_eq_ok.mp h
  cases h
  rw [List.mem_flatten]
  constructor
  · rintro ⟨es, hes, he⟩
    obtain ⟨item, hitem, hcited⟩ := (mem_of_mapM hlists).mp hes
    exact ⟨items, hitems, item, hitem, es, hcited, he⟩
  · rintro ⟨items', hitems', item, hitem, es, hcited, he⟩
    obtain rfl : items = items' := Except.ok.inj (hitems.symm.trans hitems')
    exact ⟨es, (mem_of_mapM hlists).mpr ⟨item, hitem, hcited⟩, he⟩

omit [Text] in
/-- The ids collected from the sections are the cited ones. -/
theorem mem_citedInSections {ids : List String} (h : citedInSections report = .ok ids) :
    e ∈ ids ↔ CitesId report e := by
  obtain ⟨lists, hlists, h⟩ := bind_eq_ok.mp h
  cases h
  rw [List.mem_flatten, citesId_iff]
  constructor
  · rintro ⟨es, hes, he⟩
    obtain ⟨sec, hsec, hcited⟩ := (mem_of_mapM hlists).mp hes
    exact ⟨sec, hsec, (mem_citedInSection hcited).mp he⟩
  · rintro ⟨sec, hsec, hcites⟩
    obtain ⟨es, hcited⟩ := completes_mapM.mp ⟨lists, hlists⟩ sec hsec
    exact ⟨es, (mem_of_mapM hlists).mpr ⟨sec, hsec, hcited⟩, (mem_citedInSection hcited).mpr hcites⟩

omit [Floats F] [Text] in
private theorem mem_sortIds {ids : List String} : e ∈ sortIds ids ↔ e ∈ ids := by
  rw [sortIds, List.mem_insertionSort, List.mem_dedup]

/-- The actual cost carries the id, available or not. -/
def ActualId (report : Dict F) (e : String) : Prop :=
  ∃ fs actual, report.dict? "financial_snapshot" = some fs ∧
    fs.dict? "actual_cost" = some actual ∧
      (actual.get "evidence_id").orElse (.str "") = .str e

omit [Text] in
/-- What the remapping collects: the cited ids and the one of the actual cost. The id of the actual
cost is sorted in with the others, so that it has to be a string. -/
theorem mem_citedAfterRemap {ids : List String} (h : citedAfterRemap report = .ok ids) :
    e ∈ ids ↔ CitesId report e ∨ ActualId report e := by
  obtain ⟨inSections, hsections, h⟩ := bind_eq_ok.mp h
  have hcites := mem_citedInSections (e := e) hsections
  split at h
  · next actual hactual =>
    obtain ⟨fs, hfs, hactual⟩ := Option.bind_eq_some_iff.mp hactual
    -- the id of the actual cost is sorted in with the others, so it has to be a string
    have hid : ActualId report e ↔ (actual.get "evidence_id").orElse (.str "") = .str e := by
      constructor
      · rintro ⟨fs', actual', hfs', hactual', hid⟩
        obtain rfl : fs = fs' := Option.some.inj (hfs.symm.trans hfs')
        obtain rfl : actual = actual' := Option.some.inj (hactual.symm.trans hactual')
        exact hid
      · exact fun hid => ⟨fs, actual, hfs, hactual, hid⟩
    rw [hid, ← hcites]
    unfold sortWith at h
    split at h
    · next s hs =>
      cases h
      rw [hs, mem_sortIds, List.mem_cons, or_comm, Value.str.injEq, eq_comm]
    · next v hv =>
      split at h
      · next hnil =>
        cases h
        rw [hnil.2]
        refine iff_of_false List.not_mem_nil ?_
        rintro (hmem | heq)
        · cases hmem
        · exact hv e heq
      · cases h
  · next hnone =>
    cases h
    rw [mem_sortIds, hcites, or_iff_left]
    rintro ⟨fs, actual, hfs, hactual, -⟩
    rw [hfs] at hnone
    change fs.dict? "actual_cost" = none at hnone
    rw [hactual] at hnone
    cases hnone

end Collected

/-! ### Citations across the passes -/

section Passes

variable {evidence : List (Evidence F)} {report report' : Dict F} {e : String}
  {synth : List (Value F × String)}

omit [Text] in
private theorem not_citesIn_of_no_list {sec : String}
    (hlist : ∀ xs, report.get? sec ≠ some (.list xs)) : ¬ CitesIn report sec e := by
  rintro ⟨items, hitems, item, hitem, es, hes, he⟩
  rw [citedByItem_of_no_list hlist hitems hitem] at hes
  cases hes
  cases he

omit [Text] in
/-- A rewritten section cites what it cited, by the table. A section that is no list is not
rewritten and cites nothing. -/
theorem citesIn_remapped {sec : String}
    (h : SectionRemapped synth (report.get? sec) (report'.get? sec)) :
    CitesIn report' sec e ↔ ∃ e₀, CitesIn report sec e₀ ∧ realOf synth e₀ = e := by
  rcases h with ⟨hsame, hlist⟩ | ⟨xs, xs', hxs, hmap, hxs'⟩
  · refine iff_of_false ?_ ?_
    · rw [citesIn_congr hsame]
      exact not_citesIn_of_no_list hlist
    · rintro ⟨e₀, hcites, -⟩
      exact not_citesIn_of_no_list hlist hcites
  · constructor
    · rintro ⟨items', hitems', item', hitem', es', hes', he⟩
      obtain rfl := (sectionHas_of_list hxs').mp hitems'
      obtain ⟨item, hitem, hremap⟩ := (mem_of_mapM hmap).mp hitem'
      obtain ⟨es, hes, hes₁⟩ := citedByItem_remapItem hremap
      obtain rfl : es.map (realOf synth) = es' := Except.ok.inj (hes₁.symm.trans hes')
      obtain ⟨e₀, he₀, heq⟩ := List.mem_map.mp he
      exact ⟨e₀, ⟨xs, (sectionHas_of_list hxs).mpr rfl, item, hitem, es, hes, he₀⟩, heq⟩
    · rintro ⟨e₀, ⟨items, hitems, item, hitem, es, hes, he₀⟩, rfl⟩
      obtain rfl := (sectionHas_of_list hxs).mp hitems
      obtain ⟨item', hremap⟩ := completes_mapM.mp ⟨xs', hmap⟩ item hitem
      obtain ⟨es₁, hes₁, hes'⟩ := citedByItem_remapItem hremap
      obtain rfl : es = es₁ := Except.ok.inj (hes.symm.trans hes₁)
      exact ⟨xs', (sectionHas_of_list hxs').mpr rfl, item',
        (mem_of_mapM hmap).mpr ⟨item, hitem, hremap⟩, _, hes', List.mem_map_of_mem he₀⟩

/-- The remapping rewrites the citations by the table, and unless the table is empty lists what is
cited then, and the item of the actual cost. -/
theorem remapEvidenceIds_spec (h : remapEvidenceIds report evidence = .ok report')
    (hsynth : synthToReal report evidence = .ok synth) :
    (∀ e, CitesId report' e ↔ ∃ e₀, CitesId report e₀ ∧ realOf synth e₀ = e) ∧
      (synth = [] → report' = report) ∧
      (synth ≠ [] → ∃ usedIn ids, report'.get? "sources" = some (sourcesFor usedIn evidence ids) ∧
        ∀ e, e ∈ ids ↔ CitesId report' e ∨ ActualId report e) := by
  obtain ⟨synth', hsynth', h⟩ := bind_eq_ok.mp h
  obtain rfl : synth = synth' := Except.ok.inj (hsynth.symm.trans hsynth')
  split at h
  -- an empty table: the remapping is skipped, the sources included
  · next hempty =>
    cases h
    obtain rfl := List.isEmpty_iff.mp hempty
    refine ⟨fun e => ?_, fun _ => rfl, fun hne => absurd rfl hne⟩
    constructor
    · exact fun hcites => ⟨e, hcites, rfl⟩
    · rintro ⟨e₀, hcites, rfl⟩
      exact hcites
  · next hnonempty =>
    obtain ⟨sections, hsections, h⟩ := bind_eq_ok.mp h
    obtain ⟨memo, hmemo, h⟩ := bind_eq_ok.mp h
    obtain ⟨cited, hcited, h⟩ := bind_eq_ok.mp h
    cases h
    -- the new sources, the memo and the sections do not overlap, so each is read on its own
    have hsame : ∀ sec ∈ claimSections, (memo.set "sources"
        (sourcesFor (fun _ => "Key Findings") evidence cited)).get? sec = memo.get? sec := by
      intro sec hsec
      refine Dict.get?_set_ne _ _ ?_
      rintro rfl
      exact absurd hsec (by decide)
    have hmemoframe : Dict.Frame ["management_question_answer"] sections memo :=
      Dict.Frame.modifyM hmemo (by simp)
    have hremapped : ∀ sec ∈ claimSections,
        SectionRemapped synth (report.get? sec) (memo.get? sec) := by
      intro sec hsec
      have hmqa : sec ∉ ["management_question_answer"] := by
        revert sec
        decide
      rw [hmemoframe _ hmqa]
      exact foldlM_remapSection_cases (by decide) hsections hsec
    have hsnapshot : memo.dict? "financial_snapshot" = report.dict? "financial_snapshot" := by
      rw [hmemoframe.dict?_eq (by decide),
        (foldlM_remapSection_frame hsections).dict?_eq (by decide)]
    refine ⟨fun e => ?_, fun hnil => ?_, fun _ => ⟨_, cited, Dict.get?_set_self _ _ _, fun e => ?_⟩⟩
    · rw [citesId_congr hsame, citesId_iff]
      constructor
      · rintro ⟨sec, hsec, hcites⟩
        obtain ⟨e₀, hcites₀, heq⟩ := (citesIn_remapped (hremapped sec hsec)).mp hcites
        exact ⟨e₀, ⟨sec, hsec, hcites₀⟩, heq⟩
      · rintro ⟨e₀, ⟨sec, hsec, hcites₀⟩, heq⟩
        exact ⟨sec, hsec, (citesIn_remapped (hremapped sec hsec)).mpr ⟨e₀, hcites₀, heq⟩⟩
    · rw [hnil] at hnonempty
      exact absurd rfl hnonempty
    · rw [mem_citedAfterRemap hcited, citesId_congr hsame, ActualId, ActualId, hsnapshot]

/-- The figures whose ids the sources of a financial report are rebuilt from. -/
def rebuiltFigures : List String := ["contract_value", "estimate", "actual_cost", "committed_cost"]

/-- One of these figures carries the id, or the variance does, available or not. -/
def RebuiltId (report : Dict F) (e : String) : Prop :=
  ∃ fs, report.dict? "financial_snapshot" = some fs ∧
    ((∃ field ∈ rebuiltFigures, ∃ node, fs.dict? field = some node ∧
        (node.get "evidence_id").truthy = true ∧ (node.get "evidence_id").toStr = e) ∨
      ∃ es, varianceIds fs = .ok es ∧ e ∈ es)

omit [Text] in
/-- Rebuilding lists what is cited, and the items of these figures. What the sections cite is common
with the remapping; the figures and the variance are its own. -/
theorem rebuildSourcesFromCitations_spec
    (h : rebuildSourcesFromCitations report evidence = .ok report') :
    ∃ usedIn ids, report' = report.set "sources" (sourcesFor usedIn evidence ids) ∧
      ∀ e, e ∈ ids ↔ CitesId report e ∨ RebuiltId report e := by
  obtain ⟨inSections, hsections, h⟩ := bind_eq_ok.mp h
  obtain ⟨inVariance, hvariance, h⟩ := bind_eq_ok.mp h
  cases h
  refine ⟨_, _, rfl, fun e => ?_⟩
  rw [mem_sortIds, List.mem_append, List.mem_append, mem_citedInSections hsections, or_assoc]
  -- what the sections cite is common; left are the figures and the variance
  refine or_congr_right ?_
  rw [List.mem_filterMap]
  cases hfs : report.dict? "financial_snapshot" with
  | none =>
    rw [hfs] at hvariance
    cases hvariance
    refine iff_of_false ?_ ?_
    · rintro (⟨field, -, hfield⟩ | hmem)
      · cases hfield
      · cases hmem
    · rintro ⟨fs, hsome, -⟩
      rw [hfs] at hsome
      cases hsome
  | some fs =>
    rw [hfs, Option.getD_some] at hvariance
    rw [Option.getD_some]
    constructor
    · rintro (⟨field, hfield, hnode⟩ | hmem)
      · obtain ⟨node, hget, heid⟩ := Option.bind_eq_some_iff.mp hnode
        refine ⟨fs, hfs, .inl ⟨field, hfield, node, hget, ?_⟩⟩
        simpa [Option.ite_none_right_eq_some] using heid
      · exact ⟨fs, hfs, .inr ⟨inVariance, hvariance, hmem⟩⟩
    · rintro ⟨fs', hfs', hid⟩
      obtain rfl : fs = fs' := Option.some.inj (hfs.symm.trans hfs')
      rcases hid with ⟨field, hfield, node, hget, htruthy, hid⟩ | ⟨es, hes, he⟩
      · refine .inl ⟨field, hfield, Option.bind_eq_some_iff.mpr ⟨node, hget, ?_⟩⟩
        simp [htruthy, hid]
      · obtain rfl : inVariance = es := Except.ok.inj (hvariance.symm.trans hes)
        exact .inr he

/-! ### The summary that is made up for -/

/-- The summary is missing and takes the id over from a finding. -/
def SummaryId (evidence : List (Evidence F)) (report : Dict F) (e : String) : Prop :=
  report.get "executive_summary" = .list [] ∧ evidence ≠ [] ∧
    ∃ refs, summaryRefs (report.getD "key_findings" (.list [])) = .ok refs ∧
      ∃ v ∈ refs, e ∈ flattenElement v

omit [Floats F] [Text] in
private theorem foldlM_subset {f : List (Value F) → Value F → Except Error (List (Value F))}
    (hf : ∀ acc v acc', f acc v = .ok acc' → ∀ w ∈ acc', w ∈ acc ∨ w = v)
    {vs acc ws : List (Value F)} (h : vs.foldlM f acc = .ok ws) : ∀ w ∈ ws, w ∈ acc ∨ w ∈ vs := by
  induction vs generalizing acc with
  | nil =>
    cases h
    exact fun w hw => .inl hw
  | cons v vs ih =>
    rw [List.foldlM_cons] at h
    obtain ⟨acc', hacc, h⟩ := bind_eq_ok.mp h
    intro w hw
    rcases ih h w hw with hmem | hmem
    · rcases hf acc v acc' hacc w hmem with hold | rfl
      · exact .inl hold
      · exact .inr List.mem_cons_self
    · exact .inr (List.mem_cons_of_mem v hmem)

omit [Text] in
/-- Dropping repetitions makes up no value. -/
theorem fromKeys_subset {vs ws : List (Value F)} (h : Value.fromKeys vs = .ok ws) :
    ∀ w ∈ ws, w ∈ vs := by
  intro w hw
  refine (foldlM_subset (fun acc v acc' hacc w hw => ?_) h w hw).resolve_left List.not_mem_nil
  split at hacc
  · cases hacc
    split at hw
    · exact .inl hw
    · exact (List.mem_append.mp hw).imp_right List.mem_singleton.mp
  · cases hacc

omit [Text] in
/-- Any id that is taken over from a finding is cited by it, unless the finding holds a bare
string, which is gone through letter by letter. -/
theorem cited_of_ref {d : Dict F} {refs : List (Value F)} {v : Value F}
    (hrefs : findingRefs (.dict d) = .ok refs) (hv : v ∈ refs)
    (hbare : ∀ s, d.getD "evidence_ids" (.list []) = .str s → s = "") (he : e ∈ flattenElement v) :
    ∃ es, citedByItem (.dict d) = .ok es ∧ e ∈ es := by
  obtain ⟨xs, hxs, h⟩ := bind_eq_ok.mp hrefs
  cases h
  have hmem := (List.mem_filter.mp hv).1
  cases hids : Dict.getD d "evidence_ids" (.list []) with
  -- a list and an object are gone through element by element, in both functions alike
  | list ys =>
    rw [hids] at hxs
    cases hxs
    refine ⟨xs.flatMap flattenElement, ?_, List.mem_flatMap.mpr ⟨v, hmem, he⟩⟩
    have hne : xs ≠ [] := List.ne_nil_of_mem hmem
    rw [citedByItem, hids]
    unfold flattenEids
    rw [if_neg (by simp [Value.truthy, hne])]
    rfl
  | dict kvs =>
    rw [hids] at hxs
    cases hxs
    refine ⟨_, ?_, List.mem_flatMap.mpr ⟨v, hmem, he⟩⟩
    have hne : kvs ≠ [] := by
      rintro rfl
      cases hmem
    rw [citedByItem, hids]
    unfold flattenEids
    rw [if_neg (by simp [Value.truthy, hne])]
    rfl
  | str s =>
    rw [hids, hbare s hids] at hxs
    cases hxs
    cases hmem
  | _ =>
    rw [hids] at hxs
    cases hxs

omit [Text] in
/-- A rewritten item holds no bare string. The pass leaves a list of ids, or what was empty. -/
theorem bare_remapItem {item : Value F} {d : Dict F} (h : remapItem synth item = .ok (.dict d)) :
    ∀ s, d.getD "evidence_ids" (.list []) = .str s → s = "" := by
  cases item with
  | dict d₀ =>
    obtain ⟨d', hd, h⟩ := bind_eq_ok.mp h
    cases h
    obtain ⟨es, hes, hd⟩ := bind_eq_ok.mp hd
    intro s hs
    cases es with
    | nil =>
      cases hd
      by_contra hne
      rw [Dict.get_of_get? (Dict.get?_of_getD hs nofun)] at hes
      unfold flattenEids at hes
      rw [if_neg (by simp [Value.truthy, hne])] at hes
      cases hes
    | cons e es =>
      cases hd
      rw [Dict.getD, Dict.get?_set_self] at hs
      cases hs
  | _ => cases h

/-- No finding holds a bare string. -/
def NoBareFinding (report : Dict F) : Prop :=
  ∀ findings, report.get? "key_findings" = some (.list findings) →
    ∀ d : Dict F, .dict d ∈ findings → ∀ s, d.getD "evidence_ids" (.list []) = .str s → s = ""

omit [Text] in
/-- What a summary takes over is cited by the findings, where none holds a bare string. A bare
string would be taken over letter by letter. -/
theorem citesId_of_summaryId (hbare : NoBareFinding report)
    (hsummary : SummaryId evidence report e) : CitesId report e := by
  obtain ⟨-, -, refs, hrefs, v, hv, he⟩ := hsummary
  unfold summaryRefs at hrefs
  split at hrefs
  · cases hrefs
    cases hv
  split at hrefs
  · next findings hfindings =>
    obtain ⟨lists, hlists, hrefs⟩ := bind_eq_ok.mp hrefs
    obtain ⟨keys, hkeys, hrefs⟩ := bind_eq_ok.mp hrefs
    cases hrefs
    have hkey := fromKeys_subset hkeys v (List.mem_of_mem_take hv)
    obtain ⟨l, hl, hvl⟩ := List.mem_flatten.mp hkey
    obtain ⟨finding, hfinding, hfindingRefs⟩ := (mem_of_mapM hlists).mp hl
    have hmem := List.mem_of_mem_take hfinding
    have hget : report.get? "key_findings" = some (.list findings) := by
      refine Dict.get?_of_getD hfindings ?_
      intro hnil
      rw [← Value.list.inj hnil] at hmem
      cases hmem
    cases finding with
    | dict d =>
      obtain ⟨es, hes, hcited⟩ := cited_of_ref hfindingRefs hvl (hbare findings hget d hmem) he
      exact ⟨"key_findings", by decide, findings, (sectionHas_of_list hget).mpr rfl, _, hmem, es,
        hes, hcited⟩
    | _ => cases hfindingRefs
  · cases hrefs

omit [Text] in
/-- Behind a remapping that rewrites, no finding holds a bare string. -/
theorem noBareFinding_remapped
    (h : SectionRemapped synth (report.get? "key_findings") (report'.get? "key_findings")) :
    NoBareFinding report' := by
  intro findings hfindings d hd
  rcases h with ⟨hsame, hlist⟩ | ⟨xs, xs', hxs, hmap, hxs'⟩
  · exact absurd (hsame.symm.trans hfindings) (hlist findings)
  · obtain rfl : xs' = findings := Value.list.inj (Option.some.inj (hxs'.symm.trans hfindings))
    obtain ⟨item, -, hremap⟩ := (mem_of_mapM hmap).mp hd
    exact bare_remapItem hremap

omit [Text] in
private theorem citesIn_set {sec : String} {items : List (Value F)} :
    CitesIn (report.set sec (.list items)) sec e ↔
      ∃ item ∈ items, ∃ es, citedByItem item = .ok es ∧ e ∈ es := by
  have hget := Dict.get?_set_self report sec (.list items : Value F)
  constructor
  · rintro ⟨items', hitems', hcites⟩
    obtain rfl := (sectionHas_of_list hget).mp hitems'
    exact hcites
  · exact fun hcites => ⟨items, (sectionHas_of_list hget).mpr rfl, hcites⟩

omit [Text] in
/-- Where a summary is missing, an entry put there adds what it cites. The other sections are not
touched. -/
theorem citesId_set_summary {item : Value F} {es : List String}
    (hsummary : report.get "executive_summary" = .list []) (hes : citedByItem item = .ok es) :
    CitesId (report.set "executive_summary" (.list [item])) e ↔ CitesId report e ∨ e ∈ es := by
  have hget := Dict.get?_of_getD hsummary nofun
  have hentry : CitesIn (report.set "executive_summary" (.list [item])) "executive_summary" e ↔
      e ∈ es := by
    rw [citesIn_set]
    constructor
    · rintro ⟨item', hitem', es', hes', he⟩
      obtain rfl := List.mem_singleton.mp hitem'
      obtain rfl : es = es' := Except.ok.inj (hes.symm.trans hes')
      exact he
    · exact fun he => ⟨item, List.mem_singleton_self _, es, hes, he⟩
  constructor
  · rintro ⟨sec, hsec, hcites⟩
    by_cases hsame : "executive_summary" = sec
    · subst hsame
      exact .inr (hentry.mp hcites)
    · exact .inl ⟨sec, hsec, (citesIn_congr (Dict.get?_set_ne _ _ hsame)).mp hcites⟩
  · rintro (⟨sec, hsec, hcites⟩ | he)
    · refine ⟨sec, hsec, (citesIn_congr (Dict.get?_set_ne _ _ ?_)).mpr hcites⟩
      rintro rfl
      obtain ⟨items, hitems, item, hitem, -⟩ := hcites
      rw [(sectionHas_of_list hget).mp hitems] at hitem
      cases hitem
    · exact ⟨"executive_summary", by decide, hentry.mpr he⟩

omit [Text] in
/-- A summary that is made up cites the ids it takes over. A report that has a summary, and one on
an empty pack, stay as they are. -/
theorem enforceExecutiveSummary_cites {state : DecisionState F}
    (h : enforceExecutiveSummary report state = .ok report') :
    CitesId report' e ↔ CitesId report e ∨ SummaryId state.evidence report e := by
  unfold enforceExecutiveSummary at h
  split at h
  · next hsummary =>
    split at h
    · next hempty =>
      cases h
      refine (or_iff_left ?_).symm
      rintro ⟨-, hne, -⟩
      exact hne (List.isEmpty_iff.mp hempty)
    · next hevidence =>
      obtain ⟨refs, hrefs, h⟩ := bind_eq_ok.mp h
      -- the ids that are taken over are those of `SummaryId`
      have hid : SummaryId state.evidence report e ↔ ∃ v ∈ refs, e ∈ flattenElement v := by
        constructor
        · rintro ⟨-, -, refs', hrefs', hmem⟩
          obtain rfl : refs = refs' := Except.ok.inj (hrefs.symm.trans hrefs')
          exact hmem
        · intro hmem
          refine ⟨hsummary, ?_, refs, hrefs, hmem⟩
          rintro hnil
          rw [hnil] at hevidence
          exact hevidence rfl
      rw [hid]
      cases refs with
      | nil =>
        cases h
        simp
      | cons v refs =>
        cases h
        rw [← List.mem_flatMap]
        exact citesId_set_summary hsummary rfl
  · next hnot =>
    cases h
    refine (or_iff_left ?_).symm
    rintro ⟨hsummary, -⟩
    exact hnot hsummary

omit [Text] in
private theorem summaryId_congr
    (hsummary : report'.get? "executive_summary" = report.get? "executive_summary")
    (hfindings : report'.get? "key_findings" = report.get? "key_findings") :
    SummaryId evidence report' e ↔ SummaryId evidence report e := by
  simp only [SummaryId, Dict.get, Dict.getD, hsummary, hfindings]

/-! ### The passes together -/

/-- The ids that are cited once invented ones are replaced. -/
def CitedReal (report : Dict F) (synth : List (Value F × String)) (e : String) : Prop :=
  ∃ e₀, CitesId report e₀ ∧ realOf synth e₀ = e

/-- The ids that the rebuilt sources are made from. -/
def KeptId (state : DecisionState F) (report : Dict F) (synth : List (Value F × String))
    (e : String) : Prop :=
  CitedReal report synth e ∨
    (reportTypeOf state = .financial ∧ RebuiltId report e) ∨
    (reportTypeOf state ≠ .financial ∧ ActualId report e)

/-- What the passes on citations make of a report: what it cites then, and its sources. -/
structure SourcesPassed (state : DecisionState F) (report texts : Dict F)
    (synth : List (Value F × String)) : Prop where
  cites : ∀ e, CitesId texts e ↔
    CitedReal report synth e ∨ (synth = [] ∧ SummaryId state.evidence report e)
  own : reportTypeOf state ≠ .financial → synth = [] →
    texts.get? "sources" = report.get? "sources"
  rebuilt : reportTypeOf state = .financial ∨ synth ≠ [] →
    ∃ usedIn ids, texts.get? "sources" = some (sourcesFor usedIn state.evidence ids) ∧
      ∀ e, e ∈ ids ↔ KeptId state report synth e

omit [Text] in
private theorem citesId_frame {keys : List String} (h : Dict.Frame keys report report')
    (hkeys : ∀ sec ∈ claimSections, sec ∉ keys) : CitesId report' e ↔ CitesId report e :=
  citesId_congr fun sec hsec => h sec (hkeys sec hsec)

omit [Text] in
private theorem summaryId_frame {keys : List String} (h : Dict.Frame keys report report')
    (hkeys : ∀ sec ∈ claimSections, sec ∉ keys) :
    SummaryId evidence report' e ↔ SummaryId evidence report e :=
  summaryId_congr (h _ (hkeys _ (by decide))) (h _ (hkeys _ (by decide)))

private theorem rebuildIfFinancial_frame {state : DecisionState F}
    (h : rebuildIfFinancial state report = .ok report') :
    Dict.Frame ["sources"] report report' := by
  unfold rebuildIfFinancial at h
  split at h
  · exact rebuildSourcesFromCitations_frame h
  · cases h
    exact Dict.Frame.refl _ _

/-- What is cited once a missing summary has been made up for: the real ids, and where nothing was
rewritten the ones the summary takes over. -/
theorem cites_summarised {state : DecisionState F}
    (h : remapEvidenceIds report state.evidence = .ok report')
    (hsynth : synthToReal report state.evidence = .ok synth) :
    CitesId report' e ∨ SummaryId state.evidence report' e ↔
      CitedReal report synth e ∨ (synth = [] ∧ SummaryId state.evidence report e) := by
  obtain ⟨hcites, hempty, -⟩ := remapEvidenceIds_spec h hsynth
  obtain ⟨synth', hsynth', hcases⟩ := remapEvidenceIds_cases h
  obtain rfl : synth = synth' := Except.ok.inj (hsynth.symm.trans hsynth')
  rw [hcites e, CitedReal]
  rcases hcases with ⟨hnil, rfl⟩ | hsections
  · rw [and_iff_right hnil]
  by_cases hnil : synth = []
  · rw [hempty hnil, and_iff_right hnil]
  constructor
  · rintro (hreal | hsummary)
    · exact .inl hreal
    · exact .inl ((hcites e).mp (citesId_of_summaryId
        (noBareFinding_remapped (hsections _ (by decide))) hsummary))
  · rintro (hreal | ⟨hempty, -⟩)
    · exact .inl hreal
    · exact absurd hempty hnil

/-- The corrections of the texts run the passes on citations, one after the other; the others do not
touch what is cited. -/
private theorem correctTexts_spec {state : DecisionState F} {texts : Dict F}
    (h : correctTexts state report = .ok texts) :
    ∃ synth, synthToReal report state.evidence = .ok synth ∧
      SourcesPassed state report texts synth := by
  obtain ⟨remapped, hremapped, h⟩ := bind_eq_ok.mp h
  obtain ⟨rebuilt, hrebuilt, h⟩ := bind_eq_ok.mp h
  obtain ⟨summarised, hsummarised, h⟩ := bind_eq_ok.mp h
  obtain ⟨synth, hsynth, -⟩ := remapEvidenceIds_cases hremapped
  obtain ⟨hcites, hempty, hlisted⟩ := remapEvidenceIds_spec hremapped hsynth
  have hframe := rebuildIfFinancial_frame hrebuilt
  have hmissing : Dict.Frame ["missing_data"] rebuilt (enforceMissingData rebuilt
      (extractOdooContext (odooEvidence state.evidence))) := enforceMissingData_frame _ _
  have hanswer := enrichManagementQuestionAnswer_frame h
  have hsources : texts.get? "sources" = rebuilt.get? "sources" := by
    rw [hanswer _ (by decide), enforceExecutiveSummary_frame hsummarised _ (by decide),
      hmissing _ (by decide)]
  have hsnapshot : remapped.dict? "financial_snapshot" = report.dict? "financial_snapshot" :=
    (remapEvidenceIds_frame hremapped).dict?_eq (by decide)
  -- each pass is followed by frames: who cites, what is cited, and which sources are kept
  refine ⟨synth, hsynth, fun e => ?_, fun hfinancial hnil => ?_, fun hpass => ?_⟩
  · rw [citesId_frame hanswer (by decide), enforceExecutiveSummary_cites hsummarised,
      citesId_frame hmissing (by decide), summaryId_frame hmissing (by decide),
      citesId_frame hframe (by decide), summaryId_frame hframe (by decide)]
    exact cites_summarised hremapped hsynth
  · rw [rebuildIfFinancial, if_neg hfinancial] at hrebuilt
    cases hrebuilt
    rw [hsources, hempty hnil]
  · rw [hsources]
    by_cases hfinancial : reportTypeOf state = .financial
    · rw [rebuildIfFinancial, if_pos hfinancial] at hrebuilt
      obtain ⟨usedIn, ids, rfl, hids⟩ := rebuildSourcesFromCitations_spec hrebuilt
      refine ⟨usedIn, ids, Dict.get?_set_self _ _ _, fun e => ?_⟩
      rw [hids e, hcites e, KeptId, RebuiltId, hsnapshot]
      simp [hfinancial, CitedReal, RebuiltId]
    · rw [rebuildIfFinancial, if_neg hfinancial] at hrebuilt
      cases hrebuilt
      obtain ⟨usedIn, ids, hget, hids⟩ := hlisted (hpass.resolve_left hfinancial)
      refine ⟨usedIn, ids, hget, fun e => ?_⟩
      rw [hids e, hcites e, KeptId]
      simp [hfinancial, CitedReal]

/-! ### The finished report -/

/-- The sources a report has of its own list what it cites. -/
structure OwnSources (evidence : List (Evidence F)) (report : Dict F) : Prop where
  cited : ∀ e, CitesId report e ∨ SummaryId evidence report e → Listed evidence report e
  figures : ∀ e, FigureCites report e → Listed evidence report e
  entries : ∀ src ∈ sourceValues report, ∃ ev ∈ evidence, Denotes src ev

/-- The ids that sources are rebuilt from are ids of items, and the figures carry no others; nor
does a summary that is made up. -/
structure RebuiltSources (state : DecisionState F) (report : Dict F)
    (synth : List (Value F × String)) : Prop where
  cited : ∀ e, CitesId report e → realOf synth e ∈ evidenceIds state.evidence
  summary : synth = [] → ∀ e, SummaryId state.evidence report e →
    ListedAmong state.evidence (KeptId state report synth) e
  figures : ∀ e, FigureCites report e → ListedAmong state.evidence (KeptId state report synth) e

omit [Floats F] [Text] in
private theorem sourceValues_congr (h : report'.get? "sources" = report.get? "sources") :
    sourceValues report' = sourceValues report := by
  simp only [sourceValues, Dict.get, Dict.getD, h]

omit [Floats F] [Text] in
private theorem listed_congr (h : report'.get? "sources" = report.get? "sources") :
    Listed evidence report' e ↔ Listed evidence report e := by
  rw [Listed, Listed, sourceValues_congr h]

section Passed

variable {state : DecisionState F} {texts final : Dict F}
  (hpassed : SourcesPassed state report texts synth)
  (hcites : ∀ e, CitesId final e ↔ CitesId texts e)
  (hsources : final.get? "sources" = texts.get? "sources")
  (hfigures : ∀ e, FigureCites final e ↔ FigureCites report e)

include hpassed hcites hsources hfigures

/-- A report that keeps its sources is traceable just if they covered it. Nothing has been
redirected, so that it cites what it cited, and what its summary takes over. -/
theorem traceable_own_iff (hfinancial : reportTypeOf state ≠ .financial) (hempty : synth = []) :
    Traceable state.evidence final ↔ OwnSources state.evidence report := by
  have hsame := hsources.trans (hpassed.own hfinancial hempty)
  have hcited : ∀ e, CitesId final e ↔ CitesId report e ∨ SummaryId state.evidence report e := by
    intro e
    rw [hcites e, hpassed.cites e, and_iff_right hempty, hempty]
    exact or_congr_left ⟨fun ⟨e₀, hcited, heq⟩ => heq ▸ hcited, fun hcited => ⟨e, hcited, rfl⟩⟩
  constructor
  · intro h
    refine ⟨fun e he => ?_, fun e he => ?_, ?_⟩
    · exact (listed_congr hsame).mp (h.cited e ((hcited e).mpr he))
    · exact (listed_congr hsame).mp (h.figures e ((hfigures e).mpr he))
    · rw [← sourceValues_congr hsame]
      exact h.entries
  · intro h
    refine ⟨fun e he => ?_, fun e he => ?_, ?_⟩
    · exact (listed_congr hsame).mpr (h.cited e ((hcited e).mp he))
    · exact (listed_congr hsame).mpr (h.figures e ((hfigures e).mp he))
    · rw [sourceValues_congr hsame]
      exact h.entries

/-- A report whose sources are rebuilt is traceable just if the ids they are made from, and those
that the figures carry, are ids of items that are listed. -/
theorem traceable_rebuilt_iff (hpass : reportTypeOf state = .financial ∨ synth ≠ []) :
    Traceable state.evidence final ↔ RebuiltSources state report synth := by
  obtain ⟨usedIn, ids, hget, hids⟩ := hpassed.rebuilt hpass
  have hfinal := hsources.trans hget
  have hlisted : ∀ e, Listed state.evidence final e ↔
      ListedAmong state.evidence (KeptId state report synth) e := by
    intro e
    rw [listed_sourcesFor hfinal]
    simp only [ListedAmong, hids]
  have hcited : ∀ e, CitedReal report synth e →
      (Listed state.evidence final e ↔ e ∈ evidenceIds state.evidence) := by
    intro e he
    rw [hlisted e]
    exact listedAmong_of_mem (.inl he)
  constructor
  · intro h
    refine ⟨fun e he => ?_, fun hempty e he => ?_, fun e he => ?_⟩
    · have hreal : CitedReal report synth (realOf synth e) := ⟨e, he, rfl⟩
      refine (hcited _ hreal).mp (h.cited _ ((hcites _).mpr ((hpassed.cites _).mpr (.inl hreal))))
    · exact (hlisted e).mp (h.cited e ((hcites e).mpr ((hpassed.cites e).mpr (.inr ⟨hempty, he⟩))))
    · exact (hlisted e).mp (h.figures e ((hfigures e).mpr he))
  · intro h
    refine ⟨fun e he => ?_, fun e he => ?_, entries_sourcesFor hfinal⟩
    · rcases (hpassed.cites e).mp ((hcites e).mp he) with hreal | ⟨hempty, hsummary⟩
      · rw [hcited e hreal]
        obtain ⟨e₀, he₀, rfl⟩ := hreal
        exact h.cited e₀ he₀
      · exact (hlisted e).mpr (h.summary hempty e hsummary)
    · exact (hlisted e).mpr (h.figures e ((hfigures e).mp he))

/-- A report that has been through the passes on citations is traceable just if its sources
covered it: its own ones where the passes leave them, and those that are rebuilt where not. -/
theorem traceable_passed_iff : Traceable state.evidence final ↔
    (reportTypeOf state ≠ .financial → synth = [] → OwnSources state.evidence report) ∧
      (reportTypeOf state = .financial ∨ synth ≠ [] → RebuiltSources state report synth) := by
  by_cases hpass : reportTypeOf state = .financial ∨ synth ≠ []
  · rw [traceable_rebuilt_iff hpassed hcites hsources hfigures hpass]
    refine ⟨fun h => ⟨fun hfinancial hempty => ?_, fun _ => h⟩, fun h => h.2 hpass⟩
    exact absurd hpass (by simp [hfinancial, hempty])
  · obtain ⟨hfinancial, hempty⟩ := not_or.mp hpass
    rw [not_not] at hempty
    rw [traceable_own_iff hpassed hcites hsources hfigures hfinancial hempty]
    exact ⟨fun h => ⟨fun _ _ => h, fun h' => absurd h' hpass⟩, fun h => h.1 hfinancial hempty⟩

end Passed

/-! ### What goes into the passes -/

section Corrected

variable {state : DecisionState F} {pid : ProjectIdentity} {candidate : Option (Dict F)}

/-- The report that goes into the passes on citations: the draft or what is built in its place, with
the figures corrected. -/
def correctedDraft (state : DecisionState F) (pid : ProjectIdentity)
    (candidate : Option (Dict F)) : Except Error (Dict F) := do
  let report ← normalizeDraft state pid candidate
  previewAnswer report
  correctFigures state pid (fillDefaults state report)

omit [Text] in
/-- A section that is filled in cites nothing. -/
theorem citesId_fillDefaults : CitesId (fillDefaults state report) e ↔ CitesId report e := by
  refine exists_congr fun sec => and_congr_right fun hsec => ?_
  have hsame : (fillDefaults state report).getD sec (.list []) = report.getD sec (.list []) := by
    simp only [claimSections, List.mem_cons, List.not_mem_nil, or_false] at hsec
    rcases hsec with rfl | rfl | rfl | rfl | rfl | rfl <;>
      simp [fillDefaults, Dict.getD, Dict.get?_setdefault]
  simp only [SectionHas, hsame]

/-- The corrections of the figures leave the rest of a report alone, unless it is a financial
one. -/
theorem correctFigures_frame (hfinancial : reportTypeOf state ≠ .financial)
    (h : correctFigures state pid report = .ok report') :
    Dict.Frame ["financial_snapshot"] report report' := by
  obtain ⟨enforced, henforced, h⟩ := bind_eq_ok.mp h
  obtain ⟨placed, hplaced, h⟩ := bind_eq_ok.mp h
  rw [if_neg hfinancial] at h
  cases h
  exact (onSnapshot_frame henforced).trans (onSnapshot_frame hplaced)

/-- Unless the report is a financial one, only items of the pack are cited there. -/
theorem citesId_correctedDraft (hfinancial : reportTypeOf state ≠ .financial)
    (h : correctedDraft state pid candidate = .ok report) (hcites : CitesId report e) :
    e ∈ evidenceIds state.evidence := by
  obtain ⟨base, hbase, h⟩ := bind_eq_ok.mp h
  obtain ⟨u, -, h⟩ := bind_eq_ok.mp h
  rw [citesId_frame (correctFigures_frame hfinancial h) (by decide), citesId_fillDefaults] at hcites
  exact citesId_normalizeDraft hfinancial hbase hcites

/-- An id of an item is rewritten to one. -/
theorem realOf_mem (hsynth : synthToReal report evidence = .ok synth)
    (he : e ∈ evidenceIds evidence) : realOf synth e ∈ evidenceIds evidence := by
  rcases realOf_cases e hsynth with ⟨hsame, -⟩ | ⟨-, -, src, -, -, hreal⟩
  · rwa [hsame]
  · obtain ⟨ev, hev, hid, -⟩ := realId_spec hreal
    rw [← hid]
    exact List.mem_map_of_mem hev

omit [Text] in
private theorem toValue_of_financialSnapshotFindings {ctx : OdooContext F} {items : List (Value F)}
    (h : financialSnapshotFindings report ctx = .ok items) :
    ∀ item ∈ items, ∃ f : Finding F, item = f.toValue := by
  intro item hitem
  unfold financialSnapshotFindings at h
  split at h
  · cases h
    cases hitem
  · obtain ⟨figures, -, h⟩ := bind_eq_ok.mp h
    obtain ⟨variance, -, h⟩ := bind_eq_ok.mp h
    cases h
    obtain ⟨f, -, rfl⟩ := List.mem_map.mp hitem
    exact ⟨f, rfl⟩

omit [Text] in
/-- The findings on the figures hold lists of ids. -/
theorem noBareFinding_synthesis {ctx : OdooContext F}
    (h : forceFinancialOdooSynthesis report state ctx pid = .ok report') :
    NoBareFinding report' := by
  obtain ⟨items, hitems, h⟩ := bind_eq_ok.mp h
  cases h
  intro findings hfindings d hd s hs
  have hsame : items = findings := by
    split at hfindings <;> simpa [Dict.get?_set] using hfindings
  subst hsame
  obtain ⟨f, hf⟩ := toValue_of_financialSnapshotFindings hitems _ hd
  cases hf
  cases hs

/-- A summary that is made up for a financial report cites what its findings do. -/
theorem citesId_of_summaryId_financial (hfinancial : reportTypeOf state = .financial)
    (h : correctedDraft state pid candidate = .ok report)
    (hsummary : SummaryId evidence report e) : CitesId report e := by
  obtain ⟨base, -, h⟩ := bind_eq_ok.mp h
  obtain ⟨u, -, h⟩ := bind_eq_ok.mp h
  obtain ⟨enforced, -, h⟩ := bind_eq_ok.mp h
  obtain ⟨placed, -, h⟩ := bind_eq_ok.mp h
  rw [if_pos hfinancial] at h
  exact citesId_of_summaryId (noBareFinding_synthesis h) hsummary

end Corrected

omit [Floats F] [Text] in
private theorem citedFigure_note {fs fs' : Dict F} (h : Dict.Frame ["note"] fs fs') {key : String}
    (hkey : key ∈ shownKeys) : citedFigure fs' key = citedFigure fs key := by
  have hne : key ∉ ["note"] := by
    revert key
    decide
  rw [citedFigure, citedFigure, h.dict?_eq hne]

omit [Floats F] in
/-- The sealed snapshot is the one of the report, with a note at most. -/
theorem snapshot_sealReport (state : DecisionState F) (pid : ProjectIdentity) (report : Dict F) :
    ∃ note : Dict F → Dict F, (∀ fs, Dict.Frame ["note"] fs (note fs)) ∧
      (sealReport state pid report).dict? "financial_snapshot" =
        (report.dict? "financial_snapshot").map note := by
  by_cases havailable : state.outputs.odooFinancialAvailable = true
  · refine ⟨id, fun fs => Dict.Frame.refl _ _, ?_⟩
    simp only [sealReport, if_pos havailable, Dict.dict?_set, Option.map_id_fun]
    rfl
  · refine ⟨fun fs => fs.setdefault "note"
      (.str "financial data not available in verified Odoo evidence"),
      fun fs => Dict.Frame.setdefault _ _ (by simp), ?_⟩
    simp only [sealReport, if_neg havailable, Dict.dict?_modify_self, Dict.dict?_set]
    rfl

omit [Floats F] in
/-- A note does not change what the figures cite. -/
theorem figureCites_sealReport {state : DecisionState F} {pid : ProjectIdentity} (e : String) :
    FigureCites (sealReport state pid report) e ↔ FigureCites report e := by
  obtain ⟨note, hnote, hget⟩ := snapshot_sealReport state pid report
  have hnode : ∀ fs key, key ∈ shownKeys → citedFigure (note fs) key = citedFigure fs key :=
    fun fs key hkey => citedFigure_note (hnote fs) hkey
  rw [FigureCites, FigureCites, hget]
  constructor
  · rintro ⟨fs', hfs', key, hkey, node, hfigure, hid⟩
    obtain ⟨fs, hfs, rfl⟩ := Option.map_eq_some_iff.mp hfs'
    rw [hnode fs key hkey] at hfigure
    exact ⟨fs, hfs, key, hkey, node, hfigure, hid⟩
  · rintro ⟨fs, hfs, key, hkey, node, hfigure, hid⟩
    rw [← hnode fs key hkey] at hfigure
    exact ⟨note fs, by rw [hfs]; rfl, key, hkey, node, hfigure, hid⟩

/-- Where sources are rebuilt, the ids the figures carry are ones the sources are made from, and the
findings of a financial report, which are made from the figures, cite items of the pack. -/
structure RebuiltCover (state : DecisionState F) (report : Dict F)
    (synth : List (Value F × String)) : Prop where
  figures : ∀ e, FigureCites report e → ListedAmong state.evidence (KeptId state report synth) e
  findings : reportTypeOf state = .financial →
    ∀ e, CitesId report e → realOf synth e ∈ evidenceIds state.evidence

/-- The sources of the report that goes into the passes on citations cover it: its own ones where
the passes leave them, and those that are rebuilt where they do not. -/
def SourcesCover (state : DecisionState F) (report : Dict F) : Prop :=
  ∀ synth, synthToReal report state.evidence = .ok synth →
    (reportTypeOf state ≠ .financial → synth = [] → OwnSources state.evidence report) ∧
      (reportTypeOf state = .financial ∨ synth ≠ [] → RebuiltCover state report synth)

/-- For what goes into the passes, it comes down to the figures. The citations of a corrected draft
are in the pack, or redirected into it. -/
theorem rebuiltSources_iff {state : DecisionState F} {pid : ProjectIdentity}
    {candidate : Option (Dict F)} (h : correctedDraft state pid candidate = .ok report)
    (hsynth : synthToReal report state.evidence = .ok synth)
    (hpass : reportTypeOf state = .financial ∨ synth ≠ []) :
    RebuiltSources state report synth ↔ RebuiltCover state report synth := by
  constructor
  · exact fun hrebuilt => ⟨hrebuilt.figures, fun _ => hrebuilt.cited⟩
  · intro hcover
    have hcited : ∀ e, CitesId report e → realOf synth e ∈ evidenceIds state.evidence := by
      by_cases hfinancial : reportTypeOf state = .financial
      · exact hcover.findings hfinancial
      · exact fun e he => realOf_mem hsynth (citesId_correctedDraft hfinancial h he)
    refine ⟨hcited, fun hempty e he => ?_, hcover.figures⟩
    have hfinancial := hpass.resolve_right (not_not_intro hempty)
    have he' := citesId_of_summaryId_financial hfinancial h he
    have hmem := hcited e he'
    rw [hempty] at hmem
    refine (listedAmong_of_mem (.inl ⟨e, he', ?_⟩)).mpr hmem
    rw [hempty]
    rfl

/-- The report of a run without the salary answer is traceable just if the draft's sources, or the
ones rebuilt from it, cover it. -/
theorem traceable_draftReport_iff {state : DecisionState F} {pid : ProjectIdentity}
    {candidate : Option (Dict F)} {final : Dict F}
    (h : draftReport state pid candidate = .ok final) :
    Traceable state.evidence final ↔
      ∃ corrected, correctedDraft state pid candidate = .ok corrected ∧
        SourcesCover state corrected := by
  obtain ⟨base, hbase, h⟩ := bind_eq_ok.mp h
  obtain ⟨u, hpreview, h⟩ := bind_eq_ok.mp h
  obtain ⟨corrected, hcorrected, h⟩ := bind_eq_ok.mp h
  obtain ⟨texts, htexts, h⟩ := bind_eq_ok.mp h
  cases h
  obtain ⟨synth, hsynth, hpassed⟩ := correctTexts_spec htexts
  have hseal := sealReport_frame state pid texts
  have hdraft : correctedDraft state pid candidate = .ok corrected :=
    bind_eq_ok.mpr ⟨base, hbase, bind_eq_ok.mpr ⟨u, hpreview, hcorrected⟩⟩
  have hfigures : ∀ e, FigureCites (sealReport state pid texts) e ↔ FigureCites corrected e := by
    intro e
    rw [figureCites_sealReport, FigureCites, FigureCites,
      (correctTexts_frame htexts).dict?_eq (by decide)]
  rw [traceable_passed_iff hpassed (fun e => citesId_frame hseal (by decide))
    (hseal _ (by decide)) hfigures]
  constructor
  · rintro ⟨hown, hrebuilt⟩
    refine ⟨corrected, hdraft, fun synth' hsynth' => ⟨?_, fun hpass => ?_⟩⟩
    · obtain rfl : synth = synth' := Except.ok.inj (hsynth.symm.trans hsynth')
      exact hown
    · obtain rfl : synth = synth' := Except.ok.inj (hsynth.symm.trans hsynth')
      exact (rebuiltSources_iff hdraft hsynth hpass).mp (hrebuilt hpass)
  · rintro ⟨corrected', hdraft', hcover⟩
    obtain rfl : corrected = corrected' := Except.ok.inj (hdraft.symm.trans hdraft')
    obtain ⟨hown, hrebuilt⟩ := hcover synth hsynth
    exact ⟨hown, fun hpass => (rebuiltSources_iff hdraft hsynth hpass).mpr (hrebuilt hpass)⟩

end Passes

/-! ### The salary answer -/

section Salary

variable {state : DecisionState F}

omit [Floats F] [Text] in
/-- The salary answer cites items of the pack: the first item of each source, or the first one of
all. -/
theorem mem_salaryFindings {f : Finding F} (hf : f ∈ salaryFindings state) :
    ∃ ev ∈ state.evidence, f.evidenceIds = [.str ev.evidenceId] := by
  unfold salaryFindings at hf
  dsimp only at hf
  split at hf
  · next ev rest hnil hevidence =>
    split at hf
    · rw [List.mem_singleton.mp hf]
      exact ⟨ev, hevidence ▸ List.mem_cons_self, rfl⟩
    · cases hf
  · obtain ⟨src, -, hsrc⟩ := List.mem_filterMap.mp hf
    split at hsrc
    · next eid heid =>
      obtain ⟨ev, hev, rfl⟩ := Option.map_eq_some_iff.mp heid
      split at hsrc
      · cases hsrc
        exact ⟨ev, List.mem_of_find?_eq_some hev, rfl⟩
      · cases hsrc
    · cases hsrc

omit [Text] in
/-- The availability report cites items of the pack only. -/
private theorem citesId_salary {pid : ProjectIdentity} {e : String}
    (h : CitesId (buildSalaryAvailabilityReport state pid) e) :
    e ∈ evidenceIds state.evidence := by
  -- the summary and the one action cite what the first finding cites
  have hhead : ∀ v ∈ (((salaryFindings state).head?.map (·.evidenceIds)).getD [] : List (Value F)),
      ∃ ev ∈ state.evidence, v = .str ev.evidenceId := by
    intro v hv
    cases hfindings : salaryFindings state with
    | nil =>
      rw [hfindings] at hv
      cases hv
    | cons f fs =>
      rw [hfindings] at hv
      obtain ⟨ev, hev, hids⟩ := mem_salaryFindings (hfindings ▸ List.mem_cons_self : f ∈ _)
      change v ∈ f.evidenceIds at hv
      rw [hids] at hv
      exact ⟨ev, hev, List.mem_singleton.mp hv⟩
  have hempty : ∀ sec, (buildSalaryAvailabilityReport state pid).get? sec = some (.list []) →
      ¬ CitesIn (buildSalaryAvailabilityReport state pid) sec e := by
    rintro sec hget ⟨items, hitems, item, hitem, -⟩
    rw [(sectionHas_of_list hget).mp hitems] at hitem
    cases hitem
  obtain ⟨sec, hsec, hcites⟩ := h
  simp only [claimSections, List.mem_cons, List.not_mem_nil, or_false] at hsec
  -- the sections in order; causes, delay and contract are empty lists
  rcases hsec with rfl | rfl | rfl | rfl | rfl | rfl
  · obtain ⟨items, hitems, item, hitem, es, hes, he⟩ := hcites
    rw [(sectionHas_of_list rfl).mp hitems] at hitem
    split at hitem
    · cases hitem
    · rw [List.mem_singleton.mp hitem] at hes
      exact cited_of_ids rfl hhead hes he
  · obtain ⟨items, hitems, item, hitem, es, hes, he⟩ := hcites
    rw [(sectionHas_of_list rfl).mp hitems] at hitem
    obtain ⟨f, hf, rfl⟩ := List.mem_map.mp hitem
    obtain ⟨ev, hev, hids⟩ := mem_salaryFindings hf
    have hlist : Dict.getD [("text", .str f.text), ("evidence_ids", .list f.evidenceIds),
        ("confidence", .str f.confidence)] "evidence_ids" (.list []) =
          (.list f.evidenceIds : Value F) := rfl
    refine cited_of_ids hlist (fun v hv => ⟨ev, hev, ?_⟩) hes he
    rw [hids] at hv
    exact List.mem_singleton.mp hv
  · exact absurd hcites (hempty _ rfl)
  · exact absurd hcites (hempty _ rfl)
  · exact absurd hcites (hempty _ rfl)
  · obtain ⟨items, hitems, item, hitem, es, hes, he⟩ := hcites
    rw [(sectionHas_of_list rfl).mp hitems] at hitem
    rw [List.mem_singleton.mp hitem] at hes
    exact cited_of_ids rfl hhead hes he

omit [Floats F] [Text] in
private theorem citedFigure_emptySnapshot {key : String} (hkey : key ∈ shownKeys) :
    citedFigure (emptySnapshot : Dict F) key = none := by
  simp only [shownKeys, finRows, List.map_cons, List.map_nil, List.cons_append, List.nil_append,
    List.mem_cons, List.not_mem_nil, or_false] at hkey
  rcases hkey with rfl | rfl | rfl | rfl | rfl | rfl | rfl | rfl | rfl <;> rfl

omit [Text] in
/-- The salary answer lists every item of the pack, and cites only these. -/
theorem traceable_salary (pid : ProjectIdentity) :
    Traceable state.evidence (buildSalaryAvailabilityReport state pid) := by
  have hsources : sourceValues (buildSalaryAvailabilityReport state pid) =
      state.evidence.map salarySource := rfl
  refine ⟨fun e he => ?_, ?_, fun src hsrc => ?_⟩
  · obtain ⟨ev, hev, rfl⟩ := List.mem_map.mp (citesId_salary he)
    refine ⟨salarySource ev, ?_, _, rfl, .inl rfl⟩
    rw [hsources]
    exact List.mem_map_of_mem hev
  · rintro e ⟨fs, hfs, key, hkey, node, hnode, -⟩
    obtain rfl : emptySnapshot = fs := Option.some.inj hfs
    rw [citedFigure_emptySnapshot hkey] at hnode
    cases hnode
  · rw [hsources] at hsrc
    obtain ⟨ev, hev, rfl⟩ := List.mem_map.mp hsrc
    exact ⟨ev, hev, _, rfl, .inl rfl⟩

end Salary

/-! ### The node -/

/-- After node 12 the report is traceable exactly when the answer is the salary answer, or the
sources of the corrected draft cover it. What covers it is a condition on the report that goes into
the passes on citations: its own sources, or the ones that these rebuild. -/
theorem traceable_draftRun_iff {mapping : ProjectMapping} {replies : DraftReplies F}
    {state state' : DecisionState F} (h : draftRun mapping replies state = .ok state') :
    (∃ report, state'.reportJson = some report ∧ Traceable state.evidence report) ↔
      (salaryPath state = true ∨ ∃ corrected, correctedDraft (typedState state)
          (draftIdentity mapping state) replies.candidate = .ok corrected ∧
        SourcesCover (typedState state) corrected) := by
  rcases draftRun_cases h with ⟨hsalary, -, hjson⟩ | ⟨hsalary, -, report, hreport, hjson⟩
  · have hsalaried : Traceable (typedState state).evidence (buildSalaryAvailabilityReport
        (typedState state) (draftIdentity mapping state)) := traceable_salary _
    exact iff_of_true ⟨_, hjson, hsalaried⟩ (.inl hsalary)
  · have hiff : Traceable (typedState state).evidence report ↔ _ :=
      traceable_draftReport_iff hreport
    simp only [hjson, hsalary, Option.some_inj, exists_eq_left', Bool.false_eq_true, false_or]
    exact hiff

end Traceability

section Whole

open Py.Whole

/-- Node 12 on one posting, when nothing of the LLM's can be parsed. -/
def unparsedRun : Except Error (DecisionState ℤ) :=
  draftRun (fun _ => none) ⟨none, none, none⟩ (statusState onePosting)

/-- What goes into the passes on citations then. -/
def unparsedDraft : Except Error (Dict ℤ) :=
  correctedDraft (typedState (statusState onePosting))
    (draftIdentity (fun _ => none) (statusState onePosting)) none

/-- The figures of the report that is built from one posting all carry its id. -/
theorem figureCites_unparsedDraft {corrected : Dict ℤ} {e : String}
    (h : unparsedDraft = .ok corrected) (hcites : FigureCites corrected e) :
    e = "odoo-account-analytic-line-1" := by
  have hids : (unparsedDraft.toOption.bind (·.dict? "financial_snapshot")).map (fun fs =>
      shownKeys.all fun key => ((citedFigure fs key).map fun node =>
        (attachedIds key node).all (·.eqStr "odoo-account-analytic-line-1")).getD true) =
      some true := by decide
  obtain ⟨fs, hfs, key, hkey, node, hnode, he⟩ := hcites
  rw [h, Except.toOption, Option.bind_some, hfs, Option.map_some] at hids
  have hkeys := List.all_eq_true.mp (Option.some.inj hids) key hkey
  rw [hnode, Option.map_some, Option.getD_some] at hkeys
  exact Value.str.inj (Value.eqStr_iff.mp (List.all_eq_true.mp hkeys _ he))

private theorem actualId_unparsedDraft {corrected : Dict ℤ} (h : unparsedDraft = .ok corrected) :
    ActualId corrected "odoo-account-analytic-line-1" := by
  have hid : ((unparsedDraft.toOption.bind (·.dict? "financial_snapshot")).bind
      (·.dict? "actual_cost")).map (fun actual => ((actual.get "evidence_id").orElse
        (.str "")).eqStr "odoo-account-analytic-line-1") = some true := by decide
  rw [h] at hid
  obtain ⟨actual, hactual, hid⟩ := Option.map_eq_some_iff.mp hid
  obtain ⟨fs, hfs, hactual⟩ := Option.bind_eq_some_iff.mp hactual
  exact ⟨fs, actual, hfs, hactual, Value.eqStr_iff.mp hid⟩

/-- The sources rebuilt for it list the posting. -/
theorem traceable_unparsedRun : ∃ state', unparsedRun = .ok state' ∧
    ∃ report, state'.reportJson = some report ∧ Traceable onePosting report := by
  obtain ⟨state', hrun⟩ : Completes unparsedRun := completes_of_isSome (by decide)
  obtain ⟨corrected, hcorrected⟩ : Completes unparsedDraft := completes_of_isSome (by decide)
  refine ⟨state', hrun, (traceable_draftRun_iff hrun).mpr (.inr ⟨corrected, hcorrected, ?_⟩)⟩
  intro synth hsynth
  have hremapped : (unparsedDraft.toOption.bind fun c =>
      (synthToReal c onePosting).toOption).map List.isEmpty = some false := by decide
  rw [hcorrected, Except.toOption, Option.bind_some] at hremapped
  change synthToReal corrected onePosting = .ok synth at hsynth
  rw [hsynth] at hremapped
  have hne : synth ≠ [] := by
    rintro rfl
    cases hremapped
  refine ⟨fun _ hempty => absurd hempty hne, fun _ => ⟨fun e he => ?_, fun hfinancial => ?_⟩⟩
  · obtain rfl := figureCites_unparsedDraft hcorrected he
    refine (listedAmong_of_mem (.inr (.inr ⟨by decide, ?_⟩))).mpr (by decide)
    exact actualId_unparsedDraft hcorrected
  · exact absurd hfinancial (by decide)

/-- A draft that cites the posting and has no sources keeps none. The sources are rebuilt only for a
financial report, or where something was redirected. -/
theorem not_traceable_noSources :
    ¬ ∀ (mapping : ProjectMapping) (replies : DraftReplies ℤ) (state state' : DecisionState ℤ),
      draftRun mapping replies state = .ok state' →
        ∃ report, state'.reportJson = some report ∧ Traceable state.evidence report := by
  intro h
  obtain ⟨state', hrun⟩ : Completes (figureRun "actual_cost" 999) :=
    completes_of_isSome (by decide)
  obtain ⟨report, hreport, htraceable⟩ := h _ _ _ _ hrun
  have hcited : ((figureRun "actual_cost" 999).toOption.bind (·.reportJson)).map (fun r =>
      ((citedInSections r).toOption, (sourceValues r).isEmpty)) =
        some (some ["odoo-account-analytic-line-1"], true) := by decide
  rw [hrun, Except.toOption, Option.bind_some, hreport, Option.map_some] at hcited
  obtain ⟨hids, hempty⟩ := Prod.mk.inj (Option.some.inj hcited)
  cases hsections : citedInSections report with
  | error _ =>
    rw [hsections] at hids
    cases hids
  | ok ids =>
    rw [hsections] at hids
    have hcites : CitesId report "odoo-account-analytic-line-1" := by
      rw [← mem_citedInSections hsections, Option.some.inj hids]
      exact List.mem_singleton_self _
    obtain ⟨src, hsrc, -⟩ := htraceable.cited _ hcites
    rw [List.isEmpty_iff.mp hempty] at hsrc
    cases hsrc

end Whole

end DecisionCenter
