import DecisionCenter.Exporters.MarkdownSpec
import DecisionCenter.Graph.CitedFigures
import DecisionCenter.Graph.GateSpec
import DecisionCenter.Graph.SectionSpec

/-!
# What a passed document cites

The gate looks at the objects of the claim-bearing sections and at the figures that are marked
available; the exporter lists every item of a section and shows every figure with a value. What
the document of a passed report shows is cited exactly when there is nothing between the two.

`DocumentCited` is the property of the document: every item it shows of a claim-bearing section
is an object that cites at least one id, all its ids are ids of the evidence pack, and so is the
id of every figure with a value. It is a property of lines, each of which remembers what it
shows, and so of what a reader of the document has before them.

`documentCited_iff` gives the exact condition for a report that node 12 has drafted and the gate
has passed: the answer is the availability report, no draft of the LLM has been taken, or the
draft has nothing that the gate overlooks and the document shows (`DraftCited`): an item that is
no object in a listed section, or a figure with a value that is not marked available.

The condition is on the draft before the checks. For the way back from the report to the draft
it is used what each pass of node 12 leaves alone, and that the passes which stamp items with
ids do so in the sections that they name only.
-/

namespace DecisionCenter

open Py

variable {F : Type} [Floats F]

/-- Every item the document shows of a claim-bearing section cites the pack, and every number of
the snapshot carries the id of an Odoo item. -/
structure DocumentCited (evidence : List (Evidence F)) (lines : List (Line F)) : Prop where
  claims : ∀ p ∈ lines.filterMap Line.claim?, Cited (evidenceIds evidence) p.2
  figures : ∀ p ∈ lines.filterMap Line.figure?,
    ∃ e ∈ evidenceIds (odooEvidence evidence), .str e ∈ attachedIds p.1 p.2

/-! ### The sections of a passed report -/

section Sections

variable {report report' : Dict F} {ids : List String} {sec : String}

omit [Floats F] in
/-- A report that passes still does when other keys than those of its claims and figures are
changed. -/
theorem PassedReport.of_frame {keys : List String} (h : PassedReport ids report)
    (hframe : Dict.Frame keys report report') (hclaims : ∀ sec ∈ claimSections, sec ∉ keys)
    (hfigures : "financial_snapshot" ∉ keys) : PassedReport ids report' where
  claims sec hsec items hitems := by
    rw [Dict.getD, hframe sec (hclaims sec hsec)] at hitems
    exact h.claims sec hsec items hitems
  figures fs hfs := by
    rw [hframe.dict?_eq hfigures] at hfs
    exact h.figures fs hfs

private theorem mem_itemsOf {v item : Value F} (h : item ∈ itemsOf v) :
    ∃ items, v.iter = .ok items ∧ item ∈ items := by
  unfold itemsOf at h
  split at h
  · cases hiter : v.iter with
    | ok items =>
      rw [hiter] at h
      exact ⟨items, rfl, h⟩
    | error e =>
      rw [hiter] at h
      cases h
  · cases h

omit [Floats F] in
private theorem itemsOf_list [Floats F] (items : List (Value F)) :
    itemsOf (.list items) = items := by
  cases items <;> rfl

private theorem sectionItems_of_list {items : List (Value F)}
    (h : report.get? sec = some (.list items)) : sectionItems report sec = items := by
  rw [sectionItems, Dict.getD, h, Option.getD_some, itemsOf_list]

omit [Floats F] in
/-- Only an object cites. -/
theorem Cited.isDict {item : Value F} (h : Cited ids item) : item.isDict = true := by
  obtain ⟨d, -, rfl, -⟩ := h
  rfl

/-- The objects of a section of a passed report are cited. -/
theorem PassedReport.cited_object (h : PassedReport ids report) (hsec : sec ∈ claimSections)
    {item : Value F} (hitem : item ∈ sectionItems report sec) (hobject : item.isDict = true) :
    Cited ids item := by
  obtain ⟨items, hiter, hmem⟩ := mem_itemsOf hitem
  cases item with
  | dict d => exact h.claims sec hsec items hiter d hmem
  | _ => cases hobject

/-- The items shown of a passed report are cited just if the listed sections have no others than
objects. -/
theorem claims_cited_iff {policy : ReportPolicy} (h : PassedReport ids report)
    (hlist : ∀ sec ∈ listedSections policy, IsListed report sec)
    (hlisted : listedSections policy ⊆ claimSections) :
    (∀ p ∈ summaryItems report ++ (listedSections policy).flatMap (namedItems report),
        Cited ids p.2) ↔ ∀ sec ∈ listedSections policy, ObjectsOnly report sec := by
  constructor
  · intro hcited sec hsec
    obtain ⟨items, hitems⟩ := hlist sec hsec
    rw [objectsOnly_of_list hitems]
    intro item hitem
    refine (hcited (sec, item) (List.mem_append_right _ ?_)).isDict
    refine List.mem_flatMap.mpr ⟨sec, hsec, List.mem_map.mpr ⟨item, ?_, rfl⟩⟩
    rw [sectionItems_of_list hitems]
    exact hitem
  · intro hobjects p hp
    rcases List.mem_append.mp hp with hsummary | hsections
    · obtain ⟨hnamed, hobject⟩ := List.mem_filter.mp hsummary
      obtain ⟨item, hitem, rfl⟩ := List.mem_map.mp hnamed
      exact h.cited_object (by decide) hitem hobject
    · obtain ⟨sec, hsec, hnamed⟩ := List.mem_flatMap.mp hsections
      obtain ⟨item, hitem, rfl⟩ := List.mem_map.mp hnamed
      obtain ⟨items, hitems⟩ := hlist sec hsec
      refine h.cited_object (hlisted hsec) hitem ?_
      rw [sectionItems_of_list hitems] at hitem
      exact (objectsOnly_of_list hitems).mp (hobjects sec hsec) item hitem

omit [Floats F] in
/-- The figures shown are cited just if those of the snapshot are. -/
theorem figures_cited_iff {evidence : List (Evidence F)} {fs : Dict F}
    (hfs : report.dict? "financial_snapshot" = some fs) :
    (∀ p ∈ shownFigures report, ∃ e ∈ evidenceIds (odooEvidence evidence),
        .str e ∈ attachedIds p.1 p.2) ↔ SnapshotCited evidence fs := by
  rw [shownFigures, hfs, Option.getD_some]
  constructor
  · intro hshown key hkey node hnode
    exact hshown (key, node) (List.mem_filterMap.mpr
      ⟨key, hkey, by rw [shownFigure, hnode]; rfl⟩)
  · intro hcited p hp
    obtain ⟨key, hkey, hfigure⟩ := List.mem_filterMap.mp hp
    obtain ⟨node, hnode, rfl⟩ := Option.map_eq_some_iff.mp hfigure
    exact hcited key hkey node hnode

end Sections

/-! ### The drafted report -/

section Drafts

variable [Text]

/-- What a draft of the LLM has to look like, if it is taken, for what its document shows to be
cited: only objects in the sections the document lists, those apart that a financial report
replaces, and where the document has the snapshot, no figure that the passes leave alone and that
has a value without the id of an Odoo item. -/
structure DraftCited (state : DecisionState F) (candidate : Option (Dict F)) : Prop where
  objects : ∀ sec ∈ listedSections (policyOf (reportTypeOf state)),
    (reportTypeOf state = .financial ∧ sec ∈ replacedSections) ∨ ∀ draft, candidate = some draft →
      (∃ accepted, acceptDraft state.evidence draft = .ok (some accepted)) → ObjectsOnly draft sec
  figures : (policyOf (reportTypeOf state)).renders .financialSnapshot = true →
    ∀ draft fs, candidate = some draft → CorrectedSnapshot state.evidence draft fs →
      LeftoversCited state.evidence fs

omit [Floats F] [Text] in
private theorem listedSections_subset (policy : ReportPolicy) :
    listedSections policy ⊆ itemSections := by
  intro sec hsec
  rw [listedSections] at hsec
  revert hsec
  cases policy.renders .rootCauses <;> cases policy.renders .delayAnalysis <;>
    cases policy.renders .contractual <;> simp [itemSections, replacedSections] <;> tauto

/-- The keys under which node 13 writes its findings. -/
def stampKeys : List String :=
  ["quality_gate_status", "evidence_completeness", "analytical_completeness"]

/-- What the document of a report of a known type shows, once the report has passed. The gate has
looked at every object and at every gated figure, so that what may be without evidence is what is no
object, and a figure that is not gated. -/
theorem documentCited_of_passed {evidence : List (Evidence F)} {t : ReportType}
    {report stamped fs : Dict F} {generatedAt : String} {lines : List (Line F)}
    (hpassed : PassedReport (evidenceIds evidence) report)
    (hframe : Dict.Frame stampKeys report stamped) (ht : report.get "report_type" = .str t.toStr)
    (hlist : ∀ sec ∈ listedSections (policyOf t), IsListed report sec)
    (hfs : report.dict? "financial_snapshot" = some fs)
    (hlines : toMarkdown stamped generatedAt = .ok lines) :
    DocumentCited evidence lines ↔
      (∀ sec ∈ listedSections (policyOf t), ObjectsOnly report sec) ∧
        ((policyOf t).renders .financialSnapshot = true → SnapshotCited evidence fs) := by
  obtain ⟨policy, hpolicy, hclaims, hfigures⟩ := shown_toMarkdown hlines
  have htype : stamped.getD "report_type" (.str "executive_decision") = .str t.toStr := by
    rw [Dict.getD, hframe _ (by decide)]
    rw [Dict.get, Dict.getD] at ht
    cases hget : report.get? "report_type" with
    | none =>
      rw [hget] at ht
      cases ht
    | some v =>
      rw [hget] at ht
      exact ht
  rw [htype, policyFor_toStr] at hpolicy
  obtain rfl : policyOf t = policy := Except.ok.inj hpolicy
  -- the stamps of node 13 are no sections, so they change neither claims nor figures
  have hsame : ∀ sec ∈ listedSections (policyOf t), sec ∉ stampKeys ∧ sec ∈ claimSections := by
    intro sec hsec
    have hitem := listedSections_subset _ hsec
    refine ⟨?_, itemSections_subset hitem⟩
    rintro hkey
    revert hitem
    simp only [stampKeys, List.mem_cons, List.not_mem_nil, or_false] at hkey
    rcases hkey with rfl | rfl | rfl <;> decide
  have hstamped : PassedReport (evidenceIds evidence) stamped :=
    hpassed.of_frame hframe (by decide) (by decide)
  have hstampedList : ∀ sec ∈ listedSections (policyOf t), IsListed stamped sec := by
    intro sec hsec
    rw [isListed_iff, shape?_of_frame hframe (hsame sec hsec).1, ← isListed_iff]
    exact hlist sec hsec
  -- claims and figures apart, each as the document shows them
  have hclaimsIff := claims_cited_iff hstamped hstampedList fun sec hsec => (hsame sec hsec).2
  have hobjects : (∀ sec ∈ listedSections (policyOf t), ObjectsOnly stamped sec) ↔
      ∀ sec ∈ listedSections (policyOf t), ObjectsOnly report sec :=
    forall₂_congr fun sec hsec => objectsOnly_congr (shape?_of_frame hframe (hsame sec hsec).1)
  have hfiguresIff : (∀ p ∈ lines.filterMap Line.figure?,
      ∃ e ∈ evidenceIds (odooEvidence evidence), .str e ∈ attachedIds p.1 p.2) ↔
        ((policyOf t).renders .financialSnapshot = true → SnapshotCited evidence fs) := by
    rw [hfigures]
    cases hrenders : (policyOf t).renders .financialSnapshot with
    | true =>
      rw [if_pos rfl, figures_cited_iff ((hframe.dict?_eq (by decide)).trans hfs)]
      exact ⟨fun h _ => h, fun h => h rfl⟩
    | false =>
      rw [if_neg Bool.false_ne_true]
      exact iff_of_true (fun p hp => by cases hp) fun h => by cases h
  rw [← hobjects, ← hclaimsIff, ← hclaims, ← hfiguresIff]
  exact ⟨fun h => ⟨h.claims, h.figures⟩, fun h => ⟨h.1, h.2⟩⟩

omit [Floats F] [Text] in
/-- An available estimate of a passed report has an id. -/
theorem PassedReport.estimate_id {report fs : Dict F} {ids : List String}
    (h : PassedReport ids report) (hfs : report.dict? "financial_snapshot" = some fs) :
    ∀ node, availableFigure fs "estimate" = some node → node.get "evidence_id" ≠ .str "" := by
  intro node hnode hempty
  obtain ⟨hdict, hstatus, -⟩ := availableFigure_eq_some.mp hnode
  obtain ⟨e, -, hid, hne⟩ := h.figures fs hfs "estimate" (by decide) node hdict hstatus
  rw [hid] at hempty
  cases hempty
  exact hne rfl

omit [Floats F] [Text] in
/-- The report of a salary question has nothing that is shown without being looked at. Its items are
built here, as objects, and its snapshot is empty. -/
theorem salaryReport_shown (state : DecisionState F) (pid : ProjectIdentity) :
    (∀ sec ∈ itemSections, ObjectsOnly (buildSalaryAvailabilityReport state pid) sec) ∧
      SnapshotCited state.evidence (emptySnapshot : Dict F) := by
  have hempty : ∀ item ∈ ([] : List (Value F)), item.isDict = true := fun item hitem => by
    cases hitem
  constructor
  · intro sec hsec
    simp only [itemSections, replacedSections, List.cons_append, List.nil_append, List.mem_cons,
      List.not_mem_nil, or_false] at hsec
    rcases hsec with rfl | rfl | rfl | rfl | rfl
    · refine (objectsOnly_of_list rfl).mpr fun item hitem => ?_
      obtain ⟨finding, -, rfl⟩ := List.mem_map.mp hitem
      rfl
    · exact (objectsOnly_of_list rfl).mpr hempty
    · exact (objectsOnly_of_list rfl).mpr hempty
    · exact (objectsOnly_of_list rfl).mpr hempty
    · refine (objectsOnly_of_list rfl).mpr fun item hitem => ?_
      rw [List.mem_singleton.mp hitem]
      rfl
  · intro key hkey node hnode
    simp only [shownKeys, finRows, List.map_cons, List.map_nil, List.cons_append, List.nil_append,
      List.mem_cons, List.not_mem_nil, or_false] at hkey
    rcases hkey with rfl | rfl | rfl | rfl | rfl | rfl | rfl | rfl | rfl <;> cases hnode

/-- Of a report that passes, the document shows only what is cited exactly when the answer is the
availability report, no draft of the LLM is taken, or the draft has nothing that the gate overlooks
and the document shows. The gate reads objects, and the document prints what is none of them as
well. -/
theorem documentCited_iff {mapping : ProjectMapping} {replies : DraftReplies F}
    {state drafted gated : DecisionState F} {report : Dict F} {generatedAt : String}
    {lines : List (Line F)} (hdraft : draftRun mapping replies state = .ok drafted)
    (hgate : gateRun drafted = .ok gated) (hpassed : gated.outputs.qualityGate = some .passed)
    (hreport : gated.reportJson = some report)
    (hlines : toMarkdown report generatedAt = .ok lines) :
    DocumentCited state.evidence lines ↔
      (salaryPath state = true ∨ DraftCited state replies.candidate) := by
  unfold draftRun at hdraft
  cases hsalary : salaryPath state with
  | true =>
    simp only [hsalary, if_true] at hdraft
    cases hdraft
    -- the availability report shows no figure and lists objects alone
    have htype := reportType_salaryReport { state with outputs :=
      { state.outputs with reportType := some (reportTypeOf state) } } (draftIdentity mapping state)
    obtain ⟨hcited, stamped, hstamped, hframe⟩ :=
      passedReport_of_gateRun rfl htype hgate hpassed
    obtain rfl : stamped = report := Option.some.inj (hstamped.symm.trans hreport)
    obtain ⟨hobjects, hsnapshot⟩ := salaryReport_shown { state with outputs :=
      { state.outputs with reportType := some (reportTypeOf state) } } (draftIdentity mapping state)
    refine iff_of_true ((documentCited_of_passed hcited hframe htype (fun sec hsec => ?_) rfl
      hlines).mpr ⟨fun sec hsec => ?_, fun _ => hsnapshot⟩) (.inl rfl)
    · exact (hobjects sec (listedSections_subset _ hsec)).isListed
    · exact hobjects sec (listedSections_subset _ hsec)
  | false =>
    simp only [hsalary, Bool.false_eq_true, if_false] at hdraft
    obtain ⟨base, hbase, hdraft⟩ := bind_eq_ok.mp hdraft
    cases hdraft
    -- otherwise sections and figures are, in turn, those of the draft
    have htype := reportType_draftReport hbase
    obtain ⟨hcited, stamped, hstamped, hframe⟩ :=
      passedReport_of_gateRun rfl htype hgate hpassed
    obtain rfl : stamped = report := Option.some.inj (hstamped.symm.trans hreport)
    obtain ⟨-, -, -, -, fs, -, -, -, -, hfs, -⟩ := draftReport_snapshot hbase
    have hlist : ∀ sec ∈ listedSections (policyOf (reportTypeOf state)), IsListed base sec :=
      fun sec hsec => isListed_draftReport hbase (listedSections_subset _ hsec)
    refine (documentCited_of_passed hcited hframe htype hlist hfs hlines).trans ?_
    have hobjects := forall₂_congr fun sec (hsec : sec ∈ listedSections
      (policyOf (reportTypeOf state))) => objectsOnly_draftReport hbase
        (listedSections_subset _ hsec)
    have hfigures := snapshotCited_draftReport_iff hbase hfs (hcited.estimate_id hfs)
    constructor
    · rintro ⟨hshown, hsnapshot⟩
      exact .inr ⟨hobjects.mp hshown, fun hrenders => hfigures.mp (hsnapshot hrenders)⟩
    · rintro (hfalse | hdrafted)
      · cases hfalse
      · exact ⟨hobjects.mpr hdrafted.objects,
          fun hrenders => hfigures.mpr (hdrafted.figures hrenders)⟩

end Drafts

section Whole

open Py.Whole

/-- A report of the LLM with a cited summary and one finding. -/
def findingDraft (finding : Value ℤ) : Dict ℤ :=
  [("executive_summary", .list [.dict [("claim", .str "Concrete supply was posted."),
      ("text", .str "Concrete supply was posted."),
      ("evidence_ids", .list [.str "odoo-account-analytic-line-1"])]]),
    ("key_findings", .list [finding]), ("root_causes", .list []), ("delay_analysis", .list []),
    ("contractual_implications", .list []), ("recommended_actions", .list []),
    ("financial_snapshot", .dict [])]

/-- A status query over one posting, for a project with a verified name. -/
def depotState : DecisionState ℤ :=
  let state := statusState onePosting
  { state with
    outputs := { state.outputs with
      projectIdentity := some ⟨"P1", "Depot", "mapping", "verified", [], []⟩ } }

/-- A finding as the prompt asks for it. -/
def citedFinding : Value ℤ :=
  .dict [("text", .str "Concrete supply was posted."),
    ("evidence_ids", .list [.str "odoo-account-analytic-line-1"])]

/-- A finding that is a bare text. -/
def bareFinding : Value ℤ := .str "The works are 80 percent complete."

/-- Node 12, when the LLM returns the report with the given finding. -/
def findingRun (finding : Value ℤ) : Except Error (DecisionState ℤ) :=
  draftRun (fun _ => none) ⟨some (.dict (findingDraft finding)), none, none⟩ depotState

/-- The document of the report, if it passes. -/
def findingDocument (finding : Value ℤ) : Option (List (Line ℤ)) :=
  (findingRun finding).toOption.bind fun drafted => (gateRun drafted).toOption.bind fun gated =>
    (gated.reportJson.filter fun _ => decide (gated.outputs.qualityGate = some .passed)).bind
      fun report => (toMarkdown report "2026-01-01T00:00:00+00:00").toOption

private theorem findingDocument_eq_some {finding : Value ℤ} {lines : List (Line ℤ)}
    (h : findingDocument finding = some lines) :
    ∃ drafted gated report, findingRun finding = .ok drafted ∧ gateRun drafted = .ok gated ∧
      gated.outputs.qualityGate = some .passed ∧ gated.reportJson = some report ∧
      toMarkdown report "2026-01-01T00:00:00+00:00" = .ok lines := by
  obtain ⟨drafted, hdrafted, h⟩ := Option.bind_eq_some_iff.mp h
  obtain ⟨gated, hgated, h⟩ := Option.bind_eq_some_iff.mp h
  obtain ⟨report, hreport, hlines⟩ := Option.bind_eq_some_iff.mp h
  obtain ⟨hreport, hpassed⟩ := Option.filter_eq_some_iff.mp hreport
  exact ⟨drafted, gated, report, eq_ok_of_toOption hdrafted, eq_ok_of_toOption hgated,
    of_decide_eq_true hpassed, hreport, eq_ok_of_toOption hlines⟩

/-- A draft that has only objects and no figures meets the condition. -/
theorem draftCited_finding : DraftCited depotState (some (findingDraft citedFinding)) where
  objects sec hsec := by
    refine .inr ?_
    rintro draft ⟨⟩ -
    have hempty : ∀ item ∈ ([] : List (Value ℤ)), item.isDict = true := fun item hitem => by
      cases hitem
    have hitem := listedSections_subset _ hsec
    simp only [itemSections, replacedSections, List.cons_append, List.nil_append, List.mem_cons,
      List.not_mem_nil, or_false] at hitem
    rcases hitem with rfl | rfl | rfl | rfl | rfl
    · refine (objectsOnly_of_list rfl).mpr fun item hitem => ?_
      rw [List.mem_singleton.mp hitem]
      rfl
    · exact (objectsOnly_of_list rfl).mpr hempty
    · exact (objectsOnly_of_list rfl).mpr hempty
    · exact (objectsOnly_of_list rfl).mpr hempty
    · exact (objectsOnly_of_list rfl).mpr hempty
  figures _ := by
    rintro draft fs ⟨⟩ ⟨canonical, accepted, ⟨-, normal, hnormal, hcanonical⟩, hpass, hpass'⟩
    have hsnapshot : (normalizeFinancialSnapshot (findingDraft citedFinding)).toOption.bind
        (·.dict? "financial_snapshot") = some [] := rfl
    rw [hnormal] at hsnapshot
    obtain rfl : canonical = [] := Option.some.inj (hcanonical.symm.trans hsnapshot)
    obtain rfl : [] = accepted := Except.ok.inj hpass
    obtain rfl : [] = fs := Except.ok.inj hpass'
    have hnone : ∀ key, Carries (evidenceIds (odooEvidence depotState.evidence)) key
        (Dict.get ([] : Dict ℤ) key) := fun key node hnode => by cases hnode
    exact ⟨fun key _ => hnone key, hnone _, fun _ => hnone _, fun _ => hnone _⟩

/-- The document of a report with a cited finding. -/
theorem documentCited_citedFinding : ∃ lines, findingDocument citedFinding = some lines ∧
    DocumentCited onePosting lines := by
  have hsome : (findingDocument citedFinding).isSome = true := by decide +kernel
  obtain ⟨lines, hdocument⟩ := Option.isSome_iff_exists.mp hsome
  obtain ⟨drafted, gated, report, hdraft, hgate, hpassed, hreport, hlines⟩ :=
    findingDocument_eq_some hdocument
  exact ⟨lines, hdocument,
    (documentCited_iff hdraft hgate hpassed hreport hlines).mpr (.inr draftCited_finding)⟩

/-- A finding that is a bare text passes, and is shown without evidence. -/
theorem not_documentCited_bareFinding :
    ¬ ∀ (mapping : ProjectMapping) (replies : DraftReplies ℤ)
      (state drafted gated : DecisionState ℤ) (report : Dict ℤ) (generatedAt : String)
      (lines : List (Line ℤ)), draftRun mapping replies state = .ok drafted →
        gateRun drafted = .ok gated → gated.outputs.qualityGate = some .passed →
          gated.reportJson = some report → toMarkdown report generatedAt = .ok lines →
            DocumentCited state.evidence lines := by
  intro h
  have hshown : (findingDocument bareFinding).map (fun lines =>
      (lines.filterMap Line.claim?).any fun p => !p.2.isDict) = some true := by decide +kernel
  obtain ⟨lines, hdocument, hbare⟩ := Option.map_eq_some_iff.mp hshown
  obtain ⟨drafted, gated, report, hdraft, hgate, hpassed, hreport, hlines⟩ :=
    findingDocument_eq_some hdocument
  have hcited := h _ _ _ _ _ _ _ _ hdraft hgate hpassed hreport hlines
  obtain ⟨p, hp, hbare⟩ := List.any_eq_true.mp hbare
  rw [(hcited.claims p hp).isDict] at hbare
  cases hbare

end Whole

end DecisionCenter
