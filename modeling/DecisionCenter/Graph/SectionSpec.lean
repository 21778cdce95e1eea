import DecisionCenter.Graph.DraftFrame

/-!
# The shape of the sections

Which items of a claim-bearing section are objects. Node 12 rewrites the ids of the objects and
leaves any other item alone, so the shape of a section is that of the draft, unless the section
is replaced: by the evidence-built report, or by the synthesis of a financial report.

`shape?` is a section with its objects replaced by one and the same: the length of the list is
kept, and the items that are none. Two sections of one shape have objects in the same places. It
is what the remapping and the corrections keep (`shape?_remapEvidenceIds`,
`shape?_correctTexts`), and what the acceptance takes over from the draft.

`ObjectsOnly` is the property the renderers ask for, `IsListed` the weaker one that the section
is a list at all. Each pass of node 12 keeps the shape or writes objects, so that for the
finished report there are two cases (`shape?_draftReport`): a section is one of those that are
replaced, and has only objects, or it has the shape that it had in the report which went into
the corrections.

That report is an accepted draft or one that was built from the evidence.
`objectsOnly_draftReport` puts the cases together: the items of a finished report are objects
where they are replaced, and elsewhere if those of the draft are.
-/

namespace DecisionCenter

open Py

variable {F : Type}

/-- Which items of a section are objects, if it is a list. -/
def shape? (report : Dict F) (sec : String) : Option (List Bool) :=
  ((report.get? sec).bind Value.asList?).map fun items => items.map Value.isDict

/-- The section is a list of objects. -/
def ObjectsOnly (report : Dict F) (sec : String) : Prop :=
  ∃ shape, shape? report sec = some shape ∧ ∀ b ∈ shape, b = true

/-- The shape of a section that is a list. -/
theorem shape?_of_list {report : Dict F} {sec : String} {items : List (Value F)}
    (h : report.get? sec = some (.list items)) :
    shape? report sec = some (items.map Value.isDict) := by
  rw [shape?, h]
  rfl

/-- A list has only objects if its items are. -/
theorem objectsOnly_of_list {report : Dict F} {sec : String} {items : List (Value F)}
    (h : report.get? sec = some (.list items)) :
    ObjectsOnly report sec ↔ ∀ item ∈ items, item.isDict = true := by
  rw [ObjectsOnly, shape?_of_list h]
  constructor
  · rintro ⟨shape, hshape, hall⟩ item hitem
    cases hshape
    exact hall _ (List.mem_map_of_mem hitem)
  · intro hall
    refine ⟨_, rfl, fun b hb => ?_⟩
    obtain ⟨item, hitem, rfl⟩ := List.mem_map.mp hb
    exact hall item hitem

/-- The section is a list. -/
def IsListed (report : Dict F) (sec : String) : Prop :=
  ∃ items, report.get? sec = some (.list items)

/-- A section is a list if it has a shape. -/
theorem isListed_iff {report : Dict F} {sec : String} :
    IsListed report sec ↔ shape? report sec ≠ none := by
  constructor
  · rintro ⟨items, hitems⟩
    rw [shape?_of_list hitems]
    exact Option.some_ne_none _
  · intro hsome
    obtain ⟨shape, hshape⟩ := Option.ne_none_iff_exists'.mp hsome
    obtain ⟨items, hitems, -⟩ := Option.map_eq_some_iff.mp hshape
    obtain ⟨v, hv, hlist⟩ := Option.bind_eq_some_iff.mp hitems
    cases v with
    | list xs => exact ⟨xs, hv⟩
    | _ => cases hlist

/-- A section of objects is a list. -/
theorem ObjectsOnly.isListed {report : Dict F} {sec : String} (h : ObjectsOnly report sec) :
    IsListed report sec := by
  obtain ⟨shape, hshape, -⟩ := h
  exact isListed_iff.mpr (hshape ▸ Option.some_ne_none _)

/-- Whether a section has only objects can be told from its shape. -/
theorem objectsOnly_congr {report report' : Dict F} {sec : String}
    (h : shape? report' sec = shape? report sec) :
    ObjectsOnly report' sec ↔ ObjectsOnly report sec := by
  rw [ObjectsOnly, ObjectsOnly, h]

/-- A pass that writes other keys keeps the shape of a section. -/
theorem shape?_of_frame {keys : List String} {report report' : Dict F}
    (h : Dict.Frame keys report report') {sec : String} (hsec : sec ∉ keys) :
    shape? report' sec = shape? report sec := by
  rw [shape?, h sec hsec, shape?]

variable [Floats F]

/-! ### Remapping -/

private theorem isDict_remapItem {synth : List (Value F × String)} {item item' : Value F}
    (h : remapItem synth item = .ok item') : item'.isDict = item.isDict := by
  unfold remapItem at h
  split at h
  · obtain ⟨d', -, h⟩ := bind_eq_ok.mp h
    cases h
    rfl
  · cases h
    rfl

/-- Rewriting the ids of a section keeps its shape, as an object stays an object. -/
private theorem shape?_remapSection {synth : List (Value F × String)} {report report' : Dict F}
    {sec sec' : String} (h : remapSection synth report sec = .ok report') :
    shape? report' sec' = shape? report sec' := by
  unfold remapSection at h
  split at h
  · next items hitems =>
    obtain ⟨items', hitems', h⟩ := bind_eq_ok.mp h
    cases h
    by_cases hsec : sec = sec'
    · subst hsec
      have hshape : items'.map Value.isDict = items.map Value.isDict := by
        have hsteps := mapM_eq_ok.mp hitems'
        clear h hitems' hitems
        induction hsteps with
        | nil => rfl
        | cons hitem _ ih => rw [List.map_cons, List.map_cons, isDict_remapItem hitem, ih]
      rw [shape?_of_list (Dict.get?_set_self _ _ _), shape?_of_list hitems, hshape]
    · exact shape?_of_frame (Dict.Frame.set report _ (List.mem_singleton_self sec))
        fun hmem => hsec (List.mem_singleton.mp hmem).symm
  · obtain ⟨_, -, h⟩ := bind_eq_ok.mp h
    cases h
    rfl
  · cases h
    rfl

variable [Text]

/-- Remapping invented ids keeps the shape of every section. Items are rewritten one by one, objects
to objects. -/
theorem shape?_remapEvidenceIds {report report' : Dict F} {evidence : List (Evidence F)}
    {sec : String} (hsec : sec ∈ claimSections)
    (h : remapEvidenceIds report evidence = .ok report') :
    shape? report' sec = shape? report sec := by
  obtain ⟨synth, -, h⟩ := bind_eq_ok.mp h
  split at h
  · cases h
    rfl
  · obtain ⟨sections, hsections, h⟩ := bind_eq_ok.mp h
    obtain ⟨memo, hmemo, h⟩ := bind_eq_ok.mp h
    obtain ⟨cited, -, h⟩ := bind_eq_ok.mp h
    cases h
    -- section by section; each one is mapped over, which keeps its shape
    have hfold (secs : List String) (d d' : Dict F)
        (hd : secs.foldlM (remapSection synth) d = .ok d') : shape? d' sec = shape? d sec := by
      induction secs generalizing d with
      | nil =>
        cases hd
        rfl
      | cons s secs ih =>
        rw [List.foldlM_cons] at hd
        obtain ⟨next, hnext, hd⟩ := bind_eq_ok.mp hd
        exact (ih next hd).trans (shape?_remapSection hnext)
    have hmemoFrame : Dict.Frame ["management_question_answer"] sections memo :=
      Dict.Frame.modifyM hmemo (by simp)
    have hsources : Dict.Frame ["sources"] memo (memo.set "sources"
        (sourcesFor (fun _ => "Key Findings") evidence cited)) := Dict.Frame.set _ _ (by simp)
    have hne (k : String) (hk : k ∉ claimSections) : sec ∉ [k] := by
      intro hmem
      rw [List.mem_singleton.mp hmem] at hsec
      exact hk hsec
    rw [shape?_of_frame hsources (hne _ (by decide)),
      shape?_of_frame hmemoFrame (hne _ (by decide)),
      hfold _ _ _ hsections]

/-! ### The accepted draft -/

omit [Text] in
/-- The keys the normalisation writes: the snapshot, and the aliases that it folds into it. -/
theorem normalizeFinancialSnapshot_frame {report report' : Dict F}
    (h : normalizeFinancialSnapshot report = .ok report') :
    Dict.Frame ("financial_snapshot" :: topLevelAliases.map Prod.fst) report report' := by
  obtain ⟨⟨r, fs⟩, hfold, h⟩ := bind_eq_ok.mp h
  cases h
  have hstep (entries : List (String × String)) (s s' : Dict F × Dict F)
      (hsub : entries.map Prod.fst ⊆ topLevelAliases.map Prod.fst)
      (hs : entries.foldlM foldAlias s = .ok s') :
      Dict.Frame (topLevelAliases.map Prod.fst) s.1 s'.1 := by
    induction entries generalizing s with
    | nil =>
      cases hs
      exact Dict.Frame.refl _ _
    | cons entry entries ih =>
      rw [List.foldlM_cons] at hs
      obtain ⟨next, hnext, hs⟩ := bind_eq_ok.mp hs
      have hkey : entry.1 ∈ topLevelAliases.map Prod.fst := hsub List.mem_cons_self
      have hframe : Dict.Frame (topLevelAliases.map Prod.fst) s.1 next.1 := by
        unfold foldAlias at hnext
        dsimp only at hnext
        split at hnext
        · obtain ⟨cell, -, hnext⟩ := bind_eq_ok.mp hnext
          cases hnext
          exact Dict.Frame.erase _ hkey
        · cases hnext
          exact Dict.Frame.erase _ hkey
      exact hframe.trans (ih next (fun k hk => hsub (List.mem_cons_of_mem _ hk)) hs)
  have hfolded := hstep topLevelAliases _ _ (List.Subset.refl _) hfold
  exact (hfolded.mono (List.subset_cons_self _ _)).trans (Dict.Frame.set _ _ List.mem_cons_self)

/-- Only a draft whose sections are lists is accepted. -/
theorem list_of_validSections {report : Dict F} {ids secs : List String} {b : Bool}
    (h : validSections report ids secs = .ok (some b)) :
    ∀ sec ∈ secs, ∃ items, report.get sec = .list items := by
  induction secs generalizing b with
  | nil => exact fun sec hsec => by cases hsec
  | cons s secs ih =>
    unfold validSections at h
    split at h
    · next items hitems =>
      obtain ⟨real, -, h⟩ := bind_eq_ok.mp h
      cases real with
      | none => cases h
      | some real =>
        obtain ⟨more, hmore, h⟩ := bind_eq_ok.mp h
        cases more with
        | none => cases h
        | some more => exact List.forall_mem_cons.mpr ⟨⟨items, hitems⟩, ih hmore⟩
    · cases h

/-- An accepted draft keeps the shape of its sections, which are lists. Otherwise its claims would
not be valid. -/
theorem shape?_acceptDraft {evidence : List (Evidence F)} {draft report : Dict F} {sec : String}
    (hsec : sec ∈ claimSections) (h : acceptDraft evidence draft = .ok (some report)) :
    shape? report sec = shape? draft sec ∧ ∃ items, report.get? sec = some (.list items) := by
  obtain ⟨normal, hnormal, h⟩ := bind_eq_ok.mp h
  obtain ⟨enforced, henforced, h⟩ := bind_eq_ok.mp h
  obtain ⟨remapped, hremapped, h⟩ := bind_eq_ok.mp h
  obtain ⟨valid, hvalid, h⟩ := bind_eq_ok.mp h
  cases valid with
  | false => cases h
  | true =>
    cases h
    have hfinancial := onSnapshot_frame henforced
    have hnotAlias : sec ∉ "financial_snapshot" :: topLevelAliases.map Prod.fst := by
      intro hmem
      revert hsec
      simp only [topLevelAliases, List.map_cons, List.map_nil, List.mem_cons,
        List.not_mem_nil, or_false] at hmem
      rcases hmem with rfl | rfl | rfl | rfl | rfl <;> decide
    refine ⟨?_, ?_⟩
    · rw [shape?_remapEvidenceIds hsec hremapped, shape?_of_frame hfinancial (fun hmem =>
          hnotAlias (List.mem_cons.mpr (.inl (List.mem_singleton.mp hmem)))),
        shape?_of_frame (normalizeFinancialSnapshot_frame hnormal) hnotAlias]
    · obtain ⟨sections, hsections, hvalid⟩ := bind_eq_ok.mp hvalid
      cases sections with
      | none => cases hvalid
      | some b =>
        obtain ⟨items, hitems⟩ := list_of_validSections hsections sec hsec
        exact ⟨items, Dict.get?_of_getD hitems nofun⟩

/-! ### Reports without the LLM -/

omit [Text] in
private theorem isDict_financialSnapshotFindings {report : Dict F} {ctx : OdooContext F}
    {items : List (Value F)} (h : financialSnapshotFindings report ctx = .ok items) :
    ∀ item ∈ items, item.isDict = true := by
  intro item hitem
  unfold financialSnapshotFindings at h
  split at h
  · cases h
    cases hitem
  · obtain ⟨figures, -, h⟩ := bind_eq_ok.mp h
    obtain ⟨variance, -, h⟩ := bind_eq_ok.mp h
    cases h
    obtain ⟨finding, -, rfl⟩ := List.mem_map.mp hitem
    rfl

omit [Text] in
private theorem isDict_basicExecutiveSummary (state : DecisionState F)
    (docEv emailEv : List (Evidence F)) (ctx : OdooContext F) (pid : ProjectIdentity) :
    ∀ item ∈ basicExecutiveSummary state docEv emailEv ctx pid, item.isDict = true := by
  intro item hitem
  unfold basicExecutiveSummary at hitem
  have hone (claim : String) (ids : List String)
      (h : item ∈ [(summaryEntry claim ids : Value F)]) : item.isDict = true := by
    rw [List.mem_singleton.mp h]
    rfl
  dsimp only at hitem
  split at hitem
  · exact hone _ _ hitem
  · split at hitem
    · exact hone _ _ hitem
    · split at hitem
      · exact hone _ _ hitem
      · cases hitem

/-- The sections the synthesis of a financial report replaces. -/
def replacedSections : List String :=
  ["key_findings", "root_causes", "delay_analysis", "contractual_implications"]

omit [Text] in
private theorem objectsOnly_synthesis {report report' : Dict F} {state : DecisionState F}
    {ctx : OdooContext F} {pid : ProjectIdentity}
    (h : forceFinancialOdooSynthesis report state ctx pid = .ok report') {sec : String}
    (hsec : sec ∈ replacedSections) : ObjectsOnly report' sec := by
  obtain ⟨findings, hfindings, h⟩ := bind_eq_ok.mp h
  cases h
  have hempty : ∀ item ∈ ([] : List (Value F)), item.isDict = true := fun item hitem => by
    cases hitem
  simp only [replacedSections, List.mem_cons, List.not_mem_nil, or_false] at hsec
  rcases hsec with rfl | rfl | rfl | rfl
  · refine (objectsOnly_of_list ?_).mpr (isDict_financialSnapshotFindings hfindings)
    split <;> simp [Dict.get?_set]
  · exact (objectsOnly_of_list (by simp [Dict.get?_set])).mpr hempty
  · exact (objectsOnly_of_list (by simp [Dict.get?_set])).mpr hempty
  · exact (objectsOnly_of_list (by simp [Dict.get?_set])).mpr hempty

/-- The sections of the draft that the builder starts from. Their items are findings, which are
objects. -/
theorem objectsOnly_builderDraft (state : DecisionState F) (pid : ProjectIdentity)
    (ctx : OdooContext F) {sec : String} (hsec : sec ∈ claimSections) :
    ObjectsOnly (builderDraft state pid ctx) sec := by
  have hempty : ∀ item ∈ ([] : List (Value F)), item.isDict = true := fun item hitem => by
    cases hitem
  have hfindings (docs : List (Evidence F)) (s : String) : ∀ item ∈
      ((docs.filterMap (contentFinding (reportTypeOf state))).filter fun p => decide (p.1 = s)).map
        fun p => p.2.toValue, item.isDict = true := by
    intro item hitem
    obtain ⟨p, -, rfl⟩ := List.mem_map.mp hitem
    rfl
  simp only [claimSections, List.mem_cons, List.not_mem_nil, or_false] at hsec
  rcases hsec with rfl | rfl | rfl | rfl | rfl | rfl
  · exact (objectsOnly_of_list rfl).mpr (isDict_basicExecutiveSummary _ _ _ _ _)
  · exact (objectsOnly_of_list rfl).mpr (hfindings _ _)
  · exact (objectsOnly_of_list rfl).mpr hempty
  · exact (objectsOnly_of_list rfl).mpr (hfindings _ _)
  · exact (objectsOnly_of_list rfl).mpr (hfindings _ _)
  · exact (objectsOnly_of_list rfl).mpr hempty

/-- The item sections of a report: all claim-bearing ones but the executive summary. -/
def itemSections : List String := replacedSections ++ ["recommended_actions"]

omit [Text] in
/-- The sections with items are claim sections. -/
theorem itemSections_subset : itemSections ⊆ claimSections := by decide

/-- All sections that the builder fills have only objects. -/
private theorem objectsOnly_buildReport {state : DecisionState F} {pid : ProjectIdentity}
    {report : Dict F} (h : buildReportFromEvidence state pid = .ok report) {sec : String}
    (hsec : sec ∈ itemSections) : ObjectsOnly report sec := by
  obtain ⟨placed, hplaced, h⟩ := bind_eq_ok.mp h
  have hframe := onSnapshot_frame hplaced
  have hnot : sec ∉ ["financial_snapshot"] := by
    intro hmem
    rw [List.mem_singleton.mp hmem] at hsec
    revert hsec
    decide
  have hdraft : ObjectsOnly placed sec := (objectsOnly_congr (shape?_of_frame hframe hnot)).mpr
    (objectsOnly_builderDraft _ _ _ (itemSections_subset hsec))
  split at h
  · rcases List.mem_append.mp hsec with hreplaced | haction
    · exact objectsOnly_synthesis h hreplaced
    · rw [List.mem_singleton.mp haction] at hdraft ⊢
      exact (objectsOnly_congr (shape?_of_frame (forceFinancialOdooSynthesis_frame h)
        (by decide))).mpr hdraft
  · cases h
    exact hdraft

/-! ### The finished report -/

/-- The corrections of citations, gaps and the decision memo keep the shape of the items. They write
other keys, and the summary, which is no section of items. -/
theorem shape?_correctTexts {state : DecisionState F} {report report' : Dict F}
    (h : correctTexts state report = .ok report') {sec : String} (hsec : sec ∈ itemSections) :
    shape? report' sec = shape? report sec := by
  obtain ⟨remapped, hremapped, h⟩ := bind_eq_ok.mp h
  obtain ⟨rebuilt, hrebuilt, h⟩ := bind_eq_ok.mp h
  obtain ⟨summarised, hsummarised, h⟩ := bind_eq_ok.mp h
  have hne (k : String) (hk : k ∉ itemSections) : sec ∉ [k] := by
    intro hmem
    rw [List.mem_singleton.mp hmem] at hsec
    exact hk hsec
  have hsources : shape? rebuilt sec = shape? remapped sec := by
    unfold rebuildIfFinancial at hrebuilt
    split at hrebuilt
    · exact shape?_of_frame (rebuildSourcesFromCitations_frame hrebuilt) (hne _ (by decide))
    · cases hrebuilt
      rfl
  rw [shape?_of_frame (enrichManagementQuestionAnswer_frame h) (hne _ (by decide)),
    shape?_of_frame (enforceExecutiveSummary_frame hsummarised) (hne _ (by decide)),
    shape?_of_frame (enforceMissingData_frame _ _) (hne _ (by decide)), hsources,
    shape?_remapEvidenceIds (itemSections_subset hsec) hremapped]

/-- The sections of the report that goes into the corrections are lists, and their items objects
unless a draft with other items is accepted. -/
theorem objectsOnly_normalizeDraft {state : DecisionState F} {pid : ProjectIdentity}
    {candidate : Option (Dict F)} {base : Dict F}
    (h : normalizeDraft state pid candidate = .ok base) {sec : String}
    (hsec : sec ∈ itemSections) :
    (∃ items, base.get? sec = some (.list items)) ∧
      (ObjectsOnly base sec ↔ ∀ draft, candidate = some draft →
        (∃ accepted, acceptDraft state.evidence draft = .ok (some accepted)) →
          ObjectsOnly draft sec) := by
  -- no candidate, or a rejected one: the report is built, and its items are objects
  have hbuilt (h : buildReportFromEvidence state pid = .ok base) :
      (∃ items, base.get? sec = some (.list items)) ∧ ObjectsOnly base sec := by
    have hobjects := objectsOnly_buildReport h hsec
    exact ⟨hobjects.isListed, hobjects⟩
  cases candidate with
  | none => exact ⟨(hbuilt h).1, iff_of_true (hbuilt h).2 fun draft hdraft => by cases hdraft⟩
  | some d =>
    obtain ⟨accepted, haccepted, h⟩ := bind_eq_ok.mp h
    cases accepted with
    | none =>
      refine ⟨(hbuilt h).1, iff_of_true (hbuilt h).2 ?_⟩
      rintro draft hdraft ⟨r, hr⟩
      cases hdraft
      rw [haccepted] at hr
      cases hr
    | some r =>
      cases h
      obtain ⟨hshape, hlist⟩ := shape?_acceptDraft (itemSections_subset hsec) haccepted
      refine ⟨hlist, (objectsOnly_congr hshape).trans ?_⟩
      constructor
      · rintro hobjects draft hdraft -
        cases hdraft
        exact hobjects
      · exact fun hobjects => hobjects d rfl ⟨base, haccepted⟩

/-- A section of a finished report is replaced by one of objects, or has the shape it has in the
report that goes into the corrections. -/
theorem shape?_draftReport {state : DecisionState F} {pid : ProjectIdentity}
    {candidate : Option (Dict F)} {report : Dict F}
    (h : draftReport state pid candidate = .ok report) {sec : String}
    (hsec : sec ∈ itemSections) :
    ((reportTypeOf state = .financial ∧ sec ∈ replacedSections) ∧ ObjectsOnly report sec) ∨
      (¬ (reportTypeOf state = .financial ∧ sec ∈ replacedSections) ∧
        ∃ base, normalizeDraft state pid candidate = .ok base ∧
          shape? report sec = shape? base sec) := by
  obtain ⟨base, hbase, h⟩ := bind_eq_ok.mp h
  obtain ⟨-, -, h⟩ := bind_eq_ok.mp h
  obtain ⟨figures, hfigures, h⟩ := bind_eq_ok.mp h
  obtain ⟨texts, htexts, h⟩ := bind_eq_ok.mp h
  cases h
  have hsealed : sec ∉ sealedKeys := by
    simp only [itemSections, replacedSections, List.cons_append, List.nil_append, List.mem_cons,
      List.not_mem_nil, or_false] at hsec
    rcases hsec with rfl | rfl | rfl | rfl | rfl <;> decide
  have hsnapshot : sec ∉ ["financial_snapshot"] := fun hmem => hsealed
    (List.mem_singleton.mp hmem ▸ by decide)
  have hfinished : shape? (sealReport state pid texts) sec = shape? figures sec := by
    rw [shape?_of_frame (sealReport_frame state pid texts) hsealed, shape?_correctTexts htexts hsec]
  rw [objectsOnly_congr hfinished, hfinished]
  -- the sections of the base are lists, so the defaults do not fill them
  obtain ⟨⟨items, hitems⟩, -⟩ := objectsOnly_normalizeDraft hbase hsec
  have hfilled : shape? (fillDefaults state base) sec = shape? base sec := by
    rw [shape?_of_list (fillDefaults_get? hitems), shape?_of_list hitems]
  obtain ⟨enforced, henforced, hfigures⟩ := bind_eq_ok.mp hfigures
  obtain ⟨placed, hplaced, hfigures⟩ := bind_eq_ok.mp hfigures
  have hplacedShape : shape? placed sec = shape? base sec := by
    rw [shape?_of_frame (onSnapshot_frame hplaced) hsnapshot,
      shape?_of_frame (onSnapshot_frame henforced) hsnapshot, hfilled]
  split at hfigures
  · next hfinancial =>
    rcases List.mem_append.mp hsec with hreplaced | haction
    · exact .inl ⟨⟨hfinancial, hreplaced⟩, objectsOnly_synthesis hfigures hreplaced⟩
    · refine .inr ⟨fun hboth => ?_, base, hbase, ?_⟩
      · rw [List.mem_singleton.mp haction] at hboth
        exact absurd hboth.2 (by decide)
      · rw [← hplacedShape, List.mem_singleton.mp haction]
        exact shape?_of_frame (forceFinancialOdooSynthesis_frame hfigures) (by decide)
  · next hfinancial =>
    cases hfigures
    exact .inr ⟨fun hboth => hfinancial hboth.1, base, hbase, hplacedShape⟩

/-- The items of a finished report are objects where they are replaced, and elsewhere if those of
the draft are. -/
theorem objectsOnly_draftReport {state : DecisionState F} {pid : ProjectIdentity}
    {candidate : Option (Dict F)} {report : Dict F}
    (h : draftReport state pid candidate = .ok report) {sec : String}
    (hsec : sec ∈ itemSections) :
    ObjectsOnly report sec ↔ (reportTypeOf state = .financial ∧ sec ∈ replacedSections) ∨
      ∀ draft, candidate = some draft →
        (∃ accepted, acceptDraft state.evidence draft = .ok (some accepted)) →
          ObjectsOnly draft sec := by
  rcases shape?_draftReport h hsec with ⟨hreplaced, hobjects⟩ | ⟨hnot, base, hbase, hshape⟩
  · exact iff_of_true hobjects (.inl hreplaced)
  · obtain ⟨-, hdraft⟩ := objectsOnly_normalizeDraft hbase hsec
    rw [objectsOnly_congr hshape, hdraft]
    exact ⟨.inr, fun h => h.resolve_left hnot⟩

/-- The sections of a finished report are lists. -/
theorem isListed_draftReport {state : DecisionState F} {pid : ProjectIdentity}
    {candidate : Option (Dict F)} {report : Dict F}
    (h : draftReport state pid candidate = .ok report) {sec : String}
    (hsec : sec ∈ itemSections) : IsListed report sec := by
  rcases shape?_draftReport h hsec with ⟨-, hobjects⟩ | ⟨-, base, hbase, hshape⟩
  · exact hobjects.isListed
  · rw [isListed_iff, hshape, ← isListed_iff]
    exact (objectsOnly_normalizeDraft hbase hsec).1

end DecisionCenter
