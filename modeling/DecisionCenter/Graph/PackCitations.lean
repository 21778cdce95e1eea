import DecisionCenter.Graph.Remapping
import DecisionCenter.Graph.SectionSpec
import DecisionCenter.Graph.SnapshotSpec

/-!
# Citations of the pack

The claim sections of a draft that is accepted cite items of the pack, since the acceptance
looks at every id; so do those of the report that is built from the evidence, whose ids are
taken from it. Together these say what the passes on citations are given.

`CitesId` is used with both kinds of draft, so that the two meet in one statement,
`citesId_normalizeDraft`: whatever node 12 turns the draft of the LLM into cites items of the
pack, unless the report is a financial one. There the findings are made from the figures of the
snapshot, whose ids are those of the extraction or the draft's own, and nothing is said of them
here.

For the acceptance the proof goes down the loops that look at the ids (`mem_of_validItem`): a
section that passes has only ids that `flattenEids` finds in the pack. For the evidence-built
report it follows the builder from one section to the next. An executive summary quotes figures
that are cited from Odoo items, a finding of a section cites the item whose text it is, and the
sections that stay empty cite nothing.

The salary answer is not built this way and has a proof of its own in `Graph.Traceability`.
-/

namespace DecisionCenter

open Py

section PackCitations

variable {F : Type} [Floats F] {evidence : List (Evidence F)} {report : Dict F} {e : String}

/-! ### Lists of ids -/

private theorem citedByItem_list {d : Dict F} {xs : List (Value F)}
    (h : d.getD "evidence_ids" (.list []) = .list xs) :
    citedByItem (.dict d) = .ok (xs.flatMap flattenElement) := by
  rw [citedByItem, h]
  unfold flattenEids
  by_cases hxs : xs = []
  · rw [if_pos (by simp [Value.truthy, hxs]), hxs]
    rfl
  · rw [if_neg (by simp [Value.truthy, hxs])]
    rfl

/-- An item whose ids are all ids of the pack cites no others. -/
theorem cited_of_ids {d : Dict F} {xs : List (Value F)} {es : List String}
    (h : d.getD "evidence_ids" (.list []) = .list xs)
    (hxs : ∀ v ∈ xs, ∃ ev ∈ evidence, v = .str ev.evidenceId)
    (hes : citedByItem (.dict d) = .ok es) (he : e ∈ es) : e ∈ evidenceIds evidence := by
  rw [citedByItem_list h] at hes
  cases hes
  obtain ⟨v, hv, he⟩ := List.mem_flatMap.mp he
  obtain ⟨ev, hev, rfl⟩ := hxs v hv
  rw [List.mem_singleton.mp he]
  exact List.mem_map_of_mem hev

omit [Floats F] in
private theorem exists_of_mem_ids {ids : List String} (hids : ∀ e ∈ ids, e ∈ evidenceIds evidence) :
    ∀ v ∈ (ids.map .str : List (Value F)), ∃ ev ∈ evidence, v = .str ev.evidenceId := by
  intro v hv
  obtain ⟨e, he, rfl⟩ := List.mem_map.mp hv
  obtain ⟨ev, hev, rfl⟩ := List.mem_map.mp (hids e he)
  exact ⟨ev, hev, rfl⟩

/-! ### Drafts that are accepted -/

variable [Text]

/-- An item that passes the acceptance cites known ids only. -/
theorem mem_of_validItem {ids es : List String} {item : Value F} {real : Bool}
    (h : validItem ids item = .ok (some real)) (hes : citedByItem item = .ok es) (he : e ∈ es) :
    e ∈ ids := by
  cases item with
  | dict d =>
    obtain ⟨eids, heids, h⟩ := bind_eq_ok.mp h
    obtain rfl : es = eids := Except.ok.inj (hes.symm.trans heids)
    split at h
    · cases h
    · next hvalid =>
      by_contra hunknown
      refine hvalid (.inr (List.any_eq_true.mpr ⟨e, he, ?_⟩))
      exact decide_eq_true (.inl hunknown)
  | _ =>
    cases hes
    cases he

private theorem forall_validItem {ids : List String} {items : List (Value F)} {real : Bool}
    (h : validItems ids items = .ok (some real)) :
    ∀ item ∈ items, ∃ b, validItem ids item = .ok (some b) := by
  induction items generalizing real with
  | nil => exact fun item hitem => by cases hitem
  | cons item items ih =>
    obtain ⟨first, hfirst, h⟩ := bind_eq_ok.mp h
    cases first with
    | none => cases h
    | some b =>
      obtain ⟨more, hmore, h⟩ := bind_eq_ok.mp h
      cases more with
      | none => cases h
      | some more => exact List.forall_mem_cons.mpr ⟨⟨b, hfirst⟩, ih hmore⟩

/-- In an accepted draft each section is a list of valid items. The induction is on the sections, as
in the loop of the source. -/
private theorem forall_validItems {ids secs : List String} {real : Bool}
    (h : validSections report ids secs = .ok (some real)) :
    ∀ sec ∈ secs, ∃ items, report.get sec = .list items ∧
      ∃ b, validItems ids items = .ok (some b) := by
  induction secs generalizing real with
  | nil => exact fun sec hsec => by cases hsec
  | cons s secs ih =>
    unfold validSections at h
    split at h
    · next items hitems =>
      obtain ⟨first, hfirst, h⟩ := bind_eq_ok.mp h
      cases first with
      | none => cases h
      | some b =>
        obtain ⟨more, hmore, h⟩ := bind_eq_ok.mp h
        cases more with
        | none => cases h
        | some more =>
          exact List.forall_mem_cons.mpr ⟨⟨items, hitems, b, hfirst⟩, ih hmore⟩
    · cases h

/-- The acceptance lets no unknown id into a claim section. -/
theorem citesId_acceptDraft {draft : Dict F} (h : acceptDraft evidence draft = .ok (some report))
    (hcites : CitesId report e) : e ∈ evidenceIds evidence := by
  obtain ⟨-, -, -, -, -, -, -, hvalid⟩ := acceptDraft_cases h
  obtain ⟨sections, hsections, hvalid⟩ := bind_eq_ok.mp hvalid
  cases sections with
  | none => cases hvalid
  | some real =>
    obtain ⟨sec, hsec, items, hitems, item, hitem, es, hes, he⟩ := hcites
    obtain ⟨items', hget, b, hvalid⟩ := forall_validItems hsections sec hsec
    obtain rfl := (sectionHas_of_list (Dict.get?_of_getD hget nofun)).mp hitems
    obtain ⟨b', hitemValid⟩ := forall_validItem hvalid item hitem
    exact mem_of_validItem hitemValid hes he

/-! ### The report that is built from the evidence -/

private theorem totalIncurredEvidenceId_mem {odoo : List (Evidence F)}
    (h : (extractOdooContext odoo).totalIncurredEvidenceId = some e) : e ∈ evidenceIds odoo := by
  obtain ⟨p, hp, hid⟩ := Option.bind_eq_some_iff.mp h
  rcases List.mem_append.mp (List.mem_of_mem_head? hp) with hp | hexpense
  · rcases List.mem_append.mp hp with hactual | hpayroll
    · split at hactual
      · next hamount =>
        rw [List.mem_singleton.mp hactual] at hid
        have hmem := (hasAmount_spec hamount).2
        change ((bestEvidenceId (costLines odoo)).getD "") ∈ _ at hmem
        rwa [show bestEvidenceId (costLines odoo) = some e from hid] at hmem
      · cases hactual
    · obtain ⟨⟨x, e'⟩, hsum, rfl⟩ := Option.map_eq_some_iff.mp (Option.mem_toList.mp hpayroll)
      cases hid
      exact (payrollCost_mem hsum).1
  · obtain ⟨⟨x, e'⟩, hsum, rfl⟩ := Option.map_eq_some_iff.mp (Option.mem_toList.mp hexpense)
    cases hid
    exact (expenseCost_mem hsum).1

/-- The amounts the executive summary leads with are cited from the Odoo items. Each has the id with
which the extraction found it. -/
theorem quotedFigures_mem {odoo : List (Evidence F)} {q : QuotedFigure F}
    (hq : q ∈ quotedFigures (extractOdooContext odoo)) : q.evidenceId ∈ evidenceIds odoo := by
  have hquote {key label : String} {p : Option (F × String)}
      (hp : ∀ x e, p = some (x, e) → e ∈ evidenceIds odoo) (h : q ∈ quote key label p) :
      q.evidenceId ∈ evidenceIds odoo := by
    unfold quote at h
    split at h
    · split at h
      · rw [List.mem_singleton.mp h]
        exact hp _ _ rfl
      · cases h
    · cases h
  simp only [quotedFigures, List.mem_append] at hq
  -- the six figures in the order in which they are quoted
  rcases hq with ((((hq | hq) | hq) | hq) | hq) | hq
  · exact hquote (fun x e hp => contractValue_mem (Option.filter_eq_some_iff.mp hp).1) hq
  · exact hquote (fun x e hp => estimate_mem (Option.filter_eq_some_iff.mp hp).1) hq
  · refine hquote (fun x e hp => ?_) hq
    split at hp
    · next hamount =>
      obtain ⟨y, -, hp⟩ := Option.bind_eq_some_iff.mp hp
      obtain ⟨best, hbest, hpair⟩ := Option.map_eq_some_iff.mp hp
      cases hpair
      have hmem := (hasAmount_spec hamount).2
      rwa [hbest] at hmem
    · cases hp
  · exact hquote (fun x e hp => (payrollCost_mem hp).1) hq
  · exact hquote (fun x e hp => (expenseCost_mem hp).1) hq
  · refine hquote (fun x e hp => ?_) hq
    split at hp
    · obtain ⟨y, -, hp⟩ := Option.bind_eq_some_iff.mp hp
      obtain ⟨total, htotal, hpair⟩ := Option.map_eq_some_iff.mp hp
      cases hpair
      exact totalIncurredEvidenceId_mem htotal
    · cases hp

omit [Floats F] [Text] in
/-- Dropping repetitions makes up no id. -/
theorem uniqueIds_subset {ids : List String} {n : ℕ} (he : e ∈ (uniqueIds ids).take n) : e ∈ ids :=
  (Dedup.keepFirst_sublist _ _).subset (List.mem_of_mem_take he)

omit [Floats F] [Text] in
/-- Dropping repetitions leaves an id if there was one. -/
theorem uniqueIds_ne_nil {ids : List String} (h : ids ≠ []) : uniqueIds ids ≠ [] := by
  obtain ⟨e, ids, rfl⟩ := List.exists_cons_of_ne_nil h
  exact List.cons_ne_nil _ _

/-- The executive summary that is put up without the LLM cites items of the pack, and each of its
entries cites some. -/
theorem mem_basicExecutiveSummary {state : DecisionState F} {docEv emailEv : List (Evidence F)}
    {pid : ProjectIdentity} {item : Value F} (hdocs : ∀ ev ∈ docEv ++ emailEv, ev ∈ evidence)
    (hitem : item ∈ basicExecutiveSummary state docEv emailEv
      (extractOdooContext (odooEvidence evidence)) pid) :
    ∃ claim ids, item = summaryEntry claim ids ∧ ids ≠ [] ∧
      ∀ e ∈ ids, e ∈ evidenceIds evidence := by
  unfold basicExecutiveSummary at hitem
  dsimp only at hitem
  split at hitem
  · next q quotes hquotes =>
    refine ⟨_, _, List.mem_singleton.mp hitem, ?_, fun e he => ?_⟩
    · exact mt (List.take_eq_nil_iff.mp · |>.resolve_left (by decide))
        (uniqueIds_ne_nil (List.cons_ne_nil _ _))
    · obtain ⟨q', hq', rfl⟩ := List.mem_map.mp (uniqueIds_subset he)
      rw [← hquotes] at hq'
      exact mem_evidenceIds_of_odoo (quotedFigures_mem hq')
  · split at hitem
    · next e' ids hids =>
      refine ⟨_, _, List.mem_singleton.mp hitem, List.cons_ne_nil _ _, fun e he => ?_⟩
      rw [← hids] at he
      obtain ⟨ev, hev, rfl⟩ := List.mem_map.mp (List.mem_filter.mp he).1
      exact List.mem_map_of_mem (hdocs ev (List.mem_of_mem_take hev))
    · split at hitem
      · next e' ids hids =>
        refine ⟨_, _, List.mem_singleton.mp hitem, List.cons_ne_nil _ _, fun e he => ?_⟩
        rw [← hids] at he
        obtain ⟨ev, hev, rfl⟩ := List.mem_map.mp (List.mem_filter.mp (uniqueIds_subset he)).1
        exact mem_evidenceIds_of_odoo (List.mem_map_of_mem (List.mem_filter.mp hev).1)
      · cases hitem

private theorem cited_basicExecutiveSummary {state : DecisionState F}
    {docEv emailEv : List (Evidence F)} {pid : ProjectIdentity} {item : Value F} {es : List String}
    (hdocs : ∀ ev ∈ docEv ++ emailEv, ev ∈ evidence)
    (hitem : item ∈ basicExecutiveSummary state docEv emailEv
      (extractOdooContext (odooEvidence evidence)) pid)
    (hes : citedByItem item = .ok es) (he : e ∈ es) : e ∈ evidenceIds evidence := by
  obtain ⟨claim, ids, rfl, -, hids⟩ := mem_basicExecutiveSummary hdocs hitem
  exact cited_of_ids rfl (exists_of_mem_ids hids) hes he

omit [Floats F] in
/-- The findings of a section are those of the items that go there. -/
theorem mem_sectionFindings {reportType : ReportType} {docs : List (Evidence F)} {sec : String}
    {items : List (Value F)} {item : Value F}
    (hitems : sectionFindings reportType docs sec = .list items) :
    item ∈ items ↔ ∃ ev ∈ docs, ∃ f, contentFinding reportType ev = some (sec, f) ∧
      f.toValue = item := by
  cases hitems
  simp only [List.mem_map, List.mem_filter, List.mem_filterMap, decide_eq_true_eq]
  constructor
  · rintro ⟨⟨sec', f⟩, ⟨⟨ev, hev, hfinding⟩, rfl⟩, rfl⟩
    exact ⟨ev, hev, f, hfinding, rfl⟩
  · rintro ⟨ev, hev, f, hfinding, rfl⟩
    exact ⟨(sec, f), ⟨⟨ev, hev, hfinding⟩, rfl⟩, rfl⟩

/-- The text of a content finding. -/
def contentText (ev : Evidence F) : String :=
  takeChars 200 (strip ev.excerpt) ++ (if 200 < (strip ev.excerpt).length then "..." else "")

omit [Floats F] in
/-- A finding is made of an item with something to say, unless the report is a financial one. It
goes into the section of the item and cites it. -/
theorem contentFinding_eq_some {reportType : ReportType} {ev : Evidence F} {sec : String}
    {f : Finding F} : contentFinding reportType ev = some (sec, f) ↔
      (reportType ≠ .financial ∧ strip ev.excerpt ≠ "" ∧ isFilenameOrTitleOnly ev = false) ∧
        findingSection ev = sec ∧ f = ⟨contentText ev, [.str ev.evidenceId], "low"⟩ := by
  rw [contentFinding]
  dsimp only
  split
  · next h =>
    rw [Option.some.injEq, Prod.mk.injEq, and_iff_right h]
    exact and_congr_right fun _ => eq_comm
  · next h => exact iff_of_false nofun fun hf => h hf.1

/-- A content finding cites its own item. -/
theorem cited_sectionFindings {reportType : ReportType} {docs : List (Evidence F)} {sec : String}
    {items : List (Value F)} {item : Value F} {es : List String}
    (hdocs : ∀ ev ∈ docs, ev ∈ evidence)
    (hitems : sectionFindings reportType docs sec = .list items) (hitem : item ∈ items)
    (hes : citedByItem item = .ok es) (he : e ∈ es) :
    e ∈ evidenceIds evidence := by
  obtain ⟨ev, hev, f, hfinding, rfl⟩ := (mem_sectionFindings hitems).mp hitem
  obtain ⟨-, -, rfl⟩ := contentFinding_eq_some.mp hfinding
  exact cited_of_ids rfl (fun v hv => ⟨ev, hdocs ev hev, List.mem_singleton.mp hv⟩) hes he

/-- The documents and emails the builder goes through. -/
def builderDocs (state : DecisionState F) : List (Evidence F) :=
  ((builderEvidence state).filter fun ev =>
      decide (ev.sourceType = .sharepoint ∨ ev.sourceType = .owncloud)) ++
    (builderEvidence state).filter fun ev => decide (ev.sourceType = .email)

/-- The findings are drawn from documents and mail. -/
theorem mem_builderDocs {state : DecisionState F} {ev : Evidence F} :
    ev ∈ builderDocs state ↔ ev ∈ builderEvidence state ∧
      (ev.sourceType = .sharepoint ∨ ev.sourceType = .owncloud ∨ ev.sourceType = .email) := by
  simp only [builderDocs, List.mem_append, List.mem_filter, decide_eq_true_eq, ← and_or_left,
    or_assoc]

/-- The report that is built from the evidence cites items of it, unless its findings are made from
the figures. -/
theorem citesId_buildReport {state : DecisionState F} {pid : ProjectIdentity}
    (hfinancial : reportTypeOf state ≠ .financial)
    (h : buildReportFromEvidence state pid = .ok report) (hcites : CitesId report e) :
    e ∈ evidenceIds state.evidence := by
  obtain ⟨placed, hplaced, h⟩ := bind_eq_ok.mp h
  rw [if_neg hfinancial] at h
  cases h
  have hevidence : builderEvidence state = state.evidence := if_neg hfinancial
  have hframe := onSnapshot_frame hplaced
  obtain ⟨sec, hsec, items, hitems, item, hitem, es, hes, he⟩ := hcites
  have hnot : sec ∉ ["financial_snapshot"] := by
    clear hitems
    revert sec
    decide
  rw [SectionHas, Dict.getD, hframe sec hnot, ← Dict.getD] at hitems
  have hdocs : ∀ ev ∈ builderDocs state, ev ∈ state.evidence :=
    fun ev hev => hevidence ▸ (mem_builderDocs.mp hev).1
  simp only [claimSections, List.mem_cons, List.not_mem_nil, or_false] at hsec
  -- summary and findings cite documents; root causes and actions are empty
  rcases hsec with rfl | rfl | rfl | rfl | rfl | rfl
  · obtain rfl := (sectionHas_of_list rfl).mp hitems
    rw [hevidence] at hitem
    refine cited_basicExecutiveSummary (fun ev hev => hdocs ev ?_) hitem hes he
    rwa [builderDocs, hevidence]
  · obtain rfl := (sectionHas_of_list rfl).mp hitems
    exact cited_sectionFindings hdocs rfl hitem hes he
  · obtain rfl := (sectionHas_of_list rfl).mp hitems
    cases hitem
  · obtain rfl := (sectionHas_of_list rfl).mp hitems
    exact cited_sectionFindings hdocs rfl hitem hes he
  · obtain rfl := (sectionHas_of_list rfl).mp hitems
    exact cited_sectionFindings hdocs rfl hitem hes he
  · obtain rfl := (sectionHas_of_list rfl).mp hitems
    cases hitem

/-- What a draft is turned into cites items of the pack, unless the report is a financial one. -/
theorem citesId_normalizeDraft {state : DecisionState F} {pid : ProjectIdentity}
    {candidate : Option (Dict F)} (hfinancial : reportTypeOf state ≠ .financial)
    (h : normalizeDraft state pid candidate = .ok report) (hcites : CitesId report e) :
    e ∈ evidenceIds state.evidence := by
  unfold normalizeDraft at h
  split at h
  · exact citesId_buildReport hfinancial h hcites
  · obtain ⟨accepted, haccepted, h⟩ := bind_eq_ok.mp h
    cases accepted with
    | none => exact citesId_buildReport hfinancial h hcites
    | some r =>
      cases h
      exact citesId_acceptDraft haccepted hcites

end PackCitations

end DecisionCenter
