import DecisionCenter.Graph.DraftFrame
import DecisionCenter.Graph.Totals

/-!
# Citations across the remapping

Node 12 rewrites the ids a draft made up to the ids of the pack that its own source entries
stand for. An id that the draft did not make up is rewritten as well where a source entry
bearing it stands for another item, and nowhere else.

The code works with three tables, from titles, from URIs and from ids to ids, each filled by a
loop in which later entries replace earlier ones. They are described by what can be found in
them: `idByText_spec` for a lookup by text, `realId_spec` for the item an entry stands for,
`mem_synthToReal_iff` for the table of the rewriting as a whole. From there on a citation is
*redirected* or not (`Redirected`), and the order of the entries is out of sight.

`CitationKept` says what should become of one citation: an id of the pack stays, and an id that
is none is replaced by one, or stays. A citation is kept just if it is no redirected id of the
pack (`citationKept_realOf_iff`), and this is carried from a citation to an item, to a section
and to the report.

`citationsKept_iff` is exact for every report and every pack. The failing ones have two postings
of one name: the source entry of the first matches the second by its title, so that a citation
of the one becomes a citation of the other.
-/

namespace DecisionCenter

open Py

section Remapping

variable {F : Type} [Floats F] [Text]

/-! ### Source entries -/

omit [Floats F] [Text] in
/-- The entries of the sources section that are objects. -/
def sourceEntries (report : Dict F) : List (Dict F) :=
  match report.getD "sources" (.list []) with
  | .list srcs => srcs.filterMap Value.asDict?
  | _ => []

/-- The texts are the same, and there is one. -/
def SameText (v : Value F) (s : String) : Prop := matchText v ≠ "" ∧ lower (strip s) = matchText v

/-- The source entry matches the item by its title or by its URI. -/
def SourceMatches (src : Dict F) (ev : Evidence F) : Prop :=
  SameText (src.get "title") ev.title ∨
    SameText ((src.get "reference").orElse (src.get "source_uri")) ev.sourceUri

/-- A source entry with this id stands for an item with another. -/
def Redirected (report : Dict F) (evidence : List (Evidence F)) (e : String) : Prop :=
  e ≠ "" ∧ ∃ src ∈ sourceEntries report, src.get "source_id" = .str e ∧
    ∃ real, realId evidence src = some real ∧ real ≠ e

/-- What becomes of one citation: an id of the pack stays, and any other one stays or becomes the id
of an item that the report's own source entry for it matches. -/
structure CitationKept (report : Dict F) (evidence : List (Evidence F)) (e e' : String) : Prop where
  real : e ∈ evidenceIds evidence → e' = e
  invented : e ∉ evidenceIds evidence → e' = e ∨ ∃ src ∈ sourceEntries report,
    src.get "source_id" = .str e ∧ ∃ ev ∈ evidence, ev.evidenceId = e' ∧ SourceMatches src ev

/-- The items of a section. -/
def SectionHas (report : Dict F) (sec : String) (items : List (Value F)) : Prop :=
  (report.getD sec (.list [])).iter = .ok items

/-- All citations of an item are kept, in their order. -/
def ItemKept (report : Dict F) (evidence : List (Evidence F)) (item item' : Value F) : Prop :=
  ∀ es, citedByItem item = .ok es → ∃ es', citedByItem item' = .ok es' ∧
    List.Forall₂ (CitationKept report evidence) es es'

/-- All citations of the claim sections are kept. -/
def CitationsKept (evidence : List (Evidence F)) (report report' : Dict F) : Prop :=
  ∀ sec ∈ claimSections, ∀ items, SectionHas report sec items →
    ∃ items', SectionHas report' sec items' ∧
      List.Forall₂ (ItemKept report evidence) items items'

/-- The report cites the id in a claim section. -/
def CitesId (report : Dict F) (e : String) : Prop :=
  ∃ sec ∈ claimSections, ∃ items, SectionHas report sec items ∧
    ∃ item ∈ items, ∃ es, citedByItem item = .ok es ∧ e ∈ es

/-! ### The lookup tables -/

section Tables

variable {report : Dict F} {evidence : List (Evidence F)}

omit [Floats F] in
/-- An id found by a text is the id of an item with that text. -/
theorem idByText_spec {key : Evidence F → String} {text id : String}
    (h : idByText key evidence text = some id) :
    text ≠ "" ∧ ∃ ev ∈ evidence, ev.evidenceId = id ∧ lower (strip (key ev)) = text := by
  unfold idByText at h
  split at h
  · cases h
  · next hne =>
    obtain ⟨ev, hfind, hid⟩ := Option.map_eq_some_iff.mp h
    have hmem := List.mem_reverse.mp (List.mem_of_find?_eq_some hfind)
    have htest := List.find?_some hfind
    simp only [Bool.and_eq_true, decide_eq_true_eq] at htest
    exact ⟨hne, ev, hmem, hid, htest.2⟩

/-- The id a source entry stands for is the id of an item it matches. -/
theorem realId_spec {src : Dict F} {real : String} (h : realId evidence src = some real) :
    ∃ ev ∈ evidence, ev.evidenceId = real ∧ SourceMatches src ev := by
  rcases Option.or_eq_some_iff.mp h with htitle | ⟨-, huri⟩
  · obtain ⟨hne, ev, hmem, hid, htext⟩ := idByText_spec htitle
    exact ⟨ev, hmem, hid, .inl ⟨hne, htext⟩⟩
  · obtain ⟨hne, ev, hmem, hid, htext⟩ := idByText_spec huri
    exact ⟨ev, hmem, hid, .inr ⟨hne, htext⟩⟩

/-- What one source entry puts into the table: its own id, which is not empty and another one than
that of the item which it matches. -/
theorem synthEntry_eq_some {src : Value F} {sid : Value F} {real : String}
    (h : synthEntry evidence src = .ok (some (sid, real))) :
    ∃ d, src = .dict d ∧ sid = Dict.getD d "source_id" (.str "") ∧ realId evidence d = some real ∧
      sid.truthy = true ∧ sid.eqStr real = false := by
  cases src with
  | dict d =>
    simp only [synthEntry] at h
    split at h
    · next hreal =>
      split at h
      · next hguard =>
        split at h
        · cases h
          rw [Bool.and_eq_true, Bool.not_eq_true'] at hguard
          exact ⟨d, rfl, rfl, hreal, hguard.1, hguard.2⟩
        · cases h
      · cases h
    · cases h
  | _ => cases h

omit [Floats F] [Text] in
private theorem sourceEntries_of_list {srcs : List (Value F)}
    (h : report.getD "sources" (.list []) = .list srcs) :
    sourceEntries report = srcs.filterMap Value.asDict? := by
  rw [sourceEntries, h]

omit [Floats F] [Text] in
private theorem sourceEntries_of_not_list
    (h : ∀ srcs, report.getD "sources" (.list []) ≠ .list srcs) : sourceEntries report = [] := by
  rw [sourceEntries]
  split
  · next srcs hsrcs => exact absurd hsrcs (h srcs)
  · rfl

/-- A string is redirected by an entry of the table just if a source entry redirects it. The entry
has an id, which is not that of the item it matches. -/
theorem mem_synthToReal_iff {synth : List (Value F × String)} {e real : String}
    (h : synthToReal report evidence = .ok synth) :
    (.str e, real) ∈ synth ↔ e ≠ "" ∧ real ≠ e ∧ ∃ src ∈ sourceEntries report,
      src.get "source_id" = .str e ∧ realId evidence src = some real := by
  unfold synthToReal at h
  split at h
  · next srcs hsrcs =>
    obtain ⟨entries, hentries, h⟩ := bind_eq_ok.mp h
    cases h
    simp only [sourceEntries_of_list hsrcs, List.mem_filterMap, id_eq, exists_eq_right]
    rw [mem_of_mapM hentries]
    constructor
    · rintro ⟨src, hsrc, hentry⟩
      obtain ⟨d, rfl, hsid, hreal, htruthy, hne⟩ := synthEntry_eq_some hentry
      have hempty : e ≠ "" := by
        rintro rfl
        cases htruthy
      have hreal' : real ≠ e := by
        rintro rfl
        rw [Value.eqStr_iff.mpr rfl] at hne
        cases hne
      refine ⟨hempty, hreal', d, ⟨.dict d, hsrc, rfl⟩, ?_, hreal⟩
      refine Dict.get_of_get? (Dict.get?_of_getD hsid.symm ?_)
      exact fun hnone => hempty (Value.str.inj hnone).symm
    · rintro ⟨hempty, hreal', d, ⟨src, hsrc, hdict⟩, hsid, hreal⟩
      cases src with
      | dict d' =>
        cases hdict
        refine ⟨.dict d, hsrc, ?_⟩
        have hsid' : Dict.getD d "source_id" (.str "") = .str e := by
          rw [Dict.getD, Dict.get?_of_getD hsid (by rintro ⟨⟩), Option.getD_some]
        have htruthy : (Value.str e : Value F).truthy = true := by simpa [Value.truthy] using hempty
        have hne : (Value.str e : Value F).eqStr real = false := by
          rw [← Bool.not_eq_true, Value.eqStr_iff]
          rintro heq
          exact hreal' (Value.str.inj heq).symm
        simp [synthEntry, hreal, hsid', htruthy, hne, Value.hashable, pure, Except.pure]
      | _ => cases hdict
  -- sources that are no list have no entries, and the table is empty
  · next hnot =>
    cases h
    simp only [sourceEntries_of_not_list hnot, List.not_mem_nil, false_iff]
    rintro ⟨-, -, src, hsrc, -⟩
    cases hsrc

/-- A citation is rewritten just if it is redirected, and then to what a source entry for it stands
for. -/
theorem realOf_cases {synth : List (Value F × String)} (e : String)
    (h : synthToReal report evidence = .ok synth) :
    (realOf synth e = e ∧ ¬ Redirected report evidence e) ∨
      (realOf synth e ≠ e ∧ Redirected report evidence e ∧ ∃ src ∈ sourceEntries report,
        src.get "source_id" = .str e ∧ realId evidence src = some (realOf synth e)) := by
  unfold realOf
  cases hfind : synth.reverse.find? fun p => p.1.eqStr e with
  | none =>
    refine .inl ⟨rfl, ?_⟩
    rintro ⟨hempty, src, hsrc, hsid, real, hreal, hne⟩
    have hmem := (mem_synthToReal_iff h).mpr ⟨hempty, hne, src, hsrc, hsid, hreal⟩
    have htest := List.find?_eq_none.mp hfind _ (List.mem_reverse.mpr hmem)
    exact htest (Value.eqStr_iff.mpr rfl)
  | some p =>
    obtain ⟨sid, real⟩ := p
    have hmem := List.mem_reverse.mp (List.mem_of_find?_eq_some hfind)
    have htest := List.find?_some hfind
    obtain rfl : sid = .str e := Value.eqStr_iff.mp htest
    obtain ⟨hempty, hne, src, hsrc, hsid, hreal⟩ := (mem_synthToReal_iff h).mp hmem
    exact .inr ⟨hne, ⟨hempty, src, hsrc, hsid, real, hreal, hne⟩, src, hsrc, hsid, hreal⟩

/-- A citation is kept across the rewriting just if it is no redirected id of the pack. -/
theorem citationKept_realOf_iff {synth : List (Value F × String)} {e : String}
    (h : synthToReal report evidence = .ok synth) :
    CitationKept report evidence e (realOf synth e) ↔
      (e ∈ evidenceIds evidence → ¬ Redirected report evidence e) := by
  rcases realOf_cases e h with ⟨hsame, hnot⟩ | ⟨hne, hredirected, src, hsrc, hsid, hreal⟩
  · exact iff_of_true ⟨fun _ => hsame, fun _ => .inl hsame⟩ fun _ => hnot
  · constructor
    · intro hkept hmem
      exact absurd (hkept.real hmem) hne
    · intro hnot
      refine ⟨fun hmem => absurd hredirected (hnot hmem), fun _ => .inr ⟨src, hsrc, hsid, ?_⟩⟩
      exact realId_spec hreal

end Tables

/-! ### Items and sections -/

section Sections

variable {report report' : Dict F} {evidence : List (Evidence F)} {synth : List (Value F × String)}

omit [Text] in
private theorem flattenEids_strs (es : List String) :
    flattenEids (.list (es.map .str) : Value F) = .ok es := by
  cases es with
  | nil => rfl
  | cons e es =>
    have hflat :
        ((e :: es).map (Value.str : String → Value F)).flatMap flattenElement = e :: es := by
      rw [List.flatMap_map]
      exact List.flatMap_singleton' _
    exact congrArg Except.ok hflat

omit [Text] in
/-- What an item cites once it is rewritten. Ids that the table does not have stay. -/
theorem citedByItem_remapItem {item item' : Value F} (h : remapItem synth item = .ok item') :
    ∃ es, citedByItem item = .ok es ∧ citedByItem item' = .ok (es.map (realOf synth)) := by
  cases item with
  | dict d =>
    obtain ⟨d', hd, h⟩ := bind_eq_ok.mp h
    cases h
    obtain ⟨es, hes, hd⟩ := bind_eq_ok.mp hd
    have hcited : citedByItem (.dict d) = .ok es := by
      rw [← hes, citedByItem, Dict.get, Dict.getD, Dict.getD]
      cases Dict.get? d "evidence_ids" <;> rfl
    refine ⟨es, hcited, ?_⟩
    cases es with
    | nil =>
      cases hd
      exact hcited
    | cons e es =>
      cases hd
      have hlist : ((e :: es).map fun e => (Value.str (realOf synth e) : Value F)) =
          ((e :: es).map (realOf synth)).map .str := by rw [List.map_map]; rfl
      simp only [citedByItem, Dict.getD, Dict.get?_set_self, Option.getD_some, hlist]
      exact flattenEids_strs _
  | _ =>
    cases h
    exact ⟨[], rfl, rfl⟩

/-- What becomes of a section. -/
def SectionRemapped (synth : List (Value F × String)) (v v' : Option (Value F)) : Prop :=
  (v' = v ∧ ∀ items, v ≠ some (.list items)) ∨ ∃ items items', v = some (.list items) ∧
    items.mapM (remapItem synth) = .ok items' ∧ v' = some (.list items')

omit [Text] in
/-- What becomes of a section: its items are rewritten, or it is no list and stays. -/
private theorem remapSection_cases {sec : String}
    (h : remapSection synth report sec = .ok report') :
    SectionRemapped synth (report.get? sec) (report'.get? sec) := by
  unfold remapSection at h
  split at h
  · next items hitems =>
    obtain ⟨items', hitems', h⟩ := bind_eq_ok.mp h
    cases h
    exact .inr ⟨items, items', hitems, hitems', Dict.get?_set_self _ _ _⟩
  · next v hnot hv =>
    obtain ⟨-, -, h⟩ := bind_eq_ok.mp h
    cases h
    refine .inl ⟨rfl, fun items hitems => ?_⟩
    rw [hitems] at hv
    exact hnot items (Option.some.inj hv).symm
  · next hnone =>
    cases h
    refine .inl ⟨rfl, fun items hitems => ?_⟩
    rw [hitems] at hnone
    cases hnone

omit [Text] in
/-- What becomes of one section when all are rewritten: it is rewritten once, as the sections
differ. -/
theorem foldlM_remapSection_cases {secs : List String} (hnodup : secs.Nodup)
    (h : secs.foldlM (remapSection synth) report = .ok report') {sec : String} (hsec : sec ∈ secs) :
    SectionRemapped synth (report.get? sec) (report'.get? sec) := by
  induction secs generalizing report with
  | nil => cases hsec
  | cons s secs ih =>
    obtain ⟨hs, hnodup⟩ := List.nodup_cons.mp hnodup
    rw [List.foldlM_cons] at h
    obtain ⟨first, hfirst, hrest⟩ := bind_eq_ok.mp h
    rcases List.mem_cons.mp hsec with rfl | hsec
    · rw [foldlM_remapSection_frame hrest _ hs]
      exact remapSection_cases hfirst
    · have hne : sec ∉ [s] := by
        rintro hmem
        exact hs (List.mem_singleton.mp hmem ▸ hsec)
      rw [← remapSection_frame hfirst _ hne]
      exact ih hnodup hrest hsec

/-- The pass leaves the report as it is, or rewrites every claim section by the table. With an empty
table there is nothing to rewrite. -/
theorem remapEvidenceIds_cases (h : remapEvidenceIds report evidence = .ok report') :
    ∃ synth, synthToReal report evidence = .ok synth ∧
      ((synth = [] ∧ report' = report) ∨ ∀ sec ∈ claimSections,
        SectionRemapped synth (report.get? sec) (report'.get? sec)) := by
  obtain ⟨synth, hsynth, h⟩ := bind_eq_ok.mp h
  refine ⟨synth, hsynth, ?_⟩
  split at h
  · next hempty =>
    cases h
    exact .inl ⟨List.isEmpty_iff.mp hempty, rfl⟩
  · obtain ⟨sections, hsections, h⟩ := bind_eq_ok.mp h
    obtain ⟨memo, hmemo, h⟩ := bind_eq_ok.mp h
    obtain ⟨cited, -, h⟩ := bind_eq_ok.mp h
    cases h
    refine .inr fun sec hsec => ?_
    have hframe : Dict.Frame ["management_question_answer"] sections memo :=
      Dict.Frame.modifyM hmemo (by simp)
    have hkeys : sec ∉ ["management_question_answer"] ∧ "sources" ≠ sec := by
      revert sec
      decide
    rw [Dict.get?_set_ne _ _ hkeys.2, hframe _ hkeys.1]
    exact foldlM_remapSection_cases (by decide) hsections hsec

/-! ### Citations -/

/-- A citation that stays is kept. -/
theorem CitationKept.rfl (e : String) : CitationKept report evidence e e :=
  ⟨fun _ => .refl _, fun _ => .inl (.refl _)⟩

/-- An item that stays is kept. -/
theorem ItemKept.rfl (item : Value F) : ItemKept report evidence item item := fun es hes =>
  ⟨es, hes, List.forall₂_same.mpr fun e _ => .rfl e⟩

/-- A rewritten item keeps its citations just if none of them is a redirected id of the pack. -/
theorem itemKept_remapItem_iff {item item' : Value F}
    (hsynth : synthToReal report evidence = .ok synth) (h : remapItem synth item = .ok item') :
    ItemKept report evidence item item' ↔ ∀ es, citedByItem item = .ok es → ∀ e ∈ es,
      e ∈ evidenceIds evidence → ¬ Redirected report evidence e := by
  obtain ⟨es, hes, hes'⟩ := citedByItem_remapItem h
  have hforall : List.Forall₂ (CitationKept report evidence) es (es.map (realOf synth)) ↔
      ∀ e ∈ es, e ∈ evidenceIds evidence → ¬ Redirected report evidence e := by
    rw [List.forall₂_map_right_iff, List.forall₂_same]
    exact forall₂_congr fun e _ => citationKept_realOf_iff hsynth
  constructor
  · intro hkept es₀ hes₀
    obtain ⟨es₁, hes₁, hall⟩ := hkept es₀ hes₀
    obtain rfl : es = es₀ := Except.ok.inj (hes.symm.trans hes₀)
    obtain rfl : es.map (realOf synth) = es₁ := Except.ok.inj (hes'.symm.trans hes₁)
    exact hforall.mp hall
  · intro hnot es₀ hes₀
    obtain rfl : es = es₀ := Except.ok.inj (hes.symm.trans hes₀)
    exact ⟨_, hes', hforall.mpr (hnot es hes)⟩

omit [Text] in
/-- Only a list has items that cite. Iterating another value gives characters or keys, which are no
objects. -/
theorem citedByItem_of_no_list {sec : String} (hlist : ∀ xs, report.get? sec ≠ some (.list xs))
    {items : List (Value F)} (h : SectionHas report sec items) {item : Value F}
    (hitem : item ∈ items) : citedByItem item = .ok [] := by
  unfold SectionHas at h
  rw [Dict.getD] at h
  cases hget : report.get? sec with
  | none =>
    rw [hget] at h
    cases h
    cases hitem
  | some v =>
    rw [hget, Option.getD_some] at h
    cases v with
    | list xs => exact absurd hget (hlist xs)
    | str s =>
      cases h
      obtain ⟨c, -, heq⟩ := List.mem_map.mp hitem
      rw [← heq]
      rfl
    | dict d =>
      cases h
      obtain ⟨kv, -, heq⟩ := List.mem_map.mp hitem
      rw [← heq]
      rfl
    | _ => cases h

omit [Floats F] [Text] in
/-- What a section that is a list has. -/
theorem sectionHas_of_list {sec : String} {xs items : List (Value F)}
    (hget : report.get? sec = some (.list xs)) : SectionHas report sec items ↔ items = xs := by
  rw [SectionHas, Dict.getD, hget, Option.getD_some]
  exact ⟨fun h => (Except.ok.inj h).symm, fun h => congrArg Except.ok h.symm⟩

/-- A section keeps its citations just if none of them is a redirected id of the pack. Ids that are
not of the pack may change. -/
theorem sectionKept_iff {sec : String} (hsynth : synthToReal report evidence = .ok synth)
    (h : SectionRemapped synth (report.get? sec) (report'.get? sec)) {items : List (Value F)}
    (hitems : SectionHas report sec items) :
    (∃ items', SectionHas report' sec items' ∧
        List.Forall₂ (ItemKept report evidence) items items') ↔
      ∀ item ∈ items, ∀ es, citedByItem item = .ok es → ∀ e ∈ es, e ∈ evidenceIds evidence →
        ¬ Redirected report evidence e := by
  rcases h with ⟨hsame, hlist⟩ | ⟨xs, xs', hxs, hmap, hxs'⟩
  · refine iff_of_true ⟨items, ?_, List.forall₂_same.mpr fun item _ => .rfl item⟩ ?_
    · rw [SectionHas, Dict.getD, hsame, ← Dict.getD]
      exact hitems
    · intro item hitem es hes e he
      rw [citedByItem_of_no_list hlist hitems hitem] at hes
      cases hes
      cases he
  · obtain rfl := (sectionHas_of_list hxs).mp hitems
    have hsteps := mapM_eq_ok.mp hmap
    constructor
    · rintro ⟨items', hitems', hall⟩ item hitem
      obtain rfl := (sectionHas_of_list hxs').mp hitems'
      obtain ⟨n, hn, rfl⟩ := List.mem_iff_getElem.mp hitem
      have hn' : n < items'.length := hsteps.length_eq ▸ hn
      exact (itemKept_remapItem_iff hsynth (hsteps.get hn hn')).mp (hall.get hn hn')
    · intro hnot
      refine ⟨xs', (sectionHas_of_list hxs').mpr rfl, ?_⟩
      refine List.forall₂_iff_get.mpr ⟨hsteps.length_eq, fun n hn hn' => ?_⟩
      exact (itemKept_remapItem_iff hsynth (hsteps.get hn hn')).mpr (hnot _ (List.getElem_mem hn))

/-- The citations of the report are kept across the remapping exactly when no id of the pack that it
cites stands in a source entry of its own that matches another item. An id that the draft made up
may be replaced by whatever item its entry matches. -/
theorem citationsKept_iff (h : remapEvidenceIds report evidence = .ok report') :
    CitationsKept evidence report report' ↔
      ∀ e ∈ evidenceIds evidence, CitesId report e → ¬ Redirected report evidence e := by
  obtain ⟨synth, hsynth, hcases⟩ := remapEvidenceIds_cases h
  rcases hcases with ⟨rfl, rfl⟩ | hsections
  · -- Without an entry in the table nothing is redirected.
    refine iff_of_true (fun sec _ items hitems => ⟨items, hitems, ?_⟩) fun e _ _ => ?_
    · exact List.forall₂_same.mpr fun item _ => .rfl item
    · rcases realOf_cases e hsynth with ⟨-, hnot⟩ | ⟨hne, -⟩
      · exact hnot
      · exact absurd (Eq.refl _) hne
  · constructor
    · rintro hkept e he ⟨sec, hsec, items, hitems, item, hitem, es, hes, hmem⟩
      have hsection := hkept sec hsec items hitems
      exact (sectionKept_iff hsynth (hsections sec hsec) hitems).mp hsection item hitem es hes e
        hmem he
    · intro hnot sec hsec items hitems
      refine (sectionKept_iff hsynth (hsections sec hsec) hitems).mpr ?_
      intro item hitem es hes e hmem he
      exact hnot e he ⟨sec, hsec, items, hitems, item, hitem, es, hes, hmem⟩

end Sections

end Remapping

section Whole

open Py.Whole

/-- A report with one finding and one source entry. -/
def citingReport (cited sourceId title : String) : Dict ℤ :=
  [("key_findings", .list [.dict [("text", .str "Concrete was supplied."),
      ("evidence_ids", .list [.str cited])]]),
    ("sources", .list [.dict [("source_id", .str sourceId), ("title", .str title)]])]

/-- An id the report made up gives way to the id of the item it describes. -/
theorem citationsKept_inventedId :
    ∃ report', remapEvidenceIds (citingReport "S1" "S1" "Concrete supply") ownNameLines =
        .ok report' ∧
      CitationsKept ownNameLines (citingReport "S1" "S1" "Concrete supply") report' := by
  obtain ⟨report', hremap⟩ : Completes (remapEvidenceIds
      (citingReport "S1" "S1" "Concrete supply") ownNameLines) := completes_of_isSome (by decide)
  refine ⟨report', hremap, (citationsKept_iff hremap).mpr ?_⟩
  rintro e he - ⟨-, src, hsrc, hsid, -⟩
  have hsource : src = [("source_id", .str "S1"), ("title", .str "Concrete supply")] :=
    List.mem_singleton.mp hsrc
  rw [hsource] at hsid
  obtain rfl : "S1" = e := Value.str.inj hsid
  exact absurd he (by decide)

/-- A report that cites the first of two postings with one name, and says so in its sources. -/
def firstCited : Dict ℤ :=
  citingReport "odoo-account-analytic-line-1" "odoo-account-analytic-line-1" "Concrete supply"

/-- Of two postings with one name the citation of the first becomes one of the second. The source
entry of the first is matched by its title. -/
theorem not_citationsKept_sameName :
    ¬ ∀ (evidence : List (Evidence ℤ)) (report report' : Dict ℤ),
      remapEvidenceIds report evidence = .ok report' → CitationsKept evidence report report' := by
  intro h
  obtain ⟨report', hremap⟩ : Completes (remapEvidenceIds firstCited sameNameLines) :=
    completes_of_isSome (by decide)
  have hsection : (remapEvidenceIds firstCited sameNameLines).toOption.map
      (fun r => citedInSection r "key_findings") =
        some (.ok ["odoo-account-analytic-line-2"]) := rfl
  rw [hremap] at hsection
  obtain ⟨items', hitems', hkept⟩ := h _ _ _ hremap "key_findings" (by decide) _ rfl
  obtain ⟨item', _, hitem, hnil, rfl⟩ := List.forall₂_cons_left_iff.mp hkept
  obtain rfl := List.forall₂_nil_left_iff.mp hnil
  obtain ⟨es', hes', hall⟩ := hitem ["odoo-account-analytic-line-1"] rfl
  obtain ⟨e', _, hcitation, hnil', rfl⟩ := List.forall₂_cons_left_iff.mp hall
  obtain rfl := List.forall₂_nil_left_iff.mp hnil'
  obtain rfl := hcitation.real (by decide)
  -- The section cites the first posting still, but the report does not.
  have hcited : citedInSection report' "key_findings" = .ok ["odoo-account-analytic-line-1"] := by
    rw [citedInSection,
      show (report'.getD "key_findings" (.list [])).iter = .ok [item'] from hitems']
    simp [hes', bind, Except.bind, pure, Except.pure]
  have hsame : citedInSection report' "key_findings" = .ok ["odoo-account-analytic-line-2"] :=
    Option.some.inj hsection
  rw [hcited] at hsame
  exact absurd hsame (by decide)

end Whole

end DecisionCenter
