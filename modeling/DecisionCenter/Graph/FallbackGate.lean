import DecisionCenter.Graph.CitedFigures
import DecisionCenter.Graph.FilenameText
import DecisionCenter.Graph.GateSpec
import DecisionCenter.Graph.PackCitations
import DecisionCenter.Graph.SnapshotArithmetic
import DecisionCenter.Graph.Traceability

/-!
# The fallback and the gate

The report that is built from the evidence, against the checks of node 13 on claims and on raw
file names. Its claims cite the pack. Its findings quote excerpts, from which file names are
kept out by other patterns than the gate looks for, and before the excerpts are cut.

`PassesOwnGate` says that the two checks have nothing to object to. That every claim cites the
pack holds of every state (`buildReport_cited`); the other check comes down to the texts of the
findings. A finding drawn from a figure holds an amount, an id and fixed texts, none of which
shows a file name (`BuilderSnapshot.plain_findings`). A finding on a document or an email holds
the excerpt between fixed texts, and shows a file name just if its excerpt is not clean
(`FilenameSearch.showsFilename_content`).

`CleanExcerpt` is a condition on one excerpt: up to 200 characters it must not be a file name as
a whole in the gate's sense, and a longer one must not hold one, nor end in one where it is cut.
`passesOwnGate_iff` is exact: the report passes the gate's checks just if it is a financial one,
or each document and email that it quotes has a clean excerpt.

A drawing whose name is its whole content, with a revision in parentheses, is one that fails:
the gate's pattern allows parentheses in a file name, the builder's does not. The letters of the
fixed texts are searched once, and a text without a full stop needs no search (`NoExtension`).
-/

namespace DecisionCenter

open Py

section Fallback

variable {F : Type} [Floats F] [Text]

/-! ### Passing the gate -/

/-- The sections of the findings on delays, on the contract and of the key findings. -/
def findingSections : List String := ["key_findings", "delay_analysis", "contractual_implications"]

/-- The check on raw file names has nothing to say of the findings, and every claim is supported. -/
structure PassesOwnGate (evidence : List (Evidence F)) (report : Dict F) : Prop where
  findings : ∀ sec ∈ findingSections, ∀ items, report.getD sec (.list []) = .list items →
    ∀ (i : ℕ) (d : Dict F), items[i]? = some (.dict d) →
      checkRawFilename (sec ++ "[" ++ toString i ++ "]", d) = .ok []
  claims : ∃ checks, checkClaims report (evidenceIds evidence) = .ok checks ∧
    ∀ c ∈ checks, c.verdict = .supported

/-- The gate takes the text for a file name, or finds one in it. -/
def ShowsFilename (text : String) : Prop :=
  text ≠ "" ∧ (searches filenameRe text || searches filenameEmbeddedRe text) = true

/-- The check on filenames has nothing to say of a finding whose text shows none. -/
private theorem checkRawFilename_toValue {name : String} {f : Finding F} {d : Dict F}
    (hd : f.toValue = .dict d) :
    checkRawFilename (name, d) = .ok [] ↔ ¬ ShowsFilename (strip f.text) := by
  cases hd
  have htext : ((Value.str f.text).orElse .null : Value F).stripText = .ok (strip f.text) := by
    by_cases hempty : f.text = ""
    · rw [hempty]
      rfl
    · rw [Value.orElse, if_pos (by simpa using hempty), Value.stripText, Value.orElse,
        if_pos (by simpa using hempty)]
      rfl
  rw [checkRawFilename, bind_eq_ok]
  constructor
  · rintro ⟨text, hstrip, hcheck⟩ hshows
    obtain rfl : strip f.text = text := Except.ok.inj (htext.symm.trans hstrip)
    split at hcheck
    · obtain ⟨c, -, hcheck⟩ := bind_eq_ok.mp hcheck
      cases hcheck
    · next hnot => exact hnot hshows
  · exact fun hshows => ⟨_, htext, if_neg hshows⟩

variable {isWord : Char → Bool} {same : Char → Char → Bool}

private theorem FilenameSearch.showsFilename_iff (hsearch : FilenameSearch isWord same)
    {text : String} (htext : text ≠ "") : ShowsFilename text ↔
      isFullName isWord same text.toList = true ∨ hasFilename isWord same text.toList = true := by
  rw [ShowsFilename, hsearch.full, hsearch.embedded, Bool.or_eq_true, and_iff_right htext]

/-- A text without an extension shows no file name. -/
theorem FilenameSearch.not_showsFilename (hsearch : FilenameSearch isWord same) {text : String}
    (htext : NoExtension same text.toList) : ¬ ShowsFilename (strip text) := by
  rintro ⟨-, hshows⟩
  have hstrip := htext.strip
  rw [hsearch.full, hsearch.embedded, hstrip.not_isFullName, hstrip.not_hasFilename] at hshows
  cases hshows

/-! ### Excerpts -/

/-- An excerpt of up to 200 characters is no file name; a longer one, which is cut there, does not
end in a file name then. -/
structure CleanExcerpt (isWord : Char → Bool) (same : Char → Char → Bool) (ev : Evidence F) :
    Prop where
  whole : (strip ev.excerpt).length ≤ 200 → isFullName isWord same (strip ev.excerpt).toList = false
  cut : 200 < (strip ev.excerpt).length →
    endsInFilename isWord same ((strip ev.excerpt).toList.take 200) = false

omit [Floats F] in
private theorem contentText_short {ev : Evidence F} (h : ¬ 200 < (strip ev.excerpt).length) :
    contentText ev = strip ev.excerpt := by
  rw [contentText, if_neg h, String.append_empty, takeChars, List.take_of_length_le,
    String.ofList_toList]
  rw [String.length_toList]
  exact Nat.not_lt.mp h

omit [Floats F] in
private theorem contentText_long {ev : Evidence F} (h : 200 < (strip ev.excerpt).length) :
    (contentText ev).toList = (strip ev.excerpt).toList.take 200 ++ dots := by
  rw [contentText, if_pos h, String.toList_append, takeChars, String.toList_ofList]
  rfl

omit [Floats F] in
/-- The gate strips nothing off the text of a content finding. The excerpt was stripped when it was
cut, and a cut one ends with dots. -/
theorem strip_contentText (hspace : Text.isSpace '.' = false) (ev : Evidence F) :
    strip (contentText ev) = contentText ev := by
  obtain ⟨hhead, hlast⟩ := strip_ends ev.excerpt
  by_cases hlong : 200 < (strip ev.excerpt).length
  · refine strip_eq_self (fun c hc => ?_) (fun c hc => ?_)
    · rw [contentText_long hlong] at hc
      refine hhead c ?_
      rw [← String.length_toList] at hlong
      cases hcs : (strip ev.excerpt).toList with
      | nil =>
        rw [hcs] at hlong
        cases hlong
      | cons b cs =>
        rw [hcs] at hc
        exact hc
    · rw [contentText_long hlong, dots, List.getLast?_append] at hc
      cases hc
      exact hspace
  · rw [contentText_short hlong]
    exact strip_eq_self hhead hlast

omit [Floats F] in
/-- A content finding shows a file name just if its excerpt is not clean. The filter of the builder
has looked into the whole excerpt, the gate looks into the cut one. -/
theorem FilenameSearch.showsFilename_content (hsearch : FilenameSearch isWord same)
    {ev : Evidence F} (hexcerpt : strip ev.excerpt ≠ "")
    (hkept : isFilenameOrTitleOnly ev = false) :
    ShowsFilename (strip (contentText ev)) ↔ ¬ CleanExcerpt isWord same ev := by
  -- the filter has looked for file names in the excerpt
  have hnone : hasFilename isWord same (strip ev.excerpt).toList = false := by
    rw [← hsearch.like, ← Bool.not_eq_true]
    intro hfound
    rw [isFilenameOrTitleOnly] at hkept
    dsimp only at hkept
    rw [if_neg hexcerpt, if_pos hfound] at hkept
    cases hkept
  rw [strip_contentText hsearch.space]
  by_cases hlong : 200 < (strip ev.excerpt).length
  · have hne : contentText ev ≠ "" := by
      intro hempty
      have hnil := contentText_long hlong
      rw [hempty] at hnil
      exact absurd (List.append_eq_nil_iff.mp hnil.symm).2 (by decide)
    have hcut : hasFilename isWord same ((strip ev.excerpt).toList.take 200) =
        endsInFilename isWord same ((strip ev.excerpt).toList.take 200) :=
      hasFilename_cut (by rwa [List.take_append_drop])
    have hclean : CleanExcerpt isWord same ev ↔
        endsInFilename isWord same ((strip ev.excerpt).toList.take 200) = false :=
      ⟨fun h => h.cut hlong,
        fun h => ⟨fun hshort => absurd hlong (Nat.not_lt.mpr hshort), fun _ => h⟩⟩
    rw [hsearch.showsFilename_iff hne, hclean, contentText_long hlong, isFullName,
      not_fullNameAt_dots hsearch.noDot, hasFilename_append_dots hsearch.noDot hsearch.dot, hcut]
    simp
  · have hne : contentText ev ≠ "" := by rwa [contentText_short hlong]
    have hclean : CleanExcerpt isWord same ev ↔
        isFullName isWord same (strip ev.excerpt).toList = false :=
      ⟨fun h => h.whole (Nat.not_lt.mp hlong), fun h => ⟨fun _ => h, fun hlt => absurd hlt hlong⟩⟩
    rw [hsearch.showsFilename_iff hne, hclean, contentText_short hlong, hnone]
    simp

/-! ### Findings from the figures -/

section Figures

variable {state : DecisionState F} {fs : Dict F}

/-- The builder's snapshot, filled from the Odoo items of the pack. -/
def BuilderSnapshot (state : DecisionState F) (fs : Dict F) : Prop :=
  enforceCategoriesSnapshot (extractOdooContext (odooEvidence state.evidence))
    (odooEvidence state.evidence) (evidenceIds (builderEvidence state))
    (builderSnapshot state.role (extractOdooContext (odooEvidence state.evidence))) = .ok fs

omit [Floats F] [Text] in
/-- What is placed for a figure that is missing is an amount with its id, or has no value. -/
theorem placed_missing {draft : Dict F} {key : String} {p : Option (F × String)}
    (hlacks : draft.dict? key = none) (hvalue : (placedNode draft key p).get "value" ≠ .null) :
    ∃ x e, p = some (x, e) ∧ (placedNode draft key p).get "value" = .float x ∧
      (placedNode draft key p).get "evidence_id" = .str e := by
  cases p with
  | none =>
    rw [placedNode, hlacks] at hvalue
    exact absurd rfl hvalue
  | some p =>
    exact ⟨p.1, p.2, rfl, by simp [placedNode, availableNode, Dict.get_set],
      by simp [placedNode, availableNode, Dict.get_set]⟩

/-- A figure the builder shows is an amount for which an Odoo item is cited: one of the pack, the
actual cost, or computed from these. -/
theorem BuilderSnapshot.figure (h : BuilderSnapshot state fs) {key : String}
    (hkey : key ∈ figureLabels.map (·.key)) {node : Dict F}
    (hnode : availableFigure fs key = some node) :
    ∃ x e, node.get "value" = .float x ∧ node.get "evidence_id" = .str e ∧
      e ∈ evidenceIds (odooEvidence state.evidence) := by
  obtain ⟨hdict, -, hvalue⟩ := availableFigure_eq_some.mp hnode
  obtain ⟨totalled, -, -, hget, -⟩ := enforceCategoriesSnapshot_cases h
  have hbackable (hkey : key ∈ backableKeys) : ∃ x e, node.get "value" = .float x ∧
      node.get "evidence_id" = .str e ∧ e ∈ evidenceIds (odooEvidence state.evidence) := by
    obtain ⟨p, hmem⟩ : ∃ p, (key, p) ∈ backedFigures
      (extractOdooContext (odooEvidence state.evidence)) (odooEvidence state.evidence)
        (evidenceIds state.evidence) := lookup_backable hkey
    obtain ⟨-, hplaced, hlookup⟩ := lookup_of_mem_backed hmem
    have hnode := hget key hplaced
    rw [backedFigures_builderEvidence, hlookup] at hnode
    obtain rfl : placedNode _ key p = node :=
      Option.some.inj ((Dict.dict?_eq_some.mpr hnode).symm.trans hdict)
    obtain ⟨x, e, rfl, hx, he⟩ := placed_missing (builderSnapshot_lacks hmem) hvalue
    exact ⟨x, e, hx, he, (backedFigures_spec hmem).2⟩
  simp only [figureLabels, List.map_cons, List.map_nil, List.mem_cons, List.not_mem_nil,
    or_false] at hkey
  rcases hkey with rfl | rfl | rfl | rfl | rfl | rfl | rfl
  · exact hbackable (by decide)
  · exact hbackable (by decide)
  · -- the actual cost is the one the builder started with
    have hactual : fs.get? "actual_cost" = some (.dict (builderActual state.role
        (extractOdooContext (odooEvidence state.evidence)))) := (hget _ (by decide)).trans rfl
    obtain rfl : builderActual _ _ = node :=
      Option.some.inj ((Dict.dict?_eq_some.mpr hactual).symm.trans hdict)
    rcases builderActual_cases state.role (extractOdooContext (odooEvidence state.evidence)) with
      hnone | ⟨hamount, hsome⟩
    · rw [hnone] at hvalue
      exact absurd rfl hvalue
    · obtain ⟨⟨x, hx⟩, hmem⟩ := hasAmount_spec hamount
      rw [hsome, hx]
      exact ⟨x, _, rfl, rfl, hmem⟩
  · exact hbackable (by decide)
  · exact hbackable (by decide)
  · exact hbackable (by decide)
  · obtain ⟨withActual, htotal, -⟩ := builder_derived h
    obtain rfl : placedNode _ "total_incurred" _ = node :=
      Option.some.inj ((Dict.dict?_eq_some.mpr htotal).symm.trans hdict)
    obtain ⟨x, e, hsome, hx, he⟩ := placed_missing rfl hvalue
    exact ⟨x, e, hx, he, packFigures_ids (.inr hsome)⟩

/-- A variance with a value is a computed one: an amount for which Odoo items are cited, and the
formula that was used. -/
theorem BuilderSnapshot.variance (h : BuilderSnapshot state fs) {node : Dict F}
    (hdict : fs.dict? "variance" = some node) (hvalue : node.get "value" ≠ .null) :
    ∃ (x : F) (es : List String), node.get "value" = .float x ∧
      node.get "evidence_ids" = .list (es.map .str) ∧
      (∀ e ∈ es, e ∈ evidenceIds (odooEvidence state.evidence)) ∧
      (node.get "formula" = .str "estimate - total_incurred" ∨
        node.get "formula" = .str "estimate - actual_cost") := by
  obtain ⟨withActual, -, node', hnode', hcases⟩ := builder_derived h
  obtain rfl : node' = node :=
    Option.some.inj ((Dict.dict?_eq_some.mpr hnode').symm.trans hdict)
  obtain ⟨totalled, htotal, hvariance, -, -⟩ := enforceCategoriesSnapshot_cases h
  split at hcases
  · next x es hsome =>
    refine ⟨x, es, hcases.1, hcases.2, packFigures_variance_ids hsome, ?_⟩
    obtain ⟨-, hplace⟩ := placeVariance_cases hvariance
    rcases hplace with ⟨-, hget⟩ | ⟨-, -, -, -, hcomp, -⟩
    · -- the builder starts without a variance
      obtain ⟨-, -, hframe, -⟩ := placeTotalIncurred_cases htotal
      have hempty : totalled.get? "variance" = some (.dict emptyVariance) := by
        rw [hframe _ (by decide), get?_placeFigures]
        rfl
      rw [Dict.dict?_eq_some.mpr hempty, Option.getD_some] at hget
      obtain rfl : node' = emptyVariance :=
        Option.some.inj ((Dict.dict?_eq_some.mpr hnode').symm.trans (Dict.dict?_eq_some.mpr hget))
      exact absurd rfl hvalue
    · have hformula := formula_of_placeVariance hvariance hcomp
      rw [nodeOrEmpty, hdict, Option.getD_some] at hformula
      rw [hformula, spentNode]
      split
      · exact .inl rfl
      · exact .inr rfl
  · rw [hcases] at hvalue
    exact absurd rfl hvalue

/-- The finding cites some of these items, and its text holds no extension. -/
structure PlainFinding (same : Char → Char → Bool) (ids : List String) (f : Finding F) : Prop where
  cites : ∃ eids : List String, f.evidenceIds = eids.map .str ∧ eids ≠ [] ∧ ∀ e ∈ eids, e ∈ ids
  text : NoExtension same f.text.toList

/-- Numbers are written without extensions. -/
def PlainNumbers (F : Type) [Floats F] (same : Char → Char → Bool) : Prop :=
  ∀ x : F, NoExtension same (Floats.format 2 x).toList

private theorem FilenameSearch.plain_amount (hsearch : FilenameSearch isWord same)
    (hplain : PlainNumbers F same) {before : String} (hbefore : '.' ∉ before.toList) (x : F)
    {after : String} (hafter : NoExtension same after.toList)
    (hblank : after.toList.head? = some ' ') :
    NoExtension same (before ++ Floats.format 2 x ++ after).toList := by
  obtain ⟨rest, hrest⟩ := List.head?_eq_some_iff.mp hblank
  rw [String.toList_append, String.toList_append, hrest]
  rw [hrest] at hafter
  exact hsearch.append_blank ((hplain x).prepend hbefore) hafter

/-- The sentence on a figure cites Odoo items and has no filename in it, as it is made of a label, a
number and a currency. -/
private theorem BuilderSnapshot.plain_figureFinding (h : BuilderSnapshot state fs)
    (hsearch : FilenameSearch isWord same) (hplain : PlainNumbers F same) {l : FigureLabel}
    (hl : l ∈ figureLabels) {f : Finding F} (hf : figureFinding fs l = .ok (some f)) :
    PlainFinding same (evidenceIds (odooEvidence state.evidence)) f := by
  unfold figureFinding at hf
  split at hf
  · next node hnode =>
    obtain ⟨x, e, hx, he, hmem⟩ := h.figure (List.mem_map_of_mem hl) hnode
    have hlabels : ∀ l ∈ figureLabels, '.' ∉ ("Odoo shows " ++ l.label ++ " of ").toList := by
      decide
    have hamount : '.' ∉ " AED".toList := by decide
    have hfinding (y : F) : PlainFinding same (evidenceIds (odooEvidence state.evidence))
        (⟨"Odoo shows " ++ l.label ++ " of " ++ Floats.format 2 y ++ " AED.", [.str e],
          "medium"⟩ : Finding F) := by
      refine ⟨⟨[e], rfl, List.cons_ne_nil _ _, fun e' he' => ?_⟩,
        hsearch.plain_amount hplain (hlabels l hl) y (noExtension_concat_dot hamount) rfl⟩
      rwa [List.mem_singleton.mp he']
    dsimp only at hf
    rw [hx, he] at hf
    split at hf
    · split at hf
      · cases hf
        exact hfinding _
      · cases hf
        exact hfinding _
    · cases hf
  · cases hf

omit [Floats F] [Text] in
private theorem exists_map_str {ids : List String} {vs : List (Value F)}
    (h : ∀ v ∈ vs, ∃ e ∈ ids, v = .str e) :
    ∃ es : List String, vs = es.map .str ∧ ∀ e ∈ es, e ∈ ids := by
  induction vs with
  | nil => exact ⟨[], rfl, nofun⟩
  | cons v vs ih =>
    obtain ⟨⟨e, he, rfl⟩, hvs⟩ := List.forall_mem_cons.mp h
    obtain ⟨es, rfl, hes⟩ := ih hvs
    exact ⟨e :: es, rfl, List.forall_mem_cons.mpr ⟨he, hes⟩⟩

omit [Floats F] [Text] in
private theorem foldlM_ne_nil {f : List (Value F) → Value F → Except Error (List (Value F))}
    (hf : ∀ acc v acc', f acc v = .ok acc' → acc' ≠ []) {vs acc ws : List (Value F)}
    (h : vs.foldlM f acc = .ok ws) (hvs : vs ≠ []) : ws ≠ [] := by
  induction vs generalizing acc with
  | nil => exact absurd rfl hvs
  | cons v vs ih =>
    rw [List.foldlM_cons] at h
    obtain ⟨acc', hacc, h⟩ := bind_eq_ok.mp h
    cases vs with
    | nil =>
      cases h
      exact hf acc v _ hacc
    | cons w vs => exact ih h (List.cons_ne_nil _ _)

omit [Text] in
private theorem fromKeys_ne_nil {vs ws : List (Value F)} (h : Value.fromKeys vs = .ok ws)
    (hvs : vs ≠ []) : ws ≠ [] := by
  refine foldlM_ne_nil (fun acc v acc' hacc => ?_) h hvs
  split at hacc
  · cases hacc
    split
    · next hany =>
      rintro rfl
      cases hany
    · exact List.append_ne_nil_of_right_ne_nil _ (List.cons_ne_nil _ _)
  · cases hacc

omit [Text] in
private theorem flattenEids_map_str (es : List String) :
    flattenEids (.list (es.map .str) : Value F) = .ok es := by
  cases es with
  | nil => rfl
  | cons e es =>
    have hflat : ((e :: es).map .str : List (Value F)).flatMap flattenElement = e :: es := by
      rw [List.flatMap_map]
      exact List.flatMap_singleton' _
    exact congrArg Except.ok hflat

/-- The sentence on the variance cites what its figures cite, and has no filename in it. -/
private theorem BuilderSnapshot.plain_varianceFinding (h : BuilderSnapshot state fs)
    (hsearch : FilenameSearch isWord same) (hplain : PlainNumbers F same)
    {figures findings : List (Finding F)}
    (hfigures : ∀ f ∈ figures, PlainFinding same (evidenceIds (odooEvidence state.evidence)) f)
    (hf : varianceFinding fs figures = .ok findings) :
    ∀ f ∈ findings, PlainFinding same (evidenceIds (odooEvidence state.evidence)) f := by
  unfold varianceFinding at hf
  split at hf
  -- the variance is available: the sentence shows its value and its formula
  · next node hnode =>
    obtain ⟨hdict, hvalue⟩ := Option.filter_eq_some_iff.mp hnode
    have hne : node.get "value" ≠ .null := by
      intro hnull
      rw [hnull] at hvalue
      cases hvalue
    obtain ⟨x, es, hx, hes, hmem, hformula⟩ := h.variance hdict hne
    have hgetD : node.getD "evidence_ids" (.list []) = .list (es.map .str) := by
      rw [Dict.getD, Dict.get?_of_getD hes (by rintro ⟨⟩), Option.getD_some]
    rw [hgetD, flattenEids_map_str, hx] at hf
    obtain ⟨eids, heids, hf⟩ := bind_eq_ok.mp hf
    cases heids
    split at hf
    · cases hf
      rintro x ⟨⟩
    · next hcited =>
      obtain ⟨value, hvalue, hf⟩ := bind_eq_ok.mp hf
      cases hvalue
      cases hf
      rw [List.forall_mem_singleton]
      have hbefore : '.' ∉ "Variance against the Odoo cost estimate is ".toList := by decide
      refine ⟨⟨es, rfl, hcited, hmem⟩, ?_⟩
      dsimp only
      have hshown (formula : String) (hne : formula ≠ "") :
          ((Value.str formula).orElse (.str "verified inputs") : Value F).toStr = formula := by
        rw [Value.orElse, if_pos (by simpa using hne), Value.toStr_str]
      -- the two formulas that the passes write
      rcases hformula with hformula | hformula
      · have hafter : '.' ∉ " AED using estimate - total_incurred".toList := by decide
        rw [hformula, hshown _ (by decide), String.append_assoc, String.append_assoc]
        exact hsearch.plain_amount hplain hbefore x (noExtension_concat_dot hafter) rfl
      · have hafter : '.' ∉ " AED using estimate - actual_cost".toList := by decide
        rw [hformula, hshown _ (by decide), String.append_assoc, String.append_assoc]
        exact hsearch.plain_amount hplain hbefore x (noExtension_concat_dot hafter) rfl
  -- no variance: the sentence says so, and cites the first id of each figure
  · split at hf
    · cases hf
      rintro x ⟨⟩
    · next hnonempty =>
      obtain ⟨keys, hkeys, hf⟩ := bind_eq_ok.mp hf
      cases hf
      rw [List.forall_mem_singleton]
      have hmem : ∀ v ∈ keys, ∃ e ∈ evidenceIds (odooEvidence state.evidence), v = .str e := by
        intro v hv
        obtain ⟨f, hf, hhead⟩ := List.mem_filterMap.mp (fromKeys_subset hkeys v hv)
        obtain ⟨eids, heids, -, hids⟩ := (hfigures f hf).cites
        rw [heids, List.head?_map] at hhead
        obtain ⟨e, he, rfl⟩ := Option.map_eq_some_iff.mp hhead
        exact ⟨e, hids e (List.mem_of_mem_head? he), rfl⟩
      have hne : keys ≠ [] := by
        refine fromKeys_ne_nil hkeys fun hnil => ?_
        cases figures with
        | nil => exact hnonempty rfl
        | cons f figures =>
          obtain ⟨eids, heids, hsome, -⟩ := (hfigures f List.mem_cons_self).cites
          have hhead := List.filterMap_eq_nil_iff.mp hnil f List.mem_cons_self
          rw [List.head?_eq_none_iff, heids, List.map_eq_nil_iff] at hhead
          exact hsome hhead
      obtain ⟨es, hes, hids⟩ := exists_map_str fun v hv => hmem v (List.mem_of_mem_take hv)
      refine ⟨⟨es, hes, ?_, hids⟩, ?_⟩
      · rintro rfl
        exact hne ((List.take_eq_nil_iff.mp hes).resolve_left (by decide))
      · have hbefore :
            '.' ∉ "Budget or variance is not reported because no non-zero Odoo ".toList := by
          decide
        have hafter : '.' ∉
            "budget/estimate baseline was available for that calculation".toList := by decide
        dsimp only
        rw [String.toList_append]
        exact (noExtension_concat_dot hafter).prepend hbefore

/-- So are all findings of a financial report. Their texts are made of labels and formatted numbers,
which show no file name. -/
theorem BuilderSnapshot.plain_findings (h : BuilderSnapshot state fs)
    (hsearch : FilenameSearch isWord same) (hplain : PlainNumbers F same) {report : Dict F}
    (hfs : report.dict? "financial_snapshot" = some fs) {items : List (Value F)}
    (hitems : financialSnapshotFindings report (extractOdooContext (odooEvidence state.evidence)) =
      .ok items) :
    ∀ item ∈ items, ∃ f, item = f.toValue ∧
      PlainFinding same (evidenceIds (odooEvidence state.evidence)) f := by
  have hsnapshot : ((report.get "financial_snapshot").orElse (.dict [])).asDict? = some fs := by
    rw [Dict.get_of_get? (Dict.dict?_eq_some.mp hfs), Value.orElse]
    cases fs <;> rfl
  unfold financialSnapshotFindings at hitems
  rw [hsnapshot] at hitems
  obtain ⟨labelled, hlabelled, hitems⟩ := bind_eq_ok.mp hitems
  obtain ⟨more, hmore, hitems⟩ := bind_eq_ok.mp hitems
  cases hitems
  have hfigures : ∀ f ∈ labelled.filterMap id,
      PlainFinding same (evidenceIds (odooEvidence state.evidence)) f := by
    intro f hf
    obtain ⟨entry, hentry, rfl⟩ := List.mem_filterMap.mp hf
    obtain ⟨l, hl, hfinding⟩ := (mem_of_mapM hlabelled).mp hentry
    exact h.plain_figureFinding hsearch hplain hl hfinding
  have hall : ∀ f ∈ labelled.filterMap id ++ more,
      PlainFinding same (evidenceIds (odooEvidence state.evidence)) f := by
    intro f hf
    rcases List.mem_append.mp hf with hf | hf
    · exact hfigures f hf
    · exact h.plain_varianceFinding hsearch hplain hfigures hmore f hf
  intro item hitem
  obtain ⟨f, hf, rfl⟩ := List.mem_map.mp hitem
  refine ⟨f, rfl, ?_⟩
  have hf := List.mem_of_mem_take hf
  split at hf
  · -- only the project record is left to cite
    unfold projectRecordFinding at hf
    split at hf
    · cases hf
    · next hids =>
      rw [List.mem_singleton.mp hf]
      refine ⟨⟨_, rfl, fun hnil => ?_, fun e he => ?_⟩, ?_⟩
      · exact uniqueIds_ne_nil hids ((List.take_eq_nil_iff.mp hnil).resolve_left (by decide))
      · have hmem := uniqueIds_subset he
        obtain ⟨ev, hev, rfl⟩ := List.mem_map.mp (List.mem_filter.mp hmem).1
        exact List.mem_map_of_mem (List.mem_filter.mp hev).1
      · have hbefore : '.' ∉
            "Odoo project evidence was found, but no usable Odoo cost, ".toList := by decide
        have hafter : '.' ∉
            "budget, purchase order, invoice, or payment amount was available".toList := by decide
        dsimp only
        rw [String.toList_append]
        exact (noExtension_concat_dot hafter).prepend hbefore
  · exact hall f hf

end Figures

/-! ### The sections of the report -/

section Sections

variable {state : DecisionState F} {pid : ProjectIdentity} {report : Dict F}

private theorem mem_of_mem_builderEvidence {ev : Evidence F} (h : ev ∈ builderEvidence state) :
    ev ∈ state.evidence := by
  unfold builderEvidence at h
  split at h
  · exact (List.mem_filter.mp h).1
  · exact h

/-- The claim sections of a report that is not a financial one are those the builder drafts. -/
theorem buildReport_section (hfinancial : reportTypeOf state ≠ .financial)
    (h : buildReportFromEvidence state pid = .ok report) {sec : String}
    (hsec : sec ∈ claimSections) :
    report.get? sec =
      (builderDraft state pid (extractOdooContext (odooEvidence state.evidence))).get? sec := by
  obtain ⟨placed, hplaced, h⟩ := bind_eq_ok.mp h
  rw [if_neg hfinancial] at h
  cases h
  rw [odooEvidence_builderEvidence] at hplaced
  refine onSnapshot_frame hplaced sec ?_
  clear hplaced
  revert sec
  decide

/-- A financial report draws its findings from the figures, and leaves the other sections empty. Its
summary names documents and emails of the pack. -/
theorem buildReport_financial (hfinancial : reportTypeOf state = .financial)
    (h : buildReportFromEvidence state pid = .ok report) :
    (∃ placed fs items, BuilderSnapshot state fs ∧ placed.dict? "financial_snapshot" = some fs ∧
      financialSnapshotFindings placed (extractOdooContext (odooEvidence state.evidence)) =
        .ok items ∧ report.get? "key_findings" = some (.list items)) ∧
      (∀ sec ∈ ["root_causes", "delay_analysis", "contractual_implications", "recommended_actions"],
        report.get? sec = some (.list [])) ∧
      ∃ docEv emailEv, (∀ ev ∈ docEv ++ emailEv, ev ∈ state.evidence) ∧
        report.get? "executive_summary" = some (.list (basicExecutiveSummary state docEv emailEv
          (extractOdooContext (odooEvidence state.evidence)) pid)) := by
  obtain ⟨placed, hplaced, h⟩ := bind_eq_ok.mp h
  rw [if_pos hfinancial, odooEvidence_builderEvidence] at h
  rw [odooEvidence_builderEvidence] at hplaced
  have hdraft : (builderDraft state pid (extractOdooContext (odooEvidence state.evidence))).dict?
      "financial_snapshot" =
        some (builderSnapshot state.role (extractOdooContext (odooEvidence state.evidence))) := by
    simp [builderDraft, Dict.dict?, Dict.get?, builderSnapshot]
  obtain ⟨fs, hpass, hfs, -⟩ := onSnapshot_cases hdraft hplaced
  have hframe := onSnapshot_frame hplaced
  obtain ⟨items, hitems, h⟩ := bind_eq_ok.mp h
  cases h
  have hbefore (sec : String) (hsec : sec ∉ ["financial_snapshot"]) : placed.get? sec =
      (builderDraft state pid (extractOdooContext (odooEvidence state.evidence))).get? sec :=
    hframe sec hsec
  refine ⟨⟨placed, fs, items, hpass, hfs, hitems, ?_⟩, fun sec hsec => ?_, ?_⟩
  · rw [Dict.get?_set_ne _ _ (by decide), Dict.get?_set_ne _ _ (by decide),
      Dict.get?_set_ne _ _ (by decide), Dict.get?_set_ne _ _ (by decide)]
    split
    · rw [Dict.get?_set_ne _ _ (by decide), Dict.get?_set_self]
    · rw [Dict.get?_set_self]
  · rw [Dict.get?_set_ne _ _ (by rintro rfl; simp at hsec), Dict.get?_set, Dict.get?_set,
      Dict.get?_set]
    simp only [List.mem_cons, List.not_mem_nil, or_false] at hsec
    rcases hsec with rfl | rfl | rfl | rfl
    · rfl
    · rfl
    · rfl
    · -- the actions are those of the draft
      have hactions : placed.get? "recommended_actions" = some (.list []) :=
        (hbefore _ (by decide)).trans rfl
      rw [if_neg (by decide), if_neg (by decide), if_neg (by decide)]
      split
      · rw [Dict.get?_set_ne _ _ (by decide), Dict.get?_set_ne _ _ (by decide), hactions]
      · rw [Dict.get?_set_ne _ _ (by decide), hactions]
  · rw [Dict.get?_set_ne _ _ (by decide), Dict.get?_set_ne _ _ (by decide),
      Dict.get?_set_ne _ _ (by decide), Dict.get?_set_ne _ _ (by decide)]
    split
    · exact ⟨[], [], fun _ hev => (by cases hev), Dict.get?_set_self _ _ _⟩
    · refine ⟨_, _, fun ev hev => ?_, (Dict.get?_set_ne _ _ (by decide)).trans
        ((hbefore _ (by decide)).trans rfl)⟩
      exact mem_of_mem_builderEvidence (mem_builderDocs.mp hev).1

omit [Floats F] [Text] in
/-- A finding with ids of the pack is a claim that cites it. -/
theorem cited_toValue {ids eids : List String} {f : Finding F} (hf : f.evidenceIds = eids.map .str)
    (hne : eids ≠ []) (hids : ∀ e ∈ eids, e ∈ ids) : Cited ids f.toValue :=
  ⟨_, eids, rfl, congrArg Value.list hf, hne, hids⟩

private theorem cited_summary {docEv emailEv : List (Evidence F)} {item : Value F}
    (hdocs : ∀ ev ∈ docEv ++ emailEv, ev ∈ state.evidence)
    (hitem : item ∈ basicExecutiveSummary state docEv emailEv
      (extractOdooContext (odooEvidence state.evidence)) pid) :
    Cited (evidenceIds state.evidence) item := by
  obtain ⟨claim, ids, rfl, hne, hids⟩ := mem_basicExecutiveSummary hdocs hitem
  exact ⟨_, ids, rfl, rfl, hne, hids⟩

/-- Every claim of the report cites the pack. The builder makes a claim of an item that it has, and
takes its id. -/
theorem buildReport_cited (h : buildReportFromEvidence state pid = .ok report)
    (hsearch : FilenameSearch isWord same) (hplain : PlainNumbers F same) :
    ∀ sec ∈ claimSections, ∃ items, report.get? sec = some (.list items) ∧
      ∀ item ∈ items, Cited (evidenceIds state.evidence) item := by
  intro sec hsec
  by_cases hfinancial : reportTypeOf state = .financial
  · obtain ⟨⟨placed, fs, items, hbuilder, hfs, hitems, hfindings⟩, hempty, docEv, emailEv, hdocs,
      hsummary⟩ := buildReport_financial hfinancial h
    simp only [claimSections, List.mem_cons, List.not_mem_nil, or_false] at hsec
    -- the summary, the findings of the figures, and four empty sections
    rcases hsec with rfl | rfl | rfl | rfl | rfl | rfl
    · exact ⟨_, hsummary, fun item hitem => cited_summary hdocs hitem⟩
    · refine ⟨items, hfindings, fun item hitem => ?_⟩
      obtain ⟨f, rfl, hf⟩ := hbuilder.plain_findings hsearch hplain hfs hitems item hitem
      obtain ⟨eids, heids, hne, hids⟩ := hf.cites
      exact cited_toValue heids hne fun e he => mem_evidenceIds_of_odoo (hids e he)
    · exact ⟨[], hempty _ (by decide), fun _ hitem => by cases hitem⟩
    · exact ⟨[], hempty _ (by decide), fun _ hitem => by cases hitem⟩
    · exact ⟨[], hempty _ (by decide), fun _ hitem => by cases hitem⟩
    · exact ⟨[], hempty _ (by decide), fun _ hitem => by cases hitem⟩
  · rw [buildReport_section hfinancial h hsec]
    have hdocs : ∀ ev ∈ builderDocs state, ev ∈ state.evidence :=
      fun ev hev => mem_of_mem_builderEvidence (mem_builderDocs.mp hev).1
    -- a finding drawn from a document cites that document
    have hcontent (sec : String) {items : List (Value F)} {item : Value F}
        (hitems : sectionFindings (reportTypeOf state) (builderDocs state) sec = .list items)
        (hitem : item ∈ items) : Cited (evidenceIds state.evidence) item := by
      obtain ⟨ev, hev, f, hfinding, rfl⟩ := (mem_sectionFindings hitems).mp hitem
      obtain ⟨-, -, rfl⟩ := contentFinding_eq_some.mp hfinding
      have hid : ∀ e ∈ [ev.evidenceId], e ∈ evidenceIds state.evidence :=
        List.forall_mem_singleton.mpr (List.mem_map_of_mem (hdocs ev hev))
      exact cited_toValue rfl (List.cons_ne_nil _ _) hid
    simp only [claimSections, List.mem_cons, List.not_mem_nil, or_false] at hsec
    rcases hsec with rfl | rfl | rfl | rfl | rfl | rfl
    · exact ⟨_, rfl, fun item hitem => cited_summary hdocs hitem⟩
    · exact ⟨_, rfl, fun item hitem => hcontent _ rfl hitem⟩
    · exact ⟨[], rfl, fun _ hitem => by cases hitem⟩
    · exact ⟨_, rfl, fun item hitem => hcontent _ rfl hitem⟩
    · exact ⟨_, rfl, fun item hitem => hcontent _ rfl hitem⟩
    · exact ⟨[], rfl, fun _ hitem => by cases hitem⟩

/-- The findings of a report that is not a financial one, at their positions. -/
theorem getD_findingSection (hfinancial : reportTypeOf state ≠ .financial)
    (h : buildReportFromEvidence state pid = .ok report) {sec : String}
    (hsec : sec ∈ findingSections) : report.getD sec (.list []) =
      sectionFindings (reportTypeOf state) (builderDocs state) sec := by
  have hclaim : sec ∈ claimSections := by
    revert hsec
    clear h
    revert sec
    decide
  rw [Dict.getD, buildReport_section hfinancial h hclaim]
  simp only [findingSections, List.mem_cons, List.not_mem_nil, or_false] at hsec
  rcases hsec with rfl | rfl | rfl <;> rfl

omit [Floats F] in
private theorem findingSection_mem (ev : Evidence F) : findingSection ev ∈ findingSections := by
  unfold findingSection
  dsimp only
  split
  · decide
  · split
    · decide
    · decide

/-- A finding on an excerpt that is not clean is flagged. It is the content finding of the item,
which the builder puts into its section. -/
theorem not_passesOwnGate (hsearch : FilenameSearch isWord same)
    (h : buildReportFromEvidence state pid = .ok report)
    (hfinancial : reportTypeOf state ≠ .financial)
    {ev : Evidence F} (hev : ev ∈ state.evidence)
    (hsource : ev.sourceType = .sharepoint ∨ ev.sourceType = .owncloud ∨ ev.sourceType = .email)
    (hkept : isFilenameOrTitleOnly ev = false) (hclean : ¬ CleanExcerpt isWord same ev) :
    ¬ PassesOwnGate state.evidence report := by
  intro hpasses
  have hexcerpt : strip ev.excerpt ≠ "" := by
    intro hempty
    rw [isFilenameOrTitleOnly] at hkept
    dsimp only at hkept
    rw [if_pos hempty] at hkept
    cases hkept
  have hsection := getD_findingSection hfinancial h (findingSection_mem ev)
  have hdoc : ev ∈ builderDocs state :=
    mem_builderDocs.mpr ⟨by rwa [builderEvidence, if_neg hfinancial], hsource⟩
  have hfinding := contentFinding_eq_some.mpr ⟨⟨hfinancial, hexcerpt, hkept⟩, rfl, rfl⟩
  obtain ⟨i, hi, hget⟩ := List.mem_iff_getElem.mp
    ((mem_sectionFindings rfl).mpr ⟨ev, hdoc, _, hfinding, rfl⟩)
  have hcheck := hpasses.findings _ (findingSection_mem ev) _ hsection i _
    (List.getElem?_eq_some_iff.mpr ⟨hi, hget⟩)
  exact (checkRawFilename_toValue rfl).mp hcheck
    ((hsearch.showsFilename_content hexcerpt hkept).mpr hclean)

/-- The evidence-built report of a state passes the gate's checks just if it is a financial one, or
each document and email it quotes has a clean excerpt. A clean excerpt shows no filename; the ones
that are filenames altogether are not quoted. -/
theorem passesOwnGate_iff (hsearch : FilenameSearch isWord same) (hplain : PlainNumbers F same)
    (h : buildReportFromEvidence state pid = .ok report) :
    PassesOwnGate state.evidence report ↔ reportTypeOf state = .financial ∨
      ∀ ev ∈ state.evidence, ev.sourceType = .sharepoint ∨ ev.sourceType = .owncloud ∨
          ev.sourceType = .email →
        isFilenameOrTitleOnly ev = false → CleanExcerpt isWord same ev := by
  constructor
  · intro hpasses
    by_cases hfinancial : reportTypeOf state = .financial
    · exact .inl hfinancial
    · refine .inr fun ev hev hsource hkept => ?_
      by_contra hclean
      exact not_passesOwnGate hsearch h hfinancial hev hsource hkept hclean hpasses
  · intro hclean
    refine ⟨fun sec hsec items hitems i d hd => ?_,
      checkClaims_of_cited (buildReport_cited h hsearch hplain)⟩
    have hmem : .dict d ∈ items := List.mem_of_getElem? hd
    -- a financial report has only the findings of its figures, which look like no file name
    by_cases hfinancial : reportTypeOf state = .financial
    · obtain ⟨⟨placed, fs, found, hbuilder, hfs, hfound, hfindings⟩, hempty, -⟩ :=
        buildReport_financial hfinancial h
      simp only [findingSections, List.mem_cons, List.not_mem_nil, or_false] at hsec
      rcases hsec with rfl | rfl | rfl
      · rw [Dict.getD, hfindings] at hitems
        cases hitems
        obtain ⟨f, hf, hplainFinding⟩ := hbuilder.plain_findings hsearch hplain hfs hfound _ hmem
        exact (checkRawFilename_toValue hf.symm).mpr (hsearch.not_showsFilename hplainFinding.text)
      · rw [Dict.getD, hempty _ (by decide)] at hitems
        cases hitems
        cases hmem
      · rw [Dict.getD, hempty _ (by decide)] at hitems
        cases hitems
        cases hmem
    · rw [getD_findingSection hfinancial h hsec] at hitems
      obtain ⟨ev, hev, f, hfinding, hf⟩ := (mem_sectionFindings hitems).mp hmem
      obtain ⟨⟨-, hexcerpt, hkept⟩, -, rfl⟩ := contentFinding_eq_some.mp hfinding
      obtain ⟨hev, hsource⟩ := mem_builderDocs.mp hev
      have hshown := hsearch.showsFilename_content hexcerpt hkept
      have hclean := hclean.resolve_left hfinancial ev (mem_of_mem_builderEvidence hev) hsource
        hkept
      exact (checkRawFilename_toValue hf).mpr fun hshows => absurd hclean (hshown.mp hshows)

end Sections

end Fallback

section Whole

open Py.Whole

/-- `\w`, of ASCII characters. -/
def isWordChar (c : Char) : Bool := c.isAlphanum || decide (c = '_')

/-- A letter of a pattern, against a character in any case. -/
def sameLetter (w c : Char) : Bool := decide (c.toLower = w)

/-- Whether a pattern of file names is found in a text. -/
def findsFilename (pattern : String) (cs : List Char) : Bool :=
  if pattern = filenameRe then isFullName isWordChar sameLetter cs
  else decide (pattern = filenameLikeRe ∨ pattern = filenameEmbeddedRe) &&
    hasFilename isWordChar sameLetter cs

/-- ASCII text with an engine for the patterns of file names and the one of tokens. -/
local instance filenameText : Text where
  toDigits := latinDigits
  isSpace c := c.isWhitespace
  lower s := String.ofList (s.toList.map Char.toLower)
  title s := String.ofList (titleChars false s.toList)
  search pattern s := if findsFilename pattern s.toList then some [] else none
  findAll _ s := ((s.toList.splitOnP fun c => !c.isAlphanum).filter (· ≠ [])).map String.ofList
  replaceAll _ _ s := s

private theorem searches_filenameText (pattern s : String) :
    searches pattern s = findsFilename pattern s.toList := by
  change (if _ then _ else _ : Option (List String)).isSome = _
  cases findsFilename pattern s.toList <;> rfl

/-- The engine of the concrete runs finds what the matchers find. -/
private theorem filenameSearch_filenameText : FilenameSearch isWordChar sameLetter where
  like s := by
    rw [searches_filenameText, findsFilename, if_neg (by decide), decide_eq_true (.inl rfl),
      Bool.true_and]
  embedded s := by
    rw [searches_filenameText, findsFilename, if_neg (by decide), decide_eq_true (.inr rfl),
      Bool.true_and]
  full s := by rw [searches_filenameText, findsFilename, if_pos rfl]
  letter ext hext w hw c hsame := by
    have hletters : (fileExtensions.all fun ext => ext.all isWordChar) = true := by decide
    have hlower : c.toLower = w := of_decide_eq_true hsame
    unfold Char.toLower at hlower
    split at hlower
    · next hupper =>
      have halpha : c.isUpper = true := decide_eq_true hupper
      change ((c.isUpper || c.isLower) || c.isDigit || c == '_') = true
      rw [halpha]
      rfl
    · rw [hlower]
      exact List.all_eq_true.mp (List.all_eq_true.mp hletters ext hext) w hw
  dot := by decide
  blank := by decide
  space := by decide

private theorem mem_groupDigits {c : Char} (ds : List Char) (h : c ∈ groupDigits ds) :
    c ∈ ds ∨ c = ',' := by
  fun_induction groupDigits ds with
  | case1 a b d e ds ih =>
    simp only [List.mem_cons] at h ⊢
    grind
  | case2 ds => exact .inl h

/-- The numbers of the concrete runs are printed without a letter. -/
private theorem plainNumbers_sameLetter : PlainNumbers ℤ sameLetter := by
  intro x
  have hzero : ∀ ext ∈ fileExtensions, ∀ w ∈ ext.head?, sameLetter w '0' = false := by
    have hall :
        (fileExtensions.all fun ext => ext.head?.all fun w => !sameLetter w '0') = true := by
      decide
    intro ext hext w hw
    have h := List.all_eq_true.mp hall ext hext
    rw [Option.mem_def.mp hw] at h
    simpa using h
  have hcents : NoExtension sameLetter ".00".toList :=
    List.isChain_cons_cons.mpr ⟨fun _ => hzero,
      List.isChain_cons_cons.mpr ⟨fun hdot => absurd hdot (by decide), List.isChain_singleton _⟩⟩
  have hdigits : '.' ∉ ((if x < 0 then "-" else "") ++ String.ofList
      (groupDigits (toString x.natAbs).toList.reverse).reverse).toList := by
    rw [String.toList_append, String.toList_ofList, List.mem_append, List.mem_reverse]
    rintro (hsign | hdigit)
    · split at hsign
      · exact absurd hsign (by decide)
      · exact absurd hsign (by decide)
    · rcases mem_groupDigits _ hdigit with hdigit | hcomma
      · rw [List.mem_reverse, Nat.toString_eq_repr, Nat.toList_repr] at hdigit
        exact absurd (Nat.isDigit_of_mem_toDigits (by decide) (by decide) hdigit) (by decide)
      · exact absurd hcomma (by decide)
  have hformat : (Floats.format 2 x : String).toList = _ := String.toList_append
  rw [hformat]
  exact hcents.prepend hdigits

/-- A document of the site with the given content. -/
def siteDocument (excerpt : String) : Evidence ℤ :=
  { evidenceId := "ev_000001", sourceType := .sharepoint, sourceUri := "https://site/doc/1"
    title := "Progress report", timestamp := some "2024-05-01T00:00:00Z", excerpt := excerpt
    hashSha256 := "doc-1", confidence := .medium, tags := [], metadata := [] }

/-- The report that is built from this document. -/
def documentReport (excerpt : String) : Except Error (Dict ℤ) :=
  buildReportFromEvidence (statusState [siteDocument excerpt])
    (resolveProjectIdentity (fun _ => none) (some "P1") [siteDocument excerpt])

/-- A pack with one plain sentence makes a report that passes. -/
theorem passesOwnGate_delayedWorks :
    ∃ report, documentReport "The works are two weeks late." = .ok report ∧
      PassesOwnGate [siteDocument "The works are two weeks late."] report := by
  obtain ⟨report, hreport⟩ : Completes (documentReport "The works are two weeks late.") :=
    completes_of_isSome (by decide)
  refine ⟨report, hreport, (passesOwnGate_iff filenameSearch_filenameText plainNumbers_sameLetter
    hreport).mpr (.inr ?_)⟩
  rintro ev hev - -
  rw [List.mem_singleton.mp hev]
  exact ⟨fun _ => by decide, fun h => absurd h (by decide)⟩

/-- A drawing whose name is its whole content, with a revision in parentheses, is shown as a
finding, which the gate takes for a raw file name. -/
theorem not_passesOwnGate_drawing :
    ∃ report, documentReport "Site plan (rev 2).pdf" = .ok report ∧
      ¬ PassesOwnGate [siteDocument "Site plan (rev 2).pdf"] report := by
  obtain ⟨report, hreport⟩ : Completes (documentReport "Site plan (rev 2).pdf") :=
    completes_of_isSome (by decide)
  refine ⟨report, hreport, not_passesOwnGate filenameSearch_filenameText hreport (by decide)
    List.mem_cons_self (.inl rfl) (by decide +kernel) fun hclean => ?_⟩
  exact absurd (hclean.whole (by decide)) (by decide)

end Whole

end DecisionCenter
