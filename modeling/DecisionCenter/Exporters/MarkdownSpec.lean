import DecisionCenter.Exporters.Markdown

/-!
# What the document shows

Which items of the claim-bearing sections and which figures of the snapshot end up on a line of
the exported document: exactly those of the sections that the report's policy renders.
`shown_toMarkdown` is the main result: the objects of the executive summary, the items of the
listed sections and, if the policy has it, the figures of the snapshot, in the order of the
document.

Every part of the document has one lemma, which says either that its lines are plain text, that
is, show neither an item nor a figure (`AllText`), or which items and figures they show. A
listing is a loop over the items of a value, so that most of these lemmas come from
`filterMap_linesOr`: where each step shows what `g` says, the loop shows it in order.

For the snapshot the figures are those that are objects with a value (`shownFigures`). An empty
object counts for nothing, as if it were not there, since the exporter reads a figure by `or`;
and the variance is shown under the same rule as the others, though by a function of its own.

The numbering of the headings and the blank lines between the parts show nothing
(`filterMap_numberParts`, `filterMap_blank`), so that the parts can be treated one by one.
-/

namespace DecisionCenter

open Py

variable {F : Type} [Floats F]

/-! ### Lines of plain text -/

omit [Floats F] in
/-- The line shows neither an item nor a figure. -/
def Line.IsText (l : Line F) : Prop := ∃ s, l = .text s

omit [Floats F] in
/-- All lines are plain text. -/
def AllText (lines : List (Line F)) : Prop := ∀ l ∈ lines, l.IsText

section Text

omit [Floats F]

@[simp] theorem allText_nil : AllText ([] : List (Line F)) := by
  intro l hl
  cases hl

@[simp] theorem allText_text_cons {s : String} {lines : List (Line F)} :
    AllText (.text s :: lines) ↔ AllText lines := by
  constructor
  · intro h l hl
    exact h l (List.mem_cons_of_mem _ hl)
  · intro h l hl
    rcases List.mem_cons.mp hl with rfl | hl
    · exact ⟨s, rfl⟩
    · exact h l hl

@[simp] theorem allText_append {lines lines' : List (Line F)} :
    AllText (lines ++ lines') ↔ AllText lines ∧ AllText lines' := List.forall_mem_append

private theorem allText_ite {p : Prop} [Decidable p] {lines lines' : List (Line F)}
    (h : AllText lines) (h' : AllText lines') : AllText (if p then lines else lines') := by
  split
  · exact h
  · exact h'

end Text

/-- The lines of a listing: one step for each item, or those for nothing. The cases are what most
sections are read off. -/
theorem linesOr_cases {v : Value F} {none lines : List (Line F)}
    {line : Value F → Except Error (List (Line F))} (h : linesOr v none line = .ok lines) :
    (v.truthy = false ∧ lines = none) ∨
      (v.truthy = true ∧ ∃ items, v.iter = .ok items ∧
        ∀ l, l ∈ lines ↔ ∃ item ∈ items, ∃ ls, line item = .ok ls ∧ l ∈ ls) := by
  unfold linesOr at h
  cases htruthy : v.truthy with
  | false =>
    rw [htruthy, if_neg Bool.false_ne_true] at h
    exact .inl ⟨rfl, (Except.ok.inj h).symm⟩
  | true =>
    rw [htruthy, if_pos rfl] at h
    obtain ⟨items, hitems, h⟩ := bind_eq_ok.mp h
    obtain ⟨yss, hyss, h⟩ := bind_eq_ok.mp h
    cases h
    refine .inr ⟨rfl, items, hitems, fun l => ?_⟩
    rw [List.mem_flatten]
    constructor
    · rintro ⟨ls, hls, hl⟩
      obtain ⟨item, hitem, hline⟩ := (mem_of_mapM hyss).mp hls
      exact ⟨item, hitem, ls, hline, hl⟩
    · rintro ⟨item, hitem, ls, hline, hl⟩
      exact ⟨ls, (mem_of_mapM hyss).mpr ⟨item, hitem, hline⟩, hl⟩

/-- A listing of plain lines is plain. -/
theorem linesOr_allText {v : Value F} {none lines : List (Line F)}
    {line : Value F → Except Error (List (Line F))} (hnone : AllText none)
    (hline : ∀ item ls, line item = .ok ls → AllText ls) (h : linesOr v none line = .ok lines) :
    AllText lines := by
  rcases linesOr_cases h with ⟨-, rfl⟩ | ⟨-, items, -, hmem⟩
  · exact hnone
  · intro l hl
    obtain ⟨item, -, ls, hls, hl⟩ := (hmem l).mp hl
    exact hline item ls hls l hl

private theorem bullet_allText {item : Value F} {ls : List (Line F)} (h : bullet item = .ok ls) :
    AllText ls := by
  cases h
  simp

/-! ### Parts without claims and figures -/

private theorem coveragePart_allText {report : Dict F} {part : Part F}
    (h : coveragePart report = .ok part) : AllText part.lines := by
  obtain ⟨rows, hrows, h⟩ := bind_eq_ok.mp h
  cases h
  have hplain : AllText rows := by
    refine linesOr_allText (by simp) (fun item ls hls => ?_) hrows
    unfold coverageRow at hls
    split at hls <;> cases hls <;> simp
  simp only [allText_text_cons, allText_append, allText_nil, and_true]
  exact allText_ite (by simp [hplain]) hplain

private theorem memoList_allText {title : String} {v : Value F} {ls : List (Line F)}
    (h : memoList title v = .ok ls) : AllText ls := by
  obtain ⟨items, hitems, h⟩ := bind_eq_ok.mp h
  cases h
  have hplain : AllText items :=
    linesOr_allText (by simp) (fun _ _ hls => bullet_allText hls) hitems
  exact allText_ite (by simp [hplain]) allText_nil

private theorem memoLine_allText (label : String) (v : Value F) : AllText (memoLine label v) := by
  simp [memoLine]

private theorem memoLines_allText {mqa : Dict F} {ls : List (Line F)} (h : memoLines mqa = .ok ls) :
    AllText ls := by
  obtain ⟨why, hwhy, h⟩ := bind_eq_ok.mp h
  obtain ⟨used, hused, h⟩ := bind_eq_ok.mp h
  cases h
  simp only [allText_append, memoList_allText hwhy, memoList_allText hused, memoLine_allText,
    and_true, allText_text_cons, allText_nil, true_and]
  refine ⟨⟨⟨?_, ?_⟩, ?_⟩, ?_⟩
  · split
    · exact allText_ite (by simp) allText_nil
    · exact allText_nil
  · exact allText_ite (memoLine_allText _ _) allText_nil
  · split
    · exact allText_ite (by simp) allText_nil
    · exact allText_nil
  · exact allText_ite (memoLine_allText _ _) allText_nil

private theorem memoPart_allText {report : Dict F} {part : Part F}
    (h : memoPart report = .ok part) : AllText part.lines := by
  obtain ⟨ls, hls, h⟩ := bind_eq_ok.mp h
  cases h
  split at hls
  · split at hls
    · exact memoLines_allText hls
    · cases hls
      exact allText_nil
  · cases hls
    exact allText_nil

private theorem conflictsPart_allText {report : Dict F} {part : Part F}
    (h : conflictsPart report = .ok part) : AllText part.lines := by
  obtain ⟨ls, hls, h⟩ := bind_eq_ok.mp h
  cases h
  have hplain : AllText ls := by
    refine linesOr_allText (by simp) (fun item ls hitem => ?_) hls
    unfold conflictLines at hitem
    split at hitem
    · split at hitem
      · cases hitem
        simp
      · cases hitem
    · cases hitem
      exact allText_nil
  simp [hplain]

private theorem missingPart_allText {report : Dict F} {part : Part F}
    (h : missingPart report = .ok part) : AllText part.lines := by
  obtain ⟨ls, hls, h⟩ := bind_eq_ok.mp h
  cases h
  have hplain : AllText ls := linesOr_allText (by simp) (fun _ _ hls => bullet_allText hls) hls
  simp [hplain]

private theorem listPart_allText {report : Dict F} {title key : String} {part : Part F}
    (h : listPart report title key = .ok part) : AllText part.lines := by
  obtain ⟨ls, hls, h⟩ := bind_eq_ok.mp h
  cases h
  have hplain : AllText ls := linesOr_allText (by simp) (fun _ _ hls => bullet_allText hls) hls
  exact allText_ite (by simp [hplain]) allText_nil

private theorem sourcesPart_allText {report : Dict F} {policy : ReportPolicy} {part : Part F}
    (h : sourcesPart report policy = .ok part) : AllText part.lines := by
  unfold sourcesPart at h
  simp only at h
  split at h
  · obtain ⟨ls, hls, h⟩ := bind_eq_ok.mp h
    cases h
    have hplain : AllText ls := by
      refine linesOr_allText (by simp) (fun item ls hitem => ?_) hls
      unfold sourceLine at hitem
      split at hitem <;> cases hitem <;> simp
    simp [hplain]
  · cases h
    exact allText_nil

private theorem headerLines_allText [Text] {report : Dict F} {generatedAt : String}
    {ls : List (Line F)} (h : headerLines report generatedAt = .ok ls) : AllText ls := by
  obtain ⟨projectName, -, h⟩ := bind_eq_ok.mp h
  obtain ⟨reportType, -, h⟩ := bind_eq_ok.mp h
  cases h
  simp

/-! ### What the lines show -/

section Shows

omit [Floats F]

/-- The item a line shows, with its section. -/
def Line.claim? : Line F → Option (String × Value F)
  | .claim sec item _ => some (sec, item)
  | _ => none

/-- The figure a line shows, with its key. -/
def Line.figure? : Line F → Option (String × Dict F)
  | .figure key node _ => some (key, node)
  | _ => none

/-- Plain lines show nothing. -/
theorem filterMap_of_allText {β : Type} {p : Line F → Option β} (hp : ∀ s, p (.text s) = none)
    {lines : List (Line F)} (h : AllText lines) : lines.filterMap p = [] := by
  refine List.filterMap_eq_nil_iff.mpr fun l hl => ?_
  obtain ⟨s, rfl⟩ := h l hl
  exact hp s

/-- Nor does the blank line after a part. -/
theorem filterMap_blank {β : Type} {p : Line F → Option β} (hp : ∀ s, p (.text s) = none)
    (lines : List (Line F)) : (lines ++ [Line.text ""]).filterMap p = lines.filterMap p := by
  rw [List.filterMap_append, List.filterMap_cons_none (hp ""), List.filterMap_nil, List.append_nil]

/-- The headings show nothing. -/
theorem filterMap_numberParts {β : Type} {p : Line F → Option β} (hp : ∀ s, p (.text s) = none)
    (n : ℕ) (parts : List (Part F)) :
    (numberParts n parts).filterMap p = parts.flatMap fun part => part.lines.filterMap p := by
  induction parts generalizing n with
  | nil => rfl
  | cons part parts ih =>
    unfold numberParts
    split
    · rw [List.filterMap_cons_none (hp _), List.filterMap_cons_none (hp _),
        List.filterMap_append, ih, List.flatMap_cons]
    · rw [List.filterMap_append, ih, List.flatMap_cons]

/-- A loop whose steps show what `g` says shows it in order. -/
theorem filterMap_flatten_of_mapM {α β : Type} {p : Line F → Option β} {g : α → List β}
    {line : α → Except Error (List (Line F))} {xs : List α} {yss : List (List (Line F))}
    (hline : ∀ x ls, line x = .ok ls → ls.filterMap p = g x) (h : xs.mapM line = .ok yss) :
    yss.flatten.filterMap p = xs.flatMap g := by
  have hsteps := mapM_eq_ok.mp h
  clear h
  induction hsteps with
  | nil => rfl
  | cons hx _ ih => rw [List.flatten_cons, List.filterMap_append, hline _ _ hx, ih,
      List.flatMap_cons]

end Shows

/-- The items a value is listed as. -/
def itemsOf (v : Value F) : List (Value F) :=
  if v.truthy then v.iter.toOption.getD [] else []

private theorem filterMap_linesOr {β : Type} {p : Line F → Option β} {g : Value F → List β}
    {v : Value F} {none lines : List (Line F)} {line : Value F → Except Error (List (Line F))}
    (hnone : none.filterMap p = []) (hline : ∀ x ls, line x = .ok ls → ls.filterMap p = g x)
    (h : linesOr v none line = .ok lines) : lines.filterMap p = (itemsOf v).flatMap g := by
  unfold linesOr at h
  split at h
  · next htruthy =>
    obtain ⟨items, hitems, h⟩ := bind_eq_ok.mp h
    obtain ⟨yss, hyss, h⟩ := bind_eq_ok.mp h
    cases h
    rw [itemsOf, if_pos htruthy, hitems]
    exact filterMap_flatten_of_mapM hline hyss
  · next hfalsy =>
    cases h
    rw [itemsOf, if_neg hfalsy]
    exact hnone

/-! ### Sections -/

/-- The items of a section of the report. -/
def sectionItems (report : Dict F) (sec : String) : List (Value F) :=
  itemsOf (report.getD sec (.list []))

private theorem claims_itemLine {sec lead : String} {item : Value F} {ls : List (Line F)}
    (h : itemLine sec lead item = .ok ls) : ls.filterMap Line.claim? = [(sec, item)] := by
  unfold itemLine at h
  split at h
  · obtain ⟨ref, -, h⟩ := bind_eq_ok.mp h
    cases h
    rfl
  · cases h
    rfl

private theorem figures_itemLine {sec lead : String} {item : Value F} {ls : List (Line F)}
    (h : itemLine sec lead item = .ok ls) : ls.filterMap Line.figure? = [] := by
  unfold itemLine at h
  split at h
  · obtain ⟨ref, -, h⟩ := bind_eq_ok.mp h
    cases h
    rfl
  · cases h
    rfl

/-- The items of a section under the section's name. -/
def namedItems (report : Dict F) (sec : String) : List (String × Value F) :=
  (sectionItems report sec).map fun item => (sec, item)

/-- A section listed item by item shows its items and no figure. -/
theorem shown_itemLines {report : Dict F} {sec lead none : String} {lines : List (Line F)}
    (h : linesOr (report.getD sec (.list [])) [.text none] (itemLine sec lead) = .ok lines) :
    lines.filterMap Line.claim? = namedItems report sec ∧
      lines.filterMap Line.figure? = [] := by
  constructor
  · rw [filterMap_linesOr rfl (fun _ _ hls => claims_itemLine hls) h, ← List.map_eq_flatMap]
    rfl
  · rw [filterMap_linesOr rfl (fun _ _ hls => figures_itemLine hls) h]
    exact List.flatMap_eq_nil_iff.mpr fun _ _ => rfl

private theorem shown_findingsPart {report : Dict F} {title sec : String} {part : Part F}
    (h : findingsPart report title sec = .ok part) :
    part.lines.filterMap Line.claim? = namedItems report sec ∧
      part.lines.filterMap Line.figure? = [] := by
  obtain ⟨lines, hlines, h⟩ := bind_eq_ok.mp h
  cases h
  obtain ⟨hclaims, hfigures⟩ := shown_itemLines hlines
  exact ⟨(filterMap_blank (fun _ => rfl) lines).trans hclaims,
    (filterMap_blank (fun _ => rfl) lines).trans hfigures⟩

private theorem shown_actionsPart {report : Dict F} {part : Part F}
    (h : actionsPart report = .ok part) :
    part.lines.filterMap Line.claim? = namedItems report "recommended_actions" ∧
      part.lines.filterMap Line.figure? = [] := by
  obtain ⟨lines, hlines, h⟩ := bind_eq_ok.mp h
  cases h
  obtain ⟨hclaims, hfigures⟩ := shown_itemLines hlines
  exact ⟨(filterMap_blank (fun _ => rfl) lines).trans hclaims,
    (filterMap_blank (fun _ => rfl) lines).trans hfigures⟩

/-- The entries the executive summary shows: those that are objects. -/
def summaryItems (report : Dict F) : List (String × Value F) :=
  (namedItems report "executive_summary").filter fun p => p.2.isDict

/-- A summary that is a string is not listed, and its characters are no objects. -/
theorem summaryItems_of_str {report : Dict F} {s : String}
    (h : report.getD "executive_summary" (.list []) = .str s) : summaryItems report = [] := by
  refine List.filter_eq_nil_iff.mpr ?_
  intro p hp
  obtain ⟨item, hitem, rfl⟩ := List.mem_map.mp hp
  rw [sectionItems, h, itemsOf] at hitem
  split at hitem
  · obtain ⟨c, -, rfl⟩ := List.mem_map.mp hitem
    exact Bool.false_ne_true
  · cases hitem

omit [Floats F] in
private theorem flatMap_ite_singleton {α β : Type} (xs : List α) (p : α → Bool) (f : α → β) :
    (xs.flatMap fun x => if p x then [f x] else []) = (xs.filter p).map f := by
  induction xs with
  | nil => rfl
  | cons x xs ih =>
    rw [List.flatMap_cons, List.filter_cons, ih]
    split <;> rfl

private theorem claims_summaryLine {item : Value F} {ls : List (Line F)}
    (h : summaryLine item = .ok ls) : ls.filterMap Line.claim? =
      if item.isDict then [("executive_summary", item)] else [] := by
  unfold summaryLine at h
  split at h
  · obtain ⟨ref, -, h⟩ := bind_eq_ok.mp h
    cases h
    rfl
  · next hdict =>
    cases h
    rw [if_neg]
    · rfl
    · intro hitem
      obtain ⟨d, rfl⟩ := Value.isDict_iff.mp hitem
      exact hdict d rfl

private theorem figures_summaryLine {item : Value F} {ls : List (Line F)}
    (h : summaryLine item = .ok ls) : ls.filterMap Line.figure? = [] := by
  unfold summaryLine at h
  split at h
  · obtain ⟨ref, -, h⟩ := bind_eq_ok.mp h
    cases h
    rfl
  · cases h
    rfl

/-- The summary shows its items and no figure. -/
private theorem shown_summaryPart {report : Dict F} {part : Part F}
    (h : summaryPart report = .ok part) : part.lines.filterMap Line.claim? = summaryItems report ∧
      part.lines.filterMap Line.figure? = [] := by
  obtain ⟨lines, hlines, h⟩ := bind_eq_ok.mp h
  cases h
  have hshown : lines.filterMap Line.claim? = summaryItems report ∧
      lines.filterMap Line.figure? = [] := by
    split at hlines
    · next s hs =>
      cases hlines
      exact ⟨(summaryItems_of_str hs).symm, rfl⟩
    · rw [summaryItems, namedItems, sectionItems]
      constructor
      · rw [filterMap_linesOr rfl (fun _ _ hls => claims_summaryLine hls) hlines,
          List.filter_map]
        exact flatMap_ite_singleton _ _ _
      · rw [filterMap_linesOr rfl (fun _ _ hls => figures_summaryLine hls) hlines]
        exact List.flatMap_eq_nil_iff.mpr fun _ _ => rfl
  exact ⟨(filterMap_blank (fun _ => rfl) lines).trans hshown.1,
    (filterMap_blank (fun _ => rfl) lines).trans hshown.2⟩

/-! ### The snapshot -/

/-- The object a value is, if it holds a value itself. -/
def valued (v : Value F) : Option (Dict F) :=
  v.asDict?.filter fun node => !(node.get "value").isNull

omit [Floats F] in
/-- A figure without a value is not shown. -/
theorem valued_of_null {node : Dict F} (h : (node.get "value").isNull = true) :
    valued (.dict node) = none := by
  simp [valued, Option.filter_some, h]

omit [Floats F] in
private theorem valued_of_value {node : Dict F} (h : ¬ (node.get "value").isNull = true) :
    valued (.dict node) = some node := by
  simp [valued, Option.filter_some, h]

omit [Floats F] in
/-- A figure is shown if it is an object with a value. -/
theorem valued_eq_some {v : Value F} {node : Dict F} :
    valued v = some node ↔ v = .dict node ∧ node.get "value" ≠ .null := by
  rw [valued, Option.filter_eq_some_iff, Value.asDict?_eq_some, Bool.not_eq_true',
    ← Bool.not_eq_true, Value.isNull_iff]

omit [Floats F] in
/-- What is no object is no figure. -/
theorem valued_eq_none {v : Value F} (h : ∀ node, v ≠ .dict node) : valued v = none := by
  rw [Option.eq_none_iff_forall_ne_some]
  exact fun node hnode => h node (valued_eq_some.mp hnode).1

/-- An empty object counts for nothing, as if it were not there. -/
theorem valued_orElse (v : Value F) : valued (v.orElse (.dict [])) = valued v := by
  rw [Value.orElse]
  split
  · rfl
  · next hfalsy =>
    cases v with
    | dict node =>
      cases node with
      | nil => rfl
      | cons kv node => exact absurd rfl hfalsy
    | _ => rfl

/-- The figure shown under a key. -/
def shownFigure (fs : Dict F) (key : String) : Option (String × Dict F) :=
  (valued (fs.get key)).map fun node => (key, node)

/-- The keys of the table. -/
def shownKeys : List String := finRows.map Prod.fst ++ ["variance"]

/-- The figures the table shows. -/
def shownFigures (report : Dict F) : List (String × Dict F) :=
  shownKeys.filterMap (shownFigure ((report.dict? "financial_snapshot").getD []))

private theorem shown_finRow {key label : String} {node currency : Value F} {l : Line F}
    (h : finRow key label node currency = .ok l) :
    l.claim? = none ∧ l.figure? = (valued node).map fun d => (key, d) := by
  unfold finRow at h
  split at h
  · dsimp only at h
    split at h
    · next hnull =>
      cases h
      exact ⟨rfl, by rw [valued_of_null hnull]; rfl⟩
    · next hvalue =>
      obtain ⟨value, -, h⟩ := bind_eq_ok.mp h
      cases h
      exact ⟨rfl, by rw [valued_of_value hvalue]; rfl⟩
  · next hdict =>
    cases h
    exact ⟨rfl, by rw [valued_eq_none hdict]; rfl⟩

private theorem shown_varianceRow {variance currency : Value F} {ls : List (Line F)}
    (h : varianceRow variance currency = .ok ls) :
    ls.filterMap Line.claim? = [] ∧
      ls.filterMap Line.figure? = ((valued variance).map fun d => ("variance", d)).toList := by
  unfold varianceRow at h
  split at h
  · dsimp only at h
    split at h
    · next hnull =>
      cases h
      exact ⟨rfl, by rw [valued_of_null hnull]; rfl⟩
    · next hvalue =>
      obtain ⟨value, -, h⟩ := bind_eq_ok.mp h
      cases h
      exact ⟨rfl, by rw [valued_of_value hvalue]; rfl⟩
  · next hdict =>
    cases h
    exact ⟨rfl, by rw [valued_eq_none hdict]; rfl⟩

private theorem shown_finRows {fs : Dict F} {currency : Value F} {keys : List (String × String)}
    {rows : List (Line F)}
    (h : (keys.mapM fun kl => finRow kl.1 kl.2 ((fs.get kl.1).orElse (.dict [])) currency) =
      .ok rows) :
    rows.filterMap Line.claim? = [] ∧
      rows.filterMap Line.figure? = (keys.map Prod.fst).filterMap (shownFigure fs) := by
  have hsteps := mapM_eq_ok.mp h
  clear h
  induction hsteps with
  | nil => exact ⟨rfl, rfl⟩
  | cons hrow _ ih =>
    obtain ⟨hclaim, hfigure⟩ := shown_finRow hrow
    rw [valued_orElse] at hfigure
    rw [List.filterMap_cons_none hclaim, List.filterMap_cons, hfigure, List.map_cons,
      List.filterMap_cons, ih.1, ih.2]
    exact ⟨rfl, rfl⟩

/-- The table shows the figures that are objects with a value. The note under it is plain text and
shows none. -/
theorem shown_snapshotLines {fs : Dict F} {ls : List (Line F)} (h : snapshotLines fs = .ok ls) :
    ls.filterMap Line.claim? = [] ∧
      ls.filterMap Line.figure? = shownKeys.filterMap (shownFigure fs) := by
  obtain ⟨rows, hrows, h⟩ := bind_eq_ok.mp h
  obtain ⟨last, hlast, h⟩ := bind_eq_ok.mp h
  cases h
  obtain ⟨hclaims, hfigures⟩ := shown_finRows hrows
  obtain ⟨hlastClaims, hlastFigures⟩ := shown_varianceRow hlast
  rw [valued_orElse] at hlastFigures
  have hnote : ∀ note : List (Line F), AllText note →
      note.filterMap Line.claim? = [] ∧ note.filterMap Line.figure? = [] := fun note hnote =>
    ⟨filterMap_of_allText (fun _ => rfl) hnote, filterMap_of_allText (fun _ => rfl) hnote⟩
  have hplain : AllText (if (fs.get "note").truthy then
      [Line.text "", .text ("> " ++ (fs.get "note").toStr ++ ".")] else [] : List (Line F)) :=
    allText_ite (by simp) allText_nil
  obtain ⟨hnoteClaims, hnoteFigures⟩ := hnote _ hplain
  simp only [List.filterMap_append, hclaims, hfigures, hlastClaims, hlastFigures, hnoteClaims,
    hnoteFigures, shownKeys]
  refine ⟨rfl, ?_⟩
  have hvariance : [("variance" : String)].filterMap (shownFigure fs) =
      (shownFigure fs "variance").toList := by
    rw [List.filterMap_cons]
    cases shownFigure fs "variance" <;> rfl
  rw [List.append_nil, hvariance]
  rfl

omit [Floats F] in
/-- What stands in for a missing snapshot. -/
theorem snapshot_orElse [Floats F] (report : Dict F) :
    (((report.get "financial_snapshot").orElse (.dict [])).asDict?).getD [] =
      ((report.get? "financial_snapshot").bind Value.asDict?).getD [] := by
  rw [Dict.get, Dict.getD]
  cases report.get? "financial_snapshot" with
  | none => rfl
  | some v =>
    rw [Option.getD_some, Option.bind_some, Value.orElse]
    split
    · rfl
    · next hfalsy =>
      cases v with
      | dict node =>
        cases node with
        | nil => rfl
        | cons kv node => exact absurd rfl hfalsy
      | _ => rfl

/-- The figures shown are those of the report's snapshot, whether it has one or not: without one the
table is empty. -/
theorem shown_financialPart {report : Dict F} {part : Part F}
    (h : financialPart report = .ok part) :
    part.lines.filterMap Line.claim? = [] ∧
      part.lines.filterMap Line.figure? = shownFigures report := by
  obtain ⟨ls, hls, h⟩ := bind_eq_ok.mp h
  cases h
  have hshown : ls.filterMap Line.claim? = [] ∧
      ls.filterMap Line.figure? = shownFigures report := by
    rw [shownFigures]
    split at hls
    · next fs hfs =>
      have hsame : (report.dict? "financial_snapshot").getD [] = fs := by
        rw [Dict.dict?, ← snapshot_orElse, hfs, Option.getD_some]
      rw [hsame]
      exact shown_snapshotLines hls
    · next hnone =>
      cases hls
      rw [Dict.dict?, ← snapshot_orElse, hnone]
      exact ⟨rfl, rfl⟩
  exact ⟨(filterMap_blank (fun _ => rfl) ls).trans hshown.1,
    (filterMap_blank (fun _ => rfl) ls).trans hshown.2⟩

/-! ### The document -/

/-- The sections that are listed, if the policy shows them. -/
def listedSections (policy : ReportPolicy) : List String :=
  ["key_findings"] ++ (if policy.renders .rootCauses then ["root_causes"] else [])
    ++ (if policy.renders .delayAnalysis then ["delay_analysis"] else [])
    ++ (if policy.renders .contractual then ["contractual_implications"] else [])
    ++ ["recommended_actions"]

omit [Floats F] in
/-- A part the policy suppresses shows nothing. -/
theorem shown_ifRendered {β : Type} {p : Line F → Option β} {policy : ReportPolicy}
    {sec : ReportSection} {x : Except Error (Part F)} {part : Part F} {shown : List β}
    (hx : ∀ part, x = .ok part → part.lines.filterMap p = shown)
    (h : ifRendered policy sec x = .ok part) :
    part.lines.filterMap p = if policy.renders sec then shown else [] := by
  unfold ifRendered at h
  cases hsec : policy.renders sec with
  | true =>
    rw [hsec, if_pos rfl] at h
    exact hx part h
  | false =>
    rw [hsec, if_neg Bool.false_ne_true] at h
    cases h
    rfl

/-- All parts together show the items of the summary and of the sections listed, and the figures.
The parts are gone through in the order of the document. -/
private theorem shown_documentParts {report : Dict F} {policy : ReportPolicy}
    {parts : List (Part F)} (h : documentParts report policy = .ok parts) :
    (parts.flatMap fun part => part.lines.filterMap Line.claim?) =
        summaryItems report ++ (listedSections policy).flatMap (namedItems report) ∧
      (parts.flatMap fun part => part.lines.filterMap Line.figure?) =
        if policy.renders .financialSnapshot then shownFigures report else [] := by
  obtain ⟨coverage, hcoverage, h⟩ := bind_eq_ok.mp h
  obtain ⟨summary, hsummary, h⟩ := bind_eq_ok.mp h
  obtain ⟨memo, hmemo, h⟩ := bind_eq_ok.mp h
  obtain ⟨financial, hfinancial, h⟩ := bind_eq_ok.mp h
  obtain ⟨findings, hfindings, h⟩ := bind_eq_ok.mp h
  obtain ⟨causes, hcauses, h⟩ := bind_eq_ok.mp h
  obtain ⟨delay, hdelay, h⟩ := bind_eq_ok.mp h
  obtain ⟨contractual, hcontractual, h⟩ := bind_eq_ok.mp h
  obtain ⟨actions, hactions, h⟩ := bind_eq_ok.mp h
  obtain ⟨conflicts, hconflicts, h⟩ := bind_eq_ok.mp h
  obtain ⟨missing, hmissing, h⟩ := bind_eq_ok.mp h
  obtain ⟨checked, hchecked, h⟩ := bind_eq_ok.mp h
  obtain ⟨required, hrequired, h⟩ := bind_eq_ok.mp h
  obtain ⟨sources, hsources, h⟩ := bind_eq_ok.mp h
  cases h
  -- a part that is text alone shows neither claims nor figures
  have hclaim {part : Part F} (hpart : AllText part.lines) :
      part.lines.filterMap Line.claim? = [] := filterMap_of_allText (fun _ => rfl) hpart
  have hfigure {part : Part F} (hpart : AllText part.lines) :
      part.lines.filterMap Line.figure? = [] := filterMap_of_allText (fun _ => rfl) hpart
  have hstatus (s : String) : AllText [(.text s : Line F), .text ""] := by simp
  constructor
  · simp only [List.flatMap_cons, List.flatMap_nil, List.append_nil, List.nil_append,
      hclaim (coveragePart_allText hcoverage), (shown_summaryPart hsummary).1,
      hclaim (memoPart_allText hmemo),
      shown_ifRendered (fun part hpart => (shown_financialPart hpart).1) hfinancial,
      (shown_findingsPart hfindings).1,
      shown_ifRendered (fun part hpart => (shown_findingsPart hpart).1) hcauses,
      shown_ifRendered (fun part hpart => (shown_findingsPart hpart).1) hdelay,
      shown_ifRendered (fun part hpart => (shown_findingsPart hpart).1) hcontractual,
      (shown_actionsPart hactions).1, hclaim (conflictsPart_allText hconflicts),
      hclaim (missingPart_allText hmissing), hclaim (listPart_allText hchecked),
      hclaim (listPart_allText hrequired), hclaim (sourcesPart_allText hsources),
      filterMap_of_allText (fun _ => rfl : ∀ s, Line.claim? (.text s : Line F) = none) (hstatus _)]
    rw [listedSections]
    cases policy.renders .rootCauses <;> cases policy.renders .delayAnalysis <;>
      cases policy.renders .contractual <;> simp
  · simp only [List.flatMap_cons, List.flatMap_nil, List.append_nil, List.nil_append,
      hfigure (coveragePart_allText hcoverage), (shown_summaryPart hsummary).2,
      hfigure (memoPart_allText hmemo),
      shown_ifRendered (fun part hpart => (shown_financialPart hpart).2) hfinancial,
      (shown_findingsPart hfindings).2,
      shown_ifRendered (fun part hpart => (shown_findingsPart hpart).2) hcauses,
      shown_ifRendered (fun part hpart => (shown_findingsPart hpart).2) hdelay,
      shown_ifRendered (fun part hpart => (shown_findingsPart hpart).2) hcontractual,
      (shown_actionsPart hactions).2, hfigure (conflictsPart_allText hconflicts),
      hfigure (missingPart_allText hmissing), hfigure (listPart_allText hchecked),
      hfigure (listPart_allText hrequired), hfigure (sourcesPart_allText hsources),
      filterMap_of_allText (fun _ => rfl : ∀ s, Line.figure? (.text s : Line F) = none) (hstatus _),
      ite_self]

/-- The document shows the objects of the executive summary, the items of the listed sections and,
if the policy has it, the figures of the snapshot. -/
theorem shown_toMarkdown [Text] {report : Dict F} {generatedAt : String} {lines : List (Line F)}
    (h : toMarkdown report generatedAt = .ok lines) :
    ∃ policy, policyFor (report.getD "report_type" (.str "executive_decision")) = .ok policy ∧
      lines.filterMap Line.claim? =
        summaryItems report ++ (listedSections policy).flatMap (namedItems report) ∧
      lines.filterMap Line.figure? =
        if policy.renders .financialSnapshot then shownFigures report else [] := by
  obtain ⟨header, hheader, h⟩ := bind_eq_ok.mp h
  obtain ⟨policy, hpolicy, h⟩ := bind_eq_ok.mp h
  obtain ⟨parts, hparts, h⟩ := bind_eq_ok.mp h
  cases h
  obtain ⟨hclaims, hfigures⟩ := shown_documentParts hparts
  have hheaderText : AllText header := headerLines_allText hheader
  have hfooter (s : String) : AllText [(.text "---" : Line F), .text "", .text s] := by simp
  refine ⟨policy, hpolicy, ?_, ?_⟩
  · rw [List.filterMap_append, List.filterMap_append,
      filterMap_of_allText (fun _ => rfl) hheaderText, filterMap_of_allText (fun _ => rfl)
        (hfooter _), filterMap_numberParts (fun _ => rfl), hclaims, List.append_nil]
    rfl
  · rw [List.filterMap_append, List.filterMap_append,
      filterMap_of_allText (fun _ => rfl) hheaderText, filterMap_of_allText (fun _ => rfl)
        (hfooter _), filterMap_numberParts (fun _ => rfl), hfigures, List.append_nil]
    rfl

end DecisionCenter
