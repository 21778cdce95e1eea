import DecisionCenter.Graph.NonFabrication
import DecisionCenter.Graph.Totals

/-!
# The actual cost the prompt states

Node 12 shows the LLM a selection of the pack: the first twenty Odoo items, the emails and the
best documents. The total named in the prompt is that of the selection, while the figure written
into the snapshot afterwards is that of the whole pack.

The selection is `_apply_rerank` with the pool it is given. The reranker is a parameter of which
only this is needed, that it returns some of what it was given; it is asked about documents
only, so that the Odoo items of the selection are those of the pool, in the order of the pack
and cut after twenty (`odooEvidence_applyRerank`). From these `statedActual` computes the total
that the prompt states.

`PromptAgrees` compares it with the `actual_cost` object of whatever report is corrected.
Without such an object nothing is corrected, so that there is nothing to compare with. The
question then is one about totals (`promptAgrees_iff_total`), and a total is that of its first
items just if what is cut off is immaterial.

`promptAgrees_iff` is exact for every pack and every reranker. Of twenty-one postings the prompt
adds up twenty, and a difference of one posting is stated as a fact of the project.
-/

namespace DecisionCenter

open Py

section PromptFigures

variable {F : Type} [Floats F] [Text]

/-! ### The selection -/

/-- `Reranker.rerank`: Cohere names positions among the first fifty documents, best first; an
exception is known by the name of its type. -/
def rerank (cohere : String → List String → ℕ → Except String (List ℕ)) (query : String)
    (hits : List (Evidence F)) : Except String (List (Evidence F)) :=
  if hits = [] then pure []
  else do
    let inputs := hits.take 50
    let results ← cohere query (inputs.map (·.excerpt)) (min 10 inputs.length)
    if results.all fun index => decide (index < inputs.length) then
      pure (results.filterMap fun index => inputs[index]?)
    else throw "IndexError"

/-- The items `_apply_rerank` selects from, after the screening of a financial report. -/
def rerankPool (state : DecisionState F) (evidence : List (Evidence F)) : List (Evidence F) :=
  if reportTypeOf state = .financial then filterFinancialEvidence evidence state.query
  else evidence

/-- The documents of the selection and the status of the reranking; `n_o` and `n_e` count the Odoo
items and the emails that go with them. -/
def rankedDocuments (cohereKey : String)
    (cohere : String → List String → ℕ → Except String (List ℕ)) (query : String) (n_o n_e : ℕ)
    (other : List (Evidence F)) : List (Evidence F) × String :=
  if cohereKey = "" then (other.take 15, "skipped_no_key")
  else if other = [] then (other.take 15, "no_doc_evidence")
  else match rerank cohere query other with
    | .ok ranked =>
      let sp := ranked.take 10
      (sp, "ok_odoo=" ++ toString n_o ++ "_email=" ++ toString n_e ++ "_sp=" ++
        toString sp.length)
    | .error e => (other.take 10, "fallback:" ++ e)

/-- `_apply_rerank`: the selection for the prompt, and the status; no key is the empty one. -/
def applyRerank (cohereKey : String)
    (cohere : String → List String → ℕ → Except String (List ℕ)) (state : DecisionState F)
    (evidence : List (Evidence F)) : List (Evidence F) × String :=
  let pool := rerankPool state evidence
  let odooEv := (odooEvidence pool).take 20
  let emailEv := pool.filter fun ev => decide (ev.sourceType = .email)
  let other := pool.filter fun ev => decide (ev.sourceType ≠ .odoo ∧ ev.sourceType ≠ .email)
  let (docs, status) :=
    rankedDocuments cohereKey cohere state.query odooEv.length emailEv.length other
  ((odooEv ++ emailEv ++ docs).take 50, status)

omit [Floats F] [Text] in
/-- What the reranker returns is among what it was given. -/
theorem mem_of_mem_rerank {cohere : String → List String → ℕ → Except String (List ℕ)}
    {query : String} {hits ranked : List (Evidence F)} {ev : Evidence F}
    (h : rerank cohere query hits = .ok ranked) (hev : ev ∈ ranked) : ev ∈ hits := by
  unfold rerank at h
  split_ifs at h with hempty
  · cases h
    exact absurd hev List.not_mem_nil
  · obtain ⟨results, -, h⟩ := bind_eq_ok.mp h
    split_ifs at h with hinside
    cases h
    obtain ⟨index, -, hindex⟩ := List.mem_filterMap.mp hev
    exact List.mem_of_mem_take (List.mem_of_getElem? hindex)

omit [Floats F] [Text] in
/-- The documents of the selection are documents of the pool. -/
theorem mem_of_mem_rankedDocuments {cohereKey query : String} {n_o n_e : ℕ}
    {cohere : String → List String → ℕ → Except String (List ℕ)} {other : List (Evidence F)}
    {ev : Evidence F}
    (hev : ev ∈ (rankedDocuments cohereKey cohere query n_o n_e other).1) : ev ∈ other := by
  unfold rankedDocuments at hev
  split_ifs at hev
  · exact List.mem_of_mem_take hev
  · exact List.mem_of_mem_take hev
  · split at hev
    · next ranked hranked => exact mem_of_mem_rerank hranked (List.mem_of_mem_take hev)
    · exact List.mem_of_mem_take hev

/-- Screening the pool of a financial report keeps every Odoo item. -/
theorem odooEvidence_rerankPool (state : DecisionState F) (evidence : List (Evidence F)) :
    odooEvidence (rerankPool state evidence) = odooEvidence evidence := by
  unfold rerankPool
  split_ifs
  · exact odooEvidence_filterFinancialEvidence evidence state.query
  · rfl

/-- The Odoo items the prompt is built from are the first twenty of the pack. They are taken out
before the documents are ranked, in the order of the pack. -/
theorem odooEvidence_applyRerank (cohereKey : String)
    (cohere : String → List String → ℕ → Except String (List ℕ)) (state : DecisionState F)
    (evidence : List (Evidence F)) :
    odooEvidence (applyRerank cohereKey cohere state evidence).1 =
      (odooEvidence evidence).take 20 := by
  simp only [applyRerank, odooEvidence_rerankPool]
  set odooEv := (odooEvidence evidence).take 20 with hodoo
  set emailEv := (rerankPool state evidence).filter fun ev => decide (ev.sourceType = .email)
    with hemail
  set docs := (rankedDocuments cohereKey cohere state.query odooEv.length emailEv.length
    ((rerankPool state evidence).filter fun ev =>
      decide (ev.sourceType ≠ .odoo ∧ ev.sourceType ≠ .email))).1 with hdocs
  have hkept : odooEvidence odooEv = odooEv := by
    refine List.filter_eq_self.mpr fun ev hev => Evidence.isOdoo_iff.mpr ?_
    exact (mem_odooEvidence.mp (List.mem_of_mem_take (hodoo ▸ hev))).2
  have hrest : ∀ n, odooEvidence ((emailEv ++ docs).take n) = [] := by
    intro n
    refine List.filter_eq_nil_iff.mpr fun ev hev hodooEv => ?_
    have hsource := Evidence.isOdoo_iff.mp hodooEv
    rcases List.mem_append.mp (List.mem_of_mem_take hev) with hmem | hmem
    · have := (List.mem_filter.mp hmem).2
      simp [hsource] at this
    · have := (List.mem_filter.mp (mem_of_mem_rankedDocuments hmem)).2
      simp [hsource] at this
  -- twenty items are fewer than fifty: the last cut leaves them all
  have hshort : odooEv.length ≤ 50 := by
    rw [hodoo]
    exact (List.length_take_le 20 _).trans (by omega)
  rw [List.append_assoc, List.take_append, List.take_of_length_le hshort, odooEvidence,
    List.filter_append, ← odooEvidence, ← odooEvidence, hkept, hrest, List.append_nil]

/-! ### What the prompt states -/

/-- The total `_build_prompt` names: that of the Odoo items it is given. -/
def statedActual (promptEvidence : List (Evidence F)) : Option F :=
  let ctx := extractOdooContext (odooEvidence promptEvidence)
  if ctx.hasAmount then ctx.totalAmount else none

/-- The stated total is the total of the items shown. -/
theorem statedActual_eq (promptEvidence : List (Evidence F)) :
    statedActual promptEvidence = totalOf lineAmount false (odooEvidence promptEvidence) := by
  rw [← extractOdooContext_totalAmount, statedActual]
  cases hamount : (extractOdooContext (odooEvidence promptEvidence)).hasAmount with
  | true => rfl
  | false => exact (totalAmount_eq_none hamount).symm

/-! ### Agreement -/

omit [Floats F] [Text] in
/-- The `actual_cost` object of a report. -/
def actualNode? (report : Dict F) : Option (Dict F) :=
  (snapshot? report).bind (·.dict? "actual_cost")

/-- The prompt agrees with the snapshot: in whatever report the figure is corrected from the pack,
it becomes the total stated; where none is stated, none is written. -/
def PromptAgrees (promptEvidence pack : List (Evidence F)) : Prop :=
  ∀ report report' node node' : Dict F, actualNode? report = some node →
    enforceFinancialFromOdoo report (extractOdooContext (odooEvidence pack))
      (evidenceIds pack) = .ok report' →
    actualNode? report' = some node' →
    match statedActual promptEvidence with
    | some x => node'.get "value" = .float x
    | none => node'.get "value" = node.get "value" ∨ node'.get "value" = .null

omit [Floats F] [Text] in
private theorem float_inj {x y : F} (h : (.float x : Value F) = .float y) : x = y := by
  cases h
  rfl

/-- Correcting the figures of a report treats its `actual_cost` object, if it has one. -/
theorem enforceFinancialFromOdoo_actualNode {ctx : OdooContext F} {ids : List String}
    {report report' node : Dict F} (hnode : actualNode? report = some node)
    (h : enforceFinancialFromOdoo report ctx ids = .ok report') :
    ∃ node', enforceActual ctx ids node = .ok node' ∧ actualNode? report' = some node' := by
  obtain ⟨fs, hfs, hactual⟩ := Option.bind_eq_some_iff.mp hnode
  obtain ⟨fs', hpass, hfs', -⟩ := onSnapshot_cases hfs h
  obtain ⟨-, -, ⟨actual, actual', hdict, henforced, hget⟩ | ⟨hnone, -⟩⟩ :=
    enforceFinancialSnapshot_cases hpass
  · rw [hactual] at hdict
    cases hdict
    refine ⟨actual', henforced, ?_⟩
    rw [actualNode?, snapshot?, hfs', Option.bind_some, Dict.dict?, hget]
    rfl
  · rw [hactual] at hnone
    cases hnone

/-- An empty figure is corrected without an error. -/
theorem enforceActual_notAvailableNode (ctx : OdooContext F) (ids : List String) :
    ∃ node, enforceActual ctx ids notAvailableNode = .ok node := by
  by_cases hplaced : ctx.hasAmount ∧ actualEvidenceId ctx ids ∈ ids
  · refine ⟨overrideActual ctx ids notAvailableNode, ?_⟩
    change demoteActual ids (overrideActual ctx ids notAvailableNode) = _
    have hid : (overrideActual ctx ids (notAvailableNode : Dict F)).get "evidence_id" =
        .str (actualEvidenceId ctx ids) := by
      rw [overrideActual, if_pos hplaced]
      simp [Dict.get_erase]
    rw [demoteActual, hid, Value.inSet_str, decide_eq_true hplaced.2]
    split <;> rfl
  · refine ⟨notAvailableNode, ?_⟩
    change demoteActual ids (overrideActual ctx ids notAvailableNode) = _
    rw [overrideActual, if_neg hplaced]
    rfl

/-- A report with nothing but an empty snapshot. -/
def emptyReport : Dict F := [("financial_snapshot", .dict emptySnapshot)]

/-- An empty report is corrected without an error. -/
theorem enforceFinancialFromOdoo_emptyReport (ctx : OdooContext F) (ids : List String) :
    ∃ report, enforceFinancialFromOdoo emptyReport ctx ids = .ok report := by
  obtain ⟨node, hnode⟩ := enforceActual_notAvailableNode ctx ids
  have hpass : enforceFinancialSnapshot ctx ids (emptySnapshot : Dict F) =
      .ok ((emptySnapshot.modify "budget" enforceBudget).set "actual_cost" (.dict node)) := by
    change (enforceActual ctx ids notAvailableNode >>= fun node => pure (Dict.set _ _ _)) = _
    rw [hnode]
    rfl
  refine ⟨emptyReport.set "financial_snapshot"
    (.dict ((emptySnapshot.modify "budget" enforceBudget).set "actual_cost" (.dict node))), ?_⟩
  change (enforceFinancialSnapshot ctx ids emptySnapshot >>= fun fs => pure (Dict.set _ _ _)) = _
  rw [hpass]
  rfl

/-- The prompt agrees with the snapshot just if the total stated is the total of the pack. The
snapshot states the total of the pack in every report that has an object for it. -/
theorem promptAgrees_iff_total (promptEvidence pack : List (Evidence F)) :
    PromptAgrees promptEvidence pack ↔
      totalOf lineAmount false (odooEvidence promptEvidence) =
        totalOf lineAmount false (odooEvidence pack) := by
  rw [← extractOdooContext_totalAmount (odooEvidence pack), ← statedActual_eq]
  set ctx := extractOdooContext (odooEvidence pack) with hctx
  constructor
  · intro h
    -- the empty report is one that the pass completes: what it places is the pack's total
    obtain ⟨report', hreport⟩ := enforceFinancialFromOdoo_emptyReport ctx (evidenceIds pack)
    obtain ⟨node', hnode, hafter⟩ := enforceFinancialFromOdoo_actualNode rfl hreport
    have hvalue := h emptyReport report' notAvailableNode node' rfl hreport hafter
    cases hamount : ctx.hasAmount with
    | true =>
      obtain ⟨⟨x, hx⟩, hmem⟩ := hasAmount_spec hamount
      have hplaced := enforceActual_placed hamount (mem_evidenceIds_of_odoo hmem) hnode
      rw [hplaced.2.1, hx] at hvalue
      rw [hx]
      cases hstated : statedActual promptEvidence with
      | some y =>
        rw [hstated] at hvalue
        rw [float_inj hvalue]
      | none =>
        rw [hstated] at hvalue
        rcases hvalue with hvalue | hvalue <;> cases hvalue
    | false =>
      rw [totalAmount_eq_none hamount]
      cases hstated : statedActual promptEvidence with
      | none => rfl
      | some y =>
        rw [hstated] at hvalue
        -- a pack without an amount leaves the node as it is, and no stated figure fits it
        rcases enforceActual_kept hamount hnode with ⟨-, hkept, -⟩ | ⟨-, hkept, -⟩
        · rw [hkept] at hvalue
          cases hvalue
        · rw [hkept] at hvalue
          cases hvalue
  · intro h report report' node node' hbefore hreport hafter
    obtain ⟨placed, hpass, hplaced⟩ := enforceFinancialFromOdoo_actualNode hbefore hreport
    rw [hafter] at hplaced
    cases hplaced
    rw [h]
    cases hamount : ctx.hasAmount with
    | true =>
      obtain ⟨⟨x, hx⟩, hmem⟩ := hasAmount_spec hamount
      have hvalue := (enforceActual_placed hamount (mem_evidenceIds_of_odoo hmem) hpass).2.1
      rw [hx] at hvalue ⊢
      exact hvalue
    | false =>
      rw [totalAmount_eq_none hamount]
      rcases enforceActual_kept hamount hpass with ⟨-, hkept, -⟩ | ⟨-, hkept, -⟩
      · exact .inl hkept
      · exact .inr hkept

/-! ### The items left out -/

/-- What comes after the first `n` items is immaterial to the actual cost: no cost line with an
amount, or one also among the first and amounts that leave their rounded sum as it is. -/
def LaterImmaterial (n : ℕ) (odoo : List (Evidence F)) : Prop :=
  (∀ ev ∈ odoo.drop n, lineAmount ev = none) ∨
    (∃ ev ∈ odoo.take n, (lineAmount ev).isSome) ∧
      Floats.round2 (((odoo.drop n).filterMap lineAmount).foldl Floats.add
          (Num.floatSum ((odoo.take n).filterMap lineAmount))) =
        Floats.round2 (Num.floatSum ((odoo.take n).filterMap lineAmount))

/-- Cutting the list keeps the total just if what is cut off is immaterial. The sum of the rest is
added to the sum of what is kept, in floats. -/
theorem totalOf_take_iff (n : ℕ) (odoo : List (Evidence F)) :
    totalOf lineAmount false (odoo.take n) = totalOf lineAmount false odoo ↔
      LaterImmaterial n odoo := by
  have hsum : Num.floatSum (odoo.filterMap lineAmount) =
      ((odoo.drop n).filterMap lineAmount).foldl Floats.add
        (Num.floatSum ((odoo.take n).filterMap lineAmount)) := by
    rw [Num.floatSum, Num.floatSum, ← List.foldl_append, ← List.filterMap_append,
      List.take_append_drop]
  have hmem : ∀ ev, ev ∈ odoo ↔ ev ∈ odoo.take n ∨ ev ∈ odoo.drop n := by
    intro ev
    rw [← List.mem_append, List.take_append_drop]
  simp only [totalOf, Bool.false_eq_true, false_implies, and_true, LaterImmaterial, hsum]
  -- is there an amount before the cut? if not, both totals are absent or the later is not
  by_cases hhead : ∃ ev ∈ odoo.take n, (lineAmount ev).isSome
  · have hall : ∃ ev ∈ odoo, (lineAmount ev).isSome := by
      obtain ⟨ev, hev, hsome⟩ := hhead
      exact ⟨ev, (hmem ev).mpr (.inl hev), hsome⟩
    rw [if_pos hhead, if_pos hall, Option.some_inj, eq_comm]
    simp only [hhead, true_and]
    refine ⟨.inr, fun h => h.elim (fun hnone => ?_) id⟩
    rw [List.filterMap_eq_nil_iff.mpr hnone, List.foldl_nil]
  · rw [if_neg hhead]
    simp only [hhead, false_and, or_false]
    constructor
    · intro h ev hev
      by_contra hsome
      have hall : ∃ ev ∈ odoo, (lineAmount ev).isSome :=
        ⟨ev, (hmem ev).mpr (.inr hev), Option.isSome_iff_ne_none.mpr hsome⟩
      rw [if_pos hall] at h
      cases h
    · intro hnone
      rw [if_neg]
      rintro ⟨ev, hev, hsome⟩
      rcases (hmem ev).mp hev with hev | hev
      · exact hhead ⟨ev, hev, hsome⟩
      · rw [hnone ev hev] at hsome
        cases hsome

/-- The prompt agrees with the snapshot exactly when the Odoo items after the twentieth are
immaterial to the actual cost. The reranker, which is any function, has no say in this, as it is
asked about documents only. -/
theorem promptAgrees_iff (cohereKey : String)
    (cohere : String → List String → ℕ → Except String (List ℕ)) (state : DecisionState F) :
    PromptAgrees (applyRerank cohereKey cohere state state.evidence).1 state.evidence ↔
      LaterImmaterial 20 (odooEvidence state.evidence) := by
  rw [promptAgrees_iff_total, odooEvidence_applyRerank, totalOf_take_iff]

end PromptFigures

section Whole

open Py.Whole

/-- A posting of ten. -/
def posting (i : ℕ) : Evidence ℤ := analyticLine (toString i) ("Posting " ++ toString i) (-10)

private theorem lineAmount_posting (i : ℕ) : lineAmount (posting i) = some (-10) := by
  have hline : isCostLine (posting i) = true := by
    unfold isCostLine
    rw [Bool.or_eq_true]
    exact .inl (contains_append (s := lower "account.analytic.line") (by decide))
  rw [lineAmount, if_pos hline]
  rfl

private theorem totalOf_postings {is : List ℕ} (h : is ≠ []) :
    totalOf lineAmount false (is.map posting) =
      some (Floats.round2 (Num.floatSum (is.map fun _ => (-10 : ℤ)))) := by
  obtain ⟨i, hi⟩ := List.exists_mem_of_ne_nil is h
  have hsome : ∃ ev ∈ is.map posting, (lineAmount ev).isSome ∧
      (false = true → ev.evidenceId ≠ "") := by
    refine ⟨posting i, List.mem_map_of_mem hi, ?_, fun h => absurd h Bool.false_ne_true⟩
    rw [lineAmount_posting]
    rfl
  have hamounts : (is.map posting).filterMap lineAmount = is.map fun _ => (-10 : ℤ) := by
    rw [List.filterMap_map, ← List.filterMap_eq_map]
    refine List.filterMap_congr fun i _ => ?_
    rw [Function.comp_apply, Function.comp_apply, lineAmount_posting]
  rw [totalOf, if_pos hsome, hamounts]

/-- Of twenty-one postings the prompt adds up twenty. -/
theorem not_promptAgrees_manyPostings :
    ¬ ∀ (cohereKey : String) (cohere : String → List String → ℕ → Except String (List ℕ))
      (state : DecisionState ℤ),
      PromptAgrees (applyRerank cohereKey cohere state state.evidence).1 state.evidence := by
  intro h
  have hagrees := h "" (fun _ _ _ => .ok []) (statusState ((List.range 21).map posting))
  have hodoo : odooEvidence ((List.range 21).map posting) = (List.range 21).map posting := by
    refine List.filter_eq_self.mpr fun ev hev => ?_
    obtain ⟨i, -, rfl⟩ := List.mem_map.mp hev
    rfl
  rw [promptAgrees_iff_total, odooEvidence_applyRerank, statusState, hodoo, ← List.map_take,
    totalOf_postings (by decide), totalOf_postings (by decide)] at hagrees
  exact absurd hagrees (by decide)

end Whole

end DecisionCenter
