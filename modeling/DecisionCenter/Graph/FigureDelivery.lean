import DecisionCenter.Graph.SnapshotArithmetic

/-!
# The figures that reach the report

Which figures of the pack the finished snapshot shows, and whether the executive summary quotes
what it shows. The categories pass makes an object of a figure that the draft lacks, the
correction of the actual cost does not; and the summary quotes the extraction, also where the
draft has costs of its own.

`FiguresReach` has both halves: every figure that the pack backs, and that a report of this type
has a place for, is available in the snapshot with the amount of the extraction; and every
amount that a financial report's summary quotes is what the snapshot shows under that name.

The condition is on the draft and on the pack. `DraftDelivers` asks of a candidate that is taken
that it has an object for an actual cost which is to be shown, and no cost of its own that moves
a total which is quoted; `PackDelivers` asks that an actual cost which is quoted is not
negative, since the snapshot shows it with its sign and the summary without. `figuresReach_iff`
is exact for every run of node 12 outside the availability report, and
`figuresReach_draftReport_iff` for a report drawn up for any candidate.

In the middle stands the total. What is placed is the sum of the costs in the snapshot after the
figures have been placed (`costs_filled`, `total_available_iff`), and without costs of the
draft's own these add up to the extraction's total (`addUp_pack`).
-/

namespace DecisionCenter

open Py

section Delivery

variable {F : Type} [Floats F]

/-! ### Figures and quotations -/

/-- The figure is available, with the amount. -/
def FigureAvailable (fs : Dict F) (key : String) (x : F) : Prop :=
  ∃ node, availableFigure fs key = some node ∧ node.get "value" = .float x

/-- The executive summary quotes the figure. -/
def Quotes (ctx : OdooContext F) (key : String) : Prop := ∃ q ∈ quotedFigures ctx, q.key = key

/-- What the extraction has for a category of cost. -/
def packCost (ctx : OdooContext F) (key : String) : Option F :=
  match key with
  | "actual_cost" => ctx.totalAmount
  | "payroll_cost" => ctx.payrollCost.map Prod.fst
  | "expense_cost" => ctx.expenseCost.map Prod.fst
  | _ => none

/-- The costs that make up the total: those of the extraction, and for a category without one the
snapshot's own. -/
def costs (ctx : OdooContext F) (fs : Dict F) : List (Value F) :=
  incurredKeys.filterMap fun key =>
    ((packCost ctx key).map Value.float).or ((availableFigure fs key).map (·.get "value"))

/-- The costs, without sign, add up to the amount. -/
def AddUp (values : List (Value F)) (x : F) : Prop :=
  ∃ amounts total, values.mapM Value.absNum = .ok amounts ∧ Num.sum amounts = .ok total ∧
    total.round2.toValue = .float x

/-- What the executive summary quotes: the contract value and the estimate unless they are zero, and
the actual cost. -/
private theorem quotes_iff {ctx : OdooContext F} {q : QuotedFigure F} (hq : q ∈ quotedFigures ctx) :
    (q.key = "contract_value" ∧ ∃ e, ctx.contractValue = some (q.amount, e) ∧
        Floats.isZero q.amount = false) ∨
      (q.key = "estimate" ∧ ∃ e, ctx.estimate = some (q.amount, e) ∧
        Floats.isZero q.amount = false) ∨
      (q.key = "actual_cost" ∧ ctx.hasAmount = true ∧
        ∃ x, ctx.totalAmount = some x ∧ q.amount = Floats.abs x) ∨
      (q.key = "payroll_cost" ∧ ∃ e, ctx.payrollCost = some (q.amount, e)) ∨
      (q.key = "expense_cost" ∧ ∃ e, ctx.expenseCost = some (q.amount, e)) ∨
      (q.key = "total_incurred" ∧ 1 < ctx.incurredComponentCount ∧
        ctx.totalIncurred = some q.amount ∧
          ∃ e, ctx.totalIncurredEvidenceId = some e ∧ e ≠ "") := by
  -- a quoted figure has its key, its amount and an id that is not empty
  have hquote {key label : String} {p : Option (F × String)} (h : q ∈ quote key label p) :
      q.key = key ∧ ∃ e, p = some (q.amount, e) ∧ e ≠ "" := by
    rcases p with - | ⟨x, e⟩
    · cases h
    · rw [quote] at h
      split at h
      · next hid =>
        rw [List.mem_singleton] at h
        subst h
        exact ⟨rfl, e, rfl, hid⟩
      · cases h
  simp only [quotedFigures, List.mem_append] at hq
  rcases hq with ((((hq | hq) | hq) | hq) | hq) | hq
  · obtain ⟨hkey, e, hp, -⟩ := hquote hq
    obtain ⟨hp, hzero⟩ := Option.filter_eq_some_iff.mp hp
    exact .inl ⟨hkey, e, hp, by simpa using hzero⟩
  · obtain ⟨hkey, e, hp, -⟩ := hquote hq
    obtain ⟨hp, hzero⟩ := Option.filter_eq_some_iff.mp hp
    exact .inr (.inl ⟨hkey, e, hp, by simpa using hzero⟩)
  · obtain ⟨hkey, e, hp, -⟩ := hquote hq
    split at hp
    · next hamount =>
      obtain ⟨x, hx, hp⟩ := Option.bind_eq_some_iff.mp hp
      obtain ⟨e', -, hp⟩ := Option.map_eq_some_iff.mp hp
      exact .inr (.inr (.inl ⟨hkey, hamount, x, hx, (Prod.mk.inj hp).1.symm⟩))
    · cases hp
  · obtain ⟨hkey, e, hp, -⟩ := hquote hq
    exact .inr (.inr (.inr (.inl ⟨hkey, e, hp⟩)))
  · obtain ⟨hkey, e, hp, -⟩ := hquote hq
    exact .inr (.inr (.inr (.inr (.inl ⟨hkey, e, hp⟩))))
  · obtain ⟨hkey, e, hp, hid⟩ := hquote hq
    split at hp
    · next hcount =>
      obtain ⟨x, hx, hp⟩ := Option.bind_eq_some_iff.mp hp
      obtain ⟨e', he', hp⟩ := Option.map_eq_some_iff.mp hp
      obtain ⟨rfl, rfl⟩ := Prod.mk.inj hp
      exact .inr (.inr (.inr (.inr (.inr ⟨hkey, hcount, hx, e', he', hid⟩))))
    · cases hp

variable [Text]

/-- A total that is quoted is quoted with the actual cost it contains. The id it is cited with is
then that of the actual cost. -/
theorem quotes_actual {odoo : List (Evidence F)}
    (hquotes : Quotes (extractOdooContext odoo) "total_incurred")
    (hamount : (extractOdooContext odoo).hasAmount = true) :
    Quotes (extractOdooContext odoo) "actual_cost" := by
  obtain ⟨q, hq, hkey⟩ := hquotes
  obtain ⟨x, hx⟩ := (hasAmount_spec hamount).1
  have hid : ∃ e, (extractOdooContext odoo).totalIncurredEvidenceId = some e ∧ e ≠ "" := by
    rcases quotes_iff hq with ⟨h, -⟩ | ⟨h, -⟩ | ⟨h, -⟩ | ⟨h, -⟩ | ⟨h, -⟩ | ⟨-, -, -, hid⟩
    all_goals first | exact hid | (rw [hkey] at h; exact absurd h (by decide))
  obtain ⟨e, he, hne⟩ := hid
  have hscan : (scanCostLines (costLines odoo)).hasAmount = true := hamount
  have hbest : (extractOdooContext odoo).bestEvidenceId = some e := by
    simp only [extractOdooContext, hscan] at he ⊢
    exact he
  refine ⟨⟨"actual_cost", "actual cost (analytic/journal)", Floats.abs x, e⟩, ?_, rfl⟩
  simp only [quotedFigures, List.mem_append]
  refine .inl (.inl (.inl (.inr ?_)))
  rw [hamount, hx, hbest]
  simp [quote, hne]

/-! ### Delivery -/

/-- Some cost line of the pack has an amount, and an id by which it can be cited. -/
def CostCitable (evidence : List (Evidence F)) : Prop :=
  ∃ line ∈ costLines (odooEvidence evidence), (costLineAmount line : Option F).isSome = true ∧
    line.evidenceId ≠ ""

/-- The snapshot shows what the pack backs, and a financial report quotes what it shows. A contract
value or an estimate of zero backs nothing. -/
structure FiguresReach (t : ReportType) (evidence : List (Evidence F)) (fs : Dict F) : Prop where
  actual : CostCitable evidence →
    ∃ x, (extractOdooContext (odooEvidence evidence)).totalAmount = some x ∧
      FigureAvailable fs "actual_cost" x
  contractValue : ∀ x e,
    (extractOdooContext (odooEvidence evidence)).contractValue = some (x, e) →
      Floats.isZero x = false → FigureAvailable fs "contract_value" x
  estimate : ∀ x e, (extractOdooContext (odooEvidence evidence)).estimate = some (x, e) →
    Floats.isZero x = false → FigureAvailable fs "estimate" x
  payroll : ∀ x e, (extractOdooContext (odooEvidence evidence)).payrollCost = some (x, e) →
    FigureAvailable fs "payroll_cost" x
  expense : ∀ x e, (extractOdooContext (odooEvidence evidence)).expenseCost = some (x, e) →
    FigureAvailable fs "expense_cost" x
  committed : ∀ x e, sumOdooCategory (odooEvidence evidence) committedCategories
    committedAmountFields none = some (x, e) → FigureAvailable fs "committed_cost" x
  quoted : t = .financial →
    ∀ q ∈ quotedFigures (extractOdooContext (odooEvidence evidence)),
      FigureAvailable fs q.key q.amount

/-- What it takes of the draft's snapshot: an actual cost that is an object, where there is one to
be shown; and no cost of its own that moves a total that is quoted. -/
structure DraftDelivers (t : ReportType) (evidence : List (Evidence F)) (fs : Dict F) : Prop where
  actual : CostCitable evidence ∨ t = .financial ∧
      Quotes (extractOdooContext (odooEvidence evidence)) "actual_cost" →
    (fs.dict? "actual_cost").isSome = true
  total : t = .financial →
    Quotes (extractOdooContext (odooEvidence evidence)) "total_incurred" →
      ∀ x, (extractOdooContext (odooEvidence evidence)).totalIncurred = some x →
        AddUp (costs (extractOdooContext (odooEvidence evidence)) fs) x

/-- What it takes of the pack: where the actual cost is quoted, which is done without a sign, it is
not negative. -/
def PackDelivers (t : ReportType) (evidence : List (Evidence F)) : Prop :=
  t = .financial →
    Quotes (extractOdooContext (odooEvidence evidence)) "actual_cost" →
      ∀ x, (extractOdooContext (odooEvidence evidence)).totalAmount = some x →
        Floats.abs x = x

/-! ### The categories pass -/

section Pass

variable {t : ReportType} {evidence : List (Evidence F)} {fs fs' : Dict F}

private theorem hasAmount_of_citable (h : CostCitable evidence) :
    (extractOdooContext (odooEvidence evidence)).hasAmount = true := by
  obtain ⟨line, hline, hamount, -⟩ := h
  exact scanCostLines_hasAmount.mpr ⟨line, hline, hamount⟩

omit [Floats F] [Text] in
private theorem figureAvailable_congr {key : String} {x : F} (h : fs'.get? key = fs.get? key) :
    FigureAvailable fs' key x ↔ FigureAvailable fs key x := by
  rw [FigureAvailable, FigureAvailable, availableFigure_congr h]

omit [Floats F] [Text] in
private theorem figureAvailable_of_shows {key : String} {x : F} {e : String}
    (h : Shows fs key (some (x, e))) : FigureAvailable fs key x := by
  obtain ⟨node, hnode, hvalue, -⟩ := h.of_some
  exact ⟨node, hnode, hvalue⟩

/-- After the correction a figure that is an object shows the extracted total, and no other does. A
figure that is no object stays as it was. -/
theorem actual_available_iff (henforced : ActualEnforced evidence fs)
    (hamount : (extractOdooContext (odooEvidence evidence)).hasAmount = true) {x y : F}
    (hx : (extractOdooContext (odooEvidence evidence)).totalAmount = some x) :
    FigureAvailable fs "actual_cost" y ↔ (fs.dict? "actual_cost").isSome = true ∧ x = y := by
  cases hnode : fs.dict? "actual_cost" with
  | none =>
    refine iff_of_false ?_ (fun h => Bool.false_ne_true h.1)
    rintro ⟨node, hfigure, -⟩
    rw [(availableFigure_eq_some.mp hfigure).1] at hnode
    cases hnode
  | some node =>
    obtain ⟨hstatus, hvalue, -⟩ := henforced node hnode hamount
    rw [hx] at hvalue
    have hfigure : availableFigure fs "actual_cost" = some node :=
      availableFigure_eq_some.mpr ⟨hnode, hstatus, by rw [hvalue]; exact nofun⟩
    constructor
    · rintro ⟨node', hnode', hvalue'⟩
      obtain rfl : node = node' := Option.some.inj (hfigure.symm.trans hnode')
      exact ⟨rfl, Value.float.inj (hvalue.symm.trans hvalue')⟩
    · rintro ⟨-, rfl⟩
      exact ⟨node, hfigure, hvalue⟩

/-- The costs in the snapshot after the figures have been placed: those of the pack, and where it
has none those of the draft. -/
theorem costs_filled (henforced : ActualEnforced evidence fs)
    (hobject : (extractOdooContext (odooEvidence evidence)).hasAmount = true →
      (fs.dict? "actual_cost").isSome = true) :
    (incurredKeys.filterMap (availableFigure (filledSnapshot evidence fs))).map
        (·.get "value") = costs (extractOdooContext (odooEvidence evidence)) fs := by
  have hget := get?_placeFigures (extractOdooContext (odooEvidence evidence))
    (odooEvidence evidence) (evidenceIds evidence) fs
  have hplaced {key : String} {p : Option (F × String)}
      (hp : packCost (extractOdooContext (odooEvidence evidence)) key = p.map Prod.fst)
      (hkey : (filledSnapshot evidence fs).get? key =
        some (.dict (placedNode fs key p))) :
      (availableFigure (filledSnapshot evidence fs) key).map (·.get "value") =
        ((packCost (extractOdooContext (odooEvidence evidence)) key).map Value.float).or
          ((availableFigure fs key).map (·.get "value")) := by
    rw [availableFigure_placed hkey, hp]
    rcases p with - | ⟨x, e⟩
    · rfl
    · simp [placedNode, availableNode, Dict.get_set]
  rw [List.map_filterMap, costs]
  refine List.filterMap_congr fun key hkey => ?_
  simp only [incurredKeys, List.mem_cons, List.not_mem_nil, or_false] at hkey
  -- the actual cost comes from the correction, the two others from the placing
  rcases hkey with rfl | rfl | rfl
  · rw [availableFigure_congr (show (filledSnapshot evidence fs).get? "actual_cost" = _ from
      hget "actual_cost")]
    cases hamount : (extractOdooContext (odooEvidence evidence)).hasAmount with
    | false => rw [packCost, totalAmount_eq_none hamount, Option.map_none, Option.none_or]
    | true =>
      obtain ⟨x, hx⟩ := (hasAmount_spec hamount).1
      obtain ⟨node, hnode, hvalue⟩ :=
        (actual_available_iff henforced hamount hx).mpr ⟨hobject hamount, rfl⟩
      rw [hnode, packCost, hx, Option.map_some, Option.map_some, Option.some_or, hvalue]
  · have hlookup := hget "payroll_cost"
    rw [lookup_payroll] at hlookup
    exact hplaced rfl hlookup
  · have hlookup := hget "expense_cost"
    rw [lookup_expense] at hlookup
    exact hplaced rfl hlookup

omit [Text] in
/-- The total that is placed is the sum of the costs, in the order of their keys. Where there are no
costs, no total is placed. -/
theorem total_available_iff {ctx : OdooContext F} {placed totalled : Dict F} {x : F}
    (hcosts : (incurredKeys.filterMap (availableFigure placed)).map (·.get "value") = costs ctx fs)
    (hne : costs ctx fs ≠ []) (htotal : placeTotalIncurred placed = .ok totalled) :
    FigureAvailable totalled "total_incurred" x ↔ AddUp (costs ctx fs) x := by
  obtain ⟨parts, hparts, -, hcases⟩ := placeTotalIncurred_cases htotal
  have hamounts : (costs ctx fs).mapM Value.absNum = .ok (parts.map (·.amount)) := by
    rw [← hcosts, List.mapM_map]
    exact mapM_incurredParts hparts
  rcases hcases with ⟨rfl, -⟩ | ⟨first, rest, total, rfl, hsum, hget⟩
  · have hlength := length_incurredParts hparts
    rw [List.length_nil, eq_comm, List.length_eq_zero_iff] at hlength
    rw [hlength, List.map_nil] at hcosts
    exact absurd hcosts.symm hne
  · have hvalue : total.round2.toValue ≠ (.null : Value F) := by cases total <;> exact nofun
    have hfigure : availableFigure totalled "total_incurred" = some (availableNode
        ((placed.dict? "total_incurred").getD notAvailableNode) total.round2.toValue
          first.evidenceId) := by
      refine availableFigure_eq_some.mpr ⟨Dict.dict?_eq_some.mpr hget, ?_, ?_⟩
      · simp [availableNode]
      · simpa [availableNode, Dict.get_set] using hvalue
    constructor
    · rintro ⟨node, hnode, hx⟩
      rw [hfigure, Option.some.injEq] at hnode
      subst hnode
      exact ⟨_, total, hamounts, hsum, by simpa [availableNode, Dict.get_set] using hx⟩
    · rintro ⟨amounts, total', hamounts', hsum', hx⟩
      obtain rfl := Except.ok.inj (hamounts.symm.trans hamounts')
      obtain rfl := Except.ok.inj (hsum.symm.trans hsum')
      exact ⟨_, hfigure, by simpa [availableNode, Dict.get_set] using hx⟩

/-- More than one category of cost that counts makes for costs. Were there none, the extraction
would have counted nothing. -/
theorem costs_ne_nil {odoo : List (Evidence F)}
    (h : 1 < (extractOdooContext odoo).incurredComponentCount) :
    costs (extractOdooContext odoo) fs ≠ [] := by
  intro hnil
  rw [costs, List.filterMap_eq_nil_iff] at hnil
  have hnone (key : String) (hkey : key ∈ incurredKeys) :
      packCost (extractOdooContext odoo) key = none := by
    have hor := Option.or_eq_none_iff.mp (hnil key hkey)
    exact Option.map_eq_none_iff.mp hor.1
  have hactual : (extractOdooContext odoo).totalAmount = none := hnone "actual_cost" (by decide)
  have hpayroll : (extractOdooContext odoo).payrollCost = none :=
    Option.map_eq_none_iff.mp (hnone "payroll_cost" (by decide))
  have hexpense : (extractOdooContext odoo).expenseCost = none :=
    Option.map_eq_none_iff.mp (hnone "expense_cost" (by decide))
  simp only [extractOdooContext] at hactual hpayroll hexpense h
  rw [hpayroll, hexpense] at h
  split at hactual
  · cases hactual
  · next hamount =>
    rw [if_neg hamount] at h
    simp at h

/-- The figures of a finished snapshot reach the report just if the draft and the pack let them.
Figure by figure: placed by the correction, by the categories, or as their total. -/
theorem figuresReach_placed_iff (henforced : ActualEnforced evidence fs)
    (h : enforceCategoriesSnapshot (extractOdooContext (odooEvidence evidence))
      (odooEvidence evidence) (evidenceIds evidence) fs = .ok fs') :
    FiguresReach t evidence fs' ↔ DraftDelivers t evidence fs ∧ PackDelivers t evidence := by
  obtain ⟨totalled, htotal, -, hget, hgetTotal⟩ := enforceCategoriesSnapshot_cases h
  rw [backedFigures_eq] at hget
  have hbacked {key : String} {x : F} {e : String}
      (hkey : fs'.get? key = some (.dict (placedNode fs key (some (x, e))))) :
      FigureAvailable fs' key x :=
    figureAvailable_of_shows (shows_placed (Option.some_ne_none _) hkey)
  have hactual {x : F} : FigureAvailable fs' "actual_cost" x ↔ FigureAvailable fs "actual_cost" x :=
    figureAvailable_congr (hget "actual_cost" (by decide))
  have hcontract (x : F) (e : String)
      (hx : (extractOdooContext (odooEvidence evidence)).contractValue = some (x, e))
      (hzero : Floats.isZero x = false) : FigureAvailable fs' "contract_value" x := by
    refine hbacked (e := e) ?_
    rw [hget _ (by decide), hx, Option.filter_some_pos (by rw [hzero]; rfl)]
    rfl
  have hestimate (x : F) (e : String)
      (hx : (extractOdooContext (odooEvidence evidence)).estimate = some (x, e))
      (hzero : Floats.isZero x = false) : FigureAvailable fs' "estimate" x := by
    refine hbacked (e := e) ?_
    rw [hget _ (by decide), hx, Option.filter_some_pos (by rw [hzero]; rfl)]
    rfl
  have hpayroll (x : F) (e : String)
      (hx : (extractOdooContext (odooEvidence evidence)).payrollCost = some (x, e)) :
      FigureAvailable fs' "payroll_cost" x := by
    refine hbacked (e := e) ?_
    rw [hget _ (by decide), hx]
    rfl
  have hexpense (x : F) (e : String)
      (hx : (extractOdooContext (odooEvidence evidence)).expenseCost = some (x, e)) :
      FigureAvailable fs' "expense_cost" x := by
    refine hbacked (e := e) ?_
    rw [hget _ (by decide), hx]
    rfl
  have hcommitted (x : F) (e : String) (hx : sumOdooCategory (odooEvidence evidence)
      committedCategories committedAmountFields none = some (x, e)) :
      FigureAvailable fs' "committed_cost" x := by
    refine hbacked (e := e) ?_
    rw [hget _ (by decide), hx]
    rfl
  -- with an object for the actual cost, the total that is placed is that of the costs
  have htotal_iff (hobject : (extractOdooContext (odooEvidence evidence)).hasAmount = true →
      (fs.dict? "actual_cost").isSome = true) (hcount : 1 < (extractOdooContext
        (odooEvidence evidence)).incurredComponentCount) (x : F) :
      FigureAvailable fs' "total_incurred" x ↔
        AddUp (costs (extractOdooContext (odooEvidence evidence)) fs) x := by
    rw [figureAvailable_congr hgetTotal]
    exact total_available_iff (costs_filled henforced hobject) (costs_ne_nil hcount) htotal
  have hamount_of {x : F}
      (hx : (extractOdooContext (odooEvidence evidence)).totalAmount = some x) :
      (extractOdooContext (odooEvidence evidence)).hasAmount = true := by
    by_contra hnone
    rw [totalAmount_eq_none (Bool.not_eq_true _ ▸ hnone)] at hx
    cases hx
  constructor
  · intro hreach
    have hobject (hneed : CostCitable evidence ∨ t = .financial ∧
        Quotes (extractOdooContext (odooEvidence evidence)) "actual_cost") :
        (fs.dict? "actual_cost").isSome = true := by
      rcases hneed with hcitable | ⟨hfinancial, q, hq, hkey⟩
      · obtain ⟨x, hx, hshown⟩ := hreach.actual hcitable
        exact ((actual_available_iff henforced (hamount_of hx) hx).mp (hactual.mp hshown)).1
      · have hshown := hreach.quoted hfinancial q hq
        rw [hkey, hactual] at hshown
        obtain ⟨node, hnode, -⟩ := hshown
        rw [(availableFigure_eq_some.mp hnode).1]
        rfl
    refine ⟨⟨hobject, fun hfinancial hquotes x hx => ?_⟩, fun hfinancial hquotes x hx => ?_⟩
    · obtain ⟨q, hq, hkey⟩ := id hquotes
      have hshown := hreach.quoted hfinancial q hq
      rcases quotes_iff hq with ⟨h, -⟩ | ⟨h, -⟩ | ⟨h, -⟩ | ⟨h, -⟩ | ⟨h, -⟩ | ⟨-, hcount, hx', -⟩
      all_goals first | (rw [hkey] at h; exact absurd h (by decide)) | skip
      obtain rfl : x = q.amount := Option.some.inj (hx.symm.trans hx')
      rw [hkey] at hshown
      exact (htotal_iff (fun hamount => hobject (.inr ⟨hfinancial, quotes_actual hquotes hamount⟩))
        hcount _).mp hshown
    · obtain ⟨q, hq, hkey⟩ := hquotes
      have hshown := hreach.quoted hfinancial q hq
      rcases quotes_iff hq with ⟨h, -⟩ | ⟨h, -⟩ | ⟨-, hamount, y, hy, hq⟩ | ⟨h, -⟩ | ⟨h, -⟩ | ⟨h, -⟩
      all_goals first | (rw [hkey] at h; exact absurd h (by decide)) | skip
      obtain rfl : x = y := Option.some.inj (hx.symm.trans hy)
      rw [hkey, hactual, actual_available_iff henforced hamount hx, hq] at hshown
      exact hshown.2.symm
  · rintro ⟨hdraft, hpack⟩
    refine ⟨fun hcitable => ?_, hcontract, hestimate, hpayroll, hexpense, hcommitted,
      fun hfinancial q hq => ?_⟩
    · have hamount := hasAmount_of_citable hcitable
      obtain ⟨x, hx⟩ := (hasAmount_spec hamount).1
      exact ⟨x, hx, hactual.mpr ((actual_available_iff henforced hamount hx).mpr
        ⟨hdraft.actual (.inl hcitable), rfl⟩)⟩
    · rcases quotes_iff hq with ⟨hkey, e, hx, hzero⟩ | ⟨hkey, e, hx, hzero⟩ |
        ⟨hkey, hamount, x, hx, habs⟩ | ⟨hkey, e, hx⟩ | ⟨hkey, e, hx⟩ | ⟨hkey, hcount, hx, -⟩
      · rw [hkey]
        exact hcontract _ e hx hzero
      · rw [hkey]
        exact hestimate _ e hx hzero
      · have hquotes : Quotes (extractOdooContext (odooEvidence evidence)) "actual_cost" :=
          ⟨q, hq, hkey⟩
        rw [hkey, hactual, actual_available_iff henforced hamount hx, habs]
        exact ⟨hdraft.actual (.inr ⟨hfinancial, hquotes⟩), (hpack hfinancial hquotes x hx).symm⟩
      · rw [hkey]
        exact hpayroll _ e hx
      · rw [hkey]
        exact hexpense _ e hx
      · have hquotes : Quotes (extractOdooContext (odooEvidence evidence)) "total_incurred" :=
          ⟨q, hq, hkey⟩
        rw [hkey]
        exact (htotal_iff (fun hamount => hdraft.actual
          (.inr ⟨hfinancial, quotes_actual hquotes hamount⟩)) hcount _).mpr
            (hdraft.total hfinancial hquotes _ hx)

/-! ### The evidence-built report -/

omit [Text] in
private theorem mapM_absNum_float (xs : List F) : (xs.map Value.float).mapM Value.absNum =
    .ok ((xs.map Floats.abs).map Num.float) := by
  rw [mapM_eq_ok, List.forall₂_map_left_iff, List.forall₂_map_right_iff,
    List.forall₂_map_right_iff, List.forall₂_same]
  exact fun x _ => Value.absNum_float x

/-- Without costs of its own the snapshot's costs add up to the extraction's total. Both add in the
order of the keys. -/
theorem addUp_pack {x : F} (hown : ∀ key ∈ incurredKeys,
      packCost (extractOdooContext (odooEvidence evidence)) key = none →
        availableFigure fs key = none)
    (hx : (extractOdooContext (odooEvidence evidence)).totalIncurred = some x) :
    AddUp (costs (extractOdooContext (odooEvidence evidence)) fs) x := by
  set ctx := extractOdooContext (odooEvidence evidence) with hctx
  have hcosts : costs ctx fs =
      ((packFigures ctx true).incurred.map fun p => p.2.1).map Value.float := by
    -- under the hypothesis every cost is one of the pack
    have hkeys : costs ctx fs =
        incurredKeys.filterMap fun key => (packCost ctx key).map Value.float := by
      refine List.filterMap_congr fun key hkey => ?_
      cases hpack : packCost ctx key with
      | some y => rfl
      | none => rw [hown key hkey hpack]; rfl
    rw [hkeys]
    simp only [incurredKeys, List.filterMap_cons, List.filterMap_nil, packCost,
      BaseFigures.incurred, packFigures]
    cases ctx.totalAmount <;> cases ctx.payrollCost <;> cases ctx.expenseCost <;> rfl
  rw [← packFigures_total] at hx
  obtain ⟨⟨y, e⟩, htotal, rfl⟩ := Option.map_eq_some_iff.mp hx
  obtain ⟨first, hfirst, htotal⟩ := Option.map_eq_some_iff.mp htotal
  have hne : (packFigures ctx true).incurred ≠ [] := by
    intro hnil
    rw [← hctx, hnil] at hfirst
    cases hfirst
  have hsum : Num.sum ((((packFigures ctx true).incurred.map fun p => p.2.1).map Floats.abs).map
      Num.float) = .ok (.float (Num.floatSum
        (((packFigures ctx true).incurred.map fun p => p.2.1).map Floats.abs))) :=
    Num.sum_map_float (by simpa using hne)
  refine ⟨_, _, by rw [hcosts]; exact mapM_absNum_float _, hsum, ?_⟩
  rw [← (Prod.mk.inj htotal).1, List.map_map]
  rfl

/-- An evidence-built report delivers. Its actual cost is an object, and it has no costs of its own.
-/
theorem draftDelivers_builder {state : DecisionState F} {fs₁ : Dict F}
    (h : enforceCategoriesSnapshot (extractOdooContext (odooEvidence state.evidence))
        (odooEvidence state.evidence) (evidenceIds (builderEvidence state))
        (builderSnapshot state.role (extractOdooContext (odooEvidence state.evidence))) = .ok fs)
    (h' : enforceFinancialSnapshot (extractOdooContext (odooEvidence state.evidence))
      (evidenceIds state.evidence) fs = .ok fs₁) : DraftDelivers t state.evidence fs₁ := by
  obtain ⟨-, -, -, hget, -⟩ := enforceCategoriesSnapshot_cases h
  rw [backedFigures_builderEvidence, backedFigures_eq] at hget
  obtain ⟨hframe, -, hcases⟩ := enforceFinancialSnapshot_cases h'
  have hnode : fs.dict? "actual_cost" = some (builderActual state.role
      (extractOdooContext (odooEvidence state.evidence))) := by
    rw [Dict.dict?, hget _ (by decide)]
    rfl
  obtain ⟨actual, actual', hactual, hpass, hget₁⟩ | ⟨hnone, -⟩ := hcases
  · refine ⟨fun _ => by rw [Dict.dict?_eq_some.mpr hget₁]; rfl, fun _ _ x hx =>
      addUp_pack (fun key hkey hpack => ?_) hx⟩
    have hempty {key : String} (hkey : fs₁.get? key = some (.dict notAvailableNode)) :
        availableFigure fs₁ key = none := by
      rw [availableFigure, Dict.dict?_eq_some.mpr hkey]
      rfl
    simp only [incurredKeys, List.mem_cons, List.not_mem_nil, or_false] at hkey
    -- a figure that the pack lacks is not available: actual cost, payroll, expenses
    rcases hkey with rfl | rfl | rfl
    · have hamount : (extractOdooContext (odooEvidence state.evidence)).hasAmount = false := by
        rw [Bool.eq_false_iff]
        intro hamount
        obtain ⟨y, hy⟩ := (hasAmount_spec hamount).1
        exact Option.some_ne_none y (hy.symm.trans hpack)
      rw [hnode] at hactual
      cases hactual
      have hnull : actual'.get "value" = .null := by
        rcases builderActual_cases state.role
          (extractOdooContext (odooEvidence state.evidence)) with hempty | ⟨hsome, -⟩
        · rw [hempty] at hpass
          rcases enforceActual_kept hamount hpass with ⟨-, hvalue, -⟩ | ⟨-, hnull, -⟩
          · exact hvalue.trans rfl
          · exact hnull
        · rw [hamount] at hsome
          cases hsome
      rw [← Option.not_isSome_iff_eq_none, Option.isSome_iff_exists]
      rintro ⟨node, hfigure⟩
      obtain ⟨hdict, -, hvalue⟩ := availableFigure_eq_some.mp hfigure
      obtain rfl : actual' = node :=
        Option.some.inj ((Dict.dict?_eq_some.mpr hget₁).symm.trans hdict)
      exact hvalue hnull
    · have hpayroll : (extractOdooContext (odooEvidence state.evidence)).payrollCost = none :=
        Option.map_eq_none_iff.mp hpack
      refine hempty ?_
      rw [hframe _ (by decide), hget _ (by decide), hpayroll]
      rfl
    · have hexpense : (extractOdooContext (odooEvidence state.evidence)).expenseCost = none :=
        Option.map_eq_none_iff.mp hpack
      refine hempty ?_
      rw [hframe _ (by decide), hget _ (by decide), hexpense]
      rfl
  · rw [hnode] at hnone
    cases hnone

end Pass

/-! ### The run -/

/-- A snapshot that shows as much as one whose figures reach the report, the note apart, is another
such. -/
theorem FiguresReach.mono {t : ReportType} {evidence : List (Evidence F)} {fs fs' : Dict F}
    (h : FiguresReach t evidence fs)
    (hmono : ∀ key x, key ≠ "note" → FigureAvailable fs key x → FigureAvailable fs' key x) :
    FiguresReach t evidence fs' where
  actual hcitable := (h.actual hcitable).imp fun x hx => ⟨hx.1, hmono _ x (by decide) hx.2⟩
  contractValue x e hx hzero := hmono _ x (by decide) (h.contractValue x e hx hzero)
  estimate x e hx hzero := hmono _ x (by decide) (h.estimate x e hx hzero)
  payroll x e hx := hmono _ x (by decide) (h.payroll x e hx)
  expense x e hx := hmono _ x (by decide) (h.expense x e hx)
  committed x e hx := hmono _ x (by decide) (h.committed x e hx)
  quoted hfinancial q hq := by
    refine hmono _ _ ?_ (h.quoted hfinancial q hq)
    intro hkey
    rcases quotes_iff hq with ⟨h, -⟩ | ⟨h, -⟩ | ⟨h, -⟩ | ⟨h, -⟩ | ⟨h, -⟩ | ⟨h, -⟩ <;>
      exact absurd (hkey.symm.trans h) (by decide)

/-- The snapshot of a report drawn up for a candidate shows what it has to, just if the pack lets it
and the candidate, where it is taken, does. -/
theorem figuresReach_draftReport_iff (t : ReportType) {state : DecisionState F}
    {pid : ProjectIdentity}
    {candidate : Option (Dict F)} {report fs : Dict F}
    (h : draftReport state pid candidate = .ok report)
    (hfs : report.dict? "financial_snapshot" = some fs) :
    FiguresReach t state.evidence fs ↔ (∀ draft corrected, candidate = some draft →
      CorrectedSnapshot state.evidence draft corrected → DraftDelivers t state.evidence corrected) ∧
        PackDelivers t state.evidence := by
  obtain ⟨base, fs₀, fs₁, fs₂, fs₃, hbase, hfs₀, hpass₁, hpass₂, hfs₃, hnote⟩ :=
    draftReport_snapshot h
  obtain rfl : fs₃ = fs := Option.some.inj (hfs₃.symm.trans hfs)
  have hsame : FiguresReach t state.evidence fs₃ ↔ FiguresReach t state.evidence fs₂ := by
    have hkept {key : String} {x : F} (hkey : key ≠ "note") :
        FigureAvailable fs₃ key x ↔ FigureAvailable fs₂ key x :=
      figureAvailable_congr (hnote key (by simpa using hkey))
    exact ⟨fun hreach => hreach.mono fun _ _ hkey => (hkept hkey).mp,
      fun hreach => hreach.mono fun _ _ hkey => (hkept hkey).mpr⟩
  rw [hsame, figuresReach_placed_iff (actualEnforced_of_enforce hpass₁) hpass₂]
  refine and_congr_left' (corrected_iff hbase hfs₀ hpass₁ fun hbuilt => ?_)
  obtain ⟨fs', hplaced, hfs'⟩ := buildReportFromEvidence_snapshot hbuilt
  rw [hfs'] at hfs₀
  cases hfs₀
  exact draftDelivers_builder hplaced hpass₁

/-- After node 12, outside the availability report, what the pack backs is shown and what is quoted
is what is shown, exactly when the draft of the LLM, where one is taken, has an object for an actual
cost that is to be shown and no cost of its own that moves a total that is quoted, and an actual
cost that is quoted is not negative. -/
theorem figuresReach_iff {mapping : ProjectMapping} {replies : DraftReplies F}
    {state drafted : DecisionState F} (hsalary : salaryPath state = false)
    (h : draftRun mapping replies state = .ok drafted) :
    (∃ report fs, drafted.reportJson = some report ∧
        report.dict? "financial_snapshot" = some fs ∧
          FiguresReach (reportTypeOf state) state.evidence fs) ↔
      (∀ draft corrected, replies.candidate = some draft →
        CorrectedSnapshot state.evidence draft corrected →
          DraftDelivers (reportTypeOf state) state.evidence corrected) ∧
        PackDelivers (reportTypeOf state) state.evidence := by
  obtain ⟨report, hreport, hjson⟩ := report_draftRun hsalary h
  obtain ⟨-, -, -, -, fs, -, -, -, -, hfs, -⟩ := draftReport_snapshot hreport
  have hiff : FiguresReach (reportTypeOf state) state.evidence fs ↔ _ :=
    figuresReach_draftReport_iff (reportTypeOf state) hreport hfs
  constructor
  · rintro ⟨report', fs', hreport', hfs', hreach⟩
    obtain rfl : report = report' := Option.some.inj (hjson.symm.trans hreport')
    obtain rfl : fs = fs' := Option.some.inj (hfs.symm.trans hfs')
    exact hiff.mp hreach
  · intro hdelivers
    exact ⟨report, fs, hjson, hfs, hiff.mpr hdelivers⟩

end Delivery

section Whole

open Py.Whole

private theorem costCitable_onePosting : CostCitable onePosting := by
  have hlines : costLines (odooEvidence onePosting) = onePosting := rfl
  rw [CostCitable, hlines]
  exact ⟨_, List.mem_cons_self, by decide, by decide⟩

/-- A draft whose snapshot has an actual cost shows the extracted total there. -/
theorem figuresReach_actualCostDraft : ∃ drafted, figureRun "actual_cost" 999 = .ok drafted ∧
    ∃ report fs, drafted.reportJson = some report ∧
      report.dict? "financial_snapshot" = some fs ∧
        FiguresReach (reportTypeOf (statusState onePosting)) onePosting fs := by
  obtain ⟨drafted, hrun⟩ : Completes (figureRun "actual_cost" 999) :=
    completes_of_isSome (by decide)
  have htype : reportTypeOf (statusState onePosting) ≠ .financial := by decide
  refine ⟨drafted, hrun, (figuresReach_iff (by decide) hrun).mpr
    ⟨?_, fun hfinancial => absurd hfinancial htype⟩⟩
  rintro draft corrected hdraft ⟨canonical, accepted, ⟨-, normal, hnormal, hfs⟩, hpass, hpass'⟩
  have hcanonical : (normalizeFinancialSnapshot (figureDraft "actual_cost" 999)).toOption.bind
      (·.dict? "financial_snapshot") = some (figureSnapshot "actual_cost" 999) := rfl
  have hdraft' : figureDraft "actual_cost" 999 = draft := Option.some.inj hdraft
  rw [hdraft', hnormal] at hcanonical
  obtain rfl : canonical = figureSnapshot "actual_cost" 999 :=
    Option.some.inj (hfs.symm.trans hcanonical)
  refine ⟨fun _ => ?_, fun hfinancial => absurd hfinancial htype⟩
  rw [(enforce_kept hpass').2, (enforce_kept hpass).2]
  rfl

/-- A draft whose snapshot has a contract value only is left without an actual cost. -/
theorem not_figuresReach_contractValueDraft :
    ¬ ∀ (mapping : ProjectMapping) (replies : DraftReplies ℤ) (state drafted : DecisionState ℤ),
      salaryPath state = false → draftRun mapping replies state = .ok drafted →
        ∃ report fs, drafted.reportJson = some report ∧
          report.dict? "financial_snapshot" = some fs ∧
            FiguresReach (reportTypeOf state) state.evidence fs := by
  intro h
  obtain ⟨drafted, hrun⟩ : Completes (figureRun "contract_value" 5000000) :=
    completes_of_isSome (by decide)
  obtain ⟨report, fs, hreport, hfs, hreach⟩ := h _ _ _ _ (by decide) hrun
  obtain ⟨x, -, node, hnode, -⟩ := hreach.actual costCitable_onePosting
  have hshown : ((figureRun "contract_value" 5000000).toOption.bind (·.reportJson)).map (fun r =>
      (((r.dict? "financial_snapshot").getD []).dict? "actual_cost").isSome) = some false := rfl
  rw [hrun] at hshown
  have hnone : (fs.dict? "actual_cost").isSome = false := by
    simpa [Except.toOption, hreport, hfs] using hshown
  rw [(availableFigure_eq_some.mp hnode).1] at hnone
  cases hnone

end Whole

end DecisionCenter
