import DecisionCenter.Graph.DraftFrame
import DecisionCenter.Graph.SnapshotSpec
import DecisionCenter.Graph.Totals

/-!
# Sound snapshots

A figure of the financial snapshot is sound when its number is the one the extraction computes
from the Odoo items of the pack, cited from them. The categories pass makes a snapshot sound
exactly when the figures it leaves alone are.

`expectedFigure` is what the pack says of each key, the computed total and variance included,
and `FigureSound` compares an entry of the snapshot with it: no number where none is expected,
and otherwise an equal one whose ids are ids of Odoo items. Numbers are compared as Python
compares them, so that an `int` of the draft may equal a float.

A figure is either backed, and then the passes write it from the extraction
(`backedFigures_spec`), or it is left as it was. So soundness of the finished snapshot is a
condition on the second kind, `UnbackedSound`: each figure that is kept is sound, and the total
and the variance come out right, which are computed from backed and kept figures together.

The last is the long part. `Shows` says that an entry has a given value as far as the sums can
tell, and each figure is brought to this form, backed or not; the total and the variance are
then functions of what is shown (`derived_of_shows`). `snapshotSound_iff` follows figure by
figure, and the draft as a whole is the subject of `Graph.NonFabrication`.
-/

namespace DecisionCenter

open Py

section Soundness

variable {F : Type} [Floats F]

/-! ### Sound figures -/

/-- The figures of a snapshot. -/
def figureKeys : List String :=
  ["budget", "contract_value", "estimate", "actual_cost", "payroll_cost", "expense_cost",
    "committed_cost", "total_incurred", "variance"]

/-- The number equals the float. -/
def EqualsFloat (n : Num F) (x : F) : Prop :=
  match n with
  | .float y => y = x
  | .int i => Floats.eqInt x i = true

omit [Floats F] in
/-- The evidence ids attached to a figure: `evidence_ids` of the variance, `evidence_id` of any
other. -/
def attachedIds (key : String) (node : Dict F) : List (Value F) :=
  if key = "variance" then
    match node.get "evidence_ids" with
    | .list xs => xs
    | .null => []
    | v => [v]
  else if (node.get "evidence_id").isNull then [] else [node.get "evidence_id"]

/-- A figure is sound: if its value is a number, it is the expected one, and all ids attached to it
are among the given ones. A figure that is not an object is its own value. -/
def FigureSound (odooIds : List String) (expected : Option F) (key : String)
    (figure : Value F) : Prop :=
  match figure with
  | .dict node => ∀ n, (Dict.get node "value").toNum = .ok n →
      (∃ x, expected = some x ∧ EqualsFloat n x) ∧
        ∀ e ∈ attachedIds key node, ∃ s ∈ odooIds, e = .str s
  | v => ∀ n, v.toNum = .ok n → ∃ x, expected = some x ∧ EqualsFloat n x

variable [Text]

/-- The figures the extraction backs; `withActual` says whether the actual cost is among them. -/
def packFigures (ctx : OdooContext F) (withActual : Bool) : BaseFigures F :=
  { estimate := ctx.estimate.filter fun p => !Floats.isZero p.1
    actual := if withActual then ctx.totalAmount.map fun x => (x, ctx.bestEvidenceId.getD "")
      else none
    payroll := ctx.payrollCost
    expense := ctx.expenseCost }

/-- The value of a figure as the extraction computes it from the Odoo items of the pack; the budget
has none. -/
def expectedFigure (evidence : List (Evidence F)) (key : String) : Option F :=
  let odoo := odooEvidence evidence
  let ctx := extractOdooContext odoo
  match key with
  | "contract_value" => ctx.contractValue.map Prod.fst
  | "estimate" => ctx.estimate.map Prod.fst
  | "actual_cost" => ctx.totalAmount
  | "payroll_cost" => ctx.payrollCost.map Prod.fst
  | "expense_cost" => ctx.expenseCost.map Prod.fst
  | "committed_cost" => (committedCost odoo (evidenceIds evidence)).map Prod.fst
  | "total_incurred" => ctx.totalIncurred
  | "variance" => (packFigures ctx true).variance.map Prod.fst
  | _ => none

/-- All figures of a snapshot are sound. -/
def SnapshotSound (evidence : List (Evidence F)) (fs : Dict F) : Prop :=
  ∀ key ∈ figureKeys, FigureSound (evidenceIds (odooEvidence evidence))
    (expectedFigure evidence key) key (fs.get key)

/-- No number of the report's snapshot is made up. -/
def NonFabricated (evidence : List (Evidence F)) (report : Dict F) : Prop :=
  ∃ fs, report.dict? "financial_snapshot" = some fs ∧ SnapshotSound evidence fs

omit [Floats F] [Text] in
/-- A figure's own node, when the passes keep it: anything but an object is replaced. -/
def keptFigure (fs : Dict F) (key : String) : Value F :=
  match fs.dict? key with
  | some node => .dict node
  | none => .null

/-- The total comes out right: the parts that are there add up to the extraction's total, and
without parts the figure the draft has is sound. -/
def TotalSound (evidence : List (Evidence F)) (fs : Dict F) : Prop :=
  match (packFigures (extractOdooContext (odooEvidence evidence))
      (fs.dict? "actual_cost").isSome).total with
  | some (x, _) => expectedFigure evidence "total_incurred" = some x
  | none => FigureSound (evidenceIds (odooEvidence evidence))
      (expectedFigure evidence "total_incurred") "total_incurred" (keptFigure fs "total_incurred")

/-- The variance comes out right: computed over the figures that are there it is the extraction's,
and where it is not computed the figure the draft has is sound. -/
def VarianceSound (evidence : List (Evidence F)) (fs : Dict F) : Prop :=
  match (packFigures (extractOdooContext (odooEvidence evidence))
      (fs.dict? "actual_cost").isSome).variance with
  | some (x, _) => expectedFigure evidence "variance" = some x
  | none => FigureSound (evidenceIds (odooEvidence evidence))
      (expectedFigure evidence "variance") "variance" (keptFigure fs "variance")

/-- The figures the categories pass leaves as they are, are sound: the ones the extraction does not
back, a total without parts and a variance that cannot be computed. If the actual cost is no object,
the total and the variance have to come out right without it. -/
structure UnbackedSound (evidence : List (Evidence F)) (fs : Dict F) : Prop where
  unbacked : ∀ key, (key, none) ∈ backedFigures (extractOdooContext (odooEvidence evidence))
      (odooEvidence evidence) (evidenceIds evidence) →
    FigureSound (evidenceIds (odooEvidence evidence)) (expectedFigure evidence key) key
      (keptFigure fs key)
  total : TotalSound evidence fs
  variance : VarianceSound evidence fs

/-- All figures the passes leave as the draft has them are sound, the budget and the actual cost
among them. -/
structure LeftoversSound (evidence : List (Evidence F)) (fs : Dict F) : Prop
    extends UnbackedSound evidence fs where
  budget : FigureSound (evidenceIds (odooEvidence evidence)) (expectedFigure evidence "budget")
    "budget" (fs.get "budget")
  actual : FigureSound (evidenceIds (odooEvidence evidence))
    (expectedFigure evidence "actual_cost") "actual_cost" (fs.get "actual_cost")

/-! ### What the extraction backs -/

section Backed

variable {evidence : List (Evidence F)}

omit [Floats F] [Text] in
private theorem backed_of_mem {ids : List String} {p : Option (F × String)}
    (h : ∀ x e, p = some (x, e) → e ∈ ids) : backed ids p = p := by
  rcases p with - | ⟨x, e⟩
  · rfl
  · exact Option.filter_some_pos (decide_eq_true (h x e rfl))

omit [Text] in
/-- The ids of the extraction are ids of the pack, so that only a zero stands in the way of a
figure. -/
theorem backedNonzero_of_mem {ids : List String} {p : Option (F × String)}
    (h : ∀ x e, p = some (x, e) → e ∈ ids) :
    backedNonzero ids p = p.filter fun q => !Floats.isZero q.1 := by
  rcases p with - | ⟨x, e⟩
  · rfl
  · have hmem := h x e rfl
    simp [backedNonzero, Option.filter_some, hmem]

/-- The payroll figure is cited from the pack wherever there is one. -/
theorem backed_payrollCost :
    backed (evidenceIds evidence) (extractOdooContext (odooEvidence evidence)).payrollCost =
      (extractOdooContext (odooEvidence evidence)).payrollCost :=
  backed_of_mem fun _ _ h => mem_evidenceIds_of_odoo (payrollCost_mem h).1

/-- The figure for expenses is cited from the pack wherever there is one. -/
theorem backed_expenseCost :
    backed (evidenceIds evidence) (extractOdooContext (odooEvidence evidence)).expenseCost =
      (extractOdooContext (odooEvidence evidence)).expenseCost :=
  backed_of_mem fun _ _ h => mem_evidenceIds_of_odoo (expenseCost_mem h).1

/-- An estimate of zero backs nothing. -/
theorem backedNonzero_estimate :
    backedNonzero (evidenceIds evidence) (extractOdooContext (odooEvidence evidence)).estimate =
      (extractOdooContext (odooEvidence evidence)).estimate.filter fun p => !Floats.isZero p.1 :=
  backedNonzero_of_mem fun _ _ h => mem_evidenceIds_of_odoo (estimate_mem h)

/-- What backs a figure is the expected value, cited from an Odoo item. -/
theorem backedFigures_spec {key : String} {x : F} {e : String}
    (h : (key, some (x, e)) ∈ backedFigures (extractOdooContext (odooEvidence evidence))
      (odooEvidence evidence) (evidenceIds evidence)) :
    expectedFigure evidence key = some x ∧ e ∈ evidenceIds (odooEvidence evidence) := by
  simp only [backedFigures, List.mem_cons, Prod.mk.injEq, List.not_mem_nil, or_false] at h
  rcases h with ⟨rfl, h⟩ | ⟨rfl, h⟩ | ⟨rfl, h⟩ | ⟨rfl, h⟩ | ⟨rfl, h⟩
  · have h' := (Option.filter_eq_some_iff.mp h.symm).1
    exact ⟨by simp [expectedFigure, h'], contractValue_mem h'⟩
  · have h' := (Option.filter_eq_some_iff.mp h.symm).1
    exact ⟨by simp [expectedFigure, h'], estimate_mem h'⟩
  · have h' := h.symm
    exact ⟨by simp [expectedFigure, h'], (sumOdooCategory_mem h').1⟩
  · have h' := (Option.filter_eq_some_iff.mp h.symm).1
    exact ⟨by simp [expectedFigure, h'], (payrollCost_mem h').1⟩
  · have h' := (Option.filter_eq_some_iff.mp h.symm).1
    exact ⟨by simp [expectedFigure, h'], (expenseCost_mem h').1⟩

/-- The total over all incurred categories is the extraction's. -/
theorem packFigures_total :
    (packFigures (extractOdooContext (odooEvidence evidence)) true).total.map Prod.fst =
      (extractOdooContext (odooEvidence evidence)).totalIncurred := by
  have hpayroll (p : F × String)
      (h : (extractOdooContext (odooEvidence evidence)).payrollCost = some p) :
      Floats.abs p.1 = p.1 := (payrollCost_mem h).2.2
  have hexpense (p : F × String)
      (h : (extractOdooContext (odooEvidence evidence)).expenseCost = some p) :
      Floats.abs p.1 = p.1 := (expenseCost_mem h).2.2
  simp only [extractOdooContext] at hpayroll hexpense ⊢
  simp only [packFigures, BaseFigures.total, BaseFigures.incurred]
  cases hp : absAmount (sumOdooCategory (odooEvidence evidence) payrollCategories
      payrollAmountFields none) <;>
    cases he : absAmount (sumOdooCategory (odooEvidence evidence) expenseCategories
      expenseAmountFields none) <;>
    cases ha : (scanCostLines (costLines (odooEvidence evidence))).hasAmount <;>
    simp_all

/-- If the actual cost is an object, the total is right unless an unsound one stands in for a total
without parts. -/
theorem totalSound_of_object {fs : Dict F} (hobject : (fs.dict? "actual_cost").isSome = true)
    (hempty : (packFigures (extractOdooContext (odooEvidence evidence)) true).total = none →
      FigureSound (evidenceIds (odooEvidence evidence)) (expectedFigure evidence "total_incurred")
        "total_incurred" (keptFigure fs "total_incurred")) : TotalSound evidence fs := by
  rw [TotalSound, hobject]
  split
  · next x e hsome => exact packFigures_total.symm.trans (congrArg (Option.map Prod.fst) hsome)
  · next hnone => exact hempty hnone

/-- So is the variance. -/
theorem varianceSound_of_object {fs : Dict F} (hobject : (fs.dict? "actual_cost").isSome = true)
    (hempty : (packFigures (extractOdooContext (odooEvidence evidence)) true).variance = none →
      FigureSound (evidenceIds (odooEvidence evidence)) (expectedFigure evidence "variance")
        "variance" (keptFigure fs "variance")) : VarianceSound evidence fs := by
  rw [VarianceSound, hobject]
  split
  · next x ids hsome => exact congrArg (Option.map Prod.fst) hsome
  · next hnone => exact hempty hnone

end Backed

/-! ### Soundness of the passes -/

section Passes

variable {evidence : List (Evidence F)} {fs : Dict F}

omit [Text] in
/-- A figure without a number is sound. -/
theorem FigureSound.of_null {odooIds : List String} {expected : Option F} {key : String}
    {node : Dict F} (h : node.get "value" = .null) :
    FigureSound odooIds expected key (.dict node) := by
  intro n hn
  rw [h] at hn
  cases hn

omit [Text] in
/-- A kept figure is sound just if the node the passes leave for it is. -/
theorem figureSound_kept {odooIds : List String} {expected : Option F} {key : String}
    {empty : Dict F} (hempty : empty.get "value" = .null) :
    FigureSound odooIds expected key (.dict ((fs.dict? key).getD empty)) ↔
      FigureSound odooIds expected key (keptFigure fs key) := by
  unfold keptFigure
  cases fs.dict? key with
  | some node => rfl
  | none =>
    refine iff_of_true (FigureSound.of_null hempty) ?_
    intro n hn
    cases hn

omit [Text] in
/-- A figure with a number is expected to have one. -/
theorem FigureSound.expected_ne_none {odooIds : List String} {expected : Option F} {key : String}
    {node : Dict F} (h : FigureSound odooIds expected key (.dict node)) {n : Num F}
    (hn : (node.get "value").toNum = .ok n) : expected ≠ none := by
  obtain ⟨⟨x, hx, -⟩, -⟩ := h n hn
  rw [hx]
  exact Option.some_ne_none x

omit [Text] in
/-- A number equal to a zero is not truthy, whether it is an integer, a flag or a float. -/
theorem truthy_of_equals_zero {v : Value F} {n : Num F} {x : F} (hn : v.toNum = .ok n)
    (heq : EqualsFloat n x) (hzero : Floats.isZero x = true) : v.truthy = false := by
  cases v with
  | int i =>
    cases hn
    have hi : i = 0 := Floats.eqInt_zero x i hzero heq
    rw [Value.truthy, hi]
    rfl
  | bool b =>
    cases hn
    have hi := Floats.eqInt_zero x _ hzero heq
    cases b with
    | true => exact absurd hi (by decide)
    | false => rfl
  | float y =>
    cases hn
    have hy : y = x := heq
    rw [Value.truthy_float, hy, hzero]
    rfl
  | _ => cases hn

omit [Text] in
/-- A sound figure that nothing is expected of shows nothing, once its value is known to be a
number if there is one. -/
theorem shows_none (odooIds : List String) {key : String}
    (hsound : ∀ node, availableFigure fs key = some node →
      FigureSound odooIds none key (.dict node))
    (hnumeric : ∀ node, availableFigure fs key = some node →
      ∃ n, (node.get "value").toNum = .ok n) : Shows fs key none := by
  rw [Shows, Option.map_none, Option.map_eq_none_iff]
  by_contra hsome
  obtain ⟨node, hnode⟩ := Option.ne_none_iff_exists'.mp hsome
  obtain ⟨n, hn⟩ := hnumeric node hnode
  exact (hsound node hnode).expected_ne_none hn rfl

/-- The snapshot after filling the five figures. -/
def filledSnapshot (evidence : List (Evidence F)) (fs : Dict F) : Dict F :=
  placeFigures (extractOdooContext (odooEvidence evidence)) (odooEvidence evidence)
    (evidenceIds evidence) fs

/-- A backed figure is shown. -/
theorem shows_backed {key : String} {x : F} {e : String}
    (h : (backedFigures (extractOdooContext (odooEvidence evidence)) (odooEvidence evidence)
      (evidenceIds evidence)).lookup key = some (some (x, e))) :
    Shows (filledSnapshot evidence fs) key (some (x, e)) := by
  have hget := get?_placeFigures (extractOdooContext (odooEvidence evidence))
    (odooEvidence evidence) (evidenceIds evidence) fs key
  rw [h] at hget
  have hnode : availableFigure (filledSnapshot evidence fs) key =
      some (placedNode fs key (some (x, e))) := by
    rw [availableFigure_eq_some, Dict.dict?_eq_some]
    refine ⟨hget, ?_, ?_⟩ <;> simp [placedNode, availableNode, Dict.get_set]
  rw [Shows, hnode]
  simp [placedNode, availableNode, Dict.get_set]

/-- A figure of the category sums is shown as the extraction has it. Where it has none, what the
draft shows would have to be sound. -/
theorem shows_category {key : String} {p : Option (F × String)} (hkey : key ∈ incurredKeys)
    (hlookup : (backedFigures (extractOdooContext (odooEvidence evidence)) (odooEvidence evidence)
      (evidenceIds evidence)).lookup key = some p)
    (hexpected : expectedFigure evidence key = p.map Prod.fst)
    (hsound : p = none → FigureSound (evidenceIds (odooEvidence evidence))
      (expectedFigure evidence key) key (keptFigure fs key))
    {parts : List (IncurredPart F)}
    (hparts : incurredParts (filledSnapshot evidence fs) = .ok parts) :
    Shows (filledSnapshot evidence fs) key p := by
  rcases p with - | ⟨x, e⟩
  · refine shows_none (evidenceIds (odooEvidence evidence)) (fun node hnode => ?_)
      (fun node hnode => incurredParts_numeric hparts hkey hnode)
    have hget := get?_placeFigures (extractOdooContext (odooEvidence evidence))
      (odooEvidence evidence) (evidenceIds evidence) fs key
    rw [hlookup] at hget
    have hdict := Dict.dict?_eq_some.mp (availableFigure_eq_some.mp hnode).1
    rw [filledSnapshot, hget] at hdict
    cases hdict
    have h := hsound rfl
    rw [hexpected] at h
    exact (figureSound_kept rfl).mpr h
  · exact shows_backed hlookup

/-- The payroll figure is backed by its category sum. -/
theorem lookup_payroll :
    (backedFigures (extractOdooContext (odooEvidence evidence)) (odooEvidence evidence)
      (evidenceIds evidence)).lookup "payroll_cost" =
        some (extractOdooContext (odooEvidence evidence)).payrollCost := by
  simp only [backedFigures, backed_payrollCost]
  rfl

/-- The figure for expenses is backed by its category sum. -/
theorem lookup_expense :
    (backedFigures (extractOdooContext (odooEvidence evidence)) (odooEvidence evidence)
      (evidenceIds evidence)).lookup "expense_cost" =
        some (extractOdooContext (odooEvidence evidence)).expenseCost := by
  simp only [backedFigures, backed_expenseCost]
  rfl

private theorem lookup_estimate :
    (backedFigures (extractOdooContext (odooEvidence evidence)) (odooEvidence evidence)
      (evidenceIds evidence)).lookup "estimate" =
        some (packFigures (extractOdooContext (odooEvidence evidence)) true).estimate := by
  simp only [backedFigures, backedNonzero_estimate]
  rfl

/-- The actual cost as the enforcement leaves it: with an amount, an object holds the total. -/
def ActualEnforced (evidence : List (Evidence F)) (fs : Dict F) : Prop :=
  ∀ node, fs.dict? "actual_cost" = some node →
    (extractOdooContext (odooEvidence evidence)).hasAmount = true →
    ActualPlaced (extractOdooContext (odooEvidence evidence)) node

/-- A sound actual cost is shown as the extraction has it, if it is an object. Otherwise the
snapshot shows none. -/
theorem shows_actual (henforced : ActualEnforced evidence fs)
    (hsound : FigureSound (evidenceIds (odooEvidence evidence))
      (expectedFigure evidence "actual_cost") "actual_cost" (fs.get "actual_cost"))
    {parts : List (IncurredPart F)}
    (hparts : incurredParts (filledSnapshot evidence fs) = .ok parts) :
    Shows (filledSnapshot evidence fs) "actual_cost"
      (packFigures (extractOdooContext (odooEvidence evidence))
        (fs.dict? "actual_cost").isSome).actual := by
  have hget : (filledSnapshot evidence fs).dict? "actual_cost" = fs.dict? "actual_cost" := by
    have h := get?_placeFigures (extractOdooContext (odooEvidence evidence))
      (odooEvidence evidence) (evidenceIds evidence) fs "actual_cost"
    exact congrArg (fun v => v.bind Value.asDict?) h
  cases hactual : fs.dict? "actual_cost" with
  | none =>
    refine Option.map_eq_none_iff.mpr ?_
    rw [availableFigure, hget, hactual]
    rfl
  | some node =>
    cases hamount : (extractOdooContext (odooEvidence evidence)).hasAmount with
    | true =>
      -- the correction has placed the total of the pack
      obtain ⟨hstatus, hvalue, hid⟩ := henforced node hactual hamount
      obtain ⟨⟨x, hx⟩, -⟩ := hasAmount_spec hamount
      have hnode : availableFigure (filledSnapshot evidence fs) "actual_cost" = some node := by
        rw [availableFigure_eq_some, hget, hvalue, hx]
        exact ⟨hactual, hstatus, by simp [amountValue]⟩
      rw [Shows, hnode]
      simp [packFigures, hvalue, hid, hx, amountValue]
    | false =>
      -- without an amount a sound node shows no number
      have htotal := totalAmount_eq_none hamount
      have hnone : (packFigures (extractOdooContext (odooEvidence evidence))
          (some node).isSome).actual = none := by simp [packFigures, htotal]
      rw [hnone]
      refine shows_none (evidenceIds (odooEvidence evidence)) (fun n hn => ?_)
        (fun n hn => incurredParts_numeric hparts (by simp [incurredKeys]) hn)
      have hn' := (availableFigure_eq_some.mp hn).1
      rw [hget, hactual] at hn'
      cases hn'
      have hfigure := Dict.get_of_get? (Dict.dict?_eq_some.mp hactual)
      rw [hfigure, show expectedFigure evidence "actual_cost" = none from htotal] at hsound
      exact hsound

omit [Floats F] [Text] in
/-- What is shown depends on the entry alone. -/
theorem Shows.congr {fs' : Dict F} {key : String} {p : Option (F × String)} (h : Shows fs key p)
    (hget : fs'.get? key = fs.get? key) : Shows fs' key p := by
  have hfigure : availableFigure fs' key = availableFigure fs key := by
    rw [availableFigure, availableFigure, Dict.dict?, Dict.dict?, hget]
  rw [Shows, hfigure]
  exact h

private theorem lookup_mem_backed {key : String} {p : Option (F × String)}
    (h : (backedFigures (extractOdooContext (odooEvidence evidence)) (odooEvidence evidence)
      (evidenceIds evidence)).lookup key = some p) :
    (key, p) ∈ backedFigures (extractOdooContext (odooEvidence evidence)) (odooEvidence evidence)
      (evidenceIds evidence) := by
  obtain ⟨l₁, l₂, hsplit, -⟩ := List.lookup_eq_some_iff.mp h
  rw [hsplit]
  exact List.mem_append_right _ (List.mem_cons_self ..)

omit [Floats F] [Text] in
/-- A figure that is placed is shown. -/
theorem shows_placed {fs fs' : Dict F} {key : String} {p : Option (F × String)} (hsome : p ≠ none)
    (hget : fs'.get? key = some (.dict (placedNode fs key p))) : Shows fs' key p := by
  obtain ⟨⟨x, e⟩, rfl⟩ := Option.ne_none_iff_exists'.mp hsome
  have hnode : availableFigure fs' key = some (placedNode fs key (some (x, e))) := by
    rw [availableFigure_eq_some, Dict.dict?_eq_some]
    refine ⟨hget, ?_, ?_⟩ <;> simp [placedNode, availableNode, Dict.get_set]
  rw [Shows, hnode]
  simp [placedNode, availableNode, Dict.get_set]

/-- Where the pack has no baseline, the value of a sound leftover estimate is none either. -/
theorem truthy_leftoverEstimate {node : Dict F} {est : Num F}
    (hest : (packFigures (extractOdooContext (odooEvidence evidence)) true).estimate = none)
    (hsound : FigureSound (evidenceIds (odooEvidence evidence)) (expectedFigure evidence "estimate")
      "estimate" (.dict node))
    (hnum : (node.get "value").toNum = .ok est) : (node.get "value").truthy = false := by
  obtain ⟨⟨x, hx, heq⟩, -⟩ := hsound est hnum
  obtain ⟨⟨x', e⟩, hestimate, rfl⟩ := Option.map_eq_some_iff.mp hx
  have hfilter : ((some (x', e)).filter fun p : F × String => !Floats.isZero p.1) = none :=
    hestimate ▸ hest
  have hzero : Floats.isZero x' = true := by
    by_contra hnz
    rw [Option.filter_some_pos (by simpa using hnz)] at hfilter
    cases hfilter
  exact truthy_of_equals_zero hnum heq hzero

/-- With the actual cost shown or not, and nothing unsound in place of the figures that are not
backed, the total and the variance are those of the pack. -/
theorem derived_of_shows {withActual : Bool}
    (hactual : ∀ parts, incurredParts (filledSnapshot evidence fs) = .ok parts →
      Shows (filledSnapshot evidence fs) "actual_cost"
        (packFigures (extractOdooContext (odooEvidence evidence)) withActual).actual)
    (hunbacked : ∀ key, (key, none) ∈ backedFigures (extractOdooContext (odooEvidence evidence))
        (odooEvidence evidence) (evidenceIds evidence) →
      FigureSound (evidenceIds (odooEvidence evidence)) (expectedFigure evidence key) key
        (keptFigure fs key)) {totalled fs' : Dict F}
    (htotal : placeTotalIncurred (filledSnapshot evidence fs) = .ok totalled)
    (hvariance : placeVariance totalled = .ok fs') :
    totalled.get? "total_incurred" = some (.dict (placedNode fs "total_incurred"
        (packFigures (extractOdooContext (odooEvidence evidence)) withActual).total)) ∧
      ∃ node : Dict F, fs'.get? "variance" = some (.dict node) ∧
        match (packFigures (extractOdooContext (odooEvidence evidence)) withActual).variance with
        | some (x, ids) => node.get "value" = .float x ∧
            node.get "evidence_ids" = .list (ids.map .str)
        | none => node = (fs.dict? "variance").getD emptyVariance := by
  obtain ⟨parts, hparts, hframe, -⟩ := placeTotalIncurred_cases htotal
  have ha := hactual parts hparts
  have hp : Shows (filledSnapshot evidence fs) "payroll_cost"
      (extractOdooContext (odooEvidence evidence)).payrollCost :=
    shows_category (by simp [incurredKeys]) lookup_payroll rfl
      (fun hnone => hunbacked _ (hnone ▸ lookup_mem_backed lookup_payroll)) hparts
  have he : Shows (filledSnapshot evidence fs) "expense_cost"
      (extractOdooContext (odooEvidence evidence)).expenseCost :=
    shows_category (by simp [incurredKeys]) lookup_expense rfl
      (fun hnone => hunbacked _ (hnone ▸ lookup_mem_backed lookup_expense)) hparts
  set base := packFigures (extractOdooContext (odooEvidence evidence)) withActual with hbaseDef
  have hkeep {key : String} (hkey : key ∉ ["total_incurred", "note"]) :
      totalled.get? key = (filledSnapshot evidence fs).get? key := hframe key hkey
  have hdraft (key : String) (hkey : (backedFigures (extractOdooContext (odooEvidence evidence))
      (odooEvidence evidence) (evidenceIds evidence)).lookup key = none) :
      (filledSnapshot evidence fs).get? key = fs.get? key := by
    rw [filledSnapshot, get?_placeFigures, hkey]
  have htotalled : totalled.get? "total_incurred" =
      some (.dict (placedNode fs "total_incurred" base.total)) := by
    have h := total_of_shows (b := base) ha hp he htotal
    have hnode : placedNode (filledSnapshot evidence fs) "total_incurred" base.total =
        placedNode fs "total_incurred" base.total := by
      rcases base.total with - | ⟨x, e⟩ <;>
        simp only [placedNode, Dict.dict?, hdraft "total_incurred" rfl]
    rw [h, hnode]
  refine ⟨htotalled, ?_⟩
  have hvarianceNode : (totalled.dict? "variance") = fs.dict? "variance" := by
    rw [Dict.dict?, Dict.dict?, hkeep (by simp), hdraft "variance" rfl]
  rw [← hvarianceNode]
  have hshowTotal : base.total ≠ none → Shows totalled "total_incurred" base.total :=
    fun hsome => shows_placed hsome htotalled
  refine variance_of_shows (b := base) ?_ ?_ (ha.congr (hkeep (by simp)))
    (hp.congr (hkeep (by simp))) (he.congr (hkeep (by simp))) hshowTotal hvariance
  · -- a backed estimate is shown, and it is not zero
    intro x e hest
    have hlookup := @lookup_estimate _ _ _ evidence
    rw [show (packFigures (extractOdooContext (odooEvidence evidence)) true).estimate =
      some (x, e) from hest] at hlookup
    have hnz := (Option.filter_eq_some_iff.mp hest).2
    rw [Bool.not_eq_true'] at hnz
    exact ⟨(shows_backed hlookup).congr (hkeep (by simp)), hnz⟩
  · -- without one, a sound leftover has a value that is no baseline
    intro hest
    have hlookup := @lookup_estimate _ _ _ evidence
    rw [show (packFigures (extractOdooContext (odooEvidence evidence)) true).estimate =
      none from hest] at hlookup
    have hget : totalled.get? "estimate" = some (.dict (placedNode fs "estimate" none)) := by
      rw [hkeep (by simp), filledSnapshot, get?_placeFigures, hlookup]
    have hsound : FigureSound (evidenceIds (odooEvidence evidence))
        (expectedFigure evidence "estimate") "estimate"
        (.dict ((fs.dict? "estimate").getD notAvailableNode)) :=
      (figureSound_kept rfl).mpr (hunbacked "estimate" (lookup_mem_backed hlookup))
    rw [← Bool.not_eq_true]
    intro hcomp
    obtain ⟨-, hcases⟩ := placeVariance_cases hvariance
    rcases hcases with ⟨hfalse, -⟩ | ⟨est, -, -, -, -, hnum, -, -, -⟩
    · rw [hcomp] at hfalse
      cases hfalse
    · have hnodeEq : nodeOrEmpty totalled "estimate" =
          (fs.dict? "estimate").getD notAvailableNode := by
        rw [nodeOrEmpty, Dict.dict?, hget]
        rfl
      rw [hnodeEq] at hnum hcomp
      have htruthy := (varianceComputable_iff.mp hcomp).2.2.1
      rw [truthy_leftoverEstimate hest hsound hnum] at htruthy
      cases htruthy

/-- A figure that the extraction may back is looked up under its own key, which is none of the
computed ones. -/
theorem lookup_of_mem_backed {key : String} {p : Option (F × String)}
    (h : (key, p) ∈ backedFigures (extractOdooContext (odooEvidence evidence))
      (odooEvidence evidence) (evidenceIds evidence)) :
    key ∈ figureKeys ∧ key ∉ ["total_incurred", "note", "variance"] ∧
      (backedFigures (extractOdooContext (odooEvidence evidence)) (odooEvidence evidence)
        (evidenceIds evidence)).lookup key = some p := by
  simp only [backedFigures, List.mem_cons, Prod.mk.injEq, List.not_mem_nil, or_false] at h
  rcases h with ⟨rfl, rfl⟩ | ⟨rfl, rfl⟩ | ⟨rfl, rfl⟩ | ⟨rfl, rfl⟩ | ⟨rfl, rfl⟩ <;>
    exact ⟨by simp [figureKeys], by simp, rfl⟩

omit [Text] in
/-- With a float for a value and Odoo ids, a figure is sound just if the float is expected. -/
theorem figureSound_float {odooIds : List String} {expected : Option F} {key : String}
    {node : Dict F} {x : F} (hvalue : node.get "value" = .float x)
    (hids : ∀ e ∈ attachedIds key node, ∃ s ∈ odooIds, e = .str s) :
    FigureSound odooIds expected key (.dict node) ↔ expected = some x := by
  constructor
  · intro h
    obtain ⟨⟨y, hy, heq⟩, -⟩ := h (.float x) (by rw [hvalue]; rfl)
    have hxy : x = y := heq
    rw [hy, hxy]
  · intro hx n hn
    rw [hvalue] at hn
    cases hn
    exact ⟨⟨x, hx, rfl⟩, hids⟩

omit [Floats F] [Text] in
/-- The one id attached to a placed figure. -/
theorem attachedIds_placed {key : String} (hkey : key ≠ "variance") {x : F} {e : String}
    {odooIds : List String} (he : e ∈ odooIds) :
    ∀ v ∈ attachedIds key (placedNode fs key (some (x, e))), ∃ s ∈ odooIds, v = .str s := by
  have hid : (placedNode fs key (some (x, e))).get "evidence_id" = .str e := by
    simp [placedNode, availableNode, Dict.get_set]
  intro v hv
  rw [attachedIds, if_neg hkey, hid] at hv
  exact ⟨e, he, by simpa [Value.isNull] using hv⟩

/-- A placed node is sound if the figure is backed, and otherwise just if the kept figure is. -/
theorem figureSound_placed {key : String} {p : Option (F × String)}
    (hvariance : key ≠ "variance") (hbacked : ∀ x e, p = some (x, e) →
      expectedFigure evidence key = some x ∧ e ∈ evidenceIds (odooEvidence evidence)) :
    FigureSound (evidenceIds (odooEvidence evidence)) (expectedFigure evidence key) key
        (.dict (placedNode fs key p)) ↔
      (p = none → FigureSound (evidenceIds (odooEvidence evidence)) (expectedFigure evidence key)
        key (keptFigure fs key)) := by
  rcases p with - | ⟨x, e⟩
  · rw [placedNode, figureSound_kept rfl]
    exact ⟨fun h _ => h, fun h => h rfl⟩
  · obtain ⟨hx, he⟩ := hbacked x e rfl
    refine iff_of_true ?_ (fun h => absurd h (Option.some_ne_none _))
    have hvalue : (placedNode fs key (some (x, e))).get "value" = .float x := by
      simp [placedNode, availableNode, Dict.get_set]
    exact (figureSound_float hvalue (attachedIds_placed hvariance he)).mpr hx

/-- The ids the pack's figures cite are ids of Odoo items. The total cites the first of its parts.
-/
theorem packFigures_ids {withActual : Bool} {x : F} {e : String}
    (h : (packFigures (extractOdooContext (odooEvidence evidence)) withActual).actual =
        some (x, e) ∨
      (packFigures (extractOdooContext (odooEvidence evidence)) withActual).total =
        some (x, e)) :
    e ∈ evidenceIds (odooEvidence evidence) := by
  have hactual {x : F} {e : String}
      (h : (packFigures (extractOdooContext (odooEvidence evidence)) withActual).actual =
        some (x, e)) : e ∈ evidenceIds (odooEvidence evidence) := by
    cases withActual with
    | false => cases h
    | true =>
      obtain ⟨y, hy, hpair⟩ := Option.map_eq_some_iff.mp h
      cases hpair
      refine (hasAmount_spec ?_).2
      -- there is a total just if there is an amount
      by_contra hamount
      rw [totalAmount_eq_none (Bool.not_eq_true _ ▸ hamount)] at hy
      cases hy
  rcases h with h | h
  · exact hactual h
  · obtain ⟨⟨key, y, e'⟩, hhead, hpair⟩ := Option.map_eq_some_iff.mp h
    cases hpair
    have hmem := List.mem_of_mem_head? (Option.mem_def.mpr hhead)
    simp only [BaseFigures.incurred, List.mem_append, Option.mem_toList, Option.map_eq_some_iff,
      Prod.mk.injEq] at hmem
    rcases hmem with (⟨p, hp, -, hpair⟩ | ⟨p, hp, -, hpair⟩) | ⟨p, hp, -, hpair⟩
    · exact hactual (hpair ▸ hp)
    · exact (payrollCost_mem (hpair ▸ hp)).1
    · exact (expenseCost_mem (hpair ▸ hp)).1

/-- The ids of the computed variance are ids of Odoo items. -/
theorem packFigures_variance_ids {withActual : Bool} {x : F} {ids : List String}
    (h : (packFigures (extractOdooContext (odooEvidence evidence)) withActual).variance =
      some (x, ids)) : ∀ e ∈ ids, e ∈ evidenceIds (odooEvidence evidence) := by
  obtain ⟨⟨y, ey⟩, hy, hrest⟩ := Option.bind_eq_some_iff.mp h
  obtain ⟨⟨z, ez⟩, hz, hpair⟩ := Option.map_eq_some_iff.mp hrest
  cases hpair
  have hspent : ez ∈ evidenceIds (odooEvidence evidence) := by
    unfold BaseFigures.spent at hz
    split at hz
    · exact packFigures_ids (.inr hz)
    · exact packFigures_ids (.inl hz)
  intro e he
  rcases List.mem_cons.mp (List.mem_filter.mp he).1 with rfl | he
  · exact estimate_mem (Option.filter_eq_some_iff.mp hy).1
  · rw [List.mem_singleton.mp he]
    exact hspent

/-- The placed total is sound just if the total comes out right. -/
theorem figureSound_total :
    FigureSound (evidenceIds (odooEvidence evidence)) (expectedFigure evidence "total_incurred")
        "total_incurred" (.dict (placedNode fs "total_incurred"
          (packFigures (extractOdooContext (odooEvidence evidence))
            (fs.dict? "actual_cost").isSome).total)) ↔ TotalSound evidence fs := by
  unfold TotalSound
  split
  · next x e htotal =>
    rw [htotal]
    have hvalue : (placedNode fs "total_incurred" (some (x, e))).get "value" = .float x := by
      simp [placedNode, availableNode, Dict.get_set]
    exact figureSound_float hvalue (attachedIds_placed (by decide) (packFigures_ids (.inr htotal)))
  · next hnone =>
    rw [hnone]
    exact figureSound_kept rfl

/-- The variance the passes leave is sound just if the variance comes out right. A computed one is
the extraction's, and else the draft's node is judged. -/
theorem figureSound_variance {node : Dict F}
    (hcases : match (packFigures (extractOdooContext (odooEvidence evidence))
        (fs.dict? "actual_cost").isSome).variance with
      | some (x, ids) => node.get "value" = .float x ∧
          node.get "evidence_ids" = .list (ids.map .str)
      | none => node = (fs.dict? "variance").getD emptyVariance) :
    FigureSound (evidenceIds (odooEvidence evidence)) (expectedFigure evidence "variance")
        "variance" (.dict node) ↔ VarianceSound evidence fs := by
  unfold VarianceSound
  split
  · next x ids hvariance =>
    rw [hvariance] at hcases
    obtain ⟨hvalue, hids⟩ := hcases
    refine figureSound_float hvalue fun v hv => ?_
    rw [attachedIds, if_pos rfl, hids] at hv
    obtain ⟨e, he, rfl⟩ := List.mem_map.mp hv
    exact ⟨e, packFigures_variance_ids hvariance e he, rfl⟩
  · next hnone =>
    rw [hnone] at hcases
    rw [hcases]
    exact figureSound_kept rfl

/-- The passes make the snapshot sound exactly when the figures they leave alone are. What the
passes place is the extraction's own, figure by figure. -/
theorem snapshotSound_iff (henforced : ActualEnforced evidence fs) {fs' : Dict F}
    (h : enforceCategoriesSnapshot (extractOdooContext (odooEvidence evidence))
      (odooEvidence evidence) (evidenceIds evidence) fs = .ok fs') :
    SnapshotSound evidence fs' ↔ LeftoversSound evidence fs := by
  obtain ⟨totalled, htotal, hvariance, hget, hgetTotal⟩ := enforceCategoriesSnapshot_cases h
  have hbudget : fs'.get "budget" = fs.get "budget" := by
    rw [Dict.get, Dict.getD, hget "budget" (by simp)]
    rfl
  have hactual : fs'.get "actual_cost" = fs.get "actual_cost" := by
    rw [Dict.get, Dict.getD, hget "actual_cost" (by simp)]
    rfl
  have hplaced {key : String} {p : Option (F × String)}
      (hmem : (key, p) ∈ backedFigures (extractOdooContext (odooEvidence evidence))
        (odooEvidence evidence) (evidenceIds evidence)) :
      FigureSound (evidenceIds (odooEvidence evidence)) (expectedFigure evidence key) key
          (fs'.get key) ↔
        (p = none → FigureSound (evidenceIds (odooEvidence evidence))
          (expectedFigure evidence key) key (keptFigure fs key)) := by
    obtain ⟨-, hkey, hlookup⟩ := lookup_of_mem_backed hmem
    have hnode := hget key hkey
    rw [hlookup] at hnode
    rw [Dict.get_of_get? hnode]
    refine figureSound_placed (by rintro rfl; simp at hkey) ?_
    rintro x e rfl
    exact backedFigures_spec hmem
  -- the two derived figures, once the figures they are computed from are sound
  have hderived (hsound : FigureSound (evidenceIds (odooEvidence evidence))
        (expectedFigure evidence "actual_cost") "actual_cost" (fs.get "actual_cost"))
      (hunbacked : ∀ key, (key, none) ∈ backedFigures (extractOdooContext (odooEvidence evidence))
          (odooEvidence evidence) (evidenceIds evidence) →
        FigureSound (evidenceIds (odooEvidence evidence)) (expectedFigure evidence key) key
          (keptFigure fs key)) :
      (FigureSound (evidenceIds (odooEvidence evidence)) (expectedFigure evidence "total_incurred")
          "total_incurred" (fs'.get "total_incurred") ↔ TotalSound evidence fs) ∧
        (FigureSound (evidenceIds (odooEvidence evidence)) (expectedFigure evidence "variance")
          "variance" (fs'.get "variance") ↔ VarianceSound evidence fs) := by
    obtain ⟨htotalled, node, hnode, hcases⟩ := derived_of_shows
      (fun parts hparts => shows_actual henforced hsound hparts) hunbacked htotal hvariance
    rw [Dict.get_of_get? (hgetTotal.trans htotalled), Dict.get_of_get? hnode]
    exact ⟨figureSound_total, figureSound_variance hcases⟩
  constructor
  · intro hsound
    have hsoundActual := hactual ▸ hsound "actual_cost" (by simp [figureKeys])
    have hunbacked (key : String) (hmem : (key, none) ∈ backedFigures
        (extractOdooContext (odooEvidence evidence)) (odooEvidence evidence)
        (evidenceIds evidence)) := (hplaced hmem).mp (hsound key (lookup_of_mem_backed hmem).1) rfl
    obtain ⟨hiffTotal, hiffVariance⟩ := hderived hsoundActual hunbacked
    exact
      { budget := hbudget ▸ hsound "budget" (by simp [figureKeys])
        actual := hsoundActual
        unbacked := hunbacked
        total := hiffTotal.mp (hsound "total_incurred" (by simp [figureKeys]))
        variance := hiffVariance.mp (hsound "variance" (by simp [figureKeys])) }
  · intro hleft
    obtain ⟨hiffTotal, hiffVariance⟩ := hderived hleft.actual hleft.unbacked
    have hfigure {key : String} {p : Option (F × String)}
        (hlookup : (backedFigures (extractOdooContext (odooEvidence evidence))
          (odooEvidence evidence) (evidenceIds evidence)).lookup key = some p) :
        FigureSound (evidenceIds (odooEvidence evidence)) (expectedFigure evidence key) key
          (fs'.get key) :=
      (hplaced (lookup_mem_backed hlookup)).mpr fun hnone =>
        hleft.unbacked key (hnone ▸ lookup_mem_backed hlookup)
    intro key hkey
    simp only [figureKeys, List.mem_cons, List.not_mem_nil, or_false] at hkey
    rcases hkey with rfl | rfl | rfl | rfl | rfl | rfl | rfl | rfl | rfl
    · rw [hbudget]
      exact hleft.budget
    · exact hfigure rfl
    · exact hfigure rfl
    · rw [hactual]
      exact hleft.actual
    · exact hfigure rfl
    · exact hfigure rfl
    · exact hfigure rfl
    · exact hiffTotal.mpr hleft.total
    · exact hiffVariance.mpr hleft.variance

end Passes

end Soundness

end DecisionCenter
