import DecisionCenter.Graph.OdooContext

/-!
# The financial snapshot passes

The three passes of node 12 that write `report["financial_snapshot"]`:
`_normalize_financial_snapshot`, which brings the shape of the draft to the canonical one,
`_enforce_financial_from_odoo`, which corrects the budget and the actual cost, and
`_enforce_financial_categories`, which fills the remaining figures from the Odoo extraction.

A figure is a dictionary with a status, a value, a currency and an id, as far as the draft has
it so. The first pass folds the aliases of the schema into their keys and puts an empty node
where a figure is missing; a figure that is a bare number stays one. The second replaces the
amount of an actual cost that the extraction backs, demotes one that it does not, and corrects
the id. The third places every figure that is backed by an item of the pack, adds up the total
from what is available, and computes the variance where an estimate and an amount spent are
available.

Each pass may raise, on a value that is no number where one is added, and the source's order of
steps is kept. `onSnapshot` applies a pass where the report has a snapshot that is an object.

A placed figure is a cost with its id; which id counts as one of the pack is decided by the ids
that the pass is given. The rules are stated here and used in the modules on soundness,
citations and arithmetic.
-/

namespace DecisionCenter

open Py

variable {F : Type}

/-! ### Shape of the snapshot -/

/-- A figure without a value. -/
def notAvailableNode : Dict F :=
  [("value", .null), ("currency", .str "AED"), ("evidence_id", .null),
    ("status", .str "not_available")]

/-- A variance without a value. -/
def emptyVariance : Dict F :=
  [("value", .null), ("currency", .str "AED"), ("formula", .null), ("evidence_ids", .list [])]

/-- The snapshot written when the draft has none. -/
def emptySnapshot : Dict F :=
  [("budget", .dict notAvailableNode), ("actual_cost", .dict notAvailableNode),
    ("variance", .dict emptyVariance)]

/-- The snapshot of a report, where it has one. -/
def snapshot? (report : Dict F) : Option (Dict F) := report.dict? "financial_snapshot"

/-- Run a pass over the snapshot of the report; a report without one is left alone. -/
def onSnapshot (report : Dict F) (pass : Dict F → Except Error (Dict F)) :
    Except Error (Dict F) :=
  report.modifyM "financial_snapshot" pass

/-! ### `_normalize_financial_snapshot` -/

/-- `top_level_aliases` -/
def topLevelAliases : List (String × String) :=
  [("actual_total", "actual_cost"), ("estimated_total", "actual_cost"),
    ("committed_total", "actual_cost"), ("planned_cost", "budget")]

/-- One item of a loose top-level node, written into the cell of its target. -/
def foldAliasItem (target : String) (cell : Value F) (kv : String × Value F) :
    Except Error (Value F) :=
  if kv.1 = "evidence_ids" ∧ target = "actual_cost" then
    let eids := match kv.2 with
      | .list xs => xs
      | v => [v]
    match eids with
    | [] => pure cell
    | e :: _ => cell.setItem "evidence_id" e
  else cell.setItem kv.1 kv.2

/-- Move one loose top-level key into the snapshot. -/
def foldAlias (s : Dict F × Dict F) (entry : String × String) :
    Except Error (Dict F × Dict F) :=
  let (report, fs) := s
  let (key, target) := entry
  match report.dict? key with
  | some node => do
    let fs := fs.setdefault target (.dict [])
    let cell ← node.foldlM (foldAliasItem target) (fs.get target)
    pure (report.erase key, fs.set target cell)
  | none => pure (report.erase key, fs)

section Passes

variable [Floats F]

/-- Ensure `actual_cost` uses `evidence_id`, not `evidence_ids`. -/
def canonicalActual (actual : Dict F) : Dict F :=
  let cited := match actual.get "evidence_ids" with
    | .list (e :: _) =>
      if (actual.get "evidence_id").truthy then actual else actual.set "evidence_id" e
    | _ => actual
  cited.erase "evidence_ids"

/-- Ensure the variance has an `evidence_ids` list. -/
def canonicalVariance (variance : Dict F) : Dict F :=
  (variance.setdefault "evidence_ids" (.list [])).erase "evidence_id"

/-- `_normalize_financial_snapshot` -/
def normalizeFinancialSnapshot (report : Dict F) : Except Error (Dict F) := do
  let fs := (snapshot? report).getD emptySnapshot
  let (report, fs) ← topLevelAliases.foldlM foldAlias (report, fs)
  let fs := (fs.modify "actual_cost" canonicalActual).modify "variance" canonicalVariance
  pure (report.set "financial_snapshot" (.dict fs))

/-! ### `_enforce_financial_from_odoo` -/

/-- Budget is always not available from analytic lines. -/
def enforceBudget (budget : Dict F) : Dict F :=
  (((budget.set "status" (.str "not_available")).set "value" .null).setdefault "currency"
    (.str "AED")).set "evidence_id" .null

variable [Text]

/-- Several ids stuffed into one comma-separated `evidence_id`: keep the first valid one. -/
def splitEvidenceId (ids : List String) (actual : Dict F) : Dict F :=
  match actual.get "evidence_id" with
  | .str raw =>
    if contains raw "," then
      match ((raw.splitOn ",").map strip).find? (fun cand => decide (cand ∈ ids)) with
      | some cand => (actual.set "evidence_id" (.str cand)).erase "evidence_ids"
      | none => actual
    else actual
  | _ => actual

/-- The first candidate of a list that is an id of the pack. -/
def firstValid (ids : List String) : List (Value F) → Except Error (Option (Value F))
  | [] => pure none
  | cand :: rest => do
    if ← cand.inSet ids then pure (some cand) else firstValid ids rest

/-- A leftover `evidence_ids` list: use its first valid id when there is no `evidence_id`. -/
def citeFromList (ids : List String) (actual : Dict F) : Except Error (Dict F) :=
  match actual.get "evidence_ids" with
  | .list (e :: es) =>
    if (actual.get "evidence_id").truthy then pure actual
    else do
      match ← firstValid ids (e :: es) with
      | some cand => pure (actual.set "evidence_id" cand)
      | none => pure actual
  | _ => pure actual

/-- The evidence id the extraction cites for the actual cost: the best line, else the first
sample line whose id is in the pack. -/
def actualEvidenceId (ctx : OdooContext F) (ids : List String) : String :=
  let eid := ctx.bestEvidenceId.getD ""
  if eid ∈ ids then eid
  else ((ctx.sampleLines.map (·.evidenceId)).find? fun cand => decide (cand ∈ ids)).getD eid

/-- The value the snapshot holds for an optional amount. -/
def amountValue : Option F → Value F
  | some x => .float x
  | none => .null

/-- Deterministic truth: with valued cost lines the extracted total replaces the draft's. -/
def overrideActual (ctx : OdooContext F) (ids : List String) (actual : Dict F) : Dict F :=
  let eid := actualEvidenceId ctx ids
  if ctx.hasAmount ∧ eid ∈ ids then
    ((((actual.set "status" (.str "available")).set "value" (amountValue ctx.totalAmount)).set
      "currency" (.str "AED")).set "evidence_id" (.str eid)).erase "evidence_ids"
  else actual

/-- Final safety: an available figure with an id outside the pack is demoted. -/
def demoteActual (ids : List String) (actual : Dict F) : Except Error (Dict F) :=
  if (actual.get "status").eqStr "available" then do
    if ← (actual.get "evidence_id").inSet ids then pure actual
    else pure (((actual.set "status" (.str "not_available")).set "value" .null).set
      "evidence_id" .null)
  else pure actual

/-- The treatment of the `actual_cost` node. -/
def enforceActual (ctx : OdooContext F) (ids : List String) (actual : Dict F) :
    Except Error (Dict F) := do
  let actual ← citeFromList ids (splitEvidenceId ids actual)
  demoteActual ids (overrideActual ctx ids actual)

/-- `_enforce_financial_from_odoo` on the snapshot. -/
def enforceFinancialSnapshot (ctx : OdooContext F) (ids : List String) (fs : Dict F) :
    Except Error (Dict F) :=
  (fs.modify "budget" enforceBudget).modifyM "actual_cost" (enforceActual ctx ids)

/-- `_enforce_financial_from_odoo` -/
def enforceFinancialFromOdoo (report : Dict F) (ctx : OdooContext F) (ids : List String) :
    Except Error (Dict F) :=
  onSnapshot report (enforceFinancialSnapshot ctx ids)

/-! ### `_enforce_financial_categories` -/

omit [Floats F] [Text] in
/-- `_fin_node`: make sure the figure is a dictionary. -/
def finNode (fs : Dict F) (key : String) : Dict F :=
  match fs.dict? key with
  | some _ => fs
  | none => fs.set key (.dict notAvailableNode)

omit [Floats F] [Text] in
/-- The node `_set_fin_available` leaves, written over `node`. -/
def availableNode (node : Dict F) (value : Value F) (evidenceId : Value F) : Dict F :=
  (((node.set "value" value).set "currency" (.str "AED")).set "evidence_id" evidenceId).set
    "status" (.str "available")

omit [Floats F] [Text] in
/-- `_set_fin_available` -/
def setFinAvailable (fs : Dict F) (key : String) (value evidenceId : Value F) : Dict F :=
  (finNode fs key).modify key fun node => availableNode node value evidenceId

omit [Floats F] [Text] in
/-- Set a figure the extraction backs, else only make sure that it is a dictionary. -/
def placeFigure (fs : Dict F) (key : String) : Option (F × String) → Dict F
  | some (x, e) => setFinAvailable fs key (.float x) (.str e)
  | none => finNode fs key

omit [Text] in
/-- `cv not in (None, 0) and cv_eid in evidence_ids` -/
def backedNonzero (ids : List String) (p : Option (F × String)) : Option (F × String) :=
  p.filter fun (x, e) => !Floats.isZero x && decide (e ∈ ids)

omit [Floats F] [Text] in
/-- `payroll is not None and p_eid in evidence_ids` -/
def backed (ids : List String) (p : Option (F × String)) : Option (F × String) :=
  p.filter fun (_, e) => decide (e ∈ ids)

/-- The committed cost: purchase orders and their lines, cited from the pack. -/
def committedCost (odoo : List (Evidence F)) (ids : List String) : Option (F × String) :=
  sumOdooCategory odoo committedCategories committedAmountFields (some ids)

/-- Any Odoo item of the pack can be cited for the committed cost. -/
theorem committedCost_odooEvidence (pack : List (Evidence F)) :
    committedCost (odooEvidence pack) (evidenceIds pack) =
      sumOdooCategory (odooEvidence pack) committedCategories committedAmountFields none := by
  rw [committedCost, sumOdooCategory_eq, sumOdooCategory_eq, citedItem_congr]
  intro ev hev
  have hid : ev.evidenceId ∈ evidenceIds pack :=
    List.mem_map_of_mem (mem_odooEvidence.mp hev).1
  simp [hid]

/-- The five figures that are filled from the extraction. -/
def placeFigures (ctx : OdooContext F) (odoo : List (Evidence F)) (ids : List String)
    (fs : Dict F) : Dict F :=
  let fs := placeFigure fs "contract_value" (backedNonzero ids ctx.contractValue)
  let fs := placeFigure fs "estimate" (backedNonzero ids ctx.estimate)
  let fs := placeFigure fs "committed_cost" (committedCost odoo ids)
  let fs := placeFigure fs "payroll_cost" (backed ids ctx.payrollCost)
  placeFigure fs "expense_cost" (backed ids ctx.expenseCost)

/-- The categories that add up to the total incurred cost. -/
def incurredKeys : List String := ["actual_cost", "payroll_cost", "expense_cost"]

omit [Floats F] [Text] in
/-- The node of a figure that is available and has a value. -/
def availableFigure (fs : Dict F) (key : String) : Option (Dict F) :=
  (fs.dict? key).filter fun node =>
    (node.get "status").eqStr "available" && !(node.get "value").isNull

/-- One entry of `incurred_parts`: key, absolute value, evidence id. -/
structure IncurredPart (F : Type) where
  key : String
  amount : Num F
  evidenceId : Value F

omit [Text] in
/-- `incurred_parts` -/
def incurredParts (fs : Dict F) : Except Error (List (IncurredPart F)) :=
  (incurredKeys.filterMap fun k => (availableFigure fs k).map fun node => (k, node)).mapM
    fun (k, node) => do
      pure { key := k, amount := ← (node.get "value").absNum, evidenceId := node.get "evidence_id" }

/-- The note on double counting that accompanies a total of several categories. -/
def incurredNote (keys : List String) : String :=
  "Total Incurred sums the evidence-backed cost categories retrieved this run (" ++
    join ", " keys ++
    "). In Odoo, payroll and HR expenses can also post journal/analytic lines, so this total " ++
    "may double-count until reconciled against the analytic ledger. Committed (LPO/PO) cost " ++
    "is shown separately and is not part of this total."

omit [Text] in
/-- The total incurred cost, recomputed from the figures just set. -/
def placeTotalIncurred (fs : Dict F) : Except Error (Dict F) := do
  let parts ← incurredParts fs
  match parts with
  | [] => pure (finNode fs "total_incurred")
  | first :: rest =>
    let total ← Num.sum ((first :: rest).map (·.amount))
    let fs := setFinAvailable fs "total_incurred" total.round2.toValue first.evidenceId
    if rest = [] then pure fs
    else pure (fs.set "note" (.str (incurredNote ((first :: rest).map (·.key)))))

omit [Floats F] [Text] in
/-- `fs.get(key) if isinstance(fs.get(key), dict) else {}` -/
def nodeOrEmpty (fs : Dict F) (key : String) : Dict F := (fs.dict? key).getD []

omit [Floats F] [Text] in
/-- The node the variance compares the estimate with, and the formula it names. -/
def spentNode (fs : Dict F) : Dict F × String :=
  let incurred := (incurredKeys.filterMap (availableFigure fs)).length
  let total := nodeOrEmpty fs "total_incurred"
  if 1 < incurred ∧ (total.get "status").eqStr "available" then
    (total, "estimate - total_incurred")
  else (nodeOrEmpty fs "actual_cost", "estimate - actual_cost")

omit [Text] in
/-- The variance is computed when the estimate and the spent figure are both available. -/
def varianceComputable (estimate spent : Dict F) : Bool :=
  (estimate.get "status").eqStr "available" && (spent.get "status").eqStr "available" &&
    (estimate.get "value").truthy && !(spent.get "value").isNull

omit [Text] in
/-- The derived variance: estimate against incurred cost. -/
def placeVariance (fs : Dict F) : Except Error (Dict F) := do
  let estimate := nodeOrEmpty fs "estimate"
  let (spent, formula) := spentNode fs
  let node := (fs.dict? "variance").getD emptyVariance
  if varianceComputable estimate spent then
    let spentAbs ← (spent.get "value").absNum
    let diff ← (← (estimate.get "value").toNum).sub spentAbs
    let eids := [estimate.get "evidence_id", spent.get "evidence_id"].filter (·.truthy)
    pure (fs.set "variance" (.dict ((((node.set "value" diff.round2.toValue).set "currency"
      (.str "AED")).set "formula" (.str formula)).set "evidence_ids" (.list eids))))
  else pure (fs.set "variance" (.dict node))

/-- `_enforce_financial_categories` on the snapshot. -/
def enforceCategoriesSnapshot (ctx : OdooContext F) (odoo : List (Evidence F))
    (ids : List String) (fs : Dict F) : Except Error (Dict F) := do
  placeVariance (← placeTotalIncurred (placeFigures ctx odoo ids fs))

/-- `_enforce_financial_categories` -/
def enforceFinancialCategories (report : Dict F) (ctx : OdooContext F)
    (odoo : List (Evidence F)) (ids : List String) : Except Error (Dict F) :=
  onSnapshot report (enforceCategoriesSnapshot ctx odoo ids)

end Passes

end DecisionCenter
