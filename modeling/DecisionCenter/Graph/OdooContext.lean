import DecisionCenter.Evidence
import Mathlib.Data.List.Sort

/-!
# Odoo financial extraction

The deterministic part of node 12 (`apps/edr/graph/node_12_draft_json.py`): the amounts, dates
and categories it reads off the Odoo items of the evidence pack. Amounts come from the
structured `f_*` metadata, else from the excerpt; only analytic and journal *line* rows count as
cost.

The values of the metadata are JSON of any kind. `coerceText` and `coerceNumber` are the
conversions of the source, with what it takes for empty, and the excerpt is searched with the
patterns of the source by the interpreter's engine. Both are kept as they are because the round
trip of the amounts depends on them.

Each loop of the source is a fold over the items with the variables of the loop as its state:
`CostScan` for the loop over the cost lines, with the total, the newest line and the categories
seen, and `CategorySum` for `_sum_odoo_category`, which adds the amounts of one category and
remembers the first item it can cite. Beside each stands what it computes:
`scanCostLines_totalAmount` and `sumOdooCategory_eq` replace the loops by sums over lists that
are filtered, and the proofs of the later modules use only these.

`extractOdooContext` collects the results under the keys of the dictionary that
`_extract_odoo_context` returns. Addition is that of the floats, of which nothing is assumed
here.
-/

namespace DecisionCenter

open Py

variable {F : Type} [Floats F] [Text]

/-! ### Scalars and excerpts -/

/-- `_coerce_number` of a string. -/
def coerceText (s : String) : Option F := Floats.ofStr (dropCommas (strip s))

/-- `_coerce_number` -/
def coerceNumber : MetaValue F → Option F
  | .scalar (.num x) => some x
  | .scalar (.str s) => coerceText s
  | _ => none

/-- `[p.strip() for p in excerpt.split(" / ")]` -/
def excerptParts (excerpt : String) : List String := (excerpt.splitOn " / ").map strip

/-- `_amount_from_excerpt` -/
def amountFromExcerpt (excerpt : String) : Option F :=
  if excerpt = "" then none
  else
    let found : Option F :=
      match Text.search "amount\\s*[:=]\\s*(-?[\\d,]+(?:\\.\\d+)?)" excerpt with
      | some (g :: _) => coerceText g
      | _ => none
    match found with
    | some x => some x
    | none => match excerptParts excerpt with
      | _ :: p :: _ => coerceText p
      | _ => none

/-- `_date_from_excerpt` -/
def dateFromExcerpt (excerpt : String) : String :=
  if excerpt = "" then ""
  else match Text.search "date\\s*[:=]\\s*(\\d{4}-\\d{2}-\\d{2}[^;]*)" excerpt with
    | some (g :: _) => strip g
    | _ => match excerptParts excerpt with
      | _ :: _ :: p :: _ => p
      | _ => ""

/-! ### Cost lines -/

/-- `_is_cost_line` -/
def isCostLine (ev : Evidence F) : Bool :=
  let uri := lower ev.sourceUri
  let model := lower ((ev.metaGet "model").elim "" fun v => v.toValue.toStr)
  let hay := uri ++ " " ++ model
  contains hay "analytic.line" || contains hay "account.move.line"

/-- `_cost_line_amount` -/
def costLineAmount (line : Evidence F) : Option F :=
  match (line.metaGet "f_amount").bind coerceNumber with
  | some x => some x
  | none => amountFromExcerpt line.excerpt

/-- `_cost_line_date` -/
def costLineDate (line : Evidence F) : String :=
  match line.metaStr "f_date" with
  | some d => if strip d ≠ "" then strip d else fromTimestamp
  | none => fromTimestamp
where
  fromTimestamp : String :=
    match line.timestamp with
    | some ts => if strip ts ≠ "" then strip ts else dateFromExcerpt line.excerpt
    | none => dateFromExcerpt line.excerpt

/-- `_cost_line_category` -/
def costLineCategory (line : Evidence F) : String :=
  match line.metaGet "f_general_account_id" with
  | some (.list (_ :: .str ga :: _)) => if strip ga ≠ "" then strip ga else fromName
  | _ => fromName
where
  fromName : String :=
    match line.metaStr "f_name" with
    | some name => if strip name ≠ "" then strip name else fromTitle
    | none => fromTitle
  fromTitle : String :=
    let title := strip line.title
    if title ≠ "" ∧ lower title ∉ ["odoo record", "odoo project record"] then title
    else if contains line.excerpt " / " then
      strip ((line.excerpt.splitOn " / ").headD "")
    else ""

/-- What the loop over the cost lines accumulates. -/
structure CostScan (F : Type) where
  categories : List String
  dates : List String
  totalAmount : F
  hasAmount : Bool
  bestEvidenceId : Option String
  bestDate : String

namespace CostScan

def init : CostScan F := ⟨[], [], Floats.zero, false, none, ""⟩

/-- The body of the loop over the cost lines. -/
def step (s : CostScan F) (line : Evidence F) : CostScan F :=
  let cat := costLineCategory line
  let date := costLineDate line
  let newer : Bool := decide (date ≠ "") && decide (s.bestDate < date)
  { categories := if cat ≠ "" ∧ cat ∉ s.categories then s.categories ++ [cat] else s.categories
    dates := if date ≠ "" then s.dates ++ [date] else s.dates
    totalAmount := match (costLineAmount line : Option F) with
      | some x => Floats.add s.totalAmount x
      | none => s.totalAmount
    hasAmount := s.hasAmount || (costLineAmount line : Option F).isSome
    bestEvidenceId := if newer then some line.evidenceId else s.bestEvidenceId
    bestDate := if newer then date else s.bestDate }

end CostScan

/-- The loop over the cost lines. -/
def scanCostLines (lines : List (Evidence F)) : CostScan F := lines.foldl CostScan.step .init

private theorem foldl_step_totalAmount (lines : List (Evidence F)) (s : CostScan F) :
    (lines.foldl CostScan.step s).totalAmount =
      (lines.filterMap costLineAmount).foldl Floats.add s.totalAmount := by
  induction lines generalizing s with
  | nil => rfl
  | cons line lines ih =>
    rw [List.foldl_cons, ih, List.filterMap_cons]
    cases h : (costLineAmount line : Option F) <;> simp [CostScan.step, h]

private theorem foldl_step_hasAmount (lines : List (Evidence F)) (s : CostScan F) :
    (lines.foldl CostScan.step s).hasAmount =
      (s.hasAmount || lines.any fun line => (costLineAmount line).isSome) := by
  induction lines generalizing s with
  | nil => simp
  | cons line lines ih => rw [List.foldl_cons, ih, List.any_cons, CostScan.step, Bool.or_assoc]

/-- The loop adds up the amounts of the lines that carry one. -/
theorem scanCostLines_totalAmount (lines : List (Evidence F)) :
    (scanCostLines lines).totalAmount = Num.floatSum (lines.filterMap costLineAmount) :=
  foldl_step_totalAmount lines .init

/-- The loop has found an amount just if a cost line carries one. -/
theorem scanCostLines_hasAmount {lines : List (Evidence F)} :
    (scanCostLines lines).hasAmount = true ↔ ∃ line ∈ lines, (costLineAmount line).isSome := by
  have h := foldl_step_hasAmount lines (.init : CostScan F)
  rw [scanCostLines, h, CostScan.init, Bool.false_or, List.any_eq_true]

/-! ### Project figures and category sums -/

/-- `_project_amount` for a single metadata key: the first record that carries a number. -/
def projectAmount (records : List (Evidence F)) (key : String) : Option (F × String) :=
  records.findSome? fun rec =>
    ((rec.metaGet key).bind coerceNumber).map fun x => (x, rec.evidenceId)

def payrollCategories : List String := ["payroll_cost_allocation"]
def payrollAmountFields : List String := ["f_amount", "f_total"]
def expenseCategories : List String := ["hr_expenses"]
def expenseAmountFields : List String := ["f_total_amount", "f_unit_amount"]
def committedCategories : List String := ["purchase_orders", "purchase_order_lines"]
def committedAmountFields : List String :=
  ["f_amount_total", "f_price_subtotal", "f_price_total", "f_amount_untaxed"]

/-- The amount one item contributes to a category sum: its category must match and the first
of the candidate fields that holds a number counts. -/
def categoryAmount (categories fields : List String) (ev : Evidence F) : Option F :=
  match ev.metaStr "odoo_category" with
  | some c => if c ∈ categories then
      fields.findSome? fun field => (ev.metaGet field).bind coerceNumber
    else none
  | none => none

/-- The state of the loop in `_sum_odoo_category`. -/
structure CategorySum (F : Type) where
  total : F
  found : Bool
  evidenceId : Option String

namespace CategorySum

def init : CategorySum F := ⟨Floats.zero, false, none⟩

/-- The loop body: `citable` is the test on the evidence id. -/
def step (categories fields : List String) (citable : String → Bool) (s : CategorySum F)
    (ev : Evidence F) : CategorySum F :=
  match categoryAmount categories fields ev with
  | none => s
  | some x =>
    { total := Floats.add s.total x
      found := true
      evidenceId := match s.evidenceId with
        | some e => some e
        | none => if ev.evidenceId ≠ "" ∧ citable ev.evidenceId then some ev.evidenceId else none }

end CategorySum

/-- `_sum_odoo_category`; `allowed` is its optional `evidence_ids` argument. -/
def sumOdooCategory (evidence : List (Evidence F)) (categories fields : List String)
    (allowed : Option (List String)) : Option (F × String) :=
  let s := evidence.foldl
    (CategorySum.step categories fields fun e => allowed.elim true fun S => decide (e ∈ S)) .init
  match s.evidenceId with
  | some e => if s.found then some (Floats.round2 s.total, e) else none
  | none => none

/-- The item whose id a category sum cites. -/
def citedItem (categories fields : List String) (citable : String → Bool)
    (evidence : List (Evidence F)) : Option (Evidence F) :=
  evidence.find? fun ev =>
    (categoryAmount categories fields ev).isSome && decide (ev.evidenceId ≠ "") &&
      citable ev.evidenceId

private theorem foldl_step_total (categories fields : List String) (citable : String → Bool)
    (evidence : List (Evidence F)) (s : CategorySum F) :
    (evidence.foldl (CategorySum.step categories fields citable) s).total =
      (evidence.filterMap (categoryAmount categories fields)).foldl Floats.add s.total := by
  induction evidence generalizing s with
  | nil => rfl
  | cons ev evidence ih =>
    rw [List.foldl_cons, ih, List.filterMap_cons]
    cases h : categoryAmount categories fields ev <;> simp [CategorySum.step, h]

private theorem foldl_step_found (categories fields : List String) (citable : String → Bool)
    (evidence : List (Evidence F)) (s : CategorySum F) :
    (evidence.foldl (CategorySum.step categories fields citable) s).found =
      (s.found || evidence.any fun ev => (categoryAmount categories fields ev).isSome) := by
  induction evidence generalizing s with
  | nil => simp
  | cons ev evidence ih =>
    rw [List.foldl_cons, ih, List.any_cons]
    cases h : categoryAmount categories fields ev <;> simp [CategorySum.step, h]

private theorem foldl_step_evidenceId (categories fields : List String)
    (citable : String → Bool) (evidence : List (Evidence F)) (s : CategorySum F) :
    (evidence.foldl (CategorySum.step categories fields citable) s).evidenceId =
      s.evidenceId.or ((citedItem categories fields citable evidence).map (·.evidenceId)) := by
  induction evidence generalizing s with
  | nil => simp [citedItem]
  | cons ev evidence ih =>
    rw [List.foldl_cons, ih]
    cases h : categoryAmount categories fields ev with
    | none => simp [CategorySum.step, citedItem, h]
    | some x =>
      cases hs : s.evidenceId with
      | some e => simp [CategorySum.step, h, hs]
      | none =>
        by_cases he : ev.evidenceId = ""
        · simp [CategorySum.step, citedItem, h, hs, he]
        · cases hc : citable ev.evidenceId <;> simp [CategorySum.step, citedItem, h, hs, he, hc]

/-- A category sum is the sum of the amounts in the category, cited by the first item with an
amount and an id that may be cited; without such an item there is no sum. -/
theorem sumOdooCategory_eq (evidence : List (Evidence F)) (categories fields : List String)
    (allowed : Option (List String)) :
    sumOdooCategory evidence categories fields allowed =
      (citedItem categories fields (fun e => allowed.elim true fun S => decide (e ∈ S))
        evidence).map fun ev =>
          (Floats.round2 (Num.floatSum (evidence.filterMap (categoryAmount categories fields))),
            ev.evidenceId) := by
  simp only [sumOdooCategory, foldl_step_evidenceId, foldl_step_found, foldl_step_total,
    CategorySum.init, Option.none_or, Bool.false_or]
  cases hc : citedItem categories fields (fun e => allowed.elim true fun S => decide (e ∈ S))
      evidence with
  | none => rfl
  | some ev =>
    have hmem := List.mem_of_find?_eq_some hc
    have hev := List.find?_some hc
    simp only [Bool.and_eq_true] at hev
    have hfound : (evidence.any fun ev => (categoryAmount categories fields ev).isSome) = true :=
      List.any_eq_true.mpr ⟨ev, hmem, hev.1.1⟩
    simp only [Option.map_some, hfound, if_true, Num.floatSum]

/-- What a category sum cites is the non-empty, allowed id of an item with an amount. -/
theorem citedItem_spec {categories fields : List String} {citable : String → Bool}
    {evidence : List (Evidence F)} {ev : Evidence F}
    (h : citedItem categories fields citable evidence = some ev) :
    ev ∈ evidence ∧ (categoryAmount categories fields ev).isSome ∧ ev.evidenceId ≠ "" ∧
      citable ev.evidenceId = true := by
  have hev := List.find?_some h
  simp only [Bool.and_eq_true, decide_eq_true_eq] at hev
  exact ⟨List.mem_of_find?_eq_some h, hev.1.1, hev.1.2, hev.2⟩

/-- Which ids may be cited matters for the ids of the evidence only. -/
theorem citedItem_congr {categories fields : List String} {citable citable' : String → Bool}
    {evidence : List (Evidence F)}
    (h : ∀ ev ∈ evidence, citable ev.evidenceId = citable' ev.evidenceId) :
    citedItem categories fields citable evidence =
      citedItem categories fields citable' evidence := by
  induction evidence with
  | nil => rfl
  | cons ev evidence ih =>
    have hhead := h ev (List.mem_cons_self ..)
    have htail := ih fun ev' hev' => h ev' (List.mem_cons_of_mem _ hev')
    simp only [citedItem] at htail
    simp only [citedItem, List.find?_cons, hhead, htail]

/-- The value of a category sum: it needs an item with an amount and an id. -/
theorem sumOdooCategory_value (evidence : List (Evidence F)) (categories fields : List String) :
    (sumOdooCategory evidence categories fields none).map Prod.fst =
      if ∃ ev ∈ evidence, (categoryAmount categories fields ev).isSome ∧ ev.evidenceId ≠ "" then
        some (Floats.round2
          (Num.floatSum (evidence.filterMap (categoryAmount categories fields))))
      else none := by
  rw [sumOdooCategory_eq]
  cases h : citedItem categories fields (fun _ => true) evidence with
  | some ev =>
    obtain ⟨hmem, hamt, hid, -⟩ := citedItem_spec h
    rw [if_pos ⟨ev, hmem, hamt, hid⟩]
    simp only [Option.elim, h, Option.map_some]
  | none =>
    simp only [Option.elim, h, Option.map_none]
    rw [if_neg]
    rintro ⟨ev, hmem, hamt, hid⟩
    have := List.find?_eq_none.mp h ev hmem
    simp [hamt, hid] at this

/-! ### The context -/

/-- The dictionary `_extract_odoo_context` returns. -/
structure OdooContext (F : Type) where
  projectRecords : List (Evidence F)
  costCount : ℕ
  categories : List String
  totalAmount : Option F
  hasAmount : Bool
  latestDate : Option String
  bestEvidenceId : Option String
  sampleLines : List (Evidence F)
  contractValue : Option (F × String)
  estimate : Option (F × String)
  payrollCost : Option (F × String)
  expenseCost : Option (F × String)
  totalIncurred : Option F
  totalIncurredEvidenceId : Option String
  incurredComponentCount : ℕ

/-- The cost lines of the Odoo items. -/
def costLines (odoo : List (Evidence F)) : List (Evidence F) := odoo.filter isCostLine

/-- The Odoo items that are not cost lines. -/
def projectRecords (odoo : List (Evidence F)) : List (Evidence F) :=
  odoo.filter fun ev => !isCostLine ev

/-- The evidence id cited for the actual cost: the newest dated line, else the first valued
line with an id. -/
def bestEvidenceId (lines : List (Evidence F)) : Option String :=
  let scan := scanCostLines lines
  match scan.bestEvidenceId with
  | some e => some e
  | none =>
    if scan.hasAmount then
      lines.findSome? fun line =>
        if (costLineAmount line : Option F).isSome ∧ line.evidenceId ≠ "" then
          some line.evidenceId
        else none
    else none

/-- `max(dates) if dates else None` -/
def latest : List String → Option String
  | [] => none
  | d :: ds => some (ds.foldl (fun m d => if m < d then d else m) d)

/-- `abs(amt) if amt is not None else None`, with the evidence id beside it. -/
def absAmount (p : Option (F × String)) : Option (F × String) :=
  p.map fun (x, e) => (Floats.abs x, e)

/-- `_extract_odoo_context` -/
def extractOdooContext (odoo : List (Evidence F)) : OdooContext F :=
  let lines := costLines odoo
  let records := projectRecords odoo
  let scan := scanCostLines lines
  let best := bestEvidenceId lines
  let payroll := absAmount (sumOdooCategory odoo payrollCategories payrollAmountFields none)
  let expense := absAmount (sumOdooCategory odoo expenseCategories expenseAmountFields none)
  let incurred : List (F × Option String) :=
    (if scan.hasAmount then [(Floats.abs (Floats.round2 scan.totalAmount), best)] else [])
      ++ (payroll.map fun (x, e) => (x, some e)).toList
      ++ (expense.map fun (x, e) => (x, some e)).toList
  { projectRecords := records
    costCount := lines.length
    categories := scan.categories.take 15
    totalAmount := if scan.hasAmount then some (Floats.round2 scan.totalAmount) else none
    hasAmount := scan.hasAmount
    latestDate := latest scan.dates
    bestEvidenceId := best
    sampleLines :=
      (lines.insertionSort fun a b => ¬ costLineDate a < costLineDate b).take 15
    contractValue := projectAmount records "f_wo_amount"
    estimate := projectAmount records "f_estimation_amount"
    payrollCost := payroll
    expenseCost := expense
    totalIncurred :=
      if incurred = [] then none
      else some (Floats.round2 (Num.floatSum (incurred.map (·.1))))
    totalIncurredEvidenceId := incurred.head?.bind (·.2)
    incurredComponentCount := incurred.length }

end DecisionCenter
