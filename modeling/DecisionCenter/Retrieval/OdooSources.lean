import DecisionCenter.Graph.State

/-!
# Odoo queries

The registry of the Odoo sources that are linked to a project
(`apps/edr/connectors/odoo_sources.py`) and the builders of the queries that node 8 and node 11
send (`apps/edr/connectors/odoo.py`). A domain is one leaf: a field path, `=`, and the id or the
name the mapping gives.

A source has its model, its fields, the path of its link and the scope of the link: the id of
the project, the analytic account, or the name or code of the project. The entries are written
in the order of the source, with the fields that a query or its evidence depends on; that none
of them uses a path which the repository forbids is checked over the whole registry
(`odooSources_allowed`).

The id that a mapping gives is a text, and `_resolve_link_value` turns it into a number: it is
stripped, and where all its characters are digits it goes through `int`. As `str.isdigit` admits
characters that `int` does not read, a superscript say, this may raise. The characters are those
of `Py.Digits`, and the builders return in `Except`.

`ReadableId` is the condition that the query of the project record can be built, and the last
section has, for each kind of query, what it is built from.
-/

namespace DecisionCenter

open Py

/-! ### The registry -/

/-- `OdooSource.link_scope`: the mapped id that scopes the rows to one project. -/
inductive LinkScope where
  | project
  | analytic
  deriving DecidableEq, Repr

/-- `OdooSource`, the fields a query or its evidence depends on. -/
structure OdooSource where
  key : String
  category : String
  model : String
  linkPath : String
  linkScope : LinkScope
  fields : List String
  confidence : Confidence
  limit : ℕ := 100
  /-- Retrieved by node 8 itself, and skipped by the extended loop. -/
  handledInline : Bool := false
  deriving DecidableEq, Repr

/-- `DENYLISTED_PATHS`: paths that return rows of other projects. -/
def denylistedPaths : List (String × String) :=
  [("purchase.order", "project_id_mr"), ("purchase.order.line", "order_id.project_id_mr"),
    ("stock.picking", "purchase_id.project_id_mr"), ("account.move", "project"),
    ("account.payment", "project"), ("sale.order", "project_ids"),
    ("fleet.vehicle", "project_id"), ("ir.attachment", "mpr_id.project_id"),
    ("hr.payslip.cost.allocation", "cost_center_id")]

/-- `ODOO_SOURCES` -/
def odooSources : List OdooSource :=
  [ { key := "project_identity", category := "project_identity",
      model := "project.project", linkPath := "id",
      linkScope := .project,
      fields := ["name", "project_code", "wo_ref_no", "wo_amount", "estimation_amount",
        "date_start", "date", "partner_id", "analytic_account_id", "project_status",
        "department_id", "user_id"],
      confidence := .high, handledInline := true },
    { key := "analytic_identity", category := "analytic_identity",
      model := "account.analytic.account", linkPath := "id",
      linkScope := .analytic,
      fields := ["name", "code", "project_ids", "balance", "debit", "credit", "partner_id",
        "currency_id"],
      confidence := .high },
    { key := "actual_cost", category := "actual_cost",
      model := "account.analytic.line", linkPath := "account_id",
      linkScope := .analytic,
      fields := ["name", "amount", "date", "account_id", "project_id", "move_id",
        "general_account_id", "partner_id", "employee_id", "product_id", "unit_amount",
        "currency_id", "ref"],
      confidence := .high, handledInline := true },
    { key := "account_move_lines", category := "account_move_lines",
      model := "account.move.line", linkPath := "analytic_account_id",
      linkScope := .analytic,
      fields := ["move_id", "date", "name", "ref", "partner_id", "account_id",
        "analytic_account_id", "product_id", "quantity", "price_subtotal", "price_total",
        "balance", "debit", "credit", "currency_id"],
      confidence := .high },
    { key := "vendor_bills", category := "vendor_bills",
      model := "account.move", linkPath := "line_ids.analytic_account_id",
      linkScope := .analytic,
      fields := ["name", "ref", "move_type", "invoice_date", "date", "state", "payment_state",
        "partner_id", "amount_total", "amount_residual", "currency_id"],
      confidence := .high },
    { key := "purchase_orders", category := "purchase_orders",
      model := "purchase.order", linkPath := "project_id",
      linkScope := .analytic,
      fields := ["name", "rfq_name", "po_name", "date_order", "date_approve", "date_planned",
        "state", "partner_id", "amount_untaxed", "amount_total", "currency_id", "invoice_count",
        "picking_count", "custom_requisition_id", "project_id"],
      confidence := .high },
    { key := "purchase_order_lines", category := "purchase_order_lines",
      model := "purchase.order.line", linkPath := "account_analytic_id",
      linkScope := .analytic,
      fields := ["order_id", "product_id", "product_qty", "product_uom", "price_unit",
        "price_subtotal", "price_total", "state", "qty_received", "qty_invoiced", "partner_id",
        "currency_id", "account_analytic_id"],
      confidence := .high },
    { key := "material_requests", category := "material_requests",
      model := "material.purchase.requisition", linkPath := "project_id",
      linkScope := .project,
      fields := ["name", "ref_no", "request_date", "date_end", "date_done", "state",
        "employee_id", "proposed_vendor_id", "project_id", "analytic_account_id", "task_id",
        "material_type_selection"],
      confidence := .high },
    { key := "material_request_lines", category := "material_request_lines",
      model := "material.purchase.requisition.line", linkPath := "requisition_id.project_id",
      linkScope := .project,
      fields := ["requisition_id", "product_id", "qty", "partner_id", "requisition_type",
        "product_qty_available", "is_picking_and_po_created"],
      confidence := .high },
    { key := "mr_analysis_links", category := "mr_analysis_links",
      model := "material.purchase.requisition.analysis", linkPath := "mr_id.project_id",
      linkScope := .project,
      fields := ["mr_id", "po_ids", "move_ids", "pdc_ids", "payment_ids", "attachment_ids"],
      confidence := .high },
    { key := "stock_pickings", category := "stock_pickings",
      model := "stock.picking", linkPath := "purchase_id.project_id",
      linkScope := .analytic,
      fields := ["name", "origin", "state", "date", "scheduled_date", "date_done", "partner_id",
        "custom_requisition_id", "purchase_id", "picking_type_code"],
      confidence := .high },
    { key := "stock_moves", category := "stock_moves",
      model := "stock.move", linkPath := "purchase_line_id.account_analytic_id",
      linkScope := .analytic,
      fields := ["product_id", "product_qty", "product_uom_qty", "quantity_done", "price_unit",
        "state", "date", "origin", "picking_id", "purchase_line_id", "location_id",
        "location_dest_id"],
      confidence := .high },
    { key := "hr_expenses", category := "hr_expenses",
      model := "hr.expense", linkPath := "project_id",
      linkScope := .project,
      fields := ["name", "date", "employee_id", "product_id", "unit_amount", "quantity",
        "total_amount", "state", "payment_mode", "project_id", "analytic_account_id",
        "x_expense_type", "x_petty_cash_type"],
      confidence := .high },
    { key := "payroll_headers", category := "payroll_headers",
      model := "hr.payslip", linkPath := "project_id",
      linkScope := .project,
      fields := ["number", "date_from", "date_to", "employee_id", "project_id", "state"],
      confidence := .high },
    { key := "payroll_lines", category := "payroll_lines",
      model := "hr.payslip.line", linkPath := "slip_id.project_id",
      linkScope := .project,
      fields := ["slip_id", "employee_id", "code", "category_id", "amount", "quantity", "total",
        "analytic_account_id"],
      confidence := .high },
    { key := "payroll_cost_allocation", category := "payroll_cost_allocation",
      model := "hr.payslip.cost.allocation", linkPath := "project_id",
      linkScope := .project,
      fields := ["project_id", "cost_center_id", "employee_id", "partner_id", "amount"],
      confidence := .high },
    { key := "payslip_inputs", category := "payslip_inputs",
      model := "hr.payslip.input", linkPath := "payslip_id.project_id",
      linkScope := .project,
      fields := ["payslip_id", "code", "name", "amount"],
      confidence := .high },
    { key := "worked_days", category := "worked_days",
      model := "hr.payslip.worked_days", linkPath := "payslip_id.project_id",
      linkScope := .project,
      fields := ["payslip_id", "code", "number_of_days", "number_of_hours", "amount"],
      confidence := .high },
    { key := "staff_employees", category := "staff_employees",
      model := "hr.employee", linkPath := "project_id",
      linkScope := .project,
      fields := ["name", "employee_number", "job_id", "department_id", "project_id",
        "project_id_store", "analytic_account_id"],
      confidence := .medium },
    { key := "staff_list", category := "staff_list",
      model := "staff.list", linkPath := "project_id",
      linkScope := .project,
      fields := ["project_id"],
      confidence := .medium },
    { key := "project_attachments", category := "project_attachments",
      model := "project.attachment", linkPath := "project_id",
      linkScope := .project,
      fields := ["project_id", "lead_attachment_type", "file_attachment", "attachment_display",
        "project_partner_id", "project_agreement_id", "project_wo_amount", "project_date_start",
        "project_date_end"],
      confidence := .high },
    { key := "po_rfq_attachments", category := "po_rfq_attachments",
      model := "ir.attachment", linkPath := "lead_id_po.project_id",
      linkScope := .analytic,
      fields := ["name", "res_model", "res_id", "lead_id_po", "datas_fname", "mimetype",
        "create_date", "write_date"],
      confidence := .high } ]

/-- No registered source uses a denylisted path. -/
theorem odooSources_allowed :
    ∀ s ∈ odooSources, (s.model, s.linkPath) ∉ denylistedPaths := by decide

/-- `active_sources` -/
def activeSources (includeMedium : Bool) : List OdooSource :=
  odooSources.filter fun s => !s.handledInline && (includeMedium || decide (s.confidence = .high))

/-! ### Queries -/

/-- The value of a domain leaf. -/
inductive DomainValue where
  | id (n : ℕ)
  | name (s : String)
  deriving DecidableEq, Repr

/-- The payload of a read: `domain` is `[[path, "=", value]]`. -/
structure OdooQuery where
  projectCode : Option String
  model : String
  path : String
  value : DomainValue
  fields : List String
  limit : Option ℕ := none
  allowedOdooIds : List String
  deriving DecidableEq, Repr

/-- `PROJECT_FIELDS` -/
def projectFields : List String :=
  ["name", "date_start", "date", "user_id", "partner_id", "wo_amount", "estimation_amount"]

/-- `COST_FIELDS` -/
def costFields : List String := ["name", "amount", "date"]

/-- `DEFAULT_COST_MODEL` -/
def defaultCostModel : String := "account.analytic.line"

section Queries

variable [Text]

/-- `int(raw)` where `str(raw).strip().isdigit()`; there are digits that `int` does not read. -/
def recordId (raw : Option String) : Except Raised (Option ℕ) :=
  match raw with
  | none => .ok none
  | some raw => if isNumeric raw then (pyInt raw).map some else .ok none

/-- The read of the project record, with the domain of `build_project_query`: by record id, else
by name. -/
def projectQuery (odoo : OdooConfig) (code : String) (allowedOdooIds : List String) :
    Except Raised OdooQuery :=
  (recordId odoo.projectExternalId).map fun id =>
    { projectCode := some code
      model := odoo.projectModel.getD "project.project"
      path := if id.isSome then "id" else "name"
      value := match id with
        | some n => .id n
        | none => .name ((odoo.projectName.filter (· ≠ "")).getD code)
      fields := projectFields
      allowedOdooIds := allowedOdooIds }

/-- The read of the cost lines, with the domain of `build_cost_query`; there is none without a
verified analytic account. -/
def costQuery (odoo : OdooConfig) (code : String) (allowedOdooIds : List String) :
    Except Raised (Option OdooQuery) :=
  (recordId odoo.analyticAccountId).map fun id => id.map fun n =>
    { projectCode := some code
      model := (odoo.costModel.filter (· ≠ "")).getD defaultCostModel
      path := "account_id"
      value := .id n
      fields := costFields
      limit := some 100
      allowedOdooIds := allowedOdooIds }

/-- The raw link value of the mapping. -/
def rawLinkValue (source : OdooSource) (odooConfig : OdooConfig) : Option String :=
  match source.linkScope with
  | .project => odooConfig.projectExternalId
  | .analytic => odooConfig.analyticAccountId

/-- `_resolve_link_value` -/
def resolveLinkValue (source : OdooSource) (odooConfig : OdooConfig) :
    Except Raised (Option ℕ) :=
  recordId (rawLinkValue source odooConfig)

/-- `assert_path_allowed` -/
def assertPathAllowed (model path : String) : Except Raised Unit :=
  if (model, path) ∈ denylistedPaths then
    .error ⟨"AmbiguousOdooPathError", "Refusing denylisted/ambiguous Odoo project link " ++ model ++
      "." ++ path ++ "; this path returned unrelated full-table rows in the audit."⟩
  else .ok ()

/-- The read of one registered source, with the domain of `build_source_query`; there is none
where the mapping lacks the id. -/
def buildSourceQuery (source : OdooSource) (odooConfig : OdooConfig) (projectCode : String)
    (allowedOdooIds : List String) : Except Raised (Option OdooQuery) := do
  assertPathAllowed source.model source.linkPath
  let value ← resolveLinkValue source odooConfig
  return value.map fun n =>
    { projectCode := some projectCode
      model := source.model
      path := source.linkPath
      value := .id n
      fields := source.fields
      limit := some source.limit
      allowedOdooIds := allowedOdooIds }

/-- The specs of `build_all_source_queries`: a source, and its query if the mapping can scope it. -/
abbrev SourceSpec : Type := OdooSource × Option OdooQuery

/-- `build_all_source_queries`, of the active sources. -/
def buildAllSourceQueries (odoo : OdooConfig) (code : String) (allowedOdooIds : List String) :
    List OdooSource → Except Raised (List SourceSpec)
  | [] => .ok []
  | s :: sources => do
    let query ← buildSourceQuery s odoo code allowedOdooIds
    let specs ← buildAllSourceQueries odoo code allowedOdooIds sources
    return (s, query) :: specs

/-! ### What the queries are built from -/

/-- The mapped id is no number, or one that `int` reads. -/
def ReadableId (raw : Option String) : Prop :=
  ∀ s, raw = some s → isNumeric s = true → IsInt (strip s)

/-- An id that is made of digits without being a number raises. -/
theorem recordId_raises_iff {raw : Option String} :
    (∃ e, recordId raw = .error e) ↔ ¬ ReadableId raw := by
  rw [ReadableId]
  cases raw with
  | none => simp [recordId]
  | some s =>
    by_cases hnum : isNumeric s = true
    · by_cases hint : IsInt (strip s) <;> simp [recordId, hnum, hint, pyInt, Except.map]
    · simp [recordId, hnum]

private theorem recordId_eq_ok_iff {raw : Option String} :
    (∃ id, recordId raw = .ok id) ↔ ReadableId raw := by
  rw [← not_iff_not, ← recordId_raises_iff]
  cases recordId raw <;> simp

variable {odoo : OdooConfig} {code : String} {ids : List String}

/-- The query of the project record can be built just for a readable id. -/
theorem projectQuery_eq_ok_iff :
    (∃ q, projectQuery odoo code ids = .ok q) ↔ ReadableId odoo.projectExternalId := by
  rw [← recordId_eq_ok_iff, projectQuery]
  cases recordId odoo.projectExternalId <;> simp [Except.map]

/-- The query of the cost lines can be built just for a readable account. -/
theorem costQuery_eq_ok_iff :
    (∃ q, costQuery odoo code ids = .ok q) ↔ ReadableId odoo.analyticAccountId := by
  rw [← recordId_eq_ok_iff, costQuery]
  cases recordId odoo.analyticAccountId <;> simp [Except.map]

/-- What the query of the project record is built from. -/
theorem projectQuery_eq_ok {q : OdooQuery} (h : projectQuery odoo code ids = .ok q) :
    ∃ id, recordId odoo.projectExternalId = .ok id ∧ q =
      { projectCode := some code
        model := odoo.projectModel.getD "project.project"
        path := if id.isSome then "id" else "name"
        value := match id with
          | some n => .id n
          | none => .name ((odoo.projectName.filter (· ≠ "")).getD code)
        fields := projectFields
        allowedOdooIds := ids } := by
  rw [projectQuery] at h
  cases hid : recordId odoo.projectExternalId with
  | error e => rw [hid] at h; cases h
  | ok id =>
    rw [hid] at h
    cases h
    exact ⟨id, rfl, rfl⟩

/-- What the query of the cost lines is built from. There is one only with an id that `int` reads.
-/
theorem costQuery_eq_some {q : OdooQuery} (h : costQuery odoo code ids = .ok (some q)) :
    ∃ n, recordId odoo.analyticAccountId = .ok (some n) ∧ q =
      { projectCode := some code
        model := (odoo.costModel.filter (· ≠ "")).getD defaultCostModel
        path := "account_id"
        value := .id n
        fields := costFields
        limit := some 100
        allowedOdooIds := ids } := by
  rw [costQuery] at h
  cases hid : recordId odoo.analyticAccountId with
  | error e => rw [hid] at h; cases h
  | ok id =>
    rw [hid] at h
    cases id with
    | none => cases h
    | some n =>
      cases h
      exact ⟨n, rfl, rfl⟩

/-- What the query of a registered source is built from: its path is not denied, and the mapping
links it by an id. -/
theorem buildSourceQuery_eq_some {source : OdooSource} {q : OdooQuery}
    (h : buildSourceQuery source odoo code ids = .ok (some q)) :
    (source.model, source.linkPath) ∉ denylistedPaths ∧
      ∃ n, resolveLinkValue source odoo = .ok (some n) ∧ q =
        { projectCode := some code
          model := source.model
          path := source.linkPath
          value := .id n
          fields := source.fields
          limit := some source.limit
          allowedOdooIds := ids } := by
  rw [buildSourceQuery, assertPathAllowed] at h
  by_cases hpath : (source.model, source.linkPath) ∈ denylistedPaths
  · rw [if_pos hpath] at h
    cases h
  · rw [if_neg hpath] at h
    cases hvalue : resolveLinkValue source odoo with
    | error e => rw [hvalue] at h; cases h
    | ok value =>
      rw [hvalue] at h
      cases value with
      | none => cases h
      | some n =>
        cases h
        exact ⟨hpath, n, rfl, rfl⟩

/-- Each spec is that of its source. They are all built before the first one is read. -/
theorem buildSourceQuery_of_mem {sources : List OdooSource} {specs : List SourceSpec}
    (h : buildAllSourceQueries odoo code ids sources = .ok specs) :
    ∀ spec ∈ specs, spec.1 ∈ sources ∧ buildSourceQuery spec.1 odoo code ids = .ok spec.2 := by
  induction sources generalizing specs with
  | nil =>
    cases h
    exact nofun
  | cons s sources ih =>
    rw [buildAllSourceQueries] at h
    cases hquery : buildSourceQuery s odoo code ids with
    | error e => rw [hquery] at h; cases h
    | ok query =>
      cases hrest : buildAllSourceQueries odoo code ids sources with
      | error e => rw [hquery, hrest] at h; cases h
      | ok rest =>
        rw [hquery, hrest] at h
        cases h
        intro spec hspec
        obtain rfl | hspec := List.mem_cons.mp hspec
        · exact ⟨List.mem_cons_self, hquery⟩
        · obtain ⟨hmem, hbuilt⟩ := ih hrest spec hspec
          exact ⟨List.mem_cons_of_mem s hmem, hbuilt⟩

end Queries

end DecisionCenter
