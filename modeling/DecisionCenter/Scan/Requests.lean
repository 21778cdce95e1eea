import DecisionCenter.Retrieval.OdooScope
import DecisionCenter.Scan.Failures
import DecisionCenter.Scan.Session

/-!
# What a scan asks of Odoo

The count of a source and the pages of its sample go through the same workflow as the reads of a
report. The workflow counts and searches the records under one and the same leaf, so that a
total is that of the records the pages are taken from; a page asks for the registered fields of
the source, from its own offset on.

A scan makes a request by a payload, and `Requests` says what the workflow calls for it: the
login, and then what serves the query of the source, whatever Odoo answers. `CountsSource` and
`ReadsSource` are the two kinds of calls, a count without a window and a search of a page from
its offset, with the model, the leaf and the fields of the source.

The work is done in `Retrieval.OdooRequests`, which describes the calls for any payload that
asks for an operation on a query. What remains here is that the payloads of a scan do: the count
and a page carry the query that the mapping gives, the offset of the page and a limit within the
bounds of the workflow.

`searchesSource_scan` has it for every source, mapping and page. Numbers that JavaScript does
not hold exactly are put aside by a condition on the id, the page size and the offset, and the
property says so.
-/

namespace DecisionCenter.Scan

open Async Py

section Requests

variable {F : Type} [JsonScript F]

/-- The call counts the linked records of the source. -/
def CountsSource (source : OdooSource) (n : ℕ) : RpcCall F → Prop
  | .searchCount _ model domain => model = source.model ∧ domain = leaf source.linkPath (.int n)
  | _ => False

/-- The call reads a page of the linked records of the source. -/
def ReadsSource (source : OdooSource) (n pageSize start : ℕ) : RpcCall F → Prop
  | .searchRead _ model domain fields limit offset =>
    model = source.model ∧ domain = leaf source.linkPath (.int n) ∧
      fields = source.fields.map .str ∧ limit = pageSize ∧ limit ≤ 100 ∧ offset = start
  | _ => False

variable (F) [Floats F] [Text]

/-- A request arrives, and for it the workflow logs the service user in and makes at most one call,
which satisfies `P`; the call is made where the credentials are set, Odoo accepts them and the
request is one that the workflow `admits`. -/
def Requests (env : OdooEnv) (payload : Dict F) (admits : Prop) (P : RpcCall F → Prop) : Prop :=
  received payload = some payload ∧ CallsAtMost env P (odooQueryCalls env payload) ∧
    ({ env with url := env.odooUrl }.configured = true → admits →
      CallsOnce env P (odooQueryCalls env payload))

/-- The requests of a scan arrive, and concern the records that the mapping links to the source. -/
structure SearchesSource (env : OdooEnv) (cfg : ScanConfig) (source : OdooSource)
    (odooConfig : OdooConfig) (query : OdooQuery) (n : ℕ) : Prop where
  linked : resolveLinkValue source odooConfig = .ok (some n)
  allowed : (source.model, source.linkPath) ∉ denylistedPaths
  count : Requests F env ((countPayload query).set "operation" (.str "count")) True
    (CountsSource source n)
  /-- The workflow takes pages of one to a hundred records. -/
  page : ∀ offset ≤ maxExact, Requests F env (readPayload query cfg.pageSize offset).toDict
    (1 ≤ cfg.pageSize ∧ cfg.pageSize ≤ 100) (ReadsSource source n cfg.pageSize offset)

variable {F} {source : OdooSource} {odooConfig : OdooConfig} {projectCode : String}
  {allowedOdooIds : List String} {query : OdooQuery}

omit [Floats F] [Text] in
private theorem odooSources_fields : ∀ s ∈ odooSources, s.fields ≠ [] := by decide

omit [JsonScript F] [Floats F] [Text] in
private theorem odooSources_models : ∀ s ∈ odooSources, s.model ≠ "" := by decide

omit [Text] in
/-- A payload that asks for an operation on a query makes the workflow request what serves it: it
arrives as sent, and is served at most once, or just once where it is admitted. -/
theorem requests_of_asks {env : OdooEnv} {operation : OdooOperation} {q : OdooQuery}
    {start : ℕ} {payload : Dict F} {admits : Prop} {P : RpcCall F → Prop} (hq : q.Exact)
    (h : Asks operation q start payload) (hmodel : Script.trim F q.model ≠ "")
    (hadmits : admits → operation = .count ∨ 1 ≤ q.limit.getD 100 ∧ q.limit.getD 100 ≤ 100)
    (hserves : ∀ c : RpcCall F, c.Serves operation q start → P c) :
    Requests F env payload admits P := by
  refine ⟨received_eq h.portable, ?_, fun henv hadmitted => ?_⟩
  · exact callsAtMost_odooQueryCalls fun request hrequest uid c hc =>
      hserves c (serves_furtherCalls hq h hrequest uid c hc)
  · obtain ⟨request, hrequest, hoperation⟩ := checkRequest_passes hq h hmodel henv
    refine callsOnce_odooQueryCalls hrequest fun uid => ?_
    have hall := serves_furtherCalls hq h hrequest uid
    obtain ⟨c, hc⟩ : ∃ c, furtherCalls payload request uid = [c] := by
      rw [furtherCalls, hoperation]
      cases operation with
      | count => exact ⟨_, rfl⟩
      | read =>
        obtain ⟨w, hw⟩ := readWindow_passes hq h ((hadmits hadmitted).resolve_left (by decide))
        rw [hw]
        exact ⟨_, rfl⟩
    rw [hc] at hall ⊢
    exact ⟨c, hserves c (hall c List.mem_cons_self), rfl⟩

/-- The requests of a scan concern the records of the source that the mapping links: the count and
each page are made once, under one and the same leaf, where Odoo lets the service user in. Which
pages there are depends on the answers, and this holds of each. -/
theorem searchesSource_scan (env : OdooEnv) {cfg : ScanConfig} (hs : source ∈ odooSources)
    (hquery : buildSourceQuery source odooConfig projectCode allowedOdooIds = .ok (some query))
    (hexact : ∀ n, resolveLinkValue source odooConfig = .ok (some n) → n ≤ maxExact)
    (hpage : cfg.pageSize ≤ maxExact) :
    ∃ n, SearchesSource F env cfg source odooConfig query n := by
  obtain ⟨hallowed, n, hlinked, rfl⟩ := buildSourceQuery_eq_some hquery
  have hmodel : Script.trim F source.model = source.model :=
    JsonScript.trim_eq source.model (odooSources_words source hs)
  have hnamed : Script.trim F source.model ≠ "" := by
    rw [hmodel]
    exact odooSources_models source hs
  have hvalue (m : ℕ) (hm : DomainValue.id n = .id m) : m ≤ maxExact := by
    cases hm
    exact hexact n hlinked
  refine ⟨n, hlinked, hallowed, ?_, fun offset hoffset => ?_⟩
  -- the count
  · have hq : ({ projectCode := some projectCode, model := source.model, path := source.linkPath
                 value := .id n, fields := ["id"], limit := some 1, allowedOdooIds } :
        OdooQuery).Exact := ⟨hvalue, fun m hm => by cases hm; decide⟩
    refine requests_of_asks hq ((asks_payload (F := F) hq).page (Nat.zero_le _)).count hnamed
      (fun _ => .inl rfl) fun c hc => ?_
    cases c with
    | authenticate database username apiKey => exact hc
    | searchCount uid model domain => exact ⟨hc.2.1.trans hmodel, hc.2.2⟩
    | searchRead uid model domain fields limit offset => exact absurd hc.1 (by decide)
  -- the pages
  · have hq : ({ projectCode := some projectCode, model := source.model, path := source.linkPath
                 value := .id n, fields := source.fields, limit := some cfg.pageSize
                 allowedOdooIds } : OdooQuery).Exact :=
      ⟨hvalue, fun m hm => by cases hm; exact hpage⟩
    refine requests_of_asks hq ((asks_payload (F := F) hq).page hoffset) hnamed
      (fun hadmitted => .inr hadmitted) fun c hc => ?_
    cases c with
    | authenticate database username apiKey => exact hc
    | searchCount uid model domain => exact absurd hc.1 (by decide)
    | searchRead uid model domain fields limit offset =>
      obtain ⟨-, hread, hdomain, hfields, ⟨hlimit, -, hmax⟩, hstart⟩ := hc
      refine ⟨hread.trans hmodel, hdomain, ?_, hlimit, hmax, hstart⟩
      rw [hfields]
      exact if_neg (odooSources_fields source hs)

end Requests

section Latin

open Py.Whole

local instance : JsonScript ℤ := wholeScript

/-- The material requests of a project. -/
def requestSource : OdooSource where
  key := "material_requests"
  category := "material_requests"
  model := "material.purchase.requisition"
  linkPath := "project_id"
  linkScope := .project
  fields := ["name", "ref_no", "request_date", "date_end", "date_done", "state", "employee_id",
    "proposed_vendor_id", "project_id", "analytic_account_id", "task_id",
    "material_type_selection"]
  confidence := .high

/-- The query of their scan. -/
def requestQuery : OdooQuery where
  projectCode := some "PRJ-003"
  model := "material.purchase.requisition"
  path := "project_id"
  value := .id 14602
  fields := requestSource.fields
  limit := some 100
  allowedOdooIds := ["14602"]

/-- A source of a project that is linked by two ids. -/
theorem searchesSource_requestQuery : ∃ n,
    SearchesSource ℤ ⟨"https://odoo", "live", "reader", "key"⟩ {} requestSource
      (linkConfig "14602" "21963") requestQuery n := by
  have hlinked : resolveLinkValue requestSource (linkConfig "14602" "21963") = .ok (some 14602) :=
    rfl
  have hquery : buildSourceQuery requestSource (linkConfig "14602" "21963") "PRJ-003" ["14602"] =
      .ok (some requestQuery) := rfl
  refine searchesSource_scan _ (by decide) hquery (fun n hn => ?_) (by decide)
  cases hlinked.symm.trans hn
  decide

end Latin

end DecisionCenter.Scan
