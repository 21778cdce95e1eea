import DecisionCenter.Async.Secrets
import DecisionCenter.Py.JsonText
import DecisionCenter.Retrieval.OdooFailures
import DecisionCenter.Retrieval.Workflow

/-!
# What reaches Odoo

A read of Odoo is a payload that the connector posts as a JSON text, with the domain and the
fields as JSON texts inside it; the node `Odoo Query` takes these apart and calls the JSON-RPC
interface. The domain of such a call is the one leaf that `build_project_query`,
`build_cost_query` or `build_source_query` made, whatever texts the mapping holds, as long as
its numbers are ones that JavaScript holds exactly. So whatever Odoo, the connectors and the
planner answer, the nodes 5 to 11 have Odoo log the service user in and search the records of
the mapped project, and nothing else.

Between Python and JavaScript stands JSON in both directions. `JsonScript` is the part of the
script engine that matters, with its parser as the dialect of the library; `Portable` are the
values that arrive as they were sent (`parse_dumps`), whose integers are at most `maxExact` in
size.

The calls of the workflow are a task over `RpcCall`, so that one can ask which calls are made,
and in which order, whatever is answered. `calls_odooQueryCalls` says that they are the login
and what the operation adds, and `run_odooQueryCalls` that the task computes what the node of
`Retrieval.OdooWorkflow` returns: the two descriptions of the node agree.

A payload `Asks` for an operation on a query, and what the workflow calls then `Serves` that
query: the same model, domain and fields, and a window within its bounds. The modules on the
scope of a report and of a scan instantiate this.
-/

namespace DecisionCenter

open Async Py

/-! ### JSON between Python and JavaScript -/

/-- The largest number below which JavaScript holds every integer. -/
def maxExact : ℕ := 2 ^ 53

/-- The number is one that JavaScript holds exactly. -/
def Exact (i : ℤ) : Prop := i.natAbs ≤ maxExact

instance (i : ℤ) : Decidable (Exact i) := inferInstanceAs (Decidable (_ ≤ _))

/-- A script engine that reads JSON, and a connector that writes it. -/
class JsonScript (F : Type) extends Script F where
  /-- `float.__repr__` -/
  floatText : F → List Char
  /-- The number that JavaScript makes of an integer. -/
  rounded : ℤ → Value F
  /-- The number that JavaScript makes of another one. -/
  number : List Char → Option (Value F)
  parse_eq : ∀ s, toScript.parse s = JsonText.loads ⟨rounded, number, []⟩ s
  dumps_eq : ∀ v, toScript.dumps v = JsonText.dumps (.plain floatText) v
  rounded_exact : ∀ i, Exact i → rounded i = .int i
  /-- A text without a blank is trimmed already. -/
  trim_eq : ∀ s, (∀ c ∈ s.toList, c.isAlphanum = true ∨ c = '.' ∨ c = '_') → toScript.trim s = s
  integer_exact : ∀ i, Exact i → toScript.integer (.int i) = some i

section Json

variable {F : Type}

/-- What is posted arrives: it holds no float, its integers are exact and its keys differ. -/
inductive Portable : Value F → Prop
  | null : Portable .null
  | int {i : ℤ} (h : Exact i) : Portable (.int i)
  | str (s : String) : Portable (.str s)
  | list {xs : List (Value F)} (h : ∀ x ∈ xs, Portable x) : Portable (.list xs)
  | dict {items : List (String × Value F)} (hkeys : (items.map Prod.fst).Nodup)
      (h : ∀ kv ∈ items, Portable kv.2) : Portable (.dict items)

variable [JsonScript F]

private theorem Portable.readable {v : Value F} (h : Portable v) :
    JsonText.Readable (.plain JsonScript.floatText)
      ⟨JsonScript.rounded, JsonScript.number, []⟩ v := by
  induction h with
  | null => exact .null
  | int h => exact .int (JsonScript.rounded_exact _ h)
  | str s => exact .str s
  | list _ ih => exact .list ih
  | dict hkeys _ ih => exact .dict hkeys ih

/-- `JSON.parse` gives back what `json.dumps` wrote. -/
theorem parse_dumps {v : Value F} (h : Portable v) : Script.parse (Script.dumps v) = some v := by
  rw [JsonScript.parse_eq, JsonScript.dumps_eq]
  exact JsonText.loads_dumps h.readable

/-- The body that the workflow is sent. -/
def received (payload : Dict F) : Option (Dict F) :=
  (Script.parse (Script.dumps (.dict payload))).bind Value.asDict?

/-- A portable payload arrives as it was sent. -/
theorem received_eq {payload : Dict F} (h : Portable (.dict payload)) :
    received payload = some payload := by
  rw [received, parse_dumps h]
  rfl

private theorem parseJsonArray_dumps {xs : List (Value F)} (h : ∀ x ∈ xs, Portable x)
    (fieldName : String) :
    parseJsonArray (.str (Script.dumps (.list xs))) fieldName = .ok xs := by
  rw [parseJsonArray, parse_dumps (.list h)]

end Json

/-! ### The calls of the workflow -/

section Calls

variable {F : Type}

/-- A call of the JSON-RPC interface. -/
inductive RpcCall (F : Type) where
  | authenticate (database username apiKey : String)
  | searchCount (uid : Value F) (model : String) (domain : List (Value F))
  | searchRead (uid : Value F) (model : String) (domain fields : List (Value F))
      (limit offset : ℤ)

/-- What Odoo answers to a call. -/
def RpcCall.Result : RpcCall F → Type
  | .authenticate _ _ _ => RpcAnswer F (Value F)
  | .searchCount _ _ _ => RpcAnswer F (Value F)
  | .searchRead _ _ _ _ _ _ => RpcAnswer F (List (Dict F))

/-- The answers to one request. -/
def OdooAnswers.answer (answers : OdooAnswers F) : (c : RpcCall F) → Unit → c.Result × Unit
  | .authenticate _ _ _, _ => (answers.authenticate, ())
  | .searchCount _ _ _, _ => (answers.searchCount, ())
  | .searchRead _ _ _ _ _ _, _ => (answers.searchRead, ())

/-- `Array.isArray(execResp.result) ? execResp.result : []` -/
def RpcAnswer.records : RpcAnswer F (List (Dict F)) → List (Dict F)
  | .result records => records
  | .error _ => []

variable [Floats F] [Script F]

/-- What a read asks for. -/
structure OdooWindow (F : Type) where
  fields : List (Value F)
  limit : ℤ
  offset : ℤ

/-- `requestedLimit` -/
def requestedLimit (raw : Dict F) : Except Thrown ℤ :=
  match Script.integer (jsCoalesce (raw.get? "limit") (.int 100)) with
  | none => .error (.invalid "limit must be an integer between 1 and 100")
  | some limit =>
    if limit < 1 ∨ 100 < limit then .error (.invalid "limit must be an integer between 1 and 100")
    else .ok limit

/-- `offset` -/
def requestedOffset (raw : Dict F) : Except Thrown ℤ :=
  match Script.integer (jsCoalesce (raw.get? "offset") (.int 0)) with
  | none => .error (.invalid "offset must be a non-negative integer")
  | some offset =>
    if offset < 0 then .error (.invalid "offset must be a non-negative integer") else .ok offset

/-- What a read asks for, after the login. -/
def readWindow (raw : Dict F) : Except Thrown (OdooWindow F) := do
  let fields ← parseJsonArray (raw.get "fields") "fields"
  let limit ← requestedLimit raw
  let offset ← requestedOffset raw
  return { fields := if fields = [] then [.str "name", .str "id"] else fields, limit, offset }

/-- What a count returns. -/
def countAnswer : RpcAnswer F (Value F) → Except Thrown (OdooBody F)
  | .error e => .error (.error ("Odoo search_count failed: " ++ Script.stringify (.dict e)))
  | .result total => .ok (.count (countTotal total))

/-- The call of a request, after the login. -/
def objectCall (env : OdooEnv) (raw : Dict F) (request : OdooRequest F) (uid : Value F) :
    Task (RpcCall F) RpcCall.Result (Except Thrown (OdooBody F)) :=
  match request.operation with
  | .count => .op (.searchCount uid request.model request.domain) fun answer =>
    .ret (countAnswer answer)
  | .read => match readWindow raw with
    | .error e => .ret (.error e)
    | .ok w => .op (.searchRead uid request.model request.domain w.fields w.limit w.offset)
      fun answer => .ret (.ok (.evidence
        ((RpcAnswer.records answer).mapIdx (odooItem env.odooUrl request))))

/-- The node `Odoo Query`, call by call. -/
def odooQueryCalls (env : OdooEnv) (raw : Dict F) :
    Task (RpcCall F) RpcCall.Result (Except Thrown (OdooBody F)) :=
  match checkRequest env raw with
  | .error e => .ret (.error e)
  | .ok request =>
    .op (.authenticate env.database env.username env.apiKey) fun login =>
      match authenticate login with
      | .error e => .ret (.error e)
      | .ok uid => objectCall env raw request uid

/-- The calls of a request, after the login. -/
def furtherCalls (raw : Dict F) (request : OdooRequest F) (uid : Value F) : List (RpcCall F) :=
  match request.operation with
  | .count => [.searchCount uid request.model request.domain]
  | .read => match readWindow raw with
    | .error _ => []
    | .ok w => [.searchRead uid request.model request.domain w.fields w.limit w.offset]

/-- The login of the service user. -/
def OdooEnv.login (env : OdooEnv) : RpcCall F :=
  .authenticate env.database env.username env.apiKey

/-- Whatever is answered, the calls are at most the login of the service user and, after it, one
that satisfies `P`. -/
def CallsAtMost {R : Type} (env : OdooEnv) (P : RpcCall F → Prop)
    (t : Task (RpcCall F) RpcCall.Result R) : Prop :=
  ∀ (S : Type) (act : (c : RpcCall F) → S → c.Result × S) (s : S), ∃ further : List (RpcCall F),
    (t.steps act s).map Prod.fst <+: env.login :: further ∧ further.length ≤ 1 ∧
      ∀ c ∈ further, P c

/-- Where Odoo lets the service user in, the calls are the login and one that satisfies `P`. -/
def CallsOnce {R : Type} (env : OdooEnv) (P : RpcCall F → Prop)
    (t : Task (RpcCall F) RpcCall.Result R) : Prop :=
  ∀ (S : Type) (act : (c : RpcCall F) → S → c.Result × S) (s : S) (uid : Value F),
    authenticate (act env.login s).1 = .ok uid →
      ∃ c, P c ∧ (t.steps act s).map Prod.fst = [env.login, c]

private theorem calls_objectCall (env : OdooEnv) (raw : Dict F) (request : OdooRequest F)
    (uid : Value F) {S : Type} (act : (c : RpcCall F) → S → c.Result × S) (s : S) :
    ((objectCall env raw request uid).steps act s).map Prod.fst =
      furtherCalls raw request uid := by
  rw [objectCall, furtherCalls]
  cases request.operation with
  | count => rfl
  | read => cases readWindow raw <;> rfl

omit [Floats F] in
private theorem length_furtherCalls (raw : Dict F) (request : OdooRequest F) (uid : Value F) :
    (furtherCalls raw request uid).length ≤ 1 := by
  rw [furtherCalls]
  split
  · exact le_rfl
  · split <;> simp

/-- The calls of a request that passes the checks, which its answers decide on by the login only. -/
theorem calls_odooQueryCalls {env : OdooEnv} {raw : Dict F} {request : OdooRequest F}
    (h : checkRequest env raw = .ok request) {S : Type}
    (act : (c : RpcCall F) → S → c.Result × S) (s : S) :
    ((odooQueryCalls env raw).steps act s).map Prod.fst =
      env.login :: ((authenticate (act env.login s).1).toOption.map
        (furtherCalls raw request)).getD [] := by
  rw [odooQueryCalls, h]
  refine congrArg (env.login :: ·) ?_
  change List.map Prod.fst (Task.steps act (match authenticate (act env.login s).1 with
    | .error e => .ret (.error e)
    | .ok uid => objectCall env raw request uid) _) = _
  cases authenticate (act env.login s).1 with
  | error e => rfl
  | ok uid => exact calls_objectCall env raw request uid act _

/-- Besides the login the workflow makes at most one call, one of those that the payload leads to.
-/
theorem callsAtMost_odooQueryCalls {env : OdooEnv} {raw : Dict F} {P : RpcCall F → Prop}
    (h : ∀ request, checkRequest env raw = .ok request → ∀ uid,
      ∀ c ∈ furtherCalls raw request uid, P c) : CallsAtMost env P (odooQueryCalls env raw) := by
  intro S act s
  cases hrequest : checkRequest env raw with
  | error e =>
    refine ⟨[], ?_, Nat.zero_le 1, nofun⟩
    rw [odooQueryCalls, hrequest]
    exact List.nil_prefix
  | ok request =>
    rw [calls_odooQueryCalls hrequest act s]
    refine ⟨_, List.prefix_rfl, ?_⟩
    cases (authenticate (act env.login s).1).toOption with
    | none => exact ⟨Nat.zero_le 1, nofun⟩
    | some uid => exact ⟨length_furtherCalls raw request uid, h request hrequest uid⟩

/-- A request that passes the checks and has one further call leads to this call, once, where the
login succeeds. -/
theorem callsOnce_odooQueryCalls {env : OdooEnv} {raw : Dict F} {P : RpcCall F → Prop}
    {request : OdooRequest F} (hrequest : checkRequest env raw = .ok request)
    (h : ∀ uid, ∃ c, P c ∧ furtherCalls raw request uid = [c]) :
    CallsOnce env P (odooQueryCalls env raw) := by
  intro S act s uid huid
  obtain ⟨c, hc, hcalls⟩ := h uid
  refine ⟨c, hc, ?_⟩
  rw [calls_odooQueryCalls hrequest act s, huid]
  exact congrArg (env.login :: ·) hcalls

omit [Floats F] in
/-- The checks behind the login are those of reading the window. -/
private theorem checkWindow_eq (raw : Dict F) :
    checkWindow raw = (readWindow raw).map fun _ => () := by
  rw [checkWindow, readWindow]
  cases parseJsonArray (raw.get "fields") "fields" with
  | error e => rfl
  | ok fields =>
    simp only [requestedLimit, requestedOffset, bind, Except.bind]
    generalize Script.integer (jsCoalesce (raw.get? "limit") (.int 100)) = limit?
    generalize Script.integer (jsCoalesce (raw.get? "offset") (.int 0)) = offset?
    cases limit? with
    | none => rfl
    | some limit =>
      by_cases hlimit : limit < 1 ∨ 100 < limit
      · simp only [if_pos hlimit]
        rfl
      · simp only [if_neg hlimit]
        cases offset? with
        | none => rfl
        | some offset => by_cases hoffset : offset < 0 <;> simp [hoffset] <;> rfl

private theorem run_objectCall_count {request : OdooRequest F} (h : request.operation = .count)
    (env : OdooEnv) (raw : Dict F) (uid : Value F) (answers : OdooAnswers F) :
    ((objectCall env raw request uid).run answers.answer ()).1 =
      countAnswer answers.searchCount := by
  rw [objectCall, h]
  rfl

private theorem run_objectCall_read {request : OdooRequest F} (h : request.operation = .read)
    (env : OdooEnv) (raw : Dict F) (uid : Value F) (answers : OdooAnswers F) :
    ((objectCall env raw request uid).run answers.answer ()).1 = (checkWindow raw).bind fun _ =>
      .ok (.evidence (answers.records.mapIdx (odooItem env.odooUrl request))) := by
  rw [objectCall, h, checkWindow_eq]
  cases readWindow raw <;> rfl

/-- The calls, answered one by one, come to what the node returns. The node asks for the second call
only where the first has logged in. -/
theorem run_odooQueryCalls (env : OdooEnv) (raw : Dict F) (answers : OdooAnswers F) :
    ((odooQueryCalls env raw).run answers.answer ()).1 = odooQueryNode env raw answers := by
  rw [odooQueryCalls, odooQueryNode]
  cases checkRequest env raw with
  | error e => rfl
  | ok request =>
    rw [Task.run_op]
    simp only [bind, Except.bind, OdooAnswers.answer]
    cases authenticate answers.authenticate with
    | error e => rfl
    | ok uid =>
      dsimp only
      cases h : request.operation with
      | count =>
        rw [run_objectCall_count h]
        cases answers.searchCount <;> rfl
      | read =>
        rw [run_objectCall_read h]
        rfl

end Calls

/-! ### The calls of a query -/

section Queries

variable {F : Type}

/-- The domain of a query. -/
def OdooQuery.domain (q : OdooQuery) : List (Value F) :=
  [.list [.str q.path, .str "=", q.value.toValue]]

/-- The fields that a query has the workflow ask for. -/
def OdooQuery.fieldList (q : OdooQuery) : List (Value F) :=
  if q.fields = [] then [.str "name", .str "id"] else q.fields.map .str

/-- The numbers of a query are exact in JavaScript. -/
def OdooQuery.Exact (q : OdooQuery) : Prop :=
  (∀ n, q.value = .id n → n ≤ maxExact) ∧ ∀ n, q.limit = some n → n ≤ maxExact

/-- The payload asks for an operation on a query, from an offset on. -/
structure Asks [Script F] (operation : OdooOperation) (q : OdooQuery) (offset : ℕ)
    (payload : Dict F) : Prop where
  portable : Portable (.dict payload)
  exact : offset ≤ maxExact
  operation : operationOf payload = .ok operation
  limit : payload.get? "limit" = q.limit.map fun n => .int n
  offset : jsCoalesce (payload.get? "offset") (.int 0) = .int offset
  model : payload.get? "model" = some (.str q.model)
  domain : payload.get? "domain" = some (.str (Script.dumps (.list q.domain : Value F)))
  fields : payload.get? "fields" = some (.str (Script.dumps (.list (q.fields.map .str) : Value F)))

private theorem portable_domain {q : OdooQuery} (h : q.Exact) :
    ∀ x ∈ q.domain (F := F), Portable x := by
  intro x hx
  rw [List.mem_singleton.mp hx]
  have hvalue : Portable (q.value.toValue : Value F) := by
    cases hv : q.value with
    | id n => exact .int (h.1 n hv)
    | name s => exact .str s
  refine .list fun y hy => ?_
  simp only [List.mem_cons, List.not_mem_nil, or_false] at hy
  rcases hy with rfl | rfl | rfl
  · exact .str _
  · exact .str _
  · exact hvalue

/-- Texts are portable. -/
theorem portable_texts (texts : List String) :
    ∀ x ∈ texts.map (Value.str (F := F)), Portable x := by
  intro x hx
  obtain ⟨s, -, rfl⟩ := List.mem_map.mp hx
  exact .str s

/-- What an update leaves: the keys, with the new one at their end if it was not there. -/
theorem mem_set {d : Dict F} {key : String} {v : Value F} {kv : String × Value F}
    (h : kv ∈ d.set key v) : kv = (key, v) ∨ kv ∈ d := by
  induction d with
  | nil => exact .inl (List.mem_singleton.mp h)
  | cons entry d ih =>
    rw [Dict.set] at h
    split at h
    · next hentry =>
      rw [← hentry]
      exact (List.mem_cons.mp h).imp_right (List.mem_cons_of_mem _)
    · obtain rfl | h := List.mem_cons.mp h
      · exact .inr List.mem_cons_self
      · exact (ih h).imp_right (List.mem_cons_of_mem _)

private theorem nodup_set {d : Dict F} (h : (d.map Prod.fst).Nodup) (key : String) (v : Value F) :
    ((d.set key v).map Prod.fst).Nodup := by
  induction d with
  | nil => exact List.nodup_singleton key
  | cons entry d ih =>
    obtain ⟨hentry, hd⟩ := List.nodup_cons.mp h
    rw [Dict.set]
    split
    · exact h
    · next hne =>
      refine List.nodup_cons.mpr ⟨fun hmem => ?_, ih hd⟩
      obtain ⟨kv, hkv, hkey⟩ := List.mem_map.mp hmem
      obtain rfl | hkv := mem_set hkv
      · exact hne hkey.symm
      · exact hentry (List.mem_map.mpr ⟨kv, hkv, hkey⟩)

/-- A portable payload stays so with one more portable entry. -/
theorem Portable.set {payload : Dict F} (h : Portable (.dict payload)) (key : String)
    {v : Value F} (hv : Portable v) : Portable (.dict (payload.set key v)) := by
  cases h with
  | dict hkeys h =>
    refine .dict (nodup_set hkeys key v) fun kv hkv => ?_
    obtain rfl | hkv := mem_set hkv
    · exact hv
    · exact h kv hkv

/-- The payload of a read is portable. It is a record of texts and numbers, and its numbers are
exact by assumption. -/
theorem portable_payload [Script F] {q : OdooQuery} (h : q.Exact) :
    Portable (.dict (q.payload : Dict F)) := by
  have hlimit : ∀ kv ∈ q.limit.toList.map (fun n : ℕ => (("limit", .int n) : String × Value F)),
      Portable kv.2 := by
    intro kv hkv
    obtain ⟨n, hn, rfl⟩ := List.mem_map.mp hkv
    exact .int (h.2 n (Option.mem_toList.mp hn))
  refine .dict ?_ fun kv hkv => ?_
  · rw [OdooQuery.payload]
    cases q.limit <;> simp
  · simp only [OdooQuery.payload, List.mem_append, List.mem_cons, List.not_mem_nil, or_false] at hkv
    rcases hkv with ((rfl | rfl | rfl | rfl) | hkv) | rfl
    · cases q.projectCode with
      | none => exact .null
      | some code => exact .str code
    · exact .str _
    · exact .str _
    · exact .str _
    · exact hlimit kv hkv
    · exact .list (portable_texts _)

section Asks

variable [Script F]

/-- The payload of a read asks for a read of its query, from the beginning. -/
theorem asks_payload {q : OdooQuery} (h : q.Exact) :
    Asks .read q 0 (q.payload : Dict F) where
  portable := portable_payload h
  exact := Nat.zero_le _
  operation := by
    rw [operationOf, OdooQuery.payload]
    cases q.limit <;> rfl
  limit := by
    rw [OdooQuery.payload]
    cases q.limit <;> rfl
  offset := by
    rw [OdooQuery.payload]
    cases q.limit <;> rfl
  model := rfl
  domain := rfl
  fields := rfl

/-- A page of a read. -/
theorem Asks.page {operation : OdooOperation} {q : OdooQuery} {offset : ℕ} {payload : Dict F}
    (h : Asks operation q offset payload) {offset' : ℕ} (hexact : offset' ≤ maxExact) :
    Asks operation q offset' (payload.set "offset" (.int offset')) where
  portable := h.portable.set "offset" (.int hexact)
  exact := hexact
  operation := by
    rw [← h.operation, operationOf, operationOf, Dict.get?_set_ne _ _ (by decide)]
  limit := by rw [Dict.get?_set_ne _ _ (by decide), h.limit]
  offset := by
    rw [Dict.get?_set_self]
    rfl
  model := by rw [Dict.get?_set_ne _ _ (by decide), h.model]
  domain := by rw [Dict.get?_set_ne _ _ (by decide), h.domain]
  fields := by rw [Dict.get?_set_ne _ _ (by decide), h.fields]

/-- The count of what a read asks for. -/
theorem Asks.count {operation : OdooOperation} {q : OdooQuery} {offset : ℕ} {payload : Dict F}
    (h : Asks operation q offset payload) :
    Asks .count q offset (payload.set "operation" (.str "count")) where
  portable := h.portable.set "operation" (.str "count")
  exact := h.exact
  operation := by
    rw [operationOf, Dict.get?_set_self]
    simp only [Option.filter_some, Value.isNull, Bool.not_false, if_true, jsText,
      Script.toLowerCase_trim_count]
    rfl
  limit := by rw [Dict.get?_set_ne _ _ (by decide), h.limit]
  offset := by rw [Dict.get?_set_ne _ _ (by decide), h.offset]
  model := by rw [Dict.get?_set_ne _ _ (by decide), h.model]
  domain := by rw [Dict.get?_set_ne _ _ (by decide), h.domain]
  fields := by rw [Dict.get?_set_ne _ _ (by decide), h.fields]

end Asks

/-- The call is the operation on the records of a query. -/
def RpcCall.Serves [Script F] (operation : OdooOperation) (q : OdooQuery) (start : ℕ) :
    RpcCall F → Prop
  | .authenticate _ _ _ => False
  | .searchCount _ model domain =>
    operation = .count ∧ model = Script.trim F q.model ∧ domain = q.domain
  | .searchRead _ model domain fields limit offset =>
    operation = .read ∧ model = Script.trim F q.model ∧ domain = q.domain ∧ fields = q.fieldList ∧
      (limit = q.limit.getD 100 ∧ 1 ≤ limit ∧ limit ≤ 100) ∧ offset = start

variable [JsonScript F] {env : OdooEnv} {operation : OdooOperation} {q : OdooQuery}
  {start : ℕ} {payload : Dict F}

private theorem checkRequest_asks [Floats F] (hq : q.Exact) (h : Asks operation q start payload)
    {request : OdooRequest F} (hrequest : checkRequest env payload = .ok request) :
    request.model = Script.trim F q.model ∧ request.domain = q.domain := by
  obtain ⟨model, hmodel, hrequest⟩ := bind_eq_ok.mp hrequest
  rw [modelOf, h.model] at hmodel
  rw [h.domain] at hrequest
  obtain ⟨operation, -, hrequest⟩ := bind_eq_ok.mp hrequest
  split_ifs at hrequest
  obtain ⟨domain, hdomain, hrequest⟩ := bind_eq_ok.mp hrequest
  rw [parseJsonArray_dumps (portable_domain hq)] at hdomain
  dsimp only at hmodel
  split_ifs at hmodel
  cases hmodel
  cases hdomain
  cases hrequest
  exact ⟨rfl, rfl⟩

private theorem integer_limit (hq : q.Exact) (h : Asks operation q start payload) :
    Script.integer (jsCoalesce (payload.get? "limit") (.int 100) : Value F) =
      some ((q.limit.getD 100 : ℕ) : ℤ) := by
  rw [h.limit]
  cases hlimit : q.limit with
  | none => exact JsonScript.integer_exact 100 (by decide)
  | some n => exact JsonScript.integer_exact n (hq.2 n hlimit)

private theorem requestedLimit_asks (hq : q.Exact) (h : Asks operation q start payload) {limit : ℤ}
    (hlimit : requestedLimit payload = .ok limit) :
    limit = q.limit.getD 100 ∧ 1 ≤ limit ∧ limit ≤ 100 := by
  rw [requestedLimit, integer_limit hq h] at hlimit
  dsimp only at hlimit
  split_ifs at hlimit
  cases hlimit
  omega

private theorem requestedOffset_asks (h : Asks operation q start payload) {offset : ℤ}
    (hoffset : requestedOffset payload = .ok offset) : offset = start := by
  have hinteger : Script.integer (.int start : Value F) = some (start : ℤ) :=
    JsonScript.integer_exact _ h.exact
  rw [requestedOffset, h.offset, hinteger] at hoffset
  dsimp only at hoffset
  split_ifs at hoffset
  exact (Except.ok.inj hoffset).symm

private theorem readWindow_asks (hq : q.Exact) (h : Asks operation q start payload)
    {w : OdooWindow F} (hw : readWindow payload = .ok w) :
    w.fields = q.fieldList ∧ (w.limit = q.limit.getD 100 ∧ 1 ≤ w.limit ∧ w.limit ≤ 100) ∧
      w.offset = start := by
  obtain ⟨fields, hfields, hw⟩ := bind_eq_ok.mp hw
  obtain ⟨limit, hlimit, hw⟩ := bind_eq_ok.mp hw
  obtain ⟨offset, hoffset, hw⟩ := bind_eq_ok.mp hw
  cases hw
  rw [Dict.get, Dict.getD, h.fields, Option.getD_some,
    parseJsonArray_dumps (portable_texts q.fields)] at hfields
  cases hfields
  refine ⟨?_, requestedLimit_asks hq h hlimit, requestedOffset_asks h hoffset⟩
  simp [OdooQuery.fieldList]

/-- Whatever Odoo answers, what the workflow calls after the login serves the query that the
payload carries. -/
theorem serves_furtherCalls [Floats F] (hq : q.Exact) (h : Asks operation q start payload)
    {request : OdooRequest F} (hrequest : checkRequest env payload = .ok request) (uid : Value F) :
    ∀ c ∈ furtherCalls payload request uid, RpcCall.Serves operation q start c := by
  obtain ⟨hmodel, hdomain⟩ := checkRequest_asks hq h hrequest
  have hop : operation = request.operation :=
    Except.ok.inj (h.operation.symm.trans (operationOf_of_checkRequest hrequest))
  intro c hc
  rw [furtherCalls] at hc
  split at hc
  · next hcount =>
    rw [List.mem_singleton.mp hc]
    exact ⟨hop.trans hcount, hmodel, hdomain⟩
  · next hread =>
    split at hc
    · cases hc
    · next w hw =>
      rw [List.mem_singleton.mp hc]
      exact ⟨hop.trans hread, hmodel, hdomain, readWindow_asks hq h hw⟩

/-- A request with a model and credentials passes the checks. -/
theorem checkRequest_passes [Floats F] (hq : q.Exact) (h : Asks operation q start payload)
    (hmodel : Script.trim F q.model ≠ "")
    (henv : { env with url := env.odooUrl }.configured = true) :
    ∃ request, checkRequest env payload = .ok request ∧ request.operation = operation := by
  have hmodelOf : modelOf payload = .ok (Script.trim F q.model) := by
    rw [modelOf, h.model]
    exact if_neg hmodel
  have hfields : ¬ (operation = .read ∧ payload.get? "fields" = none) := by
    rw [h.fields]
    simp
  have hdomain : parseJsonArray (.str (Script.dumps (.list q.domain : Value F))) "domain" =
      .ok q.domain := parseJsonArray_dumps (portable_domain hq) _
  refine ⟨⟨operation, Script.trim F q.model, q.domain, jsOr (payload.get? "project_code") .null,
    jsOr (payload.get? "contract_no") .null⟩, ?_, rfl⟩
  rw [checkRequest, hmodelOf, h.domain]
  simp only [bind, Except.bind, h.operation, if_neg hfields, henv, hdomain]
  rfl

/-- A limit within the bounds passes the checks after the login. Fields, limit and offset are read
back as they were sent. -/
theorem readWindow_passes (hq : q.Exact) (h : Asks operation q start payload)
    (hlimit : 1 ≤ q.limit.getD 100 ∧ q.limit.getD 100 ≤ 100) :
    ∃ w, readWindow payload = .ok w := by
  have hfields : parseJsonArray (payload.get "fields") "fields" =
      .ok (q.fields.map Value.str : List (Value F)) := by
    rw [Dict.get, Dict.getD, h.fields, Option.getD_some]
    exact parseJsonArray_dumps (portable_texts q.fields) _
  have hinteger : Script.integer (jsCoalesce (payload.get? "limit") (.int 100) : Value F) =
      some ((q.limit.getD 100 : ℕ) : ℤ) := integer_limit hq h
  have hstart : Script.integer (.int start : Value F) = some (start : ℤ) :=
    JsonScript.integer_exact _ h.exact
  have hlimitOf : requestedLimit payload = .ok ((q.limit.getD 100 : ℕ) : ℤ) := by
    rw [requestedLimit, hinteger]
    exact if_neg (by omega)
  have hoffsetOf : requestedOffset payload = .ok (start : ℤ) := by
    rw [requestedOffset, h.offset, hstart]
    exact if_neg (by omega)
  rw [readWindow, hfields, hlimitOf, hoffsetOf]
  exact ⟨_, rfl⟩

end Queries

/-! ### A script engine -/

section Whole

open Py.Whole

private theorem strip_word {s : String}
    (h : ∀ c ∈ s.toList, c.isAlphanum = true ∨ c = '.' ∨ c = '_') : strip s = s := by
  have hspace : ∀ c ∈ s.toList, Text.isSpace c = false := by
    intro c hc
    by_contra hne
    have hblank : c.isWhitespace = true := Bool.not_eq_false _ |>.mp hne
    have hcases : ((c = ' ' ∨ c = '\t') ∨ c = '\r') ∨ c = '\n' := by
      simpa [Char.isWhitespace] using hblank
    have hword := h c hc
    rcases hcases with ((rfl | rfl) | rfl) | rfl <;> revert hword <;> decide
  exact strip_eq_self (fun c hc => hspace c (List.mem_of_mem_head? hc))
    fun c hc => hspace c (List.mem_of_getLast? hc)

/-- The text of a whole number as a float. -/
def wholeText (x : ℤ) : List Char := JsonText.intText x ++ ['.', '0']

/-- `Number(v)` -/
def wholeNumber : Value ℤ → Option ℤ
  | .null => some 0
  | .bool b => some b.toNat
  | .int i => some i
  | .float x => some x
  | .str s => s.toInt?
  | _ => none

private theorem lower_strip_count : lower (strip "count") = "count" := by decide

/-- A script engine on whole numbers. -/
@[reducible] def wholeScript : JsonScript ℤ where
  trim := strip
  toLowerCase := lower
  floatText := wholeText
  rounded i := .int i
  number text := (String.ofList (text.takeWhile (· ≠ '.'))).toInt?.map .float
  parse s := JsonText.loads
    ⟨.int, fun text => (String.ofList (text.takeWhile (· ≠ '.'))).toInt?.map .float, []⟩ s
  stringify v := JsonText.dumps (.compact wholeText) v
  repr := reprValue
  integer := wholeNumber
  dumps v := JsonText.dumps (.plain wholeText) v
  toLowerCase_trim_count := lower_strip_count
  integer_zero := rfl
  parse_eq _ := rfl
  dumps_eq _ := rfl
  rounded_exact _ _ := rfl
  integer_exact _ _ := rfl
  trim_eq _ := strip_word

end Whole

end DecisionCenter
