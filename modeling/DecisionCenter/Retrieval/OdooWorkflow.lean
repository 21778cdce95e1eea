import DecisionCenter.Graph.AmountParsing
import DecisionCenter.Retrieval.Calls

/-!
# The workflow behind the Odoo connector

The node `Odoo Query` of `n8n/odoo_read.json`, which sends the request of the connector on to
the JSON-RPC interface of Odoo, and `read_odoo` and `count_odoo` of
`apps/edr/connectors/odoo.py`, which read its answer. What it throws becomes a status that makes
the connector raise; of the two calls that can fail after the login, it asks for the error of
the count only.

The node is JavaScript. Its truth values, its two kinds of default and its texts of numbers are
definitions of their own (`jsTruthy`, `jsOr`, `jsCoalesce`, `jsText`), since a field that is `0`
or an empty text is treated in three different ways in one function. What a number looks like as
a text is a parameter (`Script`).

The function is taken apart as it is written: the checks of the request, the login, the count or
the read, and the items. `flattenFields` makes the `f_*` metadata of a record and `previewOf`
the excerpt, cut at 400 units; a record can have any fields of any kinds.

On the side of Python the connector posts, raises on a status that is none of success, and
validates what it is given, item by item (`validateEvidencePayload`). The texts of its
exceptions are left to a parameter where they depend on the HTTP library. That the answer of one
end is what the other end reads is the subject of `Retrieval.OdooFailures`.
-/

namespace DecisionCenter

open Py

/-! ### JavaScript -/

/-- What the workflow takes from JavaScript, and the text that the connector writes. -/
class Script (F : Type) where
  trim : String → String
  toLowerCase : String → String
  /-- `JSON.parse(s)`; `none` where it throws. -/
  parse : String → Option (Value F)
  /-- `JSON.stringify(v)` -/
  stringify : Value F → String
  /-- `String(v)` of a value that is not a string. -/
  repr : Value F → String
  /-- `Number(v)`, where that is an integer. -/
  integer : Value F → Option ℤ
  /-- `json.dumps(v)` -/
  dumps : Value F → String
  toLowerCase_trim_count : toLowerCase (trim "count") = "count"
  integer_zero : integer (.int 0) = some 0

section Workflow

variable {F : Type} [Floats F]

/-- `Boolean(v)`: containers are true, the empty ones too. -/
def jsTruthy : Value F → Bool
  | .list _ => true
  | .dict _ => true
  | v => v.truthy

/-- `v || w`, for a `v` that may be undefined. -/
def jsOr (v : Option (Value F)) (w : Value F) : Value F := (v.filter jsTruthy).getD w

/-- `v ?? w` -/
def jsCoalesce (v : Option (Value F)) (w : Value F) : Value F := (v.filter (!·.isNull)).getD w

/-- What the node throws: an `Error`, or the one that `invalid` makes. -/
inductive Thrown where
  | error (message : String)
  | invalid (message : String)
  deriving DecidableEq, Repr

namespace Thrown

/-- `e.message` -/
def message : Thrown → String
  | error message => message
  | invalid message => "Invalid Odoo request: " ++ message

/-- `e.statusCode || 502` -/
def statusCode : Thrown → ℕ
  | error _ => 502
  | invalid _ => 400

end Thrown

variable [Script F]

/-- `String(v)` -/
def jsText : Value F → String
  | .str s => s
  | v => Script.repr v

/-- `parseJsonArray` -/
def parseJsonArray (value : Value F) (fieldName : String) : Except Thrown (List (Value F)) :=
  match value with
  | .list xs => .ok xs
  | .str s => match (Script.parse s : Option (Value F)) with
    | none => .error (.invalid (fieldName ++ " must be valid JSON"))
    | some (.list xs) => .ok xs
    | some _ => .error (.invalid (fieldName ++ " must be an array"))
  | _ => .error (.invalid (fieldName ++ " must be an array"))

/-! ### The request -/

/-- `operation` -/
inductive OdooOperation where
  | read
  | count
  deriving DecidableEq, Repr

/-- The environment of the workflow. -/
structure OdooEnv where
  url : String
  database : String
  username : String
  apiKey : String
  deriving DecidableEq, Repr

/-- All credentials are set. -/
def OdooEnv.configured (env : OdooEnv) : Bool :=
  decide (env.url ≠ "" ∧ env.database ≠ "" ∧ env.username ≠ "" ∧ env.apiKey ≠ "")

/-- The url without the slash at its end. -/
def OdooEnv.odooUrl (env : OdooEnv) : String :=
  if env.url.toList.getLast? = some '/' then String.ofList env.url.toList.dropLast else env.url

/-- The operation of a request. -/
def operationOf (raw : Dict F) : Except Thrown OdooOperation :=
  match (raw.get? "operation").filter (!·.isNull) with
  | none => .ok .read
  | some v =>
    let operation := Script.toLowerCase F (Script.trim F (jsText v))
    if operation = "read" then .ok .read
    else if operation = "count" then .ok .count
    else .error (.invalid "operation must be 'read' or 'count'")

/-- The model of a request. -/
def modelOf (raw : Dict F) : Except Thrown String :=
  match raw.get? "model" with
  | some (.str s) =>
    if Script.trim F s = "" then .error (.invalid "model is required") else .ok (Script.trim F s)
  | _ => .error (.invalid "model is required")

/-- What the workflow makes of a request before it logs in. -/
structure OdooRequest (F : Type) where
  operation : OdooOperation
  model : String
  domain : List (Value F)
  projectCode : Value F
  contractNo : Value F

/-- The checks before the login. -/
def checkRequest (env : OdooEnv) (raw : Dict F) : Except Thrown (OdooRequest F) := do
  let model ← modelOf raw
  match raw.get? "domain" with
  | none => .error (.invalid "domain is required")
  | some domain =>
    let operation ← operationOf raw
    if operation = .read ∧ raw.get? "fields" = none then .error (.invalid "fields is required")
    else if !{ env with url := env.odooUrl }.configured then
      .error (.error "Odoo runtime credentials are not configured")
    else do
      let domain ← parseJsonArray domain "domain"
      return { operation, model, domain, projectCode := jsOr (raw.get? "project_code") .null,
               contractNo := jsOr (raw.get? "contract_no") .null }

/-- The checks of a read after the login. -/
def checkWindow (raw : Dict F) : Except Thrown Unit := do
  let _ ← parseJsonArray (raw.get "fields") "fields"
  match Script.integer (jsCoalesce (raw.get? "limit") (.int 100)) with
  | none => .error (.invalid "limit must be an integer between 1 and 100")
  | some limit =>
    if limit < 1 ∨ 100 < limit then .error (.invalid "limit must be an integer between 1 and 100")
    else match Script.integer (jsCoalesce (raw.get? "offset") (.int 0)) with
      | none => .error (.invalid "offset must be a non-negative integer")
      | some offset =>
        if offset < 0 then .error (.invalid "offset must be a non-negative integer") else .ok ()

/-! ### The answers of Odoo -/

/-- An answer of the JSON-RPC interface: a result, or an error object. -/
inductive RpcAnswer (F α : Type) where
  | result (x : α)
  | error (e : Dict F)

/-- The answer is an error object. -/
def RpcAnswer.isError {α : Type} : RpcAnswer F α → Bool
  | result _ => false
  | error _ => true

/-- What Odoo answers to one request: to the login, and to the call of either operation. -/
structure OdooAnswers (F : Type) where
  authenticate : RpcAnswer F (Value F)
  searchRead : RpcAnswer F (List (Dict F))
  searchCount : RpcAnswer F (Value F)

/-- `Array.isArray(execResp.result) ? execResp.result : []` -/
def OdooAnswers.records (answers : OdooAnswers F) : List (Dict F) :=
  match answers.searchRead with
  | .result records => records
  | .error _ => []

/-- The login. -/
def authenticate : RpcAnswer F (Value F) → Except Thrown (Value F)
  | .result uid => if jsTruthy uid then .ok uid else .error (.error "Odoo auth failed: undefined")
  | .error e => .error (.error ("Odoo auth failed: " ++ Script.stringify (.dict e)))

/-- The total of a count. -/
def countTotal : Value F → ℤ
  | .int i => i
  | .float x => (Script.integer (.float x : Value F)).getD 0
  | .list xs => xs.length
  | _ => 0

/-! ### The items -/

/-- An item of the workflow's answer, before it is validated. -/
structure OdooItem (F : Type) where
  evidenceId : String
  sourceUri : String
  title : Value F
  projectCode : Value F
  contractNo : Value F
  timestamp : Value F
  excerpt : String
  hashSha256 : String
  tags : List String
  metadata : Dict F

/-- The value is neither an array nor an object. -/
def isScalar : Value F → Bool
  | .list _ => false
  | .dict _ => false
  | _ => true

/-- `flattenRecord` -/
def flattenFields (record : Dict F) : Dict F :=
  (record.filter fun kv => decide (kv.1 ≠ "id") && match kv.2 with
    | .list xs => xs.all isScalar
    | v => isScalar v).map fun kv => ("f_" ++ kv.1, kv.2)

/-- `v[1]`, where it is defined. -/
def second : Value F → Option (Value F)
  | .list xs => xs[1]?
  | .dict items => Dict.get? items "1"
  | .str s => (s.toList[1]?).map fun c => .str c.toString
  | _ => none

/-- `record.currency_id ? record.currency_id[1] : (record.currency || null)` -/
def currencyOf (record : Dict F) : Option (Value F) :=
  match (record.get? "currency_id").filter jsTruthy with
  | some v => second v
  | none => some (jsOr (record.get? "currency") .null)

/-- The preview of a record. -/
def previewOf (record : Dict F) : String :=
  let shown := (record.filter fun kv =>
    kv.1 ∉ ["id", "create_date", "write_date", "__last_update"]).take 5
  join "; " (shown.map fun kv =>
    kv.1 ++ ": " ++ if kv.2.isNull then "" else jsText kv.2)

/-- The item of the record at an index. -/
def odooItem (url : String) (request : OdooRequest F) (index : ℕ) (record : Dict F) :
    OdooItem F :=
  let model := request.model
  let recordId := (record.get? "id").elim (toString index) jsText
  let timestamp := jsOr (record.get? "write_date")
    (jsOr (record.get? "create_date") (jsOr (record.get? "date") .null))
  let currency : Dict F := (currencyOf record).toList.map fun v => ("currency", v)
  { evidenceId := "odoo-" ++ String.ofList (model.toList.map fun c => if c = '.' then '-' else c) ++
      "-" ++ recordId
    sourceUri := url ++ "/web#id=" ++ recordId ++ "&model=" ++ encodeURIComponent model
    title := jsOr (record.get? "name")
      (jsOr (record.get? "display_name") (.str (model ++ " #" ++ recordId)))
    projectCode := request.projectCode
    contractNo := request.contractNo
    timestamp := timestamp
    excerpt := String.ofList (substring 1000 (previewOf record).toList)
    hashSha256 := simpleHash (model ++ "-" ++ recordId ++ "-" ++
      if timestamp.isNull then "" else jsText timestamp)
    tags := ["odoo", model]
    metadata := [("model", .str model), ("record_id", record.get "id")] ++ currency ++
      flattenFields record }

/-! ### The answer of the workflow -/

/-- The body of the workflow's answer. -/
inductive OdooBody (F : Type) where
  | evidence (items : List (OdooItem F))
  | count (total : ℤ)
  /-- `{evidence: [], error: message}` -/
  | failed (message : String)

/-- The node `Odoo Query`, up to its `catch`. -/
def odooQueryNode (env : OdooEnv) (raw : Dict F) (answers : OdooAnswers F) :
    Except Thrown (OdooBody F) := do
  let request ← checkRequest env raw
  let _ ← authenticate answers.authenticate
  match request.operation with
  | .count => match answers.searchCount with
    | .error e => .error (.error ("Odoo search_count failed: " ++ Script.stringify (.dict e)))
    | .result total => .ok (.count (countTotal total))
  | .read => do
    checkWindow raw
    -- An error object has no result, and counts as no records.
    .ok (.evidence (answers.records.mapIdx (odooItem env.odooUrl request)))

/-- The answer to the webhook: its status and its body. -/
def odooResponse (env : OdooEnv) (raw : Dict F) (answers : OdooAnswers F) : ℕ × OdooBody F :=
  match odooQueryNode env raw answers with
  | .ok body => (200, body)
  | .error e => (e.statusCode, .failed e.message)

/-! ### The connector -/

/-- What a connector raises. -/
inductive ConnectorError where
  /-- The webhook cannot be reached. -/
  | unreachable (className text : String)
  | status (code : ℕ)
  | payload (e : Error)
  | runtime (text : String)

/-- The texts of exceptions. -/
class Exceptions where
  /-- `str(exc)` -/
  text : ConnectorError → String

/-- `type(exc).__name__` -/
def ConnectorError.className : ConnectorError → String
  | unreachable className _ => className
  | status _ => "HTTPStatusError"
  | payload _ => "ValidationError"
  | runtime _ => "RuntimeError"

/-- `N8NWebhookClient.post`: `raise_for_status` lets a success through only. -/
def webhookPost (response : ℕ × OdooBody F) : Except ConnectorError (OdooBody F) :=
  if 200 ≤ response.1 ∧ response.1 < 300 then .ok response.2 else .error (.status response.1)

/-- A `str` field. -/
def validateStr : Value F → Except Error String
  | .str s => .ok s
  | _ => .error .validationError

/-- A `str | None` field. -/
def validateOptStr : Value F → Except Error (Option String)
  | .str s => .ok (some s)
  | .null => .ok none
  | _ => .error .validationError

/-- A `_MetadataScalar`. -/
def validateScalar : Value F → Except Error (Scalar F)
  | .null => .ok .null
  | .bool b => .ok (.bool b)
  | .int i => match Floats.ofInt i with
    | some x => .ok (.num x)
    | none => .error .overflowError
  | .float x => .ok (.num x)
  | .str s => .ok (.str s)
  | _ => .error .validationError

/-- A `_MetadataValue`. -/
def validateMeta : Value F → Except Error (MetaValue F)
  | .list xs => do return .list (← xs.mapM validateScalar)
  | v => do return .scalar (← validateScalar v)

/-- `EvidenceObject.model_validate` -/
def validateItem (item : OdooItem F) : Except Error (Evidence F) := do
  let title ← validateStr item.title
  let _ ← validateOptStr item.projectCode
  let _ ← validateOptStr item.contractNo
  let timestamp ← validateOptStr item.timestamp
  let metadata ← item.metadata.mapM fun kv => do return (kv.1, ← validateMeta kv.2)
  return { evidenceId := item.evidenceId, sourceType := .odoo, sourceUri := item.sourceUri, title
           timestamp, excerpt := item.excerpt, hashSha256 := item.hashSha256, confidence := .high
           tags := item.tags, metadata }

/-- `validate_evidence_payload` -/
def validateEvidencePayload : OdooBody F → Except Error (List (Evidence F))
  | .evidence items => items.mapM validateItem
  | .count _ => .ok []
  | .failed _ => .ok []

/-- `read_odoo`, where Odoo gives these answers. -/
def readOdoo (env : OdooEnv) (payload : Dict F) (answers : OdooAnswers F) :
    Except ConnectorError (List (Evidence F)) :=
  match webhookPost (odooResponse env payload answers) with
  | .error e => .error e
  | .ok body => (validateEvidencePayload body).mapError .payload

/-- `count_odoo`, where Odoo gives these answers. -/
def countOdoo (env : OdooEnv) (payload : Dict F) (answers : OdooAnswers F) :
    Except ConnectorError (Option ℤ) :=
  match webhookPost (odooResponse env (payload.set "operation" (.str "count")) answers) with
  | .error e => .error e
  | .ok (.count total) => .ok (some total)
  | .ok (.evidence _) => .ok none
  | .ok (.failed message) => if message ≠ "" then .error (.runtime message) else .ok none

end Workflow

end DecisionCenter
