import DecisionCenter.Py.Percent
import DecisionCenter.Retrieval.Awaited
import DecisionCenter.Retrieval.OdooRequests

/-!
# The addresses a report is drawn from

The URLs behind the reads of documents and of mail: the expressions of
`n8n/sharepoint_search.json`, `n8n/owncloud_list.json` and `n8n/email_search.json` on the
payloads of the connectors, and the URL of `search_group_conversations`. For an authorized
request each is one of the mapped project, or of the caller's own mailbox where that is on the
allowlist; a text that is searched for stands in a part of its own, and comes back when that
part is decoded.

`PartFor` says of a piece of a URL that it has no delimiter in it and decodes to the text; the
encoding is that of `Py.Percent`. The delimiters are those that can end a part of these
addresses. The quotes and parentheses of a search expression are not among them, as
`encodeURIComponent` leaves these characters alone: the part holds the whole text, but what
Graph makes of a quote in it is not modelled.

Each workflow is a function from a payload to a URL, with the tests and defaults of its
expression. The payloads arrive as they were sent, being JSON of texts and nulls
(`Read.Carried`), so that the URL is a function of the read.

`Authorized.Covers` has the addresses that belong to the scope of a report, for each kind of
read. `fetchesInScope_gather` follows from the calls of `Retrieval.Awaited`, for every request
and all answers.
-/

namespace DecisionCenter

open Async Py

/-! ### Texts in a URL -/

section Encoding

/-- The characters that `encodeURIComponent` leaves alone. -/
def unreserved (c : Char) : Bool :=
  c.isAlphanum || "-_.!~*()".toList.contains c || c.toNat = 39

/-- The characters that part a URL. -/
def urlDelimiters : List Char := ":/?#[]@&=+$,;".toList

private theorem toUpper_digitChar :
    ∀ n < 16, (Nat.digitChar n).toUpper = Percent.hexDigit n := by decide

private theorem padStart_hex {n : ℕ} (h : n < 256) :
    padStart 2 ((Nat.toDigits 16 n).map Char.toUpper) =
      [Percent.hexDigit (n / 16), Percent.hexDigit (n % 16)] := by
  rw [Nat.toDigits_eq_if (by decide)]
  split
  · next hn =>
    rw [List.map_singleton, toUpper_digitChar n hn, Nat.div_eq_of_lt hn, Nat.mod_eq_of_lt hn]
    rfl
  · rw [Nat.toDigits_of_lt_base (by omega), List.singleton_append, List.map_cons,
      List.map_singleton, toUpper_digitChar _ (by omega),
      toUpper_digitChar _ (Nat.mod_lt n (by decide))]
    rfl

private theorem byteArray_toList (bytes : ByteArray) : bytes.toList = bytes.data.toList := by
  have hloop (i : ℕ) (r : List UInt8) :
      ByteArray.toList.loop bytes i r = r.reverse ++ bytes.data.toList.drop i := by
    fun_induction ByteArray.toList.loop bytes i r with
    | case1 i r hi ih =>
      have hi' : i < bytes.data.toList.length := hi
      rw [ih, List.reverse_cons, List.append_assoc, List.singleton_append,
        List.drop_eq_getElem_cons hi', Array.getElem_toList]
      congr 2
      exact getElem!_pos bytes.data i hi
    | case2 i r hi =>
      have hi' : bytes.data.toList.length ≤ i := Nat.not_lt.mp hi
      rw [List.drop_of_length_le hi', List.append_nil]
  exact hloop 0 []

private theorem toList_toUTF8 (c : Char) : c.toString.toUTF8.toList = String.utf8EncodeChar c := by
  have h : c.toString.toUTF8 = (String.utf8EncodeChar c).toByteArray := by
    change (String.singleton c).toByteArray = _
    rw [String.toByteArray_singleton, List.utf8Encode_singleton]
  rw [h, byteArray_toList, List.toList_data_toByteArray]

private theorem encodeURIComponent_eq (s : String) :
    encodeURIComponent s = Percent.encode unreserved s := by
  have hbytes : Percent.escapeByte = fun b : UInt8 =>
      '%' :: padStart 2 ((Nat.toDigits 16 b.toNat).map Char.toUpper) :=
    funext fun b => by rw [padStart_hex b.toNat_lt]; rfl
  have hchar : Percent.encodeChar unreserved = fun c =>
      if c.isAlphanum || "-_.!~*()".toList.contains c || c.toNat = 39 then [c]
      else c.toString.toUTF8.toList.flatMap fun b =>
        '%' :: padStart 2 ((Nat.toDigits 16 b.toNat).map Char.toUpper) := by
    funext c
    rw [Percent.encodeChar, toList_toUTF8, hbytes]
    rfl
  rw [encodeURIComponent, Percent.encode, hchar]

/-- The part of a URL that a text is written as. -/
abbrev PartFor (part text : String) : Prop := Percent.Encodes urlDelimiters part text

private theorem urlDelimiters_encoded :
    ∀ c ∈ urlDelimiters, unreserved c = false ∧ c.isAlphanum = false ∧ c ≠ '%' := by
  have hall : (urlDelimiters.all fun c =>
      !unreserved c && !c.isAlphanum && decide (c ≠ '%')) = true := by rfl
  intro c hc
  simpa [and_assoc] using List.all_eq_true.mp hall c hc

private theorem partFor_encodeURIComponent (s : String) : PartFor (encodeURIComponent s) s := by
  rw [encodeURIComponent_eq]
  exact Percent.encodes_encode (by rfl) urlDelimiters_encoded s

/-- There is no leading slash to remove. -/
theorem dropWhile_part {part text : String} (h : PartFor part text) :
    part.toList.dropWhile (· = '/') = part.toList := by
  have hslash : '/' ∈ urlDelimiters := List.mem_of_elem_eq_true rfl
  refine List.dropWhile_eq_self_iff.mpr fun hpos hhead => ?_
  have hmem : part.toList[0] ∈ part.toList := List.getElem_mem hpos
  rw [of_decide_eq_true hhead] at hmem
  exact h.closed '/' hmem hslash

end Encoding

/-! ### The workflows -/

/-- The host of ownCloud and the service user of the workflow. -/
structure WebEnv where
  /-- `settings.public_base_url` -/
  publicBaseUrl : String
  /-- `$env.OWNCLOUD_USERNAME || ''` -/
  owncloudUsername : String

/-- `_GRAPH_BASE` -/
def graphBase : String := "https://graph.microsoft.com/v1.0"

section Workflows

variable {F : Type} [Floats F] [Script F]

/-- `'…' + v`, where `v` may be undefined. -/
def urlText (v : Option (Value F)) : String := v.elim "undefined" jsText

/-- `v || ''` as a text. -/
def orEmpty (v : Option (Value F)) : String := jsText (jsOr v (.str ""))

/-- The node `Graph Search`. -/
def graphSearchUrl (body : Dict F) : String :=
  graphBase ++ "/sites/" ++ urlText (body.get? "site_id") ++ "/drives/" ++
    urlText (body.get? "drive_id") ++ "/root/search(q=" ++
    encodeURIComponent ("'" ++ orEmpty (body.get? "query") ++ "'") ++ ")"

/-- The node `WebDAV PROPFIND`. -/
def propfindUrl (web : WebEnv) (body : Dict F) : String :=
  urlText (body.get? "base_url") ++ "/remote.php/dav/files/" ++
    encodeURIComponent web.owncloudUsername ++ "/" ++
    -- `.replace(/^\/+/, '')`
    String.ofList
      ((encodeURIComponent (orEmpty (body.get? "root_path"))).toList.dropWhile (· = '/'))

/-- `(v || '').toLowerCase()`; `none` where it throws. -/
def lowerText? (v : Option (Value F)) : Option String :=
  match jsOr v (.str "") with
  | .str s => some (Script.toLowerCase F s)
  | _ => none

/-- `(v || []).map(m => String(m).toLowerCase())`; `none` where it throws. -/
def lowerTexts? (v : Option (Value F)) : Option (List String) :=
  match jsOr v (.list []) with
  | .list xs => some (xs.map fun m => Script.toLowerCase F (jsText m))
  | _ => none

/-- The nodes `Enforce Mailbox Allowlist` and `Graph Mail Search`; `none` where the first throws. -/
def mailSearchUrl? (body : Dict F) : Option String := do
  let mailbox ← lowerText? (body.get? "user_mailbox")
  let allowed ← lowerTexts? (body.get? "allowed_mailboxes")
  if mailbox = "" ∨ allowed = [] ∨ mailbox ∉ allowed then none
  else some (graphBase ++ "/users/" ++ encodeURIComponent (orEmpty (body.get? "user_mailbox")) ++
    "/messages?$search=" ++ encodeURIComponent ("\"" ++ orEmpty (body.get? "query") ++ "\"") ++
    "&$top=25")

end Workflows

/-! ### The connectors -/

section Connectors

variable {F : Type}

/-- A text, or `None`. -/
def textOrNone (s : Option String) : Value F := s.elim .null .str

/-- `{**payload, "access_token": token}` of `search_sharepoint`. -/
def SharepointQuery.payload (q : SharepointQuery F) (token : Option String) : Dict F :=
  [("query", q.query), ("project_code", .str q.projectCode), ("site_id", textOrNone q.siteId),
    ("drive_id", textOrNone q.driveId), ("access_token", textOrNone token)]

/-- The payload of `list_owncloud`. -/
def owncloudPayload (web : WebEnv) (code rootPath : String) : Dict F :=
  [("project_code", .str code), ("root_path", .str rootPath), ("base_url", .str web.publicBaseUrl)]

/-- `{**payload, "access_token": token}` of `search_email`. -/
def EmailQuery.payload (q : EmailQuery) (token : Option String) : Dict F :=
  [("query", .str q.query), ("project_code", .str q.projectCode),
    ("user_mailbox", .str q.userMailbox),
    ("allowed_mailboxes", .list (q.allowedMailboxes.map .str)),
    ("access_token", textOrNone token)]

/-- The URL of `search_group_conversations`. -/
def groupUrl (id : String) : String := graphBase ++ "/groups/" ++ id ++ "/conversations?$top=25"

variable [Floats F] [JsonScript F]

/-- The URL that is fetched for a read, with the token that Graph gave. -/
def Read.url? (web : WebEnv) (token : Option String) : Read F → Option String
  | .sharepoint q => (received (q.payload token)).map graphSearchUrl
  | .owncloud code rootPath =>
    (received (owncloudPayload web code rootPath : Dict F)).map (propfindUrl web)
  /- Without a token it raises. -/
  | .group id _ _ => (token.filter (· ≠ "")).map fun _ => groupUrl id
  | .email q => (received (q.payload token : Dict F)).bind mailSearchUrl?
  | .odoo _ => none

end Connectors

/-! ### The payloads arrive -/

section Payloads

variable {F : Type}

private theorem portable_textOrNone (s : Option String) : Portable (textOrNone s : Value F) := by
  cases s with
  | none => exact .null
  | some s => exact .str s

/-- JSON carries what the read searches for. -/
def Read.Carried : Read F → Prop
  | .sharepoint q => Portable q.query
  | _ => True

variable [JsonScript F]

private theorem received_sharepoint {q : SharepointQuery F} (h : Portable q.query)
    (token : Option String) : received (q.payload token) = some (q.payload token) := by
  refine received_eq (.dict (by simp [SharepointQuery.payload]) fun kv hkv => ?_)
  simp only [SharepointQuery.payload, List.mem_cons, List.not_mem_nil, or_false] at hkv
  rcases hkv with rfl | rfl | rfl | rfl | rfl
  · exact h
  · exact .str _
  · exact portable_textOrNone _
  · exact portable_textOrNone _
  · exact portable_textOrNone _

private theorem received_owncloud (web : WebEnv) (code rootPath : String) :
    received (owncloudPayload web code rootPath : Dict F) =
      some (owncloudPayload web code rootPath) := by
  refine received_eq (.dict (by simp [owncloudPayload]) fun kv hkv => ?_)
  simp only [owncloudPayload, List.mem_cons, List.not_mem_nil, or_false] at hkv
  rcases hkv with rfl | rfl | rfl <;> exact .str _

private theorem received_email (q : EmailQuery) (token : Option String) :
    received (q.payload token : Dict F) = some (q.payload token) := by
  refine received_eq (.dict (by simp [EmailQuery.payload]) fun kv hkv => ?_)
  simp only [EmailQuery.payload, List.mem_cons, List.not_mem_nil, or_false] at hkv
  rcases hkv with rfl | rfl | rfl | rfl | rfl
  · exact .str _
  · exact .str _
  · exact .str _
  · exact .list (portable_texts _)
  · exact portable_textOrNone _

private theorem orEmpty_str [Floats F] (s : String) :
    orEmpty (some (.str s) : Option (Value F)) = s := by
  by_cases hs : s = ""
  · subst hs
    rfl
  · have htruthy : jsTruthy (.str s : Value F) = true := by simpa [jsTruthy, Value.truthy] using hs
    rw [orEmpty, jsOr, Option.filter_some_pos htruthy]
    rfl

end Payloads

/-! ### The scope of a report -/

section Scope

variable {F : Type} [Floats F] [JsonScript F]

private theorem graphSearchUrl_payload (q : SharepointQuery F) (token : Option String) :
    graphSearchUrl (q.payload token) = graphBase ++ "/sites/" ++
      jsText (textOrNone q.siteId : Value F) ++ "/drives/" ++
      jsText (textOrNone q.driveId : Value F) ++ "/root/search(q=" ++
      encodeURIComponent ("'" ++ orEmpty (some q.query) ++ "'") ++ ")" := by
  simp [graphSearchUrl, SharepointQuery.payload, Dict.get?, urlText]

private theorem propfindUrl_payload (web : WebEnv) (code rootPath : String) :
    propfindUrl web (owncloudPayload web code rootPath : Dict F) =
      web.publicBaseUrl ++ "/remote.php/dav/files/" ++ encodeURIComponent web.owncloudUsername ++
        "/" ++ encodeURIComponent rootPath := by
  have hroot : (owncloudPayload web code rootPath : Dict F).get? "root_path" =
      some (.str rootPath) := by simp [owncloudPayload, Dict.get?]
  have hbase : (owncloudPayload web code rootPath : Dict F).get? "base_url" =
      some (.str web.publicBaseUrl) := by simp [owncloudPayload, Dict.get?]
  rw [propfindUrl, hroot, hbase, orEmpty_str, dropWhile_part (partFor_encodeURIComponent rootPath),
    String.ofList_toList]
  rfl

private theorem mailSearchUrl?_payload {q : EmailQuery} {token : Option String} {url : String}
    (h : mailSearchUrl? (q.payload token : Dict F) = some url) :
    url = graphBase ++ "/users/" ++ encodeURIComponent q.userMailbox ++ "/messages?$search=" ++
      encodeURIComponent ("\"" ++ q.query ++ "\"") ++ "&$top=25" := by
  have huser : (q.payload token : Dict F).get? "user_mailbox" = some (.str q.userMailbox) := by
    simp [EmailQuery.payload, Dict.get?]
  have hquery : (q.payload token : Dict F).get? "query" = some (.str q.query) := by
    simp [EmailQuery.payload, Dict.get?]
  obtain ⟨mailbox, -, h⟩ := Option.bind_eq_some_iff.mp h
  obtain ⟨allowed, -, h⟩ := Option.bind_eq_some_iff.mp h
  split at h
  · cases h
  · rw [huser, hquery, orEmpty_str, orEmpty_str] at h
    exact (Option.some.inj h).symm

variable [Text] {mapping : ProjectMapping}

/-- The addresses of the mapped project, and of the caller's mailbox where it is on the allowlist.
What is searched for is a part of the address. -/
inductive Authorized.Covers (a : Authorized F mapping) (web : WebEnv) : Read F → String → Prop
  | documents {query : Value F} {part : String}
    (h : PartFor part ("'" ++ orEmpty (some query) ++ "'")) :
    a.Covers web (.sharepoint ⟨query, a.code, a.entry.siteId, a.entry.driveId⟩)
      (graphBase ++ "/sites/" ++ jsText (textOrNone a.entry.siteId : Value F) ++ "/drives/" ++
        jsText (textOrNone a.entry.driveId : Value F) ++ "/root/search(q=" ++ part ++ ")")
  | files {user part : String} (hrole : a.role.permissions.canAccessOwncloud = true)
    (huser : PartFor user web.owncloudUsername) (h : PartFor part a.entry.owncloudBasePath) :
    a.Covers web (.owncloud a.code a.entry.owncloudBasePath)
      (web.publicBaseUrl ++ "/remote.php/dav/files/" ++ user ++ "/" ++ part)
  | conversations {id : String} (hrole : a.role.permissions.canAccessSharepoint = true)
    (h : a.entry.mailGroup? = some id) :
    a.Covers web (.group id a.entry.group.mail a.code)
      (graphBase ++ "/groups/" ++ id ++ "/conversations?$top=25")
  | messages {query mailbox part : String}
    (hrole : a.role.permissions.canAccessOwnMailbox = true)
    (h : lower a.state.userId ∈ a.entry.allowedMailboxes.map lower)
    (hmailbox : PartFor mailbox a.state.userId) (hpart : PartFor part ("\"" ++ query ++ "\"")) :
    a.Covers web (.email ⟨query, a.code, a.state.userId, a.entry.allowedMailboxes⟩)
      (graphBase ++ "/users/" ++ mailbox ++ "/messages?$search=" ++ part ++ "&$top=25")

/-- What is fetched for a call of the retrieval is in the scope of the report. -/
def Call.InScope (a : Authorized F mapping) (web : WebEnv) (c : Call F) : Prop :=
  ∀ r limit token url, c = .read r limit → r.Carried → r.url? web token = some url →
    a.Covers web r url

/-- Every call that is awaited is in scope, by cases on the call. -/
private theorem Authorized.Awaits.inScope {a : Authorized F mapping} {c : Call F} (hc : a.Awaits c)
    (web : WebEnv) : c.InScope a web := by
  rintro r limit token url rfl hcarried hurl
  cases hc with
  | documents query =>
    rw [Read.url?, received_sharepoint hcarried] at hurl
    cases hurl
    rw [graphSearchUrl_payload]
    exact .documents (partFor_encodeURIComponent _)
  | files hrole =>
    rw [Read.url?, received_owncloud] at hurl
    cases hurl
    rw [propfindUrl_payload]
    exact .files hrole (partFor_encodeURIComponent _) (partFor_encodeURIComponent _)
  | conversations hrole hid =>
    obtain ⟨_, -, rfl⟩ := Option.map_eq_some_iff.mp hurl
    exact .conversations hrole hid
  | messages query hrole hown =>
    rw [Read.url?, received_email, Option.bind_some] at hurl
    rw [mailSearchUrl?_payload hurl]
    exact .messages hrole hown (partFor_encodeURIComponent _) (partFor_encodeURIComponent _)
  | project => cases hurl
  | costs => cases hurl
  | source => cases hurl

/-- All that the nodes 5 to 11 fetch for a report is in its scope. -/
structure Authorized.FetchesInScope (a : Authorized F mapping) (web : WebEnv)
    (settings : RetrievalSettings) : Prop where
  always : (a.gather settings).Always (Call.InScope a web) fun _ => True

/-- Whatever is asked, planned and answered, documents and mail are fetched in scope. The texts that
a user or the planner chooses stand in parts of their own and cannot lead anywhere else. -/
theorem fetchesInScope_gather (a : Authorized F mapping) (web : WebEnv)
    (settings : RetrievalSettings) : a.FetchesInScope web settings :=
  ⟨(awaitsIn_gather a settings).mono (fun _ hc => hc.inScope web) fun _ _ => trivial⟩

end Scope

end DecisionCenter
