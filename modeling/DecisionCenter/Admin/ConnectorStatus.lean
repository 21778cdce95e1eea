import DecisionCenter.Admin.SanitizeDetail
import DecisionCenter.Py.Runtime

/-!
# The truth status of the connectors

`admin/connector_status.py`: every connector is classified from the presence of its
configuration and from what its probe has established, and the report draws the readiness banner
and the list of blocking connectors from the classification.

The registry is data (`connectorSpecs`), with the settings that each connector needs by their
environment keys. Presence is decided by the two rules that the module has for it, the one of
the services catalogue and its own one, which also takes a host name that is not public for an
absent setting; and a report is made for one active provider of text, so that the other one is
dormant and not merely unconfigured.

`classify` follows the source's order of questions: is the connector dormant, is a setting
missing, is there a probe, what has it established. The state that a probe comes to is a
function of its facts (`stateFromFacts`), with two states of its own for `entra_auth`. Whether a
state satisfies go-live is decided in one place (`satisfiesGoLive`).

The probes are parameters: the report is given what each of them answers when it is called, or
that it raises, in which case its error text is shown after `sanitizeDetail`. The times of the
probes and the latencies that they report are left out, since nothing here depends on them. What
the banner and the list have to do with each other is the subject of `Admin.Readiness`.
-/

namespace DecisionCenter.Admin

open Py

inductive ConnectorState where
  | notConfigured
  | configuredNotTested
  | authFailed
  | permissionFailed
  | networkFailed
  | connectedNoData
  | validated
  | previouslyValidatedTokenExpired
  | verifiedFromEvidence
  | liveOk
  | mockOnly
  | disabled
  | unknown
  deriving DecidableEq, Repr

inductive DataSource where
  | live
  | evidence
  | mock
  | fixture
  | none
  deriving DecidableEq, Repr

inductive Group where
  | corePlatform
  | auth
  | externalConnector
  | aiProvider
  | edge
  deriving DecidableEq, Repr

inductive Readiness where
  | readyForUat
  | partialReady
  | notReady
  deriving DecidableEq, Repr

inductive ReportGeneration where
  | ready
  | degraded
  | blocked
  deriving DecidableEq, Repr

/-! ### Settings -/

/-- A setting that is not `None`: a text, or a number or flag. -/
inductive SettingValue where
  | text (s : String)
  | other

abbrev Settings := String → Option SettingValue

/-- `_EXTRA_ENV_KEY_TO_SETTING` -/
def extraEnvKeyToSetting : List (String × String) :=
  [("ENTRA_CLIENT_ID", "entra_client_id"), ("ENTRA_TENANT_ID", "entra_tenant_id"),
    ("ENTRA_CLIENT_SECRET", "entra_client_secret"), ("ANTHROPIC_API_KEY", "anthropic_api_key"),
    ("DEEPSEEK_API_KEY", "deepseek_api_key"), ("VOYAGE_API_KEY", "voyage_api_key"),
    ("COHERE_API_KEY", "cohere_api_key"), ("PUBLIC_HOSTNAME", "public_hostname")]

/-- `services_catalog._ENV_KEY_TO_SETTING` -/
def envKeyToSetting : List (String × String) :=
  [("POSTGRES_HOST", "postgres_host"), ("POSTGRES_PORT", "postgres_port"),
    ("POSTGRES_DB", "postgres_db"), ("POSTGRES_USER", "postgres_user"),
    ("POSTGRES_PASSWORD", "postgres_password"), ("REDIS_URL", "redis_url"),
    ("QDRANT_URL", "qdrant_url"), ("MINIO_ENDPOINT", "minio_endpoint"),
    ("MINIO_ACCESS_KEY", "minio_access_key"), ("MINIO_SECRET_KEY", "minio_secret_key"),
    ("MINIO_BUCKET", "minio_bucket"), ("LANGFUSE_HOST", "langfuse_host"),
    ("LANGFUSE_PUBLIC_KEY", "langfuse_public_key"),
    ("LANGFUSE_SECRET_KEY", "langfuse_secret_key"), ("N8N_BASE_URL", "n8n_base_url"),
    ("N8N_WEBHOOK_TOKEN", "n8n_webhook_token"), ("N8N_TIMEOUT", "n8n_timeout"),
    ("SHAREPOINT_SEARCH_WEBHOOK", "sharepoint_search_webhook"),
    ("EMAIL_SEARCH_WEBHOOK", "email_search_webhook"),
    ("OWNCLOUD_LIST_WEBHOOK", "owncloud_list_webhook"),
    ("OWNCLOUD_USERNAME", "owncloud_username"), ("OWNCLOUD_PASSWORD", "owncloud_password"),
    ("ODOO_READ_WEBHOOK", "odoo_read_webhook"), ("ODOO_URL", "odoo_url"),
    ("ODOO_DATABASE", "odoo_database"), ("ODOO_USERNAME", "odoo_username"),
    ("ODOO_API_KEY", "odoo_api_key")]

/-- `_NON_PUBLIC_HOSTS` -/
def nonPublicHosts : List String := ["", "localhost", "127.0.0.1", ":80"]

/-- `_GENERATION_PROVIDER_NAMES` -/
def generationProviderNames : List String := ["anthropic", "deepseek"]

section Settings

variable [Text]

/-- `services_catalog._is_present` -/
def isPresentCatalog (settings : Settings) (envKey : String) : Bool :=
  match envKeyToSetting.lookup envKey with
  | none => false
  | some attr =>
    match settings attr with
    | none => false
    | some .other => true
    | some (.text s) => strip s ≠ ""

/-- `_is_present` -/
def isPresent (settings : Settings) (envKey : String) : Bool :=
  match extraEnvKeyToSetting.lookup envKey with
  | none => isPresentCatalog settings envKey
  | some attr =>
    match settings attr with
    | none => false
    | some .other => true
    | some (.text s) =>
      if envKey = "PUBLIC_HOSTNAME" ∧ strip s ∈ nonPublicHosts then false else strip s ≠ ""

/-- `_active_llm_provider` -/
def activeLlmProvider (settings : Settings) : String :=
  let provider :=
    match settings "llm_provider" with
    | some (.text s) => lower (strip (if s = "" then "anthropic" else s))
    | _ => "anthropic"
  if provider ∈ generationProviderNames then provider else "anthropic"

end Settings

/-! ### Specifications, probe facts and truths -/

/-- What a live probe has established. -/
structure ProbeFacts where
  networkOk : Option Bool := none
  authOk : Option Bool := none
  permissionOk : Option Bool := none
  liveDataOk : Option Bool := none
  dataSource : DataSource := .none
  sampleCount : Option ℤ := none
  evidence : String := ""
  lastErrorSafe : Option String := none
  probedAt : Option String := none
  successAt : Option String := none
  tokenExpiresAt : Option String := none

structure ConnectorSpec where
  name : String
  displayName : String
  group : Group
  /-- Settings, by their environment keys, that the connector needs. -/
  requiredNonsecret : List String
  requiredSecrets : List String
  requiredForGoLive : Bool
  /-- The name of the probe function. -/
  probe : Option String := none
  note : String := ""
  disabled : Bool := false

structure ConnectorTruth where
  name : String
  displayName : String
  group : Group
  state : ConnectorState
  summary : String
  configured : Bool
  missingRequiredConfig : List String
  secretPresent : Bool
  authOk : Option Bool
  networkOk : Option Bool
  permissionOk : Option Bool
  liveDataOk : Option Bool
  dataSource : DataSource
  lastProbeAt : Option String
  lastSuccessAt : Option String
  tokenExpiresAt : Option String
  lastErrorSafe : Option String
  sampleCount : Option ℤ
  evidence : String
  requiredForGoLive : Bool
  blocksGoLive : Bool

structure ConnectorTruthReport where
  readiness : Readiness
  readinessReason : String
  reportGeneration : ReportGeneration
  reportGenerationReason : String
  generatedAt : String
  corePlatform : List ConnectorTruth
  auth : List ConnectorTruth
  externalConnectors : List ConnectorTruth
  aiProviders : List ConnectorTruth
  edge : List ConnectorTruth
  blocking : List String

def anthropicSpec : ConnectorSpec where
  name := "anthropic"
  displayName := "Anthropic (report generation)"
  group := .aiProvider
  requiredNonsecret := []
  requiredSecrets := ["ANTHROPIC_API_KEY"]
  requiredForGoLive := true
  note := "Generation LLM. No billable probe; key-presence only. " ++
    "Active only when LLM_PROVIDER=anthropic."

def deepseekSpec : ConnectorSpec where
  name := "deepseek"
  displayName := "DeepSeek (report generation)"
  group := .aiProvider
  requiredNonsecret := []
  requiredSecrets := ["DEEPSEEK_API_KEY"]
  requiredForGoLive := true
  probe := "_probe_deepseek"
  note := "Active generation LLM (LLM_PROVIDER=deepseek). " ++
    "1-token probe verifies key and endpoint."

/-- `CONNECTOR_SPECS` -/
def connectorSpecs : List ConnectorSpec :=
  [{ name := "postgres", displayName := "PostgreSQL", group := .corePlatform
     requiredNonsecret := ["POSTGRES_HOST", "POSTGRES_PORT", "POSTGRES_DB", "POSTGRES_USER"]
     requiredSecrets := ["POSTGRES_PASSWORD"], requiredForGoLive := true
     probe := "_probe_postgres" },
   { name := "redis", displayName := "Redis", group := .corePlatform
     requiredNonsecret := ["REDIS_URL"], requiredSecrets := [], requiredForGoLive := true
     probe := "_probe_redis" },
   { name := "qdrant", displayName := "Qdrant", group := .corePlatform
     requiredNonsecret := ["QDRANT_URL"], requiredSecrets := [], requiredForGoLive := true
     probe := "_probe_qdrant" },
   { name := "minio", displayName := "MinIO", group := .corePlatform
     requiredNonsecret := ["MINIO_ENDPOINT", "MINIO_BUCKET", "MINIO_ACCESS_KEY"]
     requiredSecrets := ["MINIO_SECRET_KEY"], requiredForGoLive := true
     probe := "_probe_minio" },
   { name := "public_edge", displayName := "Cloudflare Tunnel / public edge", group := .edge
     requiredNonsecret := ["PUBLIC_HOSTNAME"], requiredSecrets := [], requiredForGoLive := true
     probe := "_probe_public_edge" },
   { name := "caddy_routing", displayName := "Caddy routing", group := .edge
     requiredNonsecret := ["PUBLIC_HOSTNAME"], requiredSecrets := [], requiredForGoLive := true
     probe := "_probe_caddy_routing" },
   { name := "entra_auth", displayName := "Microsoft Entra authentication", group := .auth
     requiredNonsecret := ["ENTRA_CLIENT_ID", "ENTRA_TENANT_ID"], requiredSecrets := []
     requiredForGoLive := true, probe := "_probe_entra"
     note := "Live proof requires a validated user token; not testable server-side." },
   { name := "n8n", displayName := "n8n webhook", group := .externalConnector
     requiredNonsecret := ["N8N_BASE_URL"], requiredSecrets := ["N8N_WEBHOOK_TOKEN"]
     requiredForGoLive := true, probe := "_probe_n8n" },
   { name := "sharepoint", displayName := "SharePoint", group := .externalConnector
     requiredNonsecret := ["SHAREPOINT_SEARCH_WEBHOOK", "N8N_BASE_URL"]
     requiredSecrets := ["N8N_WEBHOOK_TOKEN"], requiredForGoLive := true
     probe := "_probe_sharepoint_source_mapping"
     note := "Verified from current PRJ-001/PRJ-002 source mapping evidence." },
   { name := "microsoft_graph", displayName := "Email / mailbox connector"
     group := .externalConnector
     requiredNonsecret := ["EMAIL_SEARCH_WEBHOOK", "N8N_BASE_URL"]
     requiredSecrets := ["N8N_WEBHOOK_TOKEN"], requiredForGoLive := true
     probe := "_probe_microsoft_graph_source_mapping"
     note := "Verified from current PRJ-001/PRJ-002 group mailbox/member evidence." },
   { name := "owncloud", displayName := "ownCloud", group := .externalConnector
     requiredNonsecret := ["OWNCLOUD_LIST_WEBHOOK", "OWNCLOUD_USERNAME", "N8N_BASE_URL"]
     requiredSecrets := ["OWNCLOUD_PASSWORD", "N8N_WEBHOOK_TOKEN"], requiredForGoLive := false
     note := "ownCloud is disabled — not part of any project's enabled sources."
     disabled := true },
   { name := "odoo", displayName := "Odoo", group := .externalConnector
     requiredNonsecret :=
       ["ODOO_READ_WEBHOOK", "ODOO_URL", "ODOO_DATABASE", "ODOO_USERNAME", "N8N_BASE_URL"]
     requiredSecrets := ["ODOO_API_KEY", "N8N_WEBHOOK_TOKEN"], requiredForGoLive := true
     probe := "_probe_odoo" },
   anthropicSpec, deepseekSpec,
   { name := "voyage", displayName := "Voyage (embeddings)", group := .aiProvider
     requiredNonsecret := [], requiredSecrets := ["VOYAGE_API_KEY"], requiredForGoLive := false
     probe := "_probe_voyage"
     note := "Supplementary Qdrant indexing. Probe verifies key validity. " ++
       "Not on critical report path; does not block go-live." },
   { name := "cohere", displayName := "Cohere (rerank)", group := .aiProvider
     requiredNonsecret := [], requiredSecrets := ["COHERE_API_KEY"], requiredForGoLive := false
     probe := "_probe_cohere"
     note := "Evidence rerank in node_12 (graceful fallback on failure). " ++
       "Not on critical path; does not block go-live." }]

/-! ### Classification -/

/-- `_state_from_facts` -/
def stateFromFacts (facts : ProbeFacts) : ConnectorState :=
  if facts.dataSource = .mock ∨ facts.dataSource = .fixture then .mockOnly
  else if facts.dataSource = .evidence ∧ facts.liveDataOk = some true then .verifiedFromEvidence
  else if facts.networkOk = some false then .networkFailed
  else if facts.authOk = some false then .authFailed
  else if facts.permissionOk = some false then .permissionFailed
  else if facts.liveDataOk = some true then .liveOk
  else if facts.liveDataOk = some false ∧ facts.networkOk = some true then .connectedNoData
  else .configuredNotTested

/-- `_state_label` -/
def stateLabel : ConnectorState → String
  | .notConfigured => "Not configured"
  | .configuredNotTested => "Configured — not tested"
  | .authFailed => "Authentication failed"
  | .permissionFailed => "Permission/scope missing"
  | .networkFailed => "Unreachable"
  | .connectedNoData => "Connected — no data"
  | .validated => "Validated"
  | .previouslyValidatedTokenExpired => "Previously validated — token expired"
  | .verifiedFromEvidence => "Verified from evidence"
  | .liveOk => "Live"
  | .mockOnly => "Sample/mock data only"
  | .disabled => "Disabled"
  | .unknown => "Unknown"

/-- `_satisfies_go_live` -/
def satisfiesGoLive (state : ConnectorState) : Bool :=
  state ∈ [.liveOk, .validated, .verifiedFromEvidence]

/-- The state of a connector that was probed; `entra_auth` has two states of its own. -/
def probedState (name : String) (facts : ProbeFacts) : ConnectorState :=
  if name = "entra_auth" ∧ facts.dataSource = .evidence ∧ facts.liveDataOk = some true then
    .validated
  else if name = "entra_auth" ∧ facts.dataSource = .evidence ∧
      facts.liveDataOk = some false then
    .previouslyValidatedTokenExpired
  else stateFromFacts facts

section Report

variable [Text]

/-- `_inactive_generation_provider` -/
def inactiveGenerationProvider (settings : Settings) (spec : ConnectorSpec) : Bool :=
  spec.group = .aiProvider ∧ spec.name ∈ generationProviderNames ∧
    spec.name ≠ activeLlmProvider settings

/-- The connector is turned off, or is a generation provider that is not the active one. -/
def dormant (settings : Settings) (spec : ConnectorSpec) : Bool :=
  spec.disabled || inactiveGenerationProvider settings spec

def disabledEvidence (settings : Settings) (spec : ConnectorSpec) : String :=
  if inactiveGenerationProvider settings spec then
    "inactive generation provider; the LLM_PROVIDER runtime switch selects " ++
      activeLlmProvider settings
  else if spec.note = "" then "intentionally disabled" else spec.note

def disabledTruth (settings : Settings) (spec : ConnectorSpec) : ConnectorTruth where
  name := spec.name
  displayName := spec.displayName
  group := spec.group
  state := .disabled
  summary := spec.displayName ++ ": Disabled"
  configured := false
  missingRequiredConfig := []
  secretPresent := false
  authOk := none
  networkOk := none
  permissionOk := none
  liveDataOk := none
  dataSource := .none
  lastProbeAt := none
  lastSuccessAt := none
  tokenExpiresAt := none
  lastErrorSafe := none
  sampleCount := none
  evidence := sanitizeDetail (some (disabledEvidence settings spec))
  requiredForGoLive := spec.requiredForGoLive
  blocksGoLive := false

def missingConfig (settings : Settings) (spec : ConnectorSpec) : List String :=
  spec.requiredNonsecret.filter fun key => !isPresent settings key

def secretPresent (settings : Settings) (spec : ConnectorSpec) : Bool :=
  spec.requiredSecrets.all (isPresent settings)

def configured (settings : Settings) (spec : ConnectorSpec) : Bool :=
  (missingConfig settings spec).isEmpty && secretPresent settings spec

/-- The probe's facts, where it is called; `answer` is none if it raises. -/
def probeFacts (settings : Settings) (spec : ConnectorSpec) (answer : Option ProbeFacts)
    (runProbe : Bool) : Option ProbeFacts :=
  if configured settings spec && runProbe && spec.probe.isSome then
    some (answer.getD { lastErrorSafe := some "probe raised unexpectedly" })
  else none

/-- State, summary, evidence and facts of a connector that is not dormant. -/
def assess (settings : Settings) (spec : ConnectorSpec) (facts : Option ProbeFacts) :
    ConnectorState × String × String × ProbeFacts :=
  if !configured settings spec then
    let bits := missingConfig settings spec ++
      if secretPresent settings spec then [] else ["<required secret missing>"]
    (.notConfigured, spec.displayName ++ ": Not configured",
      "missing required config: " ++ ", ".intercalate bits, facts.getD {})
  else
    match facts with
    | none =>
      let evidence :=
        if spec.note = "" then "configured; no live probe available server-side" else spec.note
      (.configuredNotTested, spec.displayName ++ ": Configured — not tested", evidence,
        { evidence := evidence })
    | some facts =>
      let state := probedState spec.name facts
      (state, spec.displayName ++ ": " ++ stateLabel state,
        if facts.evidence = "" then spec.note else facts.evidence, facts)

/-- `classify` -/
def classify (settings : Settings) (spec : ConnectorSpec) (answer : Option ProbeFacts)
    (runProbe : Bool) : ConnectorTruth :=
  if dormant settings spec then disabledTruth settings spec
  else
    let (state, summary, evidence, facts) :=
      assess settings spec (probeFacts settings spec answer runProbe)
    { name := spec.name
      displayName := spec.displayName
      group := spec.group
      state := state
      summary := summary
      configured := configured settings spec
      missingRequiredConfig := missingConfig settings spec
      secretPresent := secretPresent settings spec
      authOk := facts.authOk
      networkOk := facts.networkOk
      permissionOk := facts.permissionOk
      liveDataOk := facts.liveDataOk
      dataSource := facts.dataSource
      lastProbeAt := facts.probedAt
      lastSuccessAt := facts.successAt
      tokenExpiresAt := facts.tokenExpiresAt
      lastErrorSafe :=
        if facts.lastErrorSafe.all (· = "") then none
        else some (sanitizeDetail facts.lastErrorSafe)
      sampleCount := facts.sampleCount
      evidence := sanitizeDetail (some evidence)
      requiredForGoLive := spec.requiredForGoLive
      blocksGoLive := spec.requiredForGoLive && !satisfiesGoLive state }

/-! ### The report -/

/-- `{t.name: t for t in truths}.get(name)`: of several truths of a name the last. -/
def byName (truths : List ConnectorTruth) (name : String) : Option ConnectorTruth :=
  truths.reverse.find? (·.name = name)

/-- Core platform and edge connectors that are not live. -/
def coreEdgeDown (truths : List ConnectorTruth) : List String :=
  (truths.filter fun t =>
    (t.group = .corePlatform ∨ t.group = .edge) ∧ t.state ≠ .liveOk).map (·.name)

def authUnconfigured (truths : List ConnectorTruth) : Bool :=
  (byName truths "entra_auth").any fun auth => !auth.configured

/-- Connectors required for go-live whose state does not satisfy it. -/
def notLive (truths : List ConnectorTruth) : List String :=
  ((truths.filter (·.requiredForGoLive)).filter fun t => !satisfiesGoLive t.state).map (·.name)

/-- `_compute_readiness` -/
def computeReadiness (truths : List ConnectorTruth) : Readiness × String :=
  let down := coreEdgeDown truths
  if down ≠ [] ∨ authUnconfigured truths then
    let bits := (if down = [] then [] else ["core/edge not live: " ++ ", ".intercalate down]) ++
      if authUnconfigured truths then ["Entra auth not configured"] else []
    (.notReady, "; ".intercalate bits)
  else if notLive truths = [] then
    (.readyForUat,
      "all required dependencies passed a live probe or accepted current evidence")
  else
    (.partialReady, "core platform, edge and login are up; pending live validation: " ++
      ", ".intercalate (notLive truths))

/-- `_report_generation_status` -/
def reportGenerationStatus (settings : Settings) (ai : List ConnectorTruth) :
    ReportGeneration × String :=
  let active := activeLlmProvider settings
  if (byName ai active).all fun generation => !generation.configured then
    (.blocked, "provider keys missing — " ++ active.toUpper ++ "_API_KEY not set (LLM_PROVIDER=" ++
      active ++ ")")
  else
    let missing := (ai.filter fun t => !t.configured && t.state ≠ .disabled).map (·.displayName)
    if missing ≠ [] then
      (.degraded, "secondary providers missing: " ++ ", ".intercalate missing)
    else (.ready, "provider keys present (not yet live-verified)")

/-- The classified connectors; `answers` is what the probes answer, by the connector's place. -/
def truths (settings : Settings) (specs : List ConnectorSpec) (answers : ℕ → Option ProbeFacts)
    (runProbes : Bool) : List ConnectorTruth :=
  specs.mapIdx fun i spec => classify settings spec (answers i) runProbes

def blocking (truths : List ConnectorTruth) : List String :=
  (truths.filter (·.blocksGoLive)).map (·.name)

/-- `build_report` -/
def buildReport (settings : Settings) (specs : List ConnectorSpec)
    (answers : ℕ → Option ProbeFacts) (runProbes : Bool) (now : String) : ConnectorTruthReport :=
  let ts := truths settings specs answers runProbes
  let inGroup (group : Group) := ts.filter (·.group = group)
  let (readiness, reason) := computeReadiness ts
  let (generation, generationReason) := reportGenerationStatus settings (inGroup .aiProvider)
  { readiness := readiness
    readinessReason := reason
    reportGeneration := generation
    reportGenerationReason := generationReason
    generatedAt := now
    corePlatform := inGroup .corePlatform
    auth := inGroup .auth
    externalConnectors := inGroup .externalConnector
    aiProviders := inGroup .aiProvider
    edge := inGroup .edge
    blocking := blocking ts }

end Report

end DecisionCenter.Admin
