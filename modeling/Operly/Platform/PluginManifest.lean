import Mathlib.Data.Finset.Sort
import Mathlib.Data.String.Basic
import Operly.Kernel.Contracts
import Operly.Python.Mappings

/-! The manifest of a plugin: its parts, what is checked of them, how it is read, and its form as a
dictionary. -/

namespace Operly.Platform.Plugin
open Python Kernel

inductive ManifestError where
  | contract (message : String)
  | key (name : String)
  | failure (failure : Failure)
  deriving DecidableEq

abbrev Checked := Except ManifestError

def refuse (message : String) : Checked Unit := .error (.contract message)

def raised {α : Type} (result : Except Failure α) : Checked α := result.mapError .failure

/-- `_ID_RE` -/
def isId (text : String) : Bool :=
  match text.toList with
  | [] => false
  | first :: rest =>
      first.isLower && decide (1 ≤ rest.length ∧ rest.length ≤ 119) &&
        rest.all fun c => c.isLower || c.isDigit || c = '_' || c = '.' || c = '-'

/-- `_VERSION_RE` -/
def isVersion (text : String) : Bool :=
  let suffixed (c : Char) : Bool := c = '-' || c = '+'
  let numbers := splitChars '.' (text.toList.takeWhile fun c => !suffixed c)
  let suffix := text.toList.dropWhile fun c => !suffixed c
  decide (numbers.length = 3) && numbers.all (fun number => !number.isEmpty && number.all Char.isDigit) &&
    match suffix with
    | [] => true
    | _ :: rest => !rest.isEmpty && rest.all fun c => c.isAlphanum || c = '_' || c = '.' || c = '-'

def isHostname (host : String) : Bool :=
  let normalized := lower (strip host)
  normalized ≠ "" && !contains normalized "/" && !contains normalized "://" && !contains normalized " "

def blank (text : String) : Bool := strip text = ""

/-- `schema.get("type") == "object"` -/
def isObjectSchema (schema : Mapping) : Bool :=
  (schema.get (.str "type")).any fun kind => Json.same kind (.str "object")

inductive PluginExecutionMode where
  | platformNative
  | remoteHttp
  | sandboxJob
  | webService
  | worker
  | staticSite
  deriving DecidableEq

namespace PluginExecutionMode

def value : PluginExecutionMode → String
  | .platformNative => "platform_native"
  | .remoteHttp => "remote_http"
  | .sandboxJob => "sandbox_job"
  | .webService => "web_service"
  | .worker => "worker"
  | .staticSite => "static_site"

/-- `PluginExecutionMode(text)`; `none` stands for `ValueError`. -/
def ofValue (text : String) : Option PluginExecutionMode :=
  [platformNative, remoteHttp, sandboxJob, webService, worker, staticSite].find? fun mode => mode.value = text

@[simp] theorem ofValue_value (mode : PluginExecutionMode) : ofValue mode.value = some mode := by
  cases mode <;> decide

end PluginExecutionMode

structure ResourcePolicy where
  cpuMillicores : Int
  memoryMb : Int
  diskMb : Int
  maxRuntimeSeconds : Int
  maxConcurrency : Int
  deriving DecidableEq

def ResourcePolicy.validate (policy : ResourcePolicy) : Checked Unit := do
  if ¬ (50 ≤ policy.cpuMillicores ∧ policy.cpuMillicores ≤ 8000) then
    refuse "cpu_millicores must be between 50 and 8000"
  if ¬ (64 ≤ policy.memoryMb ∧ policy.memoryMb ≤ 32768) then refuse "memory_mb must be between 64 and 32768"
  if ¬ (64 ≤ policy.diskMb ∧ policy.diskMb ≤ 102400) then refuse "disk_mb must be between 64 and 102400"
  if ¬ (1 ≤ policy.maxRuntimeSeconds ∧ policy.maxRuntimeSeconds ≤ 86400) then
    refuse "max_runtime_seconds must be between 1 and 86400"
  if ¬ (1 ≤ policy.maxConcurrency ∧ policy.maxConcurrency ≤ 100) then
    refuse "max_concurrency must be between 1 and 100"

structure NetworkPolicy where
  mode : String
  allowedHosts : List String
  deriving DecidableEq

def NetworkPolicy.validate (policy : NetworkPolicy) : Checked Unit := do
  if policy.mode ∉ ["off", "egress"] then refuse "network mode must be off or egress"
  if policy.mode = "off" ∧ policy.allowedHosts ≠ [] then refuse "allowed_hosts requires egress network mode"
  if ¬ policy.allowedHosts.all isHostname then refuse "allowed_hosts entries must be hostnames, not URLs"

structure RuntimeRequirement where
  profile : String
  kind : String
  network : NetworkPolicy
  resources : ResourcePolicy
  exposedPort : Option Int
  healthPath : Option String
  deriving DecidableEq

def RuntimeRequirement.validate (runtime : RuntimeRequirement) : Checked Unit := do
  if ¬ isId runtime.profile then refuse "runtime profile must be a normalized ID"
  if runtime.kind ∉ ["job", "web", "worker", "static", "remote"] then refuse "runtime kind is unsupported"
  runtime.network.validate
  runtime.resources.validate
  if runtime.exposedPort.any fun port => ¬ (1 ≤ port ∧ port ≤ 65535) then refuse "exposed_port is invalid"
  if runtime.healthPath.any fun path => ¬ startsWith path "/" then refuse "health_path must begin with /"

structure StorageRequest where
  name : String
  kind : String
  quotaBytes : Int
  deriving DecidableEq

def StorageRequest.validate (storage : StorageRequest) : Checked Unit := do
  if ¬ isId storage.name then refuse "storage name must be a normalized ID"
  if storage.kind ∉ ["kv", "document", "blob"] then refuse "storage kind must be kv, document, or blob"
  if ¬ (1024 ≤ storage.quotaBytes ∧ storage.quotaBytes ≤ 100 * 1024 * 1024 * 1024) then
    refuse "storage quota is outside platform limits"

structure CredentialRequest where
  name : String
  credentialType : String
  required : Bool
  scopes : List String
  allowedHosts : List String
  description : String
  deriving DecidableEq

def CredentialRequest.validate (credential : CredentialRequest) : Checked Unit := do
  if ¬ isId credential.name then refuse "credential name must be a normalized ID"
  if credential.credentialType ∉ ["api_key", "bearer", "basic", "oauth2", "custom"] then
    refuse "unsupported credential_type"
  if ¬ credential.allowedHosts.all isHostname then refuse "credential allowed_hosts entries must be hostnames"
  if 100 < credential.scopes.length then refuse "credential request has too many scopes"

structure EventDeclaration where
  name : String
  description : String
  schema : Mapping
  deriving DecidableEq

def EventDeclaration.validate (event : EventDeclaration) : Checked Unit := do
  if ¬ isId event.name then refuse "event name must be a normalized ID"
  if ¬ isObjectSchema event.schema then refuse "event schema must be an object schema"

structure BindingRequest where
  semanticName : String
  capabilityQuery : String
  required : Bool
  deriving DecidableEq

def BindingRequest.validate (binding : BindingRequest) : Checked Unit := do
  if ¬ isId binding.semanticName then refuse "binding semantic_name must be a normalized ID"
  if blank binding.capabilityQuery then refuse "binding capability_query is required"

structure UIContribution where
  contributionType : String
  id : String
  title : String
  configuration : Mapping
  deriving DecidableEq

def UIContribution.validate (contribution : UIContribution) : Checked Unit := do
  if contribution.contributionType ∉ ["navigation", "card", "table", "form", "settings", "iframe"] then
    refuse "unsupported UI contribution type"
  if ¬ isId contribution.id then refuse "UI contribution ID must be normalized"
  if blank contribution.title then refuse "UI contribution title is required"

structure PluginCapability where
  id : String
  displayName : String
  description : String
  inputSchema : Mapping
  outputSchema : Mapping
  permissions : List String
  risk : CapabilityRisk
  approvalRequired : Bool
  reversible : Bool
  aliases : List String
  emits : List String
  tags : Finset String
  deriving DecidableEq

def PluginCapability.validate (capability : PluginCapability) : Checked Unit := do
  if ¬ isId capability.id then refuse s!"invalid capability ID: {capability.id}"
  if blank capability.displayName ∨ blank capability.description then
    refuse s!"capability {capability.id} requires display_name and description"
  if ¬ isObjectSchema capability.inputSchema then
    refuse s!"capability {capability.id} input_schema must be an object schema"
  if ¬ isObjectSchema capability.outputSchema then
    refuse s!"capability {capability.id} output_schema must be an object schema"

structure PluginManifest where
  schemaVersion : String
  pluginId : String
  version : String
  displayName : String
  description : String
  executionMode : PluginExecutionMode
  capabilities : List PluginCapability
  permissions : List String
  configurationSchema : Mapping
  runtime : Option RuntimeRequirement
  storage : List StorageRequest
  credentials : List CredentialRequest
  producesEvents : List EventDeclaration
  consumesEvents : List String
  requestedBindings : List BindingRequest
  ui : List UIContribution
  metadata : Mapping
  deriving DecidableEq

namespace PluginManifest

def validateRuntime (manifest : PluginManifest) : Checked Unit :=
  match manifest.runtime with
  | none => .ok ()
  | some runtime => do
      runtime.validate
      manifest.credentials.forM fun credential =>
        if credential.allowedHosts.all fun host => runtime.network.allowedHosts.contains host then .ok ()
        else refuse s!"credential {credential.name} cannot authorize hosts outside the runtime egress allowlist"

def validate (manifest : PluginManifest) : Checked Unit := do
  if manifest.schemaVersion ≠ "operly.plugin/v1" then refuse "unsupported plugin manifest schema_version"
  if ¬ isId manifest.pluginId then refuse "plugin_id must be a normalized lowercase ID"
  if ¬ isVersion manifest.version then refuse "plugin version must use semantic x.y.z form"
  if blank manifest.displayName ∨ blank manifest.description then
    refuse "plugin display_name and description are required"
  if ¬ isObjectSchema manifest.configurationSchema then refuse "configuration_schema must be an object schema"
  if ¬ (manifest.capabilities.map PluginCapability.id).Nodup then refuse "plugin capability IDs must be unique"
  if ¬ (manifest.storage.map StorageRequest.name).Nodup then refuse "plugin storage names must be unique"
  if ¬ (manifest.credentials.map CredentialRequest.name).Nodup then
    refuse "plugin credential request names must be unique"
  manifest.capabilities.forM PluginCapability.validate
  manifest.storage.forM StorageRequest.validate
  manifest.credentials.forM CredentialRequest.validate
  manifest.producesEvents.forM EventDeclaration.validate
  manifest.requestedBindings.forM BindingRequest.validate
  manifest.ui.forM UIContribution.validate
  manifest.validateRuntime
  if manifest.executionMode = .platformNative ∧ manifest.runtime ≠ none then
    refuse "platform_native plugins do not declare an untrusted runtime"
  if manifest.executionMode ≠ .platformNative ∧ manifest.runtime = none then
    refuse "non-native plugins must declare a runtime requirement"

end PluginManifest

def texts (values : List String) : Tree := .json (.arr (values.map .str))

def ResourcePolicy.asdict (policy : ResourcePolicy) : Tree := .record [
  ("cpu_millicores", .json (.int policy.cpuMillicores)),
  ("memory_mb", .json (.int policy.memoryMb)),
  ("disk_mb", .json (.int policy.diskMb)),
  ("max_runtime_seconds", .json (.int policy.maxRuntimeSeconds)),
  ("max_concurrency", .json (.int policy.maxConcurrency))]

def NetworkPolicy.asdict (policy : NetworkPolicy) : Tree := .record [
  ("mode", .json (.str policy.mode)),
  ("allowed_hosts", texts policy.allowedHosts)]

def RuntimeRequirement.asdict (runtime : RuntimeRequirement) : Tree := .record [
  ("profile", .json (.str runtime.profile)),
  ("kind", .json (.str runtime.kind)),
  ("network", runtime.network.asdict),
  ("resources", runtime.resources.asdict),
  ("exposed_port", .json ((runtime.exposedPort.map .int).getD .null)),
  ("health_path", .json ((runtime.healthPath.map .str).getD .null))]

def StorageRequest.asdict (storage : StorageRequest) : Tree := .record [
  ("name", .json (.str storage.name)),
  ("kind", .json (.str storage.kind)),
  ("quota_bytes", .json (.int storage.quotaBytes))]

def CredentialRequest.asdict (credential : CredentialRequest) : Tree := .record [
  ("name", .json (.str credential.name)),
  ("credential_type", .json (.str credential.credentialType)),
  ("required", .json (.bool credential.required)),
  ("scopes", texts credential.scopes),
  ("allowed_hosts", texts credential.allowedHosts),
  ("description", .json (.str credential.description))]

def EventDeclaration.asdict (event : EventDeclaration) : Tree := .record [
  ("name", .json (.str event.name)),
  ("description", .json (.str event.description)),
  ("schema", .mapping event.schema)]

def BindingRequest.asdict (binding : BindingRequest) : Tree := .record [
  ("semantic_name", .json (.str binding.semanticName)),
  ("capability_query", .json (.str binding.capabilityQuery)),
  ("required", .json (.bool binding.required))]

def UIContribution.asdict (contribution : UIContribution) : Tree := .record [
  ("contribution_type", .json (.str contribution.contributionType)),
  ("id", .json (.str contribution.id)),
  ("title", .json (.str contribution.title)),
  ("configuration", .mapping contribution.configuration)]

def PluginCapability.asdict (capability : PluginCapability) : Tree := .record [
  ("id", .json (.str capability.id)),
  ("display_name", .json (.str capability.displayName)),
  ("description", .json (.str capability.description)),
  ("input_schema", .mapping capability.inputSchema),
  ("output_schema", .mapping capability.outputSchema),
  ("permissions", texts capability.permissions),
  ("risk", .json (.str capability.risk.value)),
  ("approval_required", .json (.bool capability.approvalRequired)),
  ("reversible", .json (.bool capability.reversible)),
  ("aliases", texts capability.aliases),
  ("emits", texts capability.emits),
  ("tags", texts (capability.tags.sort (· ≤ ·)))]

def PluginManifest.toDict (manifest : PluginManifest) : Tree := .record [
  ("schema_version", .json (.str manifest.schemaVersion)),
  ("plugin_id", .json (.str manifest.pluginId)),
  ("version", .json (.str manifest.version)),
  ("display_name", .json (.str manifest.displayName)),
  ("description", .json (.str manifest.description)),
  ("execution_mode", .json (.str manifest.executionMode.value)),
  ("capabilities", .list (manifest.capabilities.map PluginCapability.asdict)),
  ("permissions", texts manifest.permissions),
  ("configuration_schema", .mapping manifest.configurationSchema),
  ("runtime", (manifest.runtime.map RuntimeRequirement.asdict).getD (.json .null)),
  ("storage", .list (manifest.storage.map StorageRequest.asdict)),
  ("credentials", .list (manifest.credentials.map CredentialRequest.asdict)),
  ("produces_events", .list (manifest.producesEvents.map EventDeclaration.asdict)),
  ("consumes_events", texts manifest.consumesEvents),
  ("requested_bindings", .list (manifest.requestedBindings.map BindingRequest.asdict)),
  ("ui", .list (manifest.ui.map UIContribution.asdict)),
  ("metadata", .mapping manifest.metadata)]

/-! ### Reading -/

section Reading
variable (spelling : Spelling)

/-- `raw[key]` -/
def required (raw : Fields) (key : String) : Checked Json :=
  match Fields.get raw key with
  | some value => .ok value
  | none => .error (.key key)

/-- `str(raw[key])` -/
def requiredText (raw : Fields) (key : String) : Checked String := do
  return (← required raw key).toStr spelling

/-- `str(raw.get(key) or default)` -/
def text (raw : Fields) (key default : String) : String := (Fields.getOr raw key (.str default)).toStr spelling

/-- `tuple(str(v) for v in raw.get(key) or [])` -/
def textsOf (raw : Fields) (key : String) : Checked (List String) := do
  return (← raised (Fields.getOr raw key (.arr [])).iterate).map (Json.toStr spelling)

/-- `int(raw.get(key) or default)` -/
def integer (raw : Fields) (key : String) (default : Int) : Checked Int :=
  raised (Fields.getOr raw key (.int default)).toInt

/-- `bool(raw.get(key, default))` -/
def flag (raw : Fields) (key : String) (default : Bool) : Bool := ((Fields.get raw key).getD (.bool default)).truthy

def dictOf (raw : Fields) (key : String) (default : Fields) : Checked Mapping :=
  raised (Mapping.dict (Fields.getOr raw key (.obj default)))

def objectItem {α : Type} (label : String) (read : Fields → Checked α) (item : Json) : Checked α :=
  match item with
  | .obj fields => read fields
  | _ => .error (.contract s!"{label} entries must be objects")

/-- `tuple_of`, and `object_item` of each -/
def objectsOf {α : Type} (raw : Fields) (key : String) (read : Fields → Checked α) : Checked (List α) :=
  match Fields.getOr raw key (.arr []) with
  | .arr items => items.mapM (objectItem key read)
  | _ => .error (.contract s!"{key} must be an array")

def member {α : Type} (found : Option α) : Checked α :=
  match found with
  | some value => .ok value
  | none => .error (.failure .valueError)

def PluginCapability.fromDict (item : Fields) : Checked PluginCapability := do
  let id ← requiredText spelling item "id"
  let displayName ← requiredText spelling item "display_name"
  let description ← requiredText spelling item "description"
  let inputSchema ← dictOf item "input_schema" [("type", .str "object"), ("properties", .obj [])]
  let outputSchema ← dictOf item "output_schema" [("type", .str "object"), ("properties", .obj [])]
  let permissions ← textsOf spelling item "permissions"
  let risk ← member (CapabilityRisk.ofValue (text spelling item "risk" "read_only"))
  let aliases ← textsOf spelling item "aliases"
  let emits ← textsOf spelling item "emits"
  let tags ← textsOf spelling item "tags"
  return {
    id := id
    displayName := displayName
    description := description
    inputSchema := inputSchema
    outputSchema := outputSchema
    permissions := permissions
    risk := risk
    approvalRequired := flag item "approval_required" false
    reversible := flag item "reversible" false
    aliases := aliases
    emits := emits
    tags := tags.toFinset }

def NetworkPolicy.fromDict (raw : Fields) : Checked NetworkPolicy := do
  return ⟨text spelling raw "mode" "off", ← textsOf spelling raw "allowed_hosts"⟩

def ResourcePolicy.fromDict (raw : Fields) : Checked ResourcePolicy := do
  return {
    cpuMillicores := ← integer raw "cpu_millicores" 500
    memoryMb := ← integer raw "memory_mb" 512
    diskMb := ← integer raw "disk_mb" 1024
    maxRuntimeSeconds := ← integer raw "max_runtime_seconds" 300
    maxConcurrency := ← integer raw "max_concurrency" 1 }

def objectOf (raw : Fields) (key : String) : Checked Fields :=
  match Fields.getOr raw key (.obj []) with
  | .obj fields => .ok fields
  | _ => .error (.contract s!"runtime.{key} must be an object")

def exposedPortOf (raw : Fields) : Checked (Option Int) :=
  match Fields.get raw "exposed_port" with
  | none | some .null => .ok none
  | some value => (raised value.toInt).map some

def healthPathOf (raw : Fields) : Option String :=
  ((Fields.get raw "health_path").filter Json.truthy).map (Json.toStr spelling)

def RuntimeRequirement.fromDict (raw : Fields) : Checked RuntimeRequirement := do
  let networkRaw ← objectOf raw "network"
  let resourcesRaw ← objectOf raw "resources"
  let network ← NetworkPolicy.fromDict spelling networkRaw
  let resources ← ResourcePolicy.fromDict resourcesRaw
  let port ← exposedPortOf raw
  return ⟨text spelling raw "profile" "", text spelling raw "kind" "", network, resources, port,
    healthPathOf spelling raw⟩

def runtimeOf (raw : Fields) : Checked (Option RuntimeRequirement) :=
  match Fields.get raw "runtime" with
  | none | some .null => .ok none
  | some (.obj fields) => (RuntimeRequirement.fromDict spelling fields).map some
  | some _ => .error (.contract "runtime must be an object")

def StorageRequest.fromDict (v : Fields) : Checked StorageRequest := do
  let name ← requiredText spelling v "name"
  let quotaBytes ← integer v "quota_bytes" (10 * 1024 * 1024)
  return ⟨name, text spelling v "kind" "kv", quotaBytes⟩

def CredentialRequest.fromDict (v : Fields) : Checked CredentialRequest := do
  let name ← requiredText spelling v "name"
  let scopes ← textsOf spelling v "scopes"
  let allowedHosts ← textsOf spelling v "allowed_hosts"
  return ⟨name, text spelling v "credential_type" "custom", flag v "required" true, scopes, allowedHosts,
    text spelling v "description" ""⟩

def EventDeclaration.fromDict (v : Fields) : Checked EventDeclaration := do
  let name ← requiredText spelling v "name"
  let schema ← dictOf v "schema" [("type", .str "object")]
  return ⟨name, text spelling v "description" "", schema⟩

def BindingRequest.fromDict (v : Fields) : Checked BindingRequest := do
  let semanticName ← requiredText spelling v "semantic_name"
  let capabilityQuery ← requiredText spelling v "capability_query"
  return ⟨semanticName, capabilityQuery, flag v "required" true⟩

def UIContribution.fromDict (v : Fields) : Checked UIContribution := do
  let contributionType ← requiredText spelling v "contribution_type"
  let id ← requiredText spelling v "id"
  let title ← requiredText spelling v "title"
  let configuration ← dictOf v "configuration" []
  return ⟨contributionType, id, title, configuration⟩

def PluginManifest.read (raw : Fields) : Checked PluginManifest := do
  let capabilities ← objectsOf raw "capabilities" (PluginCapability.fromDict spelling)
  let runtime ← runtimeOf spelling raw
  let executionMode ← member (PluginExecutionMode.ofValue (text spelling raw "execution_mode" ""))
  let permissions ← textsOf spelling raw "permissions"
  let configurationSchema ← dictOf raw "configuration_schema"
    [("type", .str "object"), ("properties", .obj []), ("additionalProperties", .bool false)]
  let storage ← objectsOf raw "storage" (StorageRequest.fromDict spelling)
  let credentials ← objectsOf raw "credentials" (CredentialRequest.fromDict spelling)
  let producesEvents ← objectsOf raw "produces_events" (EventDeclaration.fromDict spelling)
  let consumesEvents ← textsOf spelling raw "consumes_events"
  let requestedBindings ← objectsOf raw "requested_bindings" (BindingRequest.fromDict spelling)
  let ui ← objectsOf raw "ui" (UIContribution.fromDict spelling)
  let metadata ← dictOf raw "metadata" []
  return {
    schemaVersion := text spelling raw "schema_version" ""
    pluginId := text spelling raw "plugin_id" ""
    version := text spelling raw "version" ""
    displayName := text spelling raw "display_name" ""
    description := text spelling raw "description" ""
    executionMode := executionMode
    capabilities := capabilities
    permissions := permissions
    configurationSchema := configurationSchema
    runtime := runtime
    storage := storage
    credentials := credentials
    producesEvents := producesEvents
    consumesEvents := consumesEvents
    requestedBindings := requestedBindings
    ui := ui
    metadata := metadata }

def PluginManifest.fromDict (raw : Json) : Checked PluginManifest :=
  match raw with
  | .obj fields => do
      let manifest ← PluginManifest.read spelling fields
      manifest.validate
      return manifest
  | _ => .error (.contract "plugin manifest must be an object")

end Reading

end Operly.Platform.Plugin
