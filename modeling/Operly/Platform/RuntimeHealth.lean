import Operly.Platform.LeaseQueue
import Operly.Platform.PluginManifest

/-! Reconciliation of a remote plugin runtime: a job of the platform worker asks the runtime for its
health and records the answer in the instance that an activation looks for. -/

namespace Operly.Platform.RuntimeHealth
open Python Relational Plugin

/-! ### The tables -/

/-- `PluginInstallationRecord` -/
structure Installation where
  id : String
  tenantId : String
  packageId : String
  versionId : String
  status : String
  enabled : Bool
  configuration : Fields
  updatedAt : Int
  deriving DecidableEq

/-- `PluginVersionRecord`, with the value that `manifest_json` encodes, if it is JSON -/
structure Version where
  id : String
  manifest : Option Json
  validationStatus : String
  deriving DecidableEq

/-- `PluginRuntimeInstanceRecord`, with the value that `health_evidence_json` encodes -/
structure Instance where
  id : String
  tenantId : String
  installationId : String
  versionId : String
  runtimeProfile : String
  runtimeKind : String
  state : String
  provider : Option String
  providerReference : Option String
  endpointReference : Option String
  healthState : String
  healthEvidence : Fields
  lastHeartbeatAt : Option Int
  updatedAt : Int
  deriving DecidableEq

/-- `DigitalEventOutboxRecord`, with the value that `payload_json` encodes -/
structure OutboxEvent where
  id : String
  tenantId : String
  eventType : String
  sourceKind : String
  sourceId : String
  subjectType : String
  subjectId : String
  payload : Fields
  deriving DecidableEq

/-- `DigitalPlatformJobRecord`, with the value that `payload_json` encodes, if it is JSON -/
structure Job where
  row : QueueRow
  tenantId : Option String
  jobType : String
  subjectKind : String
  subjectId : String
  payload : Option Json
  deriving DecidableEq

def Job.id (job : Job) : String := job.row.id

structure State where
  jobs : Table Job String Job.id
  installations : Table Installation String Installation.id
  versions : Table Version String Version.id
  instances : Table Instance String Instance.id
  events : List OutboxEvent

/-- What `urlsplit` finds in a URL; an explicit port that is no number has a `none` of its own. -/
structure SplitResult where
  scheme : String
  username : Option String
  password : Option String
  hostname : Option String
  port : Option (Option Int)
  query : String
  fragment : String

inductive Interruption where
  | timeout
  | httpError
  deriving DecidableEq

inductive Exchange where
  | refused (interruption : Interruption)
  | streamed (status : Int) (chunks : List (List UInt8)) (interruption : Option Interruption)

abbrev Resolution := Option (List (String × Bool))

structure Environment where
  spelling : Spelling
  sha256 : List UInt8 → String
  urlsplit : String → Option SplitResult
  getaddrinfo : String → Int → Resolution
  stream : String → Exchange
  checkedAt : Int
  flushedAt : Int
  finishedAt : Int
  instanceId : String
  eventId : String

/-! ### The reconciler -/

structure ReconciliationError where
  message : String
  permanent : Bool
  code : Option String
  deriving DecidableEq

def permanent (message : String) : ReconciliationError := ⟨message, true, none⟩
def transient (message : String) : ReconciliationError := ⟨message, false, none⟩

structure ReconciliationResult where
  runtimeInstanceId : String
  state : String
  healthState : String
  provider : String
  endpoint : Option String
  evidence : Fields

inductive RuntimeAdapter where
  | remoteHttp
  | sandboxJob
  deriving DecidableEq

/-- `require_supported_runtime`; the error has the reason and its code. -/
def requireSupportedRuntime (manifest : PluginManifest) : Except (String × String) RuntimeAdapter :=
  let pair := manifest.runtime.map fun runtime => (runtime.profile, runtime.kind)
  let mismatch : String × String := ("runtime_profile_mode_mismatch",
    s!"Runtime profile/kind does not match the {manifest.executionMode.value} adapter.")
  match manifest.executionMode with
  | .platformNative => .error ("platform_native_reserved",
      "platform_native providers ship with trusted Operly code; Workspace plugins cannot provision them.")
  | .remoteHttp => if pair = some ("remote-http", "remote") then .ok .remoteHttp else .error mismatch
  | .sandboxJob => if pair = some ("sandbox-job", "job") then .ok .sandboxJob else .error mismatch
  | mode => .error ("unsupported_runtime_mode",
      s!"Operly has no registered runtime adapter for {mode.value}. Historical manifests remain readable.")

section Reconciler
variable (env : Environment)

def context (state : State) (tenantId installationId : String) :
    Except ReconciliationError (Installation × Version × PluginManifest) :=
  match (state.installations.find installationId).filter (·.tenantId = tenantId) with
  | none => .error (permanent "Plugin installation not found")
  | some installation =>
      match state.versions.find installation.versionId with
      | none => .error (permanent "Plugin version not found")
      | some version =>
          match version.manifest.map (PluginManifest.fromDict env.spelling) with
          | none | some (.error _) => .error (permanent "Installed plugin manifest is invalid")
          | some (.ok manifest) =>
              match requireSupportedRuntime manifest with
              | .error (code, reason) => .error ⟨s!"{code}: {reason}", true, some code⟩
              | .ok _ =>
                  if version.validationStatus ≠ "passed" then
                    .error (transient "Plugin runtime cannot reconcile until package validation passes")
                  else .ok (installation, version, manifest)

def rstrip (c : Char) (value : String) : String := String.ofList (value.toList.reverse.dropWhile (· = c)).reverse

def validateRemoteBaseUrl (value : String) : Except String (String × String × Int) :=
  let raw := rstrip '/' (strip value)
  if raw = "" ∨ 1800 < raw.length then .error "Remote plugin runtime_endpoint is missing or too long"
  else match env.urlsplit raw with
    | none => .error "Remote plugin runtime_endpoint is invalid"
    | some parsed =>
        match parsed.hostname.filter (· ≠ "") with
        | none => .error "Remote plugin runtime_endpoint must use HTTPS"
        | some hostname =>
            if lower parsed.scheme ≠ "https" then .error "Remote plugin runtime_endpoint must use HTTPS"
            else if parsed.username.any (· ≠ "") ∨ parsed.password.any (· ≠ "") ∨ parsed.query ≠ "" ∨
                parsed.fragment ≠ "" then
              .error "Remote plugin runtime_endpoint may not contain credentials, query, or fragment"
            else
              let host := rstrip '.' (lower hostname)
              if host ∈ ["localhost", "localhost.localdomain"] ∨
                  [".localhost", ".local", ".internal", ".home.arpa"].any (endsWith host) then
                .error "Remote plugin runtime_endpoint may not use a local hostname"
              else match parsed.port with
                | some none => .error "Remote plugin runtime_endpoint port is invalid"
                | some (some port) =>
                    let port := if port = 0 then 443 else port
                    if 1 ≤ port ∧ port ≤ 65535 then .ok (raw, host, port)
                    else .error "Remote plugin runtime_endpoint port is invalid"
                | none => .ok (raw, host, 443)

local instance textsTrans : IsTrans String (· ≤ ·) := inferInstance

local instance textsAntisymm : Std.Antisymm (α := String) (· ≤ ·) := inferInstance

def assertPublicRuntimeHost (host : String) (port : Int) : Except ReconciliationError (List String) :=
  match env.getaddrinfo host port with
  | none => .error (transient "Remote plugin runtime DNS could not be resolved")
  | some [] => .error (transient "Remote plugin runtime DNS returned no addresses")
  | some addresses =>
      if addresses.all (·.2) then .ok ((addresses.map (·.1)).toFinset.sort (· ≤ ·))
      else .error (permanent "Remote plugin runtime resolves to a private, local, or reserved address")

def latest : List Instance → Option Instance
  | [] => none
  | row :: rest =>
      match latest rest with
      | none => some row
      | some other => if row.updatedAt < other.updatedAt then some other else some row

theorem latest_eq_none {rows : List Instance} : latest rows = none ↔ rows = [] := by
  cases rows with
  | nil => simp [latest]
  | cons row rest =>
    simp only [latest, reduceCtorEq, iff_false]
    split
    · simp
    · split <;> simp

theorem latest_mem {rows : List Instance} {row : Instance} (chosen : latest rows = some row) : row ∈ rows := by
  induction rows with
  | nil => cases chosen
  | cons first rest ih =>
    rw [latest] at chosen
    split at chosen
    · exact Option.some.inj chosen ▸ List.mem_cons_self
    · next other found =>
      split at chosen
      · exact List.mem_cons_of_mem _ (ih (found.trans chosen))
      · exact Option.some.inj chosen ▸ List.mem_cons_self

def knownEndpoint (state : State) (tenantId installationId : String) : Option String :=
  (latest (state.instances.select fun row => row.tenantId = tenantId ∧ row.installationId = installationId ∧
    row.provider = some "remote-http" ∧ row.endpointReference ≠ none)).bind (·.endpointReference)

structure Prepared where
  installation : Installation
  version : Version
  runtime : RuntimeRequirement
  base : String
  host : String
  addresses : List String

/-- The base URL of an endpoint that may be asked, with its host and addresses -/
def target (runtime : RuntimeRequirement) (endpoint : Option String) :
    Except ReconciliationError (String × String × List String) :=
  match endpoint.filter (· ≠ "") with
  | none => .error (permanent "Remote HTTP runtime reconciliation requires an endpoint")
  | some endpoint => do
      let (base, host, port) ← (validateRemoteBaseUrl env endpoint).mapError permanent
      if (runtime.network.allowedHosts.map fun value => rstrip '.' (lower value)).contains host = false then
        .error (permanent "Remote runtime host must be declared in runtime.network.allowed_hosts")
      let addresses ← assertPublicRuntimeHost env host port
      return (base, host, addresses)

/-- `reconcile_remote_http` up to the instance -/
def prepare (state : State) (tenantId installationId : String) (endpoint : Option String) :
    Except ReconciliationError Prepared := do
  let (installation, version, manifest) ← context env state tenantId installationId
  if manifest.executionMode ≠ .remoteHttp then
    .error (permanent "This runtime reconciler only handles remote_http installations")
  match manifest.runtime.filter (·.kind = "remote") with
  | none => .error (permanent "Remote HTTP plugin runtime contract is invalid")
  | some runtime => do
      let (base, host, addresses) ← target env runtime
        ((endpoint.filter (· ≠ "")).or (knownEndpoint state tenantId installationId))
      return ⟨installation, version, runtime, base, host, addresses⟩

namespace Prepared
variable (prepared : Prepared)

def reconcilable (row : Instance) : Bool :=
  row.tenantId = prepared.installation.tenantId ∧ row.installationId = prepared.installation.id ∧
    row.versionId = prepared.version.id ∧ row.provider = some "remote-http"

def existing (state : State) : Option Instance := latest (state.instances.select prepared.reconcilable)

def healthUrl : String :=
  prepared.base ++ (prepared.runtime.healthPath.filter (· ≠ "")).getD "/health"

end Prepared

def touched (flushedAt : Int) (old new : Instance) : Instance :=
  if new = old then old else { new with updatedAt := flushedAt }

/-- `_remote_instance` with the flush that follows -/
def remoteInstance (state : State) (prepared : Prepared) : Instance × State :=
  match prepared.existing state with
  | none =>
      let row : Instance := {
        id := env.instanceId
        tenantId := prepared.installation.tenantId
        installationId := prepared.installation.id
        versionId := prepared.version.id
        runtimeProfile := prepared.runtime.profile
        runtimeKind := prepared.runtime.kind
        state := "provisioning"
        provider := some "remote-http"
        providerReference := some prepared.host
        endpointReference := some prepared.base
        healthState := "warming"
        healthEvidence := []
        lastHeartbeatAt := none
        updatedAt := env.flushedAt }
      (row, { state with instances := state.instances.insert row })
  | some old =>
      let row := touched env.flushedAt old { old with
        runtimeProfile := prepared.runtime.profile
        runtimeKind := prepared.runtime.kind
        providerReference := some prepared.host
        endpointReference := some prepared.base
        state := "provisioning"
        healthState := "warming" }
      (row, { state with instances := state.instances.replace row })

inductive Answer where
  | interrupted (interruption : Interruption)
  | oversized
  | complete (status : Int) (body : List UInt8)
  deriving DecidableEq

def maxHealthBytes : Nat := 64 * 1024

def readBody (body : List UInt8) : List (List UInt8) → Option (List UInt8)
  | [] => some body
  | chunk :: rest => if maxHealthBytes < (body ++ chunk).length then none else readBody (body ++ chunk) rest

def Exchange.answer : Exchange → Answer
  | .refused interruption => .interrupted interruption
  | .streamed status chunks interruption =>
      match readBody [] chunks, interruption with
      | none, _ => .oversized
      | some _, some interruption => .interrupted interruption
      | some body, none => .complete status body

def healthy (status : Int) : Bool := 200 ≤ status ∧ status < 300

def Answer.failed : Answer → Bool
  | .complete status _ => !healthy status
  | _ => true

def interruptedEvidence (url : String) (interruption : Interruption) : Fields := [
  ("checked_at", .str (isoformat env.checkedAt)),
  ("health_url", .str url),
  ("error", .str (match interruption with | .timeout => "timeout" | .httpError => "network_error"))]

def answerEvidence (prepared : Prepared) (status : Int) (body : List UInt8) : Fields := [
  ("checked_at", .str (isoformat env.checkedAt)),
  ("health_url", .str prepared.healthUrl),
  ("status_code", .int status),
  ("response_bytes", .int body.length),
  ("response_sha256", .str (env.sha256 body)),
  ("resolved_address_count", .int prepared.addresses.length),
  ("redirects_followed", .bool false)]

def healthEvent (prepared : Prepared) (row : Instance) : OutboxEvent where
  id := env.eventId
  tenantId := prepared.installation.tenantId
  eventType := if row.healthState = "healthy" then "plugin.runtime.healthy" else "plugin.runtime.unhealthy"
  sourceKind := "plugin_runtime_instance"
  sourceId := row.id
  subjectType := "plugin_installation"
  subjectId := prepared.installation.id
  payload := [("installation_id", .str prepared.installation.id), ("runtime_instance_id", .str row.id),
    ("provider", .str "remote-http"), ("health_state", .str row.healthState)]

/-- `reconcile_remote_http` from the instance on: the result, and the tables as the session leaves them -/
def checkHealth (state : State) (prepared : Prepared) : Except ReconciliationError ReconciliationResult × State :=
  let (row, state) := remoteInstance env state prepared
  match (env.stream prepared.healthUrl).answer with
  | .oversized => (.error (permanent "Remote runtime health response exceeds 64 KiB"), state)
  | .interrupted interruption =>
      let failed := touched env.flushedAt row { row with
        state := "failed"
        healthState := "unhealthy"
        healthEvidence := interruptedEvidence env prepared.healthUrl interruption }
      (.error (transient (match interruption with
        | .timeout => "Remote runtime health check timed out"
        | .httpError => "Remote runtime health check failed")),
        { state with instances := state.instances.replace failed })
  | .complete status body =>
      let checked := { row with
        state := if healthy status then "ready" else "failed"
        healthState := if healthy status then "healthy" else "unhealthy"
        healthEvidence := answerEvidence env prepared status body
        lastHeartbeatAt := if healthy status then some env.checkedAt else none
        updatedAt := env.checkedAt }
      let after := { state with
        instances := state.instances.replace checked
        events := state.events ++ [healthEvent env prepared checked] }
      if healthy status then
        (.ok ⟨checked.id, checked.state, checked.healthState, "remote-http", some prepared.base,
          checked.healthEvidence⟩, after)
      else (.error (transient s!"Remote runtime health endpoint returned HTTP {status}"), after)

def reconcileRemoteHttp (state : State) (tenantId installationId : String) (endpoint : Option String) :
    Except ReconciliationError ReconciliationResult × State :=
  match prepare env state tenantId installationId endpoint with
  | .error error => (.error error, state)
  | .ok prepared => checkHealth env state prepared

end Reconciler

inductive JobError where
  | permanent (message : String)
  | other (name message : String)
  deriving DecidableEq

abbrev Handler := Job → State → Except JobError Fields × State

def ReconciliationResult.report (result : ReconciliationResult) : Fields := [
  ("runtime_instance_id", .str result.runtimeInstanceId),
  ("state", .str result.state),
  ("health_state", .str result.healthState),
  ("provider", .str result.provider),
  ("endpoint", (result.endpoint.map .str).getD .null),
  ("evidence", .obj result.evidence)]

structure Worker where
  id : String
  env : Environment
  reconcileSandboxJob : State → String → String → Except ReconciliationError ReconciliationResult × State
  otherHandler : String → Option Handler

namespace Worker
variable (worker : Worker)

def reconcile (state : State) (tenantId installationId : String) (endpoint : Option String) :
    Except ReconciliationError ReconciliationResult × State :=
  match context worker.env state tenantId installationId with
  | .error error => (.error error, state)
  | .ok (_, _, manifest) =>
      match requireSupportedRuntime manifest with
      | .error (code, reason) => (.error ⟨s!"{code}: {reason}", false, none⟩, state)
      | .ok .remoteHttp => reconcileRemoteHttp worker.env state tenantId installationId endpoint
      | .ok .sandboxJob => worker.reconcileSandboxJob state tenantId installationId

def endpoint (job : Job) : Option String :=
  let payload : Fields := match job.payload with
    | some (.obj fields) => fields
    | _ => []
  some (strip ((Fields.getOr payload "endpoint" (.str "")).toStr worker.env.spelling)) |>.filter (· ≠ "")

def reconcilePluginRuntimeJob : Handler := fun job state =>
  match job.tenantId.filter (· ≠ ""), job.subjectKind with
  | some tenantId, "plugin_installation" =>
      match worker.reconcile state tenantId job.subjectId (worker.endpoint job) with
      | (.ok result, after) => (.ok result.report, after)
      | (.error error, after) =>
          (.error (if error.permanent then .permanent error.message
            else .other "RuntimeReconciliationError" error.message), after)
  | _, _ => (.error (.permanent "plugin.runtime.reconcile requires a Workspace plugin_installation subject"), state)

def handler (jobType : String) : Option Handler :=
  if jobType = "plugin.runtime.reconcile" then some worker.reconcilePluginRuntimeJob else worker.otherHandler jobType

def held (state : State) (jobId : String) : Option Job :=
  (state.jobs.find jobId).filter fun job => job.row.status = .leased ∧ job.row.lockedBy = some worker.id

def settle (state : State) (job : Job) (row : Except QueueError QueueRow) : Option State :=
  match row with
  | .ok row => some { state with jobs := state.jobs.replace { job with row := row } }
  | .error _ => none

def fail (job : Job) (message : String) (retryAfterSeconds : Int) (permanent : Bool) : Except QueueError QueueRow :=
  QueueService.jobs.fail worker.id worker.env.finishedAt message retryAfterSeconds permanent (some job.row)

def recover (state : State) (jobId : String) (message : String) : State :=
  match worker.held state jobId with
  | none => state
  | some job =>
      let retry : Int := min (30 * 2 ^ (job.row.attempts - 1)) 3600
      (settle state job (worker.fail job message retry false)).getD state

/-- `_process_job`: the tables after the worker has finished with a job -/
def processJob (state : State) (jobId : String) : State :=
  match worker.held state jobId with
  | none => state
  | some job =>
      match worker.handler job.jobType with
      | none =>
          let message := s!"No trusted platform handler registered for {job.jobType}"
          (settle state job (worker.fail job message 60 true)).getD state
      | some handler =>
          match handler job state with
          | (.ok result, after) =>
              let row := QueueService.jobs.complete worker.id worker.env.finishedAt
                { result := some (Json.dumps worker.env.spelling (Json.obj result).sortKeys) } (some job.row)
              match settle after job row with
              | some finished => finished
              | none => worker.recover state jobId "PermissionError: Platform job lease is not owned by this worker"
          | (.error (.permanent message), after) =>
              -- the changes of the handler are committed with the failure
              (settle after job (worker.fail job message 60 true)).getD state
          | (.error (.other name message), _) =>
              worker.recover state jobId s!"{name}: {String.ofList (message.toList.take 4000)}"

end Worker

inductive PluginLifecycleState where
  | proposed
  | validating
  | installed
  | configuring
  | active
  | degraded
  | disabled
  | failed
  | uninstalling
  | uninstalled
  deriving DecidableEq

def PluginLifecycleState.value : PluginLifecycleState → String
  | .proposed => "proposed"
  | .validating => "validating"
  | .installed => "installed"
  | .configuring => "configuring"
  | .active => "active"
  | .degraded => "degraded"
  | .disabled => "disabled"
  | .failed => "failed"
  | .uninstalling => "uninstalling"
  | .uninstalled => "uninstalled"

inductive PlatformError where
  | platform (message : String)
  | lookup (message : String)
  | manifest (error : Option ManifestError)
  | unsupported (code reason : String)

def Instance.Of (row : Instance) (installation : Installation) (version : Version) : Prop :=
  row.tenantId = installation.tenantId ∧ row.installationId = installation.id ∧ row.versionId = version.id

instance (row : Instance) (installation : Installation) (version : Version) :
    Decidable (row.Of installation version) := inferInstanceAs (Decidable (_ ∧ _ ∧ _))

def Instance.Usable (row : Instance) : Prop := row.state ∈ ["ready", "running"] ∧ row.healthState = "healthy"

instance (row : Instance) : Decidable row.Usable := inferInstanceAs (Decidable (_ ∧ _))

def assertActivationReady (spelling : Spelling) (state : State) (installation : Installation) :
    Except PlatformError Unit :=
  match (state.versions.find installation.versionId).filter (·.validationStatus = "passed") with
  | none => .error (.platform "Plugin cannot activate until package validation passes")
  | some version =>
      match version.manifest.map (PluginManifest.fromDict spelling) with
      | none => .error (.manifest none)
      | some (.error error) => .error (.manifest (some error))
      | some (.ok manifest) =>
          match requireSupportedRuntime manifest with
          | .error (code, reason) => .error (.unsupported code reason)
          | .ok _ =>
              match latest (state.instances.select fun row => row.Of installation version ∧ row.Usable) with
              | none => .error (.platform "Plugin cannot activate until a healthy validated runtime is ready")
              | some _ => .ok ()

def PluginLifecycleState.off : List PluginLifecycleState := [.disabled, .failed, .uninstalling, .uninstalled]

def setInstallationState (worker : Worker) (state : State) (tenantId installationId : String)
    (status : PluginLifecycleState) (enabled : Option Bool) (configuration : Option Fields) :
    Except PlatformError (Installation × State) :=
  match (state.installations.find installationId).filter (·.tenantId = tenantId) with
  | none => .error (.lookup "Plugin installation not found")
  | some row => do
      let wantsEnabled := enabled.getD row.enabled
      if status = .active ∨ wantsEnabled then
        if status ≠ .active then .error (.platform "Enabled plugins must be in active lifecycle state")
        assertActivationReady worker.env.spelling state row
      let row : Installation := { row with
        status := status.value
        enabled := decide (status = .active) || wantsEnabled && !PluginLifecycleState.off.contains status
        configuration := configuration.getD row.configuration
        updatedAt := worker.env.flushedAt }
      let event : OutboxEvent := ⟨worker.env.eventId, tenantId, "plugin." ++ status.value, "plugin_installation", row.id,
        "plugin", row.packageId, [("installation_id", .str row.id), ("status", .str row.status),
          ("enabled", .bool row.enabled)]⟩
      return (row, { state with
        installations := state.installations.replace row
        events := state.events ++ [event] })

/-! ### What is left of a failed check -/

structure Attempted (worker : Worker) (before : State) (jobId : String) (job : Job) (tenantId : String)
    (prepared : Prepared) : Prop where
  held : worker.held before jobId = some job
  jobType : job.jobType = "plugin.runtime.reconcile"
  tenant : job.tenantId = some tenantId
  named : tenantId ≠ ""
  subject : job.subjectKind = "plugin_installation"
  prepared : prepare worker.env before tenantId job.subjectId (worker.endpoint job) = .ok prepared

/-- No instance of the installation and the version is left ready and healthy, and it cannot be activated. -/
def Remembers (worker : Worker) (state : State) (installation : Installation) (version : Version) : Prop :=
  (∀ row ∈ state.instances.rows, row.Of installation version → ¬ (row.state = "ready" ∧ row.healthState = "healthy")) ∧
    ∀ enabled configuration, ∃ error, setInstallationState worker state installation.tenantId installation.id .active
      enabled configuration = .error error

structure Found (env : Environment) (state : State) (tenantId installationId : String) (installation : Installation)
    (version : Version) : Prop where
  installed : state.installations.find installationId = some installation
  owned : installation.tenantId = tenantId
  released : state.versions.find installation.versionId = some version
  passed : version.validationStatus = "passed"
  supported : ∃ manifest adapter, version.manifest.map (PluginManifest.fromDict env.spelling) = some (.ok manifest) ∧
    requireSupportedRuntime manifest = .ok adapter

section Spec
variable {env : Environment} {state : State} {tenantId installationId : String}

theorem context_spec {installation : Installation} {version : Version} {manifest : PluginManifest}
    (read : context env state tenantId installationId = .ok (installation, version, manifest)) :
    Found env state tenantId installationId installation version ∧
      ∃ adapter, requireSupportedRuntime manifest = .ok adapter := by
  unfold context at read
  split at read
  · cases read
  · next row known =>
    split at read
    · cases read
    · next release found =>
      split at read
      · cases read
      · cases read
      · next parsed decoded =>
        split at read
        · cases read
        · next adapter supported =>
          split at read
          · cases read
          · next passed =>
            cases read
            obtain ⟨held, tenant⟩ := Option.filter_eq_some_iff.mp known
            exact ⟨⟨held, of_decide_eq_true tenant, found, not_not.mp passed, _, adapter, decoded, supported⟩,
              adapter, supported⟩

theorem prepare_spec {endpoint : Option String} {prepared : Prepared}
    (ready : prepare env state tenantId installationId endpoint = .ok prepared) : ∃ manifest,
      context env state tenantId installationId = .ok (prepared.installation, prepared.version, manifest) ∧
        manifest.executionMode = .remoteHttp := by
  simp only [prepare, bind_eq_ok] at ready
  obtain ⟨⟨installation, version, manifest⟩, read, rest⟩ := ready
  split at rest
  · cases rest
  · next remote =>
    refine ⟨manifest, ?_, not_not.mp remote⟩
    split at rest
    · cases rest
    · obtain ⟨⟨base, host, addresses⟩, -, same⟩ := bind_eq_ok.mp rest
      cases same
      exact read

theorem adapter_remote {manifest : PluginManifest} {adapter : RuntimeAdapter}
    (supported : requireSupportedRuntime manifest = .ok adapter) (remote : manifest.executionMode = .remoteHttp) :
    adapter = .remoteHttp := by
  unfold requireSupportedRuntime at supported
  rw [remote] at supported
  dsimp only at supported
  split at supported
  · cases supported
    rfl
  · cases supported

theorem checkHealth_failed (state : State) {prepared : Prepared} (failed : (env.stream prepared.healthUrl).answer.failed = true) :
    ∃ error after, checkHealth env state prepared = (.error error, after) ∧
      ((∃ answer, (env.stream prepared.healthUrl).answer = answer ∧ answer ≠ .oversized ∧ error.permanent = false) ∨
        (env.stream prepared.healthUrl).answer = .oversized ∧ error.permanent = true ∧
          after = (remoteInstance env state prepared).2) := by
  unfold checkHealth
  cases answered : (env.stream prepared.healthUrl).answer with
  | oversized => exact ⟨_, _, rfl, .inr ⟨rfl, rfl, rfl⟩⟩
  | interrupted interruption => exact ⟨_, _, rfl, .inl ⟨_, rfl, by simp, rfl⟩⟩
  | complete status body =>
    rw [answered, Answer.failed, Bool.not_eq_true'] at failed
    simp only [failed]
    exact ⟨_, _, rfl, .inl ⟨_, rfl, by simp, rfl⟩⟩

theorem touched_id (flushedAt : Int) (old new : Instance) : (touched flushedAt old new).id = new.id := by
  unfold touched
  split
  · next same => rw [same]
  · rfl

theorem usable_touched {flushedAt : Int} {old new : Instance} : (touched flushedAt old new).Usable ↔ new.Usable := by
  unfold touched
  split
  · next same => rw [same]
  · rfl

theorem unusable_of_provisioning {row : Instance} (provisioning : row.state = "provisioning") : ¬ row.Usable := by
  intro usable
  have ready := usable.1
  rw [provisioning] at ready
  exact absurd ready (by decide)

theorem existing_mem {prepared : Prepared} {row : Instance} (existing : prepared.existing state = some row) :
    row ∈ state.instances.rows ∧ prepared.reconcilable row = true := by
  have selected := Table.mem_select.mp (latest_mem existing)
  exact ⟨Table.find_mem selected.1, selected.2⟩

theorem usable_remoteInstance {prepared : Prepared} {row : Instance} :
    row ∈ (remoteInstance env state prepared).2.instances.rows ∧ row.Usable ↔
      row ∈ state.instances.rows ∧ row.Usable ∧ prepared.existing state ≠ some row := by
  unfold remoteInstance
  cases existing : prepared.existing state with
  | none =>
    dsimp only
    unfold Table.insert
    split
    · simp
    · rw [List.mem_append, List.mem_singleton]
      constructor
      · rintro ⟨member | rfl, usable⟩
        · exact ⟨member, usable, by simp⟩
        · exact absurd usable (unusable_of_provisioning rfl)
      · rintro ⟨member, usable, -⟩
        exact ⟨.inl member, usable⟩
  | some old =>
    dsimp only
    have held := Table.find_of_mem (existing_mem existing).1
    rw [Table.mem_replace, touched_id, ne_eq (some old), Option.some.injEq]
    constructor
    · rintro ⟨⟨member, apart⟩ | ⟨rfl, -⟩, usable⟩
      · exact ⟨member, usable, fun same => apart (by rw [← same])⟩
      · exact absurd (usable_touched.mp usable) (unusable_of_provisioning rfl)
    · rintro ⟨member, usable, apart⟩
      refine ⟨.inl ⟨member, fun same => apart ?_⟩, usable⟩
      have found := Table.find_of_mem member
      rw [same, held] at found
      exact Option.some.inj found

end Spec

namespace Worker
variable {worker : Worker} {before after : State} {jobId : String} {job : Job}

theorem held_leased (held : worker.held before jobId = some job) :
    before.jobs.find jobId = some job ∧ job.row.status = .leased ∧ job.row.lockedBy = some worker.id := by
  obtain ⟨found, owned⟩ := Option.filter_eq_some_iff.mp held
  exact ⟨found, of_decide_eq_true owned⟩

theorem settle_fail (held : worker.held before jobId = some job) (after : State) (message : String)
    (retryAfterSeconds : Int) (permanent : Bool) :
    ∃ jobs, settle after job (worker.fail job message retryAfterSeconds permanent) = some { after with jobs := jobs } := by
  obtain ⟨-, leased, locked⟩ := held_leased held
  simp only [fail, QueueService.fail, QueueService.owned, leased, locked, ne_eq, not_true_eq_false, or_self,
    if_false, Except.map, settle]
  exact ⟨_, rfl⟩

theorem recover_keeps (worker : Worker) (state : State) (jobId message : String) :
    ∃ jobs, worker.recover state jobId message = { state with jobs := jobs } := by
  unfold recover
  cases held : worker.held state jobId with
  | none => exact ⟨state.jobs, rfl⟩
  | some job =>
    dsimp only
    obtain ⟨jobs, settled⟩ := worker.settle_fail held state message (min (30 * 2 ^ (job.row.attempts - 1)) 3600) false
    rw [settled]
    exact ⟨jobs, rfl⟩

theorem reconcile_prepared {tenantId installationId : String} {endpoint : Option String} {prepared : Prepared}
    (ready : prepare worker.env before tenantId installationId endpoint = .ok prepared) :
    worker.reconcile before tenantId installationId endpoint = checkHealth worker.env before prepared := by
  obtain ⟨manifest, read, remote⟩ := prepare_spec ready
  obtain ⟨-, adapter, supported⟩ := context_spec read
  have http := adapter_remote supported remote
  simp only [reconcile, read, supported, http, reconcileRemoteHttp, ready]

theorem processJob_failed {tenantId : String} {prepared : Prepared}
    (attempted : Attempted worker before jobId job tenantId prepared)
    (failed : (worker.env.stream prepared.healthUrl).answer.failed = true) : ∃ jobs,
      worker.processJob before jobId =
        { (if (worker.env.stream prepared.healthUrl).answer = .oversized then
            (remoteInstance worker.env before prepared).2 else before) with jobs := jobs } := by
  obtain ⟨error, after, checked, kind⟩ := checkHealth_failed before failed
  have reconciled := worker.reconcile_prepared attempted.prepared
  have handled : worker.reconcilePluginRuntimeJob job before =
      (.error (if error.permanent then .permanent error.message
        else .other "RuntimeReconciliationError" error.message), after) := by
    simp only [reconcilePluginRuntimeJob, attempted.tenant, attempted.subject, attempted.named, ne_eq,
      not_false_eq_true, decide_true, Option.filter_some, if_true, reconciled, checked]
  simp only [processJob, attempted.held, attempted.jobType, handler, if_true, handled]
  rcases kind with ⟨answer, same, answered, passing⟩ | ⟨oversized, lasting, left⟩
  · rw [passing, same, if_neg answered]
    exact worker.recover_keeps before jobId _
  · rw [lasting, oversized, if_pos rfl, left]
    dsimp only
    obtain ⟨jobs, settled⟩ := worker.settle_fail attempted.held (remoteInstance worker.env before prepared).2 error.message
      60 true
    rw [settled]
    exact ⟨jobs, rfl⟩

end Worker

section Remembers
variable {worker : Worker} {before after : State} {installation : Installation} {version : Version}

theorem assertActivationReady_refused {tenantId installationId : String}
    (found : Found worker.env before tenantId installationId installation version) (versions : after.versions = before.versions) :
    (∃ error, assertActivationReady worker.env.spelling after installation = .error error) ↔
      ∀ row ∈ after.instances.rows, row.Of installation version → ¬ row.Usable := by
  obtain ⟨manifest, adapter, decoded, supported⟩ := found.supported
  simp only [assertActivationReady, versions, found.released, Option.filter_some, found.passed, decide_true, if_true,
    decoded, supported]
  have none_left : latest (after.instances.select fun row => row.Of installation version ∧ row.Usable) = none ↔
      ∀ row ∈ after.instances.rows, row.Of installation version → ¬ row.Usable := by
    rw [latest_eq_none, Table.select, List.filter_eq_nil_iff]
    simp only [decide_eq_true_eq, not_and]
  rw [← none_left]
  cases latest (after.instances.select fun row => row.Of installation version ∧ row.Usable) with
  | none => simp
  | some row => simp

theorem setInstallationState_refused (known : after.installations.find installation.id = some installation)
    (enabled : Option Bool) (configuration : Option Fields) :
    (∃ error, setInstallationState worker after installation.tenantId installation.id .active enabled configuration =
      .error error) ↔ ∃ error, assertActivationReady worker.env.spelling after installation = .error error := by
  simp only [setInstallationState, known, Option.filter_some, decide_true, if_true, true_or, ne_eq, not_true_eq_false,
    if_false]
  cases ready : assertActivationReady worker.env.spelling after installation with
  | error error => exact ⟨fun _ => ⟨error, rfl⟩, fun _ => ⟨error, rfl⟩⟩
  | ok _ =>
    constructor
    · rintro ⟨error, rejected⟩
      cases rejected
    · rintro ⟨error, rejected⟩
      cases rejected

theorem remembers_iff {tenantId installationId : String}
    (found : Found worker.env before tenantId installationId installation version)
    (installations : after.installations = before.installations) (versions : after.versions = before.versions) :
    Remembers worker after installation version ↔
      ∀ row ∈ after.instances.rows, row.Of installation version → ¬ row.Usable := by
  have known : after.installations.find installation.id = some installation := by
    rw [installations, Table.find_key found.installed]
    exact found.installed
  have refusal := assertActivationReady_refused found versions
  constructor
  · rintro ⟨-, refused⟩
    exact refusal.mp ((setInstallationState_refused known none none).mp (refused none none))
  · intro unusable
    refine ⟨fun row member owned ready => unusable row member owned ⟨?_, ready.2⟩, fun enabled configuration => ?_⟩
    · rw [ready.1]
      decide
    · exact (setInstallationState_refused known enabled configuration).mpr (refusal.mpr unusable)

end Remembers

theorem remoteInstance_keeps (env : Environment) (state : State) (prepared : Prepared) :
    (remoteInstance env state prepared).2.installations = state.installations ∧
      (remoteInstance env state prepared).2.versions = state.versions := by
  unfold remoteInstance
  split
  · exact ⟨rfl, rfl⟩
  · exact ⟨rfl, rfl⟩

/-- A failed check is remembered if and only if the attempt found no instance that an activation accepts. Only
after an oversized body, whose failure is permanent, may there be one: the instance that was being checked. -/
theorem failed_check_remembered {worker : Worker} {before : State} {jobId tenantId : String} {job : Job}
    {prepared : Prepared} (attempted : Attempted worker before jobId job tenantId prepared)
    (failed : (worker.env.stream prepared.healthUrl).answer.failed = true) :
    Remembers worker (worker.processJob before jobId) prepared.installation prepared.version ↔
      ∀ row ∈ before.instances.rows, row.Of prepared.installation prepared.version → row.Usable →
        (worker.env.stream prepared.healthUrl).answer = .oversized ∧ prepared.existing before = some row := by
  obtain ⟨manifest, read, -⟩ := prepare_spec attempted.prepared
  obtain ⟨found, -⟩ := context_spec read
  obtain ⟨jobs, left⟩ := Worker.processJob_failed attempted failed
  rw [left]
  by_cases oversized : (worker.env.stream prepared.healthUrl).answer = .oversized
  · simp only [if_pos oversized]
    have same := remoteInstance_keeps worker.env before prepared
    rw [remembers_iff found (by exact same.1) (by exact same.2)]
    constructor
    · intro unusable row member owned usable
      refine ⟨oversized, not_not.mp fun other => ?_⟩
      have kept : row ∈ (remoteInstance worker.env before prepared).2.instances.rows :=
        (usable_remoteInstance.mpr ⟨member, usable, other⟩).1
      exact unusable row kept owned usable
    · intro checked row member owned usable
      obtain ⟨known, -, other⟩ := usable_remoteInstance.mp ⟨member, usable⟩
      exact other (checked row known owned usable).2
  · simp only [if_neg oversized]
    rw [remembers_iff found (by rfl) (by rfl)]
    constructor
    · intro unusable row member owned usable
      exact absurd usable (unusable row member owned)
    · intro checked row member owned usable
      exact oversized (checked row member owned usable).1

def impatient : Worker where
  id := "w"
  env := {
    spelling := ⟨fun _ => "0.0", fun _ => ""⟩
    sha256 _ := ""
    urlsplit _ := some ⟨"https", none, none, some "acme.io", none, "", ""⟩
    getaddrinfo _ _ := some [("93.184.216.34", true)]
    stream _ := .refused .timeout
    checkedAt := 1
    flushedAt := 1
    finishedAt := 2
    instanceId := "r2"
    eventId := "e" }
  reconcileSandboxJob state _ _ := (.error (transient "Sandbox runtime is not available"), state)
  otherHandler _ := none

def check : Job where
  row := { id := "j", status := .leased, attempts := 1, maxAttempts := 5, availableAt := 0, createdAt := 0,
           lockedBy := some "w" }
  tenantId := some "t"
  jobType := "plugin.runtime.reconcile"
  subjectKind := "plugin_installation"
  subjectId := "i"
  payload := some (.obj [("endpoint", .str "https://acme.io")])

def acme : Json := .obj [
  ("schema_version", .str "operly.plugin/v1"),
  ("plugin_id", .str "acme"),
  ("version", .str "1.0.0"),
  ("display_name", .str "Acme"),
  ("description", .str "A plugin"),
  ("execution_mode", .str "remote_http"),
  ("runtime", .obj [("profile", .str "remote-http"), ("kind", .str "remote"),
    ("network", .obj [("mode", .str "egress"), ("allowed_hosts", .arr [.str "acme.io"])])])]

def earlier (healthy : Bool) : Instance :=
  ⟨"r", "t", "i", "v", "remote-http", "remote", if healthy then "ready" else "failed", some "remote-http",
    some "acme.io", some "https://acme.io", if healthy then "healthy" else "unhealthy", [], none, 0⟩

def installed (healthy : Bool) : State where
  jobs := [check].foldl .insert .empty
  installations := [⟨"i", "t", "p", "v", "installed", false, [], 0⟩].foldl .insert .empty
  versions := [⟨"v", some acme, "passed"⟩].foldl .insert .empty
  instances := [earlier healthy].foldl .insert .empty
  events := []

theorem prepares (healthy : Bool) : ∃ prepared, Attempted impatient (installed healthy) "j" check "t" prepared := by
  have either : ∀ healthy, (prepare impatient.env (installed healthy) "t" "i" (impatient.endpoint check)).isOk = true := by
    decide
  have ready := either healthy
  cases found : prepare impatient.env (installed healthy) "t" "i" (impatient.endpoint check) with
  | error error =>
    rw [found] at ready
    cases ready
  | ok prepared => exact ⟨prepared, rfl, rfl, rfl, by decide, rfl, found⟩

/-- A runtime that was unhealthy before stays so. -/
theorem failed_check_remembered_unhealthy : ∃ prepared,
    Attempted impatient (installed false) "j" check "t" prepared ∧
      Remembers impatient (impatient.processJob (installed false) "j") prepared.installation prepared.version := by
  obtain ⟨prepared, attempted⟩ := prepares false
  refine ⟨prepared, attempted, (failed_check_remembered attempted rfl).mpr ?_⟩
  intro row member _ usable
  have only : row = earlier false := List.mem_singleton.mp member
  rw [only] at usable
  exact absurd usable (by decide)

/-- A runtime that was healthy before is still ready and healthy after its health request has timed out. -/
theorem timed_out_check_forgotten : ∃ prepared,
    Attempted impatient (installed true) "j" check "t" prepared ∧
      (impatient.env.stream prepared.healthUrl).answer = .interrupted .timeout ∧
      ¬ Remembers impatient (impatient.processJob (installed true) "j") prepared.installation prepared.version := by
  obtain ⟨prepared, attempted⟩ := prepares true
  refine ⟨prepared, attempted, rfl, fun remembered => ?_⟩
  obtain ⟨manifest, read, -⟩ := prepare_spec attempted.prepared
  obtain ⟨found, -⟩ := context_spec read
  have installation : prepared.installation = ⟨"i", "t", "p", "v", "installed", false, [], 0⟩ :=
    (Option.some.inj found.installed).symm
  have released := found.released
  rw [installation] at released
  have version : prepared.version = ⟨"v", some acme, "passed"⟩ := (Option.some.inj released).symm
  obtain ⟨jobs, left⟩ := Worker.processJob_failed attempted rfl
  rw [left, installation, version] at remembered
  exact remembered.1 (earlier true) (List.mem_singleton.mpr rfl) ⟨rfl, rfl, rfl⟩ ⟨rfl, rfl⟩

end Operly.Platform.RuntimeHealth
