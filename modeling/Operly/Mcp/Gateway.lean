import Operly.Kernel.Catalog

/-! The MCP projection of the Workspace runtime: what it lists and what it lets a client call. -/

namespace Operly.Mcp
open Python Security Kernel

structure McpRequestContext where
  tenantId : String
  userId : String
  clientId : String
  tokenScopes : List String
  grantId : Option String := none
  objective : String := "Operly MCP request"
  conversationId : Option String := none
  enforceExposure : Bool := true

structure TrustedIngress where
  scopeKind : ScopeKind
  userId : Option String
  workspaceId : Option String
  channel : String
  surface : SurfaceKind
  conversationId : Option String := none
  metadata : Fields := []
  focusWorkspaceId : Option String := none

structure WorkspaceToolExposure where
  tenantId : String
  toolId : String
  surface : String
  exposed : Bool

inductive GatewayError where
  | gateway (code message : String)
  | raised (error : KernelError)
  deriving DecidableEq

def cleanScopes (scopes : List String) : List String :=
  (scopes.filter fun item => strip item ≠ "").map fun item => lower (strip item)

def scopeAllows (spec : CapabilitySpec) (scopes : List String) : Bool :=
  let rules := cleanScopes scopes
  let capability := lower spec.id
  if rules.isEmpty then false
  else if rules.contains "workspace:*" || rules.contains capability then true
  else if rules.any fun rule =>
      endsWith rule ".*" && startsWith capability (String.ofList rule.toList.dropLast) then true
  else spec.permissions.any fun permission => rules.contains (lower permission)

/-! ### The runtime of a request -/

def pluginRuntimeProviderId : String := "operly.plugin_runtime"

/-- A registered provider; not every provider has a check of its own. -/
structure CapabilityProvider (σ : Type) where
  isAvailable : Option (σ → ExecutionContext → CapabilitySpec → Except KernelError Bool)

/-- The gateway with its runtime, over the states `σ` of the database. -/
structure McpGateway (σ : Type) where
  registry : CapabilityRegistry
  index : CapabilitySearchIndex
  /-- The provider under a normalized id. -/
  providers : String → Option (CapabilityProvider σ)
  /-- The contracts of the active plugins of the workspace. -/
  installedPlugins : σ → ExecutionContext → Except KernelError (List CapabilitySpec)
  resolveIngressContext : σ → TrustedIngress → Except KernelError ExecutionContext
  toolExposures : σ → List WorkspaceToolExposure

def loadPlugin (registry : CapabilityRegistry) (spec : CapabilitySpec) :
    Except KernelError CapabilityRegistry :=
  match registry.lookup spec.id with
  | none => registry.register spec
  | some current =>
      if current.providerId ≠ pluginRuntimeProviderId then
        .error (.runtime ("Installed plugin capability collides with Operly capability: " ++ spec.id))
      else if current.version ≠ spec.version then
        .error (.runtime ("Duplicate active plugin capability has conflicting versions: " ++ spec.id))
      else .ok registry

namespace McpGateway

variable {σ : Type} (gateway : McpGateway σ) (state : σ) (request : McpRequestContext)

def ingress : TrustedIngress where
  scopeKind := .workspace
  userId := some request.userId
  workspaceId := some request.tenantId
  channel := "mcp"
  surface := .mcpClient
  conversationId := request.conversationId
  metadata := [("ingress", .str "operly_mcp"), ("mcp_client_id", .str request.clientId),
    ("mcp_grant_id", request.grantId.elim .null .str)]

def executionContext : Except KernelError ExecutionContext :=
  gateway.resolveIngressContext state (ingress request)

/-- `request_runtime`: the registry of the workspace with its active plugins. -/
def requestRuntime (context : ExecutionContext) : Except KernelError CapabilityRegistry :=
  if !isSet context.workspaceId then .ok gateway.registry
  else do (← gateway.installedPlugins state context).foldlM loadPlugin gateway.registry

def isAvailable (context : ExecutionContext) (capability : CapabilitySpec) : Except KernelError Bool :=
  let key := lower (strip capability.providerId)
  match gateway.providers key with
  | none => .error (.lookup ("Capability provider is unavailable: " ++ key))
  | some provider =>
      match provider.isAvailable with
      | none => .ok true
      | some checker => checker state context capability

def runtimeCapabilities (context : ExecutionContext) (query : Option String) (limit : Nat) :
    Except KernelError (List CapabilitySpec) := do
  availableCapabilities gateway.index (← gateway.requestRuntime state context)
    (gateway.isAvailable state context) context query limit

/-- The exposure rows of a request, in the order in which they overwrite each other. -/
def exposureRows : List WorkspaceToolExposure :=
  if !request.enforceExposure then []
  else (gateway.toolExposures state).filter fun row =>
    row.tenantId = request.tenantId && row.surface = "mcp"

/-- `exposure.get(id.lower(), True)` -/
def exposed (spec : CapabilitySpec) : Bool :=
  match (gateway.exposureRows state request).reverse.find? fun row =>
      lower row.toolId = lower spec.id with
  | some row => row.exposed
  | none => true

def admits (spec : CapabilitySpec) : Bool :=
  spec.resourceScope = "workspace" && scopeAllows spec request.tokenScopes &&
    gateway.exposed state request spec

def availableSpecs (query : Option String) : Except KernelError (List CapabilitySpec) := do
  let context ← gateway.executionContext state request
  let specs ← gateway.runtimeCapabilities state context query (if isSet query then 100 else 1000)
  return (specs.filter (gateway.admits state request)).insertionSort fun a b => a.id ≤ b.id

structure ToolDefinition where
  name : String
  inputSchema : Fields
  outputSchema : Fields
  readOnlyHint : Bool
  providerId : String
  approvalRequired : Bool
  permissions : List String

def toolDefinition (spec : CapabilitySpec) : ToolDefinition where
  name := spec.id
  inputSchema := spec.inputSchema
  outputSchema := spec.outputSchema
  readOnlyHint := spec.risk = .readOnly
  providerId := spec.providerId
  approvalRequired := spec.approvalRequired
  permissions := spec.permissions

def listTools : Except KernelError (List ToolDefinition) :=
  (gateway.availableSpecs state request none).map fun specs => specs.map toolDefinition

def availableSpec (toolId : String) : Except GatewayError (ExecutionContext × CapabilitySpec) := do
  let normalized := lower (strip toolId)
  if normalized = "" then throw (.gateway "tool_not_found" "MCP tool name is required")
  let context ← (gateway.executionContext state request).mapError .raised
  let specs ← (gateway.runtimeCapabilities state context (some normalized) 100).mapError .raised
  match specs.find? fun spec => spec.id = normalized && gateway.admits state request spec with
  | some spec => return (context, spec)
  | none => throw (.gateway "tool_unavailable" ("This MCP tool is hidden, outside the client grant, " ++
      "unavailable from its provider, or no longer authorized for the current Workspace principal."))

/-! ### Listing against calling -/

/-- The name is among the tools that `list_tools` returns. -/
def Listed (name : String) : Prop :=
  ∃ tools, gateway.listTools state request = .ok tools ∧ ∃ tool ∈ tools, tool.name = name

def Accepted (name : String) : Prop :=
  ∃ toolId context spec, gateway.availableSpec state request toolId = .ok (context, spec) ∧
    spec.id = name

structure Served (context : ExecutionContext) (registry : CapabilityRegistry) : Prop where
  resolved : gateway.executionContext state request = .ok context
  composed : gateway.requestRuntime state context = .ok registry

/-- The available capabilities that the listing passes before it reaches an id. -/
def availableBefore (context : ExecutionContext) (registry : CapabilityRegistry) (id : String) : Nat :=
  passedBefore CapabilitySpec.id (gateway.isAvailable state context) (registry.effective context) id

structure Callable (context : ExecutionContext) (registry : CapabilityRegistry)
    (spec : CapabilitySpec) : Prop where
  effective : spec ∈ registry.effective context
  available : passed (gateway.isAvailable state context) spec = true
  admitted : gateway.admits state request spec = true

/-- Every callable tool stands among the first fifty available capabilities, and the listing
reaches no capability whose availability check raises. -/
def Covered : Prop :=
  ∀ context registry, gateway.Served state request context registry →
    ∀ spec, gateway.Callable state request context registry spec →
      gateway.availableBefore state context registry spec.id < 50 ∧
        ∀ other ∈ registry.effective context, raised (gateway.isAvailable state context) other = true →
          50 ≤ gateway.availableBefore state context registry other.id

variable {gateway} {state} {request} {context : ExecutionContext} {registry : CapabilityRegistry}

theorem runtimeCapabilities_eq (served : gateway.Served state request context registry)
    (query : Option String) (limit : Nat) :
    gateway.runtimeCapabilities state context query limit =
      availableCapabilities gateway.index registry (gateway.isAvailable state context) context
        query limit := by
  simp [runtimeCapabilities, served.composed, bind, Except.bind]

theorem unqueried_eq (served : gateway.Served state request context registry) :
    gateway.runtimeCapabilities state context none 1000 =
      takeAvailable (gateway.isAvailable state context) 50 (registry.effective context) := by
  rw [runtimeCapabilities_eq served]
  simp [availableCapabilities, isSet]

theorem listed_served {name : String} (listed : gateway.Listed state request name) :
    ∃ context registry, gateway.Served state request context registry := by
  obtain ⟨tools, answered, -⟩ := listed
  unfold listTools availableSpecs at answered
  cases resolved : gateway.executionContext state request with
  | error error => simp [resolved, bind, Except.bind, Except.map] at answered
  | ok context =>
    cases composed : gateway.requestRuntime state context with
    | error error =>
      simp [resolved, runtimeCapabilities, composed, bind, Except.bind, Except.map] at answered
    | ok registry => exact ⟨context, registry, resolved, composed⟩

theorem listed_iff (served : gateway.Served state request context registry) (name : String) :
    gateway.Listed state request name ↔ ∃ found,
      takeAvailable (gateway.isAvailable state context) 50 (registry.effective context) = .ok found ∧
        ∃ spec ∈ found, gateway.admits state request spec = true ∧ spec.id = name := by
  have answered : gateway.listTools state request =
      (takeAvailable (gateway.isAvailable state context) 50 (registry.effective context)).map
        fun found => ((found.filter (gateway.admits state request)).insertionSort
          fun a b => a.id ≤ b.id).map toolDefinition := by
    simp only [listTools, availableSpecs, served.resolved, bind, Except.bind, pure, Except.pure,
      isSet, Option.getD_none, bne_self_eq_false, Bool.false_eq_true, if_false,
      unqueried_eq served]
    cases takeAvailable (gateway.isAvailable state context) 50 (registry.effective context) <;> rfl
  constructor
  · rintro ⟨tools, listing, tool, member, rfl⟩
    rw [answered] at listing
    cases taken : takeAvailable (gateway.isAvailable state context) 50
      (registry.effective context) with
    | error error => simp [taken, Except.map] at listing
    | ok found =>
      simp only [taken, Except.map, Except.ok.injEq] at listing
      rw [← listing] at member
      obtain ⟨spec, sorted, rfl⟩ := List.mem_map.mp member
      obtain ⟨held, admitted⟩ := List.mem_filter.mp ((List.mem_insertionSort _).mp sorted)
      exact ⟨found, rfl, spec, held, admitted, rfl⟩
  · rintro ⟨found, taken, spec, held, admitted, rfl⟩
    refine ⟨_, by rw [answered, taken]; rfl, toolDefinition spec, List.mem_map_of_mem ?_, rfl⟩
    exact (List.mem_insertionSort _).mpr (List.mem_filter.mpr ⟨held, admitted⟩)

theorem availableSpec_sound {toolId : String} {spec : CapabilitySpec}
    (accepted : gateway.availableSpec state request toolId = .ok (context, spec)) :
    ∃ registry, gateway.Served state request context registry ∧
      gateway.Callable state request context registry spec := by
  unfold availableSpec at accepted
  simp only [bind, Except.bind, pure, Except.pure, throw, throwThe, MonadExceptOf.throw] at accepted
  split at accepted
  · cases accepted
  · cases resolved : gateway.executionContext state request with
    | error error => simp [resolved, Except.mapError] at accepted
    | ok served =>
      simp only [resolved, Except.mapError] at accepted
      cases composed : gateway.requestRuntime state served with
      | error error => simp [runtimeCapabilities, composed, bind, Except.bind] at accepted
      | ok registry =>
        cases offered : gateway.runtimeCapabilities state served
          (some (lower (strip toolId))) 100 with
        | error error => simp [offered] at accepted
        | ok specs =>
          simp only [offered] at accepted
          split at accepted
          · next hit found =>
            simp only [Except.ok.injEq, Prod.mk.injEq] at accepted
            obtain ⟨rfl, rfl⟩ := accepted
            have serving : gateway.Served state request served registry := ⟨resolved, composed⟩
            rw [runtimeCapabilities_eq serving] at offered
            obtain ⟨visible, available⟩ :=
              availableCapabilities_sound offered (List.mem_of_find?_eq_some found)
            have admitted := List.find?_some found
            simp only [Bool.and_eq_true] at admitted
            exact ⟨registry, serving, visible, available, admitted.2⟩
          · cases accepted

theorem availableSpec_complete (served : gateway.Served state request context registry)
    {spec : CapabilitySpec} (callable : gateway.Callable state request context registry spec) :
    gateway.availableSpec state request spec.id = .ok (context, spec) := by
  obtain ⟨normalized, nonempty⟩ :=
    registry.normalized spec (CapabilityRegistry.mem_effective.mp callable.effective).1
  have offered : gateway.runtimeCapabilities state context (some spec.id) 100 = .ok [spec] := by
    rw [runtimeCapabilities_eq served]
    exact availableCapabilities_id callable.effective callable.available
  simp [availableSpec, normalized, nonempty, served.resolved, offered, callable.admitted,
    Except.mapError, bind, Except.bind, pure, Except.pure]

theorem accepted_iff (name : String) : gateway.Accepted state request name ↔
    ∃ context registry spec, gateway.Served state request context registry ∧
      gateway.Callable state request context registry spec ∧ spec.id = name := by
  constructor
  · rintro ⟨toolId, context, spec, accepted, named⟩
    obtain ⟨registry, served, callable⟩ := availableSpec_sound accepted
    exact ⟨context, registry, spec, served, callable, named⟩
  · rintro ⟨context, registry, spec, served, callable, rfl⟩
    exact ⟨spec.id, context, spec, availableSpec_complete served callable, rfl⟩

/-- Clients can call exactly the tools they are shown if and only if the listing is not cut short
of a callable tool: by its fifty entries or by a check that raises. -/
theorem listed_iff_accepted (gateway : McpGateway σ) (state : σ) (request : McpRequestContext) :
    (∀ name, gateway.Listed state request name ↔ gateway.Accepted state request name) ↔
      gateway.Covered state request := by
  constructor
  · intro same context registry served spec callable
    have accepted := (accepted_iff spec.id).mpr ⟨context, registry, spec, served, callable, rfl⟩
    obtain ⟨found, taken, listed, member, -, named⟩ :=
      (listed_iff served spec.id).mp ((same spec.id).mpr accepted)
    have sorted : (registry.effective context).Pairwise fun a b => a.id < b.id :=
      CapabilityRegistry.effective_sorted
    refine ⟨?_, (takeAvailable_ok_iff CapabilitySpec.id sorted).mp ⟨found, taken⟩⟩
    rw [takeAvailable_eq taken, mem_take_passed CapabilitySpec.id sorted] at member
    rw [← named]
    exact member.2.2
  · intro covered name
    constructor
    · intro shown
      obtain ⟨context, registry, served⟩ := listed_served shown
      obtain ⟨found, taken, spec, member, admitted, rfl⟩ := (listed_iff served name).mp shown
      rw [takeAvailable_eq taken] at member
      obtain ⟨visible, available⟩ := List.mem_filter.mp (List.mem_of_mem_take member)
      exact (accepted_iff spec.id).mpr ⟨context, registry, spec, served,
        ⟨visible, available, admitted⟩, rfl⟩
    · intro accepted
      obtain ⟨context, registry, spec, served, callable, rfl⟩ := (accepted_iff name).mp accepted
      have sorted : (registry.effective context).Pairwise fun a b => a.id < b.id :=
        CapabilityRegistry.effective_sorted
      obtain ⟨early, quiet⟩ := covered context registry served spec callable
      obtain ⟨found, taken⟩ := (takeAvailable_ok_iff CapabilitySpec.id sorted).mpr quiet
      refine (listed_iff served spec.id).mpr ⟨found, taken, spec, ?_, callable.admitted, rfl⟩
      rw [takeAvailable_eq taken, mem_take_passed CapabilitySpec.id sorted]
      exact ⟨callable.effective, callable.available, early⟩

end McpGateway

def numberedTool (number : Nat) : CapabilitySpec where
  id := "tool." ++ (if number < 10 then "0" else "") ++ toString number
  version := "1.0.0"
  providerId := "sample"
  scopes := ["workspace"]
  inputSchema := []
  outputSchema := []
  resourceScope := "workspace"

def ownerContext (ingress : TrustedIngress) : ExecutionContext where
  workspaceId := ingress.workspaceId
  userId := ingress.userId
  role := "owner"
  permissions := []
  channel := ingress.channel
  surface := ingress.surface
  conversationId := ingress.conversationId
  metadata := ingress.metadata
  scopeKind := ingress.scopeKind
  principalId := some "user:u1"
  workspaceMode := "full"

def crowded : McpGateway Unit where
  registry := {
    specs := (List.range 51).map numberedTool
    normalized := by decide +kernel
    distinct := by decide +kernel }
  index := {
    candidateIds _ _ _ := []
    pureRetrieval _ := false
    score _ _ _ := 0
    hasResourceTerms _ := false
    resourceOverlap _ _ := 0 }
  providers _ := some ⟨none⟩
  installedPlugins _ _ := .ok []
  resolveIngressContext _ ingress := .ok (ownerContext ingress)
  toolExposures _ := []

def crowdedRequest : McpRequestContext where
  tenantId := "w1"
  userId := "u1"
  clientId := "client-1"
  tokenScopes := ["workspace:*"]

/-- The last of fifty-one tools can be called, but is never listed. -/
theorem crowded_hides_a_tool : crowded.Accepted () crowdedRequest "tool.50" ∧
    ¬ crowded.Listed () crowdedRequest "tool.50" := by
  have served : crowded.Served () crowdedRequest (ownerContext (McpGateway.ingress crowdedRequest))
      crowded.registry := ⟨rfl, rfl⟩
  constructor
  · refine (McpGateway.accepted_iff _).mpr ⟨_, _, numberedTool 50, served, ⟨?_, by rfl, ?_⟩, ?_⟩
    · rw [CapabilityRegistry.mem_effective]
      decide +kernel
    · decide +kernel
    · decide +kernel
  · intro listed
    obtain ⟨found, taken, spec, member, -, named⟩ := (McpGateway.listed_iff served _).mp listed
    rw [takeAvailable_eq taken, mem_take_passed CapabilitySpec.id CapabilityRegistry.effective_sorted,
      named] at member
    have crowd : ¬ crowded.availableBefore () (ownerContext (McpGateway.ingress crowdedRequest))
        crowded.registry "tool.50" < 50 := by
      decide +kernel
    exact crowd member.2.2

end Operly.Mcp
