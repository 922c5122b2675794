import Operly.Agent.Decisions
import Operly.Agent.Runtime
import Operly.Concurrent.Watched

/-! `Runtime1Agent.run`: the interactive loop over the decisions of a model. -/

namespace Operly.Agent
open Python Security Kernel Concurrent Fallible

structure Runtime1Limits where
  maxCycles : Nat := 10
  maxCapabilities : Nat := 6
  maxDiscoveries : Nat := 4
  maxMutations : Nat := 4
  maxFailures : Nat := 3
  maxObservationBytes : Nat := 4 * 1024
  maxObservations : Nat := 6

structure Runtime1Result where
  message : String
  runId : String
  dispatch : String
  objectiveKind : String
  cycles : Nat
  capabilityCalls : List String := []
  approvalId : Option String := none
  errorCode : Option String := none
  deriving DecidableEq

structure CapabilityContract extends CapabilitySpec where
  displayName : String
  description : String
  tags : List String

def requiredFields (spelling : Spelling) (spec : CapabilitySpec) : List String :=
  match Fields.get spec.inputSchema "required" with
  | some (.arr items) => (items.map fun item => lower (strip (item.toStr spelling))).filter (· ≠ "")
  | _ => []

def needsOpaqueResourceId (spelling : Spelling) (spec : CapabilitySpec) : Bool :=
  (requiredFields spelling spec).any fun field => field = "id" ∨ endsWith field "_id" ∨ endsWith field "_ids"

def isResolver (spelling : Spelling) (contract : CapabilityContract) : Bool :=
  !(contract.mutating || needsOpaqueResourceId spelling contract.toCapabilitySpec) &&
    (actionFacets (" ".intercalate ([contract.id, contract.displayName, contract.description] ++
      contract.tags.insertionSort (· ≤ ·)))).any [ActionFacet.search, .list].contains

def resolveRuntimeDispatch (spelling : Spelling) (objective : ObjectiveIR) (capabilities : List CapabilityContract) :
    RuntimeDispatchPath :=
  let base := objective.dispatchPath
  if base ≠ .directCapability ∨ objective.requiresMutation = true ∨ objective.requiresFutureWait = true then base
  else
    let resolvers := (capabilities.filter (isResolver spelling)).map fun contract => CapabilitySearchIndex.family contract.id
    if capabilities.any fun contract => !contract.mutating && needsOpaqueResourceId spelling contract.toCapabilitySpec &&
        resolvers.contains (CapabilitySearchIndex.family contract.id) then .agentLoop
    else base

structure DecisionRequest where
  objective : String
  userMessage : String
  contextItems : List Fields
  observations : List Json
  capabilities : List Fields
  remainingSteps : Nat
  remainingMutations : Nat

inductive Ask where
  | interpret (message : String) (context : ExecutionContext) (contextItems : List Fields)
  | respond (objective userMessage : String) (contextItems : List Fields) (observations : List Json)
  | discover (context : ExecutionContext) (query : String) (limit : Nat)
  | decide (request : DecisionRequest)
  /-- `GovernedAgentRuntime.execute_step` -/
  | execute (context : ExecutionContext) (runId goal : String) (step : AgentPlanStep)

def port : Interface where
  Op := Ask
  Answer
    | .interpret .. => Except KernelError ObjectiveIR
    | .respond .. => Except KernelError String
    | .discover .. => Except KernelError (List CapabilityContract)
    | .decide _ => Except KernelError RawDecision
    | .execute .. => Except KernelError AgentStepResult

abbrev AgentRun (α : Type) := Fallible port KernelError α

def interpret (message : String) (context : ExecutionContext) (contextItems : List Fields) : AgentRun ObjectiveIR := do
  let answer : Except KernelError ObjectiveIR ← Fallible.ask (show port.Op from .interpret message context contextItems)
  Fallible.ofExcept answer

def respond (objective userMessage : String) (contextItems : List Fields) (observations : List Json) : AgentRun String := do
  let answer : Except KernelError String ←
    Fallible.ask (show port.Op from .respond objective userMessage contextItems observations)
  Fallible.ofExcept answer

def discover (limits : Runtime1Limits) (context : ExecutionContext) (query : String) : AgentRun (List CapabilityContract) := do
  let answer : Except KernelError (List CapabilityContract) ←
    Fallible.ask (show port.Op from .discover context query limits.maxCapabilities)
  Fallible.ofExcept answer

def decideNext (request : DecisionRequest) : AgentRun RawDecision := do
  let answer : Except KernelError RawDecision ← Fallible.ask (show port.Op from .decide request)
  Fallible.ofExcept answer

def executeGoverned (context : ExecutionContext) (runId goal : String) (step : AgentPlanStep) : AgentRun AgentStepResult := do
  let answer : Except KernelError AgentStepResult ← Fallible.ask (show port.Op from .execute context runId goal step)
  Fallible.ofExcept answer

/-! ### The agent -/

structure Runtime1Agent where
  enabled : Bool
  limits : Runtime1Limits := {}
  encoding : Encoding
  /-- `context_assembler.select(...).as_prompt_items()` -/
  selectContext : String → List Fields → List Fields

def cards (limits : Runtime1Limits) (contracts : List CapabilityContract) : List Fields :=
  (contracts.take limits.maxCapabilities).map fun contract =>
    [("id", .str contract.id),
      ("name", .str (String.ofList ((if contract.displayName = "" then contract.id else contract.displayName).toList.take 240))),
      ("description", .str (String.ofList ((collapse contract.description).toList.take 1000))),
      ("input_schema", .obj contract.inputSchema), ("risk", .str contract.risk.value),
      ("approval_required", .bool contract.approvalRequired)]

/-- `items[-count:]` -/
def lastItems (count : Nat) (items : List Json) : List Json :=
  if count = 0 then items else items.drop (items.length - count)

def allowedContract (capabilities : List CapabilityContract) (capabilityId : String) : Option CapabilityContract :=
  capabilities.reverse.find? fun contract => contract.id = capabilityId

structure LoopState where
  capabilities : List CapabilityContract
  observations : List Json := []
  calls : List String := []
  signatures : List String := []
  mutationCount : Nat := 0
  discoveryCount : Nat := 1
  failureCount : Nat := 0

inductive Turn where
  | proceed (state : LoopState)
  | leave (state : LoopState)
  | answer (result : Runtime1Result)

structure Conversation where
  agent : Runtime1Agent
  context : ExecutionContext
  message : String
  runId : String
  objective : ObjectiveIR
  selected : List Fields
  dispatch : RuntimeDispatchPath

namespace Conversation
variable (talk : Conversation)

def limits : Runtime1Limits := talk.agent.limits

def maxCycles : Nat := if talk.dispatch = .directCapability then 1 else talk.limits.maxCycles

def result (message : String) (cycles : Nat) (calls : List String) (errorCode : Option String) : Runtime1Result where
  message := message
  runId := talk.runId
  dispatch := talk.dispatch.value
  objectiveKind := talk.objective.kind.value
  cycles := cycles
  capabilityCalls := calls
  errorCode := errorCode

def refused (cycle : Nat) (state : LoopState) (message errorCode : String) : AgentRun Turn :=
  return .answer (talk.result message cycle state.calls (some errorCode))

def unlessFailed (state : LoopState) (stops : Prop) [Decidable stops] : AgentRun Turn :=
  if stops then return .leave state else return .proceed state

def discoverMore (cycle : Nat) (query : String) (state : LoopState) : AgentRun Turn :=
  if talk.dispatch = .directCapability ∨ talk.limits.maxDiscoveries ≤ state.discoveryCount then
    talk.refused cycle state "I reached the capability-discovery limit before completing this request."
      "capability_discovery_budget_exhausted"
  else do
    let query := collapse query
    let capabilities ← discover talk.limits talk.context query
    let missing : List Json := if capabilities = [] then [.obj [("ok", .bool false), ("error_code", .str "no_capability_match"),
      ("query_sha256_16", .str (fingerprint talk.agent.encoding query))]] else []
    return .proceed { state with
      capabilities := capabilities
      discoveryCount := state.discoveryCount + 1
      observations := state.observations ++ missing }

def afterStep (cycle : Nat) (capabilityId : String) (outcome : AgentStepResult) (state : LoopState) : AgentRun Turn :=
  let state := { state with calls := state.calls ++ [capabilityId] }
  match outcome.status with
  | .waitingApproval =>
      return .answer { talk.result "This action requires approval before I can continue." cycle state.calls
        (some "approval_required") with approvalId := outcome.approvalId }
  | .executionUncertain =>
      talk.refused cycle state ("I stopped because the outcome of a mutating action is uncertain and must be reconciled " ++
        "before retrying.") "execution_outcome_uncertain"
  | status => do
      let failed : Bool := status = .failed
      let observation := boundedObservation talk.agent.encoding talk.limits.maxObservationBytes capabilityId outcome.result
        (if failed then outcome.errorCode else none) outcome.error
      let state := { state with
        observations := state.observations ++ [observation]
        failureCount := if failed then state.failureCount + 1 else state.failureCount }
      if failed ∧ talk.limits.maxFailures ≤ state.failureCount then return .leave state
      else if talk.dispatch = .directCapability then do
        let answer ← respond talk.objective.objective talk.message talk.selected
          (lastItems talk.limits.maxObservations state.observations)
        return .answer (talk.result answer cycle state.calls none)
      else return .proceed state

def callCapability (cycle : Nat) (contract : CapabilityContract) (capabilityId : String) (arguments : Fields)
    (state : LoopState) : AgentRun Turn := do
  let own := signature talk.agent.encoding capabilityId arguments
  let state := { state with signatures := own :: state.signatures }
  if 2 < state.signatures.count own then
    talk.refused cycle state "I stopped because the agent began repeating the same action." "agent_loop_detected"
  else if contract.mutating = true ∧ talk.limits.maxMutations ≤ state.mutationCount then
    talk.refused cycle state "I reached the mutation budget before completing this request." "mutation_budget_exhausted"
  else do
    let state := { state with mutationCount := if contract.mutating then state.mutationCount + 1 else state.mutationCount }
    let stepId := "interactive-" ++ (if cycle < 10 then "00" else if cycle < 100 then "0" else "") ++ toString cycle
    let step ← Fallible.ofExcept (AgentPlanStep.create stepId capabilityId arguments none)
    let outcome ← executeGoverned talk.context talk.runId talk.objective.objective step
    talk.afterStep cycle capabilityId outcome state

def call (cycle : Nat) (capabilityId : String) (arguments : Fields) (state : LoopState) : AgentRun Turn :=
  let capabilityId := lower (strip capabilityId)
  match allowedContract state.capabilities capabilityId with
  | none => talk.refused cycle state "The model selected a capability outside the authorized candidate set."
      "capability_not_authorized_for_decision"
  | some contract =>
      match validateSchema (.obj arguments) contract.inputSchema with
      | .error (.schemaValidation _) =>
          let state := { state with
            observations := state.observations ++ [.obj [("capability_id", .str capabilityId), ("ok", .bool false),
              ("error_code", .str "invalid_arguments")]]
            failureCount := state.failureCount + 1 }
          unlessFailed state (talk.dispatch = .directCapability ∨ talk.limits.maxFailures ≤ state.failureCount)
      | .error error => raise error
      | .ok _ => talk.callCapability cycle contract capabilityId arguments state

def turn (cycle : Nat) (state : LoopState) : AgentRun Turn := do
  let raw ← decideNext ⟨talk.objective.objective, talk.message, talk.selected,
    lastItems talk.limits.maxObservations state.observations, cards talk.limits state.capabilities,
    talk.maxCycles - cycle + 1, talk.limits.maxMutations - state.mutationCount⟩
  match decodeDecision talk.agent.encoding raw with
  | .error (.value _) =>
      talk.refused cycle state "I could not safely interpret the model's next action." "invalid_agent_decision"
  | .error error => raise error
  | .ok (.finish message) => return .answer (talk.result (strip message) cycle state.calls none)
  | .ok (.discover query) => talk.discoverMore cycle query state
  | .ok (.call capabilityId arguments) => talk.call cycle capabilityId arguments state

def exhausted (state : LoopState) : AgentRun Runtime1Result := do
  let answer ← respond talk.objective.objective talk.message talk.selected
    (lastItems talk.limits.maxObservations state.observations)
  return talk.result answer talk.maxCycles state.calls (some "agent_budget_exhausted")

def cyclesFrom : (remaining : Nat) → LoopState → AgentRun Runtime1Result
  | 0, state => talk.exhausted state
  | remaining + 1, state => do
      match ← talk.turn (talk.maxCycles - remaining) state with
      | .proceed state => cyclesFrom remaining state
      | .leave state => talk.exhausted state
      | .answer result => return result

end Conversation

def unmatched : Json :=
  .obj [("ok", .bool false), ("error_code", .str "no_authorized_capabilities"),
    ("message", .str "No currently authorized and available capability matched this objective.")]

def Runtime1Agent.converse (agent : Runtime1Agent) (context : ExecutionContext) (message : String)
    (contextItems : List Fields) (runId : String) (objective : ObjectiveIR) (dispatch : RuntimeDispatchPath) : Conversation :=
  ⟨agent, context, message, runId, objective, agent.selectContext objective.objective contextItems, dispatch⟩

def Runtime1Agent.run (agent : Runtime1Agent) (context : ExecutionContext) (message : String)
    (contextItems : List Fields) (runId : String) : AgentRun Runtime1Result :=
  if !agent.enabled then raise (.runtime "Agent runtime is disabled")
  else do
    let objective ← interpret message context contextItems
    let talk := agent.converse context message contextItems runId objective objective.dispatchPath
    if talk.dispatch = .respond then do
      let answer ← respond objective.objective message talk.selected []
      return talk.result answer 0 [] none
    else do
      let capabilities ← discover agent.limits context objective.capabilityQuery
      if capabilities = [] then do
        let answer ← respond objective.objective message talk.selected [unmatched]
        return talk.result answer 0 [] (some "no_authorized_capabilities")
      else
        let talk := agent.converse context message contextItems runId objective
          (resolveRuntimeDispatch agent.encoding.toSpelling objective capabilities)
        talk.cyclesFrom talk.maxCycles { capabilities := capabilities }

end Operly.Agent
