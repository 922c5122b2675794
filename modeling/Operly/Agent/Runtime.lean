import Operly.Agent.Contracts
import Operly.Kernel.Runtime

/-! `GovernedAgentRuntime.execute_step`: one step of a plan through the Kernel, and the status
that the outcome gets. -/

namespace Operly.Agent
open Python Security Kernel Concurrent Fallible

structure GovernedAgentRuntime where
  /-- The Kernel of the runtime, and the process that runs the step. -/
  caller : Caller
  /-- `settings.enabled` -/
  enabled : Bool

/-- `preflight_plan`: what speaks against a plan, if anything does -/
def preflightPlan (registry : CapabilityRegistry) (plan : AgentPlan) : Option String :=
  if plan.budget.maxSteps < plan.steps.length then
    some s!"Plan contains {plan.steps.length} steps but the budget allows {plan.budget.maxSteps}"
  else
    match plan.steps.mapM fun step => registry.get step.capabilityId with
    | .error error => some s!"Plan references an unknown capability: {error.message}"
    | .ok specs =>
        let mutations := specs.countP (·.mutating)
        if plan.budget.maxMutations < mutations then
          some s!"Plan contains {mutations} mutating steps but the budget allows {plan.budget.maxMutations}"
        else none

def stepRequest (deployment : Deployment) (context : ExecutionContext) (runId goal : String)
    (step : AgentPlanStep) : RuntimeRequest where
  goal := goal
  capabilityId := some step.capabilityId
  arguments := step.arguments
  conversationId := context.conversationId
  requestId := some (stableStepRequestId deployment runId step.stepId)
  approvalId := step.approvalId

def preReservationCodes : List String :=
  ["approval_required", "approval_invalid", "idempotency_conflict", "invalid_request", "forbidden"]

/-- `_mutation_recovery_state`: a response that has become durable, and whether the outcome is
uncertain. -/
def mutationRecoveryState (deployment : Deployment) (context : ExecutionContext)
    (request : RuntimeRequest) (step : AgentPlanStep) (code : String) :
    Session (Option RuntimeResponse × Bool) :=
  match deployment.registry.get step.capabilityId with
  | .error _ => pure (none, code = "request_in_progress")
  | .ok spec =>
      if !spec.mutating then pure (none, false)
      else do
        let uncertain : Bool := code = "request_in_progress"
        let found ← Fallible.caught (findCompletedRequest deployment context request)
        match found with
        | .ok replay => pure (replay, uncertain)
        | .error (.idempotencyInProgress _) => pure (none, true)
        | .error (.idempotencyConflict _) => pure (none, uncertain)
        | .error error => raise error

def resultOf (request : RuntimeRequest) (step : AgentPlanStep) (status : AgentStepStatus) :
    AgentStepResult where
  stepId := step.stepId
  capabilityId := step.capabilityId
  requestId := request.requestId.getD ""
  status := status

def recoveredResult (request : RuntimeRequest) (step : AgentPlanStep) (message code : String)
    (approvalId : Option String) : Option RuntimeResponse × Bool → AgentStepResult
  | (some replay, _) =>
      { resultOf request step .completed with result := some (replay.result.getD []) }
  | (none, true) =>
      { resultOf request step .executionUncertain with
        approvalId, errorCode := some "execution_outcome_uncertain",
        error := some ("Mutating capability outcome is uncertain and must be reconciled " ++
          "before any fresh execution: " ++ code ++ ": " ++ message) }
  | (none, false) =>
      { resultOf request step .failed with approvalId, errorCode := some code, error := some message }

def reportStep (deployment : Deployment) (context : ExecutionContext) (request : RuntimeRequest)
    (step : AgentPlanStep) : Except KernelError RuntimeResponse → Session AgentStepResult
  | .ok response =>
      pure { resultOf request step .completed with result := some (response.result.getD []) }
  | .error (.execution message code _ approvalId) =>
      if code ∈ preReservationCodes then
        pure { resultOf request step
            (if code = "approval_required" then .waitingApproval else .failed) with
          approvalId, errorCode := some code, error := some message }
      else do
        let recovered ← mutationRecoveryState deployment context request step code
        pure (recoveredResult request step message code approvalId recovered)
  | .error error => raise error

def executeStep (runtime : GovernedAgentRuntime) (context : ExecutionContext) (runId goal : String)
    (step : AgentPlanStep) : Session AgentStepResult :=
  if !runtime.enabled then raise (.runtime "Agent runtime is disabled")
  else do
    let request := stepRequest runtime.caller.deployment context runId goal step
    let outcome ← Fallible.caught (execute runtime.caller context request)
    reportStep runtime.caller.deployment context request step outcome

end Operly.Agent
