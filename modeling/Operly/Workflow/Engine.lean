import Operly.Workflow.Queue

/-! `WorkflowEngine`: the execution of runs. -/

namespace Operly.Workflow
open Python Security Concurrent
open Kernel (textOrNull)

/-- `_loads(raw, {})` as a dictionary, when it is one. -/
def fieldsOf : Json → Option Fields
  | .obj fields => some fields
  | _ => none

/-- `int(trigger.get("depth") or 1)` -/
def triggerDepth (trigger : Fields) : Except WorkflowError Int :=
  match (Fields.getOr trigger "depth" (.int 1)).toInt with
  | .ok depth => .ok depth
  | .error failure => .error (.ofFailure failure)

def eventMetadata (trigger event : Fields) : Except WorkflowError Fields := do
  let id := (Fields.get event "id").getD .null
  let depth ← triggerDepth trigger
  return [("workflow_trigger_event_id", id), ("workflow_correlation_id", Fields.getOr event "correlation_id" id),
    ("workflow_causation_id", id), ("workflow_depth", .int depth)]

def stepMetadata (run : WorkflowRun) (row : WorkflowStepRun) (attempt : WorkflowStepAttempt) :
    Except WorkflowError Fields := do
  let metadata : Fields :=
    [("workflow_id", .str run.workflowId), ("workflow_run_id", .str run.id),
      ("workflow_step_key", .str row.stepKey), ("workflow_step_run_id", .str row.id),
      ("workflow_step_attempt_id", .str attempt.id), ("workflow_attempt", .int row.attempt)]
  match fieldsOf run.triggerPayload with
  | none => return metadata
  | some trigger =>
      match (Fields.get trigger "event").bind fieldsOf with
      | none => return metadata
      | some event => return metadata ++ (← eventMetadata trigger event)

def runConversation (run : WorkflowRun) : String := "workflow:" ++ run.id

def resolveAuthority (run : WorkflowRun) (row : WorkflowStepRun) (attempt : WorkflowStepAttempt) :
    Session ExecutionContext := do
  let metadata ← Fallible.ofExcept (stepMetadata run row attempt)
  if run.scopeKind = .workspace ∧ !isSet run.workspaceId then
    Fallible.raise (.executionContext "Workspace workflow has no workspace authority")
  else
    let granted ← query (.authority
      { scopeKind := run.scopeKind
        workspaceId := if run.scopeKind = .personal then none else run.workspaceId
        userId := run.authorityUserId.getD "None", conversationId := runConversation run, metadata })
    Fallible.ofExcept granted

def stepRequest (run : WorkflowRun) (row : WorkflowStepRun) (arguments : Fields)
    (approvalId : Option String) : Kernel.RuntimeRequest where
  goal := ""
  capabilityId := row.capabilityId
  arguments := arguments
  conversationId := some (runConversation run)
  requestId := row.requestId
  approvalId

end Operly.Workflow
