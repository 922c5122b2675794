import Operly.Workflow.Database

/-! Trace events, and the queueing of runs. -/

namespace Operly.Workflow
open Python Security Concurrent Fallible
open Kernel (textOrNull)

structure TraceEvent where
  workspaceId : Option String
  workflowId : String
  eventType : String
  workflowRunId : Option String := none
  stepRunId : Option String := none
  stepAttemptId : Option String := none
  actorType : String := "system"
  actorId : Option String := none
  ownerUserId : Option String := none
  principalId : Option String := none
  capabilityId : Option String := none
  kernelRunId : Option String := none
  approvalId : Option String := none
  payload : Fields := []

namespace TraceEvent

def scopeKind (event : TraceEvent) : ScopeKind :=
  if isSet event.workspaceId then .workspace else .personal

/-- `None` as a workspace is a real personal namespace, and needs an owner. -/
def recordable (event : TraceEvent) : Bool :=
  event.scopeKind = .workspace || isSet event.ownerUserId

def json (event : TraceEvent) : Json :=
  .obj (Fields.merge
    [("workflow_id", .str event.workflowId), ("workflow_run_id", textOrNull event.workflowRunId),
      ("workflow_step_run_id", textOrNull event.stepRunId),
      ("workflow_step_attempt_id", textOrNull event.stepAttemptId),
      ("kernel_run_id", textOrNull event.kernelRunId), ("approval_id", textOrNull event.approvalId)]
    event.payload)

def row (event : TraceEvent) (id : String) (createdAt : Int) : KernelEventRecord where
  id := id
  eventType := event.eventType
  scopeKind := event.scopeKind
  workspaceId := event.workspaceId
  ownerUserId := if event.scopeKind = .personal then event.ownerUserId else none
  principalId := event.principalId
  actorType := event.actorType
  actorId := event.actorId
  initiatorPrincipalId := event.principalId
  executorPrincipalId := some "operly:workflow"
  capabilityId := event.capabilityId
  resourceType := some (if isSet event.workflowRunId then "workflow_run" else "workflow")
  resourceId := some (if isSet event.workflowRunId then event.workflowRunId.getD "" else event.workflowId)
  payloadJson := some event.json.sortKeys
  createdAt := createdAt

end TraceEvent

def recordWorkflowEvent (event : TraceEvent) : Session Write := do
  if event.recordable then
    let createdAt ← query .now
    let id ← query .uuid
    return .newEvent (event.row id createdAt)
  else raise (.value "Personal workflow trace requires owner_user_id")

def userPrincipal (userId : Option String) : Option String :=
  userId.map fun user => "user:" ++ user

def firstSet (first second : Option String) : Option String := if isSet first then first else second

def runAuthority (workflow : WorkflowDefinition) (initiatedByUserId : Option String) :
    Except WorkflowError String :=
  match firstSet initiatedByUserId workflow.ownerUserId with
  | none => .error (.permission "Workflow run has no executable authority user")
  | some user =>
      if user = "" then .error (.permission "Workflow run has no executable authority user")
      else if workflow.scopeKind = .personal ∧ workflow.workspaceId ≠ none then
        .error (.permission "Personal workflow may not carry Workspace authority")
      else if workflow.scopeKind = .workspace ∧ !isSet workflow.workspaceId then
        .error (.permission "Workspace workflow requires workspace_id")
      else .ok user

structure RunRequest where
  triggerType : String
  triggerPayload : Fields
  initiatedByUserId : Option String := none
  dedupeKey : Option DedupeKey := none
  scheduledFor : Option Int := none

/-- The key that keeps a run from being queued twice; a manual run gets one of its own. -/
def dedupeKeyFor (workflow : WorkflowDefinition) : Option DedupeKey → Session DedupeKey
  | some key => pure key
  | none => do
      let unique ← query .uuid
      return .manual workflow.id unique

def queueWorkflowRun (workflow : WorkflowDefinition) (request : RunRequest) :
    Session (WorkflowRun × List Write) := do
  match ← query (.currentVersion workflow.id workflow.currentVersion) with
  | none => raise (.runtime "Workflow version is unavailable")
  | some version =>
      let authority ← Fallible.ofExcept (runAuthority workflow request.initiatedByUserId)
      let dedupeKey ← dedupeKeyFor workflow request.dedupeKey
      let id ← query .uuid
      let createdAt ← query .now
      let run : WorkflowRun :=
        { id, workflowId := workflow.id, workflowVersionId := version.id, scopeKind := workflow.scopeKind
          workspaceId := workflow.workspaceId, authorityUserId := some authority
          initiatedByUserId := request.initiatedByUserId, triggerType := request.triggerType
          triggerPayload := (Json.obj request.triggerPayload).sortKeys
          dedupeKey, status := .queued, scheduledFor := request.scheduledFor, createdAt
          updatedAt := createdAt }
      let event ← recordWorkflowEvent
        { workspaceId := workflow.workspaceId, workflowId := workflow.id, workflowRunId := some id
          eventType := "workflow.run.queued"
          actorType := if isSet request.initiatedByUserId then "human" else "system"
          actorId := firstSet request.initiatedByUserId (some "operly:scheduler")
          ownerUserId := some authority, principalId := userPrincipal (some authority)
          payload := [("scope_kind", .str workflow.scopeKind.value),
            ("trigger_type", .str request.triggerType),
            ("scheduled_for", textOrNull (request.scheduledFor.map isoformat)),
            ("workflow_version", .int workflow.currentVersion), ("workflow_version_id", .str version.id),
            ("authority_user_id", .str authority)] }
      return (run, [.newRun run, event])

end Operly.Workflow
