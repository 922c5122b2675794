import Operly.Kernel.Database
import Operly.Python.Datetime
import Operly.Relational.Table
import Operly.Workflow.Spec

/-! The workflow tables. A text column that holds JSON is the value of its text, `none` when
the text is no JSON; datetimes are microseconds. -/

namespace Operly.Workflow
open Python Security Relational

inductive DefinitionStatus where
  | enabled
  | disabled
  | archived
  deriving DecidableEq

def DefinitionStatus.value : DefinitionStatus → String
  | .enabled => "enabled"
  | .disabled => "disabled"
  | .archived => "archived"

structure WorkflowDefinition where
  id : String
  scopeKind : ScopeKind
  workspaceId : Option String
  ownerUserId : Option String
  name : String
  description : String := ""
  status : DefinitionStatus
  currentVersion : Nat
  deriving DecidableEq

structure WorkflowVersion where
  id : String
  workflowId : String
  version : Nat
  specJson : Option Json
  snapshotJson : Option Json
  createdByUserId : Option String := none
  deriving DecidableEq

structure WorkflowSchedule where
  id : String
  workflowId : String
  scheduleType : String
  scheduleJson : Option Json
  timezone : String := "UTC"
  enabled : Bool
  nextRunAt : Option Int
  lastFiredAt : Option Int := none
  leaseToken : Option String := none
  leaseUntil : Option Int := none
  deriving DecidableEq

structure WorkflowEventTrigger where
  id : String
  workflowId : String
  eventPattern : String
  conditionJson : Option Json
  enabled : Bool
  createdAt : Int
  deriving DecidableEq

structure WorkflowEventCursor where
  lastCreatedAt : Option Int
  lastEventId : Option String
  deriving DecidableEq

structure KernelEventRecord where
  id : String
  eventType : String
  scopeKind : ScopeKind
  workspaceId : Option String
  ownerUserId : Option String
  principalId : Option String := none
  actorType : String := "system"
  actorId : Option String := none
  initiatorPrincipalId : Option String := none
  executorPrincipalId : Option String := none
  capabilityId : Option String := none
  resourceType : Option String := none
  resourceId : Option String := none
  payloadJson : Option Json
  createdAt : Int
  deriving DecidableEq

/-- `dedupe_key`, such as `f"event:{trigger.id}:{event.id}"`. The ids are UUIDs, so the text
determines its parts. -/
inductive DedupeKey where
  | manual (workflowId unique : String)
  | event (triggerId eventId : String)
  | schedule (scheduleId : String) (scheduledFor : Int)
  deriving DecidableEq

inductive RunStatus where
  | queued
  | running
  | waiting
  | waitingApproval
  | completed
  | completedWithErrors
  | failed
  | cancelled
  | orphaned
  deriving DecidableEq

def RunStatus.value : RunStatus → String
  | .queued => "queued"
  | .running => "running"
  | .waiting => "waiting"
  | .waitingApproval => "waiting_approval"
  | .completed => "completed"
  | .completedWithErrors => "completed_with_errors"
  | .failed => "failed"
  | .cancelled => "cancelled"
  | .orphaned => "orphaned"

def RunStatus.ended (status : RunStatus) : Bool :=
  status = .completed || status = .completedWithErrors || status = .cancelled || status = .failed ||
    status = .orphaned

structure WorkflowRun where
  id : String
  workflowId : String
  workflowVersionId : String
  scopeKind : ScopeKind
  workspaceId : Option String
  authorityUserId : Option String
  initiatedByUserId : Option String
  triggerType : String
  triggerPayload : Json
  dedupeKey : DedupeKey
  status : RunStatus := .queued
  currentStepKey : Option String := none
  errorCode : Option String := none
  errorMessage : Option String := none
  result : Json := .obj []
  leaseToken : Option String := none
  leaseUntil : Option Int := none
  scheduledFor : Option Int := none
  createdAt : Int
  updatedAt : Int
  startedAt : Option Int := none
  finishedAt : Option Int := none
  deriving DecidableEq

inductive StepStatus where
  | pending
  | running
  | waiting
  | waitingApproval
  | completed
  | skipped
  | failed
  | cancelled
  deriving DecidableEq

def StepStatus.value : StepStatus → String
  | .pending => "pending"
  | .running => "running"
  | .waiting => "waiting"
  | .waitingApproval => "waiting_approval"
  | .completed => "completed"
  | .skipped => "skipped"
  | .failed => "failed"
  | .cancelled => "cancelled"

inductive StepRunKind where
  | action
  | wait
  deriving DecidableEq

structure WorkflowStepRun where
  id : String
  workflowRunId : String
  stepKey : String
  stepOrder : Nat
  stepKind : StepRunKind
  capabilityId : Option String := none
  status : StepStatus := .pending
  attempt : Nat := 0
  requestId : Option String := none
  kernelRunId : Option String := none
  approvalId : Option String := none
  arguments : Json := .obj []
  result : Json := .obj []
  errorCode : Option String := none
  errorMessage : Option String := none
  waitUntil : Option Int := none
  startedAt : Option Int := none
  finishedAt : Option Int := none
  deriving DecidableEq

inductive AttemptStatus where
  | running
  | waitingApproval
  | completed
  | failed
  | cancelled
  | orphaned
  deriving DecidableEq

structure WorkflowStepAttempt where
  id : String
  workflowRunId : String
  stepRunId : String
  attempt : Nat
  capabilityId : String
  status : AttemptStatus
  requestId : String
  kernelRunId : Option String := none
  approvalId : Option String := none
  arguments : Json := .obj []
  result : Json := .obj []
  errorCode : Option String := none
  errorMessage : Option String := none
  startedAt : Int
  finishedAt : Option Int := none
  deriving DecidableEq

/-! ### Updates

The session writes the columns that its copy changed since it was loaded, and no others. -/

def changed {α : Type} [DecidableEq α] (loaded now current : α) : α :=
  if loaded = now then current else now

@[simp] theorem changed_same {α : Type} [DecidableEq α] (value current : α) :
    changed value value current = current := if_pos rfl

@[simp] theorem changed_current {α : Type} [DecidableEq α] (current now : α) : changed current now current = now := by
  unfold changed
  split
  · assumption
  · rfl

/-- The row that an update leaves; `updated_at` moves when any column changed. -/
def WorkflowRun.patch (clock : Int) (loaded now current : WorkflowRun) : WorkflowRun :=
  { current with
    status := changed loaded.status now.status current.status
    currentStepKey := changed loaded.currentStepKey now.currentStepKey current.currentStepKey
    errorCode := changed loaded.errorCode now.errorCode current.errorCode
    errorMessage := changed loaded.errorMessage now.errorMessage current.errorMessage
    result := changed loaded.result now.result current.result
    leaseToken := changed loaded.leaseToken now.leaseToken current.leaseToken
    leaseUntil := changed loaded.leaseUntil now.leaseUntil current.leaseUntil
    updatedAt := if loaded = now then current.updatedAt else clock
    startedAt := changed loaded.startedAt now.startedAt current.startedAt
    finishedAt := changed loaded.finishedAt now.finishedAt current.finishedAt }

def WorkflowStepRun.patch (loaded now current : WorkflowStepRun) : WorkflowStepRun :=
  { current with
    status := changed loaded.status now.status current.status
    attempt := changed loaded.attempt now.attempt current.attempt
    requestId := changed loaded.requestId now.requestId current.requestId
    kernelRunId := changed loaded.kernelRunId now.kernelRunId current.kernelRunId
    approvalId := changed loaded.approvalId now.approvalId current.approvalId
    arguments := changed loaded.arguments now.arguments current.arguments
    result := changed loaded.result now.result current.result
    errorCode := changed loaded.errorCode now.errorCode current.errorCode
    errorMessage := changed loaded.errorMessage now.errorMessage current.errorMessage
    waitUntil := changed loaded.waitUntil now.waitUntil current.waitUntil
    startedAt := changed loaded.startedAt now.startedAt current.startedAt
    finishedAt := changed loaded.finishedAt now.finishedAt current.finishedAt }

def WorkflowStepAttempt.patch (loaded now current : WorkflowStepAttempt) : WorkflowStepAttempt :=
  { current with
    status := changed loaded.status now.status current.status
    kernelRunId := changed loaded.kernelRunId now.kernelRunId current.kernelRunId
    approvalId := changed loaded.approvalId now.approvalId current.approvalId
    result := changed loaded.result now.result current.result
    errorCode := changed loaded.errorCode now.errorCode current.errorCode
    errorMessage := changed loaded.errorMessage now.errorMessage current.errorMessage
    finishedAt := changed loaded.finishedAt now.finishedAt current.finishedAt }

def WorkflowDefinition.patch (loaded now current : WorkflowDefinition) : WorkflowDefinition :=
  { current with
    name := changed loaded.name now.name current.name
    description := changed loaded.description now.description current.description
    status := changed loaded.status now.status current.status
    currentVersion := changed loaded.currentVersion now.currentVersion current.currentVersion }

def WorkflowVersion.patch (loaded now current : WorkflowVersion) : WorkflowVersion :=
  { current with snapshotJson := changed loaded.snapshotJson now.snapshotJson current.snapshotJson }

def WorkflowSchedule.patch (loaded now current : WorkflowSchedule) : WorkflowSchedule :=
  { current with
    scheduleType := changed loaded.scheduleType now.scheduleType current.scheduleType
    scheduleJson := changed loaded.scheduleJson now.scheduleJson current.scheduleJson
    timezone := changed loaded.timezone now.timezone current.timezone
    enabled := changed loaded.enabled now.enabled current.enabled
    nextRunAt := changed loaded.nextRunAt now.nextRunAt current.nextRunAt
    lastFiredAt := changed loaded.lastFiredAt now.lastFiredAt current.lastFiredAt
    leaseToken := changed loaded.leaseToken now.leaseToken current.leaseToken
    leaseUntil := changed loaded.leaseUntil now.leaseUntil current.leaseUntil }

end Operly.Workflow
