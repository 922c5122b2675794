import Operly.Kernel.Idempotency

/-! The audit buffer of a call and the rows it is persisted as. -/

namespace Operly.Kernel
open Python Security

inductive RuntimeStage where
  | understand
  | classify
  | resolveScope
  | resolveCapabilities
  | loadContext
  | exposeTools
  | reasonPlan
  | authorize
  | execute
  | validate
  | recordTrace
  | emitEvents
  | respond
  deriving DecidableEq

namespace RuntimeStage

def value : RuntimeStage → String
  | .understand => "understand"
  | .classify => "classify"
  | .resolveScope => "resolve_scope"
  | .resolveCapabilities => "resolve_authorized_capabilities"
  | .loadContext => "load_minimum_context"
  | .exposeTools => "expose_allowed_tools"
  | .reasonPlan => "reason_and_plan"
  | .authorize => "authorize"
  | .execute => "execute"
  | .validate => "validate_result"
  | .recordTrace => "record_and_trace"
  | .emitEvents => "emit_events"
  | .respond => "respond_or_continue"

end RuntimeStage

structure AuditStep where
  number : Nat
  stage : RuntimeStage
  status : String
  deriving DecidableEq

structure RuntimeAuditBuffer where
  runId : String
  steps : List AuditStep := []
  events : List (String × Fields) := []

namespace RuntimeAuditBuffer

def step (audit : RuntimeAuditBuffer) (number : Nat) (stage : RuntimeStage) (status : String) :
    RuntimeAuditBuffer :=
  { audit with steps := audit.steps ++ [⟨number, stage, status⟩] }

def event (audit : RuntimeAuditBuffer) (eventType : String) (payload : Fields) : RuntimeAuditBuffer :=
  { audit with events := audit.events ++ [(eventType, payload)] }

def publicTrace (audit : RuntimeAuditBuffer) : List Fields :=
  audit.steps.map fun row =>
    [("step", .int row.number), ("name", .str row.stage.value), ("status", .str row.status)]

def responded (audit : RuntimeAuditBuffer) : Bool :=
  match audit.steps.getLast? with
  | some row => row.stage = .respond
  | none => false

end RuntimeAuditBuffer

def workflowLineage (context : ExecutionContext) : Fields :=
  ["workflow_trigger_event_id", "workflow_correlation_id", "workflow_causation_id",
    "workflow_depth", "workflow_id", "workflow_run_id", "workflow_step_key",
    "workflow_step_run_id", "workflow_step_attempt_id", "workflow_attempt"].filterMap fun key =>
    match Fields.get context.metadata key with
    | none | some .null => none
    | some value => some (key, value)

def resultSummary (result : Option Fields) : List String :=
  ((result.getD []).map (·.1)).insertionSort (· ≤ ·)

structure Outcome where
  capabilityId : Option String
  status : RunStatus
  result : Option Fields := none
  error : String := ""
  resourceType : Option String := none
  resourceId : Option String := none

def auditRun (audit : RuntimeAuditBuffer) (context : ExecutionContext) (outcome : Outcome) :
    KernelRun where
  id := audit.runId
  scopeKind := context.scopeKind
  workspaceId := context.workspaceId
  ownerUserId := if context.isPersonal then context.userId else none
  principalId := context.principalId
  capabilityId := outcome.capabilityId
  status := outcome.status
  resultKeys := resultSummary outcome.result
  error := if outcome.error = "" then none else some "runtime_error"

/-- The lineage is appended last, so it wins over what the provider put under its names. -/
def auditEvents (audit : RuntimeAuditBuffer) (context : ExecutionContext) (outcome : Outcome) :
    List KernelEventRecord :=
  audit.events.map fun event =>
    { eventType := event.1
      scopeKind := context.scopeKind
      workspaceId := context.workspaceId
      ownerUserId := if context.isPersonal then context.userId else none
      principalId := context.principalId
      capabilityId := outcome.capabilityId
      resourceType := outcome.resourceType
      resourceId := outcome.resourceId
      payload := Fields.merge event.2 (workflowLineage context) }

/-- `persist_audit`: the rows join the changes of the session. -/
@[simps claim approval]
def persistAudit (changes : Changes) (audit : RuntimeAuditBuffer) (context : ExecutionContext)
    (outcome : Outcome) : Changes :=
  { changes with
    runs := changes.runs ++ [auditRun audit context outcome]
    events := changes.events ++ auditEvents audit context outcome }

end Operly.Kernel
