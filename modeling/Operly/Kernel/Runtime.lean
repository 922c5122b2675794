import Operly.Kernel.Audit

/-! `OperlyKernelRuntime.execute`: from a request to a provider call and back. -/

namespace Operly.Kernel
open Python Security Concurrent Fallible

structure Locals where
  audit : RuntimeAuditBuffer
  capability : Option CapabilitySpec := none
  plannedArguments : Option Fields := none
  executionRequest : Option RuntimeRequest := none

structure Raised where
  locals : Locals
  error : KernelError

abbrev Body (α : Type) := Fallible kernelDb Raised α

def during {α : Type} (locals : Locals) (code : Session α) : Body α :=
  Fallible.mapError (Raised.mk locals) code

def resolveCapability (deployment : Deployment) (context : ExecutionContext)
    (request : RuntimeRequest) : Except KernelError CapabilitySpec :=
  if isSet request.capabilityId then deployment.registry.get (request.capabilityId.getD "")
  else
    match deployment.search context request.goal with
    | [] => .error (.registry "No capability matches this goal")
    | [capability] => .ok capability
    | _ => .error (.registry "Goal is ambiguous; provide capability_id explicitly")

def loadMinimumContext (context : ExecutionContext) : Session Fields := do
  let payload : Fields :=
    [("scope_kind", .str context.scopeKind.value), ("role", .str context.role),
      ("channel", .str context.channel), ("surface", .str context.surface.value),
      ("workspace_mode", .str context.workspaceMode)]
  if isSet context.workspaceId then
    let workspace ← query (.tenant (context.workspaceId.getD ""))
    match workspace with
    | none => raise (.lookup "Workspace is unavailable")
    | some workspace => pure (Fields.set payload "workspace" (.obj
        [("id", .str workspace.id), ("name", .str workspace.name),
          ("timezone", .str workspace.timezone)]))
  else if isSet context.userId then
    pure (Fields.set payload "personal" (.obj [("user_id", textOrNull context.userId)]))
  else pure payload

def understand (deployment : Deployment) (context : ExecutionContext) (request : RuntimeRequest)
    (audit : RuntimeAuditBuffer) : Except Raised (CapabilitySpec × RuntimeAuditBuffer) := do
  let goal := strip request.goal
  if goal = "" && !isSet request.capabilityId then
    throw ⟨{ audit }, .value "A goal or capability_id is required"⟩
  let audit := audit.step 1 .understand "ok"
  let capability ← (resolveCapability deployment context request).mapError (Raised.mk { audit })
  let audit := audit.step 2 .classify "ok"
  if !capability.scopes.contains context.scopeKind.value then
    throw ⟨{ audit, capability := some capability },
      .permission "Capability does not support this scope"⟩
  return (capability, (audit.step 3 .resolveScope "ok").step 4 .resolveCapabilities "ok")

structure Invocation where
  capability : CapabilitySpec
  arguments : Fields
  minimumContext : Fields
  /-- The request as replay, reservation and approval see it: `execution_request`. -/
  request : RuntimeRequest
  decision : AuthorizationDecision
  audit : RuntimeAuditBuffer
  usedApproval : Option KernelApproval := none
  claim : Option KernelRequestClaim := none

def Invocation.locals (invocation : Invocation) : Locals where
  audit := invocation.audit
  capability := some invocation.capability
  plannedArguments := some invocation.arguments
  executionRequest := some invocation.request

/-- The canonical capability id and the exact planned arguments, whatever the ingress said. -/
def executionRequest (request : RuntimeRequest) (capability : CapabilitySpec) : RuntimeRequest :=
  { request with capabilityId := some capability.id }

def plan (context : ExecutionContext) (request : RuntimeRequest) (capability : CapabilitySpec)
    (minimumContext : Fields) (audit : RuntimeAuditBuffer) : Except Raised Invocation := do
  let audit := (audit.step 5 .loadContext "ok").step 6 .exposeTools "ok"
  let plannedArguments := request.arguments
  let locals : Locals :=
    { audit, capability := some capability, plannedArguments := some plannedArguments }
  (validateSchema (.obj plannedArguments) capability.inputSchema).mapError (Raised.mk locals)
  let request := executionRequest request capability
  let audit := audit.step 7 .reasonPlan "ok"
  let locals := { locals with audit, executionRequest := some request }
  if capability.mutating && clean request.requestId = "" then
    throw ⟨locals, .value "Mutating capability execution requires a stable request_id"⟩
  let authorization := evaluate context capability
  if authorization.decision = .deny then
    throw ⟨{ locals with audit := audit.step 8 .authorize authorization.decision.value },
      .permission authorization.reason⟩
  return { capability, arguments := plannedArguments, minimumContext, request,
           decision := authorization.decision, audit }

def replay (deployment : Deployment) (context : ExecutionContext) (invocation : Invocation) :
    Body (Option RuntimeResponse) :=
  if invocation.capability.mutating then
    during invocation.locals (findCompletedRequest deployment context invocation.request)
  else pure none

def authorize (deployment : Deployment) (context : ExecutionContext) (invocation : Invocation) :
    Body Invocation := do
  if invocation.decision = .ask && isSet invocation.request.approvalId then
    let approval ← during invocation.locals (validateApprovedInvocation deployment context
      (invocation.request.approvalId.getD "") invocation.capability.id invocation.arguments)
    pure { invocation with
      decision := .allow, usedApproval := some approval,
      audit := invocation.audit.step 8 .authorize AuthorizationDecision.allow.value }
  else
    let invocation := { invocation with
      audit := invocation.audit.step 8 .authorize invocation.decision.value }
    if invocation.decision = .ask then
      raise ⟨invocation.locals, .execution
        "Approval is required before this capability can run" "approval_required" 409 none⟩
    else pure invocation

def reserve (caller : Caller) (context : ExecutionContext) (invocation : Invocation) :
    Body IdempotencyReservation :=
  if invocation.capability.mutating then
    during invocation.locals
      (reserveRequest caller.deployment context invocation.request caller.runId)
  else pure { claim := none }

def callProvider (deployment : Deployment) (context : ExecutionContext) (invocation : Invocation) :
    Body CapabilityExecutionResult := do
  let key := lower (strip invocation.capability.providerId)
  if !deployment.providers.contains key then
    raise ⟨invocation.locals, .lookup ("Capability provider is unavailable: " ++ key)⟩
  else
    let outcome ← query (.provider
      { context, capability := invocation.capability, arguments := invocation.arguments,
        minimumContext := invocation.minimumContext } invocation.request)
    match outcome with
    | .ok result => pure result
    | .error error => raise ⟨invocation.locals, error⟩

def completionEvents (audit : RuntimeAuditBuffer) (capability : CapabilitySpec)
    (result : CapabilityExecutionResult) : RuntimeAuditBuffer :=
  let eventTypes := if capability.emits.isEmpty then ["capability.executed"] else capability.emits
  eventTypes.foldl (fun audit eventType => audit.event eventType
    (Fields.merge [("run_id", .str audit.runId), ("capability_id", .str capability.id)]
      result.eventPayload)) audit

def responseOf (invocation : Invocation) (audit : RuntimeAuditBuffer)
    (result : CapabilityExecutionResult) : RuntimeResponse where
  runId := audit.runId
  status := "completed"
  capabilityId := some invocation.capability.id
  decision := invocation.decision
  result := some result.value
  done := true
  trace := audit.publicTrace

/-- Stages 10 to 13: one transaction for the audit, the approval and the claim. -/
def complete (context : ExecutionContext) (invocation : Invocation)
    (result : CapabilityExecutionResult) : Body RuntimeResponse := do
  let audit := invocation.audit.step 9 .execute "ok"
  let locals := { invocation.locals with audit }
  Fallible.ofExcept ((validateSchema (.obj result.value) invocation.capability.outputSchema).mapError
    (Raised.mk locals))
  let audit := (audit.step 10 .validate "ok").step 11 .recordTrace "ok"
  let audit := completionEvents audit invocation.capability result
  let audit := (audit.step 12 .emitEvents "ok").step 13 .respond "done"
  let response := responseOf invocation audit result
  let approval ← Fallible.ofExcept ((consumeApproval invocation.usedApproval context
    invocation.request audit.runId).mapError (Raised.mk { locals with audit }))
  let changes := persistAudit
    { approval, claim := completeRequest invocation.claim response } audit context
    { capabilityId := some invocation.capability.id, status := .completed,
      result := some result.value, resourceType := result.resourceType,
      resourceId := result.resourceId }
  during { locals with audit } (commit changes)
  pure response

def perform (caller : Caller) (context : ExecutionContext) (invocation : Invocation) :
    Body RuntimeResponse := do
  let replayed ← replay caller.deployment context invocation
  match replayed with
  | some response => pure response
  | none =>
      let invocation ← authorize caller.deployment context invocation
      let reservation ← reserve caller context invocation
      match reservation.replay with
      | some response => pure response
      | none =>
          let invocation := { invocation with claim := reservation.claim }
          let result ← callProvider caller.deployment context invocation
          complete context invocation result

def executeBody (caller : Caller) (context : ExecutionContext) (request : RuntimeRequest) :
    Body RuntimeResponse := do
  let (capability, audit) ← Fallible.ofExcept
    (understand caller.deployment context request { runId := caller.runId })
  let minimumContext ← during { audit, capability := some capability } (loadMinimumContext context)
  let invocation ← Fallible.ofExcept (plan context request capability minimumContext audit)
  perform caller context invocation

/-- `_persist_failure`, in the transaction that `changes` begins. -/
def persistFailure (context : ExecutionContext) (request : RuntimeRequest) (locals : Locals)
    (changes : Changes) (code error : String) : Session Unit := do
  let capabilityId := locals.capability.map (·.id)
  let audit := locals.audit.event "runtime.failed"
    [("run_id", .str locals.audit.runId), ("code", .str code),
      ("capability_id", textOrNull capabilityId)]
  commit (persistAudit changes audit context
    { capabilityId := capabilityId.or request.capabilityId, status := .failed, error })

/-- What the handler of one kind of exception records and raises. -/
structure Handler where
  status : String
  code : String
  statusCode : Nat
  message : String
  /-- Leave the trace alone when the call has already responded. -/
  once : Bool := false

def handlerOf : KernelError → Option Handler
  | .approval message =>
      some { status := "blocked", code := "approval_invalid", statusCode := 409, message }
  | .idempotencyConflict message =>
      some { status := "blocked", code := "idempotency_conflict", statusCode := 409, message }
  | .idempotencyInProgress message =>
      some { status := "blocked", code := "request_in_progress", statusCode := 409, message }
  | .registry message | .schemaValidation message | .value message =>
      some { status := "failed", code := "invalid_request", statusCode := 422, message }
  | .permission message =>
      some { status := "denied", code := "forbidden", statusCode := 403, message, once := true }
  | .lookup _ | .runtime _ =>
      some { status := "failed", code := "runtime_unavailable", statusCode := 503,
             message := "Runtime dependency is unavailable" }
  | .execution .. | .other _ => none

def pendingFor (caller : Caller) (context : ExecutionContext) (request : RuntimeRequest)
    (locals : Locals) (code : String) : Session (Option KernelApproval × Option ApprovalWrite) :=
  match locals.capability, locals.plannedArguments with
  | some capability, some plannedArguments =>
      if code = "approval_required" then do
        let (approval, write) ← createPendingApproval caller context capability.id plannedArguments
          (locals.executionRequest.getD request).requestId request.conversationId locals.audit.runId
        pure (some approval, write)
      else pure (none, none)
  | _, _ => pure (none, none)

def respondOnce (audit : RuntimeAuditBuffer) (status : String) : RuntimeAuditBuffer :=
  if audit.responded then audit else audit.step 13 .respond status

/-- The `except` clauses of `execute`; none of them returns. -/
def recover (caller : Caller) (context : ExecutionContext) (request : RuntimeRequest)
    (raised : Raised) : Session RuntimeResponse :=
  match raised.error with
  | .execution message code statusCode approvalId => do
      query .rollback
      let (approval, write) ← pendingFor caller context request raised.locals code
      let approvalId := match approval with
        | some row => some row.id
        | none => approvalId
      let locals := { raised.locals with audit := respondOnce raised.locals.audit "blocked" }
      persistFailure context request locals { approval := write } code message
      raise (.execution message code statusCode approvalId)
  | error =>
      match handlerOf error with
      | some handler => do
          query .rollback
          let audit := if handler.once then respondOnce raised.locals.audit handler.status
            else raised.locals.audit.step 13 .respond handler.status
          persistFailure context request { raised.locals with audit } {} handler.code error.message
          raise (.execution handler.message handler.code handler.statusCode none)
      | none => raise error

def execute (caller : Caller) (context : ExecutionContext) (request : RuntimeRequest) :
    Session RuntimeResponse :=
  ExceptT.mk do
    let result ← (executeBody caller context request).run
    match result with
    | .ok response => pure (.ok response)
    | .error raised => (recover caller context request raised).run

theorem execute_run (caller : Caller) (context : ExecutionContext) (request : RuntimeRequest) :
    (execute caller context request).run = (executeBody caller context request).run >>= fun result =>
      match result with
      | .ok response => pure (.ok response)
      | .error raised => (recover caller context request raised).run := rfl

inductive Entry where
  | execute (context : ExecutionContext) (request : RuntimeRequest)
  | decide (context : ExecutionContext) (approvalId : String) (approved : Bool)
      (decidedByUserId : String)

inductive Result where
  | executed (result : Except KernelError RuntimeResponse)
  | decided (result : Except KernelError KernelApproval)

def closeSession : Program kernelDb Unit := Program.ask (show kernelDb.Op from .rollback)

def main (deployment : Deployment) (pid : Nat) : Entry → Program kernelDb Result
  | .execute context request => do
      let result ← (execute ⟨deployment, pid⟩ context request).run
      closeSession
      pure (.executed result)
  | .decide context approvalId approved decidedByUserId => do
      let result ← (decideApproval context approvalId approved decidedByUserId).run
      closeSession
      pure (.decided result)

end Operly.Kernel
