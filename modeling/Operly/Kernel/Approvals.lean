import Operly.Kernel.Database

/-! Approvals: a human decision bound to one exact invocation. -/

namespace Operly.Kernel
open Python Security Concurrent Fallible

/-- What a deployment brings along: the capability registry and its search, the registered
providers, the hash function, and the identifiers it generates. -/
structure Deployment where
  registry : CapabilityRegistry
  /-- `registry.search(goal, context=context, effective_only=False, limit=2)` -/
  search : ExecutionContext → String → List CapabilitySpec
  search_mem : ∀ context goal, ∀ spec ∈ search context goal, spec ∈ registry.specs
  providers : List String
  /-- sha256 of a text. -/
  digest : String → String
  sha256 : Json → String
  /-- `str(value)` of a value that may not be a text. -/
  str : Json → String
  str_text : ∀ text, str (.str text) = text
  /-- The run id that the audit buffer of a call draws. -/
  runId : Nat → String
  approvalId : Nat → String

structure Caller where
  deployment : Deployment
  pid : Nat

def Caller.runId (caller : Caller) : String := caller.deployment.runId caller.pid

abbrev Session (α : Type) := Fallible kernelDb KernelError α

def Flushed.outcome : Flushed → Except KernelError Unit
  | .committed => .ok ()
  | .integrityError => .error (.other "IntegrityError")
  | .failed error => .error error

def commit (changes : Changes) : Session Unit := do
  let flushed ← query (.commit changes)
  Fallible.ofExcept flushed.outcome

def argumentsHash (deployment : Deployment) (capabilityId : String) (arguments : Fields) : String :=
  deployment.sha256 (Json.obj [("capability_id", .str capabilityId), ("arguments", .obj arguments)]).sortKeys

def scopeFilters (context : ExecutionContext) : Except KernelError ScopeFilter :=
  if context.isPersonal then
    if !isSet context.userId then .error (.approval "Personal approval requires an owner")
    else .ok (.owner (context.userId.getD ""))
  else if !isSet context.workspaceId then
    .error (.approval "Workspace approval requires workspace authority")
  else .ok (.tenant (context.workspaceId.getD ""))

/-- `str(text or "").strip()` -/
def clean (text : Option String) : String := strip (text.getD "")

/-- `text or None` -/
def orNone (text : String) : Option String := if text = "" then none else some text

/-- The approval an invocation has to wait for, and the row to insert when it is new. -/
def createPendingApproval (caller : Caller) (context : ExecutionContext) (capabilityId : String)
    (arguments : Fields) (requestId : Option String) (conversationId : Option String)
    (sourceRunId : String) : Session (KernelApproval × Option ApprovalWrite) := do
  let digest := argumentsHash caller.deployment capabilityId arguments
  let scope ← Fallible.ofExcept (scopeFilters context)
  let cleanRequestId := orNone (clean requestId)
  let existing ← query (.pendingApproval
    { scope, principalId := context.principalId, capabilityId, argumentsHash := digest,
      requestId := cleanRequestId })
  match existing with
  | some row => pure (row, none)
  | none =>
      let row : KernelApproval :=
        { id := caller.deployment.approvalId caller.pid
          scopeKind := context.scopeKind
          workspaceId := context.workspaceId
          ownerUserId := if context.isPersonal then context.userId else none
          requestedByPrincipalId := context.principalId
          requestedByUserId := context.userId
          capabilityId
          argumentsHash := digest
          argumentsJson := (Json.obj arguments).sortKeys
          requestId := cleanRequestId
          conversationId
          sourceRunId := some sourceRunId
          status := .pending
          decidedByUserId := none
          consumedRunId := none }
      pure (row, some (.insert row))

/-- `approval_for_context(..., lock=True)` -/
def approvalForContext (context : ExecutionContext) (approvalId : String) : Session KernelApproval := do
  let scope ← Fallible.ofExcept (scopeFilters context)
  let row ← query (.approvalForUpdate approvalId scope)
  match row with
  | some row => pure row
  | none => raise (.approval "Approval is unavailable in this scope")

def validateBinding (deployment : Deployment) (row : KernelApproval) (context : ExecutionContext)
    (capabilityId : String) (arguments : Fields) : Except KernelError Unit :=
  if isSet row.requestedByPrincipalId && row.requestedByPrincipalId != context.principalId then
    .error (.approval "Approval belongs to a different initiating principal")
  else if row.capabilityId ≠ capabilityId then
    .error (.approval "Approval is bound to a different capability")
  else if row.argumentsHash ≠ argumentsHash deployment capabilityId arguments then
    .error (.approval "Approval arguments do not match the authorized invocation")
  else .ok ()

namespace ApprovalStatus

def value : ApprovalStatus → String
  | .pending => "pending"
  | .approved => "approved"
  | .denied => "denied"
  | .executing => "executing"
  | .consumed => "consumed"

end ApprovalStatus

def decideApproval (context : ExecutionContext) (approvalId : String) (approved : Bool)
    (decidedByUserId : String) : Session KernelApproval := do
  let row ← approvalForContext context approvalId
  if row.status ≠ .pending then
    raise (.approval ("Approval is already " ++ row.status.value))
  else
    commit { approval := some (.decided row.id approved decidedByUserId) }
    pure { row with
      status := if approved then .approved else .denied, decidedByUserId := some decidedByUserId }

def validateApprovedInvocation (deployment : Deployment) (context : ExecutionContext)
    (approvalId : String) (capabilityId : String) (arguments : Fields) : Session KernelApproval := do
  let row ← approvalForContext context approvalId
  if row.status ≠ .approved then
    raise (.approval ("Approval is not executable: " ++ row.status.value))
  else
    Fallible.ofExcept (validateBinding deployment row context capabilityId arguments)
    pure row

/-- The approval of one exact mutation, and the transition to commit before its side effect. -/
def claimApprovedInvocation (deployment : Deployment) (context : ExecutionContext)
    (approvalId : String) (requestId : String) (request : RuntimeRequest) (capabilityId : String)
    (arguments : Fields) : Session ApprovalWrite := do
  let row ← approvalForContext context approvalId
  if row.status ≠ .approved then
    raise (.approval ("Approval is not executable: " ++ row.status.value))
  else
    Fallible.ofExcept (validateBinding deployment row context capabilityId arguments)
    let originalRequestId := clean row.requestId
    let currentRequestId := strip requestId
    if originalRequestId = "" then
      raise (.approval "Approval is missing its original stable request_id")
    else if currentRequestId = "" || currentRequestId != originalRequestId then
      raise (.approval "Approval is bound to a different request_id")
    else pure (.executing row.id context request)

/-- The transition that ends an approval. The session holds the row as it validated it; its own
reservation may have made it executing since, which is consumed all the same. -/
def consumeApproval (approval : Option KernelApproval) (context : ExecutionContext)
    (request : RuntimeRequest) (runId : String) : Except KernelError (Option ApprovalWrite) :=
  match approval with
  | none => .ok none
  | some row =>
      if row.status ≠ .approved ∧ row.status ≠ .executing then
        .error (.approval "Only an approved or executing invocation can be consumed")
      else .ok (some (.consumed row.id runId context request))

end Operly.Kernel
