import Operly.Security.Context

/-! The contracts between the Kernel, its callers and the capability providers. -/

namespace Operly.Kernel
open Python Security

inductive CapabilityRisk where
  | readOnly
  | low
  | medium
  | high
  deriving DecidableEq, Repr

namespace CapabilityRisk

def value : CapabilityRisk → String
  | .readOnly => "read_only"
  | .low => "low"
  | .medium => "medium"
  | .high => "high"

def ofValue (text : String) : Option CapabilityRisk :=
  if text = "read_only" then some .readOnly
  else if text = "low" then some .low
  else if text = "medium" then some .medium
  else if text = "high" then some .high
  else none

@[simp] theorem ofValue_value (risk : CapabilityRisk) : ofValue risk.value = some risk := by
  cases risk <;> decide

end CapabilityRisk

inductive AuthorizationDecision where
  | allow
  | ask
  | deny
  deriving DecidableEq, Repr

namespace AuthorizationDecision

def value : AuthorizationDecision → String
  | .allow => "allow"
  | .ask => "ask"
  | .deny => "deny"

def ofValue (text : String) : Option AuthorizationDecision :=
  if text = "allow" then some .allow
  else if text = "ask" then some .ask
  else if text = "deny" then some .deny
  else none

@[simp] theorem ofValue_value (decision : AuthorizationDecision) : ofValue decision.value = some decision := by
  cases decision <;> decide

end AuthorizationDecision

structure CapabilitySpec where
  id : String
  version : String
  providerId : String
  scopes : List String
  inputSchema : Fields
  outputSchema : Fields
  permissions : List String := []
  risk : CapabilityRisk := .readOnly
  approvalRequired : Bool := false
  resourceScope : String := "scope"
  emits : List String := []
  deriving DecidableEq

def CapabilitySpec.mutating (spec : CapabilitySpec) : Bool := spec.risk ≠ .readOnly

structure RuntimeRequest where
  goal : String := ""
  capabilityId : Option String := none
  arguments : Fields := []
  conversationId : Option String := none
  requestId : Option String := none
  approvalId : Option String := none
  deriving DecidableEq

structure CapabilityExecutionResult where
  value : Fields
  resourceType : Option String := none
  resourceId : Option String := none
  eventPayload : Fields := []
  deriving DecidableEq

structure RuntimeResponse where
  runId : String
  status : String
  capabilityId : Option String
  decision : AuthorizationDecision
  result : Option Fields
  done : Bool
  trace : List Fields
  deriving DecidableEq

def textOrNull : Option String → Json
  | some text => .str text
  | none => .null

/-- The exceptions that the Kernel tells apart. `runtime` is any other `RuntimeError`, and
`other` whatever none of its handlers catches. -/
inductive KernelError where
  | execution (message : String) (code : String) (statusCode : Nat) (approvalId : Option String)
  | approval (message : String)
  | idempotencyConflict (message : String)
  | idempotencyInProgress (message : String)
  | registry (message : String)
  | schemaValidation (message : String)
  | value (message : String)
  | permission (message : String)
  | lookup (message : String)
  | runtime (message : String)
  | other (message : String)
  deriving DecidableEq

namespace KernelError

/-- `str(error)` -/
def message : KernelError → String
  | .execution message _ _ _ => message
  | .approval message | .idempotencyConflict message | .idempotencyInProgress message
  | .registry message | .schemaValidation message | .value message | .permission message
  | .lookup message | .runtime message | .other message => message

end KernelError

end Operly.Kernel
