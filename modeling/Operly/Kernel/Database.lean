import Operly.Kernel.Policy
import Operly.Concurrent.Program

/-! The rows the Kernel keeps, and the database requests of one Kernel session. A select
returns committed rows; what a session writes becomes visible, all at once, at its commit.
`SELECT ... FOR UPDATE` holds the row until the session commits, rolls back or is lost. -/

namespace Operly.Kernel
open Python Security Concurrent

inductive ClaimStatus where
  | running
  | completed
  | other (text : String)
  deriving DecidableEq

structure KernelRequestClaim where
  idempotencyKey : String
  requestId : String
  scopeKind : ScopeKind
  workspaceId : Option String
  ownerUserId : Option String
  principalId : Option String
  capabilityId : Option String
  argumentsHash : String
  status : ClaimStatus
  runId : Option String
  responseJson : Json
  deriving DecidableEq

inductive ApprovalStatus where
  | pending
  | approved
  | denied
  | executing
  | consumed
  deriving DecidableEq

structure KernelApproval where
  id : String
  scopeKind : ScopeKind
  workspaceId : Option String
  ownerUserId : Option String
  requestedByPrincipalId : Option String
  requestedByUserId : Option String
  capabilityId : String
  argumentsHash : String
  argumentsJson : Json
  requestId : Option String
  conversationId : Option String
  sourceRunId : Option String
  status : ApprovalStatus
  decidedByUserId : Option String
  consumedRunId : Option String
  deriving DecidableEq

inductive RunStatus where
  | completed
  | failed
  deriving DecidableEq

structure KernelRun where
  id : String
  scopeKind : ScopeKind
  workspaceId : Option String
  ownerUserId : Option String
  principalId : Option String
  capabilityId : Option String
  status : RunStatus
  resultKeys : List String
  error : Option String
  deriving DecidableEq

structure KernelEventRecord where
  eventType : String
  scopeKind : ScopeKind
  workspaceId : Option String
  ownerUserId : Option String
  principalId : Option String
  capabilityId : Option String
  resourceType : Option String
  resourceId : Option String
  payload : Fields
  deriving DecidableEq

/-- The rows of an approval select that lie in the authority of one context. -/
inductive ScopeFilter where
  | owner (ownerUserId : String)
  | tenant (workspaceId : String)
  deriving DecidableEq

def ScopeFilter.admits (filter : ScopeFilter) (row : KernelApproval) : Bool :=
  match filter with
  | .owner user => row.scopeKind = .personal && row.ownerUserId = some user && row.workspaceId = none
  | .tenant workspace => row.scopeKind = .workspace && row.workspaceId = some workspace

/-- The pending approval that an earlier request for the same invocation left behind. -/
structure PendingFilter where
  scope : ScopeFilter
  principalId : Option String
  capabilityId : String
  argumentsHash : String
  requestId : Option String
  deriving DecidableEq

/-- SQLAlchemy compares a column with `None` by `IS NULL`. -/
def PendingFilter.admits (filter : PendingFilter) (row : KernelApproval) : Bool :=
  filter.scope.admits row && row.requestedByPrincipalId = filter.principalId &&
    row.capabilityId = filter.capabilityId && row.argumentsHash = filter.argumentsHash &&
    row.status = .pending && (filter.requestId = none || row.requestId = filter.requestId)

structure ProviderCall where
  context : ExecutionContext
  capability : CapabilitySpec
  arguments : Fields
  minimumContext : Fields
  deriving DecidableEq

inductive ClaimWrite where
  | insert (row : KernelRequestClaim)
  | running (key : String) (runId : String)
  | completed (key : String) (runId : String) (capabilityId : Option String) (responseJson : Json)

inductive ApprovalWrite where
  | insert (row : KernelApproval)
  | decided (id : String) (approved : Bool) (decidedByUserId : String)
  | executing (id : String) (context : ExecutionContext) (request : RuntimeRequest)
  | consumed (id : String) (runId : String) (context : ExecutionContext) (request : RuntimeRequest)

structure Changes where
  claim : Option ClaimWrite := none
  approval : Option ApprovalWrite := none
  runs : List KernelRun := []
  events : List KernelEventRecord := []

inductive Op where
  | tenant (workspaceId : String)
  | claimByKey (key : String)
  | approvalForUpdate (id : String) (filter : ScopeFilter)
  | pendingApproval (filter : PendingFilter)
  | provider (call : ProviderCall) (request : RuntimeRequest)
  | commit (changes : Changes)
  | rollback

inductive Flushed where
  | committed
  | integrityError
  /-- A statement of the transaction raised, and nothing was committed. -/
  | failed (error : KernelError)
  deriving DecidableEq

structure TenantRow where
  id : String
  name : String
  timezone : String
  deriving DecidableEq

def kernelDb : Interface where
  Op := Op
  Answer
    | .tenant _ => Option TenantRow
    | .claimByKey _ => Option KernelRequestClaim
    | .approvalForUpdate _ _ => Option KernelApproval
    | .pendingApproval _ => Option KernelApproval
    | .provider _ _ => Except KernelError CapabilityExecutionResult
    | .commit _ => Flushed
    | .rollback => Unit

abbrev query {ε : Type} (op : Op) : Fallible kernelDb ε (kernelDb.Answer op) :=
  Fallible.ask (show kernelDb.Op from op)

end Operly.Kernel
