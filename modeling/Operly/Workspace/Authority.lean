import Operly.Concurrent.ReadCommitted
import Operly.Relational.Columns
import Operly.Security.Context

/-! What the capabilities of a workspace share: the account and the workspace of the caller, and the
activity that they record. -/

namespace Operly.Workspace
open Python Concurrent Security Fallible Transaction

/-- `PermissionError`, `ValueError`, and what the database raises at a flush. -/
inductive CapabilityError where
  | permission (message : String)
  | value (message : String)
  | database
  deriving DecidableEq

structure AppUser where
  id : String
  email : String
  displayName : String
  active : Bool
  deriving DecidableEq

/-- `AuthContext`, with the `id` of the tenant -/
structure AuthContext where
  user : AppUser
  tenantId : String
  role : String

def AuthContext.actor (auth : AuthContext) : String :=
  if auth.user.displayName ≠ "" then auth.user.displayName else auth.user.email

structure ActivityEvent where
  tenantId : String
  eventType : String
  entityType : String
  entityId : Option String
  summary : String
  actor : String
  deriving DecidableEq

def activity (auth : AuthContext) (verb entity : String) (recordId : Option String) (summary : String) :
    ActivityEvent :=
  ⟨auth.tenantId, "record." ++ verb, entity, recordId, summary, auth.actor⟩

structure Directory where
  tenants : List String
  users : List AppUser

section Authority
variable {queries : Interface} {ω : Type}

/-- `_auth` of a provider, given how it finds a tenant and a user. -/
def authContext (unauthorized : String)
    (tenant : String → Transaction queries ω CapabilityError (Option String))
    (user : String → Transaction queries ω CapabilityError (Option AppUser)) (context : ExecutionContext) :
    Transaction queries ω CapabilityError AuthContext := do
  if !isSet context.workspaceId || !isSet context.userId then
    raise (.permission unauthorized)
  let tenantId ← tenant (context.workspaceId.getD "")
  let account ← user (context.userId.getD "")
  match tenantId, account with
  | some tenantId, some account => return ⟨account, tenantId, context.role⟩
  | _, _ => raise (.permission "Workspace authority is unavailable")

theorem authContext_yields {answers : (query : queries.Op) → queries.Answer query → Prop}
    {unauthorized : String} {tenant : String → Transaction queries ω CapabilityError (Option String)}
    {user : String → Transaction queries ω CapabilityError (Option AppUser)} {context : ExecutionContext}
    (tenants : ∀ id, (tenant id).Yields answers fun _ => True)
    (users : ∀ id, (user id).Yields answers fun _ => True) :
    (authContext unauthorized tenant user context).Yields answers fun _ => True := by
  unfold authContext
  apply Yields.check
  intro _
  apply Yields.bind (tenants _)
  intro tenantId _
  apply Yields.bind (users _)
  intro account _
  split
  · exact Yields.pure trivial
  · exact Yields.raise

end Authority

end Operly.Workspace
