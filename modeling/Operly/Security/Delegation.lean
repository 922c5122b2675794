import Mathlib.Data.Finset.Card
import Operly.Security.Context

/-! Delegated execution contexts: one non-human principal and an exact capability allowlist. -/

namespace Operly.Security
open Python

inductive PrincipalKind where
  | workflow
  | softwareProject
  | production
  | agentRun
  | appUser
  | publicSession
  deriving DecidableEq, Repr

namespace PrincipalKind

def value : PrincipalKind → String
  | .workflow => "workflow"
  | .softwareProject => "software_project"
  | .production => "production"
  | .agentRun => "agent_run"
  | .appUser => "app_user"
  | .publicSession => "public_session"

def ofValue (text : String) : Option PrincipalKind :=
  [workflow, softwareProject, production, agentRun, appUser, publicSession].find? fun kind =>
    kind.value = text

end PrincipalKind

/-- A first character of one class, then between `least` and `most` of another. -/
def matchesName (first rest : Char → Bool) (least most : Nat) (text : String) : Bool :=
  match text.toList with
  | [] => false
  | c :: tail => first c && tail.all rest && least ≤ tail.length && tail.length ≤ most

def isLowerLetter (c : Char) : Bool := 'a' ≤ c && c ≤ 'z'

def isAsciiDigit (c : Char) : Bool := '0' ≤ c && c ≤ '9'

def isAsciiAlnum (c : Char) : Bool := isLowerLetter c || ('A' ≤ c && c ≤ 'Z') || isAsciiDigit c

/-- `[a-z][a-z0-9_.:-]{1,159}` -/
def isCapabilityId : String → Bool :=
  matchesName isLowerLetter
    (fun c => isLowerLetter c || isAsciiDigit c || ['_', '.', ':', '-'].contains c) 1 159

/-- A letter or digit, then at most `most` letters, digits, or characters of `_.:@/` and `-`. -/
def isPrincipalName (most : Nat) : String → Bool :=
  matchesName isAsciiAlnum
    (fun c => isAsciiAlnum c || ['_', '.', ':', '@', '/', '-'].contains c) 0 most

def isPrincipalId : String → Bool := isPrincipalName 95

def isDelegationId : String → Bool := isPrincipalName 119

def maxCapabilities : Nat := 128

/-- An execution context narrowed to one non-human principal; its `principalId` is the raw
identifier of that principal. -/
structure DelegatedExecutionContext extends ExecutionContext where
  principalKind : PrincipalKind
  delegationId : String
  delegatedCapabilityIds : Finset String
  parentPrincipalId : String

def DelegatedExecutionContext.principalKey (context : DelegatedExecutionContext) : String :=
  context.principalKind.value ++ ":" ++ context.principalId.getD ""

inductive BaseContext where
  | plain (context : ExecutionContext)
  | delegated (context : DelegatedExecutionContext)

namespace BaseContext

def context : BaseContext → ExecutionContext
  | plain context => context
  | delegated context => context.toExecutionContext

def effectivePrincipalKey : BaseContext → Option String
  | delegated context => some context.principalKey
  | plain context =>
      if isSet context.principalId then some (context.principalId.getD "")
      else if isSet context.userId then some ("user:" ++ context.userId.getD "")
      else none

end BaseContext

inductive DelegationError where
  | permission (message : String)
  | value (message : String)
  deriving DecidableEq

def delegationParent (base : BaseContext) (requested : Finset String) :
    Except DelegationError String :=
  match base with
  | .delegated parent =>
      if ¬ requested ⊆ parent.delegatedCapabilityIds then
        .error (.permission "Child delegation cannot widen parent capability authority")
      else .ok parent.principalKey
  | .plain context => .ok (match base.effectivePrincipalKey with
      | some key => if key = "" then "user:" ++ context.userId.getD "" else key
      | none => "user:" ++ context.userId.getD "")

def delegateExecutionContext (base : BaseContext) (principalKind principalId : String)
    (capabilityIds : Finset String) (delegationIdValue : String) :
    Except DelegationError DelegatedExecutionContext := do
  let context := base.context
  if context.scopeKind ≠ .workspace ∨ ¬ isSet context.workspaceId then
    throw (.permission "Delegated principals currently require workspace authority")
  if ¬ isSet context.userId ∨ ¬ isSet context.membershipId then
    throw (.permission "Delegation requires a currently authenticated workspace member")
  let some kind := PrincipalKind.ofValue (lower (strip principalKind))
    | throw (.value "Unsupported delegated principal kind")
  let cleanPrincipal := strip principalId
  if ¬ isPrincipalId cleanPrincipal then throw (.value "Delegated principal id is invalid")
  let cleanDelegation := strip delegationIdValue
  if ¬ isDelegationId cleanDelegation then throw (.value "Delegation id is invalid")
  let requested := capabilityIds.image strip
  if requested = ∅ ∨ requested.card > maxCapabilities then
    throw (.value "Delegation requires a bounded non-empty capability allowlist")
  if ∃ item ∈ requested, ¬ isCapabilityId item then
    throw (.value "Delegation contains an invalid capability id")
  let parentPrincipal ← delegationParent base requested
  return { context with
    principalKind := kind
    principalId := some cleanPrincipal
    delegationId := cleanDelegation
    delegatedCapabilityIds := requested
    parentPrincipalId := parentPrincipal }

/-- What a delegation leaves as it was in its base, and what it may narrow. -/
structure Narrows (base : BaseContext) (child : DelegatedExecutionContext) : Prop where
  inherited : child.toExecutionContext = { base.context with principalId := child.principalId }
  allowlist : ∀ parent, base = .delegated parent →
    child.delegatedCapabilityIds ⊆ parent.delegatedCapabilityIds
  workspace : base.context.scopeKind = .workspace ∧ isSet base.context.workspaceId = true

theorem delegateExecutionContext_narrows {base : BaseContext} {principalKind principalId : String}
    {capabilityIds : Finset String} {delegationIdValue : String} {child : DelegatedExecutionContext}
    (built : delegateExecutionContext base principalKind principalId capabilityIds delegationIdValue =
      .ok child) : Narrows base child := by
  unfold delegateExecutionContext at built
  simp only [bind, Except.bind, pure, Except.pure, throw, throwThe, MonadExceptOf.throw] at built
  split at built
  · cases built
  · next scope =>
    split at built
    · cases built
    · split at built
      · split at built
        · cases built
        · split at built
          · cases built
          · split at built
            · cases built
            · split at built
              · cases built
              · split at built
                · cases built
                · next parent narrowed =>
                  cases built
                  refine ⟨rfl, ?_, by simpa using scope⟩
                  rintro parent rfl
                  simp only [delegationParent] at narrowed
                  split at narrowed
                  · cases narrowed
                  · next within => exact not_not.mp within
      · cases built

end Operly.Security
