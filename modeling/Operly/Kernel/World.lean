import Operly.Kernel.Runtime

/-! The committed state of the Kernel tables, and what each request of a session does to it. -/

namespace Operly.Kernel
open Python Security Concurrent

/-- What happened, in order, as far as the guarantees of the Kernel speak about it. -/
inductive LogEntry where
  | read (pid : Nat) (row : KernelApproval)
  /-- A commit changed the status of an approval, for the given invocation if any. -/
  | moved (pid : Nat) (before after : KernelApproval)
      (invocation : Option (ExecutionContext × RuntimeRequest))
  | reserved (pid : Nat) (row : KernelRequestClaim)
  | stored (pid : Nat) (row : KernelRequestClaim)
  /-- A provider was called; `claim` is the claim of the request as it was committed then. -/
  | invoked (pid : Nat) (call : ProviderCall) (request : RuntimeRequest)
      (claim : Option KernelRequestClaim)
  deriving DecidableEq

def LogEntry.pid : LogEntry → Nat
  | .read pid _ | .moved pid _ _ _ | .reserved pid _ | .stored pid _ | .invoked pid _ _ _ => pid

structure KernelState where
  claims : String → Option KernelRequestClaim
  approvals : String → Option KernelApproval
  approvalLock : String → Option Nat
  approvalIds : List String
  runs : List KernelRun
  events : List KernelEventRecord
  log : List LogEntry

/-- What a request leaves to the world: rows of other tables, what a provider does, and which
transactions fail. A provider works in the session of its caller and may commit it. -/
inductive Choice where
  | default
  | tenant (row : Option TenantRow)
  | provider (outcome : Except KernelError CapabilityExecutionResult) (commits : Bool)
  | failed (error : KernelError)

namespace ApprovalWrite

def id : ApprovalWrite → String
  | .insert row => row.id
  | .decided id _ _ | .executing id _ _ | .consumed id _ _ _ => id

def update : ApprovalWrite → KernelApproval → KernelApproval
  | .insert row, _ => row
  | .decided _ approved user, row =>
      { row with status := if approved then .approved else .denied, decidedByUserId := some user }
  | .executing _ _ _, row => { row with status := .executing }
  | .consumed _ runId _ _, row => { row with status := .consumed, consumedRunId := some runId }

def invocation : ApprovalWrite → Option (ExecutionContext × RuntimeRequest)
  | .insert _ | .decided _ _ _ => none
  | .executing _ context request | .consumed _ _ context request => some (context, request)

end ApprovalWrite

namespace KernelState

def claimOf (state : KernelState) (deployment : Deployment) (context : ExecutionContext)
    (request : RuntimeRequest) : Option KernelRequestClaim :=
  match idempotencyKey deployment context (clean request.requestId) with
  | .ok key => state.claims key
  | .error _ => none

@[simps -fullyApplied claims approvals approvalLock]
def record (state : KernelState) (entry : LogEntry) : KernelState :=
  { state with log := state.log ++ [entry] }

@[simps -fullyApplied log claims approvalLock]
def putApproval (state : KernelState) (row : KernelApproval) : KernelState :=
  { state with approvals := Function.update state.approvals row.id (some row) }

@[simps -fullyApplied log approvals approvalLock]
def putClaim (state : KernelState) (row : KernelRequestClaim) : KernelState :=
  { state with claims := Function.update state.claims row.idempotencyKey (some row) }

def release (state : KernelState) (pid : Nat) : KernelState :=
  { state with approvalLock := fun id =>
      if state.approvalLock id = some pid then none else state.approvalLock id }

@[simp] theorem mem_record {state : KernelState} {entry other : LogEntry} :
    other ∈ (state.record entry).log ↔ other ∈ state.log ∨ other = entry := by
  simp [record]

theorem putApproval_approvals (state : KernelState) (row : KernelApproval) :
    (state.putApproval row).approvals = Function.update state.approvals row.id (some row) := rfl

theorem putClaim_claims (state : KernelState) (row : KernelRequestClaim) :
    (state.putClaim row).claims = Function.update state.claims row.idempotencyKey (some row) := rfl

def writeApproval (state : KernelState) (pid : Nat) : Option ApprovalWrite → KernelState
  | none => state
  | some (.insert row) => { state.putApproval row with approvalIds := row.id :: state.approvalIds }
  | some write =>
      match state.approvals write.id with
      | none => state
      | some row =>
          let updated := write.update row
          let state := state.putApproval updated
          if row.status = updated.status then state
          else state.record (.moved pid row updated write.invocation)

theorem writeApproval_update (state : KernelState) (pid : Nat) {write : ApprovalWrite}
    (update : ∀ row, write ≠ .insert row) : state.writeApproval pid (some write) =
      match state.approvals write.id with
      | none => state
      | some row =>
          if row.status = (write.update row).status then state.putApproval (write.update row)
          else (state.putApproval (write.update row)).record
            (.moved pid row (write.update row) write.invocation) := by
  cases write with
  | insert row => exact absurd rfl (update row)
  | decided | executing | consumed => rfl

def writeClaim (state : KernelState) (pid : Nat) : Option ClaimWrite → KernelState
  | none => state
  | some (.insert row) => (state.putClaim row).record (.reserved pid row)
  | some (.running key runId) =>
      match state.claims key with
      | none => state
      | some row =>
          let row := { row with status := .running, runId := some runId, responseJson := .obj [] }
          (state.putClaim row).record (.reserved pid row)
  | some (.completed key runId capabilityId responseJson) =>
      match state.claims key with
      | none => state
      | some row =>
          let row := { row with status := .completed, runId := some runId, capabilityId, responseJson }
          (state.putClaim row).record (.stored pid row)

def blocked (state : KernelState) (pid : Nat) : Option ApprovalWrite → Bool
  | none | some (.insert _) => false
  | some write =>
      match state.approvalLock write.id with
      | some holder => holder ≠ pid
      | none => false

def violates (state : KernelState) (changes : Changes) : Bool :=
  (match changes.claim with
    | some (.insert row) => (state.claims row.idempotencyKey).isSome
    | _ => false) ||
  (match changes.approval with
    | some (.insert row) => (state.approvals row.id).isSome
    | _ => false)

def commit (state : KernelState) (pid : Nat) (changes : Changes) : KernelState :=
  let state := (state.writeApproval pid changes.approval).writeClaim pid changes.claim
  { state with
    runs := state.runs ++ changes.runs, events := state.events ++ changes.events }.release pid

end KernelState

/-- One request of a session; `none` while it waits for a row lock. -/
def serve (deployment : Deployment) (pid : Nat) :
    (op : kernelDb.Op) → Choice → KernelState → Option (kernelDb.Answer op × KernelState)
  | .tenant _, .tenant row, state => some (row, state)
  | .tenant _, _, _ => none
  | .claimByKey key, _, state => some (state.claims key, state)
  | .approvalForUpdate id filter, _, state =>
      match state.approvals id with
      | none => some (none, state)
      | some row =>
          if !filter.admits row then some (none, state)
          else if state.approvalLock id ≠ none ∧ state.approvalLock id ≠ some pid then none
          else some (some row, { state with
            approvalLock := Function.update state.approvalLock id (some pid) }.record (.read pid row))
  | .pendingApproval filter, _, state =>
      some (state.approvalIds.findSome? fun id =>
        (state.approvals id).filter filter.admits, state)
  | .provider call request, .provider outcome commits, state =>
      let state := state.record
        (.invoked pid call request (state.claimOf deployment call.context request))
      some (outcome, if commits then state.release pid else state)
  | .provider _ _, _, _ => none
  | .commit _, .failed error, state => some (.failed error, state)
  | .commit changes, _, state =>
      if state.blocked pid changes.approval then none
      else if state.violates changes then some (.integrityError, state)
      else some (.committed, state.commit pid changes)
  | .rollback, _, state => some ((), state.release pid)

def kernelWorld (deployment : Deployment) : World kernelDb KernelState Choice where
  perform := serve deployment
  abandon pid state := state.release pid

end Operly.Kernel
