import Operly.Kernel.World
import Operly.Concurrent.RelyGuarantee

/-! What the sessions of the Kernel promise one another. -/

namespace Operly.Kernel
open Python Security Concurrent

namespace ApprovalStatus

def leadsTo : ApprovalStatus → ApprovalStatus → Bool
  | .pending, _ => true
  | .approved, status => status = .approved || status = .executing || status = .consumed
  | .denied, status => status = .denied
  | .executing, status => status = .executing || status = .consumed
  | .consumed, status => status = .consumed

theorem leadsTo_refl (status : ApprovalStatus) : status.leadsTo status = true := by
  cases status <;> rfl

theorem leadsTo_trans {first second third : ApprovalStatus} (left : first.leadsTo second = true)
    (right : second.leadsTo third = true) : first.leadsTo third = true := by
  revert left right
  cases first <;> cases second <;> cases third <;> decide

end ApprovalStatus

/-- A row and a later version of it: only the status and who decided or used it change. -/
structure Evolves (before after : KernelApproval) : Prop where
  fixed : after = { before with
    status := after.status, decidedByUserId := after.decidedByUserId,
    consumedRunId := after.consumedRunId }
  status : before.status.leadsTo after.status = true

namespace Evolves

theorem refl (row : KernelApproval) : Evolves row row := ⟨rfl, row.status.leadsTo_refl⟩

theorem trans {first second third : KernelApproval} (left : Evolves first second)
    (right : Evolves second third) : Evolves first third := by
  refine ⟨?_, ApprovalStatus.leadsTo_trans left.status right.status⟩
  rw [right.fixed, left.fixed]

variable {before after : KernelApproval}

theorem id (later : Evolves before after) : after.id = before.id := by rw [later.fixed]

theorem capabilityId (later : Evolves before after) : after.capabilityId = before.capabilityId := by
  rw [later.fixed]

theorem argumentsHash (later : Evolves before after) : after.argumentsHash = before.argumentsHash := by
  rw [later.fixed]

theorem admits (later : Evolves before after) (filter : ScopeFilter) :
    filter.admits after = filter.admits before := by
  rw [later.fixed]
  cases filter <;> rfl

end Evolves

structure Binds (deployment : Deployment) (context : ExecutionContext) (request : RuntimeRequest)
    (row : KernelApproval) : Prop where
  scope : ∃ filter, scopeFilters context = .ok filter ∧ filter.admits row = true
  capability : request.capabilityId = some row.capabilityId
  arguments : row.argumentsHash = argumentsHash deployment row.capabilityId request.arguments

theorem Binds.evolves {deployment : Deployment} {context : ExecutionContext} {request : RuntimeRequest}
    {before after : KernelApproval} (bound : Binds deployment context request before) (later : Evolves before after) :
    Binds deployment context request after := by
  obtain ⟨filter, same, admitted⟩ := bound.scope
  refine ⟨⟨filter, same, ?_⟩, ?_, ?_⟩
  · rw [later.admits, admitted]
  · rw [later.capabilityId, bound.capability]
  · rw [later.argumentsHash, later.capabilityId, bound.arguments]

def Allowed (deployment : Deployment) (before after : KernelApproval)
    (invocation : Option (ExecutionContext × RuntimeRequest)) : Prop :=
  match before.status, after.status with
  | .pending, .approved | .pending, .denied => invocation = none
  | .approved, .executing => ∃ context request, invocation = some (context, request) ∧
      Binds deployment context request before ∧
      before.requestedByPrincipalId = context.principalId ∧
      clean before.requestId = clean request.requestId ∧ clean request.requestId ≠ ""
  | .executing, .consumed => ∃ context request, invocation = some (context, request) ∧
      Binds deployment context request before
  | .approved, .consumed => ∃ context request, invocation = some (context, request) ∧
      Binds deployment context request before ∧
      ∃ spec ∈ deployment.registry.specs, spec.id = before.capabilityId ∧ spec.mutating = false
  | _, _ => False

def Reserved (pid : Nat) (key : String) (state : KernelState) : Prop :=
  ∃ row, .reserved pid row ∈ state.log ∧ row.idempotencyKey = key

/-- What a step of the acting sessions leaves as it was. `proper` says that no claim was in
any status but running and completed to begin with. -/
structure Step (proper : Prop) (acting : Nat → Prop) (before after : KernelState) : Prop where
  log : ∃ more, after.log = before.log ++ more ∧ ∀ entry ∈ more, acting entry.pid
  locks : ∀ id holder, ¬ acting holder → before.approvalLock id = some holder →
    after.approvalLock id = some holder ∧ after.approvals id = before.approvals id
  approvals : ∀ id row, before.approvals id = some row →
    ∃ later, after.approvals id = some later ∧ Evolves row later
  claims : proper → ∀ key owner, ¬ acting owner → Reserved owner key before →
    after.claims key = before.claims key
  completed : proper → ∀ key row, before.claims key = some row → row.status = .completed →
    after.claims key = some row
  hashes : ∀ key row, before.claims key = some row →
    ∃ later, after.claims key = some later ∧ later.argumentsHash = row.argumentsHash

namespace Step
variable {proper : Prop} {acting : Nat → Prop} {before after : KernelState}

theorem refl (state : KernelState) : Step proper acting state state where
  log := ⟨[], by simp, by simp⟩
  locks _ _ _ held := ⟨held, rfl⟩
  approvals _ row present := ⟨row, present, .refl row⟩
  claims _ _ _ _ _ := rfl
  completed _ _ _ present _ := present
  hashes _ row present := ⟨row, present, rfl⟩

theorem mem {entry : LogEntry} (step : Step proper acting before after)
    (present : entry ∈ before.log) : entry ∈ after.log := by
  obtain ⟨more, grown, -⟩ := step.log
  rw [grown]
  exact List.mem_append_left _ present

theorem reserved {pid : Nat} {key : String} (step : Step proper acting before after)
    (owned : Reserved pid key before) : Reserved pid key after := by
  obtain ⟨row, present, same⟩ := owned
  exact ⟨row, step.mem present, same⟩

theorem trans {first second third : KernelState} (left : Step proper acting first second)
    (right : Step proper acting second third) : Step proper acting first third where
  log := by
    obtain ⟨more, grown, mine⟩ := left.log
    obtain ⟨rest, grown', mine'⟩ := right.log
    refine ⟨more ++ rest, by rw [grown', grown, List.append_assoc], ?_⟩
    intro entry present
    rcases List.mem_append.mp present with early | late
    · exact mine entry early
    · exact mine' entry late
  locks id holder foreign held := by
    obtain ⟨kept, same⟩ := left.locks id holder foreign held
    obtain ⟨kept', same'⟩ := right.locks id holder foreign kept
    exact ⟨kept', same'.trans same⟩
  approvals id row present := by
    obtain ⟨later, present', evolved⟩ := left.approvals id row present
    obtain ⟨last, present'', evolved'⟩ := right.approvals id later present'
    exact ⟨last, present'', evolved.trans evolved'⟩
  claims holds key owner foreign owned :=
    (right.claims holds key owner foreign (left.reserved owned)).trans
      (left.claims holds key owner foreign owned)
  completed holds key row present status :=
    right.completed holds key row (left.completed holds key row present status) status
  hashes key row present := by
    obtain ⟨later, present', same⟩ := left.hashes key row present
    obtain ⟨last, present'', same'⟩ := right.hashes key later present'
    exact ⟨last, present'', same'.trans same⟩

theorem mono {others : Nat → Prop} (step : Step proper acting before after)
    (within : ∀ pid, acting pid → others pid) : Step proper others before after where
  log := by
    obtain ⟨more, grown, mine⟩ := step.log
    exact ⟨more, grown, fun entry present => within _ (mine entry present)⟩
  locks id holder foreign := step.locks id holder fun mine => foreign (within _ mine)
  approvals := step.approvals
  claims holds key owner foreign := step.claims holds key owner fun mine => foreign (within _ mine)
  completed := step.completed
  hashes := step.hashes

end Step

/-! ### The invariant -/

structure Terms where
  deployment : Deployment
  proper : Prop
  bound : Prop
  taken : String → Prop

def LogEntry.invokes (deployment : Deployment) (key : String) : LogEntry → Bool
  | .invoked _ call request _ => call.capability.mutating &&
      (match idempotencyKey deployment call.context (clean request.requestId) with
        | .ok used => used = key
        | .error _ => false)
  | _ => false

structure Gate (terms : Terms) (log : List LogEntry) (pid : Nat) (call : ProviderCall)
    (request : RuntimeRequest) (claim : Option KernelRequestClaim) : Prop where
  registered : call.capability ∈ terms.deployment.registry.specs
  exact : request.capabilityId = some call.capability.id ∧ request.arguments = call.arguments
  authorized : Authorized call.context call.capability
  valid : validateSchema (.obj call.arguments) call.capability.inputSchema = .ok ()
  approved : call.capability.approvalRequired = true → ∃ row, .read pid row ∈ log ∧
    row.status = .approved ∧ Binds terms.deployment call.context request row ∧
    (isSet row.requestedByPrincipalId = true →
      row.requestedByPrincipalId = call.context.principalId)
  reserved : call.capability.mutating = true → ∃ row, .reserved pid row ∈ log ∧
    row.status = .running ∧ row.argumentsHash = requestHash terms.deployment request ∧
    (terms.proper → row.capabilityId = some call.capability.id ∧ claim = some row ∧
      idempotencyKey terms.deployment call.context (clean request.requestId) =
        .ok row.idempotencyKey)

theorem Gate.mono {terms : Terms} {log later : List LogEntry} {pid : Nat} {call : ProviderCall}
    {request : RuntimeRequest} {claim : Option KernelRequestClaim} (gate : Gate terms log pid call request claim)
    (grown : ∀ entry ∈ log, entry ∈ later) : Gate terms later pid call request claim := by
  refine ⟨gate.registered, gate.exact, gate.authorized, gate.valid, ?_, ?_⟩
  · intro required
    obtain ⟨row, present, rest⟩ := gate.approved required
    exact ⟨row, grown _ present, rest⟩
  · intro required
    obtain ⟨row, present, rest⟩ := gate.reserved required
    exact ⟨row, grown _ present, rest⟩

structure ClaimsInvariant (terms : Terms) (state : KernelState) : Prop where
  status : ∀ key row, state.claims key = some row → row.status = .running ∨ row.status = .completed
  taken : ∀ key, terms.taken key → ∃ row, state.claims key = some row
  held : ∀ pid key, Reserved pid key state → ¬ terms.taken key ∧ ∃ row, state.claims key = some row
  owner : ∀ first second key, Reserved first key state → Reserved second key state → first = second
  once : ∀ key, state.log.countP (LogEntry.invokes terms.deployment key) ≤ 1
  stored : ∀ key row, state.claims key = some row → row.status = .completed →
    terms.taken key ∨ ∃ pid, .stored pid row ∈ state.log
  answered : ∀ pid row, .stored pid row ∈ state.log → Reserved pid row.idempotencyKey state ∧
    ∃ entry ∈ state.log, entry.pid = pid ∧ entry.invokes terms.deployment row.idempotencyKey = true

structure Invariant (terms : Terms) (state : KernelState) : Prop where
  keyed : ∀ key row, state.claims key = some row → row.idempotencyKey = key
  identified : ∀ id row, state.approvals id = some row → row.id = id
  locked : ∀ id holder, state.approvalLock id = some holder → ∃ row, state.approvals id = some row
  gates : ∀ earlier pid call request claim later,
    state.log = earlier ++ .invoked pid call request claim :: later →
      Gate terms earlier pid call request claim
  moves : terms.proper → terms.bound → ∀ pid before after invocation,
    .moved pid before after invocation ∈ state.log →
      Allowed terms.deployment before after invocation
  claims : terms.proper → ClaimsInvariant terms state

theorem Invariant.gate_of_mem {terms : Terms} {state : KernelState} (kept : Invariant terms state) {pid : Nat}
    {call : ProviderCall} {request : RuntimeRequest} {claim : Option KernelRequestClaim}
    (present : .invoked pid call request claim ∈ state.log) : Gate terms state.log pid call request claim := by
  obtain ⟨earlier, later, split⟩ := List.append_of_mem present
  apply (kept.gates earlier pid call request claim later split).mono
  intro entry old
  rw [split]
  exact List.mem_append_left _ old

/-- A reservation names an approval that was given for the capability it is about to execute,
to the principal it executes for. -/
def BoundReservation (state : KernelState) : Op → Prop
  | .commit changes =>
      match changes.approval with
      | some (.executing id context request) => ∀ row, state.approvals id = some row →
          request.capabilityId = some row.capabilityId ∧
            row.requestedByPrincipalId = context.principalId
      | _ => True
  | _ => True

def discipline (terms : Terms) : Discipline Entry KernelState where
  invariant := Invariant terms
  rely pid := Step terms.proper (· ≠ pid)
  guarantee pid _ := Step terms.proper (· = pid)
  rely_refl _ := Step.refl
  rely_trans := Step.trans
  guarantee_rely different step := step.mono fun _ same => same ▸ different.symm

def setting (terms : Terms) : Setting kernelDb Entry KernelState Choice where
  world := kernelWorld terms.deployment
  permitted _ _ op _ state := terms.bound → BoundReservation state op
  issued _ _ _ _ := True
  discipline := discipline terms

end Operly.Kernel
