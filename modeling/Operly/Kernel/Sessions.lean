import Operly.Kernel.Steps

/-! What a session knows at each point of a call, and what each function of a call needs and
leaves behind. -/

namespace Operly.Kernel
open Python Security Concurrent

variable {terms : Terms} {pid : Nat} {entry : Entry} {ξ : Type} {state before after : KernelState}

abbrev Settled (terms : Terms) (pid : Nat) (assertion : KernelState → Prop) : Prop :=
  (setting terms).Stable pid assertion

theorem query_spec {op : Op} {asserted : KernelState → Prop} {post : kernelDb.Answer op → KernelState → Prop}
    (settled : Settled terms pid asserted) (answers : ∀ answer, Settled terms pid (post answer))
    (served : ∀ state choice answer after, Invariant terms state → asserted state →
      (terms.bound → BoundReservation state op) →
      serve terms.deployment pid op choice state = some (answer, after) →
      Advance terms pid state after ∧ post answer after) :
    (setting terms).Triple pid entry asserted (query op : Fallible kernelDb ξ _) post := by
  apply Triple.ask settled answers (fun _ _ _ => trivial)
  intro state choice answer after kept holds allowed performed
  obtain ⟨advance, result⟩ := served state choice answer after kept holds allowed performed
  exact ⟨advance.invariant, advance.step, result⟩

structure Locked (pid : Nat) (row : KernelApproval) (state : KernelState) : Prop where
  read : .read pid row ∈ state.log
  lock : state.approvalLock row.id = some pid
  row : state.approvals row.id = some row

/-- Before its reservation: no provider called, and the approval in use still held. -/
structure Holds (pid : Nat) (used : Option KernelApproval) (state : KernelState) : Prop where
  quiet : Quiet pid state
  used : ∀ row, used = some row → Locked pid row state

def Used (mutating : Prop) (pid : Nat) (used : Option KernelApproval) (state : KernelState) : Prop :=
  ∀ row, used = some row → .read pid row ∈ state.log ∧
    ∃ later, state.approvals row.id = some later ∧ Evolves row later ∧
      (mutating → later.status = .executing ∨ later.status = .consumed)

structure Owned (pid : Nat) (claim : KernelRequestClaim) (state : KernelState) : Prop where
  reserved : .reserved pid claim ∈ state.log
  row : state.claims claim.idempotencyKey = some claim

def Completed (deployment : Deployment) (key hash : String) (response : RuntimeResponse)
    (state : KernelState) : Prop :=
  ∃ row, state.claims key = some row ∧ row.status = .completed ∧ row.argumentsHash = hash ∧
    ∃ stored, responseFromJson deployment row.responseJson = .ok stored ∧
      stored.canonical = response.canonical

variable {proper : Prop} {row : KernelApproval} {deployment : Deployment} {context : ExecutionContext}
  {approvalId capabilityId : String} {request : RuntimeRequest}

theorem Step.quiet (step : Step proper (· ≠ pid) before after) (quiet : Quiet pid before) : Quiet pid after := by
  intro call request claim present
  obtain ⟨more, grown, foreign⟩ := step.log
  rw [grown] at present
  rcases List.mem_append.mp present with old | new
  · exact quiet call request claim old
  · exact foreign _ new rfl

theorem settled_quiet : Settled terms pid (Quiet pid) := fun _ _ quiet rely => Step.quiet rely quiet

theorem settled_locked : Settled terms pid (Locked pid row) := by
  intro before after holds rely
  obtain ⟨kept, same⟩ := rely.locks row.id pid (by simp) holds.lock
  exact ⟨rely.mem holds.read, kept, same.trans holds.row⟩

theorem settled_holds {used : Option KernelApproval} : Settled terms pid (Holds pid used) := by
  intro before after holds rely
  exact ⟨rely.quiet holds.quiet, fun row same => settled_locked _ _ (holds.used row same) rely⟩

theorem Step.used {mutating : Prop} {acting : Nat → Prop} {used : Option KernelApproval}
    (step : Step proper acting before after) (holds : Used mutating pid used before) :
    Used mutating pid used after := by
  intro row same
  obtain ⟨read, later, present, evolved, status⟩ := holds row same
  obtain ⟨last, present', evolved'⟩ := step.approvals row.id later present
  refine ⟨step.mem read, last, present', evolved.trans evolved', ?_⟩
  intro holds
  have reached := evolved'.status
  rcases status holds with executing | consumed
  · rw [executing] at reached
    simpa [ApprovalStatus.leadsTo] using reached
  · rw [consumed] at reached
    exact .inr (by simpa [ApprovalStatus.leadsTo] using reached)

theorem Step.owned {claim : KernelRequestClaim} (step : Step proper (· ≠ pid) before after)
    (holds : proper → Owned pid claim before) : proper → Owned pid claim after := by
  intro holds'
  obtain ⟨reserved, row⟩ := holds holds'
  exact ⟨step.mem reserved, (step.claims holds' _ pid (by simp) ⟨claim, reserved, rfl⟩).trans row⟩

theorem Step.completed_response {acting : Nat → Prop} {key hash : String} {response : RuntimeResponse}
    (step : Step proper acting before after) (holds : proper → Completed deployment key hash response before) :
    proper → Completed deployment key hash response after := by
  intro holds'
  obtain ⟨row, present, status, rest⟩ := holds holds'
  exact ⟨row, step.completed holds' key row present status, status, rest⟩

/-! ### Approvals -/

structure Holding (context : ExecutionContext) (approvalId : String) (pid : Nat)
    (used : Option KernelApproval) (row : KernelApproval) (state : KernelState) : Prop where
  holds : Holds pid used state
  locked : Locked pid row state
  named : row.id = approvalId
  scope : ∃ filter, scopeFilters context = .ok filter ∧ filter.admits row = true

theorem settled_holding {used : Option KernelApproval} :
    Settled terms pid (Holding context approvalId pid used row) := by
  intro before after holds rely
  exact ⟨settled_holds _ _ holds.holds rely, settled_locked _ _ holds.locked rely, holds.named,
    holds.scope⟩

theorem approvalForUpdate_spec {used : Option KernelApproval} {filter : ScopeFilter}
    (scope : scopeFilters context = .ok filter) :
    (setting terms).Triple pid entry (Holds pid used)
      (query (.approvalForUpdate approvalId filter) : Fallible kernelDb ξ _)
      fun answer state => ∀ row, answer = some row →
        Holding context approvalId pid used row state := by
  apply query_spec settled_holds
  · exact fun answer before after holds rely row same =>
      settled_holding _ _ (holds row same) rely
  · intro state choice answer after kept holds _ performed
    simp only [serve] at performed
    split at performed
    · cases performed
      exact ⟨⟨kept, .refl state⟩, fun row impossible => nomatch impossible⟩
    · next row present =>
      split at performed
      · cases performed
        exact ⟨⟨kept, .refl state⟩, fun row impossible => nomatch impossible⟩
      · next admitted =>
        split at performed
        · cases performed
        · next free =>
          cases performed
          have named : row.id = approvalId := kept.identified approvalId row present
          refine ⟨advance_lock kept present ?_, ?_⟩
          · intro holder held
            simpa [held] using free
          · intro found same
            cases same
            refine ⟨⟨?_, ?_⟩, ⟨by simp, by simp [named], by simpa [named] using present⟩, named,
              filter, scope, by simpa using admitted⟩
            · intro call request claim
              simpa using holds.quiet call request claim
            · rintro row' same
              obtain ⟨read, lock, row⟩ := holds.used row' same
              refine ⟨by simp [read], ?_, row⟩
              by_cases same' : row'.id = approvalId
              · simp [same']
              · simpa [Function.update_of_ne same'] using lock

theorem approvalForContext_spec {used : Option KernelApproval} :
    (setting terms).Triple pid entry (Holds pid used) (approvalForContext context approvalId)
      (Holding context approvalId pid used) := by
  unfold approvalForContext
  apply Triple.bind_ofExcept
  intro scope found
  apply Triple.bind _ (approvalForUpdate_spec found)
  intro answer
  cases answer with
  | none => exact Triple.raise
  | some row => exact Triple.pure settled_holding fun state holds => holds row rfl

theorem validateBinding_ok {arguments : Fields}
    (passed : validateBinding deployment row context capabilityId arguments = .ok ()) :
    (isSet row.requestedByPrincipalId = true →
      row.requestedByPrincipalId = context.principalId) ∧
      row.capabilityId = capabilityId ∧
        row.argumentsHash = argumentsHash deployment capabilityId arguments := by
  unfold validateBinding at passed
  split at passed
  · cases passed
  · next principal =>
    split at passed
    · cases passed
    · next capability =>
      split at passed
      · cases passed
      · next arguments =>
        refine ⟨?_, not_not.mp capability, not_not.mp arguments⟩
        intro recorded
        simpa [recorded] using principal

structure Validated (deployment : Deployment) (context : ExecutionContext)
    (request : RuntimeRequest) (row : KernelApproval) : Prop where
  status : row.status = .approved
  named : isSet request.approvalId = true ∧ row.id = request.approvalId.getD ""
  binds : Binds deployment context request row
  principal : isSet row.requestedByPrincipalId = true →
    row.requestedByPrincipalId = context.principalId

theorem validateApprovedInvocation_spec {arguments : Fields} (capability : request.capabilityId = some capabilityId)
    (exact : request.arguments = arguments) (named : isSet request.approvalId = true) :
    (setting terms).Triple pid entry (Holds pid none)
      (validateApprovedInvocation terms.deployment context (request.approvalId.getD "") capabilityId
        arguments)
      fun row state => Holds pid (some row) state ∧
        Validated terms.deployment context request row := by
  unfold validateApprovedInvocation
  apply Triple.bind _ approvalForContext_spec
  intro row
  split
  · exact Triple.raise
  · next approved =>
    apply Triple.bind_ofExcept
    intro _ passed
    obtain ⟨principal, bound, hash⟩ := validateBinding_ok passed
    refine Triple.pure ?_ ?_
    · intro before after holds rely
      exact ⟨settled_holds _ _ holds.1 rely, holds.2⟩
    · intro state holding
      refine ⟨⟨holding.holds.quiet, ?_⟩, not_not.mp approved, ⟨named, holding.named⟩,
        ⟨holding.scope, ?_, ?_⟩, principal⟩
      · intro other same
        cases same
        exact holding.locked
      · rw [capability, bound]
      · rw [hash, bound, exact]

structure Claimable (deployment : Deployment) (context : ExecutionContext)
    (request : RuntimeRequest) (row : KernelApproval) : Prop where
  status : row.status = .approved
  named : row.id = request.approvalId.getD ""
  scope : ∃ filter, scopeFilters context = .ok filter ∧ filter.admits row = true
  arguments : row.argumentsHash = argumentsHash deployment row.capabilityId request.arguments
  requestId : clean row.requestId = clean request.requestId ∧ clean request.requestId ≠ ""

structure Claiming (deployment : Deployment) (context : ExecutionContext)
    (request : RuntimeRequest) (pid : Nat) (used : Option KernelApproval)
    (write : Option ApprovalWrite) (state : KernelState) : Prop where
  holds : Holds pid used state
  unnamed : isSet request.approvalId = false → write = none
  named : isSet request.approvalId = true → ∃ row, write = some (.executing row.id context request) ∧
    Locked pid row state ∧ Claimable deployment context request row

theorem settled_claiming {used : Option KernelApproval} {write : Option ApprovalWrite} :
    Settled terms pid (Claiming deployment context request pid used write) := by
  intro before after claiming rely
  refine ⟨settled_holds _ _ claiming.holds rely, claiming.unnamed, ?_⟩
  intro set
  obtain ⟨row, same, locked, claimable⟩ := claiming.named set
  exact ⟨row, same, settled_locked _ _ locked rely, claimable⟩

theorem claimApprovedInvocation_spec {used : Option KernelApproval} (set : isSet request.approvalId = true) :
    (setting terms).Triple pid entry (Holds pid used)
      (claimApprovedInvocation terms.deployment context (request.approvalId.getD "")
        (clean request.requestId) request capabilityId request.arguments)
      fun write => Claiming terms.deployment context request pid used (some write) := by
  unfold claimApprovedInvocation
  apply Triple.bind _ approvalForContext_spec
  intro row
  split
  · exact Triple.raise
  · next approved =>
    apply Triple.bind_ofExcept
    intro _ passed
    obtain ⟨-, bound, arguments⟩ := validateBinding_ok passed
    dsimp only
    split
    · exact Triple.raise
    · split
      · exact Triple.raise
      · next missing matching =>
        have current : strip (clean request.requestId) = clean request.requestId := strip_strip _
        rw [current, Bool.or_eq_true, not_or, bne_iff_ne, not_not, decide_eq_true_eq] at matching
        refine Triple.pure ?_ ?_
        · exact settled_claiming
        · intro state holding
          refine ⟨holding.holds, by simp [set], fun _ => ⟨row, rfl, holding.locked, ?_⟩⟩
          exact ⟨not_not.mp approved, holding.named, holding.scope, by rw [arguments, bound],
            matching.2.symm, matching.1⟩

theorem approvalToClaim_spec {used : Option KernelApproval} :
    (setting terms).Triple pid entry (Holds pid used)
      (approvalToClaim terms.deployment context request (clean request.requestId))
      (Claiming terms.deployment context request pid used) := by
  unfold approvalToClaim
  split
  · next set =>
    apply Triple.bind _ approvalForContext_spec
    intro approval
    apply Triple.bind _ (Triple.weaken (claimApprovedInvocation_spec set)
      (fun state holding => holding.holds) (fun _ _ claiming => claiming))
    intro write
    refine Triple.pure ?_ ?_
    · exact settled_claiming
    · exact fun state claiming => claiming
  · next unset =>
    refine Triple.pure ?_ ?_
    · exact settled_claiming
    · intro state holds
      exact ⟨holds, fun _ => rfl, fun set => absurd set unset⟩

end Operly.Kernel
