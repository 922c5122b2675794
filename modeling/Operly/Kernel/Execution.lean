import Operly.Kernel.Reservation

/-! The whole call: every gate before the provider, every transition after it. -/

namespace Operly.Kernel
open Python Security Concurrent

variable {terms : Terms} {pid : Nat} {entry : Entry} {ξ : Type} {state before after : KernelState}
  {context : ExecutionContext} {request : RuntimeRequest}

/-! ### Up to the policy decision -/

theorem mapError_ok {ε ε' α : Type} {change : ε → ε'} {result : Except ε α} {value : α}
    (same : result.mapError change = .ok value) : result = .ok value := by
  cases result with
  | ok found =>
    cases same
    rfl
  | error error => cases same

theorem resolveCapability_mem {deployment : Deployment} {capability : CapabilitySpec}
    (resolved : resolveCapability deployment context request = .ok capability) :
    capability ∈ deployment.registry.specs := by
  unfold resolveCapability at resolved
  split at resolved
  · exact CapabilityRegistry.get_mem resolved
  · split at resolved
    · cases resolved
    · next same =>
      cases resolved
      exact deployment.search_mem context request.goal capability (by simp [same])
    · cases resolved

variable {audit : RuntimeAuditBuffer} {result : Result} {invocation : Invocation} {runId : String}
  {response : RuntimeResponse} {caller : Caller}

theorem understand_resolved {deployment : Deployment} {result : CapabilitySpec × RuntimeAuditBuffer}
    (understood : understand deployment context request audit = .ok result) :
    resolveCapability deployment context request = .ok result.1 := by
  unfold understand at understood
  dsimp only at understood
  split at understood
  · cases understood
  · cases found : resolveCapability deployment context request with
    | error error => simp [found, Except.mapError, bind, Except.bind] at understood
    | ok capability =>
      simp only [found, Except.mapError, bind, Except.bind, pure, Except.pure] at understood
      split at understood
      · cases understood
      · cases understood
        rfl

structure Planned (terms : Terms) (context : ExecutionContext) (request : RuntimeRequest)
    (invocation : Invocation) : Prop where
  resolved : resolveCapability terms.deployment context request = .ok invocation.capability
  request : invocation.request = executionRequest request invocation.capability
  arguments : invocation.request.arguments = invocation.arguments
  valid : validateSchema (.obj invocation.arguments) invocation.capability.inputSchema = .ok ()
  granted : invocation.decision ≠ .deny
  decision : invocation.decision = (evaluate context invocation.capability).decision
  unused : invocation.usedApproval = none

theorem Planned.authorized (planned : Planned terms context request invocation) :
    Authorized context invocation.capability :=
  evaluate_authorized (planned.decision ▸ planned.granted)

theorem plan_planned {capability : CapabilitySpec} {minimumContext : Fields}
    (resolved : resolveCapability terms.deployment context request = .ok capability)
    (planned : plan context request capability minimumContext audit = .ok invocation) :
    Planned terms context request invocation := by
  unfold plan at planned
  dsimp only at planned
  cases valid : validateSchema (.obj request.arguments) capability.inputSchema with
  | error error => simp [valid, Except.mapError, bind, Except.bind] at planned
  | ok done =>
    simp only [valid, Except.mapError, bind, Except.bind, pure, Except.pure] at planned
    split at planned
    · cases planned
    · split at planned
      · cases planned
      · next granted =>
        cases planned
        exact ⟨resolved, rfl, rfl, valid, granted, rfl, rfl⟩

theorem tenant_spec {workspaceId : String} :
    (setting terms).Triple pid entry (Quiet pid) (query (.tenant workspaceId) : Fallible kernelDb ξ _)
      fun _ => Quiet pid := by
  apply query_spec settled_quiet
  · exact fun _ => settled_quiet
  · intro state choice answer after kept quiet _ performed
    cases choice with
    | tenant row =>
      cases performed
      exact ⟨⟨kept, .refl state⟩, quiet⟩
    | default | provider | failed => cases performed

theorem loadMinimumContext_spec :
    (setting terms).Triple pid entry (Quiet pid) (loadMinimumContext context) fun _ => Quiet pid := by
  unfold loadMinimumContext
  dsimp only
  split
  · apply Triple.bind _ tenant_spec
    intro workspace
    cases workspace with
    | none => exact Triple.raise
    | some row => exact Triple.pure settled_quiet fun _ quiet => quiet
  · split
    · exact Triple.pure settled_quiet fun _ quiet => quiet
    · exact Triple.pure settled_quiet fun _ quiet => quiet

theorem replay_spec :
    (setting terms).Triple pid entry (Holds pid none)
      (replay terms.deployment context invocation)
      fun replayed state => Holds pid none state ∧ ∀ response, replayed = some response →
        Answers terms context invocation.request response state := by
  unfold replay
  split
  · apply Triple.mapError _ findCompletedRequest_spec
    intro replayed before after holds rely
    exact ⟨settled_holds _ _ holds.1 rely, fun response same =>
      settled_answers _ _ (holds.2 response same) rely⟩
  · refine Triple.pure ?_ ?_
    · intro before after holds rely
      exact ⟨settled_holds _ _ holds.1 rely, by simp⟩
    · exact fun state holds => ⟨holds, by simp⟩

structure Ready (terms : Terms) (context : ExecutionContext) (request : RuntimeRequest)
    (invocation : Invocation) : Prop where
  resolved : resolveCapability terms.deployment context request = .ok invocation.capability
  request : invocation.request = executionRequest request invocation.capability
  arguments : invocation.request.arguments = invocation.arguments
  valid : validateSchema (.obj invocation.arguments) invocation.capability.inputSchema = .ok ()
  authorized : Authorized context invocation.capability
  approved : invocation.capability.approvalRequired = true → ∃ row, invocation.usedApproval = some row
  validated : ∀ row, invocation.usedApproval = some row →
    Validated terms.deployment context invocation.request row

theorem authorize_spec (planned : Planned terms context request invocation) :
    (setting terms).Triple pid entry (Holds pid none)
      (authorize terms.deployment context invocation)
      fun cleared state => Holds pid cleared.usedApproval state ∧
        Ready terms context request cleared := by
  have settled : ∀ cleared : Invocation, Settled terms pid fun state =>
      Holds pid cleared.usedApproval state ∧ Ready terms context request cleared := by
    intro cleared before after holds rely
    exact ⟨settled_holds _ _ holds.1 rely, holds.2⟩
  unfold authorize
  split
  · next asked =>
    rw [Bool.and_eq_true] at asked
    have named : invocation.request.capabilityId = some invocation.capability.id := by
      rw [planned.request]
      rfl
    refine Triple.bind _ (Triple.mapError ?_
      (validateApprovedInvocation_spec named planned.arguments asked.2)) ?_
    · intro row before after holds rely
      exact ⟨settled_holds _ _ holds.1 rely, holds.2⟩
    · intro row
      refine Triple.pure (settled _) ?_
      intro state holds
      refine ⟨holds.1, planned.resolved, planned.request, planned.arguments, planned.valid,
        planned.authorized, fun _ => ⟨row, rfl⟩, ?_⟩
      rintro other same
      cases same
      exact holds.2
  · next unasked =>
    dsimp only
    split
    · exact Triple.raise
    · next decided =>
      refine Triple.pure (settled _) ?_
      intro state holds
      have unused := planned.unused
      refine ⟨by simpa [unused] using holds, planned.resolved, planned.request, planned.arguments,
        planned.valid, planned.authorized, ?_, by simp [unused]⟩
      intro required
      -- policy never allows outright what needs an approval
      have notAllowed : (evaluate context invocation.capability).decision ≠ .allow :=
        evaluate_ask required
      have granted := planned.granted
      rw [planned.decision] at decided granted
      revert notAllowed decided granted
      cases (evaluate context invocation.capability).decision <;> simp

/-! ### Reservation and provider -/

structure Armed (terms : Terms) (context : ExecutionContext) (pid : Nat) (invocation : Invocation)
    (state : KernelState) : Prop where
  mutation : invocation.capability.mutating = true → ∃ claim, invocation.claim = some claim ∧
    Secured terms context invocation.request pid invocation.usedApproval claim state
  reading : invocation.capability.mutating = false →
    invocation.claim = none ∧ Holds pid invocation.usedApproval state

theorem settled_armed : Settled terms pid (Armed terms context pid invocation) := by
  intro before after armed rely
  refine ⟨?_, ?_⟩
  · intro mutating
    obtain ⟨claim, same, secured⟩ := armed.mutation mutating
    exact ⟨claim, same, settled_secured _ _ secured rely⟩
  · intro reading
    obtain ⟨unclaimed, holds⟩ := armed.reading reading
    exact ⟨unclaimed, settled_holds _ _ holds rely⟩

theorem Armed.quiet (armed : Armed terms context pid invocation state) : Quiet pid state := by
  cases mutating : invocation.capability.mutating with
  | true =>
    obtain ⟨claim, -, secured⟩ := armed.mutation mutating
    exact secured.quiet
  | false => exact (armed.reading mutating).2.quiet

theorem Armed.used (armed : Armed terms context pid invocation state) :
    Used (terms.proper ∧ invocation.capability.mutating = true) pid invocation.usedApproval state := by
  intro row same
  cases mutating : invocation.capability.mutating with
  | true =>
    obtain ⟨claim, -, secured⟩ := armed.mutation mutating
    obtain ⟨read, later, present, evolved, status⟩ := secured.used row same
    exact ⟨read, later, present, evolved, fun both => status both.1⟩
  | false =>
    have locked := (armed.reading mutating).2.used row same
    exact ⟨locked.read, row, locked.row, .refl row, by simp⟩

theorem reserve_spec (ready : Ready terms context request invocation) :
    (setting terms).Triple pid entry (Holds pid invocation.usedApproval)
      (reserve ⟨terms.deployment, pid⟩ context invocation)
      fun reservation state => match reservation.replay with
        | some response => Answers terms context invocation.request response state
        | none => Armed terms context pid { invocation with claim := reservation.claim } state := by
  have settled : ∀ reservation : IdempotencyReservation, Settled terms pid fun state =>
      match reservation.replay with
      | some response => Answers terms context invocation.request response state
      | none => Armed terms context pid { invocation with claim := reservation.claim } state := by
    rintro ⟨claim, replay⟩ before after holds rely
    cases replay with
    | some response => exact settled_answers _ _ holds rely
    | none => exact settled_armed _ _ holds rely
  unfold reserve
  split
  · next mutating =>
    apply Triple.mapError settled
    apply Triple.weaken (reserveRequest_spec ready.validated) (fun _ holds => holds)
    rintro ⟨claim, replay⟩ state reserves
    cases replay with
    | some response => exact reserves
    | none => exact ⟨fun _ => reserves, by simp [mutating]⟩
  · next reading =>
    refine Triple.pure (settled { claim := none }) ?_
    intro state holds
    exact ⟨fun mutating => absurd mutating reading, fun _ => ⟨rfl, holds⟩⟩

theorem Armed.gate (ready : Ready terms context request invocation) (armed : Armed terms context pid invocation state) :
    Gate terms state.log pid
      ⟨context, invocation.capability, invocation.arguments, invocation.minimumContext⟩
      invocation.request (state.claimOf terms.deployment context invocation.request) := by
  have named : invocation.request.capabilityId = some invocation.capability.id := by
    rw [ready.request]
    rfl
  refine ⟨resolveCapability_mem ready.resolved, ⟨named, ready.arguments⟩, ready.authorized,
    ready.valid, ?_, ?_⟩
  · intro required
    obtain ⟨row, same⟩ := ready.approved required
    have validated := ready.validated row same
    exact ⟨row, (armed.used row same).1, validated.status, validated.binds, validated.principal⟩
  · intro mutating
    obtain ⟨claim, -, secured⟩ := armed.mutation mutating
    obtain ⟨row, present, running, hash, own⟩ := secured.reserved
    refine ⟨row, present, running, hash, ?_⟩
    intro proper
    obtain rfl := own proper
    obtain ⟨capability, key⟩ := secured.named proper
    refine ⟨capability.trans named, ?_, key⟩
    simp only [KernelState.claimOf, key]
    exact (secured.own proper).row

structure Completing (terms : Terms) (context : ExecutionContext) (request : RuntimeRequest)
    (pid : Nat) (claim : KernelRequestClaim) (state : KernelState) : Prop where
  running : claim.status = .running
  hash : claim.argumentsHash = requestHash terms.deployment request
  named : idempotencyKey terms.deployment context (clean request.requestId) =
    .ok claim.idempotencyKey
  own : Owned pid claim state
  invoked : ∃ logged ∈ state.log, logged.pid = pid ∧
    logged.invokes terms.deployment claim.idempotencyKey = true

structure Called (terms : Terms) (context : ExecutionContext) (pid : Nat) (invocation : Invocation)
    (state : KernelState) : Prop where
  used : Used (terms.proper ∧ invocation.capability.mutating = true) pid invocation.usedApproval state
  mutation : invocation.capability.mutating = true → ∃ claim, invocation.claim = some claim ∧
    (terms.proper → Completing terms context invocation.request pid claim state)
  reading : invocation.capability.mutating = false → invocation.claim = none

theorem settled_called : Settled terms pid (Called terms context pid invocation) := by
  intro before after called rely
  refine ⟨rely.used called.used, ?_, called.reading⟩
  intro mutating
  obtain ⟨claim, same, completing⟩ := called.mutation mutating
  refine ⟨claim, same, ?_⟩
  intro proper
  obtain ⟨running, hash, named, own, logged, present, rest⟩ := completing proper
  exact ⟨running, hash, named, rely.owned (fun _ => own) proper, logged, rely.mem present, rest⟩

def Invocation.call (invocation : Invocation) (context : ExecutionContext) : ProviderCall :=
  ⟨context, invocation.capability, invocation.arguments, invocation.minimumContext⟩

theorem Armed.called (armed : Armed terms context pid invocation state) (claims : after.claims = state.claims)
    (approvals : after.approvals = state.approvals)
    (log : after.log = (state.record (.invoked pid (invocation.call context) invocation.request
      (state.claimOf terms.deployment context invocation.request))).log) :
    Called terms context pid invocation after := by
  refine ⟨?_, ?_, fun reading => (armed.reading reading).1⟩
  · intro row same
    obtain ⟨read, later⟩ := armed.used row same
    rw [log, approvals]
    exact ⟨by simp [read], later⟩
  · intro mutating
    obtain ⟨claim, same, secured⟩ := armed.mutation mutating
    refine ⟨claim, same, ?_⟩
    intro proper
    obtain ⟨row, present, -, hash, own⟩ := secured.reserved
    obtain rfl := own proper
    obtain ⟨-, key⟩ := secured.named proper
    refine ⟨secured.running proper, hash, key, ⟨?_, ?_⟩, _, log ▸ KernelState.mem_record.mpr (.inr rfl),
      rfl, ?_⟩
    · rw [log]
      simp [present]
    · rw [claims]
      exact (secured.own proper).row
    · simp [LogEntry.invokes, Invocation.call, mutating, key]

theorem callProvider_spec (ready : Ready terms context request invocation) :
    (setting terms).Triple pid entry (Armed terms context pid invocation)
      (callProvider terms.deployment context invocation)
      fun _ => Called terms context pid invocation := by
  unfold callProvider
  dsimp only
  split
  · exact Triple.raise
  · have called : (setting terms).Triple pid entry (Armed terms context pid invocation)
        (query (.provider (invocation.call context) invocation.request) : Fallible kernelDb Raised _)
        fun _ => Called terms context pid invocation := by
      apply query_spec settled_armed
      · exact fun _ => settled_called
      · intro state choice answer after kept armed _ performed
        cases choice with
        | provider outcome commits =>
          cases performed
          have invoked := advance_invoke kept armed.quiet (armed.gate ready)
          cases commits with
          | false => exact ⟨invoked, armed.called rfl rfl rfl⟩
          | true =>
            exact ⟨invoked.trans (advance_release invoked.invariant), armed.called rfl rfl rfl⟩
        | default | tenant | failed => cases performed
    apply Triple.bind _ called
    intro outcome
    cases outcome with
    | ok result => exact Triple.pure settled_called fun _ holds => holds
    | error error => exact Triple.raise

/-! ### Completion -/

theorem consumeApproval_ok {used : Option KernelApproval} {write : Option ApprovalWrite}
    (consumed : consumeApproval used context request runId = .ok write) :
    write = used.map fun row => .consumed row.id runId context request := by
  unfold consumeApproval at consumed
  split at consumed
  · cases consumed
    rfl
  · split at consumed
    · cases consumed
    · cases consumed
      rfl

theorem advance_consumed (kept : Invariant terms state) (ready : Ready terms context request invocation)
    (called : Called terms context pid invocation state)
    (unblocked : state.blocked pid (invocation.usedApproval.map fun row =>
      .consumed row.id runId context invocation.request) = false) :
    Advance terms pid state (state.writeApproval pid (invocation.usedApproval.map fun row =>
      .consumed row.id runId context invocation.request)) := by
  cases same : invocation.usedApproval with
  | none => exact ⟨kept, .refl state⟩
  | some row =>
    rw [same] at unblocked
    have validated := ready.validated row same
    obtain ⟨-, later, present, evolved, status⟩ := called.used row same
    have reached := evolved.status
    rw [validated.status] at reached
    apply advance_writeApproval kept unblocked
    · simp
    · intro current present' _
      simp only [ApprovalWrite.id, present, Option.some.injEq] at present'
      subst current
      refine ⟨rfl, ?_⟩
      revert reached
      cases later.status <;> simp [ApprovalWrite.update, ApprovalStatus.leadsTo]
    · intro proper _ current present' moved
      simp only [ApprovalWrite.id, present, Option.some.injEq] at present'
      subst current
      have binds := validated.binds.evolves evolved
      have named : invocation.capability.id = later.capabilityId := by
        have bound := binds.capability
        rw [ready.request] at bound
        simpa [executionRequest] using bound
      cases current : later.status with
      | approved =>
        -- a mutation has made its approval executing, so this one only reads
        have reading : invocation.capability.mutating = false := by
          by_contra mutating
          have moved := status ⟨proper, by simpa using mutating⟩
          simp [current] at moved
        simp only [Allowed, current, ApprovalWrite.update]
        exact ⟨context, invocation.request, rfl, binds, invocation.capability,
          resolveCapability_mem ready.resolved, named, reading⟩
      | executing =>
        simp only [Allowed, current, ApprovalWrite.update]
        exact ⟨context, invocation.request, rfl, binds⟩
      | consumed => exact absurd current moved
      | pending | denied => simp [current, ApprovalStatus.leadsTo] at reached

theorem advance_completing (kept : Invariant terms state) (called : Called terms context pid invocation state) :
    Advance terms pid state (state.writeClaim pid (completeRequest invocation.claim response)) := by
  cases mutating : invocation.capability.mutating with
  | false =>
    rw [called.reading mutating]
    exact ⟨kept, .refl state⟩
  | true =>
    obtain ⟨claim, same, completing⟩ := called.mutation mutating
    rw [same]
    apply advance_completeClaim kept
    intro proper
    obtain ⟨running, -, -, own, invoked⟩ := completing proper
    exact ⟨⟨claim, own.reserved, rfl⟩, ⟨claim, own.row, running⟩, invoked⟩

theorem answers_of_completing (mutating : invocation.capability.mutating = true)
    (called : Called terms context pid invocation state) :
    Answers terms context invocation.request response
      (state.writeClaim pid (completeRequest invocation.claim response)) := by
  intro proper key named
  obtain ⟨claim, same, completing⟩ := called.mutation mutating
  obtain ⟨-, hash, named', own, -⟩ := completing proper
  rw [named, Except.ok.injEq] at named'
  subst key
  refine ⟨{ claim with
    status := .completed, runId := some response.runId, capabilityId := response.capabilityId,
    responseJson := response.asDict.sortKeys }, ?_, rfl, hash, response.canonical, responseFromJson_asDict _ _, response.canonical_canonical⟩
  simp [same, completeRequest, KernelState.writeClaim, own.row, KernelState.putClaim_claims]

theorem Called.writeApproval {write : Option ApprovalWrite} (called : Called terms context pid invocation state)
    (advance : Advance terms pid state (state.writeApproval pid write)) :
    Called terms context pid invocation (state.writeApproval pid write) := by
  refine ⟨advance.step.used called.used, ?_, called.reading⟩
  intro mutating
  obtain ⟨claim, same, completing⟩ := called.mutation mutating
  refine ⟨claim, same, ?_⟩
  intro proper
  obtain ⟨running, hash, named, own, logged, present, rest⟩ := completing proper
  exact ⟨running, hash, named, ⟨advance.step.mem own.reserved, by rw [writeApproval_claims, own.row]⟩,
    logged, advance.step.mem present, rest⟩

def Answered (terms : Terms) (context : ExecutionContext) (request : RuntimeRequest)
    (response : RuntimeResponse) (state : KernelState) : Prop :=
  ∀ capability, resolveCapability terms.deployment context request = .ok capability →
    capability.mutating = true →
      Answers terms context (executionRequest request capability) response state

theorem settled_answered : Settled terms pid (Answered terms context request response) :=
  fun _ _ answered rely capability resolved mutating =>
    settled_answers _ _ (answered capability resolved mutating) rely

theorem answered_of (resolved : resolveCapability terms.deployment context request = .ok invocation.capability)
    (same : invocation.request = executionRequest request invocation.capability)
    (answers : invocation.capability.mutating = true →
      Answers terms context invocation.request response state) : Answered terms context request response state := by
  intro capability resolved' mutating
  rw [resolved, Except.ok.injEq] at resolved'
  subst capability
  exact same ▸ answers mutating

def completion (context : ExecutionContext) (invocation : Invocation) (response : RuntimeResponse)
    (runId : String) : Changes where
  approval := invocation.usedApproval.map fun row =>
    .consumed row.id runId context invocation.request
  claim := completeRequest invocation.claim response

theorem completion_spec {outcome : Outcome} (ready : Ready terms context request invocation) :
    (setting terms).Triple pid entry (Called terms context pid invocation)
      (commit (persistAudit (completion context invocation response runId) audit context outcome))
      fun _ => Answered terms context request response := by
  apply commit_spec settled_called settled_answered
  intro state kept called _ unblocked _
  have consumed : Advance terms pid state (state.writeApproval pid
      (completion context invocation response runId).approval) :=
    advance_consumed kept ready called unblocked
  have called' := called.writeApproval consumed
  refine ⟨advance_commit (consumed.trans (advance_completing consumed.invariant called')), ?_⟩
  apply answered_of ready.resolved ready.request
  intro mutating
  exact answers_of_completing mutating called'

theorem complete_spec {result : CapabilityExecutionResult} (ready : Ready terms context request invocation) :
    (setting terms).Triple pid entry (Called terms context pid invocation)
      (complete context invocation result)
      (Answered terms context request) := by
  unfold complete
  dsimp only
  apply Triple.bind_ofExcept
  intro _ _
  apply Triple.bind_ofExcept
  intro write consumed
  rw [consumeApproval_ok (mapError_ok consumed)]
  apply Triple.bind _ (Triple.mapError (fun _ => settled_answered) (completion_spec ready))
  intro _
  exact Triple.pure settled_answered fun _ answered => answered

theorem perform_spec (planned : Planned terms context request invocation) :
    (setting terms).Triple pid entry (Quiet pid)
      (perform ⟨terms.deployment, pid⟩ context invocation)
      (Answered terms context request) := by
  unfold perform
  apply Triple.bind _ (Triple.weaken replay_spec
    (fun state quiet => ⟨quiet, by simp⟩) (fun _ _ holds => holds))
  intro replayed
  cases replayed with
  | some response =>
    refine Triple.pure settled_answered ?_
    intro state holds
    exact answered_of planned.resolved planned.request fun _ => holds.2 response rfl
  | none =>
    apply Triple.bind _ (Triple.weaken (authorize_spec planned) (fun _ holds => holds.1)
      (fun _ _ holds => holds))
    intro cleared
    apply Triple.assume
    intro ready
    apply Triple.bind _ (reserve_spec ready)
    rintro ⟨claim, replayed⟩
    cases replayed with
    | some response =>
      refine Triple.pure settled_answered ?_
      intro state answers
      exact answered_of ready.resolved ready.request fun _ => answers
    | none =>
      have claimed : Ready terms context request { cleared with claim } :=
        ⟨ready.resolved, ready.request, ready.arguments, ready.valid, ready.authorized,
          ready.approved, ready.validated⟩
      apply Triple.bind _ (callProvider_spec claimed)
      intro result
      exact complete_spec claimed

theorem executeBody_spec :
    (setting terms).Triple pid entry (Quiet pid)
      (executeBody ⟨terms.deployment, pid⟩ context request)
      (Answered terms context request) := by
  unfold executeBody
  apply Triple.bind_ofExcept
  rintro ⟨capability, audit⟩ understood
  have resolved := understand_resolved understood
  apply Triple.bind _ (Triple.mapError (fun _ => settled_quiet) loadMinimumContext_spec)
  intro minimumContext
  apply Triple.bind_ofExcept
  intro invocation planned
  exact perform_spec (plan_planned resolved planned)

/-! ### Failures -/

theorem failure_spec {changes : Changes} (claim : changes.claim = none)
    (approval : ∀ write, changes.approval = some write → ∃ row, write = .insert row) :
    (setting terms).Triple pid entry (fun _ => True) (commit changes) fun _ _ => True := by
  apply commit_spec (fun _ _ _ _ => trivial) (fun _ _ _ _ => trivial)
  intro state kept _ _ _ unviolated
  refine ⟨advance_commit ?_, trivial⟩
  rw [claim]
  cases written : changes.approval with
  | none => exact ⟨kept, .refl state⟩
  | some write =>
    obtain ⟨row, rfl⟩ := approval write written
    have absent : state.approvals row.id = none := by
      simpa [KernelState.violates, claim, written] using unviolated
    refine advance_writeApproval kept rfl ?_ (fun _ _ other => absurd rfl (other row)) ?_
    · intro other same
      cases same
      exact absent
    · intro _ _ current present
      rw [ApprovalWrite.id, absent] at present
      cases present

theorem persistFailure_spec {locals : Locals} {changes : Changes} {code error : String}
    (claim : changes.claim = none) (approval : ∀ write, changes.approval = some write → ∃ row, write = .insert row) :
    (setting terms).Triple pid entry (fun _ => True)
      (persistFailure context request locals changes code error) fun _ _ => True := by
  unfold persistFailure
  exact failure_spec (by simpa using claim) (by simpa using approval)

theorem pending_spec {filter : PendingFilter} :
    (setting terms).Triple pid entry (fun _ => True)
      (query (.pendingApproval filter) : Fallible kernelDb ξ _) fun _ _ => True := by
  apply query_spec (fun _ _ _ _ => trivial) (fun _ _ _ _ _ => trivial)
  intro state choice answer after kept _ _ performed
  cases performed
  exact ⟨⟨kept, .refl state⟩, trivial⟩

theorem createPendingApproval_spec {capabilityId : String} {arguments : Fields}
    {requestId conversationId : Option String} :
    (setting terms).Triple pid entry (fun _ => True)
      (createPendingApproval caller context capabilityId arguments requestId conversationId runId)
      fun result _ => ∀ write, result.2 = some write → ∃ row, write = .insert row := by
  unfold createPendingApproval
  dsimp only
  apply Triple.bind_ofExcept
  intro scope _
  apply Triple.bind _ pending_spec
  intro existing
  cases existing with
  | some row => exact Triple.pure (fun _ _ holds _ => holds) fun _ _ => by simp
  | none =>
    refine Triple.pure (fun _ _ holds _ => holds) ?_
    rintro state - write same
    exact ⟨_, (Option.some.inj same).symm⟩

theorem pendingFor_spec {locals : Locals} {code : String} :
    (setting terms).Triple pid entry (fun _ => True) (pendingFor caller context request locals code)
      fun result _ => ∀ write, result.2 = some write → ∃ row, write = .insert row := by
  have nothing : (setting terms).Triple pid entry (fun _ => True)
      (pure (none, none) : Session (Option KernelApproval × Option ApprovalWrite))
      fun result _ => ∀ write, result.2 = some write → ∃ row, write = .insert row :=
    Triple.pure (fun _ _ holds _ => holds) fun _ _ => by simp
  unfold pendingFor
  split
  · split
    · apply Triple.bind _ createPendingApproval_spec
      rintro ⟨row, write⟩
      exact Triple.pure (fun _ _ holds _ => holds) fun _ holds => holds
    · exact nothing
  · exact nothing

theorem recover_spec {raised : Raised} :
    (setting terms).Triple pid entry (fun _ => True) (recover caller context request raised)
      fun _ _ => False := by
  have rolledBack : (setting terms).Triple pid entry (fun _ => True)
      (query .rollback : Session Unit) fun _ _ => True :=
    rollback_spec (fun _ _ _ _ => trivial) fun _ _ => trivial
  unfold recover
  split
  · apply Triple.bind _ rolledBack
    intro _
    apply Triple.bind _ pendingFor_spec
    rintro ⟨approval, write⟩
    dsimp only
    refine ⟨fun state inserts => ?_⟩
    refine (Triple.bind _ (persistFailure_spec rfl inserts) ?_).safe state trivial
    exact fun _ => Triple.raise
  · split
    · apply Triple.bind _ rolledBack
      intro _
      apply Triple.bind _ (persistFailure_spec rfl (by simp))
      exact fun _ => Triple.raise
    · exact Triple.raise

theorem execute_spec :
    (setting terms).Triple pid entry (Quiet pid) (execute ⟨terms.deployment, pid⟩ context request)
      (Answered terms context request) := by
  refine ⟨fun state quiet => ?_⟩
  apply Safe.bind (executeBody_spec.safe state quiet)
  intro result state holds
  cases result with
  | ok response =>
    refine Safe.done ?_ ?_
    · intro before after answered rely value same
      exact settled_answered _ _ (answered value same) rely
    · intro value same
      cases same
      exact holds _ rfl
  | error raised =>
    apply Safe.weaken (recover_spec.safe state trivial)
    intro result state never value same
    exact (never value same).elim

theorem decideApproval_spec {approvalId userId : String} {approved : Bool} :
    (setting terms).Triple pid entry (Quiet pid) (decideApproval context approvalId approved userId)
      fun _ _ => True := by
  unfold decideApproval
  have found : (setting terms).Triple pid entry (Quiet pid) (approvalForContext context approvalId)
      (Holding context approvalId pid none) :=
    Triple.weaken approvalForContext_spec (fun _ quiet => ⟨quiet, by simp⟩) fun _ _ holding => holding
  apply Triple.bind _ found
  intro row
  split
  · exact Triple.raise
  · next undecided =>
    have pending : row.status = .pending := not_not.mp undecided
    have decided : (setting terms).Triple pid entry (Holding context approvalId pid none row)
        (commit { approval := some (.decided row.id approved userId) }) fun _ _ => True := by
      apply commit_spec settled_holding (fun _ _ _ _ => trivial)
      intro state kept holding _ unblocked _
      have present := holding.locked.row
      refine ⟨advance_commit (advance_writeApproval kept unblocked (by simp) ?_ ?_), trivial⟩
      · intro current present' _
        simp only [ApprovalWrite.id, present, Option.some.injEq] at present'
        subst current
        exact ⟨rfl, by simp [pending, ApprovalStatus.leadsTo]⟩
      · intro _ _ current present' _
        simp only [ApprovalWrite.id, present, Option.some.injEq] at present'
        subst current
        cases approved <;> simp [Allowed, pending, ApprovalWrite.update, ApprovalWrite.invocation]
    apply Triple.bind _ decided
    intro _
    exact Triple.pure (fun _ _ _ _ => trivial) fun _ _ => trivial

def Promise (terms : Terms) (_pid : Nat) (entry : Entry) (result : Result) (state : KernelState) :
    Prop :=
  match entry, result with
  | .execute context request, .executed (.ok response) =>
      Answered terms context request response state
  | _, _ => True

theorem settled_promise : Settled terms pid (Promise terms pid entry result) := by
  intro before after promised rely
  unfold Promise at promised ⊢
  split at promised
  · exact settled_answered _ _ promised rely
  · trivial

theorem Answered.step {acting : Nat → Prop} (answered : Answered terms context request response before)
    (step : Step terms.proper acting before after) : Answered terms context request response after := by
  intro capability resolved mutating proper key named
  exact step.completed_response (fun proper => answered capability resolved mutating proper key named)
    proper

theorem Promise.step {acting : Nat → Prop} (promised : Promise terms pid entry result before)
    (step : Step terms.proper acting before after) : Promise terms pid entry result after := by
  unfold Promise at promised ⊢
  split at promised
  · exact Answered.step promised step
  · trivial

theorem close_safe (promised : Promise terms pid entry result state) :
    (setting terms).Safe pid entry (Promise terms pid entry)
      (closeSession >>= fun _ => pure result) state := by
  apply Safe.request settled_promise promised (fun _ _ _ => trivial)
  intro state choice answer after kept promised _ performed
  cases performed
  have released : Advance terms pid state (state.release pid) := advance_release kept
  refine ⟨released.invariant, released.step, ?_⟩
  exact Safe.done settled_promise (promised.step released.step)

theorem kernel_verified (terms : Terms) :
    Verified (setting terms) (main terms.deployment) Quiet (Promise terms) where
  fresh_stable _ := settled_quiet
  starts pid entry state _ quiet := by
    cases entry with
    | execute context request =>
      apply Safe.bind (execute_spec.safe state quiet)
      intro result state answered
      apply close_safe
      cases result with
      | ok response => exact answered response rfl
      | error error => trivial
    | decide context approvalId approved userId =>
      apply Safe.bind (decideApproval_spec.safe state quiet)
      intro result state _
      exact close_safe trivial
  crashes pid entry state kept := by
    have released : Advance terms pid state (state.release pid) := advance_release kept
    exact ⟨released.invariant, released.step⟩

end Operly.Kernel
