import Operly.Security.Delegation
import Operly.Kernel.Guarantees
import Operly.Kernel.Requests

/-! Which capabilities a request reaches, and what a delegation adds to that: nothing. -/

namespace Operly.Kernel
open Python Security Concurrent

variable {deployment : Deployment} {context : ExecutionContext} {request : RuntimeRequest}

/-- Everything that stands between a request and the provider of a capability, on a database
with the rows that the request asks for. -/
structure Reaches (deployment : Deployment) (context : ExecutionContext) (request : RuntimeRequest)
    (capability : CapabilitySpec) : Prop where
  stated : strip request.goal ≠ "" ∨ isSet request.capabilityId = true
  resolved : resolveCapability deployment context request = .ok capability
  valid : validateSchema (.obj request.arguments) capability.inputSchema = .ok ()
  authorized : Authorized context capability
  approved : capability.approvalRequired = true →
    isSet request.approvalId = true ∧ ∃ filter, scopeFilters context = .ok filter
  identified : capability.mutating = true → clean request.requestId ≠ "" ∧
    ∃ key, idempotencyKey deployment context (clean request.requestId) = .ok key
  connected : deployment.providers.contains (lower (strip capability.providerId)) = true

/-! ### Only what a request reaches is called -/

def Leads (deployment : Deployment) (context : ExecutionContext) (request : RuntimeRequest) :
    Op → Prop
  | .provider call _ => call.context = context ∧ Reaches deployment context request call.capability
  | _ => True

theorem Preparatory.leads {op : Op} (prepares : Preparatory op) : Leads deployment context request op := by
  cases op with
  | provider => exact prepares.elim
  | tenant | claimByKey | approvalForUpdate | pendingApproval | commit | rollback => trivial

abbrev Reaching {ε α : Type} (deployment : Deployment) (context : ExecutionContext)
    (request : RuntimeRequest) (code : Fallible kernelDb ε α) (returns : α → Prop) : Prop :=
  code.Behaves (Leads deployment context request) returns fun _ => True

theorem Fallible.Behaves.reaching {ε α : Type} {code : Fallible kernelDb ε α} {returns : α → Prop}
    {raises : ε → Prop} (prepares : code.Behaves Preparatory returns raises) :
    Reaching deployment context request code returns :=
  Fallible.Behaves.weaken prepares (fun _ => Preparatory.leads) (fun _ holds => holds)
    fun _ _ => trivial

theorem commit_reaching {changes : Changes} : Reaching deployment context request (commit changes) fun _ => True := by
  unfold commit
  apply Fallible.Behaves.bind_ask trivial
  intro flushed
  exact Fallible.Behaves.ofExcept (fun _ _ => trivial) fun _ _ => trivial

variable {invocation : Invocation}

theorem callProvider_reaching {runId : String} (stated : strip request.goal ≠ "" ∨ isSet request.capabilityId = true)
    (cleared : Cleared deployment context request runId invocation)
    (identified : invocation.capability.mutating = true →
      clean invocation.request.requestId ≠ "" ∧
        ∃ key, idempotencyKey deployment context (clean invocation.request.requestId) = .ok key) :
    Reaching deployment context request (callProvider deployment context invocation)
      fun _ => True := by
  have same := cleared.request
  have arguments := cleared.arguments
  unfold callProvider
  dsimp only
  split
  · exact Fallible.Behaves.raise trivial
  · next connected =>
    apply Fallible.Behaves.bind_ask
    · refine ⟨rfl, stated, cleared.resolved, ?_, cleared.authorized, cleared.approved, ?_,
        by simpa using connected⟩
      · have valid := cleared.valid
        rwa [← arguments, same] at valid
      · rwa [same] at identified
    · intro outcome
      cases outcome with
      | ok result => exact Fallible.Behaves.pure trivial
      | error error => exact Fallible.Behaves.raise trivial

theorem complete_reaching {result : CapabilityExecutionResult} :
    Reaching deployment context request (complete context invocation result) fun _ => True := by
  unfold complete
  dsimp only
  apply Fallible.Behaves.bind_ofExcept (fun _ _ => trivial)
  intro _ _
  apply Fallible.Behaves.bind_ofExcept (fun _ _ => trivial)
  intro approval _
  apply Fallible.Behaves.bind (Fallible.Behaves.mapError commit_reaching fun _ _ => trivial)
  intro _ _
  exact Fallible.Behaves.pure trivial

theorem perform_reaching {terms : Terms} {runId : String} {pid : Nat}
    (stated : strip request.goal ≠ "" ∨ isSet request.capabilityId = true)
    (planned : Planned terms context request invocation) (blank : Blank runId invocation.audit) :
    Reaching terms.deployment context request
      (perform ⟨terms.deployment, pid⟩ context invocation) fun _ => True := by
  unfold perform
  apply Fallible.Behaves.bind (Fallible.Behaves.reaching (replay_readies blank))
  intro replayed _
  cases replayed with
  | some response => exact Fallible.Behaves.pure trivial
  | none =>
    apply Fallible.Behaves.bind (Fallible.Behaves.reaching (authorize_readies planned blank))
    intro cleared holds
    apply Fallible.Behaves.bind (Fallible.Behaves.reaching (reserve_readies holds.blank))
    rintro ⟨claim, replayed⟩ identified
    cases replayed with
    | some response => exact Fallible.Behaves.pure trivial
    | none =>
      have claimed : Cleared terms.deployment context request runId { cleared with claim } :=
        ⟨holds.resolved, holds.approved, holds.request, holds.arguments, holds.valid,
          holds.authorized, holds.used, holds.blank⟩
      apply Fallible.Behaves.bind (callProvider_reaching stated claimed identified)
      intro result _
      exact complete_reaching

theorem executeBody_reaching {terms : Terms} {pid : Nat} :
    Reaching terms.deployment context request
      (executeBody ⟨terms.deployment, pid⟩ context request) fun _ => True := by
  have blank : Blank (terms.deployment.runId pid) { runId := terms.deployment.runId pid } := ⟨rfl, rfl⟩
  unfold executeBody
  apply Fallible.Behaves.bind (Fallible.Behaves.reaching (understand_readies blank))
  rintro ⟨capability, audit⟩ ⟨resolved, stated, blank⟩
  apply Fallible.Behaves.bind
    (Fallible.Behaves.reaching (during_readies blank loadMinimumContext_reads.prepares))
  intro minimumContext _
  apply Fallible.Behaves.bind (Fallible.Behaves.reaching (plan_readies blank resolved))
  rintro invocation ⟨planned, blank⟩
  exact perform_reaching stated planned blank

theorem recover_reaching {caller : Caller} {raised : Raised} :
    Reaching deployment context request (recover caller context request raised) fun _ => True := by
  unfold recover
  split
  · apply Fallible.Behaves.bind_ask trivial
    intro _
    apply Fallible.Behaves.bind (Fallible.Behaves.reaching pendingFor_reads.prepares)
    rintro ⟨approval, write⟩ _
    dsimp only
    apply Fallible.Behaves.seq commit_reaching
    intro _
    exact Fallible.Behaves.raise trivial
  · split
    · apply Fallible.Behaves.bind_ask trivial
      intro _
      dsimp only
      apply Fallible.Behaves.seq commit_reaching
      intro _
      exact Fallible.Behaves.raise trivial
    · exact Fallible.Behaves.raise trivial

def EntryLeads (deployment : Deployment) : Entry → Op → Prop
  | .execute context request => Leads deployment context request
  | .decide .. => Preparatory

theorem decideApproval_prepares {approvalId userId : String} {approved : Bool} :
    Prepares (decideApproval context approvalId approved userId) fun _ => True := by
  unfold decideApproval
  apply Fallible.Behaves.bind approvalForContext_reads.prepares
  intro row _
  split
  · exact Fallible.Behaves.raise trivial
  · apply Fallible.Behaves.bind (commit_prepares rfl rfl)
    intro _ _
    exact Fallible.Behaves.pure trivial

theorem main_leads (deployment : Deployment) (pid : Nat) (entry : Entry) :
    (main deployment pid entry).Behaves (EntryLeads deployment entry) fun _ => True := by
  let terms : Terms := ⟨deployment, True, True, fun _ => False⟩
  cases entry with
  | execute context request =>
    have body : Reaching deployment context request (executeBody ⟨deployment, pid⟩ context request)
        fun _ => True := @executeBody_reaching context request terms pid
    have executed : (execute ⟨deployment, pid⟩ context request).run.Behaves
        (Leads deployment context request) fun _ => True := by
      apply Program.Behaves.bind (Fallible.Behaves.run_iff.mp body)
      intro result _
      cases result with
      | ok response => exact trivial
      | error raised =>
        have recovers : Reaching deployment context request
            (recover ⟨deployment, pid⟩ context request raised) fun _ => True := recover_reaching
        exact Program.Behaves.weaken (Fallible.Behaves.run_iff.mp recovers) (fun _ holds => holds)
          fun _ _ => trivial
    apply Program.Behaves.bind executed
    intro result _
    exact ⟨trivial, fun _ => trivial⟩
  | decide context approvalId approved userId =>
    apply Program.Behaves.bind (Fallible.Behaves.run_iff.mp decideApproval_prepares)
    intro result _
    exact ⟨trivial, fun _ => trivial⟩

def CallsReached (deployment : Deployment) (entries : Nat → Option Entry) (state : KernelState) :
    Prop :=
  ∀ pid call used claim, .invoked pid call used claim ∈ state.log →
    ∃ context request, entries pid = some (.execute context request) ∧ call.context = context ∧
      Reaches deployment context request call.capability

theorem serve_invoked {pid : Nat} {op : kernelDb.Op} {choice : Choice} {state after : KernelState}
    {answer : kernelDb.Answer op} (performed : serve deployment pid op choice state = some (answer, after))
    {owner : Nat} {call : ProviderCall} {used : RuntimeRequest} {claim : Option KernelRequestClaim}
    (present : .invoked owner call used claim ∈ after.log) :
    .invoked owner call used claim ∈ state.log ∨ owner = pid ∧ op = Op.provider call used := by
  cases op with
  | commit changes =>
    left
    rcases serve_commit performed with ⟨-, rfl⟩ | ⟨-, -, -, rfl⟩
    · exact present
    · have written : .invoked owner call used claim ∈
          ((state.writeApproval pid changes.approval).writeClaim pid changes.claim).log := present
      rwa [mem_writeClaim (by simp) (by simp), mem_writeApproval (by simp)] at written
  | tenant =>
    left
    cases choice <;> cases performed
    exact present
  | provider called used' =>
    cases choice with
    | provider outcome commits =>
      cases performed
      have logged : .invoked owner call used claim ∈ (state.record (.invoked pid called used'
          (state.claimOf deployment called.context used'))).log := by
        cases commits <;> exact present
      rcases KernelState.mem_record.mp logged with old | new
      · exact .inl old
      · cases new
        exact .inr ⟨rfl, rfl⟩
    | default | tenant | failed => cases performed
  | claimByKey | pendingApproval | rollback =>
    cases performed
    exact .inl present
  | approvalForUpdate =>
    left
    simp only [serve] at performed
    split at performed
    · cases performed
      exact present
    · split at performed
      · cases performed
        exact present
      · split at performed
        · cases performed
        · cases performed
          simpa using present

theorem calls_reached {initial : KernelState} {final : KernelPool} {moves : List (Move Entry Choice)}
    (quiet : initial.log = [])
    (run : Runs (kernelStep deployment) (fun _ _ => True) (Pool.initial initial) moves final) :
    CallsReached deployment final.entries final.shared := by
  refine (Pool.behaves (CallsReached deployment) (fun pid entry => main_leads deployment pid entry)
    ?_ ?_ ?_ ?_ run).1
  · intro pid call used claim present
    simp [quiet] at present
  · intro entries shared pid entry absent holds owner call used claim present
    obtain ⟨context, request, entered, rest⟩ := holds owner call used claim present
    have other : owner ≠ pid := by
      rintro rfl
      rw [absent] at entered
      cases entered
    exact ⟨context, request, by rw [Function.update_of_ne other, entered], rest⟩
  · intro entries shared pid entry op choice answer after entered leads holds performed owner call
      used claim present
    rcases serve_invoked performed present with old | ⟨rfl, rfl⟩
    · exact holds owner call used claim old
    · cases entry with
      | execute context request =>
        obtain ⟨rfl, reaches⟩ := leads
        exact ⟨call.context, request, entered, rfl, reaches⟩
      | decide => exact leads.elim
  · exact fun entries shared pid holds => holds

/-! ### What a request reaches can be called -/

def approvedInvocation (deployment : Deployment) (context : ExecutionContext) (request : RuntimeRequest)
    (capability : CapabilitySpec) : KernelApproval where
  id := request.approvalId.getD ""
  scopeKind := context.scopeKind
  workspaceId := if context.isPersonal then none else context.workspaceId
  ownerUserId := context.userId
  requestedByPrincipalId := context.principalId
  requestedByUserId := context.userId
  capabilityId := capability.id
  argumentsHash := argumentsHash deployment capability.id request.arguments
  argumentsJson := .obj request.arguments
  requestId := some (clean request.requestId)
  conversationId := request.conversationId
  sourceRunId := none
  status := .approved
  decidedByUserId := none
  consumedRunId := none

/-- A database without claims that holds one approval, free for this process. -/
structure Provides (pid : Nat) (row : KernelApproval) (state : KernelState) : Prop where
  unclaimed : ∀ key, state.claims key = none
  present : state.approvals row.id = some row
  free : state.approvalLock row.id = none ∨ state.approvalLock row.id = some pid

abbrev Alone {α : Type} (deployment : Deployment) (pid : Nat) (program : Program kernelDb α)
    (state : KernelState) (value : α) (final : KernelState) : Prop :=
  Evaluates (kernelWorld deployment) pid unconditional program state value final

section Calls
variable {pid : Nat} {state : KernelState} {capability : CapabilitySpec} {row : KernelApproval}

variable {filter : ScopeFilter}

theorem approvedInvocation_admitted (scope : scopeFilters context = .ok filter) :
    filter.admits (approvedInvocation deployment context request capability) = true := by
  unfold scopeFilters at scope
  cases kind : context.scopeKind <;> simp only [ExecutionContext.isPersonal, kind, reduceCtorEq,
      decide_true, decide_false, if_true, Bool.false_eq_true, if_false] at scope
  · split at scope
    · cases scope
    · next set =>
      cases scope
      have present : context.userId = some (context.userId.getD "") := by
        cases same : context.userId with
        | none => simp [isSet, same] at set
        | some user => rfl
      simp [ScopeFilter.admits, approvedInvocation, ExecutionContext.isPersonal, kind, ← present]
  · split at scope
    · cases scope
    · next set =>
      cases scope
      have present : context.workspaceId = some (context.workspaceId.getD "") := by
        cases same : context.workspaceId with
        | none => simp [isSet, same] at set
        | some workspace => rfl
      simp [ScopeFilter.admits, approvedInvocation, ExecutionContext.isPersonal, kind, ← present]

theorem approvalForContext_run {filter : ScopeFilter} (scope : scopeFilters context = .ok filter)
    (admitted : filter.admits row = true) (provides : Provides pid row state) :
    ∃ after, Alone deployment pid (approvalForContext context row.id).run state (.ok row) after ∧
      Provides pid row after ∧ after.approvalLock row.id = some pid := by
  let locked : KernelState := { state with
    approvalLock := Function.update state.approvalLock row.id (some pid) }.record (.read pid row)
  have free : ¬ (state.approvalLock row.id ≠ none ∧ state.approvalLock row.id ≠ some pid) := by
    rcases provides.free with unlocked | mine
    · simp [unlocked]
    · simp [mine]
  refine ⟨locked, ?_, ⟨provides.unclaimed, provides.present, .inr (by simp [locked])⟩, by simp [locked]⟩
  unfold approvalForContext
  rw [scope]
  refine Evaluates.bind_ask_run.mpr ⟨.default, some row, locked, trivial, ?_, .done⟩
  simp only [kernelWorld, serve, provides.present, admitted, if_neg free]
  rfl

theorem validateBinding_of (binds : row = approvedInvocation deployment context request capability) :
    validateBinding deployment row context capability.id request.arguments = .ok () := by
  subst binds
  simp [validateBinding, approvedInvocation]

theorem validateApprovedInvocation_run (scope : scopeFilters context = .ok filter)
    (binds : row = approvedInvocation deployment context request capability) (provides : Provides pid row state) :
    ∃ after, Alone deployment pid (validateApprovedInvocation deployment context row.id capability.id
      request.arguments).run state (.ok row) after ∧ Provides pid row after := by
  have admitted : filter.admits row = true := binds ▸ approvedInvocation_admitted scope
  obtain ⟨after, run, provided, -⟩ := approvalForContext_run scope admitted provides
  refine ⟨after, ?_, provided⟩
  have approved : row.status = .approved := by rw [binds]; rfl
  unfold validateApprovedInvocation
  refine Evaluates.bind_run.mpr (.inl ⟨row, after, run, ?_⟩)
  rw [if_neg (by simp [approved]), validateBinding_of binds]
  exact .done

theorem approvalToClaim_run (scope : scopeFilters context = .ok filter)
    (binds : row = approvedInvocation deployment context request capability) (present : clean request.requestId ≠ "")
    (provides : Provides pid row state) :
    ∃ write after, Alone deployment pid (approvalToClaim deployment context request
      (clean request.requestId)).run state (.ok write) after ∧ Provides pid row after ∧
      after.blocked pid write = false ∧ ∀ inserted, write ≠ some (.insert inserted) := by
  unfold approvalToClaim
  split
  · next set =>
    have named : request.approvalId.getD "" = row.id := by rw [binds]; rfl
    have admitted : filter.admits row = true := binds ▸ approvedInvocation_admitted scope
    obtain ⟨middle, run, provided, -⟩ :=
      @approvalForContext_run deployment _ _ _ _ _ scope admitted provides
    obtain ⟨after, run', provided', locked⟩ :=
      @approvalForContext_run deployment _ _ _ _ _ scope admitted provided
    refine ⟨some (.executing row.id context request), after, ?_, provided', ?_, by simp⟩
    · dsimp only
      rw [named]
      refine Evaluates.bind_run.mpr (.inl ⟨row, middle, run, ?_⟩)
      refine Evaluates.bind_run.mpr (.inl ⟨_, after, ?_, .done⟩)
      unfold claimApprovedInvocation
      refine Evaluates.bind_run.mpr (.inl ⟨row, after, run', ?_⟩)
      have approved : row.status = .approved := by rw [binds]; rfl
      have capability : row.capabilityId = capability.id := by rw [binds]; rfl
      have original : clean row.requestId = clean request.requestId := by
        rw [binds]
        exact strip_strip _
      rw [if_neg (by simp [approved]), capability, validateBinding_of binds]
      refine Evaluates.bind_ofExcept_run.mpr (.inl ⟨(), rfl, ?_⟩)
      have again : strip (clean request.requestId) = clean request.requestId := strip_strip _
      simp only [original, again, present, if_false, decide_false, bne_self_eq_false, Bool.or_false,
        Bool.false_eq_true]
      exact .done
    · simp [KernelState.blocked, ApprovalWrite.id, locked]
  · exact ⟨none, state, .done, provides, rfl, by simp⟩

theorem reserveRequest_run {key : String} (runId : String) (scope : scopeFilters context = .ok filter)
    (binds : row = approvedInvocation deployment context request capability) (present : clean request.requestId ≠ "")
    (named : idempotencyKey deployment context (clean request.requestId) = .ok key)
    (provides : Provides pid row state) :
    ∃ claim after, Alone deployment pid (reserveRequest deployment context request runId).run state
      (.ok { claim := some claim }) after := by
  obtain ⟨write, middle, run, provided, unblocked, updates⟩ :=
    approvalToClaim_run scope binds present provides
  refine ⟨newClaim deployment context request key (clean request.requestId) runId,
    middle.commit pid { claim := some (.insert (newClaim deployment context request key
      (clean request.requestId) runId)), approval := write }, ?_⟩
  unfold reserveRequest
  dsimp only
  rw [if_neg present, named]
  refine Evaluates.bind_ask_run.mpr ⟨.default, none, state, trivial, ?_, ?_⟩
  · simp [kernelWorld, serve, provides.unclaimed]
  · refine Evaluates.bind_run.mpr (.inl ⟨write, middle, run, ?_⟩)
    refine Evaluates.bind_ask_run.mpr ⟨.default, .committed, _, trivial, ?_, .done⟩
    have unviolated : ∀ claim,
        middle.violates { claim := some (.insert claim), approval := write } = false := by
      intro claim
      simp only [KernelState.violates, provided.unclaimed]
      cases write with
      | none => rfl
      | some write =>
        cases write with
        | insert row => exact absurd rfl (updates row)
        | decided | executing | consumed => rfl
    simp only [kernelWorld, serve, unblocked, unviolated, Bool.false_eq_true, if_false]

theorem loadMinimumContext_run :
    ∃ fields, Alone deployment pid (loadMinimumContext context).run state (.ok fields) state := by
  unfold loadMinimumContext
  dsimp only
  split
  · exact ⟨_, Evaluates.bind_ask_run.mpr
      ⟨.tenant (some ⟨"", "", ""⟩), some ⟨"", "", ""⟩, state, trivial, rfl, .done⟩⟩
  · split
    · exact ⟨_, .done⟩
    · exact ⟨_, .done⟩

theorem scopeFilters_of_key {requestId key : String}
    (identified : idempotencyKey deployment context requestId = .ok key) :
    ∃ filter, scopeFilters context = .ok filter := by
  cases kind : context.isPersonal with
  | true =>
    cases set : isSet context.userId with
    | true => exact ⟨.owner _, by simp only [scopeFilters, kind, set]; rfl⟩
    | false => simp [idempotencyKey, scopeIdentity, kind, set, bind, Except.bind] at identified
  | false =>
    cases set : isSet context.workspaceId with
    | true => exact ⟨.tenant _, by simp only [scopeFilters, kind, set]; rfl⟩
    | false => simp [idempotencyKey, scopeIdentity, kind, set, bind, Except.bind] at identified

theorem understand_reached (reaches : Reaches deployment context request capability) (audit : RuntimeAuditBuffer) :
    ∃ later, understand deployment context request audit = .ok (capability, later) := by
  have stated : ¬ (strip request.goal = "" ∧ isSet request.capabilityId = false) := by
    rcases reaches.stated with goal | set
    · exact fun both => goal both.1
    · simp [set]
  have scope : capability.scopes.contains context.scopeKind.value = true := by
    simpa using reaches.authorized.scope
  unfold understand
  dsimp only
  rw [if_neg (by simpa using stated), reaches.resolved]
  simp only [Except.mapError, bind, Except.bind, scope, Bool.not_true, Bool.false_eq_true, if_false,
    pure, Except.pure]
  exact ⟨_, rfl⟩

theorem evaluate_of_authorized {spec : CapabilitySpec} (authorized : Authorized context spec) :
    (evaluate context spec).decision = if spec.approvalRequired then .ask else .allow := by
  have scope : spec.scopes.contains context.scopeKind.value = true := by
    simpa using authorized.scope
  have missing : (spec.permissions.filter fun permission => !context.can permission) = [] := by
    rw [List.filter_eq_nil_iff]
    intro permission declared
    simp [authorized.permissions permission declared]
  unfold evaluate
  simp only [scope, authorized.surface, missing, Bool.not_true, Bool.false_eq_true, if_false,
    List.isEmpty_nil]
  split <;> rfl

theorem plan_reached (reaches : Reaches deployment context request capability)
    (minimumContext : Fields) (audit : RuntimeAuditBuffer) :
    ∃ invocation, plan context request capability minimumContext audit = .ok invocation ∧
      invocation.capability = capability ∧ invocation.arguments = request.arguments ∧
      invocation.request = executionRequest request capability ∧
      invocation.decision = if capability.approvalRequired then .ask else .allow := by
  have identified : ¬ (capability.mutating = true ∧ clean request.requestId = "") :=
    fun both => (reaches.identified both.1).1 both.2
  have decided := evaluate_of_authorized reaches.authorized
  have granted : (evaluate context capability).decision ≠ .deny := by
    rw [decided]
    split <;> simp
  refine ⟨{ capability, arguments := request.arguments, minimumContext,
            request := executionRequest request capability,
            decision := (evaluate context capability).decision,
            audit := ((audit.step 5 .loadContext "ok").step 6 .exposeTools "ok").step 7 .reasonPlan "ok" },
    ?_, rfl, rfl, rfl, decided⟩
  unfold plan
  simp only [reaches.valid, Except.mapError, bind, Except.bind, pure, Except.pure]
  split
  · next anonymous =>
    rw [Bool.and_eq_true, decide_eq_true_eq] at anonymous
    exact absurd anonymous identified
  · rfl

theorem perform_reached (reaches : Reaches deployment context request capability)
    (same : invocation.capability = capability) (arguments : invocation.arguments = request.arguments)
    (executes : invocation.request = executionRequest request capability)
    (decided : invocation.decision = if capability.approvalRequired then .ask else .allow)
    (binds : row = approvedInvocation deployment context request capability) (provides : Provides pid row state) :
    ∃ raised final, Alone deployment pid (perform ⟨deployment, pid⟩ context invocation).run state
      (.error raised) final ∧ raised.error = .other "" ∧ ∃ call used claim,
        .invoked pid call used claim ∈ final.log ∧ call.capability = capability := by
  subst same
  have named : invocation.request.requestId = request.requestId := by rw [executes]; rfl
  -- nothing has been completed under the key of the request
  have replayed : Alone deployment pid (replay deployment context invocation).run state (.ok none)
      state := by
    unfold replay
    split
    · next mutating =>
      obtain ⟨present, key, identified⟩ := reaches.identified mutating
      refine Evaluates.mapError_run.mpr ⟨.ok none, ?_, rfl⟩
      unfold findCompletedRequest
      dsimp only
      rw [named, if_neg present, identified]
      exact Evaluates.bind_ask_run.mpr ⟨.default, none, state, trivial,
        by simp [kernelWorld, serve, provides.unclaimed], .done⟩
    · exact .done
  -- the approval is the one that the request asks for
  have authorized : ∃ cleared after, Alone deployment pid (authorize deployment context invocation).run
      state (.ok cleared) after ∧ Provides pid row after ∧
      cleared.capability = invocation.capability ∧ cleared.request = invocation.request := by
    unfold authorize
    cases required : invocation.capability.approvalRequired with
    | true =>
      obtain ⟨set, filter, scope⟩ := reaches.approved required
      have approvalId : invocation.request.approvalId = request.approvalId := by rw [executes]; rfl
      have id : request.approvalId.getD "" = row.id := by rw [binds]; rfl
      obtain ⟨after, run, provided⟩ := validateApprovedInvocation_run scope binds provides
      rw [if_pos (by simp [decided, required, approvalId, set]), approvalId, id, arguments]
      refine ⟨_, after, Evaluates.bind_run.mpr (.inl ⟨row, after,
        Evaluates.mapError_run.mpr ⟨.ok row, run, rfl⟩, .done⟩), provided, rfl, rfl⟩
    | false =>
      have allowed : invocation.decision = .allow := by simp [decided, required]
      rw [if_neg (by simp [allowed])]
      dsimp only
      rw [if_neg (by simp [allowed])]
      exact ⟨_, state, .done, provides, rfl, rfl⟩
  obtain ⟨cleared, middle, authorizes, provided, capability, request'⟩ := authorized
  have reserved : ∃ claim after, Alone deployment pid (reserve ⟨deployment, pid⟩ context cleared).run
      middle (.ok { claim }) after := by
    unfold reserve
    rw [capability, request']
    split
    · next mutating =>
      obtain ⟨present, key, identified⟩ := reaches.identified mutating
      obtain ⟨filter, scope⟩ := scopeFilters_of_key identified
      have binds' : row = approvedInvocation deployment context invocation.request
          invocation.capability := by
        rw [binds, executes]
        rfl
      rw [← named] at present identified
      obtain ⟨claim, after, run⟩ :=
        reserveRequest_run (deployment.runId pid) scope binds' present identified provided
      exact ⟨some claim, after, Evaluates.mapError_run.mpr ⟨_, run, rfl⟩⟩
    · exact ⟨none, middle, .done⟩
  obtain ⟨claim, late, reserves⟩ := reserved
  let ready : Invocation := { cleared with claim }
  let called := late.record (.invoked pid
    ⟨context, ready.capability, ready.arguments, ready.minimumContext⟩ ready.request
    (late.claimOf deployment context ready.request))
  have calls : Alone deployment pid (callProvider deployment context ready).run late
      (.error ⟨ready.locals, .other ""⟩) called := by
    unfold callProvider
    dsimp only
    have connected : deployment.providers.contains
        (lower (strip ready.capability.providerId)) = true := by
      simp only [ready, capability, reaches.connected]
    rw [connected]
    exact Evaluates.bind_ask_run.mpr ⟨.provider (.error (.other "")) false, .error (.other ""), called,
      trivial, rfl, .done⟩
  refine ⟨⟨ready.locals, .other ""⟩, called, ?_, rfl, _, _, _,
    KernelState.mem_record.mpr (.inr rfl), capability⟩
  unfold perform
  refine Evaluates.bind_run.mpr (.inl ⟨none, state, replayed, ?_⟩)
  refine Evaluates.bind_run.mpr (.inl ⟨cleared, middle, authorizes, ?_⟩)
  refine Evaluates.bind_run.mpr (.inl ⟨{ claim }, late, reserves, ?_⟩)
  exact Evaluates.bind_run.mpr (.inr ⟨_, rfl, calls⟩)

theorem main_reached (reaches : Reaches deployment context request capability)
    (binds : row = approvedInvocation deployment context request capability) (provides : Provides pid row state) :
    ∃ value final, Alone deployment pid (main deployment pid (.execute context request)) state value
      final ∧ ∃ call used claim, .invoked pid call used claim ∈ final.log ∧
        call.capability = capability := by
  obtain ⟨later, understood⟩ := understand_reached reaches { runId := deployment.runId pid }
  obtain ⟨minimumContext, loads⟩ := @loadMinimumContext_run deployment context pid state
  obtain ⟨invocation, planned, same, arguments, executes, decided⟩ := plan_reached
    reaches minimumContext later
  obtain ⟨⟨locals, error⟩, final, performs, rfl, call, used, claim, logged, called⟩ :=
    perform_reached reaches same arguments executes decided binds provides
  have body : Alone deployment pid (executeBody ⟨deployment, pid⟩ context request).run state
      (.error ⟨locals, .other ""⟩) final := by
    unfold executeBody
    refine Evaluates.bind_ofExcept_run.mpr (.inl ⟨_, understood, ?_⟩)
    refine Evaluates.bind_run.mpr (.inl ⟨minimumContext, state,
      Evaluates.mapError_run.mpr ⟨_, loads, rfl⟩, ?_⟩)
    exact Evaluates.bind_ofExcept_run.mpr (.inl ⟨invocation, planned, performs⟩)
  have executed : Alone deployment pid (execute ⟨deployment, pid⟩ context request).run state
      (.error (.other "")) final := by
    exact Evaluates.bind_iff.mpr ⟨_, final, body, .done⟩
  refine ⟨.executed (.error (.other "")), final.release pid,
    Evaluates.bind_iff.mpr ⟨_, final, executed, ?_⟩, call, used, claim, logged, called⟩
  exact Evaluates.bind_iff.mpr ⟨(), final.release pid,
    Evaluates.ask_iff.mpr ⟨.default, trivial, rfl⟩, .done⟩

end Calls

/-! ### Delegated contexts -/

/-- On every run, the calls of this request stay on the allowlist of the delegation. -/
def Confined (deployment : Deployment) (context : DelegatedExecutionContext) (request : RuntimeRequest) :
    Prop :=
  ∀ (initial : KernelState) (moves : List (Move Entry Choice)) (final : KernelPool), Initial initial →
    Runs (kernelStep deployment) (fun _ _ => True) (Pool.initial initial) moves final →
    ∀ pid call used claim, final.entries pid = some (.execute context.toExecutionContext request) →
      .invoked pid call used claim ∈ final.shared.log →
        call.capability.id ∈ context.delegatedCapabilityIds

def Reachable (deployment : Deployment) (context : ExecutionContext) : Set CapabilitySpec :=
  { capability | ∃ request, Reaches deployment context request capability }

def NestedWithin (deployment : Deployment) (child : DelegatedExecutionContext) : Prop :=
  ∀ (parent : DelegatedExecutionContext) (principalKind principalId : String)
    (capabilityIds : Finset String) (delegationIdValue : String),
    delegateExecutionContext (.delegated parent) principalKind principalId capabilityIds
      delegationIdValue = .ok child →
    Reachable deployment child.toExecutionContext ⊆ Reachable deployment parent.toExecutionContext ∧
      child.delegatedCapabilityIds ⊆ parent.delegatedCapabilityIds

/-- Only the principal changes on the way to a delegation, and no gate but the search for a
goal looks at it. -/
theorem reaches_of_narrows {base : BaseContext} {child : DelegatedExecutionContext} (narrows : Narrows base child)
    {capability : CapabilitySpec} (reaches : Reaches deployment child.toExecutionContext request capability) :
    Reaches deployment base.context { request with capabilityId := some capability.id } capability := by
  have member := resolveCapability_mem reaches.resolved
  have named : isSet (some capability.id) = true := by
    simp [isSet, (deployment.registry.normalized capability member).2]
  have inherited := narrows.inherited
  have authorized := reaches.authorized
  have approved := reaches.approved
  have identified := reaches.identified
  rw [inherited] at authorized approved identified
  refine ⟨.inr named, ?_, reaches.valid, ⟨authorized.scope, authorized.surface, authorized.permissions⟩,
    approved, ?_, reaches.connected⟩
  · simp only [resolveCapability, named, if_true, Option.getD_some]
    exact CapabilityRegistry.get_of_mem member
  · intro mutating
    obtain ⟨present, key, same⟩ := identified mutating
    refine ⟨present, ?_⟩
    cases scope : scopeIdentity base.context with
    | error error =>
      have missing : scopeIdentity { base.context with principalId := child.principalId } =
          .error error := scope
      simp [idempotencyKey, missing, bind, Except.bind] at same
    | ok owner =>
      cases ingress : ingressNamespace deployment base.context with
      | error error =>
        have missing : ingressNamespace deployment
            { base.context with principalId := child.principalId } = .error error := ingress
        have present : scopeIdentity { base.context with principalId := child.principalId } =
            .ok owner := scope
        simp [idempotencyKey, present, missing, bind, Except.bind] at same
      | ok «namespace» =>
        simp only [idempotencyKey, scope, ingress, bind, Except.bind, pure, Except.pure]
        exact ⟨_, rfl⟩

theorem nestedWithin (deployment : Deployment) (child : DelegatedExecutionContext) :
    NestedWithin deployment child := by
  intro parent principalKind principalId capabilityIds delegationIdValue built
  have narrows := delegateExecutionContext_narrows built
  refine ⟨?_, narrows.allowlist parent rfl⟩
  rintro capability ⟨request, reaches⟩
  exact ⟨_, reaches_of_narrows narrows reaches⟩

def approvalState (row : KernelApproval) : KernelState where
  claims _ := none
  approvals id := if id = row.id then some row else none
  approvalLock _ := none
  approvalIds := [row.id]
  runs := []
  events := []
  log := []

theorem approvalState_initial (row : KernelApproval) : Initial (approvalState row) := by
  refine ⟨by simp [approvalState], ?_, fun _ => rfl, rfl⟩
  intro id found present
  simp only [approvalState] at present
  split at present
  · next same =>
    cases present
    exact same.symm
  · cases present

theorem reaches_confined {context : DelegatedExecutionContext} {capability : CapabilitySpec}
    (confined : Confined deployment context request)
    (reaches : Reaches deployment context.toExecutionContext request capability) :
    capability.id ∈ context.delegatedCapabilityIds := by
  let row := approvedInvocation deployment context.toExecutionContext request capability
  let entry := Entry.execute context.toExecutionContext request
  have provides : Provides 0 row (approvalState row) :=
    ⟨fun _ => rfl, by simp [approvalState], .inl rfl⟩
  obtain ⟨value, state, evaluates, call, used, claim, logged, rfl⟩ := main_reached reaches rfl provides
  let started : KernelPool := ⟨approvalState row,
    Function.update (fun _ => none) 0 (some ⟨entry, some (main deployment 0 entry)⟩)⟩
  have present : started.tasks 0 = some ⟨entry, some (main deployment 0 entry)⟩ := by
    simp [started, entry]
  obtain ⟨moves, run⟩ := @Evaluates.runs _ _ _ _ _ _ _ _ (main deployment) _ _ _ _ _ evaluates _ present
  refine confined (approvalState row) (.start 0 entry :: moves) _ (approvalState_initial row)
    (.cons trivial rfl run) 0 call used claim ?_ logged
  simp [Pool.entries, entry]

/-- The Kernel keeps a delegated request within the allowlist exactly when everything that the
request reaches under the inherited authority is on it; nesting widens nothing. -/
theorem delegation_confined_iff (deployment : Deployment) (context : DelegatedExecutionContext)
    (request : RuntimeRequest) :
    (Confined deployment context request ∧ NestedWithin deployment context) ↔
      ∀ capability, Reaches deployment context.toExecutionContext request capability →
        capability.id ∈ context.delegatedCapabilityIds := by
  constructor
  · rintro ⟨confined, -⟩ capability reaches
    exact reaches_confined confined reaches
  · intro allowed
    refine ⟨?_, nestedWithin deployment context⟩
    intro initial moves final start run pid call used claim entered logged
    obtain ⟨caller, asked, entered', rfl, reaches⟩ :=
      calls_reached start.quiet run pid call used claim logged
    rw [entered, Option.some.injEq, Entry.execute.injEq] at entered'
    obtain ⟨same, rfl⟩ := entered'
    exact allowed call.capability (same ▸ reaches)

def documentSpec (id : String) (risk : CapabilityRisk) : CapabilitySpec where
  id
  version := "1.0.0"
  providerId := "sample"
  scopes := ["workspace"]
  inputSchema := []
  outputSchema := []
  risk

def documents : Deployment := { sample with
  registry := {
    specs := [documentSpec "document.read" .readOnly, documentSpec "document.write" .low]
    normalized := by decide
    distinct := by decide }
  search_mem := by simp [sample] }

def documentOwner : ExecutionContext := { sampleContext with
  workspaceId := some "w1", scopeKind := .workspace, surface := .workspaceShared,
  membershipId := some "m1" }

def documentReader : Except DelegationError DelegatedExecutionContext :=
  delegateExecutionContext (.plain documentOwner) "workflow" "wf-1" {"document.read"} "d-1"

theorem documentReader_built : ∃ context, documentReader = .ok context ∧
    context.delegatedCapabilityIds = {"document.read"} ∧
    context.toExecutionContext = { documentOwner with principalId := some "wf-1" } := by
  have checked : (match documentReader with
      | .ok context => decide (context.delegatedCapabilityIds = {"document.read"} ∧
          context.toExecutionContext = { documentOwner with principalId := some "wf-1" })
      | .error _ => false) = true := by
    decide
  cases built : documentReader with
  | ok context =>
    rw [built] at checked
    exact ⟨context, rfl, of_decide_eq_true checked⟩
  | error error =>
    rw [built] at checked
    cases checked

theorem delegation_not_confined : ∃ context, documentReader = .ok context ∧
    ¬ Confined documents context (sampleRequest "document.write" none) := by
  obtain ⟨context, built, allowlist, inherited⟩ := documentReader_built
  refine ⟨context, built, fun confined => ?_⟩
  have reaches : Reaches documents context.toExecutionContext (sampleRequest "document.write" none)
      (documentSpec "document.write" .low) := by
    rw [inherited]
    refine ⟨.inr (by decide), by rfl, by rfl, ⟨by decide, by decide, by decide⟩,
      fun required => ?_, fun _ => ⟨by decide, "workspace:w1:wf-1:r1", by rfl⟩,
      by decide⟩
    cases required
  have named := reaches_confined confined reaches
  rw [allowlist] at named
  simp [documentSpec] at named

end Operly.Kernel
