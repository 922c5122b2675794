import Operly.Concurrent.Requests
import Operly.Kernel.Execution

/-! What each function of a call can request of the database, whatever it answers. -/

namespace Operly.Kernel
open Python Security Concurrent Fallible

variable {deployment : Deployment} {context : ExecutionContext} {request : RuntimeRequest}

def Preparatory : Op → Prop
  | .provider _ _ => False
  | .commit changes => changes.runs = [] ∧ changes.events = []
  | _ => True

abbrev Prepares {ε α : Type} (code : Fallible kernelDb ε α) (returns : α → Prop) : Prop :=
  code.Behaves Preparatory returns fun _ => True

def Reading : Op → Prop
  | .tenant _ | .claimByKey _ | .approvalForUpdate _ _ | .pendingApproval _ => True
  | .provider _ _ | .commit _ | .rollback => False

abbrev Reads {ε α : Type} (code : Fallible kernelDb ε α) (returns : α → Prop) : Prop :=
  code.Behaves Reading returns fun _ => True

theorem Reading.preparatory {op : Op} (reading : Reading op) : Preparatory op := by
  cases op with
  | provider => exact reading.elim
  | commit => exact reading.elim
  | tenant | claimByKey | approvalForUpdate | pendingApproval | rollback => trivial

theorem Reads.prepares {ε α : Type} {code : Fallible kernelDb ε α} {returns : α → Prop}
    (reads : Reads code returns) : Prepares code returns :=
  Behaves.weaken reads (fun _ => Reading.preparatory) (fun _ holds => holds) fun _ holds => holds

theorem commit_prepares {changes : Changes} (runs : changes.runs = []) (events : changes.events = []) :
    Prepares (commit changes) fun _ => True := by
  unfold commit
  apply Behaves.bind_ask ⟨runs, events⟩
  intro flushed
  exact Behaves.ofExcept (fun _ _ => trivial) fun _ _ => trivial

variable {approvalId capabilityId runId : String} {arguments : Fields} {caller : Caller} {locals : Locals}
  {audit : RuntimeAuditBuffer} {invocation : Invocation}

theorem approvalForContext_reads :
    Reads (approvalForContext context approvalId) fun _ =>
      ∃ filter, scopeFilters context = .ok filter := by
  unfold approvalForContext
  apply Behaves.bind_ofExcept (fun _ _ => trivial)
  intro filter scope
  apply Behaves.bind_ask trivial
  intro row
  cases row with
  | none => exact Behaves.raise trivial
  | some row => exact Behaves.pure ⟨filter, scope⟩

theorem validateApprovedInvocation_reads :
    Reads (validateApprovedInvocation deployment context approvalId capabilityId arguments) fun row =>
      row.status = .approved ∧ ∃ filter, scopeFilters context = .ok filter := by
  unfold validateApprovedInvocation
  apply Behaves.bind approvalForContext_reads
  intro row scope
  split
  · exact Behaves.raise trivial
  · next approved =>
    apply Behaves.bind_ofExcept (fun _ _ => trivial)
    intro _ _
    exact Behaves.pure ⟨not_not.mp approved, scope⟩

theorem claimApprovedInvocation_reads {requestId : String} :
    Reads (claimApprovedInvocation deployment context approvalId requestId request capabilityId
      arguments) fun _ => True := by
  unfold claimApprovedInvocation
  apply Behaves.bind approvalForContext_reads
  intro row _
  split
  · exact Behaves.raise trivial
  · apply Behaves.bind_ofExcept (fun _ _ => trivial)
    intro _ _
    dsimp only
    split
    · exact Behaves.raise trivial
    · split
      · exact Behaves.raise trivial
      · exact Behaves.pure trivial

theorem approvalToClaim_reads {requestId : String} :
    Reads (approvalToClaim deployment context request requestId) fun _ => True := by
  unfold approvalToClaim
  split
  · dsimp only
    apply Behaves.bind approvalForContext_reads
    intro approval _
    apply Behaves.bind claimApprovedInvocation_reads
    intro write _
    exact Behaves.pure trivial
  · exact Behaves.pure trivial

theorem findCompletedRequest_reads : Reads (findCompletedRequest deployment context request) fun _ => True := by
  unfold findCompletedRequest
  dsimp only
  split
  · exact Behaves.pure trivial
  · apply Behaves.bind_ofExcept (fun _ _ => trivial)
    intro key _
    apply Behaves.bind_ask trivial
    intro existing
    cases existing with
    | none => exact Behaves.pure trivial
    | some claim => exact Behaves.ofExcept (fun _ _ => trivial) fun _ _ => trivial

theorem afterLostRace_prepares {key hash : String} : Prepares (afterLostRace deployment key hash) fun _ => True := by
  unfold afterLostRace
  apply Behaves.bind_ask trivial
  intro _
  apply Behaves.bind_ask trivial
  intro existing
  cases existing with
  | none => exact Behaves.raise trivial
  | some claim =>
    apply Behaves.bind_ofExcept (fun _ _ => trivial)
    intro replay _
    cases replay with
    | none => exact Behaves.raise trivial
    | some response => exact Behaves.pure trivial

theorem reserveRequest_prepares :
    Prepares (reserveRequest deployment context request runId) fun _ =>
      clean request.requestId ≠ "" ∧
        ∃ key, idempotencyKey deployment context (clean request.requestId) = .ok key := by
  unfold reserveRequest
  dsimp only
  split
  · exact Behaves.raise trivial
  · next present =>
    apply Behaves.bind_ofExcept (fun _ _ => trivial)
    intro key named
    have identified : clean request.requestId ≠ "" ∧
        ∃ key, idempotencyKey deployment context (clean request.requestId) = .ok key :=
      ⟨present, key, named⟩
    apply Behaves.bind_ask trivial
    intro existing
    cases existing with
    | some claim =>
      apply Behaves.bind_ofExcept (fun _ _ => trivial)
      intro replay _
      cases replay with
      | some response => exact Behaves.pure identified
      | none =>
        apply Behaves.bind (commit_prepares rfl rfl)
        intro _ _
        exact Behaves.pure identified
    | none =>
      apply Behaves.bind approvalToClaim_reads.prepares
      intro write _
      apply Behaves.bind_ask ⟨rfl, rfl⟩
      intro flushed
      cases flushed with
      | committed => exact Behaves.pure identified
      | integrityError =>
        exact Behaves.weaken afterLostRace_prepares (fun _ none => none)
          (fun _ _ => identified) (fun _ holds => holds)
      | failed error => exact Behaves.raise trivial

theorem loadMinimumContext_reads : Reads (loadMinimumContext context) fun _ => True := by
  unfold loadMinimumContext
  dsimp only
  split
  · apply Behaves.bind_ask trivial
    intro workspace
    cases workspace with
    | none => exact Behaves.raise trivial
    | some row => exact Behaves.pure trivial
  · split
    · exact Behaves.pure trivial
    · exact Behaves.pure trivial

theorem createPendingApproval_reads {requestId conversationId : Option String} :
    Reads (createPendingApproval caller context capabilityId arguments requestId conversationId
      runId) fun _ => True := by
  unfold createPendingApproval
  dsimp only
  apply Behaves.bind_ofExcept (fun _ _ => trivial)
  intro scope _
  apply Behaves.bind_ask trivial
  intro existing
  cases existing with
  | some row => exact Behaves.pure trivial
  | none => exact Behaves.pure trivial

theorem pendingFor_reads {code : String} : Reads (pendingFor caller context request locals code) fun _ => True := by
  unfold pendingFor
  split
  · split
    · apply Behaves.bind createPendingApproval_reads
      rintro ⟨approval, write⟩ _
      exact Behaves.pure trivial
    · exact Behaves.pure trivial
  · exact Behaves.pure trivial

/-! ### The stages before the provider -/

structure Blank (runId : String) (audit : RuntimeAuditBuffer) : Prop where
  runId : audit.runId = runId
  events : audit.events = []

theorem Blank.step (blank : Blank runId audit) (number : Nat) (stage : RuntimeStage) (status : String) :
    Blank runId (audit.step number stage status) := ⟨blank.runId, blank.events⟩

/-- A callee of the `try` block that raises with a blank buffer. -/
abbrev Readies {α : Type} (runId : String) (code : Body α) (returns : α → Prop) : Prop :=
  code.Behaves Preparatory returns fun raised => Blank runId raised.locals.audit

theorem during_readies {α : Type} {code : Session α} {returns : α → Prop} (blank : Blank runId locals.audit)
    (prepares : Prepares code returns) : Readies runId (during locals code) returns :=
  Behaves.mapError prepares fun _ _ => blank

theorem during_reads {α : Type} {code : Session α} {returns : α → Prop} (blank : Blank runId locals.audit)
    (reads : Reads code returns) :
    (during locals code).Behaves Reading returns fun raised => Blank runId raised.locals.audit :=
  Behaves.mapError reads fun _ _ => blank

theorem understand_ok {result : CapabilitySpec × RuntimeAuditBuffer} (blank : Blank runId audit)
    (understood : understand deployment context request audit = .ok result) :
    (strip request.goal ≠ "" ∨ isSet request.capabilityId = true) ∧ Blank runId result.2 := by
  unfold understand at understood
  dsimp only at understood
  split at understood
  · cases understood
  · next stated =>
    cases found : resolveCapability deployment context request with
    | error error => simp [found, Except.mapError, bind, Except.bind] at understood
    | ok capability =>
      simp only [found, Except.mapError, bind, Except.bind, pure, Except.pure] at understood
      split at understood
      · cases understood
      · cases understood
        refine ⟨?_, (((blank.step ..).step ..).step ..).step ..⟩
        by_cases goal : strip request.goal = ""
        · exact .inr (by simpa [goal] using stated)
        · exact .inl goal

theorem understand_error {raised : Raised} (blank : Blank runId audit)
    (failed : understand deployment context request audit = .error raised) : Blank runId raised.locals.audit := by
  unfold understand at failed
  dsimp only at failed
  split at failed
  · cases failed
    exact blank
  · cases found : resolveCapability deployment context request with
    | error error =>
      simp only [found, Except.mapError, bind, Except.bind, Except.error.injEq] at failed
      subst raised
      exact blank.step ..
    | ok capability =>
      simp only [found, Except.mapError, bind, Except.bind, pure, Except.pure] at failed
      split at failed
      · cases failed
        exact (blank.step ..).step ..
      · cases failed

theorem plan_blank {runId : String} {capability : CapabilitySpec} {minimumContext : Fields}
    {audit : RuntimeAuditBuffer} (blank : Blank runId audit) :
    match plan context request capability minimumContext audit with
    | .ok invocation => Blank runId invocation.audit
    | .error raised => Blank runId raised.locals.audit := by
  unfold plan
  dsimp only
  cases valid : validateSchema (.obj request.arguments) capability.inputSchema with
  | error error => exact (blank.step ..).step ..
  | ok done =>
    simp only [Except.mapError, bind, Except.bind, pure, Except.pure]
    split
    · next same =>
      split at same
      · cases same
      · split at same
        · cases same
        · cases same
          exact ((blank.step ..).step ..).step ..
    · next same =>
      split at same
      · cases same
        exact ((blank.step ..).step ..).step ..
      · split at same
        · cases same
          exact (((blank.step ..).step ..).step ..).step ..
        · cases same

structure Cleared (deployment : Deployment) (context : ExecutionContext) (request : RuntimeRequest)
    (runId : String) (invocation : Invocation) : Prop where
  resolved : resolveCapability deployment context request = .ok invocation.capability
  approved : invocation.capability.approvalRequired = true →
    isSet request.approvalId = true ∧ ∃ filter, scopeFilters context = .ok filter
  request : invocation.request = executionRequest request invocation.capability
  arguments : invocation.request.arguments = invocation.arguments
  valid : validateSchema (.obj invocation.arguments) invocation.capability.inputSchema = .ok ()
  authorized : Authorized context invocation.capability
  used : ∀ row, invocation.usedApproval = some row → row.status = .approved
  blank : Blank runId invocation.audit

theorem replay_reads (blank : Blank runId invocation.audit) :
    (replay deployment context invocation).Behaves Reading (fun _ => True)
      fun raised => Blank runId raised.locals.audit := by
  unfold replay
  split
  · exact during_reads blank findCompletedRequest_reads
  · exact Behaves.pure trivial

theorem replay_readies (blank : Blank runId invocation.audit) :
    Readies runId (replay deployment context invocation) fun _ => True :=
  Behaves.weaken (replay_reads blank) (fun _ => Reading.preparatory) (fun _ holds => holds)
    fun _ holds => holds

theorem authorize_reads {terms : Terms} (planned : Planned terms context request invocation)
    (blank : Blank runId invocation.audit) :
    (authorize terms.deployment context invocation).Behaves Reading
      (Cleared terms.deployment context request runId) fun raised => Blank runId raised.locals.audit := by
  unfold authorize
  split
  · next asked =>
    rw [Bool.and_eq_true] at asked
    have set : isSet request.approvalId = true := by
      have named := asked.2
      rwa [planned.request] at named
    apply Behaves.bind (during_reads blank validateApprovedInvocation_reads)
    intro row holds
    refine Behaves.pure ⟨planned.resolved, fun _ => ⟨set, holds.2⟩, planned.request,
      planned.arguments, planned.valid, planned.authorized, ?_, blank.step ..⟩
    rintro other same
    cases same
    exact holds.1
  · next unasked =>
    dsimp only
    split
    · exact Behaves.raise (blank.step ..)
    · next decided =>
      refine Behaves.pure ⟨planned.resolved, ?_, planned.request, planned.arguments,
        planned.valid, planned.authorized, by simp [planned.unused], blank.step ..⟩
      intro required
      -- policy never allows outright what needs an approval
      have notAllowed : (evaluate context invocation.capability).decision ≠ .allow :=
        evaluate_ask required
      have granted := planned.granted
      rw [planned.decision] at decided granted
      revert notAllowed decided granted
      cases (evaluate context invocation.capability).decision <;> simp

theorem authorize_readies {terms : Terms} (planned : Planned terms context request invocation)
    (blank : Blank runId invocation.audit) :
    Readies runId (authorize terms.deployment context invocation)
      (Cleared terms.deployment context request runId) :=
  Behaves.weaken (authorize_reads planned blank) (fun _ => Reading.preparatory)
    (fun _ holds => holds) fun _ holds => holds

theorem reserve_readies (blank : Blank runId invocation.audit) :
    Readies runId (reserve caller context invocation) fun _ =>
      invocation.capability.mutating = true → clean invocation.request.requestId ≠ "" ∧
        ∃ key, idempotencyKey caller.deployment context (clean invocation.request.requestId) =
          .ok key := by
  unfold reserve
  split
  · next mutating =>
    apply during_readies blank
    exact Behaves.weaken reserveRequest_prepares (fun _ holds => holds)
      (fun _ identified _ => identified) fun _ holds => holds
  · next reading => exact Behaves.pure fun mutating => absurd mutating reading

theorem understand_readies (blank : Blank runId audit) :
    Readies runId (Fallible.ofExcept (understand deployment context request audit)) fun result =>
      resolveCapability deployment context request = .ok result.1 ∧
      (strip request.goal ≠ "" ∨ isSet request.capabilityId = true) ∧ Blank runId result.2 :=
  Behaves.ofExcept
    (fun _ understood => ⟨understand_resolved understood, understand_ok blank understood⟩)
    fun _ failed => understand_error blank failed

theorem plan_readies {terms : Terms} {runId : String} {capability : CapabilitySpec}
    {minimumContext : Fields} {audit : RuntimeAuditBuffer} (blank : Blank runId audit)
    (resolved : resolveCapability terms.deployment context request = .ok capability) :
    Readies runId (Fallible.ofExcept (plan context request capability minimumContext audit))
      fun invocation => Planned terms context request invocation ∧ Blank runId invocation.audit := by
  have blanks := @plan_blank context request runId capability minimumContext audit blank
  apply Behaves.ofExcept
  · intro invocation planned
    rw [planned] at blanks
    exact ⟨plan_planned resolved planned, blanks⟩
  · intro raised failed
    rw [failed] at blanks
    exact blanks

end Operly.Kernel
