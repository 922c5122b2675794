import Operly.Kernel.ClaimHistory
import Operly.Python.Exceptions

/-! What ends the `try` block of `execute` when the claim of a mutation is left running. -/

namespace Operly.Kernel
open Python Security Concurrent Fallible

def workspaceMissing (steps : Steps) : Bool :=
  steps.any fun
    | ⟨.tenant _, (answer : Option TenantRow)⟩ => answer.isNone
    | _ => false

def providerAnswer (steps : Steps) :
    Option (ProviderCall × Except KernelError CapabilityExecutionResult) :=
  steps.findSome? fun
    | ⟨.provider call _, (answer : Except KernelError CapabilityExecutionResult)⟩ => some (call, answer)
    | _ => none

def completionAnswer (steps : Steps) : Option Flushed :=
  steps.findSome? fun
    | ⟨.commit changes, (flushed : Flushed)⟩ =>
        if changes.runs.any (·.status = .completed) then some flushed else none
    | _ => none

def FailureRecorded (steps : Steps) : Prop :=
  ∃ changes, ⟨.commit changes, Flushed.committed⟩ ∈ steps ∧ ∃ run ∈ changes.runs, run.status = .failed

/-- A call that finds its claim running is stopped by a stage before the replay, or there. -/
def heldError (caller : Caller) (context : ExecutionContext) (request : RuntimeRequest)
    (row : KernelRequestClaim) (steps : Steps) : Option KernelError :=
  match understand caller.deployment context request { runId := caller.runId } with
  | .error raised => some raised.error
  | .ok (capability, audit) =>
      if workspaceMissing steps then some (.lookup "Workspace is unavailable")
      else
        -- the minimum context does not decide whether planning succeeds
        match plan context request capability [] audit with
        | .error raised => some raised.error
        | .ok invocation =>
            match validateExisting caller.deployment row
                (requestHash caller.deployment invocation.request) with
            | .error error => some error
            | .ok _ => none

/-- A call that has taken its claim is stopped by a missing provider, by what the provider raises,
by a result that its schema rejects, or by the transaction that completes it. -/
def takenError (steps : Steps) : Option KernelError :=
  match providerAnswer steps with
  | none => some (.lookup "Capability provider is unavailable")
  | some (_, .error error) => some error
  | some (call, .ok value) =>
      match validateSchema (.obj value.value) call.capability.outputSchema with
      | .error error => some error
      | .ok _ =>
          match (completionAnswer steps).map Flushed.outcome with
          | some (.error error) => some error
          | _ => none

/-- The exception that ends the `try` block of a call that leaves its claim running. -/
def interruption (caller : Caller) (context : ExecutionContext) (request : RuntimeRequest)
    (before : Option KernelRequestClaim) (steps : Steps) : Option KernelError :=
  match before.filter (·.status = .running) with
  | some row => heldError caller context request row steps
  | none => takenError steps

/-! ### The stages of a call, with the row of its claim -/

variable {deployment : Deployment} {context : ExecutionContext} {request : RuntimeRequest}
  {caller : Caller} {key : String} {before after : Option KernelRequestClaim} {steps : Steps}

theorem loadMinimumContext_trace {result : Except KernelError Fields}
    (run : Program.Trace (loadMinimumContext context).run steps result) :
    (workspaceMissing steps = false ∧ ∃ minimumContext, result = .ok minimumContext) ∨
      workspaceMissing steps = true ∧ result = .error (.lookup "Workspace is unavailable") := by
  unfold loadMinimumContext at run
  dsimp only at run
  split at run
  · cases run with
    | request workspace rest =>
      cases workspace with
      | none =>
        obtain ⟨rfl, rfl⟩ := trace_raise.mp rest
        exact .inr ⟨rfl, rfl⟩
      | some row =>
        obtain ⟨rfl, rfl⟩ := trace_pure.mp rest
        exact .inl ⟨rfl, _, rfl⟩
  · split at run
    · obtain ⟨rfl, rfl⟩ := trace_pure.mp run
      exact .inl ⟨rfl, _, rfl⟩
    · obtain ⟨rfl, rfl⟩ := trace_pure.mp run
      exact .inl ⟨rfl, _, rfl⟩

theorem plan_context {capability : CapabilitySpec} {minimumContext : Fields}
    {audit : RuntimeAuditBuffer} : plan context request capability minimumContext audit =
      (plan context request capability [] audit).map ({ · with minimumContext }) := by
  unfold plan
  dsimp only
  cases validateSchema (.obj request.arguments) capability.inputSchema with
  | error error => rfl
  | ok done =>
    simp only [Except.mapError, bind, Except.bind, pure, Except.pure]
    split
    · rfl
    · split
      · rfl
      · rfl

theorem findCompletedRequest_history {result : Except KernelError (Option RuntimeResponse)}
    (keyed : idempotencyKey deployment context (clean request.requestId) = .ok key)
    (stable : clean request.requestId ≠ "")
    (run : Program.Trace (findCompletedRequest deployment context request).run steps result)
    (history : ClaimHistory key before steps after) :
    steps = [⟨.claimByKey key, before⟩] ∧ result = match before with
      | none => .ok none
      | some claim => validateExisting deployment claim (requestHash deployment request) := by
  unfold findCompletedRequest at run
  dsimp only at run
  rw [if_neg stable, keyed] at run
  rcases trace_bind.mp run with ⟨early, late, _, rfl, named, rest⟩ | ⟨error, -, named⟩
  · obtain ⟨rfl, same⟩ := trace_ofExcept.mp named
    cases same
    cases rest with
    | request existing rest =>
      obtain ⟨rfl, history⟩ := history.read
      cases existing with
      | none =>
        obtain ⟨rfl, rfl⟩ := trace_pure.mp rest
        exact ⟨rfl, rfl⟩
      | some claim =>
        obtain ⟨rfl, rfl⟩ := trace_ofExcept.mp rest
        exact ⟨rfl, rfl⟩
  · obtain ⟨-, same⟩ := trace_ofExcept.mp named
    cases same

variable {row : KernelRequestClaim} {runId code message : String} {invocation : Invocation} {late : Steps}
  {locals : Locals} {error : KernelError} {changes : Changes} {raised : Raised} {statusCode : Nat}
  {approvalId : Option String}

theorem validateExisting_running {hash : String} (held : row.status = .running) :
    ∃ error, validateExisting deployment row hash = .error error ∧
      codeOf error = some (if row.argumentsHash = hash then "request_in_progress"
        else "idempotency_conflict") := by
  unfold validateExisting
  by_cases same : row.argumentsHash = hash
  · exact ⟨.idempotencyInProgress "An identical request is already executing", by simp [same, held],
      by simp [codeOf, handlerOf, same]⟩
  · exact ⟨_, if_pos same, by simp [codeOf, handlerOf, same]⟩

theorem validateExisting_hash {hash : String} {replay : Option RuntimeResponse}
    (valid : validateExisting deployment row hash = .ok replay) : row.argumentsHash = hash := by
  by_contra different
  simp [validateExisting, different] at valid

theorem ClaimWrite.rowAfter_hash {write : ClaimWrite} {hash : String}
    (inserts : ∀ row, write = .insert row → row.argumentsHash = hash)
    (bound : ∀ row ∈ before, row.argumentsHash = hash) :
    ∀ row ∈ write.rowAfter key before, row.argumentsHash = hash := by
  intro row present
  cases write with
  | insert inserted =>
    simp only [ClaimWrite.rowAfter] at present
    split at present
    · cases present
      exact inserts row rfl
    · exact bound row present
  | running other runId =>
    simp only [ClaimWrite.rowAfter] at present
    split at present
    · obtain ⟨old, found, rfl⟩ := Option.map_eq_some_iff.mp present
      exact bound old found
    · exact bound row present
  | completed other runId capabilityId responseJson =>
    simp only [ClaimWrite.rowAfter] at present
    split at present
    · obtain ⟨old, found, rfl⟩ := Option.map_eq_some_iff.mp present
      exact bound old found
    · exact bound row present

theorem reserveRequest_history {reservation : IdempotencyReservation}
    (keyed : idempotencyKey deployment context (clean request.requestId) = .ok key)
    (run : Program.Trace (reserveRequest deployment context request runId).run steps (.ok reservation))
    (fresh : reservation.replay = none) (history : ClaimHistory key before steps after) :
    ∀ row ∈ after, row.argumentsHash = requestHash deployment request := by
  unfold reserveRequest at run
  dsimp only at run
  split at run
  · obtain ⟨-, same⟩ := trace_raise.mp run
    cases same
  rw [keyed] at run
  rcases trace_bind.mp run with ⟨early, late, _, rfl, named, rest⟩ | ⟨error, same, -⟩
  · obtain ⟨rfl, same⟩ := trace_ofExcept.mp named
    cases same
    cases rest with
    | request existing rest =>
      obtain ⟨rfl, history⟩ := history.read
      cases existing with
      | some claim =>
        rcases trace_bind.mp rest with ⟨early, late, replay, rfl, read, rest⟩ | ⟨error, same, -⟩
        · obtain ⟨rfl, valid⟩ := trace_ofExcept.mp read
          have bound := validateExisting_hash valid.symm
          cases replay with
          | some response =>
            obtain ⟨-, same⟩ := trace_pure.mp rest
            cases same
            cases fresh
          | none =>
            rcases trace_bind.mp rest with ⟨early, late, _, rfl, written, ended⟩ | ⟨error, same, -⟩
            · obtain ⟨flushed, rfl, same⟩ := commit_trace written
              obtain ⟨rfl, -⟩ := trace_pure.mp ended
              cases flushed with
              | committed =>
                have ended := ClaimHistory.nil_iff.mp (ClaimHistory.commit_iff.mp history)
                rw [ended]
                exact ClaimWrite.rowAfter_hash (by simp) (by simpa using bound)
              | integrityError | failed => cases same
            · cases same
        · cases same
      | none =>
        rcases Behaves.trace_bind approvalToClaim_reads rest with
          ⟨error, same, -, -⟩ | ⟨early, late, write, rfl, within, -, rest⟩
        · cases same
        · obtain ⟨middle, first, history⟩ := ClaimHistory.append_iff.mp history
          obtain rfl := first.reading within
          cases rest with
          | request flushed rest =>
            cases flushed with
            | committed =>
              obtain ⟨rfl, -⟩ := trace_pure.mp rest
              have ended := ClaimHistory.nil_iff.mp (ClaimHistory.commit_iff.mp history)
              rw [ended]
              refine ClaimWrite.rowAfter_hash ?_ (by simp)
              rintro row ⟨rfl⟩
              rfl
            | integrityError =>
              obtain ⟨-, replayed⟩ := afterLostRace_trace rest
              simp [fresh] at replayed
            | failed error =>
              obtain ⟨-, same⟩ := trace_raise.mp rest
              cases same
  · cases same

/-! ### A call that finds its claim running -/

variable {capability : CapabilitySpec}

theorem plan_request {minimumContext : Fields} {audit : RuntimeAuditBuffer}
    (planned : plan context request capability minimumContext audit = .ok invocation) :
    invocation.capability = capability ∧ invocation.request = executionRequest request capability := by
  unfold plan at planned
  dsimp only at planned
  cases valid : validateSchema (.obj request.arguments) capability.inputSchema with
  | error error => simp [valid, Except.mapError, bind, Except.bind] at planned
  | ok done =>
    simp only [valid, Except.mapError, bind, Except.bind, pure, Except.pure] at planned
    split at planned
    · cases planned
    · split at planned
      · cases planned
      · cases planned
        exact ⟨rfl, rfl⟩

theorem perform_held {outcome : Except Raised RuntimeResponse} (mutates : invocation.capability.mutating = true)
    (keyed : idempotencyKey caller.deployment context (clean invocation.request.requestId) = .ok key)
    (stable : clean invocation.request.requestId ≠ "") (held : row.status = .running)
    (run : Program.Trace (perform caller context invocation).run steps outcome)
    (history : ClaimHistory key (some row) steps after) :
    workspaceMissing steps = false ∧ after = some row ∧ ∃ raised, outcome = .error raised ∧
      validateExisting caller.deployment row (requestHash caller.deployment invocation.request) =
        .error raised.error := by
  obtain ⟨error, refused, -⟩ := @validateExisting_running caller.deployment row
    (requestHash caller.deployment invocation.request) held
  unfold perform replay at run
  rw [if_pos mutates] at run
  rcases trace_bind.mp run with ⟨early, late, replayed, rfl, called, rest⟩ | ⟨raised, rfl, called⟩
  · obtain ⟨first, traced, same⟩ := trace_mapError.mp called
    obtain ⟨middle, history, -⟩ := ClaimHistory.append_iff.mp history
    obtain ⟨-, rfl⟩ := findCompletedRequest_history keyed stable traced history
    simp [refused, Except.mapError] at same
  · obtain ⟨first, traced, same⟩ := trace_mapError.mp called
    obtain ⟨rfl, rfl⟩ := findCompletedRequest_history keyed stable traced history
    simp only [refused, Except.mapError, Except.error.injEq] at same
    exact ⟨rfl, history.reading (by simp [Reading]), raised, rfl, by rw [refused, same]⟩

theorem workspaceMissing_append {early : Steps} :
    workspaceMissing (early ++ late) = (workspaceMissing early || workspaceMissing late) :=
  List.any_append

theorem loadMinimumContext_history {next : Fields → Body RuntimeResponse} {outcome : Except Raised RuntimeResponse}
    (run : Program.Trace (during locals (loadMinimumContext context) >>= next).run steps outcome)
    (history : ClaimHistory key before steps after) :
    (∃ early late minimumContext, steps = early ++ late ∧ workspaceMissing early = false ∧
      (∀ step ∈ early, Reading step.1) ∧ Program.Trace (next minimumContext).run late outcome ∧
      ClaimHistory key before late after) ∨
    workspaceMissing steps = true ∧ (∀ step ∈ steps, Reading step.1) ∧
      outcome = .error ⟨locals, .lookup "Workspace is unavailable"⟩ := by
  have reads := Behaves.run_iff.mp (@loadMinimumContext_reads context)
  rcases trace_bind.mp run with
    ⟨early, late, minimumContext, rfl, loaded, rest⟩ | ⟨raised, rfl, loaded⟩
  · obtain ⟨result, traced, same⟩ := trace_mapError.mp loaded
    have within := (Program.Behaves.trace reads traced).1
    obtain ⟨middle, first, second⟩ := ClaimHistory.append_iff.mp history
    obtain rfl := first.reading within
    obtain ⟨present, -⟩ | ⟨-, rfl⟩ := loadMinimumContext_trace traced
    · exact .inl ⟨early, late, minimumContext, rfl, present, within, rest, second⟩
    · cases same
  · obtain ⟨result, traced, same⟩ := trace_mapError.mp loaded
    obtain ⟨-, value, rfl⟩ | ⟨missing, rfl⟩ := loadMinimumContext_trace traced
    · cases same
    · cases same
      exact .inr ⟨missing, (Program.Behaves.trace reads traced).1, rfl⟩

theorem executeBody_held {outcome : Except Raised RuntimeResponse}
    (resolved : resolveCapability caller.deployment context request = .ok capability)
    (mutates : capability.mutating = true)
    (keyed : idempotencyKey caller.deployment context (clean request.requestId) = .ok key)
    (stable : clean request.requestId ≠ "") (held : row.status = .running)
    (run : Program.Trace (executeBody caller context request).run steps outcome)
    (history : ClaimHistory key (some row) steps after) :
    after = some row ∧
      ∃ raised, outcome = .error raised ∧ heldError caller context request row steps = some raised.error := by
  unfold executeBody at run
  rcases trace_bind_ofExcept.mp run with
    ⟨⟨found, audit⟩, understood, rest⟩ | ⟨raised, failed, rfl, rfl⟩
  · obtain rfl : found = capability := by
      have resolves := understand_resolved understood
      rw [resolved] at resolves
      cases resolves
      rfl
    obtain ⟨early, late, minimumContext, rfl, present, -, rest, remaining⟩ | ⟨missing, within, rfl⟩ :=
      loadMinimumContext_history rest history
    · rcases trace_bind_ofExcept.mp rest with ⟨invocation, planned, rest⟩ | ⟨raised, failed, rfl, rfl⟩
      · obtain ⟨same, asked⟩ := plan_request planned
        obtain ⟨absent, kept, raised, rfl, refused⟩ := perform_held (by rwa [same]) (by rwa [asked])
          (by rwa [asked]) held rest remaining
        rw [plan_context, map_eq_ok] at planned
        obtain ⟨base, based, rfl⟩ := planned
        exact ⟨kept, raised, rfl, by simp [heldError, understood, workspaceMissing_append, present,
          absent, based, refused]⟩
      · rw [plan_context, map_eq_error] at failed
        exact ⟨ClaimHistory.nil_iff.mp remaining, raised, rfl,
          by simp [heldError, understood, present, failed]⟩
    · exact ⟨history.reading within, _, rfl, by simp [heldError, understood, missing]⟩
  · exact ⟨ClaimHistory.nil_iff.mp history, raised, rfl, by simp [heldError, failed]⟩

/-! ### A call that takes its claim -/

theorem ClaimHistory.bind_reads {α β ε : Type} {code : Fallible kernelDb ε α} {next : α → Fallible kernelDb ε β}
    {returns : α → Prop} {raises : ε → Prop} {outcome : Except ε β} (history : ClaimHistory key before steps after)
    (reads : code.Behaves Reading returns raises) (run : Program.Trace (code >>= next).run steps outcome) :
    (after = before ∧ ∃ error, outcome = .error error) ∨ ∃ late value, returns value ∧
      Program.Trace (next value).run late outcome ∧ ClaimHistory key before late after := by
  rcases Behaves.trace_bind reads run with
    ⟨error, rfl, -, within⟩ | ⟨early, late, value, rfl, within, holds, rest⟩
  · exact .inl ⟨history.reading within, error, rfl⟩
  · obtain ⟨middle, first, second⟩ := ClaimHistory.append_iff.mp history
    obtain rfl := first.reading within
    exact .inr ⟨late, value, holds, rest, second⟩

theorem CalledTrace.hash {outcome : Except Raised RuntimeResponse} {hash : String}
    (trace : CalledTrace deployment context invocation steps outcome) (history : ClaimHistory key before steps after)
    (bound : ∀ row ∈ before, row.argumentsHash = hash) : ∀ row ∈ after, row.argumentsHash = hash := by
  cases trace with
  | missing => rwa [ClaimHistory.nil_iff.mp history]
  | raised error =>
    cases history with
    | cons sees rest => rwa [ClaimHistory.nil_iff.mp rest]
  | invalid value locals error =>
    cases history with
    | cons sees rest => rwa [ClaimHistory.nil_iff.mp rest]
  | finished value flushed =>
    cases history with
    | cons sees rest =>
      cases flushed with
      | committed =>
        rw [ClaimHistory.nil_iff.mp (ClaimHistory.commit_iff.mp rest)]
        split
        · next write written =>
          obtain ⟨claim, -, completes⟩ := Option.map_eq_some_iff.mp written
          subst completes
          exact ClaimWrite.rowAfter_hash (by simp) bound
        · exact bound
      | integrityError | failed =>
        have same := rest.uncommitted (by simp [Uncommitted])
        rw [same]
        exact bound

theorem reserve_hash {outcome : Except Raised RuntimeResponse} (mutates : invocation.capability.mutating = true)
    (keyed : idempotencyKey caller.deployment context (clean invocation.request.requestId) = .ok key)
    (cleared : Cleared caller.deployment context request caller.runId invocation) (run : Program.Trace (do
      let reservation ← reserve caller context invocation
      match reservation.replay with
      | some response => pure response
      | none =>
          let invocation := { invocation with claim := reservation.claim }
          let result ← callProvider caller.deployment context invocation
          complete context invocation result : Body RuntimeResponse).run steps outcome)
    (history : ClaimHistory key before steps after) :
    after = before ∨
      ∀ row ∈ after, row.argumentsHash = requestHash caller.deployment invocation.request := by
  unfold reserve at run
  rw [if_pos mutates] at run
  rcases trace_bind.mp run with ⟨early, late, reservation, rfl, called, rest⟩ | ⟨raised, rfl, called⟩
  · obtain ⟨result, traced, same⟩ := trace_mapError.mp called
    cases result with
    | error error => cases same
    | ok value =>
      cases same
      obtain ⟨middle, first, second⟩ := ClaimHistory.append_iff.mp history
      cases replayed : reservation.replay with
      | some response =>
        rw [replayed] at rest
        obtain ⟨rfl, -⟩ := trace_pure.mp rest
        left
        rw [ClaimHistory.nil_iff.mp second]
        generalize returned : (Except.ok reservation : Except KernelError _) = ended at traced
        cases reserveRequest_trace traced with
        | refused uncommitted => exact first.uncommitted uncommitted
        | reserved =>
          cases returned
          cases replayed
      | none =>
        rw [replayed] at rest
        have bound := reserveRequest_history keyed traced replayed first
        have claimed : Cleared caller.deployment context request caller.runId
            { invocation with claim := reservation.claim } :=
          ⟨cleared.resolved, cleared.approved, cleared.request, cleared.arguments, cleared.valid,
            cleared.authorized, cleared.used, cleared.blank⟩
        exact .inr ((callProvider_phase claimed rest).hash second bound)
  · obtain ⟨result, traced, same⟩ := trace_mapError.mp called
    cases result with
    | ok value => cases same
    | error error =>
      generalize failed : (Except.error error : Except KernelError IdempotencyReservation) = ended at traced
      cases reserveRequest_trace traced with
      | refused uncommitted => exact .inl (history.uncommitted uncommitted)
      | reserved => cases failed

theorem executeBody_hash {outcome : Except Raised RuntimeResponse}
    (resolved : resolveCapability caller.deployment context request = .ok capability)
    (mutates : capability.mutating = true)
    (keyed : idempotencyKey caller.deployment context (clean request.requestId) = .ok key)
    (run : Program.Trace (executeBody caller context request).run steps outcome)
    (history : ClaimHistory key before steps after) : after = before ∨ ∀ row ∈ after,
      row.argumentsHash = requestHash caller.deployment (executionRequest request capability) := by
  let terms : Terms := ⟨caller.deployment, True, True, fun _ => False⟩
  have blank : Blank caller.runId { runId := caller.runId } := ⟨rfl, rfl⟩
  unfold executeBody at run
  rcases trace_bind_ofExcept.mp run with ⟨⟨found, audit⟩, understood, rest⟩ | ⟨raised, -, rfl, -⟩
  · have resolves := understand_resolved understood
    have heard := (understand_ok blank understood).2
    rcases history.bind_reads (during_reads heard loadMinimumContext_reads) rest with
      ⟨same, -⟩ | ⟨late, minimumContext, -, rest, history⟩
    · exact .inl same
    · rcases trace_bind_ofExcept.mp rest with ⟨invocation, planned, performed⟩ | ⟨raised, -, rfl, -⟩
      · obtain ⟨rfl, asked⟩ := plan_request planned
        obtain rfl : invocation.capability = capability := by
          rw [resolved] at resolves
          cases resolves
          rfl
        have plans : Planned terms context request invocation := plan_planned resolves planned
        have audited := @plan_blank context request caller.runId invocation.capability minimumContext audit heard
        rw [planned] at audited
        unfold perform at performed
        rcases history.bind_reads (replay_reads audited) performed with
          ⟨same, -⟩ | ⟨late, replayed, -, rest, history⟩
        · exact .inl same
        · cases replayed with
          | some response =>
            obtain ⟨rfl, -⟩ := trace_pure.mp rest
            exact .inl (ClaimHistory.nil_iff.mp history)
          | none =>
            rcases history.bind_reads (authorize_reads plans audited) rest with
              ⟨same, -⟩ | ⟨late, cleared, holds, rest, history⟩
            · exact .inl same
            · have same : cleared.capability = invocation.capability := by
                have again := holds.resolved
                rw [resolves] at again
                exact (Except.ok.inj again).symm
              have used : cleared.request = executionRequest request invocation.capability := by
                rw [holds.request, same]
              rw [← used]
              exact reserve_hash (by rwa [same]) (by rwa [used]) holds rest history
      · exact .inl (ClaimHistory.nil_iff.mp history)
  · exact .inl (ClaimHistory.nil_iff.mp history)

/-! ### The handlers -/

def IsExecution : KernelError → Prop
  | .execution .. => True
  | _ => False

def Closing : Op → Prop
  | .rollback | .pendingApproval _ | .claimByKey _ => True
  | .commit changes => changes.runs.any (·.status = .completed) = false
  | .tenant _ | .approvalForUpdate _ _ | .provider _ _ => False

theorem scopeFilters_raises (failed : scopeFilters context = .error error) : ¬ IsExecution error := by
  unfold scopeFilters at failed
  split at failed
  · split at failed
    · cases failed
      exact id
    · cases failed
  · split at failed
    · cases failed
      exact id
    · cases failed

theorem createPendingApproval_closes {capabilityId : String} {arguments : Fields}
    {requestId conversationId : Option String} :
    (createPendingApproval caller context capabilityId arguments requestId conversationId
      runId).Behaves Closing (fun _ => True) fun error => ¬ IsExecution error := by
  unfold createPendingApproval
  dsimp only
  apply Behaves.bind_ofExcept (fun _ failed => scopeFilters_raises failed)
  intro scope _
  apply Behaves.bind_ask trivial
  intro existing
  cases existing with
  | some row => exact Behaves.pure trivial
  | none => exact Behaves.pure trivial

theorem pendingFor_closes :
    (pendingFor caller context request locals code).Behaves Closing (fun _ => True)
      fun error => ¬ IsExecution error := by
  unfold pendingFor
  split
  · split
    · apply Behaves.bind createPendingApproval_closes
      rintro ⟨approval, write⟩ _
      exact Behaves.pure trivial
    · exact Behaves.pure trivial
  · exact Behaves.pure trivial

theorem persistFailure_closes {text failure : String} (unaudited : changes.runs = []) :
    (do persistFailure context request locals changes text failure
        raise error : Session RuntimeResponse).Behaves Closing (fun _ => True) fun _ => True := by
  unfold persistFailure commit
  dsimp only
  apply Behaves.seq
  · apply Behaves.bind_ask (by simp [Closing, persistAudit, unaudited, auditRun])
    intro flushed
    exact Behaves.ofExcept (fun _ _ => trivial) fun _ _ => trivial
  · intro _
    exact Behaves.raise trivial

theorem recover_closes : (recover caller context request raised).Behaves Closing (fun _ => True) fun _ => True := by
  unfold recover
  split
  · apply Behaves.bind_ask trivial
    intro _
    apply Behaves.bind (Behaves.weaken pendingFor_closes (fun _ holds => holds)
      (fun _ holds => holds) fun _ _ => trivial)
    rintro ⟨approval, write⟩ _
    exact persistFailure_closes rfl
  · split
    · apply Behaves.bind_ask trivial
      intro _
      exact persistFailure_closes rfl
    · exact Behaves.raise trivial

theorem DatabaseExceptions.outcome {flushed : Flushed} (database : DatabaseExceptions steps)
    (answered : ⟨.commit changes, flushed⟩ ∈ steps) (failed : flushed.outcome = .error error) : ¬ IsExecution error := by
  intro execution
  cases flushed with
  | committed => cases failed
  | integrityError =>
    cases failed
    exact execution
  | failed cause =>
    cases failed
    cases error with
    | execution message code statusCode approvalId =>
      exact database changes message code statusCode approvalId answered
    | approval | idempotencyConflict | idempotencyInProgress | registry | schemaValidation | value
    | permission | lookup | runtime | other => exact execution

theorem persistFailure_execution {text failure message' code' : String} {statusCode' : Nat}
    {approvalId' : Option String} (unaudited : changes.runs = []) (run : Program.Trace (do
      persistFailure context request locals changes text failure
      raise (.execution message code statusCode approvalId) :
        Session RuntimeResponse).run steps (.error (.execution message' code' statusCode' approvalId')))
    (database : DatabaseExceptions steps) : code' = code ∧ FailureRecorded steps := by
  rcases trace_bind.mp run with ⟨early, late, _, rfl, recorded, rest⟩ | ⟨cause, same, recorded⟩
  · obtain ⟨flushed, rfl, same⟩ := commit_trace recorded
    obtain ⟨rfl, raised⟩ := trace_raise.mp rest
    cases raised
    cases flushed with
    | committed =>
      exact ⟨rfl, _, List.mem_singleton_self _, by simp [persistAudit, unaudited, auditRun]⟩
    | integrityError | failed => cases same
  · obtain ⟨flushed, rfl, failed⟩ := commit_trace recorded
    cases same
    exact absurd trivial (database.outcome List.mem_cons_self failed.symm)

theorem FailureRecorded.mono {more : Steps} (recorded : FailureRecorded steps)
    (within : steps ⊆ more) : FailureRecorded more := by
  obtain ⟨changes, present, failed⟩ := recorded
  exact ⟨changes, within present, failed⟩

theorem DatabaseExceptions.mono {more : Steps} (database : DatabaseExceptions more)
    (within : steps ⊆ more) : DatabaseExceptions steps :=
  fun changes message code statusCode approvalId present =>
    database changes message code statusCode approvalId (within present)

theorem recover_execution (run : Program.Trace (recover caller context request raised).run steps
      (.error (.execution message code statusCode approvalId))) (database : DatabaseExceptions steps) :
    codeOf raised.error = some code ∧ FailureRecorded steps := by
  unfold recover at run
  split at run
  · next same =>
    obtain ⟨late, rfl, rest⟩ := rollback_trace run
    rcases Behaves.trace_bind pendingFor_closes rest with
      ⟨error, failed, other, -⟩ | ⟨early, tail, ⟨approval, write⟩, rfl, -, -, rest⟩
    · cases failed
      exact absurd trivial other
    · have within : tail ⊆ ⟨.rollback, ()⟩ :: (early ++ tail) :=
        List.Subset.trans (List.subset_append_right _ _) (List.subset_cons_self _ _)
      obtain ⟨rfl, recorded⟩ := persistFailure_execution rfl rest (database.mono within)
      exact ⟨by rw [same]; rfl, recorded.mono within⟩
  · next error unlike =>
    split at run
    · next handler handled =>
      obtain ⟨late, rfl, rest⟩ := rollback_trace run
      have within : late ⊆ ⟨.rollback, ()⟩ :: late := List.subset_cons_self _ _
      obtain ⟨rfl, recorded⟩ := persistFailure_execution rfl rest (database.mono within)
      exact ⟨by rw [codeOf_handled unlike, handled]; rfl, recorded.mono within⟩
    · next unhandled =>
      obtain ⟨-, same⟩ := trace_raise.mp run
      rw [← Except.error.inj same] at unlike
      exact (unlike _ _ _ _ rfl).elim

/-! ### A whole call -/

theorem closing_answers (closing : ∀ step ∈ late, Closing step.1) :
    workspaceMissing late = false ∧ providerAnswer late = none ∧ completionAnswer late = none := by
  refine ⟨List.any_eq_false.mpr ?_, List.findSome?_eq_none_iff.mpr ?_, List.findSome?_eq_none_iff.mpr ?_⟩
  · rintro ⟨op, answer⟩ member
    have within := closing _ member
    cases op with
    | tenant => exact within.elim
    | claimByKey | approvalForUpdate | pendingApproval | provider | commit | rollback => simp
  · rintro ⟨op, answer⟩ member
    have within := closing _ member
    cases op with
    | provider => exact within.elim
    | tenant | claimByKey | approvalForUpdate | pendingApproval | commit | rollback => rfl
  · rintro ⟨op, answer⟩ member
    have within := closing _ member
    cases op with
    | commit changes => exact if_neg (by simpa [Closing] using within)
    | tenant | claimByKey | approvalForUpdate | pendingApproval | provider | rollback => rfl

theorem interruption_append (closing : ∀ step ∈ late, Closing step.1) :
    interruption caller context request before (steps ++ late) =
      interruption caller context request before steps := by
  obtain ⟨present, unprovided, uncompleted⟩ := closing_answers closing
  have workspace : workspaceMissing (steps ++ late) = workspaceMissing steps := by
    rw [workspaceMissing_append, present, Bool.or_false]
  have provider : providerAnswer (steps ++ late) = providerAnswer steps := by
    unfold providerAnswer at *
    rw [List.findSome?_append, unprovided, Option.or_none]
  have completion : completionAnswer (steps ++ late) = completionAnswer steps := by
    unfold completionAnswer at *
    rw [List.findSome?_append, uncompleted, Option.or_none]
  unfold interruption heldError takenError
  rw [workspace, provider, completion]

theorem Opening.answers (opening : Opening runId invocation steps) (late : Steps) :
    providerAnswer (steps ++ late) = providerAnswer late ∧
      completionAnswer (steps ++ late) = completionAnswer late := by
  have provider : providerAnswer steps = none := by
    refine List.findSome?_eq_none_iff.mpr ?_
    rintro ⟨op, answer⟩ member
    cases op with
    | provider => exact absurd member opening.unprovided
    | tenant | claimByKey | approvalForUpdate | pendingApproval | commit | rollback => rfl
  have completion : completionAnswer steps = none := by
    have reads : ∀ {reads : Steps}, (∀ step ∈ reads, Reading step.1) → completionAnswer reads = none := by
      intro reads reading
      refine List.findSome?_eq_none_iff.mpr ?_
      rintro ⟨op, answer⟩ member
      have within := reading _ member
      cases op with
      | commit => exact within.elim
      | tenant | claimByKey | approvalForUpdate | pendingApproval | provider | rollback => rfl
    cases opening with
    | reading reading => exact reads reading
    | mutating reading mutates claimed takes =>
      have early := reads reading
      unfold completionAnswer at *
      rw [List.findSome?_append, early]
      simp [takes.2.2.1]
  unfold providerAnswer completionAnswer at *
  rw [List.findSome?_append, List.findSome?_append, provider, completion]
  exact ⟨rfl, rfl⟩

theorem BlockTrace.taken (trace : BlockTrace caller context request steps (.error raised))
    (history : ClaimHistory key before steps after) (moved : after ≠ before) :
    ∃ error, takenError steps = some error ∧ codeOf error = codeOf raised.error := by
  cases trace with
  | refused uncommitted => exact absurd (history.uncommitted uncommitted) moved
  | @opened early late _ invocation cleared opening rest =>
    obtain ⟨provider, completion⟩ := opening.answers late
    unfold takenError
    rw [provider, completion]
    generalize ended : (Except.error raised : Except Raised RuntimeResponse) = outcome at rest
    cases callProvider_phase cleared rest with
    | missing locals message =>
      cases ended
      exact ⟨_, rfl, rfl⟩
    | raised error =>
      cases ended
      exact ⟨error, rfl, rfl⟩
    | invalid value locals error rejected =>
      cases ended
      exact ⟨error, by simp [providerAnswer, Invocation.call, rejected], rfl⟩
    | finished value flushed accepted =>
      obtain ⟨run, runs, -, completed, -⟩ := completion_rows context value cleared.blank
      have answered : completionAnswer [⟨.provider (invocation.call context) invocation.request, .ok value⟩,
          ⟨.commit (completionChanges context invocation value), flushed⟩] = some flushed := by
        simp [completionAnswer, runs, completed]
      cases failed : flushed.outcome with
      | ok _ =>
        rw [failed] at ended
        cases ended
      | error error =>
        rw [failed] at ended
        cases ended
        refine ⟨error, ?_, rfl⟩
        simp only [answered, Option.map_some, failed]
        simp [providerAnswer, Invocation.call, accepted]

theorem FailureRecorded.append_iff {early : Steps} :
    FailureRecorded (early ++ late) ↔ FailureRecorded early ∨ FailureRecorded late := by
  simp only [FailureRecorded, List.mem_append, or_and_right, exists_or]

theorem unrecorded_of_uncommitted (uncommitted : ∀ step ∈ steps, Uncommitted step) : ¬ FailureRecorded steps := by
  rintro ⟨changes, present, -⟩
  exact uncommitted _ present rfl

theorem unrecorded_commit {flushed : Flushed} (succeeds : ∀ run ∈ changes.runs, run.status = .completed) :
    ¬ FailureRecorded [⟨.commit changes, flushed⟩] := by
  rintro ⟨other, present, run, member, failed⟩
  cases List.mem_singleton.mp present
  rw [succeeds run member] at failed
  cases failed

theorem Opening.unrecorded (opening : Opening runId invocation steps) : ¬ FailureRecorded steps := by
  cases opening with
  | reading reading => exact unrecorded_of_uncommitted (uncommitted_of_reads reading)
  | mutating reading mutates claimed takes =>
    rw [FailureRecorded.append_iff]
    rintro (early | last)
    · exact unrecorded_of_uncommitted (uncommitted_of_reads reading) early
    · exact unrecorded_commit (by simp [takes.2.2.1]) last

theorem CalledTrace.unrecorded {outcome : Except Raised RuntimeResponse}
    (cleared : Cleared deployment context request runId invocation)
    (trace : CalledTrace deployment context invocation steps outcome) : ¬ FailureRecorded steps := by
  have provided : ∀ {call used answer}, ¬ FailureRecorded [⟨.provider call used, answer⟩] := by
    rintro call used answer ⟨changes, present, -⟩
    cases List.mem_singleton.mp present
  cases trace with
  | missing => exact unrecorded_of_uncommitted (by simp)
  | raised | invalid => exact provided
  | finished value flushed =>
    obtain ⟨run, runs, -, completed, -⟩ := completion_rows context value cleared.blank
    rw [show ∀ first second : Sigma kernelDb.Answer, [first, second] = [first] ++ [second] from
      fun _ _ => rfl, FailureRecorded.append_iff]
    rintro (early | last)
    · exact provided early
    · exact unrecorded_commit (by simp [runs, completed]) last

theorem BlockTrace.unrecorded {outcome : Except Raised RuntimeResponse}
    (trace : BlockTrace caller context request steps outcome) : ¬ FailureRecorded steps := by
  cases trace with
  | refused uncommitted => exact unrecorded_of_uncommitted uncommitted
  | opened cleared opening rest =>
    rw [FailureRecorded.append_iff]
    rintro (early | late)
    · exact opening.unrecorded early
    · exact (callProvider_phase cleared rest).unrecorded cleared late

theorem HandlerTrace.history {result : Except KernelError RuntimeResponse} (handler : HandlerTrace error steps result)
    (history : ClaimHistory key before steps after) : after = before := by
  cases handler with
  | uncaught => exact ClaimHistory.nil_iff.mp history
  | recorded reading coded unclaimed fails =>
    obtain ⟨middle, first, last⟩ := ClaimHistory.append_iff.mp history
    have opened := first.uncommitted (List.forall_mem_cons.mpr ⟨trivial, uncommitted_of_reads reading⟩)
    rw [ClaimHistory.nil_iff.mp (ClaimHistory.commit_iff.mp last), unclaimed, opened]
  | broken caught uncommitted =>
    exact history.uncommitted (List.forall_mem_cons.mpr ⟨trivial, uncommitted⟩)

theorem execute_recorded_iff {result : Except KernelError RuntimeResponse}
    (run : Program.Trace (execute caller context request).run steps result)
    (database : DatabaseExceptions steps) : FailureRecorded steps ↔
      ∃ message code statusCode approvalId, result = .error (.execution message code statusCode approvalId) := by
  constructor
  · intro recorded
    rcases execute_trace run with ⟨response, rfl, block⟩ | ⟨early, late, raised, rfl, block, handled⟩
    · exact absurd recorded (executeBody_block block).unrecorded
    · rcases FailureRecorded.append_iff.mp recorded with inside | after
      · exact absurd inside (executeBody_block block).unrecorded
      · cases recover_phase handled with
        | uncaught => exact absurd after (unrecorded_of_uncommitted (by simp))
        | recorded => exact ⟨_, _, _, _, rfl⟩
        | broken caught uncommitted =>
          exact absurd after
            (unrecorded_of_uncommitted (List.forall_mem_cons.mpr ⟨trivial, uncommitted⟩))
  · rintro ⟨message, code, statusCode, approvalId, rfl⟩
    rcases execute_trace run with ⟨response, same, -⟩ | ⟨early, late, raised, rfl, -, handled⟩
    · cases same
    · exact ((recover_execution handled (database.mono (List.subset_append_right _ _))).2).mono
        (List.subset_append_right _ _)

def boundHash (deployment : Deployment) (request : RuntimeRequest) (capability : CapabilitySpec)
    (before : Option KernelRequestClaim) : String :=
  match before.filter (·.status = .running) with
  | some row => row.argumentsHash
  | none => requestHash deployment (executionRequest request capability)

theorem execute_interrupted (resolved : resolveCapability caller.deployment context request = .ok capability)
    (mutates : capability.mutating = true)
    (keyed : idempotencyKey caller.deployment context (clean request.requestId) = .ok key)
    (stable : clean request.requestId ≠ "") (run : Program.Trace (execute caller context request).run steps
      (.error (.execution message code statusCode approvalId))) (database : DatabaseExceptions steps)
    (history : ClaimHistory key before steps after) (left : after = some row) (running : row.status = .running) :
    (∃ error, interruption caller context request before steps = some error ∧ codeOf error = some code) ∧
      row.argumentsHash = boundHash caller.deployment request capability before := by
  rcases execute_trace run with ⟨response, same, -⟩ | ⟨early, late, raised, rfl, block, handled⟩
  · cases same
  obtain ⟨coded, -⟩ := recover_execution handled (database.mono (List.subset_append_right _ _))
  have closing := (Program.Behaves.trace (Behaves.run_iff.mp recover_closes) handled).1
  obtain ⟨middle, inside, outside⟩ := ClaimHistory.append_iff.mp history
  obtain rfl := (recover_phase handled).history outside
  rw [interruption_append closing]
  cases held : before.filter (·.status = .running) with
  | some found =>
    obtain ⟨rfl, status⟩ := Option.filter_eq_some_iff.mp held
    obtain ⟨kept, other, same, stopped⟩ := executeBody_held resolved mutates keyed stable
      (of_decide_eq_true status) block inside
    cases same
    rw [left, Option.some.injEq] at kept
    exact ⟨⟨raised.error, by simp only [interruption, held, stopped], coded⟩,
      by simp only [boundHash, held, kept]⟩
  | none =>
    have moved : after ≠ before := by
      rintro rfl
      simp [left, running] at held
    obtain ⟨error, stopped, same⟩ := (executeBody_block block).taken inside moved
    refine ⟨⟨error, by simp [interruption, held, stopped], by rw [same, coded]⟩, ?_⟩
    rcases executeBody_hash resolved mutates keyed block inside with unmoved | bound
    · exact absurd unmoved moved
    · rw [bound row left]
      simp [boundHash, held]

end Operly.Kernel
