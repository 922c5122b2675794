import Operly.Kernel.Atomicity

/-! The phases of one call of `execute`: what it requests up to its reservation, the provider,
and what follows. -/

namespace Operly.Kernel
open Python Security Concurrent Fallible

variable {deployment : Deployment} {context : ExecutionContext} {request : RuntimeRequest}

def Uncommitted : Sigma kernelDb.Answer → Prop
  | ⟨.provider _ _, _⟩ => False
  | ⟨.commit _, (flushed : Flushed)⟩ => flushed ≠ .committed
  | _ => True

theorem Reading.uncommitted {step : Sigma kernelDb.Answer} (reading : Reading step.1) : Uncommitted step := by
  obtain ⟨op, answer⟩ := step
  cases op with
  | provider => exact reading.elim
  | commit => exact reading.elim
  | tenant | claimByKey | approvalForUpdate | pendingApproval | rollback => trivial

variable {steps : Steps} {hash runId : String} {result : Except Raised RuntimeResponse} {invocation : Invocation}
  {error : KernelError} {call : ProviderCall} {used : RuntimeRequest}
  {answer : Except KernelError CapabilityExecutionResult}

theorem uncommitted_of_reads (reads : ∀ step ∈ steps, Reading step.1) :
    ∀ step ∈ steps, Uncommitted step := fun step member => (reads step member).uncommitted

theorem uncommitted_append {early late : Steps} (first : ∀ step ∈ early, Uncommitted step)
    (second : ∀ step ∈ late, Uncommitted step) : ∀ step ∈ early ++ late, Uncommitted step :=
  List.forall_mem_append.mpr ⟨first, second⟩

/-! ### The reservation -/

/-- The transaction that reserves a request: a new claim, or an earlier one that is neither
running nor completed. -/
def TakesClaim (claim : KernelRequestClaim) (runId : String) (changes : Changes) : Prop :=
  claim.status = .running ∧ claim.runId = some runId ∧ changes.runs = [] ∧
    (changes.claim = some (.insert claim) ∨ changes.claim = some (.running claim.idempotencyKey runId))

/-- How a reservation ends: in its transaction, or without one and with nothing to execute. -/
inductive ReservationTrace (runId : String) : Steps → Except KernelError IdempotencyReservation → Prop
  | refused {steps : Steps} {result : Except KernelError IdempotencyReservation}
      (uncommitted : ∀ step ∈ steps, Uncommitted step)
      (replayed : ∀ reservation, result = .ok reservation → reservation.replay.isSome = true) :
      ReservationTrace runId steps result
  | reserved {reads : Steps} {changes : Changes} {claim : KernelRequestClaim}
      (reading : ∀ step ∈ reads, Reading step.1) (takes : TakesClaim claim runId changes) :
      ReservationTrace runId (reads ++ [⟨.commit changes, Flushed.committed⟩]) (.ok { claim := some claim })

theorem ReservationTrace.prepend {runId : String} {early late : Steps}
    {result : Except KernelError IdempotencyReservation} (reading : ∀ step ∈ early, Reading step.1)
    (trace : ReservationTrace runId late result) : ReservationTrace runId (early ++ late) result := by
  cases trace with
  | refused uncommitted replayed =>
    exact .refused (uncommitted_append (uncommitted_of_reads reading) uncommitted) replayed
  | reserved within takes =>
    rw [← List.append_assoc]
    exact .reserved (List.forall_mem_append.mpr ⟨reading, within⟩) takes

theorem afterLostRace_trace {key : String} {result : Except KernelError IdempotencyReservation}
    (run : Program.Trace (afterLostRace deployment key hash).run steps result) :
    (∀ step ∈ steps, Uncommitted step) ∧
      ∀ reservation, result = .ok reservation → reservation.replay.isSome = true := by
  have behaves : (afterLostRace deployment key hash).Behaves
      (fun op => Reading op ∨ op = Op.rollback) (fun reservation => reservation.replay.isSome = true)
      fun _ => True := by
    unfold afterLostRace
    apply Behaves.bind_ask (.inr rfl)
    intro _
    apply Behaves.bind_ask (.inl trivial)
    intro existing
    cases existing with
    | none => exact Behaves.raise trivial
    | some claim =>
      apply Behaves.bind_ofExcept (fun _ _ => trivial)
      intro replay _
      cases replay with
      | none => exact Behaves.raise trivial
      | some response => exact Behaves.pure rfl
  obtain ⟨within, ended⟩ := Program.Behaves.trace (Behaves.run_iff.mp behaves) run
  constructor
  · rintro ⟨op, answer⟩ member
    rcases within _ member with reading | rolledBack
    · exact reading.uncommitted
    · dsimp only at rolledBack
      subst rolledBack
      trivial
  · intro reservation same
    subst same
    exact ended

theorem reuseClaim_trace {claim : KernelRequestClaim} {result : Except KernelError IdempotencyReservation}
    (run : Program.Trace (do
      let replay ← Fallible.ofExcept (validateExisting deployment claim hash)
      match replay with
      | some response => pure { claim := some claim, replay := some response }
      | none =>
          commit { claim := some (.running claim.idempotencyKey runId) }
          pure { claim := some { claim with
            status := .running, runId := some runId, responseJson := .obj [] } } :
        Session IdempotencyReservation).run steps result) : ReservationTrace runId steps result := by
  rcases trace_bind.mp run with ⟨early, late, replay, rfl, read, rest⟩ | ⟨error, rfl, read⟩
  · obtain ⟨rfl, -⟩ := trace_ofExcept.mp read
    cases replay with
    | some response =>
      obtain ⟨rfl, rfl⟩ := trace_pure.mp rest
      refine .refused (by simp) ?_
      rintro reservation same
      cases same
      rfl
    | none =>
      rcases trace_bind.mp rest with ⟨early, late, _, rfl, written, ended⟩ | ⟨error, rfl, written⟩
      · obtain ⟨flushed, rfl, same⟩ := commit_trace written
        obtain ⟨rfl, rfl⟩ := trace_pure.mp ended
        cases flushed with
        | committed => exact @ReservationTrace.reserved _ [] _ _ (by simp) ⟨rfl, rfl, rfl, .inr rfl⟩
        | integrityError | failed => cases same
      · obtain ⟨flushed, rfl, same⟩ := commit_trace written
        cases flushed with
        | committed => cases same
        | integrityError | failed => exact .refused (by simp [Uncommitted]) (by simp)
  · obtain ⟨rfl, -⟩ := trace_ofExcept.mp read
    exact .refused (by simp) (by simp)

theorem insertClaim_trace {key requestId : String} {result : Except KernelError IdempotencyReservation}
    (run : Program.Trace (do
      let approval ← approvalToClaim deployment context request requestId
      let claim := newClaim deployment context request key requestId runId
      let flushed ← query (.commit { claim := some (.insert claim), approval })
      match flushed with
      | .committed => pure { claim := some claim }
      | .integrityError => afterLostRace deployment key hash
      | .failed error => raise error : Session IdempotencyReservation).run steps result) :
    ReservationTrace runId steps result := by
  rcases Behaves.trace_bind approvalToClaim_reads run with
    ⟨error, rfl, -, within⟩ | ⟨early, late, write, rfl, within, -, rest⟩
  · exact .refused (uncommitted_of_reads within) (by simp)
  · apply ReservationTrace.prepend within
    cases rest with
    | request flushed rest =>
      cases flushed with
      | committed =>
        obtain ⟨rfl, rfl⟩ := trace_pure.mp rest
        exact @ReservationTrace.reserved _ [] _ _ (by simp) ⟨rfl, rfl, rfl, .inl rfl⟩
      | integrityError =>
        obtain ⟨uncommitted, replayed⟩ := afterLostRace_trace rest
        exact .refused (List.forall_mem_cons.mpr ⟨by simp [Uncommitted], uncommitted⟩) replayed
      | failed error =>
        obtain ⟨rfl, rfl⟩ := trace_raise.mp rest
        exact .refused (by simp [Uncommitted]) (by simp)

theorem reserveRequest_trace {result : Except KernelError IdempotencyReservation}
    (run : Program.Trace (reserveRequest deployment context request runId).run steps result) :
    ReservationTrace runId steps result := by
  have silent : ∀ {result : Except KernelError IdempotencyReservation},
      (∀ reservation, result = .ok reservation → reservation.replay.isSome = true) →
      ReservationTrace runId [] result := fun replayed => .refused (by simp) replayed
  unfold reserveRequest at run
  dsimp only at run
  split at run
  · obtain ⟨rfl, rfl⟩ := trace_raise.mp run
    exact silent (by simp)
  rcases trace_bind.mp run with ⟨early, late, key, rfl, named, rest⟩ | ⟨error, rfl, named⟩
  · obtain ⟨rfl, -⟩ := trace_ofExcept.mp named
    cases rest with
    | request existing rest =>
      rename_i late
      apply @ReservationTrace.prepend _ [⟨.claimByKey key, existing⟩] late _ (by simp [Reading])
      cases existing with
      | some claim => exact reuseClaim_trace rest
      | none => exact insertClaim_trace rest
  · obtain ⟨rfl, -⟩ := trace_ofExcept.mp named
    exact silent (by simp)

/-! ### The `try` block -/

inductive Opening (runId : String) (invocation : Invocation) : Steps → Prop
  | reading {reads : Steps} (reading : ∀ step ∈ reads, Reading step.1)
      (harmless : invocation.capability.mutating = false) (unclaimed : invocation.claim = none) :
      Opening runId invocation reads
  | mutating {reads : Steps} {changes : Changes} {claim : KernelRequestClaim}
      (reading : ∀ step ∈ reads, Reading step.1) (mutates : invocation.capability.mutating = true)
      (claimed : invocation.claim = some claim) (takes : TakesClaim claim runId changes) :
      Opening runId invocation (reads ++ [⟨.commit changes, Flushed.committed⟩])

theorem Opening.prepend {runId : String} {invocation : Invocation} {early late : Steps}
    (reading : ∀ step ∈ early, Reading step.1) (opening : Opening runId invocation late) :
    Opening runId invocation (early ++ late) := by
  cases opening with
  | reading within harmless unclaimed =>
    exact .reading (List.forall_mem_append.mpr ⟨reading, within⟩) harmless unclaimed
  | mutating within mutates claimed takes =>
    rw [← List.append_assoc]
    exact .mutating (List.forall_mem_append.mpr ⟨reading, within⟩) mutates claimed takes

/-- The `try` block either stops short of the provider with nothing committed, or opens the call
and goes on to the provider. -/
inductive BlockTrace (caller : Caller) (context : ExecutionContext) (request : RuntimeRequest) :
    Steps → Except Raised RuntimeResponse → Prop
  | refused {steps : Steps} {result : Except Raised RuntimeResponse}
      (uncommitted : ∀ step ∈ steps, Uncommitted step) : BlockTrace caller context request steps result
  | opened {early late : Steps} {result : Except Raised RuntimeResponse} {invocation : Invocation}
      (cleared : Cleared caller.deployment context request caller.runId invocation)
      (opening : Opening caller.runId invocation early)
      (rest : Program.Trace (callProvider caller.deployment context invocation >>=
        complete context invocation).run late result) :
      BlockTrace caller context request (early ++ late) result

variable {caller : Caller}

theorem BlockTrace.prepend {early late : Steps} {result : Except Raised RuntimeResponse}
    (reading : ∀ step ∈ early, Reading step.1) (trace : BlockTrace caller context request late result) :
    BlockTrace caller context request (early ++ late) result := by
  cases trace with
  | refused uncommitted => exact .refused (uncommitted_append (uncommitted_of_reads reading) uncommitted)
  | opened cleared opening rest =>
    rw [← List.append_assoc]
    exact .opened cleared (opening.prepend reading) rest

theorem block_of_reads {α : Type} {code : Body α} {returns : α → Prop} {next : α → Body RuntimeResponse}
    {raises : Raised → Prop} (reads : code.Behaves Reading returns raises)
    (run : Program.Trace (code >>= next).run steps result)
    (rest : ∀ value late, returns value → Program.Trace (next value).run late result →
      BlockTrace caller context request late result) : BlockTrace caller context request steps result := by
  rcases Behaves.trace_bind reads run with
    ⟨raised, rfl, -, within⟩ | ⟨early, late, value, rfl, within, holds, tail⟩
  · exact .refused (uncommitted_of_reads within)
  · exact .prepend within (rest value late holds tail)

theorem blockTrace_pure {response : RuntimeResponse}
    (run : Program.Trace (pure response : Body RuntimeResponse).run steps result) :
    BlockTrace caller context request steps result := by
  obtain ⟨rfl, -⟩ := trace_pure.mp run
  exact .refused (by simp)

theorem ofExcept_reads {α : Type} {outcome : Except Raised α} {requests : Op → Prop} {returns : α → Prop}
    {raises : Raised → Prop} (behaves : (Fallible.ofExcept outcome : Body α).Behaves requests returns raises) :
    (Fallible.ofExcept outcome : Body α).Behaves Reading returns raises := by
  have held := (Program.Behaves.trace (Behaves.run_iff.mp behaves)
    (trace_ofExcept.mpr ⟨rfl, rfl⟩)).2
  cases outcome with
  | ok value => exact Behaves.pure held
  | error raised => exact Behaves.raise held

theorem reserve_block (cleared : Cleared caller.deployment context request caller.runId invocation)
    (run : Program.Trace (do
      let reservation ← reserve caller context invocation
      match reservation.replay with
      | some response => pure response
      | none =>
          let invocation := { invocation with claim := reservation.claim }
          let result ← callProvider caller.deployment context invocation
          complete context invocation result : Body RuntimeResponse).run steps result) :
    BlockTrace caller context request steps result := by
  have claimed : ∀ claim, Cleared caller.deployment context request caller.runId { invocation with claim } :=
    fun _ => ⟨cleared.resolved, cleared.approved, cleared.request, cleared.arguments, cleared.valid,
      cleared.authorized, cleared.used, cleared.blank⟩
  unfold reserve at run
  split at run
  · next mutates =>
    rcases trace_bind.mp run with ⟨early, late, reservation, rfl, called, rest⟩ | ⟨raised, rfl, called⟩
    · obtain ⟨outcome, traced, same⟩ := trace_mapError.mp called
      cases outcome with
      | error error => cases same
      | ok value =>
        cases same
        generalize returned : (Except.ok reservation : Except KernelError _) = ended at traced
        cases reserveRequest_trace traced with
        | refused uncommitted replayed =>
          obtain ⟨response, replay⟩ := Option.isSome_iff_exists.mp (replayed reservation returned.symm)
          rw [replay] at rest
          obtain ⟨rfl, -⟩ := trace_pure.mp rest
          rw [List.append_nil]
          exact .refused uncommitted
        | @reserved reads changes claim reading takes =>
          cases returned
          exact .opened (claimed (some claim)) (.mutating reading mutates rfl takes) rest
    · obtain ⟨outcome, traced, same⟩ := trace_mapError.mp called
      cases outcome with
      | ok value => cases same
      | error error =>
        generalize failed : (Except.error error : Except KernelError IdempotencyReservation) = ended
          at traced
        cases reserveRequest_trace traced with
        | refused uncommitted => exact .refused uncommitted
        | reserved => cases failed
  · next harmless =>
    exact @BlockTrace.opened _ _ _ [] _ _ _ (claimed none)
      (.reading (by simp) (by simpa using harmless) rfl) run

theorem perform_block {terms : Terms} {pid : Nat} (planned : Planned terms context request invocation)
    (blank : Blank (Caller.runId ⟨terms.deployment, pid⟩) invocation.audit)
    (run : Program.Trace (perform ⟨terms.deployment, pid⟩ context invocation).run steps result) :
    BlockTrace ⟨terms.deployment, pid⟩ context request steps result := by
  unfold perform at run
  apply block_of_reads (replay_reads blank) run
  intro replayed late _ run
  cases replayed with
  | some response => exact blockTrace_pure run
  | none =>
    apply block_of_reads (authorize_reads planned blank) run
    intro cleared late holds run
    exact reserve_block holds run

theorem executeBody_block (run : Program.Trace (executeBody caller context request).run steps result) :
    BlockTrace caller context request steps result := by
  let terms : Terms := ⟨caller.deployment, True, True, fun _ => False⟩
  have blank : Blank caller.runId { runId := caller.runId } := ⟨rfl, rfl⟩
  unfold executeBody at run
  have understood : Reads (Fallible.ofExcept (understand caller.deployment context request
      { runId := caller.runId }) : Body _) fun result =>
      resolveCapability caller.deployment context request = .ok result.1 ∧ Blank caller.runId result.2 :=
    Behaves.ofExcept
      (fun _ understood => ⟨understand_resolved understood, (understand_ok blank understood).2⟩)
      fun _ _ => trivial
  apply block_of_reads understood run
  rintro ⟨capability, audit⟩ late ⟨resolved, blank⟩ run
  apply block_of_reads (during_reads blank loadMinimumContext_reads) run
  intro minimumContext late _ run
  have plans := @plan_readies context request terms _ _ minimumContext _ blank resolved
  apply block_of_reads (ofExcept_reads plans) run
  rintro invocation late ⟨planned, blank⟩ run
  exact perform_block planned blank run

inductive CalledTrace (deployment : Deployment) (context : ExecutionContext) (invocation : Invocation) :
    Steps → Except Raised RuntimeResponse → Prop
  | missing (locals : Locals) (message : String) :
      CalledTrace deployment context invocation [] (.error ⟨locals, .lookup message⟩)
  | raised (error : KernelError) :
      CalledTrace deployment context invocation
        [⟨.provider (invocation.call context) invocation.request, .error error⟩]
        (.error ⟨invocation.locals, error⟩)
  | invalid (value : CapabilityExecutionResult) (locals : Locals) (error : KernelError)
      (rejected : validateSchema (.obj value.value) invocation.capability.outputSchema = .error error) :
      CalledTrace deployment context invocation
        [⟨.provider (invocation.call context) invocation.request, .ok value⟩] (.error ⟨locals, error⟩)
  | finished (value : CapabilityExecutionResult) (flushed : Flushed)
      (accepted : validateSchema (.obj value.value) invocation.capability.outputSchema = .ok ()) :
      CalledTrace deployment context invocation
        [⟨.provider (invocation.call context) invocation.request, .ok value⟩,
          ⟨.commit (completionChanges context invocation value), flushed⟩]
        (match flushed.outcome with
          | .ok _ => .ok (responseOf invocation (finishedAudit invocation value) value)
          | .error error => .error
              ⟨{ invocation.locals with audit := finishedAudit invocation value }, error⟩)

theorem callProvider_phase (cleared : Cleared deployment context request runId invocation)
    (run : Program.Trace (callProvider deployment context invocation >>=
      complete context invocation).run steps result) : CalledTrace deployment context invocation steps result := by
  unfold callProvider at run
  dsimp only at run
  split at run
  · obtain ⟨rfl, rfl⟩ := trace_raise.mp run
    exact .missing ..
  · cases run with
    | request answer rest =>
      cases answer with
      | error error =>
        obtain ⟨rfl, rfl⟩ := trace_raise.mp rest
        exact .raised error
      | ok value =>
        have completes : Program.Trace (complete context invocation value).run _ result := rest
        cases valid : validateSchema (.obj value.value) invocation.capability.outputSchema with
        | error error =>
          rw [complete_eq cleared.used, valid] at completes
          obtain ⟨rfl, rfl⟩ := trace_raise.mp completes
          exact .invalid value _ error valid
        | ok _ =>
          rcases complete_trace cleared completes with ⟨-, -, rejected⟩ | ⟨flushed, rfl, rfl⟩
          · exact absurd valid rejected
          · exact .finished value flushed valid

/-! ### The handlers -/

def codeOf : KernelError → Option String
  | .execution _ code _ _ => some code
  | error => (handlerOf error).map (·.code)

theorem codeOf_handled (unlike : ∀ message code statusCode approvalId,
    error = .execution message code statusCode approvalId → False) : codeOf error = (handlerOf error).map (·.code) := by
  cases error with
  | execution message code statusCode approvalId => exact (unlike _ _ _ _ rfl).elim
  | approval | idempotencyConflict | idempotencyInProgress | registry | schemaValidation | value
  | permission | lookup | runtime | other => rfl

inductive HandlerTrace (error : KernelError) : Steps → Except KernelError RuntimeResponse → Prop
  | uncaught (other : codeOf error = none) : HandlerTrace error [] (.error error)
  | recorded {reads : Steps} {changes : Changes} {message code : String} {statusCode : Nat}
      {approvalId : Option String} (reading : ∀ step ∈ reads, Reading step.1)
      (coded : codeOf error = some code) (unclaimed : changes.claim = none)
      (fails : ∀ run ∈ changes.runs, run.status = .failed) :
      HandlerTrace error (⟨.rollback, ()⟩ :: reads ++ [⟨.commit changes, Flushed.committed⟩])
        (.error (.execution message code statusCode approvalId))
  | broken {rest : Steps} {cause : KernelError} (caught : codeOf error ≠ none)
      (uncommitted : ∀ step ∈ rest, Uncommitted step) :
      HandlerTrace error (⟨.rollback, ()⟩ :: rest) (.error cause)

theorem persistFailure_phase {error : KernelError} {locals : Locals} {changes : Changes} {reads steps : Steps}
    {message code text failure : String} {statusCode : Nat} {approvalId : Option String}
    {result : Except KernelError RuntimeResponse} (reading : ∀ step ∈ reads, Reading step.1)
    (coded : codeOf error = some code) (unclaimed : changes.claim = none) (unaudited : changes.runs = [])
    (run : Program.Trace (do
      persistFailure context request locals changes text failure
      raise (.execution message code statusCode approvalId) :
        Session RuntimeResponse).run steps result) :
    HandlerTrace error (⟨.rollback, ()⟩ :: reads ++ steps) result := by
  have caught : codeOf error ≠ none := by simp [coded]
  rcases trace_bind.mp run with ⟨early, late, _, rfl, recorded, rest⟩ | ⟨cause, rfl, recorded⟩
  · obtain ⟨flushed, rfl, same⟩ := commit_trace recorded
    obtain ⟨rfl, rfl⟩ := trace_raise.mp rest
    rw [List.append_nil]
    cases flushed with
    | committed =>
      refine .recorded reading coded unclaimed ?_
      simp [persistAudit, unaudited, auditRun]
    | integrityError | failed => cases same
  · obtain ⟨flushed, rfl, same⟩ := commit_trace recorded
    cases flushed with
    | committed => cases same
    | integrityError | failed =>
      refine .broken caught (uncommitted_append (uncommitted_of_reads reading) ?_)
      simp [Uncommitted]

theorem recover_phase {raised : Raised} {result : Except KernelError RuntimeResponse}
    (run : Program.Trace (recover caller context request raised).run steps result) :
    HandlerTrace raised.error steps result := by
  unfold recover at run
  split at run
  · next message code statusCode approvalId same =>
    have coded : codeOf raised.error = some code := by rw [same]; rfl
    obtain ⟨late, rfl, rest⟩ := rollback_trace run
    rcases Behaves.trace_bind pendingFor_reads rest with
      ⟨error, rfl, -, within⟩ | ⟨early, rest, ⟨approval, write⟩, rfl, within, -, tail⟩
    · exact .broken (by simp [coded]) (uncommitted_of_reads within)
    · exact persistFailure_phase within coded rfl rfl tail
  · next error unlike =>
    split at run
    · next handler handled =>
      have coded : codeOf raised.error = some handler.code := by
        rw [codeOf_handled unlike, handled]
        rfl
      obtain ⟨late, rfl, rest⟩ := rollback_trace run
      exact @persistFailure_phase _ _ _ _ _ [] _ _ _ _ _ _ _ _ (by simp) coded rfl rfl rest
    · next unhandled =>
      obtain ⟨rfl, rfl⟩ := trace_raise.mp run
      exact .uncaught (by rw [codeOf_handled unlike, unhandled]; rfl)

theorem execute_trace {result : Except KernelError RuntimeResponse}
    (run : Program.Trace (execute caller context request).run steps result) :
    (∃ response, result = .ok response ∧
      Program.Trace (executeBody caller context request).run steps (.ok response)) ∨
    ∃ early late raised, steps = early ++ late ∧
      Program.Trace (executeBody caller context request).run early (.error raised) ∧
      Program.Trace (recover caller context request raised).run late result := by
  rw [execute_run] at run
  obtain ⟨early, late, outcome, rfl, block, rest⟩ := Program.Trace.bind_iff.mp run
  cases outcome with
  | ok response =>
    obtain ⟨rfl, rfl⟩ := Program.Trace.done_iff.mp rest
    rw [List.append_nil]
    exact .inl ⟨response, rfl, block⟩
  | error raised => exact .inr ⟨early, late, raised, rfl, block, rest⟩

theorem execute_phases {result : Except KernelError RuntimeResponse}
    (run : Program.Trace (execute caller context request).run steps result) :
    (∃ response, result = .ok response ∧ BlockTrace caller context request steps (.ok response)) ∨
      ∃ early late raised, steps = early ++ late ∧
        BlockTrace caller context request early (.error raised) ∧ HandlerTrace raised.error late result := by
  rcases execute_trace run with ⟨response, same, block⟩ | ⟨early, late, raised, same, block, handled⟩
  · exact .inl ⟨response, same, executeBody_block block⟩
  · exact .inr ⟨early, late, raised, same, executeBody_block block, recover_phase handled⟩

/-! ### Calls that reach the provider -/

def CommitsRun (step : Sigma kernelDb.Answer) : Prop :=
  ∃ changes, step = ⟨.commit changes, Flushed.committed⟩ ∧ Records .completed (.commit changes)

theorem commitsRun_iff {changes : Changes} : CommitsRun ⟨.commit changes, Flushed.committed⟩ ↔
    ∃ run ∈ changes.runs, run.status = .completed := by
  constructor
  · rintro ⟨_, same, _, same', run, present, completed⟩
    cases same
    cases same'
    exact ⟨run, present, completed⟩
  · rintro ⟨run, present, completed⟩
    exact ⟨changes, rfl, changes, rfl, run, present, completed⟩

theorem Uncommitted.commitsRun {step : Sigma kernelDb.Answer} (uncommitted : Uncommitted step) :
    ¬ CommitsRun step := by
  rintro ⟨changes, rfl, -⟩
  exact uncommitted rfl

theorem Opening.commitsRun (opening : Opening runId invocation steps) : ∀ step ∈ steps, ¬ CommitsRun step := by
  cases opening with
  | reading reading => exact fun step member => (reading step member).uncommitted.commitsRun
  | mutating reading mutates claimed takes =>
    refine List.forall_mem_append.mpr
      ⟨fun step member => (reading step member).uncommitted.commitsRun, ?_⟩
    simp [commitsRun_iff, takes.2.2.1]

theorem HandlerTrace.commitsRun {result : Except KernelError RuntimeResponse}
    (handler : HandlerTrace error steps result) : ∀ step ∈ steps, ¬ CommitsRun step := by
  have rolledBack : ¬ CommitsRun ⟨.rollback, ()⟩ := Uncommitted.commitsRun trivial
  cases handler with
  | uncaught => simp
  | recorded reading coded unclaimed fails =>
    have silent := fun step member => (reading step member).uncommitted.commitsRun
    refine List.forall_mem_append.mpr ⟨List.forall_mem_cons.mpr ⟨rolledBack, silent⟩, ?_⟩
    simp only [List.mem_singleton, forall_eq, commitsRun_iff, not_exists, not_and]
    intro run present completed
    rw [fails run present] at completed
    cases completed
  | broken caught uncommitted =>
    exact List.forall_mem_cons.mpr ⟨rolledBack, fun step member => (uncommitted step member).commitsRun⟩

inductive Aftermath : Steps → Except KernelError RuntimeResponse → Prop
  | completed {changes : Changes} {response : RuntimeResponse}
      (completes : CommitsRun ⟨.commit changes, Flushed.committed⟩) :
      Aftermath [⟨.commit changes, Flushed.committed⟩] (.ok response)
  | uncommitted {changes : Changes} {flushed : Flushed} {error : KernelError} {rest : Steps}
      {result : Except KernelError RuntimeResponse} (failed : flushed ≠ .committed)
      (handler : HandlerTrace error rest result) : Aftermath (⟨.commit changes, flushed⟩ :: rest) result
  | failed {error : KernelError} {rest : Steps} {result : Except KernelError RuntimeResponse}
      (handler : HandlerTrace error rest result) : Aftermath rest result

theorem HandlerTrace.unprovided {result : Except KernelError RuntimeResponse}
    (handler : HandlerTrace error steps result) : ⟨.provider call used, answer⟩ ∉ steps := by
  intro member
  cases handler with
  | uncaught => cases member
  | recorded reading =>
    rcases List.mem_append.mp member with early | last
    · rcases List.mem_cons.mp early with same | read
      · cases same
      · exact reading _ read
    · cases List.mem_singleton.mp last
  | broken caught uncommitted =>
    rcases List.mem_cons.mp member with same | later
    · cases same
    · exact uncommitted _ later

theorem Opening.unprovided (opening : Opening runId invocation steps) : ⟨.provider call used, answer⟩ ∉ steps := by
  intro member
  cases opening with
  | reading reading => exact reading _ member
  | mutating reading =>
    rcases List.mem_append.mp member with early | last
    · exact reading _ early
    · cases List.mem_singleton.mp last

inductive BlockEnd : Steps → Except Raised RuntimeResponse → Prop
  | stopped (raised : Raised) : BlockEnd [] (.error raised)
  | completed {changes : Changes} (response : RuntimeResponse)
      (completes : CommitsRun ⟨.commit changes, Flushed.committed⟩) :
      BlockEnd [⟨.commit changes, Flushed.committed⟩] (.ok response)
  | uncommitted {changes : Changes} {flushed : Flushed} (raised : Raised) (failed : flushed ≠ .committed) :
      BlockEnd [⟨.commit changes, flushed⟩] (.error raised)

theorem CalledTrace.cut {outcome : Except Raised RuntimeResponse}
    (cleared : Cleared deployment context request runId invocation)
    (trace : CalledTrace deployment context invocation steps outcome) (member : ⟨.provider call used, answer⟩ ∈ steps) :
    call = invocation.call context ∧
      ∃ rest, steps = ⟨.provider call used, answer⟩ :: rest ∧ BlockEnd rest outcome := by
  cases trace with
  | missing => cases member
  | raised error =>
    cases List.mem_singleton.mp member
    exact ⟨rfl, [], rfl, .stopped _⟩
  | invalid value locals error =>
    cases List.mem_singleton.mp member
    exact ⟨rfl, [], rfl, .stopped _⟩
  | finished value flushed =>
    rcases List.mem_cons.mp member with same | last
    · cases same
      refine ⟨rfl, _, rfl, ?_⟩
      cases flushed with
      | committed =>
        obtain ⟨run, runs, -, completed, -⟩ := completion_rows context value cleared.blank
        exact .completed _ (commitsRun_iff.mpr ⟨run, by simp [runs], completed⟩)
      | integrityError => exact .uncommitted _ (by simp)
      | failed error => exact .uncommitted _ (by simp)
    · cases List.mem_singleton.mp last

theorem execute_called {result : Except KernelError RuntimeResponse}
    (run : Program.Trace (execute caller context request).run steps result)
    (member : ⟨.provider call used, answer⟩ ∈ steps) :
    ∃ invocation early rest, steps = early ++ ⟨.provider call used, answer⟩ :: rest ∧
      Cleared caller.deployment context request caller.runId invocation ∧
      call = invocation.call context ∧ Opening caller.runId invocation early ∧ Aftermath rest result := by
  have block : ∀ {steps outcome}, BlockTrace caller context request steps outcome →
      ⟨.provider call used, answer⟩ ∈ steps → ∃ invocation early rest,
        steps = early ++ ⟨.provider call used, answer⟩ :: rest ∧
        Cleared caller.deployment context request caller.runId invocation ∧
        call = invocation.call context ∧ Opening caller.runId invocation early ∧ BlockEnd rest outcome := by
    intro steps outcome trace member
    cases trace with
    | refused uncommitted => exact (uncommitted _ member).elim
    | @opened early late _ invocation cleared opening rest =>
      rcases List.mem_append.mp member with first | second
      · exact absurd first opening.unprovided
      · obtain ⟨same, after, rfl, ended⟩ := (callProvider_phase cleared rest).cut cleared second
        exact ⟨invocation, early, after, rfl, cleared, same, opening, ended⟩
  rcases execute_phases run with ⟨response, rfl, trace⟩ | ⟨early, late, raised, rfl, trace, handler⟩
  · obtain ⟨invocation, early, rest, rfl, cleared, same, opening, ended⟩ := block trace member
    cases ended with
    | completed _ completes =>
      exact ⟨invocation, early, _, rfl, cleared, same, opening, .completed completes⟩
  · rcases List.mem_append.mp member with first | second
    · obtain ⟨invocation, early, rest, rfl, cleared, same, opening, ended⟩ := block trace first
      refine ⟨invocation, early, rest ++ late, by simp, cleared, same, opening, ?_⟩
      cases ended with
      | stopped => exact .failed handler
      | uncommitted _ failed => exact .uncommitted failed handler
    · exact absurd second handler.unprovided

end Operly.Kernel
