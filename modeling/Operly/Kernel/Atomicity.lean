import Operly.Kernel.Guarantees
import Operly.Kernel.Requests

/-! The audit rows that one call of `execute` persists: its run and its events together. -/

namespace Operly.Kernel
open Python Security Concurrent Fallible

variable {deployment : Deployment} {context : ExecutionContext} {request : RuntimeRequest}

abbrev Steps := List (Sigma kernelDb.Answer)

def auditRows : Sigma kernelDb.Answer → List KernelRun × List KernelEventRecord
  | ⟨.commit changes, (flushed : Flushed)⟩ =>
      if flushed = .committed then (changes.runs, changes.events) else ([], [])
  | _ => ([], [])

def persistedRuns (steps : Steps) : List KernelRun := steps.flatMap fun step => (auditRows step).1

def persistedEvents (steps : Steps) : List KernelEventRecord :=
  steps.flatMap fun step => (auditRows step).2

variable {state : KernelState} {pid : Nat} {steps early : Steps} {changes : Changes}
  {result : Except Raised RuntimeResponse} {runId : String} {invocation : Invocation} {raised : Raised}

theorem writeApproval_audit {write : Option ApprovalWrite} :
    (state.writeApproval pid write).runs = state.runs ∧
      (state.writeApproval pid write).events = state.events := by
  unfold KernelState.writeApproval
  split
  · exact ⟨rfl, rfl⟩
  · exact ⟨rfl, rfl⟩
  · split
    · exact ⟨rfl, rfl⟩
    · dsimp only
      split <;> exact ⟨rfl, rfl⟩

theorem writeClaim_audit {write : Option ClaimWrite} :
    (state.writeClaim pid write).runs = state.runs ∧
      (state.writeClaim pid write).events = state.events := by
  unfold KernelState.writeClaim
  split
  · exact ⟨rfl, rfl⟩
  · exact ⟨rfl, rfl⟩
  · split <;> exact ⟨rfl, rfl⟩
  · split <;> exact ⟨rfl, rfl⟩

theorem serve_auditRows {op : kernelDb.Op} {choice : Choice} {after : KernelState} {answer : kernelDb.Answer op}
    (performed : serve deployment pid op choice state = some (answer, after)) :
    after.runs = state.runs ++ (auditRows ⟨op, answer⟩).1 ∧
      after.events = state.events ++ (auditRows ⟨op, answer⟩).2 := by
  have same : after.runs = state.runs → after.events = state.events →
      auditRows ⟨op, answer⟩ = ([], []) → after.runs = state.runs ++ (auditRows ⟨op, answer⟩).1 ∧
        after.events = state.events ++ (auditRows ⟨op, answer⟩).2 := by
    intro runs events none
    simp [runs, events, none]
  cases op with
  | commit changes =>
    rcases serve_commit performed with ⟨failed, rfl⟩ | ⟨-, -, rfl, rfl⟩
    · exact same rfl rfl (if_neg failed)
    · have runs : (state.commit pid changes).runs =
          ((state.writeApproval pid changes.approval).writeClaim pid changes.claim).runs ++
            changes.runs := rfl
      have events : (state.commit pid changes).events =
          ((state.writeApproval pid changes.approval).writeClaim pid changes.claim).events ++
            changes.events := rfl
      rw [runs, events, writeClaim_audit.1, writeClaim_audit.2, writeApproval_audit.1,
        writeApproval_audit.2]
      exact ⟨rfl, rfl⟩
  | tenant =>
    cases choice <;> cases performed
    exact same rfl rfl rfl
  | provider =>
    cases choice with
    | provider outcome commits =>
      cases performed
      cases commits <;> exact same rfl rfl rfl
    | default | tenant | failed => cases performed
  | claimByKey | pendingApproval | rollback =>
    cases performed
    exact same rfl rfl rfl
  | approvalForUpdate =>
    simp only [serve] at performed
    split at performed
    · cases performed
      exact same rfl rfl rfl
    · split at performed
      · cases performed
        exact same rfl rfl rfl
      · split at performed
        · cases performed
        · cases performed
          exact same rfl rfl rfl

def successEvents (capability : CapabilitySpec) : List String :=
  if capability.emits.isEmpty then ["capability.executed"] else capability.emits

theorem successEvents_ne_nil (capability : CapabilitySpec) : successEvents capability ≠ [] := by
  unfold successEvents
  split
  · simp
  · next emits => simpa using emits

/-- Nothing is persisted; or one completed run of this id with exactly the success events of its
capability; or one failed run of this id with exactly one `runtime.failed` event. -/
def AtomicAudit (deployment : Deployment) (context : ExecutionContext) (request : RuntimeRequest)
    (runId : String) (steps : Steps) : Prop :=
  (persistedRuns steps = [] ∧ persistedEvents steps = []) ∨
    ∃ run, persistedRuns steps = [run] ∧ run.id = runId ∧
      ((run.status = .completed ∧ ∃ capability,
          resolveCapability deployment context request = .ok capability ∧
          (persistedEvents steps).map (·.eventType) = successEvents capability) ∨
        (run.status = .failed ∧
          (persistedEvents steps).map (·.eventType) = ["runtime.failed"]))

def caught : KernelError → Bool
  | .other _ => false
  | _ => true

def Records (status : RunStatus) (op : Op) : Prop :=
  ∃ changes, op = .commit changes ∧ ∃ run ∈ changes.runs, run.status = status

/-- The transaction that would complete the run raises an exception that a handler catches, and
the transaction that then records the failure is committed. -/
def FailsLate (steps : Steps) : Prop :=
  (∃ changes error, ⟨.commit changes, Flushed.failed error⟩ ∈ steps ∧ caught error = true ∧
      Records .completed (.commit changes)) ∧
    ∃ changes, ⟨.commit changes, Flushed.committed⟩ ∈ steps ∧ Records .failed (.commit changes)

def Unaudited : Op → Prop
  | .commit changes => changes.runs = [] ∧ changes.events = []
  | _ => True

theorem Preparatory.unaudited {op : Op} (prepares : Preparatory op) : Unaudited op := by
  cases op with
  | commit => exact prepares
  | provider => exact prepares.elim
  | tenant | claimByKey | approvalForUpdate | pendingApproval | rollback => trivial

theorem Unaudited.records {status : RunStatus} {op : Op} (unaudited : Unaudited op) : ¬ Records status op := by
  rintro ⟨changes, rfl, run, present, -⟩
  rw [unaudited.1] at present
  cases present

theorem auditRows_unaudited {step : Sigma kernelDb.Answer} (unaudited : Unaudited step.1) :
    auditRows step = ([], []) := by
  obtain ⟨op, answer⟩ := step
  cases op with
  | commit changes =>
    obtain ⟨runs, events⟩ := unaudited
    simp only [auditRows, runs, events, ite_self]
  | tenant | claimByKey | approvalForUpdate | pendingApproval | provider | rollback => rfl

theorem persisted_unaudited (unaudited : ∀ step ∈ steps, Unaudited step.1) :
    persistedRuns steps = [] ∧ persistedEvents steps = [] := by
  simp only [persistedRuns, persistedEvents, List.flatMap_eq_nil_iff]
  constructor
  · intro step member
    rw [auditRows_unaudited (unaudited step member)]
  · intro step member
    rw [auditRows_unaudited (unaudited step member)]

theorem persisted_append (early late : Steps) :
    persistedRuns (early ++ late) = persistedRuns early ++ persistedRuns late ∧
      persistedEvents (early ++ late) = persistedEvents early ++ persistedEvents late := by
  simp [persistedRuns, persistedEvents]

theorem persisted_commit (unaudited : ∀ step ∈ early, Unaudited step.1) (changes : Changes) (flushed : Flushed) :
    persistedRuns (early ++ [⟨.commit changes, flushed⟩]) =
        (if flushed = .committed then changes.runs else []) ∧
      persistedEvents (early ++ [⟨.commit changes, flushed⟩]) =
        (if flushed = .committed then changes.events else []) := by
  obtain ⟨runs, events⟩ := persisted_append early [⟨.commit changes, flushed⟩]
  obtain ⟨noRuns, noEvents⟩ := persisted_unaudited unaudited
  rw [runs, events, noRuns, noEvents]
  by_cases committed : flushed = .committed <;>
    simp [persistedRuns, persistedEvents, auditRows, committed]

/-! ### The traces of a call -/

theorem commit_trace {result : Except KernelError Unit} (run : Program.Trace (commit changes).run steps result) :
    ∃ flushed : Flushed, steps = [⟨.commit changes, flushed⟩] ∧ result = flushed.outcome := by
  unfold commit at run
  rcases trace_bind.mp run with ⟨early, late, flushed, rfl, asked, rest⟩ | ⟨error, -, asked⟩
  · obtain ⟨answer, rfl, same⟩ := trace_ask.mp asked
    cases same
    obtain ⟨rfl, rfl⟩ := trace_ofExcept.mp rest
    exact ⟨flushed, rfl, rfl⟩
  · obtain ⟨answer, -, same⟩ := trace_ask.mp asked
    cases same

def successPayload (runId : String) (capability : CapabilitySpec) (eventPayload : Fields) : Fields :=
  Fields.merge [("run_id", .str runId), ("capability_id", .str capability.id)] eventPayload

theorem completionEvents_eq (audit : RuntimeAuditBuffer) (capability : CapabilitySpec)
    (result : CapabilityExecutionResult) :
    completionEvents audit capability result = { audit with
      events := audit.events ++ (successEvents capability).map fun eventType =>
        (eventType, successPayload audit.runId capability result.eventPayload) } := by
  have folded : ∀ (types : List String) (audit : RuntimeAuditBuffer),
      types.foldl (fun audit eventType => audit.event eventType
        (Fields.merge [("run_id", .str audit.runId), ("capability_id", .str capability.id)]
          result.eventPayload)) audit =
        { audit with events := audit.events ++ types.map fun eventType =>
            (eventType, successPayload audit.runId capability result.eventPayload) } := by
    intro types
    induction types with
    | nil => simp
    | cons eventType rest ih =>
      intro audit
      rw [List.foldl_cons, ih]
      simp [RuntimeAuditBuffer.event, successPayload]
  exact folded _ _

def finishedAudit (invocation : Invocation) (result : CapabilityExecutionResult) : RuntimeAuditBuffer :=
  ((completionEvents (((invocation.audit.step 9 .execute "ok").step 10 .validate "ok").step 11
    .recordTrace "ok") invocation.capability result).step 12 .emitEvents "ok").step 13 .respond "done"

theorem finishedAudit_eq (result : CapabilityExecutionResult) (blank : Blank runId invocation.audit) :
    (finishedAudit invocation result).runId = runId ∧
      (finishedAudit invocation result).events = (successEvents invocation.capability).map
        fun eventType => (eventType, successPayload runId invocation.capability result.eventPayload) := by
  simp [finishedAudit, completionEvents_eq, RuntimeAuditBuffer.step, blank.events, blank.runId]

def completedOutcome (invocation : Invocation) (result : CapabilityExecutionResult) : Outcome where
  capabilityId := some invocation.capability.id
  status := .completed
  result := some result.value
  resourceType := result.resourceType
  resourceId := result.resourceId

def completionChanges (context : ExecutionContext) (invocation : Invocation)
    (result : CapabilityExecutionResult) : Changes :=
  let audit := finishedAudit invocation result
  persistAudit (completion context invocation (responseOf invocation audit result) audit.runId) audit
    context (completedOutcome invocation result)

theorem complete_eq {result : CapabilityExecutionResult}
    (used : ∀ row, invocation.usedApproval = some row → row.status = .approved) :
    complete context invocation result =
      match validateSchema (.obj result.value) invocation.capability.outputSchema with
      | .error error => raise ⟨{ invocation.locals with
          audit := invocation.audit.step 9 .execute "ok" }, error⟩
      | .ok _ => (do
          during { invocation.locals with audit := finishedAudit invocation result }
            (commit (completionChanges context invocation result))
          pure (responseOf invocation (finishedAudit invocation result) result)) := by
  have consumes : ∀ runId, consumeApproval invocation.usedApproval context invocation.request runId =
      .ok (invocation.usedApproval.map fun row => .consumed row.id runId context invocation.request) := by
    intro runId
    cases same : invocation.usedApproval with
    | none => rfl
    | some row => simp [consumeApproval, used row same]
  unfold complete
  dsimp only
  cases validateSchema (.obj result.value) invocation.capability.outputSchema with
  | error error => rfl
  | ok _ =>
    rw [consumes]
    rfl

/-- What the `try` block requests and how it ends: without an audit row, a blank buffer if it
raises, and no valid result of a provider; or, with one, in the transaction that completes the
run. -/
inductive BodyTrace (deployment : Deployment) (context : ExecutionContext) (request : RuntimeRequest)
    (runId : String) : Steps → Except Raised RuntimeResponse → Prop
  | early {steps : Steps} {result : Except Raised RuntimeResponse}
      (unaudited : ∀ step ∈ steps, Unaudited step.1)
      (blank : ∀ raised, result = .error raised → Blank runId raised.locals.audit)
      (invalid : ∀ call used value, ⟨.provider call used, .ok value⟩ ∈ steps →
        validateSchema (.obj value.value) call.capability.outputSchema ≠ .ok ()) :
      BodyTrace deployment context request runId steps result
  | late {steps : Steps} {invocation : Invocation} {value : CapabilityExecutionResult}
      {flushed : Flushed} (unaudited : ∀ step ∈ steps, Unaudited step.1)
      (cleared : Cleared deployment context request runId invocation)
      (called : ∀ call used other, ⟨.provider call used, .ok other⟩ ∈ steps → other = value) :
      BodyTrace deployment context request runId
        (steps ++ [⟨.commit (completionChanges context invocation value), flushed⟩])
        (match flushed.outcome with
          | .ok _ => .ok (responseOf invocation (finishedAudit invocation value) value)
          | .error error => .error
              ⟨{ invocation.locals with audit := finishedAudit invocation value }, error⟩)

theorem BodyTrace.prepend {runId : String} {early late : Steps} {result : Except Raised RuntimeResponse}
    (prepares : ∀ step ∈ early, Preparatory step.1) (trace : BodyTrace deployment context request runId late result) :
    BodyTrace deployment context request runId (early ++ late) result := by
  have joined : ∀ {rest : Steps}, (∀ step ∈ rest, Unaudited step.1) →
      ∀ step ∈ early ++ rest, Unaudited step.1 := by
    intro rest within step member
    rcases List.mem_append.mp member with first | second
    · exact (prepares step first).unaudited
    · exact within step second
  have later : ∀ {rest : Steps} {call : ProviderCall} {used : RuntimeRequest}
      {answer : Except KernelError CapabilityExecutionResult},
      ⟨.provider call used, answer⟩ ∈ early ++ rest → ⟨.provider call used, answer⟩ ∈ rest := by
    intro rest call used answer member
    rcases List.mem_append.mp member with first | second
    · exact (prepares _ first).elim
    · exact second
  cases trace with
  | early within blank invalid =>
    exact .early (joined within) blank fun call used value member => invalid call used value (later member)
  | late within cleared called =>
    rw [← List.append_assoc]
    exact .late (joined within) cleared fun call used other member => called call used other (later member)

theorem complete_trace {value : CapabilityExecutionResult}
    (cleared : Cleared deployment context request runId invocation)
    (run : Program.Trace (complete context invocation value).run steps result) :
    (steps = [] ∧ (∀ raised, result = .error raised → Blank runId raised.locals.audit) ∧
        validateSchema (.obj value.value) invocation.capability.outputSchema ≠ .ok ()) ∨
      ∃ flushed : Flushed, steps = [⟨.commit (completionChanges context invocation value), flushed⟩] ∧
        result = match flushed.outcome with
          | .ok _ => .ok (responseOf invocation (finishedAudit invocation value) value)
          | .error error => .error
              ⟨{ invocation.locals with audit := finishedAudit invocation value }, error⟩ := by
  rw [complete_eq cleared.used] at run
  cases valid : validateSchema (.obj value.value) invocation.capability.outputSchema with
  | error error =>
    rw [valid] at run
    obtain ⟨rfl, rfl⟩ := trace_raise.mp run
    refine .inl ⟨rfl, ?_, by simp⟩
    rintro raised same
    cases same
    exact cleared.blank.step ..
  | ok _ =>
    rw [valid] at run
    right
    rcases trace_bind.mp run with ⟨early, late, _, rfl, written, rest⟩ | ⟨raised, rfl, written⟩
    · obtain ⟨outcome, committed, same⟩ := trace_mapError.mp written
      obtain ⟨flushed, rfl, rfl⟩ := commit_trace committed
      obtain ⟨rfl, rfl⟩ := trace_pure.mp rest
      refine ⟨flushed, by simp, ?_⟩
      cases flushed with
      | committed => rfl
      | integrityError | failed => cases same
    · obtain ⟨outcome, committed, same⟩ := trace_mapError.mp written
      obtain ⟨flushed, rfl, rfl⟩ := commit_trace committed
      refine ⟨flushed, rfl, ?_⟩
      cases flushed with
      | committed => cases same
      | integrityError | failed =>
        cases same
        rfl

theorem Readies.trace {α : Type} {code : Body α} {returns : α → Prop} {next : α → Body RuntimeResponse}
    (readies : Readies runId code returns) (run : Program.Trace (code >>= next).run steps result)
    (rest : ∀ value late, returns value → Program.Trace (next value).run late result →
      BodyTrace deployment context request runId late result) :
    BodyTrace deployment context request runId steps result := by
  rcases Behaves.trace_bind readies run with
    ⟨raised, rfl, blank, within⟩ | ⟨early, late, value, rfl, within, holds, tail⟩
  · refine .early (fun step member => (within step member).unaudited) ?_ ?_
    · rintro other same
      cases same
      exact blank
    · exact fun call used value member => (within _ member).elim
  · exact .prepend within (rest value late holds tail)

theorem bodyTrace_pure {response : RuntimeResponse}
    (run : Program.Trace (pure response : Body RuntimeResponse).run steps result) :
    BodyTrace deployment context request runId steps result := by
  obtain ⟨rfl, rfl⟩ := trace_pure.mp run
  exact .early (by simp) (by simp) (by simp)

theorem callProvider_trace (cleared : Cleared deployment context request runId invocation)
    (run : Program.Trace (callProvider deployment context invocation >>=
      complete context invocation).run steps result) : BodyTrace deployment context request runId steps result := by
  -- without a valid result nothing is recorded
  have failed : ∀ {steps : Steps} {raised : Raised}, (∀ step ∈ steps, Unaudited step.1) →
      Blank runId raised.locals.audit → (∀ call used value, ⟨.provider call used, .ok value⟩ ∈ steps →
        validateSchema (.obj value.value) call.capability.outputSchema ≠ .ok ()) →
      BodyTrace deployment context request runId steps (.error raised) := by
    intro steps raised unaudited blank invalid
    refine .early unaudited ?_ invalid
    rintro other same
    cases same
    exact blank
  unfold callProvider at run
  dsimp only at run
  split at run
  · obtain ⟨rfl, rfl⟩ := trace_raise.mp run
    exact failed (by simp) cleared.blank (by simp)
  · cases run with
    | request answer rest =>
      cases answer with
      | error error =>
        obtain ⟨rfl, rfl⟩ := trace_raise.mp rest
        refine failed (by simp [Unaudited]) cleared.blank ?_
        intro call used value member
        rw [List.mem_singleton] at member
        cases member
      | ok value =>
        rcases complete_trace cleared rest with ⟨rfl, blank, invalid⟩ | ⟨flushed, rfl, rfl⟩
        · refine .early (by simp [Unaudited]) blank ?_
          intro call used other member
          rw [List.mem_singleton] at member
          cases member
          exact invalid
        · apply @BodyTrace.late _ _ _ _ [_] _ _ _ (by simp [Unaudited]) cleared
          intro call used other member
          rw [List.mem_singleton] at member
          cases member
          rfl

theorem perform_trace {terms : Terms} (planned : Planned terms context request invocation)
    (blank : Blank runId invocation.audit)
    (run : Program.Trace (perform ⟨terms.deployment, pid⟩ context invocation).run steps result) :
    BodyTrace terms.deployment context request runId steps result := by
  unfold perform at run
  apply Readies.trace (replay_readies blank) run
  intro replayed late _ run
  cases replayed with
  | some response => exact bodyTrace_pure run
  | none =>
    apply Readies.trace (authorize_readies planned blank) run
    intro cleared late holds run
    apply Readies.trace (reserve_readies holds.blank) run
    rintro ⟨claim, replayed⟩ late _ run
    cases replayed with
    | some response => exact bodyTrace_pure run
    | none =>
      have claimed : Cleared terms.deployment context request runId { cleared with claim } :=
        ⟨holds.resolved, holds.approved, holds.request, holds.arguments, holds.valid,
          holds.authorized, holds.used, holds.blank⟩
      exact callProvider_trace claimed run

theorem executeBody_trace {caller : Caller}
    (run : Program.Trace (executeBody caller context request).run steps result) :
    BodyTrace caller.deployment context request caller.runId steps result := by
  let terms : Terms := ⟨caller.deployment, True, True, fun _ => False⟩
  have blank : Blank caller.runId { runId := caller.runId } := ⟨rfl, rfl⟩
  unfold executeBody at run
  apply Readies.trace (understand_readies blank) run
  rintro ⟨capability, audit⟩ late ⟨resolved, -, blank⟩ run
  apply Readies.trace (during_readies blank loadMinimumContext_reads.prepares) run
  intro minimumContext late _ run
  have plans := @plan_readies context request terms _ _ minimumContext _ blank resolved
  apply Readies.trace plans run
  rintro invocation late ⟨planned, blank⟩ run
  exact perform_trace planned blank run

/-! ### The handlers -/

def failedOutcome (request : RuntimeRequest) (locals : Locals) (error : String) : Outcome where
  capabilityId := (locals.capability.map (·.id)).or request.capabilityId
  status := .failed
  error

def failedAudit (locals : Locals) (code : String) : RuntimeAuditBuffer :=
  locals.audit.event "runtime.failed" [("run_id", .str locals.audit.runId), ("code", .str code),
    ("capability_id", textOrNull (locals.capability.map (·.id)))]

/-- What a handler requests: nothing that leaves an audit row or calls a provider, or at the end
the transaction that records the failure. -/
inductive FailureTrace (context : ExecutionContext) (request : RuntimeRequest) (raised : Raised) :
    Steps → Prop
  | silent {steps : Steps} (prepares : ∀ step ∈ steps, Preparatory step.1) :
      FailureTrace context request raised steps
  | recorded {steps : Steps} {changes : Changes} {flushed : Flushed} {audit : RuntimeAuditBuffer}
      {error : String} (prepares : ∀ step ∈ steps, Preparatory step.1)
      (handled : caught raised.error = true) (runId : audit.runId = raised.locals.audit.runId)
      (extended : ∃ payload,
        audit.events = raised.locals.audit.events ++ [("runtime.failed", payload)])
      (runs : changes.runs = [auditRun audit context (failedOutcome request raised.locals error)])
      (events : changes.events = auditEvents audit context
        (failedOutcome request raised.locals error)) :
      FailureTrace context request raised (steps ++ [⟨.commit changes, flushed⟩])

theorem respondOnce_events (audit : RuntimeAuditBuffer) (status : String) :
    (respondOnce audit status).runId = audit.runId ∧ (respondOnce audit status).events = audit.events := by
  unfold respondOnce
  split <;> exact ⟨rfl, rfl⟩

theorem persistFailure_trace {audit : RuntimeAuditBuffer} {code message : String} {error : KernelError}
    {result : Except KernelError RuntimeResponse} (prepares : ∀ step ∈ early, Preparatory step.1)
    (handled : caught raised.error = true) (runId : audit.runId = raised.locals.audit.runId)
    (events : audit.events = raised.locals.audit.events) (runs : changes.runs = []) (noEvents : changes.events = [])
    (run : Program.Trace (do
      persistFailure context request { raised.locals with audit } changes code message
      raise error : Session RuntimeResponse).run steps result) :
    FailureTrace context request raised (early ++ steps) := by
  have failure : ∀ (changes : Changes) (flushed : Flushed),
      changes.runs = [auditRun (failedAudit { raised.locals with audit } code) context
        (failedOutcome request raised.locals message)] →
      changes.events = auditEvents (failedAudit { raised.locals with audit } code) context
        (failedOutcome request raised.locals message) →
      FailureTrace context request raised (early ++ [⟨.commit changes, flushed⟩]) := by
    intro changes flushed rows noted
    have sameId : (failedAudit { raised.locals with audit } code).runId = raised.locals.audit.runId := runId
    apply FailureTrace.recorded prepares handled sameId _ rows noted
    rw [← events]
    exact ⟨_, rfl⟩
  rcases trace_bind.mp run with ⟨written, late, _, rfl, recorded, rest⟩ | ⟨cause, -, recorded⟩
  · obtain ⟨rfl, -⟩ := trace_raise.mp rest
    obtain ⟨flushed, rfl, -⟩ := commit_trace recorded
    rw [List.append_nil]
    exact failure _ flushed (by simp [persistAudit, runs, failedAudit, failedOutcome])
      (by simp [persistAudit, noEvents, failedAudit, failedOutcome])
  · obtain ⟨flushed, rfl, -⟩ := commit_trace recorded
    exact failure _ flushed (by simp [persistAudit, runs, failedAudit, failedOutcome])
      (by simp [persistAudit, noEvents, failedAudit, failedOutcome])

theorem rollback_trace {α : Type} {next : Unit → Session α} {result : Except KernelError α}
    (run : Program.Trace ((query .rollback : Session Unit) >>= next).run steps result) :
    ∃ late, steps = ⟨.rollback, ()⟩ :: late ∧ Program.Trace (next ()).run late result := by
  rcases trace_bind.mp run with ⟨early, late, answer, rfl, asked, rest⟩ | ⟨error, -, asked⟩
  · obtain ⟨answer, rfl, same⟩ := trace_ask.mp asked
    cases same
    exact ⟨late, rfl, rest⟩
  · obtain ⟨answer, -, same⟩ := trace_ask.mp asked
    cases same

theorem caught_of_handler {error : KernelError} {handler : Handler}
    (handled : handlerOf error = some handler) : caught error = true := by
  cases error <;> simp [handlerOf, caught] at handled ⊢

theorem recover_trace {caller : Caller} {result : Except KernelError RuntimeResponse}
    (run : Program.Trace (recover caller context request raised).run steps result) :
    FailureTrace context request raised steps := by
  unfold recover at run
  split at run
  · next message code statusCode approvalId same =>
    obtain ⟨late, rfl, rest⟩ := rollback_trace run
    rcases Behaves.trace_bind pendingFor_reads.prepares rest with
      ⟨error, -, -, within⟩ | ⟨early, rest, ⟨approval, write⟩, rfl, within, -, tail⟩
    · refine .silent ?_
      intro step member
      rcases List.mem_cons.mp member with rfl | later
      · trivial
      · exact within step later
    · have prepares : ∀ step ∈ ⟨.rollback, ()⟩ :: early, Preparatory step.1 := by
        intro step member
        rcases List.mem_cons.mp member with rfl | later
        · trivial
        · exact within step later
      obtain ⟨runId, events⟩ := respondOnce_events raised.locals.audit "blocked"
      exact persistFailure_trace prepares (by rw [same]; rfl) runId events rfl rfl tail
  · next error =>
    split at run
    · next handler handled =>
      obtain ⟨late, rfl, rest⟩ := rollback_trace run
      have audit : ∀ audit, audit = (if handler.once then respondOnce raised.locals.audit handler.status
          else raised.locals.audit.step 13 .respond handler.status) →
          audit.runId = raised.locals.audit.runId ∧ audit.events = raised.locals.audit.events := by
        rintro audit rfl
        split
        · exact respondOnce_events ..
        · exact ⟨rfl, rfl⟩
      obtain ⟨runId, events⟩ := audit _ rfl
      have rolledBack : ∀ step ∈ [(⟨.rollback, ()⟩ : Sigma kernelDb.Answer)], Preparatory step.1 := by
        simp [Preparatory]
      exact persistFailure_trace rolledBack (caught_of_handler handled) runId events rfl rfl rest
    · obtain ⟨rfl, -⟩ := trace_raise.mp run
      exact .silent (by simp)

/-! ### Atomicity -/

theorem completion_rows (context : ExecutionContext) (result : CapabilityExecutionResult)
    (blank : Blank runId invocation.audit) :
    ∃ run, (completionChanges context invocation result).runs = [run] ∧ run.id = runId ∧
      run.status = .completed ∧ ((completionChanges context invocation result).events.map
        (·.eventType)) = successEvents invocation.capability := by
  obtain ⟨same, events⟩ := finishedAudit_eq result blank
  refine ⟨auditRun (finishedAudit invocation result) context (completedOutcome invocation result), rfl,
    same, rfl, ?_⟩
  simp [completionChanges, persistAudit, completion, auditEvents, events, Function.comp_def]

theorem Records.status {status : RunStatus} {run : KernelRun} (runs : changes.runs = [run])
    (records : Records status (.commit changes)) : run.status = status := by
  obtain ⟨_, same, other, present, held⟩ := records
  cases same
  rw [runs, List.mem_singleton] at present
  exact present ▸ held

theorem atomic_of_nothing (runs : persistedRuns steps = []) (events : persistedEvents steps = [])
    (uncommitted : ∀ changes, ⟨.commit changes, Flushed.committed⟩ ∈ steps → changes.runs = []) :
    AtomicAudit deployment context request runId steps ↔ ¬ FailsLate steps := by
  refine iff_of_true (.inl ⟨runs, events⟩) ?_
  rintro ⟨-, changes, member, records⟩
  obtain ⟨_, same, run, present, -⟩ := records
  cases same
  rw [uncommitted changes member] at present
  cases present

theorem uncommitted_of_unaudited (unaudited : ∀ step ∈ steps, Unaudited step.1) (changes : Changes)
    (flushed : Flushed) (member : ⟨.commit changes, flushed⟩ ∈ steps) : changes.runs = [] := (unaudited _ member).1

theorem FailureTrace.atomic {late : Steps} (unaudited : ∀ step ∈ early, Unaudited step.1)
    (blank : Blank runId raised.locals.audit) (failure : FailureTrace context request raised late) :
    AtomicAudit deployment context request runId (early ++ late) ↔ ¬ FailsLate (early ++ late) := by
  have joined : ∀ {rest : Steps}, (∀ step ∈ rest, Unaudited step.1) →
      ∀ step ∈ early ++ rest, Unaudited step.1 := by
    intro rest within step member
    rcases List.mem_append.mp member with first | second
    · exact unaudited step first
    · exact within step second
  cases failure with
  | silent prepares =>
    have within := fun step member => (prepares step member).unaudited
    obtain ⟨runs, events⟩ := persisted_unaudited (joined within)
    exact atomic_of_nothing runs events fun changes =>
      uncommitted_of_unaudited (joined within) changes _
  | @recorded steps changes flushed audit error prepares handled sameId extended runs events =>
    have within := fun step member => (prepares step member).unaudited
    rw [← List.append_assoc]
    have rows := persisted_commit (joined within) changes flushed
    refine iff_of_true ?_ ?_
    · by_cases committed : flushed = .committed
      · right
        rw [if_pos committed, if_pos committed] at rows
        refine ⟨_, rows.1.trans runs, sameId.trans blank.runId, .inr ⟨rfl, ?_⟩⟩
        rw [rows.2, events]
        obtain ⟨payload, extended⟩ := extended
        simp [auditEvents, extended, blank.events]
      · left
        rwa [if_neg committed, if_neg committed] at rows
    · -- the only transaction with a run records a failure
      rintro ⟨⟨other, cause, member, -, records⟩, -⟩
      rcases List.mem_append.mp member with first | second
      · exact (joined within _ first).records records
      · rw [List.mem_singleton] at second
        have same := congrArg Sigma.fst second
        cases same
        have status := records.status runs
        cases status

theorem FailureTrace.late_atomic {late : Steps} {value : CapabilityExecutionResult} {flushed : Flushed}
    (unaudited : ∀ step ∈ early, Unaudited step.1) (cleared : Cleared deployment context request runId invocation)
    (failed : flushed.outcome = .error raised.error) (audit : raised.locals.audit = finishedAudit invocation value)
    (failure : FailureTrace context request raised late) :
    AtomicAudit deployment context request runId
        ((early ++ [⟨.commit (completionChanges context invocation value), flushed⟩]) ++ late) ↔
      ¬ FailsLate ((early ++ [⟨.commit (completionChanges context invocation value), flushed⟩]) ++ late) := by
  obtain ⟨completed, completing, -, status, -⟩ :=
    completion_rows context value cleared.blank
  have uncommitted : flushed ≠ .committed := by
    rintro rfl
    cases failed
  have rows := persisted_commit unaudited (completionChanges context invocation value) flushed
  rw [if_neg uncommitted, if_neg uncommitted] at rows
  obtain ⟨runs, events⟩ :=
    persisted_append (early ++ [⟨.commit (completionChanges context invocation value), flushed⟩]) late
  rw [rows.1, List.nil_append] at runs
  rw [rows.2, List.nil_append] at events
  -- what can have been committed before the handler
  have before : ∀ changes : Changes, ⟨.commit changes, Flushed.committed⟩ ∈
      early ++ [⟨.commit (completionChanges context invocation value), flushed⟩] → changes.runs = [] := by
    intro changes member
    rcases List.mem_append.mp member with first | second
    · exact uncommitted_of_unaudited unaudited changes _ first
    · rw [List.mem_singleton] at second
      cases second
      exact absurd rfl uncommitted
  cases failure with
  | silent prepares =>
    have within := fun step member => (prepares step member).unaudited
    obtain ⟨noRuns, noEvents⟩ := persisted_unaudited within
    refine atomic_of_nothing (runs.trans noRuns) (events.trans noEvents) ?_
    intro changes member
    rcases List.mem_append.mp member with first | second
    · exact before changes first
    · exact uncommitted_of_unaudited within changes _ second
  | @recorded steps changes flushed' failedBuffer error prepares handled sameId extended
      failedRuns failedEvents =>
    have within := fun step member => (prepares step member).unaudited
    have late := persisted_commit within changes flushed'
    have raising : flushed = .failed raised.error := by
      cases flushed with
      | committed => cases failed
      | integrityError =>
        injection failed with cause
        rw [← cause] at handled
        cases handled
      | failed cause =>
        injection failed with cause'
        rw [cause']
    by_cases committed : flushed' = .committed
    · subst committed
      rw [if_pos rfl, if_pos rfl] at late
      refine iff_of_false ?_ ?_
      · -- a failed run, with more than its failure
        have emitted : raised.locals.audit.events.map (·.1) = successEvents invocation.capability := by
          rw [audit, (finishedAudit_eq value cleared.blank).2]
          simp [Function.comp_def]
        have recorded : (persistedEvents ((early ++
            [⟨.commit (completionChanges context invocation value), flushed⟩]) ++
            (steps ++ [⟨.commit changes, .committed⟩]))).map (·.eventType) =
              successEvents invocation.capability ++ ["runtime.failed"] := by
          obtain ⟨payload, extended⟩ := extended
          rw [events, late.2, failedEvents, ← emitted]
          simp [auditEvents, extended, Function.comp_def]
        rintro (⟨none, -⟩ | ⟨run, persisted, -, ⟨complete, -⟩ | ⟨-, only⟩⟩)
        · rw [runs, late.1, failedRuns] at none
          cases none
        · rw [runs, late.1, failedRuns, List.singleton_inj] at persisted
          rw [← persisted] at complete
          cases complete
        · rw [recorded] at only
          exact successEvents_ne_nil invocation.capability (by simpa using only)
      · intro never
        refine never ⟨⟨completionChanges context invocation value, raised.error, ?_, handled,
          completionChanges context invocation value, rfl, completed, ?_, status⟩, changes, ?_,
          changes, rfl, auditRun failedBuffer context (failedOutcome request raised.locals error), ?_,
          rfl⟩
        · simp [raising]
        · simp [completing]
        · simp
        · simp [failedRuns]
    · rw [if_neg committed, if_neg committed] at late
      refine atomic_of_nothing (runs.trans late.1) (events.trans late.2) ?_
      intro other member
      rcases List.mem_append.mp member with first | second
      · exact before other first
      · rcases List.mem_append.mp second with silent | last
        · exact uncommitted_of_unaudited within other _ silent
        · rw [List.mem_singleton] at last
          cases last
          exact absurd rfl committed

/-- What one call persists is atomic, exactly unless the transaction that would complete its run
raises an exception that a handler catches, and the failure is then recorded. -/
theorem execute_audit_atomic_iff (caller : Caller) (context : ExecutionContext)
    (request : RuntimeRequest) {steps : Steps} {result : Except KernelError RuntimeResponse}
    (run : Program.Trace (execute caller context request).run steps result) :
    AtomicAudit caller.deployment context request caller.runId steps ↔ ¬ FailsLate steps := by
  obtain ⟨early, late, outcome, rfl, body, handled⟩ := Program.Trace.bind_iff.mp run
  cases executeBody_trace body with
  | early unaudited blank _ =>
    cases outcome with
    | ok response =>
      obtain ⟨rfl, -⟩ := Program.Trace.done_iff.mp handled
      rw [List.append_nil]
      obtain ⟨runs, events⟩ := persisted_unaudited unaudited
      exact atomic_of_nothing runs events fun changes =>
        uncommitted_of_unaudited unaudited changes _
    | error raised => exact (recover_trace handled).atomic unaudited (blank raised rfl)
  | @late early invocation value flushed unaudited cleared _ =>
    obtain ⟨completed, runs, sameId, status, types⟩ :=
      completion_rows context value cleared.blank
    cases flushed with
    | committed =>
      obtain ⟨rfl, -⟩ := Program.Trace.done_iff.mp handled
      rw [List.append_nil]
      have rows := persisted_commit unaudited (completionChanges context invocation value) .committed
      rw [if_pos rfl, if_pos rfl] at rows
      refine iff_of_true (.inr ⟨completed, rows.1.trans runs, sameId, .inl ⟨status,
        invocation.capability, cleared.resolved, by rw [rows.2, types]⟩⟩) ?_
      rintro ⟨⟨changes, error, member, -, records⟩, -⟩
      rcases List.mem_append.mp member with first | second
      · exact (unaudited _ first).records records
      · rw [List.mem_singleton] at second
        cases second
    | integrityError => exact (recover_trace handled).late_atomic unaudited cleared rfl rfl
    | failed error => exact (recover_trace handled).late_atomic unaudited cleared rfl rfl

theorem evaluates_audit {α : Type} {program : Program kernelDb α} {final : KernelState} {value : α}
    (run : Evaluates (kernelWorld deployment) pid unconditional program state value final) :
    ∃ steps, Program.Trace program steps value ∧ final.runs = state.runs ++ persistedRuns steps ∧
      final.events = state.events ++ persistedEvents steps := by
  apply Evaluates.trace (fun steps after => after.runs = state.runs ++ persistedRuns steps ∧
    after.events = state.events ++ persistedEvents steps) run
  · simp [persistedRuns, persistedEvents]
  rintro steps op choice before answer after ⟨runs, events⟩ - performed
  obtain ⟨runs', events'⟩ := serve_auditRows performed
  obtain ⟨moreRuns, moreEvents⟩ := persisted_append steps [⟨op, answer⟩]
  rw [runs', events', runs, events, moreRuns, moreEvents]
  simp [persistedRuns, persistedEvents]

def sampleEval (choices : List Choice) : Option (Except KernelError RuntimeResponse × KernelState) :=
  (execute ⟨sample, 0⟩ sampleContext (sampleRequest "note.write" none)).run.eval (kernelWorld sample) 0
    choices (sampleState none)

theorem sampleEval_audit {choices : List Choice} (runs : (sampleEval choices).isSome = true) :
    ∃ steps result, Program.Trace
        (execute ⟨sample, 0⟩ sampleContext (sampleRequest "note.write" none)).run steps result ∧
      ((sampleEval choices).get runs).2.runs = persistedRuns steps ∧
      ((sampleEval choices).get runs).2.events = persistedEvents steps := by
  have evaluates := Program.eval_evaluates (Option.some_get runs).symm
  obtain ⟨steps, traced, rows, events⟩ := evaluates_audit evaluates
  exact ⟨steps, _, traced, rows, events⟩

def completedChoices : List Choice :=
  [.default, .default, .default, sampleAnswer, .default]

theorem completed_evaluates : (sampleEval completedChoices).isSome = true := by decide

theorem execute_audit_atomic_completed : ∃ steps, persistedRuns steps ≠ [] ∧
    (AtomicAudit sample sampleContext (sampleRequest "note.write" none) "run-0" steps ↔
      ¬ FailsLate steps) := by
  obtain ⟨steps, result, traced, runs, -⟩ := sampleEval_audit completed_evaluates
  have persisted : ((sampleEval completedChoices).get completed_evaluates).2.runs.length = 1 := by
    decide
  refine ⟨steps, ?_, execute_audit_atomic_iff ⟨sample, 0⟩ _ _ traced⟩
  rintro none
  rw [runs, none] at persisted
  cases persisted

def unstorableChoices : List Choice :=
  [.default, .default, .default, sampleAnswer, .failed (.runtime "maximum recursion depth exceeded"),
    .default, .default]

theorem unstorable_evaluates : (sampleEval unstorableChoices).isSome = true := by decide

/-- A failed run with the success event of its capability. -/
theorem audit_not_atomic : ∃ steps result, Program.Trace
      (execute ⟨sample, 0⟩ sampleContext (sampleRequest "note.write" none)).run steps result ∧
    (persistedRuns steps).map (·.status) = [.failed] ∧
    (persistedEvents steps).map (·.eventType) = ["capability.executed", "runtime.failed"] ∧
    ¬ AtomicAudit sample sampleContext (sampleRequest "note.write" none) "run-0" steps := by
  obtain ⟨steps, result, traced, runs, events⟩ := sampleEval_audit unstorable_evaluates
  have rows : ((sampleEval unstorableChoices).get unstorable_evaluates).2.runs.map (·.status) =
        [.failed] ∧
      ((sampleEval unstorableChoices).get unstorable_evaluates).2.events.map (·.eventType) =
        ["capability.executed", "runtime.failed"] := by
    decide
  rw [runs, events] at rows
  refine ⟨steps, result, traced, rows.1, rows.2, ?_⟩
  rintro (⟨none, -⟩ | ⟨run, only, -, ⟨completed, -⟩ | ⟨-, types⟩⟩)
  · rw [none] at rows
    cases rows.1
  · rw [only] at rows
    simp [completed] at rows
  · simp [rows.2] at types

end Operly.Kernel
