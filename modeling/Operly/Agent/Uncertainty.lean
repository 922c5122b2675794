import Operly.Agent.Runtime
import Operly.Kernel.Interruptions

/-! When a step whose claim is left running is reported as uncertain. -/

namespace Operly.Agent
open Python Security Kernel Concurrent Fallible

variable {deployment : Deployment} {context : ExecutionContext} {request : RuntimeRequest}
  {step : AgentPlanStep} {capability : CapabilitySpec} {key : String}
  {before after : Option KernelRequestClaim} {row : KernelRequestClaim} {steps : Steps}

theorem step_resolves {runId goal : String} (found : deployment.registry.get step.capabilityId = .ok capability) :
    resolveCapability deployment context (stepRequest deployment context runId goal step) =
      .ok capability := by
  have named : isSet (some step.capabilityId) = true := by
    simpa [isSet] using step.capable.2.1
  simpa [resolveCapability, stepRequest, named] using found

variable {code : String} {result : Except KernelError AgentStepResult}

theorem mutationRecoveryState_running {result : Except KernelError (Option RuntimeResponse × Bool)}
    (found : deployment.registry.get step.capabilityId = .ok capability) (mutates : capability.mutating = true)
    (keyed : idempotencyKey deployment context (clean request.requestId) = .ok key)
    (stable : clean request.requestId ≠ "")
    (run : Program.Trace (mutationRecoveryState deployment context request step code).run steps result)
    (history : ClaimHistory key before steps after) (left : after = some row) (running : row.status = .running) :
    after = before ∧ (∀ step ∈ steps, Closing step.1) ∧
      result = .ok (none, decide (row.argumentsHash = requestHash deployment request ∨
        code = "request_in_progress")) := by
  unfold mutationRecoveryState at run
  rw [found] at run
  simp only [mutates, Bool.not_true, Bool.false_eq_true, if_false] at run
  rcases trace_bind.mp run with ⟨early, late, outcome, rfl, looked, rest⟩ | ⟨error, rfl, looked⟩
  · obtain ⟨value, traced, same⟩ := trace_caught.mp looked
    cases same
    obtain ⟨middle, first, second⟩ := ClaimHistory.append_iff.mp history
    obtain ⟨rfl, decided⟩ := findCompletedRequest_history keyed stable traced first
    obtain rfl := first.reading (by simp [Reading])
    have silent : late = [] := by
      split at rest
      · exact (trace_pure.mp rest).1
      · exact (trace_pure.mp rest).1
      · exact (trace_pure.mp rest).1
      · exact (trace_raise.mp rest).1
    subst silent
    obtain rfl := ClaimHistory.nil_iff.mp second
    subst left
    refine ⟨rfl, by simp [Closing], ?_⟩
    -- the hash of the request tells an identical request from a conflicting one
    by_cases same : row.argumentsHash = requestHash deployment request
    · have refused : outcome = .error (.idempotencyInProgress "An identical request is already executing") := by
        rw [decided]
        simp [validateExisting, same, running]
      rw [refused] at rest
      simpa [same] using (trace_pure.mp rest).2
    · have refused : outcome = .error (.idempotencyConflict
          "request_id was already used with a different goal, capability, or argument payload") := by
        rw [decided]
        exact if_pos same
      rw [refused] at rest
      simpa [same] using (trace_pure.mp rest).2
  · obtain ⟨value, -, same⟩ := trace_caught.mp looked
    cases same

/-- The condition under which a step whose claim is left running is reported as uncertain: its
failure is recorded, under a code after which the claim is looked at, and the look recognises the
claim unless the code alone says that the request is in progress. -/
def Acknowledged (caller : Caller) (context : ExecutionContext) (request : RuntimeRequest)
    (capability : CapabilitySpec) (before : Option KernelRequestClaim) (steps : Steps) : Prop :=
  FailureRecorded steps ∧ ∃ error code,
    interruption caller context request before steps = some error ∧ codeOf error = some code ∧
      code ∉ preReservationCodes ∧
      (boundHash caller.deployment request capability before = requestHash caller.deployment request ∨
        code = "request_in_progress")

variable {runtime : GovernedAgentRuntime} {runId goal : String}

def Reports (status : AgentStepStatus) (result : Except KernelError AgentStepResult) : Prop :=
  ∃ reported, result = .ok reported ∧ reported.status = status

theorem recoveredResult_uncertain {message : String} {approvalId : Option String} {uncertain : Bool} :
    (recoveredResult request step message code approvalId (none, uncertain)).status =
      .executionUncertain ↔ uncertain = true := by
  cases uncertain with
  | true => simp [recoveredResult, resultOf]
  | false => simp [recoveredResult, resultOf]

theorem reportStep_running {message : String} {statusCode : Nat} {approvalId : Option String}
    (found : deployment.registry.get step.capabilityId = .ok capability) (mutates : capability.mutating = true)
    (keyed : idempotencyKey deployment context (clean request.requestId) = .ok key)
    (stable : clean request.requestId ≠ "") (run : Program.Trace (reportStep deployment context request step
      (.error (.execution message code statusCode approvalId))).run steps result)
    (history : ClaimHistory key before steps after) (left : after = some row) (running : row.status = .running) :
    after = before ∧ (∀ step ∈ steps, Closing step.1) ∧
      (Reports .executionUncertain result ↔ code ∉ preReservationCodes ∧
        (row.argumentsHash = requestHash deployment request ∨ code = "request_in_progress")) := by
  simp only [reportStep] at run
  split at run
  · next early =>
    obtain ⟨rfl, rfl⟩ := trace_pure.mp run
    refine ⟨ClaimHistory.nil_iff.mp history, by simp, ?_⟩
    constructor
    · rintro ⟨reported, same, status⟩
      cases same
      dsimp only [resultOf] at status
      split at status
      · cases status
      · cases status
    · exact fun late => absurd early late.1
  · next late =>
    rcases trace_bind.mp run with ⟨first, second, recovered, rfl, looked, rest⟩ | ⟨error, rfl, looked⟩
    · obtain ⟨rfl, rfl⟩ := trace_pure.mp rest
      rw [List.append_nil] at history ⊢
      obtain ⟨kept, closing, same⟩ :=
        mutationRecoveryState_running found mutates keyed stable looked history left running
      cases same
      refine ⟨kept, closing, ?_⟩
      constructor
      · rintro ⟨reported, same, status⟩
        cases same
        exact ⟨late, of_decide_eq_true (recoveredResult_uncertain.mp status)⟩
      · rintro ⟨-, seen⟩
        exact ⟨_, rfl, recoveredResult_uncertain.mpr (decide_eq_true seen)⟩
    · obtain ⟨-, -, same⟩ :=
        mutationRecoveryState_running found mutates keyed stable looked history left running
      cases same

theorem executeStep_trace (run : Program.Trace (executeStep runtime context runId goal step).run steps result) :
    (steps = [] ∧ ∃ error, result = .error error) ∨ ∃ early late outcome, steps = early ++ late ∧
      Program.Trace (execute runtime.caller context
        (stepRequest runtime.caller.deployment context runId goal step)).run early outcome ∧
      Program.Trace (reportStep runtime.caller.deployment context
        (stepRequest runtime.caller.deployment context runId goal step) step outcome).run late result := by
  unfold executeStep at run
  split at run
  · obtain ⟨rfl, rfl⟩ := trace_raise.mp run
    exact .inl ⟨rfl, _, rfl⟩
  · rcases trace_bind.mp run with ⟨early, late, outcome, rfl, called, rest⟩ | ⟨error, -, called⟩
    · obtain ⟨value, traced, same⟩ := trace_caught.mp called
      cases same
      exact .inr ⟨early, late, _, rfl, traced, rest⟩
    · obtain ⟨value, -, same⟩ := trace_caught.mp called
      cases same

/-- Whatever the provider and the database answer, a mutating step whose claim is running when it
ends is reported as uncertain exactly when its exception is recorded under a code that leads to a
look at the claim, and the look recognises it. -/
theorem running_claim_reported_uncertain {result : Except KernelError AgentStepResult}
    (found : runtime.caller.deployment.registry.get step.capabilityId = .ok capability)
    (mutates : capability.mutating = true)
    (keyed : idempotencyKey runtime.caller.deployment context
      (clean (stepRequest runtime.caller.deployment context runId goal step).requestId) = .ok key)
    (run : Program.Trace (executeStep runtime context runId goal step).run steps result)
    (database : DatabaseExceptions steps) (history : ClaimHistory key before steps after)
    (left : after = some row) (running : row.status = .running) :
    Reports .executionUncertain result ↔ Acknowledged runtime.caller context
      (stepRequest runtime.caller.deployment context runId goal step) capability before steps := by
  have resolved := @step_resolves runtime.caller.deployment context step capability runId goal found
  have stable := stableStepRequestId_clean runtime.caller.deployment runId step.stepId
  rcases executeStep_trace run with ⟨rfl, error, rfl⟩ | ⟨early, late, outcome, rfl, called, reported⟩
  · constructor
    · rintro ⟨reported, same, -⟩
      cases same
    · rintro ⟨recorded, -⟩
      exact absurd recorded (unrecorded_of_uncommitted (by simp))
  have database := database.mono (List.subset_append_left early late)
  have recorded_iff := execute_recorded_iff called database
  obtain ⟨middle, inside, outside⟩ := ClaimHistory.append_iff.mp history
  cases outcome with
  | ok response =>
    obtain ⟨rfl, rfl⟩ := Fallible.trace_pure.mp reported
    rw [List.append_nil]
    constructor
    · rintro ⟨_, same, status⟩
      cases same
      cases status
    · rintro ⟨recorded, -⟩
      obtain ⟨_, _, _, _, same⟩ := recorded_iff.mp recorded
      cases same
  | error error =>
    cases error with
    | execution message code statusCode approvalId =>
      obtain ⟨kept, closing, reports⟩ :=
        reportStep_running found mutates keyed stable reported outside left running
      obtain ⟨⟨error, stopped, coded⟩, bound⟩ := execute_interrupted resolved mutates keyed stable
        called database inside (kept ▸ left) running
      have recorded : FailureRecorded early := recorded_iff.mpr ⟨_, _, _, _, rfl⟩
      rw [reports, bound, Acknowledged, FailureRecorded.append_iff, interruption_append closing]
      constructor
      · rintro ⟨late, seen⟩
        exact ⟨.inl recorded, error, code, stopped, coded, late, seen⟩
      · rintro ⟨-, other, code', stopped', coded', late, seen⟩
        rw [stopped, Option.some.injEq] at stopped'
        subst stopped'
        rw [coded, Option.some.injEq] at coded'
        subst coded'
        exact ⟨late, seen⟩
    | approval | idempotencyConflict | idempotencyInProgress | registry | schemaValidation | value
    | permission | lookup | runtime | other =>
      obtain ⟨rfl, rfl⟩ := Fallible.trace_raise.mp reported
      rw [List.append_nil]
      constructor
      · rintro ⟨_, same, -⟩
        cases same
      · rintro ⟨recorded, -⟩
        obtain ⟨_, _, _, _, same⟩ := recorded_iff.mp recorded
        cases same

/-! ### A sample step -/

def sampleRuntime : GovernedAgentRuntime := ⟨⟨sample, 0⟩, true⟩

def sampleStep : AgentPlanStep where
  stepId := "s1"
  capabilityId := "note.write"
  arguments := []
  approvalId := none
  named := by decide
  capable := by decide
  approved := by simp

def sampleKey : String := "personal:u1:user:u1:agent-step:run\x00s1"

def undisturbed : Subtype (Undisturbed sampleKey) := ⟨id, fun _ => rfl, fun _ => id⟩

def sampleStepEval (choices : List Choice) : Option (Except KernelError AgentStepResult × KernelState) :=
  (executeStep sampleRuntime sampleContext "run" "Take a note" sampleStep).run.eval
    ((kernelWorld sample).amid (Undisturbed sampleKey)) 0 (choices.map (·, undisturbed))
    (sampleState none)

theorem sampleState_keyed : Keyed (sampleState none) := by simp [Keyed, sampleState]

theorem sampleStepEval_history {choices : List Choice} {final : KernelState}
    (sane : ∀ choice ∈ choices, ∀ error, choice ≠ .failed error)
    (evaluated : sampleStepEval choices = some (result, final)) : ∃ steps,
      Program.Trace (executeStep sampleRuntime sampleContext "run" "Take a note" sampleStep).run steps result ∧
      ClaimHistory sampleKey none steps (final.claims sampleKey) ∧ DatabaseExceptions steps := by
  refine evaluates_history sampleState_keyed (Program.eval_evaluates_of ?_ evaluated)
  intro choice member _ _ message code statusCode approvalId
  obtain ⟨original, present, rfl⟩ := List.mem_map.mp member
  exact sane original present _

def raisingChoices (error : KernelError) : List Choice :=
  [.default, .default, .default, .provider (.error error) false, .default, .default, .default]

theorem raisingChoices_sane (raised : KernelError) :
    ∀ choice ∈ raisingChoices raised, ∀ error, choice ≠ .failed error := by
  simp [raisingChoices]

def statuses (run : Except KernelError AgentStepResult × KernelState) :
    Option AgentStepStatus × Option ClaimStatus :=
  (match run.1 with
    | .ok reported => some reported.status
    | .error _ => none, (run.2.claims sampleKey).map (·.status))

theorem sampleStep_raises {error : KernelError} {status : AgentStepStatus}
    (evaluated : (sampleStepEval (raisingChoices error)).map statuses = some (some status, some .running)) :
    ∃ steps result row,
      Program.Trace (executeStep sampleRuntime sampleContext "run" "Take a note" sampleStep).run steps result ∧
      ClaimHistory sampleKey none steps (some row) ∧ row.status = .running ∧
      DatabaseExceptions steps ∧ Reports status result := by
  obtain ⟨⟨result, final⟩, run, seen⟩ := Option.map_eq_some_iff.mp evaluated
  obtain ⟨steps, traced, history, database⟩ := sampleStepEval_history (raisingChoices_sane error) run
  obtain ⟨reported, left⟩ := Prod.mk.inj seen
  obtain ⟨row, present, running⟩ := Option.map_eq_some_iff.mp left
  dsimp only at present reported
  rw [present] at history
  refine ⟨steps, result, row, traced, history, running, database, ?_⟩
  cases result with
  | ok report => exact ⟨report, rfl, Option.some.inj reported⟩
  | error error => cases reported

theorem sampleStep_down : (sampleStepEval (raisingChoices (.runtime "note store is down"))).map statuses =
    some (some .executionUncertain, some .running) := by decide

theorem sampleStep_rejected : (sampleStepEval (raisingChoices (.value "malformed reply"))).map statuses =
    some (some .failed, some .running) := by decide

/-- A provider that is down leaves the claim running and the step uncertain. -/
theorem running_claim_reported_uncertain_down : ∃ steps row,
    ClaimHistory sampleKey none steps (some row) ∧ row.status = .running ∧
      Acknowledged ⟨sample, 0⟩ sampleContext
        (stepRequest sample sampleContext "run" "Take a note" sampleStep) noteWrite none steps := by
  obtain ⟨steps, result, row, traced, history, running, database, reports⟩ :=
    sampleStep_raises sampleStep_down
  have keyed : idempotencyKey sample sampleContext
      (clean (stepRequest sample sampleContext "run" "Take a note" sampleStep).requestId) =
        .ok sampleKey := by decide
  have found : sample.registry.get sampleStep.capabilityId = .ok noteWrite := by decide
  exact ⟨steps, row, history, running, (running_claim_reported_uncertain (by exact found) (by rfl)
    (by exact keyed) traced database history rfl running).mp reports⟩

/-- A provider that raises a `ValueError` after its effect leaves the claim running, and the step
is reported as failed. -/
theorem running_claim_reported_failed : ∃ steps result row,
    Program.Trace (executeStep sampleRuntime sampleContext "run" "Take a note" sampleStep).run steps result ∧
    ClaimHistory sampleKey none steps (some row) ∧ row.status = .running ∧
    DatabaseExceptions steps ∧ Reports .failed result ∧ ¬ Reports .executionUncertain result := by
  obtain ⟨steps, result, row, traced, history, running, database, reported, rfl, status⟩ :=
    sampleStep_raises sampleStep_rejected
  refine ⟨steps, _, row, traced, history, running, database, ⟨reported, rfl, status⟩, ?_⟩
  rintro ⟨other, same, uncertain⟩
  cases same
  rw [status] at uncertain
  cases uncertain

end Operly.Agent
