import Operly.Agent.Contracts
import Operly.Kernel.Guarantees
import Operly.Python.Equality
import Operly.Python.Exceptions
import Operly.Relational.Table

/-! The durable runs of the agent runtime. A column of JSON text is the value that `json.loads` reads from it. -/

namespace Operly.Agent
open Python Security Kernel Relational

inductive StoreError where
  /-- `AgentRunStateError` -/
  | state (message : String)
  | value (message : String)
  | overflow
  /-- A constraint of the database. -/
  | integrity
  deriving DecidableEq

inductive RunStatus where
  | queued
  | running
  | waitingApproval
  | completed
  | failed
  | cancelled
  | budgetExhausted
  | executionUncertain
  deriving DecidableEq

def RunStatus.value : RunStatus → String
  | .queued => "queued"
  | .running => "running"
  | .waitingApproval => "waiting_approval"
  | .completed => "completed"
  | .failed => "failed"
  | .cancelled => "cancelled"
  | .budgetExhausted => "budget_exhausted"
  | .executionUncertain => "execution_uncertain"

def terminalRunStatuses : List RunStatus := [.completed, .failed, .cancelled, .budgetExhausted, .executionUncertain]

def allowedTransitions : RunStatus → List RunStatus
  | .queued => [.running, .cancelled]
  | .running => [.waitingApproval, .completed, .failed, .cancelled, .budgetExhausted, .executionUncertain]
  | .waitingApproval => [.queued, .cancelled]
  | _ => []

structure AgentRuntimeRun where
  id : String
  scopeKind : ScopeKind
  workspaceId : Option String
  ownerUserId : Option String
  principalId : String
  goal : String
  planJson : Json
  budgetJson : Json
  status : RunStatus
  currentStepId : Option String := none
  cancellationRequested : Bool := false
  leaseToken : Option String := none
  leaseUntil : Option Int := none
  errorCode : Option String := none
  errorMessage : Option String := none
  resultJson : Json := .obj []
  startedAt : Option Int := none
  finishedAt : Option Int := none

structure AgentRuntimeStep where
  agentRunId : String
  stepId : String
  stepOrder : Nat
  capabilityId : String
  argumentsJson : Json
  requestId : String
  status : Option AgentStepStatus
  attemptCount : Nat := 0
  approvalId : Option String
  resultJson : Json := .obj []
  errorCode : Option String := none
  errorMessage : Option String := none
  startedAt : Option Int := none
  finishedAt : Option Int := none

/-- `uq_agent_runtime_step_identity` -/
def AgentRuntimeStep.identity (row : AgentRuntimeStep) : String × String := (row.agentRunId, row.stepId)

structure AgentRuntimeStepAttempt where
  agentRunId : String
  stepId : String
  attempt : Nat
  capabilityId : String
  requestId : String
  status : AgentStepStatus
  approvalId : Option String
  argumentsJson : Json
  resultJson : Json
  errorCode : Option String
  errorMessage : Option String
  finishedAt : Int

/-- The tables with their foreign keys. The approvals of the Kernel have ids of 36 characters at most. -/
structure AgentStore where
  runs : Table AgentRuntimeRun String AgentRuntimeRun.id
  steps : Table AgentRuntimeStep (String × String) AgentRuntimeStep.identity
  attempts : List AgentRuntimeStepAttempt
  approvals : List String
  sized : ∀ id ∈ approvals, id.length ≤ 36
  owned : ∀ row ∈ steps.rows, (runs.find row.agentRunId).isSome
  approved : ∀ row ∈ steps.rows, ∀ id ∈ row.approvalId, id ∈ approvals

namespace AgentStore

def insertRun (store : AgentStore) (row : AgentRuntimeRun) : Except StoreError AgentStore :=
  if (store.runs.find row.id).isSome then .error .integrity
  else .ok { store with
    runs := store.runs.insert row
    owned := by
      intro step member
      obtain ⟨run, found⟩ := Option.isSome_iff_exists.mp (store.owned step member)
      rw [Table.find_insert, found]
      rfl }

def updateRun (store : AgentStore) (row : AgentRuntimeRun) : AgentStore :=
  { store with
    runs := store.runs.replace row
    owned := by
      intro step member
      rw [Table.find_replace]
      split
      · rw [Option.isSome_map]
        exact store.owned step member
      · exact store.owned step member }

def Refers (store : AgentStore) (row : AgentRuntimeStep) : Prop :=
  (store.runs.find row.agentRunId).isSome ∧ ∀ id ∈ row.approvalId, id ∈ store.approvals

instance (store : AgentStore) (row : AgentRuntimeStep) : Decidable (store.Refers row) :=
  inferInstanceAs (Decidable (_ ∧ _))

def insertStep (store : AgentStore) (row : AgentRuntimeStep) : Except StoreError AgentStore :=
  if absent : store.steps.find row.identity = none then
    if refers : store.Refers row then .ok { store with
      steps := store.steps.insert row
      owned := by
        rw [Table.insert_rows absent, List.forall_mem_append, List.forall_mem_singleton]
        exact ⟨store.owned, refers.1⟩
      approved := by
        rw [Table.insert_rows absent, List.forall_mem_append, List.forall_mem_singleton]
        exact ⟨store.approved, refers.2⟩ }
    else .error .integrity
  else .error .integrity

def updateStep (store : AgentStore) (row : AgentRuntimeStep) : Except StoreError AgentStore :=
  if refers : store.Refers row then .ok { store with
    steps := store.steps.replace row
    owned := by
      intro step member
      rcases Table.mem_replace.mp member with ⟨old, -⟩ | ⟨rfl, -⟩
      · exact store.owned step old
      · exact refers.1
    approved := by
      intro step member
      rcases Table.mem_replace.mp member with ⟨old, -⟩ | ⟨rfl, -⟩
      · exact store.approved step old
      · exact refers.2 }
  else .error .integrity

end AgentStore

/-! ### Storing a plan -/

/-- What `json.loads` reads of `_json(value)` -/
def jsonColumn (value : Json) : Json := value.sortKeys

def objectJson (label : String) : Json → Except StoreError Fields
  | .obj fields => .ok fields
  | _ => .error (.state s!"Stored {label} must be a JSON object")

def planJson (plan : AgentPlan) : Json :=
  jsonColumn (.obj [("run_id", .str plan.runId), ("goal", .str plan.goal),
    ("steps", .arr (plan.steps.map fun step => .obj [("step_id", .str step.stepId),
      ("capability_id", .str step.capabilityId), ("arguments", .obj step.arguments),
      ("approval_id", textOrNull step.approvalId)]))])

def budgetFields (budget : AgentBudget) : Fields :=
  [("max_steps", .int budget.maxSteps), ("max_mutations", .int budget.maxMutations)]

def budgetJson (plan : AgentPlan) : Json := jsonColumn (.obj (budgetFields plan.budget))

def scopeValues (context : ExecutionContext) :
    Except StoreError (ScopeKind × Option String × Option String) :=
  if ¬ isSet context.principalId then .error (.state "Agent runs require a resolved principal_id")
  else if ¬ isSet context.userId then
    .error (.state "Initial agent runtime supports authenticated users only")
  else if context.isGuestWorkspace then
    .error (.state "Guest Workspace agent runs require durable external-installation provenance")
  else if context.scopeKind = .personal then
    if context.surface = .personalPrivate then .ok (.personal, none, context.userId)
    else .error (.state "Initial Personal agent runs require the trusted personal-private surface")
  else if ¬ isSet context.workspaceId then .error (.state "Workspace agent runs require a workspace_id")
  else if context.surface = .workspacePrivate ∨ context.surface = .workspaceShared then
    .ok (.workspace, context.workspaceId, none)
  else .error (.state "Delegated/external Workspace surfaces require durable delegation provenance")

def contextMatchesRun (context : ExecutionContext) (row : AgentRuntimeRun) : Bool :=
  context.principalId.getD "" = row.principalId &&
    if row.scopeKind = .personal then
      context.scopeKind = .personal && context.userId = row.ownerUserId && context.workspaceId = none
    else context.scopeKind = .workspace && context.workspaceId = row.workspaceId && !context.isGuestWorkspace

def stepRow (deployment : Deployment) (runId : String) (entry : AgentPlanStep × Nat) : AgentRuntimeStep where
  agentRunId := runId
  stepId := entry.1.stepId
  stepOrder := entry.2
  capabilityId := entry.1.capabilityId
  argumentsJson := jsonColumn (.obj entry.1.arguments)
  requestId := stableStepRequestId deployment runId entry.1.stepId
  status := none
  approvalId := entry.1.approvalId

def createRun (deployment : Deployment) (context : ExecutionContext) (plan : AgentPlan)
    (store : AgentStore) : Except StoreError AgentStore :=
  if (store.runs.find plan.runId).isSome then .error (.state "Agent run_id already exists")
  else do
    let (scopeKind, workspaceId, ownerUserId) ← scopeValues context
    let store ← store.insertRun {
      id := plan.runId, scopeKind, workspaceId, ownerUserId
      principalId := context.principalId.getD "None"
      goal := plan.goal
      planJson := planJson plan
      budgetJson := budgetJson plan
      status := .queued }
    plan.steps.zipIdx.foldlM (fun store entry => store.insertStep (stepRow deployment plan.runId entry)) store

def AgentStore.listSteps (store : AgentStore) (runId : String) : List AgentRuntimeStep :=
  (store.steps.select fun row => row.agentRunId = runId).insertionSort fun row other => row.stepOrder ≤ other.stepOrder

/-- `int(value)`, where only `TypeError` and `ValueError` are caught later. -/
def intOf (value : Json) : Except StoreError Int :=
  value.toInt.mapError fun
    | .overflowError => .overflow
    | .valueError | .typeError => .value "int"

/-- `AgentBudget.__post_init__` -/
def AgentBudget.create (maxSteps maxMutations : Int) : Except StoreError AgentBudget :=
  if steps : 1 ≤ maxSteps ∧ maxSteps ≤ 128 then
    if mutations : 0 ≤ maxMutations ∧ maxMutations ≤ 64 then
      .ok { maxSteps := maxSteps.toNat, maxMutations := maxMutations.toNat,
            stepsBounded := by omega, mutationsBounded := by omega }
    else .error (.value "max_mutations must be between 0 and 64")
  else .error (.value "max_steps must be between 1 and 128")

/-- The contracts raise `ValueError`. -/
def contract {α : Type} (result : Except KernelError α) : Except StoreError α :=
  result.mapError fun error => .value error.message

def loadStep (row : AgentRuntimeStep) : Except StoreError AgentPlanStep := do
  let arguments ← objectJson s!"step {row.stepId} arguments" row.argumentsJson
  contract (AgentPlanStep.create row.stepId row.capabilityId arguments row.approvalId)

def loadedPlan (row : AgentRuntimeRun) (budgetData : Fields) (steps : List AgentRuntimeStep) :
    Except StoreError AgentPlan := do
  let maxSteps ← intOf ((Fields.get budgetData "max_steps").getD (.int 0))
  let maxMutations ← intOf ((Fields.get budgetData "max_mutations").getD (.int (-1)))
  let budget ← AgentBudget.create maxSteps maxMutations
  let planSteps ← steps.mapM loadStep
  contract (AgentPlan.create row.id row.goal planSteps budget)

def loadPlan (runId : String) (store : AgentStore) : Except StoreError AgentPlan :=
  match store.runs.find runId with
  | none => .error (.state "Agent run does not exist")
  | some row => do
      let budgetData ← objectJson "agent budget" row.budgetJson
      let steps := store.listSteps runId
      if steps = [] then .error (.state "Durable agent run has no steps")
      else (loadedPlan row budgetData steps).mapError fun
        | .value _ => .state "Stored agent plan violates runtime contracts"
        | other => other

/-! ### Later calls -/

/-- `claim_run`, with a stripped token -/
def claimRun (now : Int) (runId token : String) (leaseSeconds : Int) (store : AgentStore) :
    Except StoreError AgentStore :=
  if strip token = "" ∨ 80 < (strip token).length then .error (.value "lease_token must contain 1-80 characters")
  else if ¬ (5 ≤ leaseSeconds ∧ leaseSeconds ≤ 900) then
    .error (.value "lease_seconds must be between 5 and 900")
  else match store.runs.find runId with
    | none => .ok store
    | some row =>
        let open_ := row.status = .running ∨ row.status = .queued ∧ row.cancellationRequested = false
        let free := row.leaseUntil.all (· < now) ∨ row.leaseToken = some (strip token)
        if open_ ∧ free then
          .ok (store.updateRun { row with
            status := .running, leaseToken := some (strip token), leaseUntil := some (now + leaseSeconds * 1000000)
            startedAt := some (row.startedAt.getD now) })
        else .ok store

def transitionRun (now : Int) (runId : String) (target : RunStatus) (currentStepId errorCode errorMessage : Option String)
    (result : Option Fields) (store : AgentStore) : Except StoreError AgentStore :=
  match store.runs.find runId with
  | none => .error (.state "Agent run does not exist")
  | some row =>
      if target ∉ allowedTransitions row.status then
        .error (.state s!"Invalid agent run transition: {row.status.value} -> {target.value}")
      else
        let ends := target ∈ terminalRunStatuses
        let leaves := target = .waitingApproval ∨ ends
        .ok (store.updateRun { row with
          status := target, currentStepId, errorCode, errorMessage := orNone (errorMessage.getD "")
          resultJson := result.elim row.resultJson fun fields => jsonColumn (.obj fields)
          leaseToken := if leaves then none else row.leaseToken
          leaseUntil := if leaves then none else row.leaseUntil
          finishedAt := if ends then some now else row.finishedAt })

def queueAfterApproval (context : ExecutionContext) (runId : String) (approvalId : Option String)
    (store : AgentStore) : Except StoreError AgentStore :=
  if clean approvalId = "" ∨ 36 < (clean approvalId).length then
    .error (.value "approval_id must contain 1-36 characters")
  else match (store.runs.find runId).filter (contextMatchesRun context) with
    | none => .error (.state "Agent run is unavailable in this authority scope")
    | some row =>
        if row.cancellationRequested then .error (.state "Cancelled agent run cannot resume")
        else if row.status ≠ .waitingApproval ∨ ¬ isSet row.currentStepId then
          .error (.state "Agent run is not waiting for approval")
        else match store.steps.find (runId, row.currentStepId.getD "") with
          | some step =>
              if step.status = some .waitingApproval then do
                let store ← store.updateStep { step with
                  approvalId := some (clean approvalId), status := none, errorCode := none, errorMessage := none }
                .ok (store.updateRun { row with
                  status := .queued, leaseToken := none, leaseUntil := none, errorCode := none, errorMessage := none })
              else .error (.state "Approval-waiting agent step is unavailable")
          | none => .error (.state "Approval-waiting agent step is unavailable")

def recordStepResult (now : Int) (runId : String) (stepResult : AgentStepResult) (store : AgentStore) :
    Except StoreError AgentStore :=
  match store.steps.find (runId, stepResult.stepId) with
  | none => .error (.state "Agent step does not exist")
  | some step =>
      if step.capabilityId ≠ stepResult.capabilityId ∨ step.requestId ≠ stepResult.requestId then
        .error (.state "Agent step result does not match durable step identity")
      else do
        let attempt := step.attemptCount + 1
        let resultJson := jsonColumn (.obj (stepResult.result.getD []))
        let store ← store.updateStep { step with
          attemptCount := attempt, status := some stepResult.status, approvalId := stepResult.approvalId, resultJson
          errorCode := stepResult.errorCode, errorMessage := stepResult.error
          startedAt := some (step.startedAt.getD now)
          finishedAt := if stepResult.status = .waitingApproval then none else some now }
        .ok { store with attempts := store.attempts ++ [{
          agentRunId := runId, stepId := step.stepId, attempt, capabilityId := step.capabilityId
          requestId := step.requestId, status := stepResult.status, approvalId := stepResult.approvalId
          argumentsJson := step.argumentsJson, resultJson, errorCode := stepResult.errorCode
          errorMessage := stepResult.error, finishedAt := now }] }

inductive StoreCall where
  | create (context : ExecutionContext) (plan : AgentPlan)
  | claim (runId token : String) (leaseSeconds : Int)
  | transition (runId : String) (target : RunStatus) (currentStepId errorCode errorMessage : Option String)
      (result : Option Fields)
  | queue (context : ExecutionContext) (runId : String) (approvalId : Option String)
  | record (runId : String) (stepResult : AgentStepResult)
  /-- The Kernel asks for an approval. -/
  | approve (id : String)

def StoreCall.perform (deployment : Deployment) (now : Int) : StoreCall → AgentStore → Except StoreError AgentStore
  | .create context plan => createRun deployment context plan
  | .claim runId token leaseSeconds => claimRun now runId token leaseSeconds
  | .transition runId target stepId code message result => transitionRun now runId target stepId code message result
  | .queue context runId approvalId => queueAfterApproval context runId approvalId
  | .record runId stepResult => recordStepResult now runId stepResult
  | .approve id => fun store =>
      if short : id.length ≤ 36 then .ok { store with
        approvals := id :: store.approvals
        sized := List.forall_mem_cons.mpr ⟨short, store.sized⟩
        approved := fun row member other held => List.mem_cons_of_mem _ (store.approved row member other held) }
      else .error .integrity

def committed (deployment : Deployment) (calls : List (Int × StoreCall)) (store : AgentStore) : AgentStore :=
  calls.foldl (fun store entry => (entry.2.perform deployment entry.1 store).toOption.getD store) store

/-! ### What the rows carry of a plan -/

variable {deployment : Deployment} {plan other : AgentPlan} {store next : AgentStore} {runId : String} {now : Int}

structure Carries (entry : AgentPlanStep × Nat) (row : AgentRuntimeStep) : Prop where
  stepId : row.stepId = entry.1.stepId
  stepOrder : row.stepOrder = entry.2
  capabilityId : row.capabilityId = entry.1.capabilityId
  argumentsJson : row.argumentsJson = jsonColumn (.obj entry.1.arguments)

def AgentStore.stepsOf (store : AgentStore) (runId : String) : List AgentRuntimeStep :=
  store.steps.select fun row => row.agentRunId = runId

structure Holds (plan : AgentPlan) (store : AgentStore) : Prop where
  run : ∃ row, store.runs.find plan.runId = some row ∧ row.goal = plan.goal ∧ row.budgetJson = budgetJson plan
  steps : List.Forall₂ Carries plan.steps.zipIdx (store.stepsOf plan.runId)

theorem Holds.updateRun (holds : Holds plan store) {row old : AgentRuntimeRun} (found : store.runs.find row.id = some old)
    (goal : row.goal = old.goal) (budget : row.budgetJson = old.budgetJson) : Holds plan (store.updateRun row) where
  run := by
    obtain ⟨run, present, aimed, budgeted⟩ := holds.run
    rw [AgentStore.updateRun, Table.find_replace]
    by_cases same : plan.runId = row.id
    · rw [same] at present
      cases found.symm.trans present
      rw [if_pos same, same, found]
      exact ⟨row, rfl, goal.trans aimed, budget.trans budgeted⟩
    · rw [if_neg same]
      exact ⟨run, present, aimed, budgeted⟩
  steps := holds.steps

variable {row : AgentRuntimeStep} {context : ExecutionContext}

theorem Holds.updateStep (holds : Holds plan store) {old : AgentRuntimeStep}
    (updated : store.updateStep row = .ok next) (found : store.steps.find row.identity = some old)
    (order : row.stepOrder = old.stepOrder) (capability : row.capabilityId = old.capabilityId)
    (arguments : row.argumentsJson = old.argumentsJson) : Holds plan next := by
  unfold AgentStore.updateStep at updated
  split at updated
  · cases updated
    refine ⟨holds.run, ?_⟩
    have rows : (store.steps.replace row).select (fun row => row.agentRunId = plan.runId) =
        (store.stepsOf plan.runId).map fun old => if old.identity = row.identity then row else old := by
      rw [AgentStore.stepsOf, Table.select, Table.select, Table.replace, List.filter_map]
      congr 2
      funext old
      by_cases same : old.identity = row.identity
      · simp [same, (Prod.mk.inj same).1]
      · simp [same]
    unfold AgentStore.stepsOf
    rw [rows, List.forall₂_map_right_iff]
    have each : ∀ entry current, current ∈ store.stepsOf plan.runId → Carries entry current →
        Carries entry (if current.identity = row.identity then row else current) := by
      intro entry current member carries
      split
      · next same =>
        have held := Table.find_of_mem (List.mem_filter.mp member).1
        rw [same, found] at held
        cases held
        exact ⟨(Prod.mk.inj same).2.symm.trans carries.stepId, order.trans carries.stepOrder,
          capability.trans carries.capabilityId, arguments.trans carries.argumentsJson⟩
      · exact carries
    exact (List.forall₂_iff_zip.mpr ⟨holds.steps.length_eq, fun {entry current} member =>
      each entry current (List.of_mem_zip member).2 ((List.forall₂_iff_zip.mp holds.steps).2 member)⟩)
  · cases updated

theorem insertRun_ok {row : AgentRuntimeRun} (inserted : store.insertRun row = .ok next) :
    next.runs = store.runs.insert row ∧ next.steps = store.steps := by
  unfold AgentStore.insertRun at inserted
  split at inserted
  · cases inserted
  · cases inserted
    exact ⟨rfl, rfl⟩

theorem insertStep_ok (inserted : store.insertStep row = .ok next) :
    next.runs = store.runs ∧ next.steps.rows = store.steps.rows ++ [row] := by
  unfold AgentStore.insertStep at inserted
  split at inserted
  · next absent =>
    split at inserted
    · next refers =>
      cases inserted
      exact ⟨rfl, Table.insert_rows absent⟩
    · cases inserted
  · cases inserted

theorem insertSteps_ok {entries : List (AgentPlanStep × Nat)}
    (inserted : entries.foldlM (fun store entry => store.insertStep (stepRow deployment runId entry)) store = .ok next) :
    next.runs = store.runs ∧ next.steps.rows = store.steps.rows ++ entries.map (stepRow deployment runId) := by
  induction entries generalizing store with
  | nil =>
    cases inserted
    simp
  | cons entry rest ih =>
    rw [List.foldlM_cons] at inserted
    obtain ⟨between, first, later⟩ := bind_eq_ok.mp inserted
    obtain ⟨runs, rows⟩ := insertStep_ok first
    obtain ⟨runs', rows'⟩ := ih later
    rw [rows, List.append_assoc, List.singleton_append, ← List.map_cons] at rows'
    exact ⟨runs'.trans runs, rows'⟩

theorem createRun_ok (created : createRun deployment context plan store = .ok next) :
    store.runs.find plan.runId = none ∧
      (∃ row, row.goal = plan.goal ∧ row.budgetJson = budgetJson plan ∧ row.id = plan.runId ∧
        next.runs = store.runs.insert row) ∧
      next.steps.rows = store.steps.rows ++ plan.steps.zipIdx.map (stepRow deployment plan.runId) := by
  unfold createRun at created
  split at created
  · cases created
  · next absent =>
    obtain ⟨⟨scopeKind, workspaceId, ownerUserId⟩, -, rest⟩ := bind_eq_ok.mp created
    obtain ⟨between, first, later⟩ := bind_eq_ok.mp rest
    obtain ⟨runs, rows⟩ := insertSteps_ok later
    obtain ⟨inserted, steps⟩ := insertRun_ok first
    rw [steps] at rows
    exact ⟨by simpa using absent, ⟨_, rfl, rfl, rfl, runs.trans inserted⟩, rows⟩

theorem stepsOf_append {rows : List AgentRuntimeStep} (same : next.steps.rows = store.steps.rows ++ rows) :
    next.stepsOf runId = store.stepsOf runId ++ rows.filter fun row => row.agentRunId = runId := by
  rw [AgentStore.stepsOf, Table.select, same, List.filter_append]
  rfl

theorem stepRow_carries (entry : AgentPlanStep × Nat) : Carries entry (stepRow deployment runId entry) :=
  ⟨rfl, rfl, rfl, rfl⟩

theorem stepsOf_created (created : createRun deployment context plan store = .ok next) :
    next.stepsOf plan.runId = plan.steps.zipIdx.map (stepRow deployment plan.runId) := by
  obtain ⟨absent, -, rows⟩ := createRun_ok created
  have none : store.stepsOf plan.runId = [] := by
    rw [AgentStore.stepsOf, Table.select, List.filter_eq_nil_iff]
    intro row member same
    have owned := store.owned row member
    rw [of_decide_eq_true same, absent] at owned
    cases owned
  rw [stepsOf_append rows, none, List.nil_append, List.filter_eq_self]
  intro row member
  obtain ⟨entry, -, rfl⟩ := List.mem_map.mp member
  exact decide_eq_true rfl

theorem Holds.created (created : createRun deployment context plan store = .ok next) :
    Holds plan next where
  run := by
    obtain ⟨absent, ⟨row, goal, budget, named, runs⟩, -⟩ := createRun_ok created
    refine ⟨row, ?_, goal, budget⟩
    rw [runs, Table.find_insert, absent, if_pos named.symm]
    rfl
  steps := by
    rw [stepsOf_created created, List.forall₂_map_right_iff, List.forall₂_same]
    exact fun entry _ => stepRow_carries entry

/-! ### What later calls keep -/

theorem Holds.create (holds : Holds plan store) (created : createRun deployment context other store = .ok next) :
    Holds plan next := by
  obtain ⟨absent, ⟨row, -, -, named, runs⟩, rows⟩ := createRun_ok created
  obtain ⟨run, present, same⟩ := holds.run
  have apart : other.runId ≠ plan.runId := by
    intro same
    rw [same, present] at absent
    cases absent
  refine ⟨⟨run, ?_, same⟩, ?_⟩
  · rw [runs, Table.find_insert, present]
    rfl
  · have nothing : (other.steps.zipIdx.map (stepRow deployment other.runId)).filter
        (fun row => row.agentRunId = plan.runId) = [] := by
      rw [List.filter_eq_nil_iff]
      intro row member
      obtain ⟨entry, -, rfl⟩ := List.mem_map.mp member
      simp [stepRow, apart]
    rw [stepsOf_append rows, nothing, List.append_nil]
    exact holds.steps

theorem Holds.claim (holds : Holds plan store) {token : String} {leaseSeconds : Int}
    (claimed : claimRun now runId token leaseSeconds store = .ok next) : Holds plan next := by
  unfold claimRun at claimed
  split at claimed
  · cases claimed
  · split at claimed
    · cases claimed
    · split at claimed
      · cases claimed
        exact holds
      · next row found =>
        dsimp only at claimed
        split at claimed
        · cases claimed
          have present := Table.find_of_mem (Table.find_mem found)
          exact holds.updateRun present rfl rfl
        · cases claimed
          exact holds

theorem Holds.transition (holds : Holds plan store) {target : RunStatus} {stepId code message : Option String}
    {result : Option Fields} (moved : transitionRun now runId target stepId code message result store = .ok next) :
    Holds plan next := by
  unfold transitionRun at moved
  split at moved
  · cases moved
  · next row found =>
    split at moved
    · cases moved
    · cases moved
      have present := Table.find_of_mem (Table.find_mem found)
      exact holds.updateRun present rfl rfl

theorem updateStep_runs (updated : store.updateStep row = .ok next) : next.runs = store.runs := by
  unfold AgentStore.updateStep at updated
  split at updated
  · cases updated
    rfl
  · cases updated

theorem Holds.queue (holds : Holds plan store) {approvalId : Option String}
    (queued : queueAfterApproval context runId approvalId store = .ok next) : Holds plan next := by
  unfold queueAfterApproval at queued
  split at queued
  · cases queued
  · split at queued
    · cases queued
    · next row matching =>
      have found := (Option.filter_eq_some_iff.mp matching).1
      rw [check_eq_ok, check_eq_ok] at queued
      replace queued := queued.2.2
      split at queued
      · next step held =>
        split at queued
        · obtain ⟨between, updated, ended⟩ := bind_eq_ok.mp queued
          cases ended
          have stored := Table.find_of_mem (Table.find_mem held)
          have kept := holds.updateStep updated stored rfl rfl rfl
          have present : between.runs.find row.id = some row := by
            rw [updateStep_runs updated]
            exact Table.find_of_mem (Table.find_mem found)
          exact kept.updateRun present rfl rfl
        · cases queued
      · cases queued

theorem Holds.record (holds : Holds plan store) {stepResult : AgentStepResult}
    (recorded : recordStepResult now runId stepResult store = .ok next) : Holds plan next := by
  unfold recordStepResult at recorded
  split at recorded
  · cases recorded
  · next step held =>
    split at recorded
    · cases recorded
    · obtain ⟨between, updated, ended⟩ := bind_eq_ok.mp recorded
      cases ended
      have stored := Table.find_of_mem (Table.find_mem held)
      have kept := holds.updateStep updated stored rfl rfl rfl
      exact ⟨kept.run, kept.steps⟩

theorem Holds.perform (holds : Holds plan store) {call : StoreCall}
    (performed : call.perform deployment now store = .ok next) : Holds plan next := by
  cases call with
  | create context other => exact holds.create performed
  | claim runId token leaseSeconds => exact holds.claim performed
  | transition runId target stepId code message result => exact holds.transition performed
  | queue context runId approvalId => exact holds.queue performed
  | record runId stepResult => exact holds.record performed
  | approve id =>
    simp only [StoreCall.perform] at performed
    split at performed
    · cases performed
      exact ⟨holds.run, holds.steps⟩
    · cases performed

theorem Holds.committed (holds : Holds plan store) (calls : List (Int × StoreCall)) :
    Holds plan (committed deployment calls store) := by
  induction calls generalizing store with
  | nil => exact holds
  | cons entry rest ih =>
    apply ih
    dsimp only
    cases performed : entry.2.perform deployment entry.1 store with
    | ok next => exact holds.perform performed
    | error error => exact holds

/-! ### Reading the rows again -/

structure AgentPlanStep.Reads (step read : AgentPlanStep) : Prop where
  stepId : read.stepId = step.stepId
  capabilityId : read.capabilityId = step.capabilityId
  arguments : Json.same (.obj step.arguments) (.obj read.arguments) = true

theorem Bounded.clean_eq {limit : Nat} {text : String} (bounded : Bounded limit text) :
    orNone (clean (some text)) = some text := by
  rw [clean, Option.getD_some, bounded.1, orNone, if_neg bounded.2.1]

theorem bounded_of_clean {limit : Nat} {text id : String} (short : text.length ≤ limit)
    (cleaned : orNone (clean (some text)) = some id) : Bounded limit id := by
  unfold orNone at cleaned
  split at cleaned
  · cases cleaned
  · next ink =>
    cases cleaned
    exact ⟨strip_strip text, ink, (strip_length_le text).trans short⟩

theorem loadStep_of_carries {entry : AgentPlanStep × Nat} (carries : Carries entry row)
    (proper : (Json.obj entry.1.arguments).proper = true) (short : ∀ id ∈ row.approvalId, id.length ≤ 36) :
    ∃ step, loadStep row = .ok step ∧ entry.1.Reads step ∧ step.approvalId = orNone (clean row.approvalId) := by
  have approved : ∀ id ∈ orNone (clean row.approvalId), Bounded 36 id := by
    intro id cleaned
    cases held : row.approvalId with
    | none =>
      rw [held] at cleaned
      exact absurd cleaned (by decide +revert)
    | some text =>
      rw [held] at cleaned
      exact bounded_of_clean (short text held) cleaned
  have same : strip row.stepId = row.stepId ∧ strip row.capabilityId = row.capabilityId := by
    rw [carries.stepId, carries.capabilityId]
    exact ⟨entry.1.named.1, entry.1.capable.1⟩
  have named : Bounded 120 (strip row.stepId) := by
    rw [same.1, carries.stepId]
    exact entry.1.named
  have capable : Bounded 200 (strip row.capabilityId) := by
    rw [same.2, carries.capabilityId]
    exact entry.1.capable
  have arguments : row.argumentsJson = .obj (Json.byKey (Json.sortFields entry.1.arguments)) := by
    rw [carries.argumentsJson, jsonColumn, Json.sortKeys]
  refine ⟨⟨strip row.stepId, strip row.capabilityId, Json.byKey (Json.sortFields entry.1.arguments),
    orNone (clean row.approvalId), named, capable, approved⟩, ?_, ⟨same.1.trans carries.stepId, same.2.trans carries.capabilityId, ?_⟩, rfl⟩
  · simp only [loadStep, arguments, objectJson, bind, Except.bind, AgentPlanStep.create, dif_pos named, dif_pos capable,
      dif_pos approved]
    rfl
  · have held := Json.same_sortKeys proper
    rwa [Json.sortKeys] at held

theorem mapM_carried {α β γ ε : Type} (each : β → Except ε γ) {carries : α → β → Prop} {reads : α → γ → Prop}
    {items : List α} {rows : List β} (related : List.Forall₂ carries items rows)
    (read : ∀ item ∈ items, ∀ row ∈ rows, carries item row → ∃ value, each row = .ok value ∧ reads item value) :
    ∃ values, rows.mapM each = .ok values ∧ List.Forall₂ reads items values := by
  induction related with
  | nil => exact ⟨[], rfl, .nil⟩
  | @cons item row items rows first rest ih =>
    obtain ⟨value, here, held⟩ := read item List.mem_cons_self row List.mem_cons_self first
    obtain ⟨values, later, helds⟩ := ih fun item member row listed =>
      read item (List.mem_cons_of_mem _ member) row (List.mem_cons_of_mem _ listed)
    refine ⟨value :: values, ?_, .cons held helds⟩
    rw [List.mapM_cons, here]
    simp only [bind, Except.bind, later]
    rfl

theorem map_of_forall₂ {α β γ : Type} {carries : α → β → Prop} (left : α → γ) {right : β → γ} {items : List α}
    {rows : List β} (related : List.Forall₂ carries items rows)
    (same : ∀ item row, carries item row → right row = left item) : rows.map right = items.map left := by
  induction related with
  | nil => rfl
  | cons first rest ih => rw [List.map_cons, List.map_cons, ih, same _ _ first]

theorem Holds.listSteps (holds : Holds plan store) : store.listSteps plan.runId = store.stepsOf plan.runId := by
  have orders := map_of_forall₂ Prod.snd holds.steps fun entry row carries => carries.stepOrder
  rw [List.zipIdx_map_snd] at orders
  apply List.Pairwise.insertionSort_eq
  have sorted : ((store.stepsOf plan.runId).map AgentRuntimeStep.stepOrder).Pairwise (· ≤ ·) := by
    rw [orders]
    exact List.pairwise_le_range'
  exact List.pairwise_map.mp sorted

theorem AgentBudget.create_self (budget : AgentBudget) :
    AgentBudget.create budget.maxSteps budget.maxMutations = .ok budget := by
  have steps : (1 : Int) ≤ budget.maxSteps ∧ (budget.maxSteps : Int) ≤ 128 := by
    have bounded := budget.stepsBounded
    omega
  have mutations : (0 : Int) ≤ budget.maxMutations ∧ (budget.maxMutations : Int) ≤ 64 := by
    have bounded := budget.mutationsBounded
    omega
  rw [AgentBudget.create, dif_pos steps, dif_pos mutations]
  rfl

theorem intOf_budget (budget : AgentBudget) :
    intOf ((Fields.get (Json.byKey (Json.sortFields (budgetFields budget))) "max_steps").getD (.int 0)) =
        .ok budget.maxSteps ∧
      intOf ((Fields.get (Json.byKey (Json.sortFields (budgetFields budget))) "max_mutations").getD (.int (-1))) =
        .ok budget.maxMutations := by
  rw [Fields.get_sorted, Fields.get_sorted]
  exact ⟨rfl, rfl⟩

theorem loadedPlan_ok {row : AgentRuntimeRun} {rows : List AgentRuntimeStep} {read : List AgentPlanStep}
    (named : strip row.id = plan.runId) (aimed : strip row.goal = plan.goal) (mapped : rows.mapM loadStep = .ok read)
    (nonempty : read ≠ []) (distinct : (read.map (·.stepId)).Nodup) :
    loadedPlan row (Json.byKey (Json.sortFields (budgetFields plan.budget))) rows =
      .ok ⟨plan.runId, plan.goal, read, plan.budget, plan.named, plan.aimed, nonempty, distinct⟩ := by
  obtain ⟨steps, mutations⟩ := intOf_budget plan.budget
  simp only [loadedPlan, steps, mutations, AgentBudget.create_self, mapped, bind, Except.bind, AgentPlan.create, named,
    aimed, dif_pos plan.named, dif_pos plan.aimed, dif_pos nonempty, dif_pos distinct]
  rfl

theorem loadPlan_ok {carried : AgentPlanStep × Nat → AgentRuntimeStep → Prop}
    (implies : ∀ entry row, carried entry row → Carries entry row) (holds : Holds plan store)
    (steps : List.Forall₂ carried plan.steps.zipIdx (store.stepsOf plan.runId))
    (proper : ∀ step ∈ plan.steps, (Json.obj step.arguments).proper = true) :
    ∃ loaded, loadPlan plan.runId store = .ok loaded ∧ loaded.runId = plan.runId ∧ loaded.goal = plan.goal ∧
      loaded.budget = plan.budget ∧ List.Forall₂ (fun entry step => entry.1.Reads step ∧
        ∃ row, carried entry row ∧ step.approvalId = orNone (clean row.approvalId)) plan.steps.zipIdx loaded.steps := by
  have read : ∀ entry ∈ plan.steps.zipIdx, ∀ row ∈ store.stepsOf plan.runId, carried entry row →
      ∃ step, loadStep row = .ok step ∧ entry.1.Reads step ∧
        ∃ row, carried entry row ∧ step.approvalId = orNone (clean row.approvalId) := by
    intro entry member row listed carries
    have short : ∀ id ∈ row.approvalId, id.length ≤ 36 := fun id held =>
      store.sized id (store.approved row (List.mem_filter.mp listed).1 id held)
    have proper := proper entry.1 (List.fst_mem_of_mem_zipIdx member)
    obtain ⟨step, loaded, reads, approval⟩ := loadStep_of_carries (implies entry row carries) proper short
    exact ⟨step, loaded, reads, row, carries, approval⟩
  obtain ⟨read, mapped, each⟩ := mapM_carried loadStep steps read
  have ids : read.map (·.stepId) = plan.steps.map (·.stepId) := by
    have zipped := map_of_forall₂ (fun entry => entry.1.stepId) each fun entry step both => both.1.stepId
    rw [zipped]
    conv_rhs => rw [← List.zipIdx_map_fst 0 plan.steps, List.map_map]
    rfl
  have nonempty : read ≠ [] := by
    intro empty
    rw [empty] at ids
    exact plan.nonempty (List.map_eq_nil_iff.mp ids.symm)
  have distinct : (read.map (·.stepId)).Nodup := ids ▸ plan.distinct
  have stored : store.stepsOf plan.runId ≠ [] := by
    intro none
    rw [none] at mapped
    cases mapped
    exact nonempty rfl
  obtain ⟨row, found, goal, budget⟩ := holds.run
  have named : strip row.id = plan.runId := by rw [Table.find_key found, plan.named.1]
  have aimed : strip row.goal = plan.goal := by rw [goal, plan.aimed.1]
  refine ⟨⟨plan.runId, plan.goal, read, plan.budget, plan.named, plan.aimed, nonempty, distinct⟩, ?_, rfl, rfl, rfl, each⟩
  have data : objectJson "agent budget" row.budgetJson =
      .ok (Json.byKey (Json.sortFields (budgetFields plan.budget))) := by
    rw [budget, budgetJson, jsonColumn, Json.sortKeys, objectJson]
  simp only [loadPlan, found, data, holds.listSteps, if_neg stored, bind, Except.bind,
    loadedPlan_ok named aimed mapped nonempty distinct, Except.mapError]

/-- Python's `==` on plans. -/
structure AgentPlan.Equals (plan loaded : AgentPlan) : Prop where
  runId : loaded.runId = plan.runId
  goal : loaded.goal = plan.goal
  budget : loaded.budget = plan.budget
  steps : List.Forall₂ (fun step read => step.Reads read ∧ read.approvalId = step.approvalId) plan.steps loaded.steps

structure AgentPlan.Reads (plan loaded : AgentPlan) : Prop where
  runId : loaded.runId = plan.runId
  goal : loaded.goal = plan.goal
  budget : loaded.budget = plan.budget
  steps : List.Forall₂ AgentPlanStep.Reads plan.steps loaded.steps

theorem forall₂_steps {reads : AgentPlanStep → AgentPlanStep → Prop} {steps loaded : List AgentPlanStep}
    (each : List.Forall₂ (fun entry step => reads entry.1 step) steps.zipIdx loaded) : List.Forall₂ reads steps loaded := by
  rw [← List.zipIdx_map_fst 0 steps, List.forall₂_map_left_iff]
  exact each

/-- A plan that `create_run` accepts is loaded as an equal plan, and whatever calls come after, its steps and their
arguments are loaded again. -/
theorem plans_reload {context : ExecutionContext} (proper : ∀ step ∈ plan.steps, (Json.obj step.arguments).proper = true)
    (created : createRun deployment context plan store = .ok next) :
    (∃ loaded, loadPlan plan.runId next = .ok loaded ∧ plan.Equals loaded) ∧
      ∀ calls, ∃ loaded, loadPlan plan.runId (committed deployment calls next) = .ok loaded ∧ plan.Reads loaded := by
  have holds := Holds.created created
  constructor
  · have steps : List.Forall₂ (fun entry row => Carries entry row ∧ row.approvalId = entry.1.approvalId) plan.steps.zipIdx
        (next.stepsOf plan.runId) := by
      rw [stepsOf_created created, List.forall₂_map_right_iff, List.forall₂_same]
      exact fun entry _ => ⟨stepRow_carries entry, rfl⟩
    obtain ⟨loaded, read, runId, goal, budget, each⟩ := loadPlan_ok (fun _ _ both => both.1) holds steps proper
    refine ⟨loaded, read, runId, goal, budget, forall₂_steps (each.imp fun entry step both => ⟨both.1, ?_⟩)⟩
    obtain ⟨row, ⟨-, same⟩, approval⟩ := both.2
    rw [approval, same]
    cases held : entry.1.approvalId with
    | none => decide +revert
    | some id => exact (entry.1.approved id held).clean_eq
  · intro calls
    have kept : Holds plan (committed deployment calls next) := holds.committed calls
    obtain ⟨loaded, read, runId, goal, budget, each⟩ := loadPlan_ok (fun _ _ carries => carries) kept kept.steps proper
    exact ⟨loaded, read, runId, goal, budget, forall₂_steps (each.imp fun entry step both => both.1)⟩

theorem unapproved : ∀ id ∈ (none : Option String), Bounded 36 id := nofun

def mailPlan : AgentPlan where
  runId := "run"
  goal := "Write to Ada"
  steps := [⟨"draft", "mail.send", [("to", .str "ada"), ("copies", .int 2)], none, by decide, by decide, unapproved⟩]
  budget := .standard
  named := by decide
  aimed := by decide
  nonempty := by decide
  distinct := by decide

def emptyStore : AgentStore := ⟨.empty, .empty, [], [], nofun, nofun, nofun⟩

theorem plans_reload_mail : ∃ next, createRun sample sampleContext mailPlan emptyStore = .ok next ∧
    (∃ loaded, loadPlan "run" next = .ok loaded ∧ mailPlan.Equals loaded) ∧
      ∀ calls, ∃ loaded, loadPlan "run" (committed sample calls next) = .ok loaded ∧ mailPlan.Reads loaded := by
  cases created : createRun sample sampleContext mailPlan emptyStore with
  | ok next =>
    have proper : ∀ step ∈ mailPlan.steps, (Json.obj step.arguments).proper = true :=
      List.forall_mem_singleton.mpr (by decide)
    exact ⟨next, rfl, plans_reload proper created⟩
  | error error =>
    have accepted : (createRun sample sampleContext mailPlan emptyStore).isOk = true := by decide +kernel
    rw [created] at accepted
    cases accepted

end Operly.Agent
