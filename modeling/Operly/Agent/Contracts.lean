import Operly.Kernel.Idempotency

/-! The contracts of the agent runtime: a step of a plan, what became of it, and the one request
id under which the Kernel knows it. -/

namespace Operly.Agent
open Python Security Kernel

inductive AgentStepStatus where
  | completed
  | waitingApproval
  | failed
  | cancelled
  | executionUncertain
  deriving DecidableEq

def Bounded (limit : Nat) (text : String) : Prop :=
  strip text = text ∧ text ≠ "" ∧ text.length ≤ limit

instance (limit : Nat) (text : String) : Decidable (Bounded limit text) :=
  inferInstanceAs (Decidable (_ ∧ _ ∧ _))

structure AgentPlanStep where
  stepId : String
  capabilityId : String
  arguments : Fields
  approvalId : Option String
  named : Bounded 120 stepId
  capable : Bounded 200 capabilityId
  approved : ∀ id ∈ approvalId, Bounded 36 id

/-- `AgentPlanStep.__post_init__` -/
def AgentPlanStep.create (stepId capabilityId : String) (arguments : Fields)
    (approvalId : Option String) : Except KernelError AgentPlanStep :=
  let stepId := strip stepId
  let capabilityId := strip capabilityId
  let approvalId := orNone (clean approvalId)
  if named : Bounded 120 stepId then
    if capable : Bounded 200 capabilityId then
      if approved : ∀ id ∈ approvalId, Bounded 36 id then
        .ok { stepId, capabilityId, arguments, approvalId, named, capable, approved }
      else .error (.value "approval_id must be at most 36 characters")
    else .error (.value "capability_id must contain 1-200 characters")
  else .error (.value "step_id must contain 1-120 characters")

structure AgentBudget where
  maxSteps : Nat := 24
  maxMutations : Nat := 8
  stepsBounded : 1 ≤ maxSteps ∧ maxSteps ≤ 128 := by decide
  mutationsBounded : maxMutations ≤ 64 := by decide

theorem AgentBudget.stepsBounded_standard : 1 ≤ 24 ∧ 24 ≤ 128 := by decide

theorem AgentBudget.mutationsBounded_standard : 8 ≤ 64 := by decide

abbrev AgentBudget.standard : AgentBudget := ⟨24, 8, stepsBounded_standard, mutationsBounded_standard⟩

structure AgentPlan where
  runId : String
  goal : String
  steps : List AgentPlanStep
  budget : AgentBudget
  named : Bounded 120 runId
  aimed : Bounded 12000 goal
  nonempty : steps ≠ []
  distinct : (steps.map (·.stepId)).Nodup

/-- `AgentPlan.__post_init__` -/
def AgentPlan.create (runId goal : String) (steps : List AgentPlanStep) (budget : AgentBudget) :
    Except KernelError AgentPlan :=
  let runId := strip runId
  let goal := strip goal
  if named : Bounded 120 runId then
    if aimed : Bounded 12000 goal then
      if nonempty : steps ≠ [] then
        if distinct : (steps.map (·.stepId)).Nodup then
          .ok { runId, goal, steps, budget, named, aimed, nonempty, distinct }
        else .error (.value "Agent plan step_id values must be unique")
      else .error (.value "Agent plan must contain at least one step")
    else .error (.value "goal must contain 1-12000 characters")
  else .error (.value "run_id must contain 1-120 characters")

theorem AgentPlan.create_ok {runId goal : String} {steps : List AgentPlanStep} {budget : AgentBudget} {plan : AgentPlan}
    (created : AgentPlan.create runId goal steps budget = .ok plan) :
    plan.runId = strip runId ∧ plan.goal = strip goal ∧ plan.steps = steps ∧ plan.budget = budget := by
  unfold AgentPlan.create at created
  dsimp only at created
  split at created
  · split at created
    · split at created
      · split at created
        · cases created
          exact ⟨rfl, rfl, rfl, rfl⟩
        · cases created
      · cases created
    · cases created
  · cases created

theorem AgentPlanStep.create_ok {stepId capabilityId : String} {arguments : Fields} {approvalId : Option String}
    {step : AgentPlanStep} (created : AgentPlanStep.create stepId capabilityId arguments approvalId = .ok step) :
    step.stepId = strip stepId ∧ step.capabilityId = strip capabilityId ∧ step.arguments = arguments ∧
      step.approvalId = orNone (clean approvalId) := by
  unfold AgentPlanStep.create at created
  dsimp only at created
  split at created
  · split at created
    · split at created
      · cases created
        exact ⟨rfl, rfl, rfl, rfl⟩
      · cases created
    · cases created
  · cases created

structure AgentStepResult where
  stepId : String
  capabilityId : String
  requestId : String
  status : AgentStepStatus
  result : Option Fields := none
  approvalId : Option String := none
  errorCode : Option String := none
  error : Option String := none

def stableStepRequestId (deployment : Deployment) (runId stepId : String) : String :=
  "agent-step:" ++ deployment.digest (strip runId ++ "\x00" ++ strip stepId)

theorem strip_ne_empty {text : String} {first : Char} {rest : List Char}
    (starts : text.toList = first :: rest) (visible : isSpace first = false) : strip text ≠ "" := by
  intro empty
  have nothing : stripChars text.toList = [] := by
    simpa [strip] using congrArg String.toList empty
  rw [stripChars_eq, starts, List.dropWhile_cons_of_neg (by simp [visible]),
    List.rdropWhile_eq_nil_iff] at nothing
  simpa [visible] using nothing first List.mem_cons_self

theorem stableStepRequestId_clean (deployment : Deployment) (runId stepId : String) :
    clean (some (stableStepRequestId deployment runId stepId)) ≠ "" := by
  have starts : (stableStepRequestId deployment runId stepId).toList = 'a' :: ("gent-step:".toList ++
      (deployment.digest (strip runId ++ "\x00" ++ strip stepId)).toList) := by
    simp [stableStepRequestId]
  exact strip_ne_empty starts (by decide)

end Operly.Agent
