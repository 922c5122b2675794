import Operly.Agent.PromptSize

/-! What the plans of the planner keep to, whatever the model answers. -/

namespace Operly.Agent
open Python Security Kernel

namespace GovernedAgentPlanner
variable {planner : GovernedAgentPlanner} {context : ExecutionContext}

variable {specs : List CapabilitySpec} {cards : List PlannerCapability} {spec : CapabilitySpec} {maxMutations : Nat}
  {steps : List AgentPlanStep}

theorem takeCards_mem {promptBytes : Nat} {card : PlannerCapability}
    (taken : card ∈ planner.takeCards promptBytes specs) : ∃ spec ∈ specs, spec.id = card.id := by
  induction specs generalizing promptBytes with
  | nil => cases taken
  | cons spec rest ih =>
    rw [takeCards] at taken
    split at taken
    · obtain ⟨other, later, same⟩ := ih taken
      exact ⟨other, List.mem_cons_of_mem _ later, same⟩
    split at taken
    · cases taken
    rcases List.mem_cons.mp taken with rfl | later
    · exact ⟨spec, List.mem_cons_self, rfl⟩
    · obtain ⟨other, later, same⟩ := ih later
      exact ⟨other, List.mem_cons_of_mem _ later, same⟩

def Offered (planner : GovernedAgentPlanner) (context : ExecutionContext) (cards : List PlannerCapability) : Prop :=
  ∀ card ∈ cards, ∃ spec ∈ planner.catalog.effective context, spec.id = card.id

theorem retrieve_offered {goal : String} (retrieved : planner.retrieve goal context = .ok cards) :
    Offered planner context cards := by
  intro card taken
  rw [(retrieve_ok.mp retrieved).2.2] at taken
  obtain ⟨spec, shown, same⟩ := takeCards_mem taken
  exact ⟨spec, Catalog.search_effective shown, same⟩

/-! ### The steps that are taken over -/

structure Governed (planner : GovernedAgentPlanner) (context : ExecutionContext) (spec : CapabilitySpec)
    (arguments : Fields) : Prop where
  effective : spec ∈ planner.catalog.effective context
  valid : validateSchema (.obj arguments) spec.inputSchema = .ok ()

theorem allowedSpec_effective (offered : Offered planner context cards) {capabilityId : String}
    (allowed : planner.allowedSpec cards capabilityId = some spec) : spec ∈ planner.catalog.effective context := by
  unfold allowedSpec at allowed
  split at allowed
  · next listed =>
    obtain ⟨card, member, rfl⟩ := List.mem_map.mp listed
    obtain ⟨shown, effective, same⟩ := offered card member
    have known := CapabilityRegistry.lookup_eq_some.mp allowed
    have registered := (CapabilityRegistry.mem_effective.mp effective).1
    rwa [CapabilityRegistry.eq_of_id known.1 registered (known.2.trans same.symm)]
  · cases allowed

theorem validateStep_ok (offered : Offered planner context cards) {raw : Json} {arguments : Fields}
    (validated : planner.validateStep cards raw = .ok (spec, arguments)) : Governed planner context spec arguments := by
  unfold validateStep at validated
  split at validated
  · split at validated
    · cases validated
    dsimp only at validated
    split at validated
    · cases validated
    · next allowed _ =>
      split at validated
      · cases validated
      · cases validated
      · next valid =>
        cases validated
        exact ⟨allowedSpec_effective offered allowed, valid⟩
    · cases validated
  · cases validated

def StepOf (planner : GovernedAgentPlanner) (context : ExecutionContext) (step : AgentPlanStep) (spec : CapabilitySpec) :
    Prop :=
  spec.id = step.capabilityId ∧ Governed planner context spec step.arguments

theorem validateStepsFrom_cons {index mutations : Nat} {raw : Json} {rest : List Json}
    (validated : planner.validateStepsFrom cards maxMutations index mutations (raw :: rest) = .ok steps) :
    ∃ spec arguments step later, planner.validateStep cards raw = .ok (spec, arguments) ∧
      (spec.mutating = true → mutations + 1 ≤ maxMutations) ∧
      AgentPlanStep.create (stepId index) spec.id arguments none = .ok step ∧
      planner.validateStepsFrom cards maxMutations (index + 1) (if spec.mutating then mutations + 1 else mutations) rest =
        .ok later ∧ steps = step :: later := by
  rw [validateStepsFrom] at validated
  obtain ⟨⟨spec, arguments⟩, first, validated⟩ := bind_eq_ok.mp validated
  obtain ⟨within, validated⟩ := check_eq_ok.mp validated
  obtain ⟨step, created, validated⟩ := bind_eq_ok.mp validated
  obtain ⟨later, following, same⟩ := bind_eq_ok.mp validated
  refine ⟨spec, arguments, step, later, first, ?_, mapError_eq_ok.mp created, following, (pure_eq_ok.mp same).symm⟩
  intro mutating
  simp only [mutating, true_and, ↓reduceIte, not_lt] at within
  exact within

theorem validateStepsFrom_ok (offered : Offered planner context cards) {index mutations : Nat} {raws : List Json}
    (start : mutations ≤ maxMutations)
    (validated : planner.validateStepsFrom cards maxMutations index mutations raws = .ok steps) :
    steps.length = raws.length ∧ ∃ specs, List.Forall₂ (StepOf planner context) steps specs ∧
      mutations + specs.countP (·.mutating) ≤ maxMutations := by
  induction raws generalizing index mutations steps with
  | nil =>
    cases validated
    exact ⟨rfl, [], .nil, by simpa using start⟩
  | cons raw rest ih =>
    obtain ⟨spec, arguments, step, later, first, within, created, following, rfl⟩ := validateStepsFrom_cons validated
    have room : (if spec.mutating then mutations + 1 else mutations) ≤ maxMutations := by
      split
      · next mutating => exact within mutating
      · exact start
    obtain ⟨length, specs, each, bounded⟩ := ih room following
    have governed := validateStep_ok offered first
    obtain ⟨-, capability, args, -⟩ := AgentPlanStep.create_ok created
    have trimmed : strip spec.id = spec.id := by
      have normalized := (planner.catalog.normalized spec (CapabilityRegistry.mem_effective.mp governed.effective).1).1
      rw [← normalized, strip_lower_strip]
    refine ⟨by rw [List.length_cons, List.length_cons, length], spec :: specs, .cons ⟨?_, ?_⟩ each, ?_⟩
    · rw [capability, trimmed]
    · rwa [args]
    · rw [List.countP_cons]
      split at bounded
      · next mutating =>
        rw [if_pos mutating]
        omega
      · next reading =>
        rw [if_neg reading]
        omega

theorem validateSteps_ok (offered : Offered planner context cards) {payload : Fields} {maxSteps : Nat}
    (validated : planner.validateSteps payload cards maxSteps maxMutations = .ok steps) :
    steps.length ≤ maxSteps ∧ ∃ specs, List.Forall₂ (StepOf planner context) steps specs ∧
      specs.countP (·.mutating) ≤ maxMutations := by
  unfold validateSteps at validated
  split at validated
  · cases validated
  split at validated
  · obtain ⟨within, validated⟩ := check_eq_ok.mp validated
    obtain ⟨length, specs, each, bounded⟩ := validateStepsFrom_ok offered (Nat.zero_le _) validated
    refine ⟨?_, specs, each, by omega⟩
    omega
  · cases validated

def mutatingSteps (registry : CapabilityRegistry) (plan : AgentPlan) : Nat :=
  plan.steps.countP fun step => match registry.get step.capabilityId with
    | .ok spec => spec.mutating
    | .error _ => false

/-- What a plan of the planner keeps to: every step is authorized and valid, and both budgets hold, also for the
check that comes before its execution. -/
structure Keeps (planner : GovernedAgentPlanner) (context : ExecutionContext) (budget : AgentBudget) (plan : AgentPlan) :
    Prop where
  authorized : ∀ step ∈ plan.steps, ∃ spec ∈ planner.catalog.effective context, spec.id = step.capabilityId ∧
    validateSchema (.obj step.arguments) spec.inputSchema = .ok ()
  distinct : (plan.steps.map (·.stepId)).Nodup
  steps : plan.steps.length ≤ budget.maxSteps ∧ plan.steps.length ≤ planner.limits.maxSteps
  mutations : mutatingSteps planner.catalog.toCapabilityRegistry plan ≤ budget.maxMutations
  accepted : preflightPlan planner.catalog.toCapabilityRegistry plan = none

theorem stepOf_of_mem (each : List.Forall₂ (StepOf planner context) steps specs) :
    ∀ step ∈ steps, ∃ spec, StepOf planner context step spec := by
  induction each with
  | nil => exact fun step member => absurd member List.not_mem_nil
  | cons named _ ih => exact List.forall_mem_cons.mpr ⟨⟨_, named⟩, ih⟩

theorem get_of_stepOf {step : AgentPlanStep} (named : StepOf planner context step spec) :
    planner.catalog.get step.capabilityId = .ok spec := by
  rw [← named.1]
  exact CapabilityRegistry.get_of_mem (CapabilityRegistry.mem_effective.mp named.2.effective).1

theorem mapM_get (each : List.Forall₂ (StepOf planner context) steps specs) :
    (steps.mapM fun step => planner.catalog.get step.capabilityId) = .ok specs := by
  induction each with
  | nil => rfl
  | cons named _ ih =>
    rw [List.mapM_cons, get_of_stepOf named, ih]
    rfl

theorem countP_mutating (each : List.Forall₂ (StepOf planner context) steps specs) :
    (steps.countP fun step => match planner.catalog.get step.capabilityId with
      | .ok spec => spec.mutating
      | .error _ => false) = specs.countP (·.mutating) := by
  induction each with
  | nil => rfl
  | cons named _ ih => rw [List.countP_cons, List.countP_cons, ih, get_of_stepOf named]

/-- Whatever a model returns, a plan that is made of it keeps to its context and its budgets. -/
theorem plan_keeps {runId goal : String} {budget : Option AgentBudget} {plan : AgentPlan}
    (planned : planner.plan runId goal context budget = .ok plan) : Keeps planner context (budget.getD {}) plan := by
  obtain ⟨request, prepared, planned⟩ := bind_eq_ok.mp planned
  obtain ⟨-, cards, retrieved, -, same⟩ := prepare_ok prepared
  split at planned
  · cases planned
  obtain ⟨payload, -, planned⟩ := bind_eq_ok.mp planned
  obtain ⟨steps, validated, planned⟩ := bind_eq_ok.mp planned
  obtain ⟨-, -, kept, granted⟩ := AgentPlan.create_ok (mapError_eq_ok.mp planned)
  rw [same] at validated
  obtain ⟨within, specs, each, bounded⟩ := validateSteps_ok (retrieve_offered retrieved) validated
  have length : plan.steps.length ≤ min (budget.getD {}).maxSteps planner.limits.maxSteps := kept ▸ within
  have mutations : mutatingSteps planner.catalog.toCapabilityRegistry plan ≤ (budget.getD {}).maxMutations := by
    rw [mutatingSteps, kept, countP_mutating each]
    exact bounded
  refine ⟨?_, plan.distinct, by omega, mutations, ?_⟩
  · intro step member
    rw [kept] at member
    obtain ⟨spec, named⟩ := stepOf_of_mem each step member
    exact ⟨spec, named.2.effective, named.1, named.2.valid⟩
  · rw [preflightPlan, if_neg (by rw [granted]; omega), kept, mapM_get each]
    dsimp only
    exact if_neg (by rw [granted]; exact not_lt.mpr bounded)

end GovernedAgentPlanner

/-- The one step that the model of the mail planner asks for becomes a plan. -/
theorem plan_keeps_mail : ∃ plan, (mailPlanner {}).plan "run-1" "google.gmail.search" personalContext none = .ok plan ∧
    GovernedAgentPlanner.Keeps (mailPlanner {}) personalContext {} plan := by
  obtain ⟨accepts, words⟩ := mailPlanner_accepts {}
  have retrieved := mailPlanner_retrieve {} (by decide) (by decide)
  rw [← words] at retrieved
  have small : ¬ (mailPlanner {}).limits.maxPromptBytes < (mailPlanner {}).encodedBytes
      ((mailPlanner {}).requestOf "google.gmail.search" [mailCard] {}).json := by
    rw [mailPlanner_request {} (by decide)]
    decide
  have prepared := GovernedAgentPlanner.prepare_eq accepts retrieved {}
  dsimp only at prepared
  rw [words, if_neg small] at prepared
  have answered : ((mailPlanner {}).plan "run-1" "google.gmail.search" personalContext none).isOk = true := by
    rw [GovernedAgentPlanner.plan, Option.getD_none, prepared]
    decide +kernel
  cases planned : (mailPlanner {}).plan "run-1" "google.gmail.search" personalContext none with
  | error error =>
    rw [planned] at answered
    cases answered
  | ok plan => exact ⟨plan, rfl, GovernedAgentPlanner.plan_keeps planned⟩

end Operly.Agent
