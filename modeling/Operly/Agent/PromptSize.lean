import Operly.Agent.Planning

/-! The bytes of a planner's request: what the retriever adds up, and what the planner measures. -/

namespace Operly.Agent
open Python Security Kernel

namespace GovernedAgentPlanner
variable {planner : GovernedAgentPlanner} {context : ExecutionContext}

def retrievedBytes (planner : GovernedAgentPlanner) (goal : String) (cards : List PlannerCapability) : Nat :=
  fixedBytes goal + (cards.map fun card => planner.encodedBytes card.json).sum

def decimalBytes (number : Nat) : Nat := if number < 10 then 1 else if number < 100 then 2 else 3

/-- What the request takes beyond that: its frame of 87 bytes, a comma or bracket for each card, the escapes of the
goal and the digits of the two limits -/
def overhead (goal : String) (cards : List PlannerCapability) (maxSteps maxMutations : Nat) : Nat :=
  87 + cards.length + escapedBytes goal + decimalBytes maxSteps + decimalBytes maxMutations

theorem utf8ByteSize_toList (text : String) : text.utf8ByteSize = (text.toList.map Char.utf8Size).sum := by
  rw [← utf8ByteSize_ofList, String.ofList_toList]

set_option maxRecDepth 8000 in
theorem instructions_plain : ∃ text, plannerInstructions = String.ofList text ∧ (text.map escapeBytes).sum = 0 ∧
    (text.map Char.utf8Size).sum = 460 := by
  refine ⟨_, rfl, ?_⟩
  decide +kernel

theorem instructions_bytes : plannerInstructions.utf8ByteSize = 460 ∧ (plainQuoted plannerInstructions).utf8ByteSize = 462 := by
  obtain ⟨text, same, unescaped, size⟩ := instructions_plain
  rw [utf8ByteSize_plainQuoted, escapedBytes, same, String.toList_ofList, utf8ByteSize_ofList, unescaped, size]
  exact ⟨rfl, rfl⟩

theorem toString_bytes {number : Nat} (small : number ≤ 128) :
    (toString (number : Int)).utf8ByteSize = decimalBytes number := by
  have digits : ∀ number : Nat, number ≤ 128 →
      ((toString (number : Int)).toList.map Char.utf8Size).sum = decimalBytes number := by decide
  rw [utf8ByteSize_toList, digits number small]

variable {spelling : Spelling} {maxMutations : Nat} {goal : String} {cards : List PlannerCapability}
  {error : PlanningError}

theorem limits_bytes {maxSteps : Nat} (steps : maxSteps ≤ 128) (mutations : maxMutations ≤ 128) :
    Json.writtenBytes plainQuoted spelling
      (.obj [("max_steps", .int maxSteps), ("max_mutations", .int maxMutations)]) =
        31 + decimalBytes maxSteps + decimalBytes maxMutations := by
  have first : (plainQuoted "max_steps").utf8ByteSize = 11 := utf8ByteSize_plainQuoted_ofList _
  have second : (plainQuoted "max_mutations").utf8ByteSize = 15 := utf8ByteSize_plainQuoted_ofList _
  rw [Json.writtenBytes_obj]
  simp only [List.map_cons, List.map_nil, List.sum_cons, List.sum_nil, List.length_cons, List.length_nil, Json.entryBytes,
    Json.writtenBytes, Json.written, first, second, toString_bytes steps, toString_bytes mutations]
  omega

theorem request_bytes (some : cards ≠ []) (budget : AgentBudget) :
    planner.encodedBytes (planner.requestOf goal cards budget).json = planner.retrievedBytes goal cards +
      overhead goal cards (min budget.maxSteps planner.limits.maxSteps) budget.maxMutations := by
  obtain ⟨instructions, goalKey, limitsKey, capabilities⟩ : (plainQuoted "instructions").utf8ByteSize = 14 ∧
      (plainQuoted "goal").utf8ByteSize = 6 ∧ (plainQuoted "limits").utf8ByteSize = 8 ∧
      (plainQuoted "capabilities").utf8ByteSize = 14 :=
    ⟨utf8ByteSize_plainQuoted_ofList _, utf8ByteSize_plainQuoted_ofList _, utf8ByteSize_plainQuoted_ofList _,
      utf8ByteSize_plainQuoted_ofList _⟩
  have steps : min budget.maxSteps planner.limits.maxSteps ≤ 128 := (Nat.min_le_left ..).trans budget.stepsBounded.2
  have mutations : budget.maxMutations ≤ 128 := budget.mutationsBounded.trans (by decide)
  have encoded : (fun card : PlannerCapability => planner.encodedBytes card.json) =
      Json.writtenBytes plainQuoted planner.spelling ∘ PlannerCapability.json := by
    funext card
    exact Json.writtenBytes_sortKeys plainQuoted planner.spelling card.json
  have positive := List.length_pos_of_ne_nil some
  rw [encodedBytes, Json.writtenBytes_sortKeys, AgentPlannerRequest.json, requestOf, Json.writtenBytes_obj, retrievedBytes,
    encoded]
  simp only [List.map_cons, List.map_nil, List.sum_cons, List.sum_nil, List.length_cons, List.length_nil, Json.entryBytes,
    Json.writtenBytes_str, Json.writtenBytes_arr, List.map_map, List.length_map, instructions, goalKey, limitsKey,
    capabilities, limits_bytes steps mutations, instructions_bytes, utf8ByteSize_plainQuoted goal, fixedBytes, overhead]
  omega

/-! ### What may fail once the model is called -/

def answerCodes : List String :=
  ["planner_model_failed", "planning_output_too_large", "invalid_planner_output", "planner_authority_violation",
    "planner_step_budget_exceeded", "capability_not_authorized_for_plan", "invalid_planner_arguments",
    "planner_mutation_budget_exceeded"]

def BlamesAnswer (error : PlanningError) : Prop := ∀ message code, error = .planning message code → code ∈ answerCodes

theorem blames {message code : String} (listed : code ∈ answerCodes) : BlamesAnswer (.planning message code) := by
  intro other code' same
  cases same
  exact listed

theorem blames_raised (error : KernelError) : BlamesAnswer (.raised error) := by
  intro message code same
  cases same

theorem decodeJsonText_error {text : String} (failed : planner.decodeJsonText text = .error error) :
    BlamesAnswer error := by
  unfold decodeJsonText at failed
  split at failed
  · cases failed
    exact blames (by decide)
  · cases failed
  · cases failed
    exact blames (by decide)

theorem decodeOutput_error {raw : PlannerOutput} (failed : planner.decodeOutput raw = .error error) :
    BlamesAnswer error := by
  unfold decodeOutput at failed
  split at failed
  · split at failed
    · cases failed
      exact blames (by decide)
    split at failed
    · cases failed
      exact blames (by decide)
    · exact decodeJsonText_error failed
  · split at failed
    · cases failed
      exact blames (by decide)
    · exact decodeJsonText_error failed
  · cases failed
    exact blames (by decide)
  · split at failed
    · cases failed
      exact blames (by decide)
    · cases failed
  · cases failed
    exact blames (by decide)

theorem validateStep_error {raw : Json} (failed : planner.validateStep cards raw = .error error) : BlamesAnswer error := by
  unfold validateStep at failed
  split at failed
  · split at failed
    · cases failed
      exact blames (by decide)
    dsimp only at failed
    split at failed
    · cases failed
      exact blames (by decide)
    · split at failed
      · cases failed
        exact blames (by decide)
      · cases failed
        exact blames_raised _
      · cases failed
    · cases failed
      exact blames (by decide)
  · cases failed
    exact blames (by decide)

theorem mapError_raised {α : Type} {result : Except KernelError α} (failed : result.mapError .raised = .error error) :
    BlamesAnswer error := by
  cases result with
  | ok value => cases failed
  | error raised =>
    cases failed
    exact blames_raised raised

theorem validateStepsFrom_error {index mutations : Nat} {raws : List Json}
    (failed : planner.validateStepsFrom cards maxMutations index mutations raws = .error error) :
    BlamesAnswer error := by
  induction raws generalizing index mutations with
  | nil => cases failed
  | cons raw rest ih =>
    rw [validateStepsFrom] at failed
    rcases bind_eq_error.mp failed with first | ⟨⟨spec, arguments⟩, -, failed⟩
    · exact validateStep_error first
    rcases check_eq_error.mp failed with ⟨-, rfl⟩ | ⟨-, failed⟩
    · exact blames (by decide)
    rcases bind_eq_error.mp failed with created | ⟨step, -, failed⟩
    · exact mapError_raised created
    rcases bind_eq_error.mp failed with later | ⟨steps, -, failed⟩
    · exact ih later
    · cases failed

theorem validateSteps_error {payload : Fields} {maxSteps : Nat}
    (failed : planner.validateSteps payload cards maxSteps maxMutations = .error error) : BlamesAnswer error := by
  unfold validateSteps at failed
  split at failed
  · cases failed
    exact blames (by decide)
  split at failed
  · split at failed
    · cases failed
      exact blames (by decide)
    · exact validateStepsFrom_error failed
  · cases failed
    exact blames (by decide)

theorem plan_error {runId : String} {budget : Option AgentBudget} {request : AgentPlannerRequest}
    (prepared : planner.prepare runId goal context (budget.getD {}) = .ok request)
    (failed : planner.plan runId goal context budget = .error error) : BlamesAnswer error := by
  rcases bind_eq_error.mp failed with absent | ⟨made, same, failed⟩
  · rw [prepared] at absent
    cases absent
  split at failed
  · cases failed
    exact blames (by decide)
  rcases bind_eq_error.mp failed with decoded | ⟨payload, -, failed⟩
  · exact decodeOutput_error decoded
  rcases bind_eq_error.mp failed with validated | ⟨steps, -, failed⟩
  · exact validateSteps_error validated
  · exact mapError_raised failed

theorem prepare_eq {runId : String} (accepts : Accepts planner runId goal)
    (retrieved : planner.retrieve (PlannerCapability.wordsOf goal) context = .ok cards) (budget : AgentBudget) :
    planner.prepare runId goal context budget =
      let request := planner.requestOf (PlannerCapability.wordsOf goal) cards budget
      if planner.limits.maxPromptBytes < planner.encodedBytes request.json then
        .error (.planning "planner input exceeds prompt budget" "planning_input_too_large")
      else .ok request := by
  unfold prepare
  dsimp only
  rw [if_neg (by simp [accepts.enabled]), if_neg accepts.named, if_neg accepts.aimed, if_neg (not_lt.mpr accepts.short),
    retrieved]
  rfl

def Fits (planner : GovernedAgentPlanner) (runId goal : String) (context : ExecutionContext) (budget : Option AgentBudget)
    (cards : List PlannerCapability) : Prop :=
  planner.encodedBytes (planner.requestOf (PlannerCapability.wordsOf goal) cards (budget.getD .standard)).json ≤
      planner.limits.maxPromptBytes ∧
    ∀ message, planner.plan runId goal context budget ≠ .error (.planning message "planning_input_too_large")

/-- Exactly when a goal that is accepted and whose cards are retrieved fits: when the retriever's sum leaves room for
the overhead. -/
theorem planning_fits_iff {runId goal : String} {cards : List PlannerCapability} (accepts : Accepts planner runId goal)
    (retrieved : planner.retrieve (PlannerCapability.wordsOf goal) context = .ok cards) (budget : Option AgentBudget) :
    Fits planner runId goal context budget cards ↔
      planner.retrievedBytes (PlannerCapability.wordsOf goal) cards + overhead (PlannerCapability.wordsOf goal) cards
        (min (budget.getD {}).maxSteps planner.limits.maxSteps) (budget.getD {}).maxMutations ≤
          planner.limits.maxPromptBytes := by
  have some : cards ≠ [] := (retrieve_ok.mp retrieved).2.1
  rw [← request_bytes some, Fits]
  refine and_iff_left_of_imp fun fits message failed => ?_
  have prepared := prepare_eq accepts retrieved (budget.getD {})
  dsimp only at prepared
  rw [if_neg (not_lt.mpr fits)] at prepared
  exact absurd (plan_error prepared failed message _ rfl) (by decide)

end GovernedAgentPlanner

/-! ### A planner of one card -/

def mailPlanner (limits : AgentPlannerLimits) : GovernedAgentPlanner where
  catalog := mailCatalog
  provider := none
  score _ _ := 0
  spelling := ⟨fun _ => "", fun _ => ""⟩
  loads _ := none
  model _ := some (.mapping (some [("steps", .arr [.obj [("capability_id", .str "google.gmail.search"),
    ("arguments", .obj [])]])]))
  enabled := true
  limits := limits

def mailSearch : CapabilitySpec :=
  ⟨"google.gmail.search", "1", "google", ["personal"], [], [], [], .readOnly, false, "scope", []⟩

def mailCard : PlannerCapability := ⟨"google.gmail.search", "google.gmail.search", "", [], "read_only", false⟩

theorem mailPlanner_found (limits : AgentPlannerLimits) :
    (mailPlanner limits).found "google.gmail.search" personalContext = [mailSearch] := by
  have visible : mailSearch ∈ mailCatalog.effective personalContext := by
    rw [CapabilityRegistry.mem_effective]
    decide
  exact Catalog.search_id visible _

theorem mailCard_bytes (limits : AgentPlannerLimits) : (mailPlanner limits).encodedBytes mailCard.json = 145 := by
  obtain ⟨id, shown, description, schema, risk, approval⟩ : (plainQuoted "id").utf8ByteSize = 4 ∧
      (plainQuoted "display_name").utf8ByteSize = 14 ∧ (plainQuoted "description").utf8ByteSize = 13 ∧
      (plainQuoted "input_schema").utf8ByteSize = 14 ∧ (plainQuoted "risk").utf8ByteSize = 6 ∧
      (plainQuoted "approval_required").utf8ByteSize = 19 :=
    ⟨utf8ByteSize_plainQuoted_ofList _, utf8ByteSize_plainQuoted_ofList _, utf8ByteSize_plainQuoted_ofList _,
      utf8ByteSize_plainQuoted_ofList _, utf8ByteSize_plainQuoted_ofList _, utf8ByteSize_plainQuoted_ofList _⟩
  obtain ⟨name, blank, reading⟩ : (plainQuoted "google.gmail.search").utf8ByteSize = 21 ∧
      (plainQuoted "").utf8ByteSize = 2 ∧ (plainQuoted "read_only").utf8ByteSize = 11 :=
    ⟨utf8ByteSize_plainQuoted_ofList _, utf8ByteSize_plainQuoted_ofList _, utf8ByteSize_plainQuoted_ofList _⟩
  have empty : Json.writtenBytes plainQuoted (mailPlanner limits).spelling (.obj []) = 2 := by
    rw [Json.writtenBytes_obj]
    rfl
  have refused : Json.writtenBytes plainQuoted (mailPlanner limits).spelling (.bool false) = 5 := by
    rw [Json.writtenBytes, Json.written]
    decide
  rw [GovernedAgentPlanner.encodedBytes, Json.writtenBytes_sortKeys, PlannerCapability.json, Json.writtenBytes_obj]
  simp only [mailCard, List.map_cons, List.map_nil, List.sum_cons, List.sum_nil, List.length_cons, List.length_nil,
    Json.entryBytes, Json.writtenBytes_str, id, shown, description, schema, risk, approval, name, blank, reading, empty,
    refused]
  omega

theorem mailCard_eq (limits : AgentPlannerLimits) : PlannerCapability.ofSpec ((mailPlanner limits).catalog.texts mailSearch)
    mailSearch limits.maxDescriptionChars = mailCard := by
  have words : PlannerCapability.wordsOf "" = "" := by decide
  have short : String.ofList ("google.gmail.search".toList.take 240) = "google.gmail.search" := by decide
  have texts : (mailPlanner limits).catalog.texts mailSearch = ⟨"google.gmail.search", "", [], []⟩ := rfl
  rw [PlannerCapability.ofSpec, texts]
  dsimp only
  rw [words, String.toList_empty, List.take_nil, if_neg (by decide), short]
  rfl

theorem mailPlanner_retrieve (limits : AgentPlannerLimits) (room : 624 ≤ limits.maxPromptBytes)
    (small : 145 ≤ limits.maxCapabilityBytes) :
    (mailPlanner limits).retrieve "google.gmail.search" personalContext = .ok [mailCard] := by
  have fixed : GovernedAgentPlanner.fixedBytes "google.gmail.search" = 479 := by
    have goal : ("google.gmail.search").utf8ByteSize = 19 := by decide
    rw [GovernedAgentPlanner.fixedBytes, goal, GovernedAgentPlanner.instructions_bytes.1]
  rw [GovernedAgentPlanner.retrieve_ok, mailPlanner_found, fixed]
  have same : (mailPlanner limits).limits = limits := rfl
  rw [GovernedAgentPlanner.takeCards, GovernedAgentPlanner.takeCards, same, mailCard_eq, mailCard_bytes, if_neg (by omega),
    if_neg (by omega)]
  exact ⟨by omega, List.cons_ne_nil _ _, rfl⟩

theorem mailPlanner_accepts (limits : AgentPlannerLimits) :
    GovernedAgentPlanner.Accepts (mailPlanner limits) "run-1" "google.gmail.search" ∧
      PlannerCapability.wordsOf "google.gmail.search" = "google.gmail.search" := by
  have words : PlannerCapability.wordsOf "google.gmail.search" = "google.gmail.search" := by decide
  have short : ("google.gmail.search").length = 19 := by decide
  have chars := limits.goalBounded.1
  refine ⟨⟨rfl, by decide, ?_, ?_⟩, words⟩
  · rw [words]
    decide
  · rw [words, short]
    change 19 ≤ limits.maxGoalChars
    omega

theorem mailPlanner_request (limits : AgentPlannerLimits) (few : limits.maxSteps < 10) :
    (mailPlanner limits).encodedBytes ((mailPlanner limits).requestOf "google.gmail.search" [mailCard] {}).json = 714 := by
  have goal : ("google.gmail.search").utf8ByteSize = 19 := by decide
  have plain : escapedBytes "google.gmail.search" = 0 := by decide
  have steps : GovernedAgentPlanner.decimalBytes (min ({} : AgentBudget).maxSteps (mailPlanner limits).limits.maxSteps) = 1 :=
    if_pos (lt_of_le_of_lt (Nat.min_le_right ..) few)
  have mutations : GovernedAgentPlanner.decimalBytes ({} : AgentBudget).maxMutations = 1 := by decide
  rw [GovernedAgentPlanner.request_bytes (List.cons_ne_nil _ _), GovernedAgentPlanner.retrievedBytes,
    GovernedAgentPlanner.fixedBytes, GovernedAgentPlanner.instructions_bytes.1, goal, GovernedAgentPlanner.overhead, plain,
    steps, mutations, List.map_singleton, mailCard_bytes]
  rfl

def tightLimits : AgentPlannerLimits := { maxPromptBytes := 700 }

/-- The card is retrieved, and planning fails because of the size of the request. -/
theorem planning_fits_fails :
    GovernedAgentPlanner.Accepts (mailPlanner tightLimits) "run-1" "google.gmail.search" ∧
    (mailPlanner tightLimits).retrieve (PlannerCapability.wordsOf "google.gmail.search") personalContext = .ok [mailCard] ∧
    tightLimits.maxPromptBytes < (mailPlanner tightLimits).encodedBytes
      ((mailPlanner tightLimits).requestOf "google.gmail.search" [mailCard] {}).json ∧
    (mailPlanner tightLimits).plan "run-1" "google.gmail.search" personalContext none =
      .error (.planning "planner input exceeds prompt budget" "planning_input_too_large") := by
  obtain ⟨accepts, words⟩ := mailPlanner_accepts tightLimits
  have retrieved := mailPlanner_retrieve tightLimits (by decide) (by decide)
  rw [← words] at retrieved
  have large : (mailPlanner tightLimits).limits.maxPromptBytes < (mailPlanner tightLimits).encodedBytes
      ((mailPlanner tightLimits).requestOf "google.gmail.search" [mailCard] {}).json := by
    rw [mailPlanner_request tightLimits (by decide)]
    decide
  have prepared := GovernedAgentPlanner.prepare_eq accepts retrieved {}
  dsimp only at prepared
  rw [words, if_pos large] at prepared
  refine ⟨accepts, retrieved, large, ?_⟩
  rw [GovernedAgentPlanner.plan, Option.getD_none, prepared]
  rfl

/-- With the limits that the planner has by default the goal fits. -/
theorem planning_fits_mail : GovernedAgentPlanner.Fits (mailPlanner {}) "run-1" "google.gmail.search" personalContext none
    [mailCard] ↔
      (mailPlanner {}).retrievedBytes (PlannerCapability.wordsOf "google.gmail.search") [mailCard] +
        GovernedAgentPlanner.overhead (PlannerCapability.wordsOf "google.gmail.search") [mailCard]
          (min ({} : AgentBudget).maxSteps (mailPlanner {}).limits.maxSteps) ({} : AgentBudget).maxMutations ≤
        (mailPlanner {}).limits.maxPromptBytes := by
  obtain ⟨accepts, words⟩ := mailPlanner_accepts {}
  have retrieved := mailPlanner_retrieve {} (by decide) (by decide)
  rw [← words] at retrieved
  have fits := GovernedAgentPlanner.planning_fits_iff accepts retrieved none
  rwa [Option.getD_none] at fits

end Operly.Agent
