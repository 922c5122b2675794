import Operly.Agent.Interactive

/-! What a run of the interactive loop can ask of the model and the Kernel, whatever they answer. -/

namespace Operly.Agent
open Python Security Kernel Concurrent Fallible

/-! ### What a run has asked -/

structure Tally where
  decisions : Nat := 0
  discoveries : Nat := 0
  mutations : Nat := 0
  latest : List CapabilityContract := []
  /-- The executed capabilities with their arguments, the latest first -/
  executed : List (String × Fields) := []

namespace Tally
variable (tally : Tally)

def mutating (step : AgentPlanStep) : Bool :=
  (allowedContract tally.latest step.capabilityId).any fun contract => contract.mutating

def repeats (capabilityId : String) (arguments : Fields) : Nat :=
  tally.executed.countP fun call => call.1 = capabilityId ∧ SameArguments call.2 arguments

def observe : (op : port.Op) → port.Answer op → Tally
  | .decide _, _ => { tally with decisions := tally.decisions + 1 }
  | .discover .., answer =>
      { tally with
        discoveries := tally.discoveries + 1
        latest := match (answer : Except KernelError (List CapabilityContract)) with
          | .ok contracts => contracts
          | .error _ => tally.latest }
  | .execute _ _ _ step, _ =>
      { tally with
        mutations := if tally.mutating step then tally.mutations + 1 else tally.mutations
        executed := (step.capabilityId, step.arguments) :: tally.executed }
  | .interpret .., _ | .respond .., _ => tally

end Tally

def Permitted (contracts : List CapabilityContract) (step : AgentPlanStep) : Prop :=
  ∃ contract ∈ contracts, contract.id = step.capabilityId ∧
    validateSchema (.obj step.arguments) contract.inputSchema = .ok ()

def watcher (limits : Runtime1Limits) : Watcher port Tally where
  observe := Tally.observe
  allows tally
    | .decide _ => tally.decisions < limits.maxCycles
    | .discover .. => tally.discoveries < limits.maxDiscoveries
    | .execute _ _ _ step =>
        (tally.mutating step = true → tally.mutations < limits.maxMutations) ∧
          tally.repeats step.capabilityId step.arguments < 2 ∧ Permitted tally.latest step
    | .interpret .. | .respond .. => True

def tallyOf (steps : List (Sigma port.Answer)) : Tally :=
  steps.foldl (fun tally step => tally.observe step.1 step.2) {}

structure Within (limits : Runtime1Limits) (steps : List (Sigma port.Answer)) : Prop where
  decisions : (tallyOf steps).decisions ≤ limits.maxCycles
  mutations : (tallyOf steps).mutations ≤ limits.maxMutations
  discoveries : (tallyOf steps).discoveries ≤ limits.maxDiscoveries
  repeats : ∀ capabilityId arguments, (tallyOf steps).repeats capabilityId arguments ≤ 2
  permitted : ∀ early late context runId goal step answer,
    steps = early ++ ⟨.execute context runId goal step, answer⟩ :: late → Permitted (tallyOf early).latest step

section Keeps
variable {limits : Runtime1Limits}

theorem SameArguments.trans_iff {arguments others : Fields} (same : SameArguments arguments others) (more : Fields) :
    SameArguments more arguments ↔ SameArguments more others := by
  unfold SameArguments at *
  rw [same]

structure Contained (limits : Runtime1Limits) (tally : Tally) : Prop where
  decisions : tally.decisions ≤ limits.maxCycles
  mutations : tally.mutations ≤ limits.maxMutations
  discoveries : tally.discoveries ≤ limits.maxDiscoveries
  repeats : ∀ capabilityId arguments, tally.repeats capabilityId arguments ≤ 2

theorem Contained.observe {tally : Tally} {op : port.Op} (answer : port.Answer op) (bounded : Contained limits tally)
    (allowed : (watcher limits).allows tally op) : Contained limits (tally.observe op answer) := by
  cases op with
  | interpret | respond => exact bounded
  | decide request => exact { bounded with decisions := allowed }
  | discover context query limit => exact { bounded with discoveries := allowed }
  | execute context runId goal step =>
    obtain ⟨room, few, _⟩ := allowed
    refine ⟨bounded.decisions, ?_, bounded.discoveries, ?_⟩
    · have before := bounded.mutations
      simp only [Tally.observe]
      split
      · next mutating => exact room mutating
      · exact before
    · intro capabilityId arguments
      have before := bounded.repeats capabilityId arguments
      simp only [Tally.repeats, Tally.observe, List.countP_cons] at before ⊢
      split
      · next same =>
        obtain ⟨rfl, alike⟩ := of_decide_eq_true same
        have equal : tally.repeats step.capabilityId arguments = tally.repeats step.capabilityId step.arguments := by
          simp only [Tally.repeats]
          congr 1
          funext call
          simp only [SameArguments.trans_iff alike]
        rw [Tally.repeats] at equal
        rw [equal]
        exact few
      · exact before

end Keeps

/-! ### What the loop asks -/

section Loop
variable {talk : Conversation} {tally : Tally} {state : LoopState}

abbrev Watches {α : Type} (limits : Runtime1Limits) (returns : Tally → α → Prop) (tally : Tally) (code : AgentRun α) : Prop :=
  code.Watched (watcher limits) returns tally

structure Tracks (talk : Conversation) (tally : Tally) (state : LoopState) : Prop where
  latest : tally.latest = state.capabilities
  mutations : tally.mutations = state.mutationCount
  discoveries : tally.discoveries = state.discoveryCount
  executed : tally.executed.map (fun call => signature talk.agent.encoding call.1 call.2) = state.signatures

def Follows (talk : Conversation) (decisions : Nat) (tally : Tally) : Turn → Prop
  | .proceed state => Tracks talk tally state ∧ tally.decisions = decisions
  | .leave _ | .answer _ => True

theorem respond_watched {limits : Runtime1Limits} (objective userMessage : String) (contextItems : List Fields)
    (observations : List Json) :
    Watches limits (fun later _ => later = tally) tally (respond objective userMessage contextItems observations) :=
  Watched.bind_ask trivial fun _ => Watched.ofExcept fun _ _ => rfl

theorem refused_watched {limits : Runtime1Limits} {decisions : Nat} (cycle : Nat) (message errorCode : String) :
    Watches limits (Follows talk decisions) tally (talk.refused cycle state message errorCode) :=
  Watched.pure trivial

theorem discover_watched {limits : Runtime1Limits} (room : tally.discoveries < limits.maxDiscoveries)
    (context : ExecutionContext) (query : String) :
    Watches limits (fun later contracts =>
      later = { tally with discoveries := tally.discoveries + 1, latest := contracts }) tally
      (discover limits context query) := by
  apply Watched.bind_ask room
  intro (answer : Except KernelError (List CapabilityContract))
  apply Watched.ofExcept
  intro contracts same
  subst same
  rfl

theorem discoverMore_watched (tracks : Tracks talk tally state) (cycle : Nat) (query : String) :
    Watches talk.limits (Follows talk tally.decisions) tally (talk.discoverMore cycle query state) := by
  apply Watched.ite
  · exact fun _ => refused_watched cycle _ _
  · intro free
    have room : tally.discoveries < talk.limits.maxDiscoveries := by
      rw [tracks.discoveries]
      exact Nat.lt_of_not_le fun full => free (.inr full)
    apply Watched.bind (discover_watched room talk.context (collapse query))
    rintro later contracts rfl
    have counted : tally.discoveries + 1 = state.discoveryCount + 1 := by rw [tracks.discoveries]
    exact Watched.pure ⟨⟨rfl, tracks.mutations, counted, tracks.executed⟩, rfl⟩

theorem afterStep_watched (tracks : Tracks talk tally state) (cycle : Nat) (capabilityId : String)
    (outcome : AgentStepResult) :
    Watches talk.limits (Follows talk tally.decisions) tally (talk.afterStep cycle capabilityId outcome state) := by
  unfold Conversation.afterStep
  dsimp only
  split
  · exact Watched.pure trivial
  · exact refused_watched cycle _ _
  · apply Watched.ite
    · exact fun _ => Watched.pure trivial
    intro _
    apply Watched.ite
    · intro _
      apply Watched.bind (respond_watched _ _ _ _)
      exact fun _ _ _ => Watched.pure trivial
    · exact fun _ => Watched.pure ⟨⟨tracks.latest, tracks.mutations, tracks.discoveries, tracks.executed⟩, rfl⟩

theorem repeats_le (tracks : Tracks talk tally state) (capabilityId : String) (arguments : Fields) :
    tally.repeats capabilityId arguments ≤ state.signatures.count (signature talk.agent.encoding capabilityId arguments) := by
  rw [← tracks.executed, List.count, List.countP_map, Tally.repeats]
  apply List.countP_mono_left
  intro call _ repeated
  obtain ⟨same, alike⟩ := of_decide_eq_true repeated
  rw [Function.comp_apply, beq_iff_eq, same]
  exact signature_of_same talk.agent.encoding capabilityId alike

theorem allowedContract_mem {contracts : List CapabilityContract} {capabilityId : String} {contract : CapabilityContract}
    (found : allowedContract contracts capabilityId = some contract) : contract ∈ contracts ∧ contract.id = capabilityId :=
  ⟨List.mem_reverse.mp (List.mem_of_find?_eq_some found), by simpa using List.find?_some found⟩

def Tally.execute (tally : Tally) (step : AgentPlanStep) : Tally :=
  { tally with
    mutations := if tally.mutating step then tally.mutations + 1 else tally.mutations
    executed := (step.capabilityId, step.arguments) :: tally.executed }

theorem executeGoverned_watched {limits : Runtime1Limits} {step : AgentPlanStep}
    (room : tally.mutating step = true → tally.mutations < limits.maxMutations)
    (few : tally.repeats step.capabilityId step.arguments < 2) (permitted : Permitted tally.latest step)
    (context : ExecutionContext) (runId goal : String) :
    Watches limits (fun later _ => later = tally.execute step) tally (executeGoverned context runId goal step) :=
  Watched.bind_ask ⟨room, few, permitted⟩ fun _ => Watched.ofExcept fun _ _ => rfl

theorem callCapability_watched (tracks : Tracks talk tally state) (cycle : Nat) {contract : CapabilityContract}
    {capabilityId : String} {arguments : Fields} (trimmed : strip capabilityId = capabilityId)
    (found : allowedContract state.capabilities capabilityId = some contract)
    (valid : validateSchema (.obj arguments) contract.inputSchema = .ok ()) :
    Watches talk.limits (Follows talk tally.decisions) tally
      (talk.callCapability cycle contract capabilityId arguments state) := by
  unfold Conversation.callCapability
  dsimp only
  apply Watched.ite
  · exact fun _ => refused_watched cycle _ _
  intro fresh
  apply Watched.ite
  · exact fun _ => refused_watched cycle _ _
  intro budget
  apply Watched.bind_ofExcept
  intro step created
  obtain ⟨-, named, same, -⟩ := AgentPlanStep.create_ok created
  rw [trimmed] at named
  have own : tally.mutating step = contract.mutating := by
    rw [Tally.mutating, tracks.latest, named, found, Option.any_some]
  have few : tally.repeats step.capabilityId step.arguments < 2 := by
    have counted := repeats_le tracks capabilityId arguments
    rw [List.count_cons_self] at fresh
    rw [named, same]
    omega
  have permitted : Permitted tally.latest step := by
    obtain ⟨member, id⟩ := allowedContract_mem found
    exact ⟨contract, tracks.latest ▸ member, id.trans named.symm, same ▸ valid⟩
  have room : tally.mutating step = true → tally.mutations < talk.limits.maxMutations := by
    rw [own, tracks.mutations]
    exact fun mutating => Nat.lt_of_not_le fun spent => budget ⟨mutating, spent⟩
  apply Watched.bind (executeGoverned_watched room few permitted _ _ _)
  rintro later outcome rfl
  show Watches talk.limits (Follows talk (tally.execute step).decisions) _ _
  refine afterStep_watched ?_ cycle capabilityId outcome
  refine ⟨tracks.latest, ?_, tracks.discoveries, ?_⟩
  · simp only [Tally.execute, own, tracks.mutations]
  · simp only [Tally.execute, List.map_cons, tracks.executed, named, same]

theorem call_watched (tracks : Tracks talk tally state) (cycle : Nat) (capabilityId : String) (arguments : Fields) :
    Watches talk.limits (Follows talk tally.decisions) tally (talk.call cycle capabilityId arguments state) := by
  unfold Conversation.call
  dsimp only
  split
  · exact refused_watched cycle _ _
  · next contract found =>
    split
    · apply Watched.ite
      · exact fun _ => Watched.pure trivial
      · exact fun _ =>
          Watched.pure ⟨⟨tracks.latest, tracks.mutations, tracks.discoveries, tracks.executed⟩, rfl⟩
    · exact Watched.raise
    · next valid => exact callCapability_watched tracks cycle (strip_lower_strip capabilityId) found valid

theorem turn_watched (tracks : Tracks talk tally state) (left : tally.decisions < talk.limits.maxCycles) (cycle : Nat) :
    Watches talk.limits (Follows talk (tally.decisions + 1)) tally (talk.turn cycle state) := by
  have decided : ∀ request, Watches talk.limits
      (fun later (_ : RawDecision) => later = { tally with decisions := tally.decisions + 1 }) tally (decideNext request) :=
    fun request => Watched.bind_ask left fun _ => Watched.ofExcept fun _ _ => rfl
  apply Watched.bind (decided _)
  rintro later raw rfl
  have counted : Tracks talk { tally with decisions := tally.decisions + 1 } state :=
    ⟨tracks.latest, tracks.mutations, tracks.discoveries, tracks.executed⟩
  split
  · exact refused_watched cycle _ _
  · exact Watched.raise
  · exact Watched.pure trivial
  · exact discoverMore_watched counted cycle _
  · exact call_watched counted cycle _ _

theorem exhausted_watched (limits : Runtime1Limits) :
    Watches limits (fun _ _ => True) tally (talk.exhausted state) := by
  apply Watched.bind (respond_watched _ _ _ _)
  exact fun _ _ _ => Watched.pure trivial

theorem cyclesFrom_watched {remaining : Nat} (tracks : Tracks talk tally state)
    (left : tally.decisions + remaining ≤ talk.limits.maxCycles) :
    Watches talk.limits (fun _ _ => True) tally (talk.cyclesFrom remaining state) := by
  induction remaining generalizing tally state with
  | zero => exact exhausted_watched talk.limits
  | succ remaining ih =>
    have room : tally.decisions < talk.limits.maxCycles := by omega
    apply Watched.bind (turn_watched tracks room _)
    intro later turn follows
    cases turn with
    | proceed next =>
      obtain ⟨still, decisions⟩ := follows
      exact ih still (by omega)
    | leave next => exact exhausted_watched talk.limits
    | answer result => exact Watched.pure trivial

end Loop

/-! ### Every run -/

/-- Limits under which a run can begin: it discovers once, and a direct dispatch decides once. -/
structure Runtime1Limits.Proper (limits : Runtime1Limits) : Prop where
  cycles : 1 ≤ limits.maxCycles
  discoveries : 1 ≤ limits.maxDiscoveries

theorem loop_watched {talk : Conversation} (proper : talk.limits.Proper) (contracts : List CapabilityContract) :
    Watches talk.limits (fun _ _ => True) { discoveries := 1, latest := contracts }
      (talk.cyclesFrom talk.maxCycles { capabilities := contracts }) := by
  apply cyclesFrom_watched
  · exact ⟨rfl, rfl, rfl, rfl⟩
  · have cycles := proper.cycles
    simp only [Conversation.maxCycles]
    split <;> omega

theorem run_watched {agent : Runtime1Agent} (proper : agent.limits.Proper) (context : ExecutionContext)
    (message : String) (contextItems : List Fields) (runId : String) :
    Watches agent.limits (fun _ _ => True) {} (agent.run context message contextItems runId) := by
  apply Watched.ite
  · exact fun _ => Watched.raise
  intro _
  have interpreted : Watches agent.limits (fun later (_ : ObjectiveIR) => later = {}) {}
      (interpret message context contextItems) :=
    Watched.bind_ask trivial fun _ => Watched.ofExcept fun _ _ => rfl
  apply Watched.bind interpreted
  rintro later objective rfl
  apply Watched.ite
  · intro _
    apply Watched.bind (respond_watched _ _ _ _)
    exact fun _ _ _ => Watched.pure trivial
  intro _
  have room : ({} : Tally).discoveries < agent.limits.maxDiscoveries := proper.discoveries
  apply Watched.bind (discover_watched room context _)
  rintro later contracts rfl
  apply Watched.ite
  · intro _
    apply Watched.bind (respond_watched _ _ _ _)
    exact fun _ _ _ => Watched.pure trivial
  intro _
  let talk := agent.converse context message contextItems runId objective
    (resolveRuntimeDispatch agent.encoding.toSpelling objective contracts)
  have own : talk.limits.Proper := proper
  exact loop_watched own contracts

/-- Whatever the model and the Kernel answer, a run keeps its limits, repeats no call more than once, and executes
only what the latest discovered set permits. -/
theorem run_within (agent : Runtime1Agent) (proper : agent.limits.Proper) (context : ExecutionContext)
    (message : String) (contextItems : List Fields) (runId : String) {steps : List (Sigma port.Answer)}
    {outcome : Except KernelError Runtime1Result}
    (run : Program.Trace (agent.run context message contextItems runId).run steps outcome) :
    Within agent.limits steps := by
  have watched := Fallible.Watched.run_iff.mp (run_watched proper context message contextItems runId)
  have initially : Contained agent.limits {} :=
    ⟨Nat.zero_le _, Nat.zero_le _, Nat.zero_le _, fun _ _ => Nat.zero_le _⟩
  have contained : Contained agent.limits (tallyOf steps) :=
    watched.keeps (fun _ _ answer bounded allowed => bounded.observe answer allowed) initially run
  refine ⟨contained.decisions, contained.mutations, contained.discoveries, contained.repeats, ?_⟩
  intro early late context runId goal step answer split
  exact (watched.allowed run split).2.2

def assistant : Runtime1Agent where
  enabled := true
  encoding := {
    float := fun _ => ""
    container := fun _ => ""
    loads := fun _ => .error (.value "JSONDecodeError")
    dumpsUnicode := fun _ => ""
    sha256 := id }
  selectContext _ _ := []

def answers : (op : port.Op) → port.Answer op
  | .interpret .. => .ok ⟨"Search mail", .composite, [.retrieve], [], true, false, false, .compound⟩
  | .respond .. => .ok "Done"
  | .discover .. => .ok [{
      id := "google.gmail.search", version := "1", providerId := "google", scopes := ["personal"], inputSchema := [],
      outputSchema := [], displayName := "Search mail", description := "", tags := [] }]
  | .decide request =>
      if request.observations = [] then
        .ok (.value (.obj [("move", .str "call"), ("capability_id", .str "google.gmail.search"), ("arguments", .obj [])]))
      else .ok (.value (.obj [("move", .str "finish"), ("message", .str "Nothing new")]))
  | .execute _ _ _ step => .ok { stepId := step.stepId, capabilityId := step.capabilityId, requestId := "", status := .completed }

def asAda : ExecutionContext where
  workspaceId := none
  userId := some "ada"
  role := ""
  permissions := []
  channel := "web"
  surface := .personalPrivate
  conversationId := none
  metadata := []
  scopeKind := .personal
  principalId := none
  workspaceMode := "full"

theorem run_within_search :
    ∃ steps outcome, (tallyOf steps).executed = [("google.gmail.search", [])] ∧ (tallyOf steps).decisions = 2 ∧
      Program.Trace (assistant.run asAda "Any mail?" [] "run").run steps outcome ∧ Within {} steps := by
  refine ⟨(Program.answered answers (assistant.run asAda "Any mail?" [] "run").run).1, _, by decide +kernel,
    by decide +kernel, Program.answered_trace answers _, ?_⟩
  exact run_within assistant ⟨by decide, by decide⟩ asAda "Any mail?" [] "run" (Program.answered_trace answers _)

end Operly.Agent
