import Mathlib.Logic.Relation
import Operly.Agent.PlanStore

/-! What a durable run goes through under any calls: its statuses, its lease, and the attempts of its steps. -/

namespace Operly.Agent
open Python Security Kernel Relational

def requestCancellation (now : Int) (context : ExecutionContext) (runId : String) (store : AgentStore) :
    Except StoreError AgentStore :=
  match (store.runs.find runId).filter (contextMatchesRun context) with
  | none => .error (.state "Agent run is unavailable in this authority scope")
  | some row =>
      if row.status ∈ terminalRunStatuses then .ok store
      else
        let live := isSet row.leaseToken && row.leaseUntil.any (now < ·)
        let ends := row.status = .queued ∨ row.status = .waitingApproval ∨ row.status = .running ∧ live = false
        .ok (store.updateRun { row with
          cancellationRequested := true
          status := if ends then .cancelled else row.status
          finishedAt := if ends then some now else row.finishedAt
          leaseToken := if ends then none else row.leaseToken
          leaseUntil := if ends then none else row.leaseUntil })

def renewRunLease (now : Int) (runId token : String) (leaseSeconds : Int) (store : AgentStore) :
    Except StoreError AgentStore :=
  if strip token = "" ∨ 80 < (strip token).length then .error (.value "lease_token must contain 1-80 characters")
  else if ¬ (5 ≤ leaseSeconds ∧ leaseSeconds ≤ 900) then
    .error (.value "lease_seconds must be between 5 and 900")
  else match (store.runs.find runId).filter fun row => row.status = .running && row.leaseToken = some (strip token) with
    | none => .ok store
    | some row => .ok (store.updateRun { row with leaseUntil := some (now + leaseSeconds * 1000000) })

def releaseRunLease (runId token : String) (store : AgentStore) : AgentStore :=
  match (store.runs.find runId).filter fun row => row.leaseToken = some (strip token) with
  | none => store
  | some row => store.updateRun { row with leaseToken := none, leaseUntil := none }

inductive RunCall where
  | store (call : StoreCall)
  | cancel (context : ExecutionContext) (runId : String)
  | renew (runId token : String) (leaseSeconds : Int)
  | release (runId token : String)

def RunCall.perform (deployment : Deployment) (now : Int) : RunCall → AgentStore → Except StoreError AgentStore
  | .store call => call.perform deployment now
  | .cancel context runId => requestCancellation now context runId
  | .renew runId token leaseSeconds => renewRunLease now runId token leaseSeconds
  | .release runId token => fun store => .ok (releaseRunLease runId token store)

def history (deployment : Deployment) (calls : List (Int × RunCall)) (store : AgentStore) : AgentStore :=
  calls.foldl (fun store entry => (entry.2.perform deployment entry.1 store).toOption.getD store) store

variable {deployment : Deployment} {store next : AgentStore} {now : Int} {runId : String} {row : AgentRuntimeStep}
  {context : ExecutionContext} {plan : AgentPlan}

/-! ### The attempts of a step -/

def Moves (first second : RunStatus) : Prop := second ∈ allowedTransitions first

theorem Moves.not_terminal {first second : RunStatus} (moves : Moves first second) : first ∉ terminalRunStatuses := by
  cases first <;> first | decide | cases moves

def AgentRuntimeStepAttempt.identity (row : AgentRuntimeStepAttempt) : String × String := (row.agentRunId, row.stepId)

def AgentStore.attemptsOf (store : AgentStore) (id : String × String) : List AgentRuntimeStepAttempt :=
  store.attempts.filter fun attempt => attempt.identity = id

/-- The attempts of a step are numbered from one, and are all of its one request. -/
structure Ledger (attempts : List AgentRuntimeStepAttempt) (row : AgentRuntimeStep) : Prop where
  numbers : attempts.map (·.attempt) = List.range' 1 row.attemptCount
  carried : ∀ attempt ∈ attempts, attempt.capabilityId = row.capabilityId ∧ attempt.requestId = row.requestId ∧
    attempt.argumentsJson = row.argumentsJson

structure Numbered (store : AgentStore) : Prop where
  known : ∀ attempt ∈ store.attempts, (store.steps.find attempt.identity).isSome
  ledgers : ∀ id row, store.steps.find id = some row → Ledger (store.attemptsOf id) row

theorem Numbered.insertStep (numbered : Numbered store) (fresh : row.attemptCount = 0)
    (inserted : store.insertStep row = .ok next) : Numbered next := by
  unfold AgentStore.insertStep at inserted
  split at inserted
  · split at inserted
    · cases inserted
      constructor
      · intro attempt member
        rw [Table.find_insert, Option.isSome_or, numbered.known attempt member, Bool.true_or]
      · intro id held found
        rw [Table.find_insert] at found
        cases before : store.steps.find id with
        | some old =>
          rw [before] at found
          cases found
          exact numbered.ledgers id held before
        | none =>
          have nothing : store.attemptsOf id = [] := by
            rw [AgentStore.attemptsOf, List.filter_eq_nil_iff]
            intro attempt member same
            have known := numbered.known attempt member
            rw [of_decide_eq_true same, before] at known
            cases known
          rw [before, Option.none_or, Option.ite_none_right_eq_some] at found
          cases found.2
          constructor
          · rw [fresh]
            exact congrArg (List.map _) nothing
          · exact fun attempt member => absurd (nothing ▸ member) List.not_mem_nil
    · cases inserted
  · cases inserted

theorem Numbered.insertSteps (numbered : Numbered store) {entries : List (AgentPlanStep × Nat)}
    (inserted : entries.foldlM (fun store entry => store.insertStep (stepRow deployment runId entry)) store = .ok next) :
    Numbered next := by
  induction entries generalizing store with
  | nil =>
    cases inserted
    exact numbered
  | cons entry rest ih =>
    rw [List.foldlM_cons] at inserted
    obtain ⟨between, first, later⟩ := bind_eq_ok.mp inserted
    exact ih (numbered.insertStep rfl first) later

theorem updateStep_ok (updated : store.updateStep row = .ok next) :
    next.steps = store.steps.replace row ∧ next.attempts = store.attempts := by
  unfold AgentStore.updateStep at updated
  split at updated
  · cases updated
    exact ⟨rfl, rfl⟩
  · cases updated

theorem Numbered.advance (numbered : Numbered store) {old : AgentRuntimeStep} {fresh : List AgentRuntimeStepAttempt}
    (steps : next.steps = store.steps.replace row) (found : store.steps.find row.identity = some old)
    (attempts : next.attempts = store.attempts ++ fresh) (own : ∀ attempt ∈ fresh, attempt.identity = row.identity)
    (ledger : ∀ before, Ledger before old → Ledger (before ++ fresh) row) : Numbered next where
  known attempt member := by
    have known : (store.steps.find attempt.identity).isSome := by
      rcases List.mem_append.mp (attempts ▸ member) with earlier | added
      · exact numbered.known attempt earlier
      · rw [own attempt added, found]
        rfl
    rw [steps, Table.find_replace]
    split
    · rwa [Option.isSome_map]
    · exact known
  ledgers id current held := by
    rw [steps, Table.find_replace] at held
    unfold AgentStore.attemptsOf
    rw [attempts, List.filter_append]
    by_cases same : id = row.identity
    · rw [if_pos same, same, found] at held
      cases held
      rw [List.filter_eq_self.mpr fun attempt added => decide_eq_true ((own attempt added).trans same.symm), same]
      exact ledger _ (numbered.ledgers _ _ found)
    · rw [if_neg same] at held
      have nothing : fresh.filter (fun attempt => attempt.identity = id) = [] :=
        List.filter_eq_nil_iff.mpr fun attempt added => by simp [own attempt added, Ne.symm same]
      rw [nothing, List.append_nil]
      exact numbered.ledgers id current held

/-! ### What a call changes -/

structure AgentRuntimeRun.Leased (row : AgentRuntimeRun) (token : String) (deadline : Int) : Prop where
  running : row.status = .running
  token : row.leaseToken = some token ∧ token ≠ ""
  leaseUntil : row.leaseUntil = some deadline

def RunCall.Spares (id token : String) : RunCall → Prop
  | .store (.claim runId other _) | .renew runId other _ | .release runId other => runId = id → strip other ≠ token
  | .store (.transition runId _ _ _ _ _) => runId ≠ id
  | _ => True

structure Rewrites (call : RunCall) (now : Int) (row after : AgentRuntimeRun) : Prop where
  moves : Relation.ReflGen Moves row.status after.status
  spares : ∀ token deadline, row.Leased token deadline → now < deadline → call.Spares row.id token →
    after.Leased token deadline

structure Changes (call : RunCall) (now : Int) (store next : AgentStore) : Prop where
  runs : ∀ id row, store.runs.find id = some row → ∃ after, next.runs.find id = some after ∧ Rewrites call now row after
  numbered : Numbered store → Numbered next

variable {call : RunCall}

theorem Rewrites.refl (row : AgentRuntimeRun) : Rewrites call now row row := ⟨.refl, fun _ _ leased _ _ => leased⟩

theorem Changes.kept (runs : next.runs = store.runs) (numbered : Numbered store → Numbered next) :
    Changes call now store next :=
  ⟨fun _ row found => ⟨row, runs ▸ found, .refl row⟩, numbered⟩

theorem Changes.refl (store : AgentStore) : Changes call now store store := .kept rfl id

theorem Changes.through {between : AgentStore} (runs : between.runs = store.runs)
    (numbered : Numbered store → Numbered between) (later : Changes call now between next) : Changes call now store next :=
  ⟨runs ▸ later.runs, later.numbered ∘ numbered⟩

theorem Changes.updateRun {row old : AgentRuntimeRun} (found : store.runs.find row.id = some old)
    (rewrites : Rewrites call now old row) : Changes call now store (store.updateRun row) where
  runs id before present := by
    rw [AgentStore.updateRun, Table.find_replace]
    split
    · next same =>
      subst same
      cases found.symm.trans present
      exact ⟨row, by rw [found]; rfl, rewrites⟩
    · exact ⟨before, present, .refl before⟩
  numbered numbered := ⟨numbered.known, numbered.ledgers⟩

theorem Changes.create (created : createRun deployment context plan store = .ok next) : Changes call now store next where
  runs id row found := by
    obtain ⟨-, ⟨run, -, -, -, runs⟩, -⟩ := createRun_ok created
    refine ⟨row, ?_, .refl row⟩
    rw [runs, Table.find_insert, found, Option.some_or]
  numbered numbered := by
    unfold createRun at created
    rw [check_eq_ok] at created
    obtain ⟨_, -, rest⟩ := bind_eq_ok.mp created.2
    obtain ⟨between, first, later⟩ := bind_eq_ok.mp rest
    refine Numbered.insertSteps ?_ later
    unfold AgentStore.insertRun at first
    split at first
    · cases first
    · cases first
      exact ⟨numbered.known, numbered.ledgers⟩

theorem not_leased {row : AgentRuntimeRun} {token other : String} {deadline : Int}
    (found : store.runs.find runId = some row) (held : row.leaseToken = some (strip token))
    (spares : runId = row.id → strip token ≠ other) : ¬ row.Leased other deadline := fun leased =>
  spares (Table.find_key found).symm (Option.some.inj (held.symm.trans leased.token.1))

theorem Changes.claim {token : String} {leaseSeconds : Int}
    (claimed : claimRun now runId token leaseSeconds store = .ok next) :
    Changes (.store (.claim runId token leaseSeconds)) now store next := by
  unfold claimRun at claimed
  rw [check_eq_ok, check_eq_ok] at claimed
  replace claimed := claimed.2.2
  split at claimed
  · cases claimed
    exact .refl store
  · next row found =>
    dsimp only at claimed
    split at claimed
    · next claims =>
      cases claimed
      have present := Table.find_of_mem (Table.find_mem found)
      refine .updateRun present ⟨?_, fun other deadline leased early spares => ?_⟩
      · rcases claims.1 with running | ⟨queued, -⟩
        · rw [running]
        · exact .single (by simp [Moves, queued, allowedTransitions])
      · rcases claims.2 with expired | own
        · rw [leased.leaseUntil, Option.all_some, decide_eq_true_eq] at expired
          omega
        · exact absurd leased (not_leased found own spares)
    · cases claimed
      exact .refl store

theorem Changes.transition {target : RunStatus} {stepId code message : Option String} {result : Option Fields}
    (moved : transitionRun now runId target stepId code message result store = .ok next) :
    Changes (.store (.transition runId target stepId code message result)) now store next := by
  unfold transitionRun at moved
  split at moved
  · cases moved
  · next row found =>
    rw [check_eq_ok] at moved
    cases moved.2
    have present := Table.find_of_mem (Table.find_mem found)
    have named := (Table.find_key found).symm
    exact .updateRun present ⟨.single (not_not.mp moved.1), fun _ _ _ _ spares => absurd named spares⟩

theorem Changes.queue {approvalId : Option String}
    (queued : queueAfterApproval context runId approvalId store = .ok next) : Changes call now store next := by
  unfold queueAfterApproval at queued
  rw [check_eq_ok] at queued
  replace queued := queued.2
  split at queued
  · cases queued
  · next row matching =>
    have found := (Option.filter_eq_some_iff.mp matching).1
    rw [check_eq_ok, check_eq_ok, not_or, not_not] at queued
    obtain ⟨-, ⟨waiting, -⟩, queued⟩ := queued
    split at queued
    · next step held =>
      split at queued
      · obtain ⟨between, updated, ended⟩ := bind_eq_ok.mp queued
        cases ended
        obtain ⟨steps, attempts⟩ := updateStep_ok updated
        have runs := updateStep_runs updated
        have present : between.runs.find row.id = some row := runs ▸ Table.find_of_mem (Table.find_mem found)
        refine .through runs (fun numbered => ?_) (.updateRun present ⟨.single ?_, fun _ _ leased _ _ => ?_⟩)
        · have stored := Table.find_of_mem (Table.find_mem held)
          refine numbered.advance steps stored (attempts.trans (List.append_nil _).symm) nofun fun before ledger => ?_
          rw [List.append_nil]
          exact ⟨ledger.numbers, ledger.carried⟩
        · simp [Moves, waiting, allowedTransitions]
        · cases waiting.symm.trans leased.running
      · cases queued
    · cases queued

theorem Changes.record {stepResult : AgentStepResult} (recorded : recordStepResult now runId stepResult store = .ok next) :
    Changes call now store next := by
  unfold recordStepResult at recorded
  split at recorded
  · cases recorded
  · next step held =>
    rw [check_eq_ok] at recorded
    obtain ⟨between, updated, ended⟩ := bind_eq_ok.mp recorded.2
    cases ended
    obtain ⟨steps, attempts⟩ := updateStep_ok updated
    have runs := updateStep_runs updated
    refine .kept runs fun numbered => ?_
    have stored := Table.find_of_mem (Table.find_mem held)
    refine numbered.advance steps stored (congrArg (· ++ _) attempts) ?_ ?_
    · have named : step.identity = (runId, stepResult.stepId) := Table.find_key held
      exact List.forall_mem_singleton.mpr (congrArg (·, step.stepId) (Prod.mk.inj named).1.symm)
    · intro before ledger
      constructor
      · rw [List.map_append, ledger.numbers, List.range'_1_concat, Nat.add_comm 1]
        rfl
      · exact List.forall_mem_append.mpr ⟨ledger.carried, List.forall_mem_singleton.mpr ⟨rfl, rfl, rfl⟩⟩

theorem Changes.cancel (cancelled : requestCancellation now context runId store = .ok next) :
    Changes call now store next := by
  unfold requestCancellation at cancelled
  split at cancelled
  · cases cancelled
  · next row matching =>
    have present := Table.find_of_mem (Table.find_mem (Option.filter_eq_some_iff.mp matching).1)
    split at cancelled
    · cases cancelled
      exact .refl store
    · dsimp only at cancelled
      cases cancelled
      refine .updateRun present ?_
      split
      · next ends =>
        constructor
        · rcases ends with queued | waiting | ⟨running, -⟩ <;> exact .single (by simp [Moves, allowedTransitions, *])
        · intro token deadline leased early _
          simp [leased.running, leased.token, leased.leaseUntil, early, isSet] at ends
      · exact ⟨.refl, fun token deadline leased _ _ => ⟨leased.running, leased.token, leased.leaseUntil⟩⟩

theorem Changes.renew {token : String} {leaseSeconds : Int}
    (renewed : renewRunLease now runId token leaseSeconds store = .ok next) :
    Changes (.renew runId token leaseSeconds) now store next := by
  unfold renewRunLease at renewed
  rw [check_eq_ok, check_eq_ok] at renewed
  replace renewed := renewed.2.2
  split at renewed
  · cases renewed
    exact .refl store
  · next row matching =>
    cases renewed
    obtain ⟨found, held⟩ := Option.filter_eq_some_iff.mp matching
    have present := Table.find_of_mem (Table.find_mem found)
    have own := of_decide_eq_true (Bool.and_eq_true_iff.mp held).2
    exact .updateRun present ⟨.refl, fun _ _ leased _ spares => absurd leased (not_leased found own spares)⟩

theorem Changes.release (token : String) : Changes (.release runId token) now store (releaseRunLease runId token store) := by
  unfold releaseRunLease
  split
  · exact .refl store
  · next row matching =>
    obtain ⟨found, held⟩ := Option.filter_eq_some_iff.mp matching
    have present := Table.find_of_mem (Table.find_mem found)
    have own := of_decide_eq_true held
    exact .updateRun present ⟨.refl, fun _ _ leased _ spares => absurd leased (not_leased found own spares)⟩

theorem RunCall.perform_changes {call : RunCall} (performed : call.perform deployment now store = .ok next) :
    Changes call now store next := by
  cases call with
  | cancel context runId => exact .cancel performed
  | renew runId token leaseSeconds => exact .renew performed
  | release runId token =>
    cases performed
    exact .release token
  | store call =>
    cases call with
    | create context plan => exact .create performed
    | claim runId token leaseSeconds => exact .claim performed
    | transition runId target stepId code message result => exact .transition performed
    | queue context runId approvalId => exact .queue performed
    | record runId stepResult => exact .record performed
    | approve id =>
      simp only [RunCall.perform, StoreCall.perform] at performed
      split at performed
      · cases performed
        exact .kept rfl fun numbered => ⟨numbered.known, numbered.ledgers⟩
      · cases performed

/-! ### Whole histories -/

theorem history_cons (deployment : Deployment) (entry : Int × RunCall) (rest : List (Int × RunCall))
    (store : AgentStore) :
    ∃ next, Changes entry.2 entry.1 store next ∧ history deployment (entry :: rest) store = history deployment rest next := by
  refine ⟨(entry.2.perform deployment entry.1 store).toOption.getD store, ?_, rfl⟩
  cases performed : entry.2.perform deployment entry.1 store with
  | ok next => exact RunCall.perform_changes performed
  | error error => exact .refl store

/-- A stored run stays, moves only along the table of transitions, and ends once. -/
structure Continues (store next : AgentStore) : Prop where
  moves : ∀ id row, store.runs.find id = some row → ∃ after, next.runs.find id = some after ∧
    Relation.ReflTransGen Moves row.status after.status
  ends : ∀ id row, store.runs.find id = some row → row.status ∈ terminalRunStatuses →
    ∃ after, next.runs.find id = some after ∧ after.status = row.status

theorem runs_follow_transitions (deployment : Deployment) (calls : List (Int × RunCall)) (store : AgentStore) :
    Continues store (history deployment calls store) := by
  induction calls generalizing store with
  | nil => exact ⟨fun _ row found => ⟨row, found, .refl⟩, fun _ row found _ => ⟨row, found, rfl⟩⟩
  | cons entry rest ih =>
    obtain ⟨next, changes, same⟩ := history_cons deployment entry rest store
    rw [same]
    constructor
    · intro id row found
      obtain ⟨middle, present, rewrites⟩ := changes.runs id row found
      obtain ⟨after, later, moves⟩ := (ih next).moves id middle present
      exact ⟨after, later, rewrites.moves.to_reflTransGen.trans moves⟩
    · intro id row found ended
      obtain ⟨middle, present, rewrites⟩ := changes.runs id row found
      rcases (Relation.reflGen_iff _ _ _).mp rewrites.moves with stays | step
      · rw [← stays] at ended ⊢
        exact (ih next).ends id middle present ended
      · exact absurd ended step.not_terminal

/-- Until a lease ends, nobody but its holder moves the run or takes the lease over. -/
theorem leases_exclude {token : String} {deadline : Int} {row : AgentRuntimeRun} (deployment : Deployment)
    {calls : List (Int × RunCall)} (spared : ∀ entry ∈ calls, entry.1 < deadline ∧ entry.2.Spares runId token)
    (found : store.runs.find runId = some row) (leased : row.Leased token deadline) :
    ∃ after, (history deployment calls store).runs.find runId = some after ∧ after.Leased token deadline := by
  induction calls generalizing store row with
  | nil => exact ⟨row, found, leased⟩
  | cons entry rest ih =>
    obtain ⟨next, changes, same⟩ := history_cons deployment entry rest store
    obtain ⟨middle, present, rewrites⟩ := changes.runs runId row found
    obtain ⟨early, spares⟩ := spared entry List.mem_cons_self
    rw [← Table.find_key found] at spares
    rw [same]
    exact ih (fun other member => spared other (List.mem_cons_of_mem _ member)) present
      (rewrites.spares token deadline leased early spares)

def claimedRun : AgentStore :=
  history sample [(0, .store (.create sampleContext mailPlan)), (0, .store (.claim "run" "ada" 60))] emptyStore

def intrusions : List (Int × RunCall) :=
  [(1, .store (.claim "run" "bob" 60)), (2, .cancel sampleContext "run"), (3, .release "run" "bob")]

theorem leases_exclude_intrusions : ∃ after, (history sample intrusions claimedRun).runs.find "run" = some after ∧
    after.Leased "ada" 60000000 := by
  have claimed : (claimedRun.runs.find "run").map (fun row => (row.status, row.leaseToken, row.leaseUntil)) =
      some (.running, some "ada", some 60000000) := by decide +kernel
  obtain ⟨row, found, same⟩ := Option.map_eq_some_iff.mp claimed
  cases row
  cases same
  refine leases_exclude sample ?_ found ⟨rfl, ⟨rfl, by decide⟩, rfl⟩
  have apart : strip "bob" ≠ "ada" := by decide +kernel
  simp [intrusions, RunCall.Spares, apart]

/-- The attempts of every step are numbered from one to its count. -/
theorem attempts_numbered (deployment : Deployment) (calls : List (Int × RunCall)) :
    Numbered (history deployment calls emptyStore) := by
  have kept : ∀ store, Numbered store → Numbered (history deployment calls store) := by
    induction calls with
    | nil => exact fun _ numbered => numbered
    | cons entry rest ih =>
      intro store numbered
      obtain ⟨next, changes, same⟩ := history_cons deployment entry rest store
      exact same ▸ ih next (changes.numbered numbered)
  exact kept emptyStore ⟨nofun, nofun⟩

end Operly.Agent
