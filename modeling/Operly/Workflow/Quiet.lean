import Mathlib.Data.Fintype.EquivFin
import Operly.Workflow.Alone

/-! A session while nobody else works on the tables: no row is locked, every query has one answer, and
a commit succeeds. -/

namespace Operly.Workflow
open Python Security Concurrent Relational Fallible

def quiet (_ : workflowDb.Op) (choice : Choice) (_ : WorkflowState) : Prop := choice.busy = []

namespace WorkflowState

def Unlocked (state : WorkflowState) (pid : Nat) : Prop := ∀ lock, state.heldElsewhere pid lock = false

def Idle (state : WorkflowState) : Prop := ∀ lock, state.held lock = none

variable {state after : WorkflowState} {pid : Nat}

theorem Idle.unlocked (idle : state.Idle) (pid : Nat) : state.Unlocked pid := by
  intro lock
  unfold heldElsewhere
  rw [idle lock]

theorem Unlocked.hold (unlocked : state.Unlocked pid) (locks : List Lockable) :
    (state.hold pid locks).Unlocked pid := by
  intro lock
  have free := unlocked lock
  unfold heldElsewhere at free
  unfold heldElsewhere WorkflowState.hold
  by_cases taken : lock ∈ locks
  · simp [taken]
  · simpa [taken] using free

theorem Unlocked.release (unlocked : state.Unlocked pid) : (state.release pid).Unlocked pid := by
  intro lock
  have mine := unlocked lock
  unfold heldElsewhere at mine
  unfold heldElsewhere WorkflowState.release
  by_cases own : state.held lock = some pid
  · simp [own]
  · simpa [own] using mine

theorem Unlocked.released (unlocked : state.Unlocked pid) (lock : Lockable) :
    (state.release pid).held lock = none := by
  have mine := unlocked lock
  unfold heldElsewhere at mine
  unfold WorkflowState.release
  cases holder : state.held lock with
  | none => simp [holder]
  | some other =>
    rw [holder] at mine
    have same : other = pid := by simpa using mine
    simp [holder, same]

theorem Unlocked.not_blocked (unlocked : state.Unlocked pid) (changes : List Write) :
    state.blocked pid changes = false := by
  rw [blocked, List.any_eq_false]
  intro change _
  cases change.target with
  | none => simp
  | some lock =>
    rw [Bool.not_eq_true]
    exact unlocked lock

theorem Unlocked.write {change : Write} (unlocked : state.Unlocked pid)
    (written : state.write change = some after) : after.Unlocked pid := by
  have same : after.held = state.held := by
    unfold WorkflowState.write at written
    cases change
    all_goals simp only [Option.map_eq_some_iff] at written
    all_goals first
      | (obtain ⟨_, _, rfl⟩ := written; rfl)
      | (split at written <;> cases written; rfl)
  intro lock
  unfold heldElsewhere
  rw [same]
  exact unlocked lock

theorem Unlocked.writeAll {changes : List Write} (unlocked : state.Unlocked pid)
    (written : state.writeAll changes = some after) : after.Unlocked pid := by
  induction changes generalizing state with
  | nil =>
    cases written
    exact unlocked
  | cons change rest ih =>
    rw [WorkflowState.writeAll, List.foldlM_cons, Option.bind_eq_bind, Option.bind_eq_some_iff] at written
    obtain ⟨middle, first, later⟩ := written
    exact ih (unlocked.write first) later

theorem Unlocked.serve {op : Op} {choice : Choice} {answer : workflowDb.Answer op} (unlocked : state.Unlocked pid)
    (served : state.serve pid op choice = some (answer, after)) : after.Unlocked pid := by
  cases op with
  | commit changes =>
    simp only [WorkflowState.serve] at served
    split at served
    · cases served
    · split at served
      · cases served
        exact unlocked
      · next written =>
        cases served
        exact (unlocked.writeAll written).release
  | rollback =>
    cases served
    exact unlocked.release
  | waitingForUpdate limit | expiredForUpdate now limit | dueForUpdate now limit
  | queuedForUpdate workflowId now limit =>
    cases served
    exact unlocked.hold _
  | definitionForUpdate id | lockDefinition id =>
    simp only [WorkflowState.serve] at served
    split at served <;> (try split at served) <;> cases served <;>
      first | exact unlocked | exact unlocked.hold _
  | cursorForUpdate =>
    simp only [WorkflowState.serve] at served
    split at served
    · cases served
      exact unlocked
    · split at served <;> cases served
      · exact unlocked
      · exact unlocked.hold _
  | uuid =>
    simp only [WorkflowState.serve] at served
    split at served
    · cases served
    · cases served
      exact unlocked
  | _ =>
    cases served
    exact unlocked

end WorkflowState

/-- The tables are as they were when the session began, and no other session holds a row. -/
structure Alone (pid : Nat) (base state : WorkflowState) : Prop where
  reads : Reads base state
  unlocked : state.Unlocked pid

def Answered (pid : Nat) (base : WorkflowState) (op : workflowDb.Op) (answer : workflowDb.Answer op) : Prop :=
  ∃ choice before after, choice.busy = [] ∧ Alone pid base before ∧
    WorkflowState.serve before pid op choice = some (answer, after)

section
variable {pid : Nat} {base state after : WorkflowState}

theorem Alone.start (unlocked : base.Unlocked pid) : Alone pid base base := ⟨.refl base, unlocked⟩

theorem Alone.elapse (alone : Alone pid base state) (elapsed : Nat) : Alone pid base (state.elapse elapsed) :=
  ⟨alone.reads.trans (.elapse state elapsed), alone.unlocked⟩

theorem Answered.told {op : workflowDb.Op} {answer : workflowDb.Answer op}
    (answered : Answered pid base op answer) : Told base op answer := by
  obtain ⟨choice, before, after, -, alone, served⟩ := answered
  exact ⟨pid, choice, before, after, alone.reads, served⟩

namespace Answered

theorem free {rows : List WorkflowRun} (unlocked : state.Unlocked pid) :
    (rows.filter fun row => !state.heldElsewhere pid (.run row.id) && !([] : List String).contains row.id) =
      rows := by
  rw [List.filter_eq_self]
  intro row _
  simp [unlocked (.run row.id)]

theorem stepRun {runId stepKey : String} {answer : Option WorkflowStepRun}
    (answered : Answered pid base (Op.stepRun runId stepKey) answer) :
    answer = base.steps.rows.find? fun row => row.workflowRunId = runId && row.stepKey = stepKey := by
  obtain ⟨choice, before, after, -, alone, served⟩ := answered
  cases served
  rw [alone.reads.steps]

theorem approval {id : String} {answer : Option Kernel.KernelApproval}
    (answered : Answered pid base (Op.approval id) answer) : answer = base.approvals.find id := by
  obtain ⟨choice, before, after, -, alone, served⟩ := answered
  cases served
  rw [alone.reads.approvals]

end Answered

variable {α β : Type} {kept : WorkflowState → Prop} {raises : WorkflowError → WorkflowState → Prop}

theorem serve_issued {op : Op} {choice : Choice} {answer : workflowDb.Answer op} (reading : op.reading = true)
    (served : state.serve pid op choice = some (answer, after)) : state.issued ⊆ after.issued := by
  cases op with
  | commit changes => cases reading
  | kernel call => cases reading
  | uuid =>
    simp only [WorkflowState.serve] at served
    split at served
    · cases served
    · cases served
      exact List.subset_cons_self _ _
  | definitionForUpdate id | lockDefinition id | cursorForUpdate =>
    simp only [WorkflowState.serve] at served
    split at served <;> (try split at served) <;> cases served <;> exact List.Subset.refl _
  | _ =>
    cases served
    exact List.Subset.refl _

theorem bind_query {op : Op} {next : workflowDb.Answer op → Session β} {returns : β → WorkflowState → Prop}
    (reading : op.reading = true) (alone : Alone pid base state) (keeps : kept state)
    (rest : ∀ answer after, Answered pid base op answer → Alone pid base after → state.issued ⊆ after.issued →
      (next answer).Ensures workflowWorld pid quiet kept returns raises after) :
    (query op >>= next).Ensures workflowWorld pid quiet kept returns raises state := by
  apply Ensures.bind_ask keeps
  intro choice answer after calm performed
  have passed := alone.elapse choice.elapsed
  have served : (state.elapse choice.elapsed).serve pid op choice = some (answer, after) := performed
  have reads : Reads base after := passed.reads.trans (serve_reads reading served)
  have grown : (state.elapse choice.elapsed).issued ⊆ after.issued := serve_issued reading served
  exact rest answer after ⟨choice, _, after, calm, passed, served⟩
    ⟨reads, passed.unlocked.serve served⟩ grown

theorem bind_uuid {next : String → Session β} {returns : β → WorkflowState → Prop} (alone : Alone pid base state)
    (keeps : kept state) (rest : ∀ id after, base.events.find id = none → id ∉ state.issued → id ∈ after.issued →
      state.issued ⊆ after.issued → Alone pid base after →
      (next id).Ensures workflowWorld pid quiet kept returns raises after) :
    (query .uuid >>= next).Ensures workflowWorld pid quiet kept returns raises state := by
  apply Ensures.bind_ask keeps
  intro choice answer after calm performed
  have passed := alone.elapse choice.elapsed
  have served : (state.elapse choice.elapsed).serve pid .uuid choice = some (answer, after) := performed
  have still : Alone pid base after :=
    ⟨passed.reads.trans (serve_reads rfl served), passed.unlocked.serve served⟩
  have grown := serve_issued rfl served
  simp only [WorkflowState.serve] at served
  split at served
  · cases served
  · next unused =>
    cases served
    simp only [WorkflowState.used, Bool.or_eq_true, not_or] at unused
    apply rest _ _ _ _ List.mem_cons_self grown still
    · rw [← passed.reads.events]
      simpa using unused.1.1.1.1.2
    · have apart := unused.1.1.1.1.1.1.1.1.2
      rw [List.contains_iff_mem] at apart
      exact apart

theorem sessionScope_quiet {body : Session (α × List Write)} {returns : α → WorkflowState → Prop}
    {result : α × List Write → WorkflowState → Prop} {raised : WorkflowError → WorkflowState → Prop}
    (inner : body.Ensures workflowWorld pid quiet (fun _ => True) result raised state)
    (unlocked : ∀ value current, result value current → current.Unlocked pid)
    (commits : ∀ value current elapsed, result value current → ∃ after,
      (current.elapse elapsed).writeAll value.2 = some after ∧ returns value.1 (after.release pid))
    (fails : ∀ error current elapsed, raised error current →
      raises error ((current.elapse elapsed).release pid)) :
    (sessionScope body).Ensures workflowWorld pid quiet (fun _ => True) returns raises state := by
  have whole : (body >>= fun result => commit result.2 >>= fun _ => pure result.1).Ensures workflowWorld
      pid quiet (fun _ => True) returns raised state := by
    apply Ensures.bind inner
    intro value current holds
    have committed : (commit value.2).Ensures workflowWorld pid quiet (fun _ => True)
        (fun _ after => returns value.1 after) raised current := by
      apply Ensures.bind_ask trivial
      intro choice answer after _ performed
      have served : (current.elapse choice.elapsed).serve pid (.commit value.2) choice =
        some (answer, after) := performed
      obtain ⟨written, writes, done⟩ := commits value current choice.elapsed holds
      have free : (current.elapse choice.elapsed).Unlocked pid := unlocked value current holds
      simp only [WorkflowState.serve, free.not_blocked, writes] at served
      cases served
      exact Ensures.pure done
    exact Ensures.bind committed fun _ _ returned => Ensures.pure returned
  apply Ensures.run_iff.mpr
  apply Program.Ensures.bind (Ensures.run_iff.mp whole)
  intro outcome after holds
  cases outcome with
  | ok value => exact holds
  | error error =>
    refine ⟨trivial, fun choice answer last _ performed => ?_⟩
    cases performed
    exact fails error after choice.elapsed holds

/-- The identifiers that `uuid4` does not make up again. -/
def WorkflowState.taken (state : WorkflowState) : List String :=
  "" :: state.issued ++ state.runs.rows.map (·.id) ++ state.steps.rows.map (·.id) ++
    state.attempts.rows.map (·.id) ++ state.events.rows.map (·.id) ++ state.triggers.rows.map (·.id) ++
    state.schedules.rows.map (·.id) ++ state.definitions.rows.map (·.id) ++ state.versions.rows.map (·.id)

theorem WorkflowState.mem_taken {id : String} (used : state.used id = true) : id ∈ state.taken := by
  have row : ∀ {ρ : Type} {key : ρ → String} (table : Table ρ String key),
      (table.find id).isSome = true → id ∈ table.rows.map key := by
    intro ρ key table present
    obtain ⟨found, same⟩ := Option.isSome_iff_exists.mp present
    exact List.mem_map.mpr ⟨found, Table.find_mem same, Table.find_key same⟩
  simp only [WorkflowState.used, Bool.or_eq_true, decide_eq_true_eq, List.contains_iff_mem] at used
  simp only [WorkflowState.taken, List.cons_append, List.mem_cons, List.mem_append]
  rcases used with ((((((((none | issued) | run) | step) | attempt) | event) | trigger) | schedule) |
    definition) | version
  · exact .inl none
  · simp [issued]
  · simp [row _ run]
  · simp [row _ step]
  · simp [row _ attempt]
  · simp [row _ event]
  · simp [row _ trigger]
  · simp [row _ schedule]
  · simp [row _ definition]
  · simp [row _ version]

theorem exists_unused (state : WorkflowState) : ∃ id, state.used id = false := by
  obtain ⟨id, apart⟩ := Infinite.exists_notMem_finset state.taken.toFinset
  refine ⟨id, ?_⟩
  by_contra used
  rw [Bool.not_eq_false] at used
  exact apart (List.mem_toFinset.mpr (WorkflowState.mem_taken used))

theorem serve_total (unlocked : state.Unlocked pid) (op : workflowDb.Op) (elapsed : Nat) :
    ∃ choice answer after, choice.busy = [] ∧ choice.elapsed = elapsed ∧
      workflowWorld.perform pid op choice state = some (answer, after) ∧ after.Unlocked pid := by
  obtain ⟨fresh, unused⟩ := exists_unused (state.elapse elapsed)
  have free : (state.elapse elapsed).Unlocked pid := unlocked
  have served : ∃ result, WorkflowState.serve (state.elapse elapsed) pid op { elapsed, fresh } = some result := by
    cases op with
    | uuid =>
      simp only [WorkflowState.serve, unused]
      exact ⟨_, rfl⟩
    | definitionForUpdate id | lockDefinition id | cursorForUpdate =>
      simp only [WorkflowState.serve, free _, Bool.false_eq_true, reduceIte]
      split
      · exact ⟨_, rfl⟩
      · exact ⟨_, rfl⟩
    | commit changes =>
      simp only [WorkflowState.serve, free.not_blocked, Bool.false_eq_true, reduceIte]
      split
      · exact ⟨_, rfl⟩
      · exact ⟨_, rfl⟩
    | _ => exact ⟨_, rfl⟩
  obtain ⟨⟨answer, after⟩, same⟩ := served
  exact ⟨{ elapsed, fresh }, answer, after, rfl, rfl, same, free.serve same⟩

def prompt (op : workflowDb.Op) (choice : Choice) (_ : WorkflowState) : Prop :=
  choice.busy = [] ∧ (op = Op.now → choice.elapsed = 0)

theorem evaluates_total (program : Program workflowDb α) (unlocked : state.Unlocked pid) :
    ∃ value final, Evaluates workflowWorld pid prompt program state value final := by
  have served : ∀ (op : workflowDb.Op) (before : WorkflowState), before.Unlocked pid →
      ∃ choice answer after, prompt op choice before ∧
        workflowWorld.perform pid op choice before = some (answer, after) ∧ after.Unlocked pid := by
    intro op before free
    obtain ⟨choice, answer, after, calm, still, performed, unlocked⟩ := serve_total free op 0
    exact ⟨choice, answer, after, ⟨calm, fun _ => still⟩, performed, unlocked⟩
  exact Evaluates.total served program unlocked

theorem quiet_of_prompt {program : Program workflowDb α} {value : α}
    (run : Evaluates workflowWorld pid prompt program state value after) :
    Evaluates workflowWorld pid quiet program state value after :=
  run.weaken fun _ _ _ holds => holds.1

end

end Operly.Workflow
