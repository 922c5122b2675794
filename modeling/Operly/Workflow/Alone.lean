import Operly.Concurrent.Turns
import Operly.Workflow.World

/-! A session that has the database to itself: what it is told, and what its commit does. -/

namespace Operly.Workflow
open Python Security Concurrent Relational Fallible

structure Reads (base after : WorkflowState) : Prop where
  definitions : after.definitions = base.definitions
  versions : after.versions = base.versions
  schedules : after.schedules = base.schedules
  triggers : after.triggers = base.triggers
  events : after.events = base.events
  cursor : after.cursor = base.cursor
  runs : after.runs = base.runs
  steps : after.steps = base.steps
  attempts : after.attempts = base.attempts
  approvals : after.approvals = base.approvals
  clock : base.clock ≤ after.clock

namespace Reads
variable {first second third : WorkflowState}

theorem refl (state : WorkflowState) : Reads state state :=
  ⟨rfl, rfl, rfl, rfl, rfl, rfl, rfl, rfl, rfl, rfl, le_refl _⟩

theorem trans (early : Reads first second) (late : Reads second third) : Reads first third where
  definitions := late.definitions.trans early.definitions
  versions := late.versions.trans early.versions
  schedules := late.schedules.trans early.schedules
  triggers := late.triggers.trans early.triggers
  events := late.events.trans early.events
  cursor := late.cursor.trans early.cursor
  runs := late.runs.trans early.runs
  steps := late.steps.trans early.steps
  attempts := late.attempts.trans early.attempts
  approvals := late.approvals.trans early.approvals
  clock := early.clock.trans late.clock

theorem elapse (state : WorkflowState) (elapsed : Nat) : Reads state (state.elapse elapsed) := by
  refine ⟨rfl, rfl, rfl, rfl, rfl, rfl, rfl, rfl, rfl, rfl, ?_⟩
  simp only [WorkflowState.elapse]
  omega

theorem record (state : WorkflowState) (entry : LogEntry) : Reads state (state.record entry) :=
  ⟨rfl, rfl, rfl, rfl, rfl, rfl, rfl, rfl, rfl, rfl, le_refl _⟩

theorem hold (state : WorkflowState) (pid : Nat) (locks : List Lockable) : Reads state (state.hold pid locks) :=
  ⟨rfl, rfl, rfl, rfl, rfl, rfl, rfl, rfl, rfl, rfl, le_refl _⟩

theorem release (state : WorkflowState) (pid : Nat) : Reads state (state.release pid) :=
  ⟨rfl, rfl, rfl, rfl, rfl, rfl, rfl, rfl, rfl, rfl, le_refl _⟩

end Reads

def Op.reading : Op → Bool
  | .commit _ | .kernel _ => false
  | _ => true

theorem serve_reads {pid : Nat} {op : Op} {choice : Choice} {before after : WorkflowState}
    {answer : workflowDb.Answer op} (reading : op.reading = true)
    (served : before.serve pid op choice = some (answer, after)) : Reads before after := by
  cases op with
  | commit changes => cases reading
  | kernel call => cases reading
  | uuid =>
    simp only [WorkflowState.serve] at served
    split at served
    · cases served
    · cases served
      exact ⟨rfl, rfl, rfl, rfl, rfl, rfl, rfl, rfl, rfl, rfl, le_refl _⟩
  | definitionForUpdate id =>
    simp only [WorkflowState.serve] at served
    split at served
    · cases served
      exact .refl before
    · split at served
      · cases served
        exact .refl before
      · cases served
        exact .hold before _ _
  | lockDefinition id =>
    simp only [WorkflowState.serve] at served
    split at served
    · cases served
    · split at served
      · cases served
        exact .refl before
      · cases served
        exact .hold before _ _
  | cursorForUpdate =>
    simp only [WorkflowState.serve] at served
    split at served
    · cases served
      exact .refl before
    · split at served
      · cases served
        exact .refl before
      · cases served
        exact .hold before _ _
  | waitingForUpdate limit | expiredForUpdate now limit | dueForUpdate now limit
  | queuedForUpdate workflowId now limit =>
    cases served
    exact .hold before _ _
  | active workflowId now | triggersFor event =>
    cases served
    exact .record before _
  | rollback =>
    cases served
    exact .release before pid
  | _ =>
    cases served
    exact .refl before

/-- What a session may be told while the tables are as in `base`. -/
def Told (base : WorkflowState) (op : workflowDb.Op) (answer : workflowDb.Answer op) : Prop :=
  ∃ pid choice before after, Reads base before ∧
    WorkflowState.serve before pid op choice = some (answer, after)

theorem perform_told {pid : Nat} {op : workflowDb.Op} {choice : Choice} {base before after : WorkflowState}
    {answer : workflowDb.Answer op} (reading : Op.reading op = true) (since : Reads base before)
    (performed : workflowWorld.perform pid op choice before = some (answer, after)) :
    Told base op answer ∧ Reads base after := by
  have passed := since.trans (.elapse before choice.elapsed)
  exact ⟨⟨pid, choice, _, after, passed, performed⟩, passed.trans (serve_reads reading performed)⟩

namespace Told
variable {base : WorkflowState}

theorem now {now : Int} (told : Told base Op.now now) : base.clock ≤ now := by
  obtain ⟨pid, choice, before, after, reads, served⟩ := told
  cases served
  exact reads.clock

theorem uuid {id : String} (told : Told base Op.uuid id) : id ≠ "" := by
  obtain ⟨pid, choice, before, after, -, served⟩ := told
  simp only [WorkflowState.serve] at served
  split at served
  · cases served
  · next unused =>
    cases served
    intro empty
    exact unused (by simp [WorkflowState.used, empty])

theorem definition {id : String} {answer : Option WorkflowDefinition}
    (told : Told base (Op.definition id) answer) : answer = base.definitions.find id := by
  obtain ⟨pid, choice, before, after, reads, served⟩ := told
  cases served
  rw [reads.definitions]

theorem currentVersion {id : String} {version : Nat} {answer : Option WorkflowVersion}
    (told : Told base (Op.currentVersion id version) answer) : answer = base.versionOf id version := by
  obtain ⟨pid, choice, before, after, reads, served⟩ := told
  cases served
  rw [WorkflowState.versionOf, reads.versions, WorkflowState.versionOf]

theorem scheduleOf {id : String} {answer : Option WorkflowSchedule} (told : Told base (Op.scheduleOf id) answer) :
    answer = base.schedules.rows.find? (·.workflowId = id) := by
  obtain ⟨pid, choice, before, after, reads, served⟩ := told
  cases served
  rw [reads.schedules]

theorem dueForUpdate {now : Int} {limit : Nat} {answer : List WorkflowSchedule}
    (told : Told base (Op.dueForUpdate now limit) answer) :
    ∀ row ∈ answer, row ∈ base.schedules.rows ∧ row.due now = true := by
  obtain ⟨pid, choice, before, after, reads, served⟩ := told
  cases served
  intro row member
  have listed := List.mem_of_mem_filter (List.mem_of_mem_take member)
  rw [List.mem_insertionSort] at listed
  obtain ⟨found, due⟩ := Table.mem_select.mp listed
  rw [← reads.schedules]
  exact ⟨Table.find_mem found, due⟩

end Told

section
variable {α : Type} {pid : Nat} {ok : Op → Choice → WorkflowState → Prop} {kept : WorkflowState → Prop}
  {base state : WorkflowState}

theorem sessionScope_ensures {body : Session (α × List Write)} {result : α × List Write → Prop}
    {returns : α → WorkflowState → Prop} {raises : WorkflowError → WorkflowState → Prop}
    (told : body.Informed (Told base) (fun op => Op.reading op = true) result)
    (initially : Reads base state) (keeps : ∀ after, Reads base after → kept after)
    (commits : ∀ value current after, result value → Reads base current →
      current.writeAll value.2 = some after → returns value.1 (after.release pid))
    (fails : ∀ error after, Reads base after → raises error after) :
    (sessionScope body).Ensures workflowWorld pid ok kept returns raises state := by
  have inner : (body >>= fun result => commit result.2 >>= fun _ => pure result.1).Ensures workflowWorld
      pid ok kept returns (fun _ after => Reads base after) state := by
    apply Ensures.bind
    · exact Ensures.informed told initially
        (fun _ _ _ _ _ reading since performed => perform_told reading since performed) keeps
    · rintro value before ⟨since, holds⟩
      have committed : (commit value.2).Ensures workflowWorld pid ok kept
          (fun _ after => returns value.1 after) (fun _ after => Reads base after) before := by
        apply Ensures.bind_ask (keeps before since)
        intro choice answer after _ performed
        have passed := since.trans (.elapse before choice.elapsed)
        have served : (before.elapse choice.elapsed).serve pid (.commit value.2) choice =
          some (answer, after) := performed
        simp only [WorkflowState.serve] at served
        split at served
        · cases served
        · split at served
          · cases served
            exact Ensures.raise passed
          · next current written =>
            cases served
            exact Ensures.pure (commits value _ current holds passed written)
      exact Ensures.bind committed fun _ _ returned => Ensures.pure returned
  apply Ensures.run_iff.mpr
  apply Program.Ensures.bind (Ensures.run_iff.mp inner)
  intro outcome after holds
  cases outcome with
  | ok value => exact holds
  | error error =>
    refine ⟨keeps after holds, fun choice answer last _ performed => ?_⟩
    have rolled : workflowWorld.perform pid Op.rollback choice after = some (answer, last) := performed
    exact fails error last (perform_told rfl holds rolled).2

end

theorem writeAll_append {state : WorkflowState} {changes others : List Write} :
    state.writeAll (changes ++ others) = (state.writeAll changes).bind fun middle => middle.writeAll others :=
  List.foldlM_append

theorem writeAll_view {τ : Type} (view : WorkflowState → τ) (shown : Write → Bool)
    (aside : ∀ change state after, shown change = false → state.write change = some after →
      view after = view state) (within : ∀ change state other after, shown change = true → view state = view other →
      state.write change = some after →
      ∃ after', other.write change = some after' ∧ view after = view after') {changes : List Write}
    {state other after : WorkflowState} (same : view state = view other)
    (written : state.writeAll changes = some after) :
    ∃ after', other.writeAll (changes.filter shown) = some after' ∧ view after = view after' := by
  induction changes generalizing state other with
  | nil =>
    cases written
    exact ⟨other, rfl, same⟩
  | cons change rest ih =>
    rw [WorkflowState.writeAll, List.foldlM_cons, Option.bind_eq_bind, Option.bind_eq_some_iff] at written
    obtain ⟨middle, first, later⟩ := written
    cases seen : shown change with
    | false =>
      rw [List.filter_cons_of_neg (by simp [seen])]
      exact ih ((aside change state middle seen first).trans same) later
    | true =>
      obtain ⟨middle', first', agree⟩ := within change state other middle seen same first
      obtain ⟨after', later', result⟩ := ih agree later
      refine ⟨after', ?_, result⟩
      rw [List.filter_cons_of_pos seen, WorkflowState.writeAll, List.foldlM_cons, first']
      exact later'

end Operly.Workflow
