import Operly.Workflow.Orderly
import Operly.Workflow.Scheduler

/-! Workflows over their life: calls of the capabilities and ticks of the scheduler, one after
another. -/

namespace Operly.Workflow
open Python Security Concurrent Relational

section
variable {base current after : WorkflowState} {platform : Platform} {context : ExecutionContext}
  {arguments : Fields} {changes : List Write}

/-! ### What a call leaves -/

theorem Noted.filter {noted : List Write} (events : Noted noted) (shown : Write → Bool)
    (hidden : ∀ event, shown (.newEvent event) = false) : noted.filter shown = [] := by
  rw [List.filter_eq_nil_iff]
  intro change member
  obtain ⟨event, rfl⟩ := events change member
  simp [hidden]

variable {row : WorkflowDefinition} {schedule : Option WorkflowSchedule} {next : Option Int}
  {outcome : CallResult × List Write} {replaced : Option (Option Fields)} {status : DefinitionStatus}
  {event : KernelEventRecord} {capability : Capability}

theorem Scheduled.supported {schedule : Option Fields} {enabled : Bool} {new : WorkflowSchedule} {value : Json}
    (scheduled : Scheduled platform row.id schedule enabled next (some new))
    (accepted : validateSchedule platform value = .ok schedule) (timed : Timed (scheduleJson schedule) enabled next)
    {definitions : Definitions} (found : definitions.find row.id = some row)
    (status : enabled = true → row.status = .enabled) :
    Supported definitions new ∧ (loads new.scheduleJson).truthy = true ∧ new.workflowId = row.id := by
  cases schedule with
  | none => cases scheduled
  | some fields =>
    obtain ⟨id, same⟩ := scheduled
    obtain rfl := Option.some.inj same
    have truthy := validateSchedule_truthy accepted rfl
    refine ⟨?_, ?_, rfl⟩
    · intro on
      exact ⟨⟨row, found, status on⟩, timed truthy on⟩
    · exact (truthy_sorted fields).trans truthy

theorem Creates.orderly (orderly : Orderly current.definitions current.schedules)
    (creates : Creates platform context arguments outcome) (written : current.writeAll outcome.2 = some after) :
    Orderly after.definitions after.schedules := by
  obtain ⟨row, version, schedule, requested, event, noted, ⟨created⟩, -, -, events, shape⟩ := creates
  obtain ⟨shown, written', definitions, schedules⟩ := writeAll_ofSchedules written
  have listed : outcome.2.filter Write.ofSchedules = .newDefinition row :: schedule.toList.map .newSchedule := by
    rw [shape]
    simp only [List.filter_append, events.filter Write.ofSchedules fun _ => rfl]
    cases schedule <;> rfl
  rw [definitions, schedules]
  rw [listed, WorkflowState.writeAll, List.foldlM_cons, Option.bind_eq_bind, Option.bind_eq_some_iff] at written'
  obtain ⟨middle, first, later⟩ := written'
  obtain ⟨free, rfl⟩ := write_insert first
  rw [Option.isSome_eq_false_iff, Option.isNone_iff_eq_none] at free
  have inserted := orderly.newDefinition created.named
  cases schedule with
  | none =>
    cases later
    exact inserted
  | some new =>
    obtain ⟨free', rfl⟩ := write_insert (writeAll_one later)
    rw [Bool.or_eq_false_iff, Option.isSome_eq_false_iff, Option.isNone_iff_eq_none, List.any_eq_false] at free'
    have found : (current.definitions.insert row).find row.id = some row := by
      rw [Table.find_insert, free, Option.none_or, if_pos rfl]
    obtain ⟨supported, stored, owner⟩ := created.scheduled.supported
      (creationOf_schedule created.accepted) created.timed found (by
        intro on
        rw [created.definition]
        simp [Creation.row, on])
    exact inserted.newSchedule supported stored free'.1 fun other member => by simpa using free'.2 other member

/-! Replacing the schedule of a workflow. -/

theorem Replaced.ofSchedules (shape : Replaced platform row schedule replaced next changes) :
    changes.filter Write.ofSchedules = changes := by
  unfold Replaced at shape
  split at shape
  · subst shape; rfl
  · subst shape; rfl
  · subst shape; rfl
  · obtain ⟨id, rfl⟩ := shape
    rfl
  · subst shape
    unfold scheduleChange
    split <;> rfl

theorem scheduleIn_some {workflowId : String} {schedule : WorkflowSchedule}
    (held : scheduleIn base workflowId = some schedule) :
    schedule ∈ base.schedules.rows ∧ schedule.workflowId = workflowId :=
  ⟨List.mem_of_find?_eq_some held, by simpa using List.find?_some held⟩

theorem Replaced.orderly {schedule : Json} (orderly : Orderly base.definitions base.schedules)
    (shape : Replaced platform row (scheduleIn base row.id) replaced next changes)
    (found : base.definitions.find row.id = some row)
    (accepted : ∀ candidate, replaced = some candidate → schedule = scheduleJson candidate ∧
      ∃ value, validateSchedule platform value = .ok candidate) (timed : Timed schedule (row.status = .enabled) next)
    (written : base.writeAll changes = some after) :
    Orderly after.definitions after.schedules ∧ after.definitions = base.definitions := by
  unfold Replaced at shape
  split at shape
  · subst shape
    cases written
    exact ⟨orderly, rfl⟩
  · subst shape
    cases written
    exact ⟨orderly, rfl⟩
  · next schedule held =>
    subst shape
    cases writeAll_one written
    exact ⟨orderly.deleteSchedule _, rfl⟩
  · next fields absent =>
    obtain ⟨id, rfl⟩ := shape
    obtain ⟨free, rfl⟩ := write_insert (writeAll_one written)
    rw [Bool.or_eq_false_iff, Option.isSome_eq_false_iff, Option.isNone_iff_eq_none, List.any_eq_false] at free
    obtain ⟨rfl, value, valid⟩ := accepted _ rfl
    have truthy := validateSchedule_truthy valid rfl
    refine ⟨orderly.newSchedule ?_ ?_ free.1 fun other member => by simpa using free.2 other member, rfl⟩
    · intro on
      have status : row.status = .enabled := by simpa [newSchedule] using on
      exact ⟨⟨row, found, status⟩, timed truthy (by simpa using status)⟩
    · exact (truthy_sorted fields).trans truthy
  · next fields schedule held =>
    subst shape
    obtain ⟨member, owner⟩ := scheduleIn_some held
    have held' := Table.find_of_mem member
    rw [writeAll_scheduleChange held' (by simp [WorkflowSchedule.patch])] at written
    obtain rfl := Option.some.inj written
    obtain ⟨rfl, value, valid⟩ := accepted _ rfl
    have truthy := validateSchedule_truthy valid rfl
    refine ⟨orderly.schedule held' rfl ?_ ?_, rfl⟩
    · intro on
      have status : row.status = .enabled := by simpa using on
      exact ⟨⟨row, owner ▸ found, status⟩, timed truthy (by simpa using status)⟩
    · exact (truthy_sorted fields).trans truthy

theorem Orderly.sameStatus {definitions : Definitions} {schedules : Schedules} {now : WorkflowDefinition}
    (orderly : Orderly definitions schedules) (found : definitions.find row.id = some row) (own : now.id = row.id)
    (status : now.status = row.status) : Orderly (definitions.replace now) schedules := by
  apply orderly.definition
  · intro empty
    rw [← own, empty, orderly.named] at found
    cases found
  · intro schedule member owner on
    obtain ⟨⟨workflow, found', enabled⟩, -⟩ := orderly.supported schedule member on
    rw [owner, own, found] at found'
    rw [status, Option.some.inj found', enabled]

theorem Updates.orderly {version : WorkflowVersion} {edit : Edit} {requested : Option ConcurrencyPolicy}
    {policy previous : ConcurrencyPolicy} (orderly : Orderly base.definitions base.schedules)
    (updating : Updating platform base arguments row version edit requested previous)
    (updates : Updates platform base context arguments row version edit policy previous changes)
    (written : base.writeAll changes = some after) : Orderly after.definitions after.schedules := by
  have found := updating.edited.found
  obtain ⟨shown, written', definitions, schedules⟩ := writeAll_ofSchedules written
  rw [definitions, schedules]
  cases updates with
  | same unchanged kept =>
    cases written'
    exact orderly
  | policyOnly unchanged differs id noted events =>
    rw [List.filter_append, events.filter Write.ofSchedules fun _ => rfl, List.append_nil] at written'
    obtain ⟨_, found', rfl⟩ := write_map (writeAll_one written')
    rw [found, Option.some.injEq] at found'
    subst found'
    exact orderly.sameStatus found rfl (by simp [WorkflowDefinition.patch, WorkflowDefinition.bumped])
  | revised changes nextRun scheduled id event noted timed replaced events =>
    simp only [List.filter_append, events.filter Write.ofSchedules fun _ => rfl, List.append_nil,
      replaced.ofSchedules] at written'
    rw [List.append_assoc, List.append_assoc, writeAll_append, Option.bind_eq_some_iff] at written'
    obtain ⟨middle, first, later⟩ := written'
    obtain ⟨orderly', same⟩ := replaced.orderly orderly found (fun candidate given => by
      obtain ⟨schedule, valid⟩ := editOf_replaced updating.edited.edited given
      exact ⟨schedule, _, valid⟩) timed first
    obtain ⟨current, found', rfl⟩ := write_map (writeAll_one later)
    rw [same, found, Option.some.injEq] at found'
    subst found'
    rw [← same] at found
    exact orderly'.sameStatus found rfl (by simp [WorkflowDefinition.patch, Edit.row])

theorem statusChanges_orderly {moved : WorkflowSchedule → WorkflowSchedule}
    (orderly : Orderly base.definitions base.schedules) (found : base.definitions.find row.id = some row)
    (patched : ∀ schedule, WorkflowSchedule.patch schedule (moved schedule) schedule = moved schedule)
    (shape : ∀ schedule, (moved schedule).id = schedule.id ∧
      (moved schedule).workflowId = schedule.workflowId ∧ (moved schedule).scheduleJson = schedule.scheduleJson)
    (fits : ∀ schedule, scheduleIn base row.id = some schedule → (moved schedule).enabled = true →
      status = .enabled ∧ (moved schedule).nextRunAt.isSome = true)
    (written : base.writeAll (statusChanges row status (scheduleIn base row.id) moved event) = some after) :
    Orderly after.definitions after.schedules := by
  obtain ⟨shown, written', definitions, schedules⟩ := writeAll_ofSchedules written
  rw [definitions, schedules]
  have listed : (statusChanges row status (scheduleIn base row.id) moved event).filter Write.ofSchedules =
      definitionChange row { row with status } ++
        (scheduleIn base row.id).toList.flatMap fun schedule => scheduleChange schedule (moved schedule) := by
    have ofDefinition : (definitionChange row { row with status }).filter Write.ofSchedules =
        definitionChange row { row with status } := by
      unfold definitionChange
      split <;> rfl
    have ofSchedule : ((scheduleIn base row.id).toList.flatMap fun schedule =>
        scheduleChange schedule (moved schedule)).filter Write.ofSchedules =
          (scheduleIn base row.id).toList.flatMap fun schedule => scheduleChange schedule (moved schedule) := by
      cases scheduleIn base row.id with
      | none => rfl
      | some schedule =>
        simp only [Option.toList_some, List.flatMap_singleton, scheduleChange]
        split <;> rfl
    rw [statusChanges, List.filter_append, List.filter_append, ofDefinition, ofSchedule]
    exact List.append_nil _
  rw [listed, writeAll_append, writeAll_definitionChange found (by simp [WorkflowDefinition.patch]),
    Option.bind_some] at written'
  cases held : scheduleIn base row.id with
  | none =>
    rw [held] at written'
    cases written'
    have named : ({ row with status } : WorkflowDefinition).id ≠ "" := by
      intro empty
      rw [show row.id = "" from empty, orderly.named] at found
      cases found
    apply orderly.definition named
    intro schedule member owner _
    have absent := List.find?_eq_none.mp held schedule member
    exact absurd owner (by simpa using absent)
  | some schedule =>
    obtain ⟨member, owner⟩ := scheduleIn_some held
    have held' := Table.find_of_mem member
    rw [held, Option.toList_some, List.flatMap_singleton,
      writeAll_scheduleChange (by exact held') (patched schedule)] at written'
    obtain rfl := Option.some.inj written'
    obtain ⟨own, sameOwner, stored⟩ := shape schedule
    have found' : base.definitions.find ({ row with status } : WorkflowDefinition).id = some row := found
    exact orderly.both found' (own.symm ▸ held') sameOwner owner (fits schedule held)
      (stored.symm ▸ orderly.stored schedule member)

theorem enable_orderly (orderly : Orderly base.definitions base.schedules)
    (found : base.definitions.find row.id = some row)
    (timed : ∀ schedule, scheduleIn base row.id = some schedule → Timed (loads schedule.scheduleJson) true next)
    (written : base.writeAll (statusChanges row .enabled (scheduleIn base row.id) (.resumed next) event) =
      some after) : Orderly after.definitions after.schedules := by
  apply statusChanges_orderly orderly found _ _ _ written
  · simp [WorkflowSchedule.patch, WorkflowSchedule.resumed]
  · simp [WorkflowSchedule.resumed]
  · intro schedule held _
    exact ⟨rfl, timed schedule held (orderly.stored schedule (scheduleIn_some held).1) rfl⟩

theorem withdraw_orderly (orderly : Orderly base.definitions base.schedules)
    (found : base.definitions.find row.id = some row)
    (written : base.writeAll (statusChanges row status (scheduleIn base row.id) .withdrawn event) =
      some after) : Orderly after.definitions after.schedules := by
  apply statusChanges_orderly orderly found _ _ _ written
  · simp [WorkflowSchedule.patch, WorkflowSchedule.withdrawn]
  · simp [WorkflowSchedule.withdrawn]
  · intro schedule held on
    cases on

theorem beside_filter (beside : ∀ change ∈ changes, Beside change) :
    changes.filter Write.ofSchedules = [] ∧ changes.filter Write.ofVersions = [] := by
  rw [List.filter_eq_nil_iff, List.filter_eq_nil_iff]
  constructor
  all_goals
    intro change member
    have aside := beside change member
    cases change with
    | newDefinition | definition | newSchedule | schedule | deleteSchedule | newVersion | version =>
      exact aside.elim
    | _ => simp [Write.ofSchedules, Write.ofVersions]

theorem beside_tables (beside : ∀ change ∈ changes, Beside change) (written : base.writeAll changes = some after) :
    after.definitions = base.definitions ∧ after.schedules = base.schedules ∧ after.versions = base.versions := by
  obtain ⟨shown, written', definitions, schedules⟩ := writeAll_ofSchedules written
  obtain ⟨shown', written'', -, versions⟩ := writeAll_ofVersions written
  rw [(beside_filter beside).1] at written'
  rw [(beside_filter beside).2] at written''
  cases written'
  cases written''
  exact ⟨definitions, schedules, versions⟩

/-! ### Calls -/

def Calls (platform : Platform) (base : WorkflowState) (context : ExecutionContext) (arguments : Fields)
    (capability : Capability) (outcome : CallResult × List Write) : Prop :=
  match capability with
  | .create => Creates platform context arguments outcome
  | .update => ∃ row current edit requested previous,
      Updating platform base arguments row current edit requested previous ∧ outcome.1.resourceId = row.id ∧
        Updates platform base context arguments row current edit (requested.getD previous) previous outcome.2
  | .enable => ∃ row next event, base.definitions.find row.id = some row ∧ row.status ≠ .archived ∧
      (∀ schedule, scheduleIn base row.id = some schedule → Timed (loads schedule.scheduleJson) true next) ∧
      outcome.2 = statusChanges row .enabled (scheduleIn base row.id) (.resumed next) event
  | .disable | .archive => ∃ row status event, base.definitions.find row.id = some row ∧
      outcome.2 = statusChanges row status (scheduleIn base row.id) .withdrawn event
  | .createTrigger | .deleteTrigger | .startRun | .cancelRun | .retryRun => ∀ change ∈ outcome.2, Beside change

theorem execute_learns (named : base.definitions.find "" = none) (capability : Capability) :
    Learns base (execute platform capability context arguments)
      (Calls platform base context arguments capability) := by
  have within : ∀ {capability : Capability} {result : CallResult × List Write → Prop},
      (∀ loaded, Current base loaded →
        Learns base (executeUniversal platform capability loaded context arguments) result) →
      Learns base (executeScoped platform capability {} context arguments) result :=
    fun learns => executeScoped_learns .none learns
  cases capability with
  | create => exact executeCreate_learns
  | update => exact executeUpdate_learns named
  | enable => exact within fun loaded current => executeUniversal_learns (enable_learns current)
  | disable | archive =>
    apply within
    intro loaded current
    apply executeUniversal_learns
    apply Fallible.Informed.weaken (withdraw_learns current _ _)
    rintro outcome ⟨row, event, found, shape⟩
    exact ⟨row, _, event, found, shape⟩
  | createTrigger => exact within fun loaded current => executeUniversal_learns (createTrigger_learns current)
  | deleteTrigger => exact within fun loaded current => executeUniversal_learns (deleteTrigger_learns current)
  | startRun => exact within fun loaded current => executeUniversal_learns (startRun_learns current)
  | cancelRun => exact within fun loaded current => executeUniversal_learns cancelRun_learns
  | retryRun => exact within fun loaded current => executeUniversal_learns retryRun_learns

theorem scheduleIn_reads (reads : Reads base current) (workflowId : String) :
    scheduleIn base workflowId = scheduleIn current workflowId := by
  rw [scheduleIn, ← reads.schedules, scheduleIn]

theorem versionOf_reads (reads : Reads base current) (workflowId : String) (version : Nat) :
    base.versionOf workflowId version = current.versionOf workflowId version := by
  rw [WorkflowState.versionOf, ← reads.versions, WorkflowState.versionOf]

theorem Calls.reads (reads : Reads base current) (calls : Calls platform base context arguments capability outcome) :
    Calls platform current context arguments capability outcome := by
  cases capability with
  | create => exact calls
  | update =>
    obtain ⟨row, version, edit, requested, previous, updating, resource, updates⟩ := calls
    obtain ⟨target, ⟨found, open_, latest, edited⟩, wanted, read⟩ := updating
    rw [← reads.definitions] at target found
    rw [versionOf_reads reads] at latest
    rw [scheduleIn_reads reads] at edited
    refine ⟨row, version, edit, requested, previous, ⟨target, ⟨found, open_, latest, edited⟩, wanted, read⟩,
      resource, ?_⟩
    rcases outcome with ⟨result, changes⟩
    cases updates with
    | same unchanged kept => exact .same unchanged kept
    | policyOnly unchanged differs id noted events => exact .policyOnly unchanged differs id noted events
    | revised changes nextRun scheduled id event noted timed replaced events =>
      rw [scheduleIn_reads reads] at replaced
      exact .revised changes nextRun scheduled id event noted timed replaced events
  | enable =>
    obtain ⟨row, next, event, found, open_, timed, shape⟩ := calls
    rw [← reads.definitions] at found
    rw [scheduleIn_reads reads] at timed shape
    exact ⟨row, next, event, found, open_, timed, shape⟩
  | disable | archive =>
    obtain ⟨row, status, event, found, shape⟩ := calls
    rw [← reads.definitions] at found
    rw [scheduleIn_reads reads] at shape
    exact ⟨row, status, event, found, shape⟩
  | createTrigger | deleteTrigger | startRun | cancelRun | retryRun => exact calls

theorem Calls.orderly (orderly : Orderly base.definitions base.schedules)
    (calls : Calls platform base context arguments capability outcome)
    (written : base.writeAll outcome.2 = some after) : Orderly after.definitions after.schedules := by
  cases capability with
  | create => exact Creates.orderly orderly calls written
  | update =>
    obtain ⟨row, current, edit, requested, previous, updating, -, updates⟩ := calls
    exact updates.orderly orderly updating written
  | enable =>
    obtain ⟨row, next, event, found, -, timed, shape⟩ := calls
    exact enable_orderly orderly found timed (shape ▸ written)
  | disable | archive =>
    obtain ⟨row, status, event, found, shape⟩ := calls
    exact withdraw_orderly orderly found (shape ▸ written)
  | createTrigger | deleteTrigger | startRun | cancelRun | retryRun =>
    obtain ⟨definitions, schedules, -⟩ := beside_tables calls written
    rw [definitions, schedules]
    exact orderly

def Unscheduled (changes : List Write) : Prop :=
  ∀ run, .newRun run ∈ changes → ∀ id scheduledFor, run.dedupeKey ≠ .schedule id scheduledFor

theorem Unscheduled.of_none (none : ∀ run, .newRun run ∉ changes) : Unscheduled changes :=
  fun run member => absurd member (none run)

theorem Noted.no_run {noted : List Write} (events : Noted noted) (run : WorkflowRun) : .newRun run ∉ noted := by
  intro member
  obtain ⟨event, same⟩ := events _ member
  cases same

theorem Replaced.no_run (shape : Replaced platform row schedule replaced next changes) (run : WorkflowRun) :
    .newRun run ∉ changes := by
  intro member
  rw [← shape.ofSchedules, List.mem_filter] at member
  cases member.2

theorem statusChanges_no_run {moved : WorkflowSchedule → WorkflowSchedule} (run : WorkflowRun) :
    .newRun run ∉ statusChanges row status schedule moved event := by
  intro member
  simp [statusChanges, definitionChange, scheduleChange] at member

theorem Calls.unscheduled (calls : Calls platform base context arguments capability outcome) : Unscheduled outcome.2 := by
  cases capability with
  | create =>
    obtain ⟨row, version, schedule, requested, event, noted, -, -, -, events, shape⟩ := calls
    apply Unscheduled.of_none
    intro run
    rw [shape]
    have quiet := events.no_run run
    cases schedule <;> simp [createdRows, quiet]
  | update =>
    obtain ⟨row, current, edit, requested, previous, -, -, updates⟩ := calls
    apply Unscheduled.of_none
    intro run
    rcases outcome with ⟨result, changes⟩
    dsimp only at updates ⊢
    cases updates with
    | same => simp
    | policyOnly unchanged differs id noted events =>
      have quiet := events.no_run run
      simp [quiet]
    | revised changes nextRun scheduled id event noted timed replaced events =>
      have quiet := events.no_run run
      have quiet' := replaced.no_run run
      simp [quiet, quiet']
  | enable =>
    obtain ⟨row, next, event, -, -, -, shape⟩ := calls
    exact .of_none (shape ▸ statusChanges_no_run)
  | disable | archive =>
    obtain ⟨row, status, event, -, shape⟩ := calls
    exact .of_none (shape ▸ statusChanges_no_run)
  | createTrigger | deleteTrigger | startRun | cancelRun | retryRun =>
    exact fun run member => calls _ member

end

/-- The arguments of a call: a JSON object, which has each of its keys once. -/
structure Arguments where
  fields : Fields
  proper : (Json.obj fields).proper = true

inductive Entry where
  | call (capability : Capability) (context : ExecutionContext) (arguments : Arguments)
  | tick (active : Nat)

def lifecycle (settings : SchedulerSettings) (_pid : Nat) :
    Entry → Program workflowDb (Except WorkflowError (Option CallResult))
  | .call capability context arguments => (do
      let result ← call settings.platform capability context arguments.fields
      return some result : Session (Option CallResult)).run
  | .tick active => (do
      let _ ← tick settings active
      return none : Session (Option CallResult)).run

/-- A turn leads from one state to another, and ends with a result unless its process is lost. -/
abbrev Takes (settings : SchedulerSettings) (before : WorkflowState) (turn : Turn Entry Choice)
    (outcome : Option (Except WorkflowError (Option CallResult))) (after : WorkflowState) : Prop :=
  turn.result workflowWorld (lifecycle settings) before = some (outcome, after)

/-- What an accepted call has asked of the versions of a workflow. -/
structure Request where
  workflowId : String
  spec : Option Json
  policy : Option ConcurrencyPolicy
  deriving DecidableEq

def acceptedSpec (platform : Platform) (arguments : Fields) : Option Json :=
  (supplied arguments "spec").bind fun value =>
    (validateWorkflowSpec platform.spelling value).toOption.map fun steps => (specJson steps).sortKeys

def acceptedPolicy (platform : Platform) (arguments : Fields) : Option ConcurrencyPolicy :=
  (requestedPolicy platform arguments).toOption.join

/-- The request of a turn: only `workflow.create` and `workflow.update` make one, when they are
accepted. -/
def requestOf (platform : Platform) :
    Entry → Option (Except WorkflowError (Option CallResult)) → Option Request
  | .call .create _ arguments, some (.ok (some result)) | .call .update _ arguments, some (.ok (some result)) =>
      some ⟨result.resourceId, acceptedSpec platform arguments.fields,
        acceptedPolicy platform arguments.fields⟩
  | _, _ => none

/-- The states that turns lead to from an empty database, with the requests that were accepted on
the way. -/
inductive History (settings : SchedulerSettings) (permitted : WorkflowState → Entry → Prop) :
    WorkflowState → List Request → Prop
  | start (clock : Int) : History settings permitted { clock } []
  | turn {before after : WorkflowState} {requests : List Request} {turn : Turn Entry Choice}
      {outcome : Option (Except WorkflowError (Option CallResult))}
      (earlier : History settings permitted before requests) (allowed : permitted before turn.entry)
      (taken : Takes settings before turn outcome after) :
      History settings permitted after (requests ++ (requestOf settings.platform turn.entry outcome).toList)

end Operly.Workflow
