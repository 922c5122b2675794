import Operly.Workflow.Alone
import Operly.Workflow.Concurrency

/-! What the capabilities write, for a session that has the database to itself. -/

namespace Operly.Workflow
open Python Security Concurrent Relational Fallible

abbrev Learns {α : Type} (base : WorkflowState) (code : Session α) (result : α → Prop) : Prop :=
  code.Informed (Told base) (fun op => Op.reading op = true) result

theorem Learns.ask {α : Type} {base : WorkflowState} {op : Op} {next : workflowDb.Answer op → Session α}
    {result : α → Prop} (reading : op.reading = true)
    (rest : ∀ answer, Told base op answer → Learns base (next answer) result) :
    Learns base (query op >>= next) result := Informed.bind_ask reading rest

section
variable {base : WorkflowState} {loaded : Loaded} {platform : Platform} {context : ExecutionContext}
  {arguments : Fields}

def Current (base : WorkflowState) (loaded : Loaded) : Prop :=
  ∀ row, loaded.definition = some row → base.definitions.find row.id = some row

theorem Current.none : Current base {} := by
  intro row absent
  cases absent

theorem Current.definitionOr {row : WorkflowDefinition} {id : String} (current : Current base loaded)
    (found : base.definitions.find id = some row) : loaded.definitionOr row = row := by
  unfold Loaded.definitionOr
  cases held : loaded.definition with
  | none => rfl
  | some copy =>
    by_cases same : copy.id = row.id
    · have again := current copy held
      rw [same, Table.find_key found, found, Option.some.injEq] at again
      simp [Option.filter, again]
    · simp [Option.filter, same]

theorem workflowFor_learns (current : Current base loaded) (id : String) :
    Learns base (workflowFor loaded context id) fun row => base.definitions.find id = some row := by
  apply Learns.ask (by rfl)
  intro answer told
  cases admitted : Option.filter (inAuthority context) answer with
  | none => exact Informed.raise
  | some row =>
    have found : base.definitions.find id = some row :=
      told.definition.symm.trans (Option.filter_eq_some_iff.mp admitted).1
    exact Informed.pure ((congrArg some (current.definitionOr found)).symm ▸ found)

theorem ownedWorkflow_learns (current : Current base loaded) (id : String) :
    Learns base (ownedWorkflow loaded context id) fun row => base.definitions.find id = some row := by
  apply Learns.ask (by rfl)
  intro answer told
  cases admitted : Option.filter (ownedBy context) answer with
  | none => exact Informed.raise
  | some row =>
    have found : base.definitions.find id = some row :=
      told.definition.symm.trans (Option.filter_eq_some_iff.mp admitted).1
    exact Informed.pure ((congrArg some (current.definitionOr found)).symm ▸ found)

theorem lockedWorkflow_learns (id : String) :
    Learns base (lockedWorkflow context id) fun row => base.definitions.find id = some row := by
  have authorized : Learns base (authorizedWorkflow {} context id)
      fun row => base.definitions.find id = some row := by
    apply Informed.ite
    · exact fun _ => workflowFor_learns .none id
    · exact fun _ => ownedWorkflow_learns .none id
  apply Informed.bind authorized
  intro row found
  apply Learns.ask (by rfl)
  intro locked _
  cases (locked : Option WorkflowDefinition) with
  | none => exact Informed.raise
  | some _ => exact Informed.pure found

theorem recordWorkflowEvent_learns {event : TraceEvent} :
    Learns base (recordWorkflowEvent event) fun write => ∃ row, write = .newEvent row := by
  apply Informed.ite
  · intro _
    apply Learns.ask (by rfl)
    intro createdAt _
    apply Learns.ask (by rfl)
    exact fun id _ => Informed.pure ⟨_, rfl⟩
  · exact fun _ => Informed.raise

def Timed (schedule : Json) (enabled : Bool) (next : Option Int) : Prop :=
  schedule.truthy = true → enabled = true → next.isSome = true

theorem futureScheduleTime_learns (schedule : Json) (enabled : Bool) :
    Learns base (futureScheduleTime platform schedule enabled) (Timed schedule enabled) := by
  apply Informed.ite
  · intro idle
    apply Informed.pure
    intro truthy on
    simp [truthy, on] at idle
  · intro _
    apply Learns.ask (by rfl)
    intro now _
    apply Informed.bind_ofExcept
    intro after _
    apply Informed.bind_ofExcept
    intro next _
    cases next with
    | none => exact Informed.raise
    | some next => exact Informed.pure fun _ _ => rfl

def Scheduled (platform : Platform) (workflowId : String) (schedule : Option Fields) (enabled : Bool)
    (nextRunAt : Option Int) (row : Option WorkflowSchedule) : Prop :=
  match schedule with
  | none => row = none
  | some fields =>
      ∃ id, row = some (newSchedule id workflowId fields enabled nextRunAt platform.spelling)

theorem insertSchedule_learns (workflowId : String) (schedule : Option Fields) (enabled : Bool)
    (nextRunAt : Option Int) : Learns base
      (insertSchedule platform workflowId schedule enabled nextRunAt)
      (Scheduled platform workflowId schedule enabled nextRunAt) := by
  cases schedule with
  | none => exact Informed.pure rfl
  | some fields =>
    apply Learns.ask (by rfl)
    exact fun id _ => Informed.pure ⟨id, rfl⟩

structure Created (platform : Platform) (context : ExecutionContext) (arguments : Fields)
    (row : WorkflowDefinition) (version : WorkflowVersion) (schedule : Option WorkflowSchedule) where
  creation : Creation
  accepted : creationOf platform arguments = .ok creation
  named : row.id ≠ ""
  definition : row = creation.row context row.id
  first : version = newVersion version.id row (specJson creation.steps) (scheduleJson creation.schedule) context
  nextRun : Option Int
  timed : Timed (scheduleJson creation.schedule) creation.enabled nextRun
  scheduled : Scheduled platform row.id creation.schedule creation.enabled nextRun schedule

def createdRows (row : WorkflowDefinition) (version : WorkflowVersion) (schedule : Option WorkflowSchedule) :
    List Write := .newDefinition row :: .newVersion version :: schedule.toList.map .newSchedule

theorem create_learns : Learns base (create platform context arguments) fun outcome =>
    ∃ row version schedule event, Nonempty (Created platform context arguments row version schedule) ∧
      outcome.1.workflow = some row ∧ outcome.1.resourceId = row.id ∧
      outcome.2 = createdRows row version schedule ++ [.newEvent event] := by
  apply Informed.bind_ofExcept
  intro creation accepted
  apply Informed.bind (futureScheduleTime_learns _ _)
  intro nextRun timed
  apply Learns.ask (by rfl)
  intro id named
  apply Learns.ask (by rfl)
  intro versionId _
  apply Informed.bind (insertSchedule_learns _ _ _ _)
  intro schedule scheduled
  apply Informed.bind recordWorkflowEvent_learns
  rintro _ ⟨event, rfl⟩
  exact Informed.pure ⟨_, _, schedule, event,
    ⟨creation, accepted, named.uuid, rfl, rfl, nextRun, timed, scheduled⟩, rfl, rfl, rfl⟩

/-! ### Updating -/

def Replaced (platform : Platform) (row : WorkflowDefinition) (schedule : Option WorkflowSchedule)
    (replaced : Option (Option Fields)) (nextRun : Option Int) (changes : List Write) : Prop :=
  match replaced, schedule with
  | none, _ => changes = []
  | some none, none => changes = []
  | some none, some schedule => changes = [.deleteSchedule schedule.id]
  | some (some fields), none => ∃ id,
      changes = [.newSchedule (newSchedule id row.id fields (row.status = .enabled) nextRun platform.spelling)]
  | some (some fields), some schedule => changes = scheduleChange schedule { schedule with
      scheduleType := operand platform.spelling fields "type" ""
      scheduleJson := some (Json.obj fields).sortKeys
      timezone := operand platform.spelling fields "timezone" "UTC"
      enabled := row.status = .enabled, nextRunAt := nextRun }

theorem Replaced.insertedVersion {row workflow : WorkflowDefinition} {schedule : Option WorkflowSchedule}
    {replaced : Option (Option Fields)} {nextRun : Option Int} {changes : List Write}
    (shape : Replaced platform row schedule replaced nextRun changes) :
    Workflow.insertedVersion changes workflow = none := by
  unfold Replaced at shape
  split at shape
  · subst shape; rfl
  · subst shape; rfl
  · subst shape; rfl
  · obtain ⟨id, rfl⟩ := shape
    rfl
  · subst shape
    unfold scheduleChange
    split <;> rfl

theorem replaceSchedule_learns (row : WorkflowDefinition) (schedule : Option WorkflowSchedule)
    (replaced : Option (Option Fields)) (nextRun : Option Int) :
    Learns base (replaceSchedule platform row schedule replaced nextRun)
      fun outcome => Replaced platform row schedule replaced nextRun outcome.2 := by
  cases replaced with
  | none => exact Informed.pure rfl
  | some replaced =>
    cases replaced with
    | none => cases schedule <;> exact Informed.pure rfl
    | some fields =>
      cases schedule with
      | none =>
        apply Learns.ask (by rfl)
        exact fun id _ => Informed.pure ⟨id, rfl⟩
      | some schedule => exact Informed.pure rfl

def scheduleIn (base : WorkflowState) (workflowId : String) : Option WorkflowSchedule :=
  base.schedules.rows.find? (·.workflowId = workflowId)

/-- The workflow, its current version, and what the arguments make of them. -/
structure Edited (platform : Platform) (base : WorkflowState) (arguments : Fields)
    (row : WorkflowDefinition) (current : WorkflowVersion) (edit : Edit) : Prop where
  found : base.definitions.find row.id = some row
  open_ : row.status ≠ .archived
  latest : base.versionOf row.id row.currentVersion = some current
  edited : editOf platform arguments row current (scheduleIn base row.id) = .ok edit

def Edit.row (edit : Edit) (row : WorkflowDefinition) : WorkflowDefinition :=
  { row with name := edit.name, description := edit.description, currentVersion := row.currentVersion + 1 }

theorem Edit.row_ne (edit : Edit) (row : WorkflowDefinition) : row ≠ edit.row row := by
  intro same
  have version := congrArg WorkflowDefinition.currentVersion same
  simp [Edit.row] at version

def Edit.version (edit : Edit) (row : WorkflowDefinition) (id : String) (context : ExecutionContext) :
    WorkflowVersion := newVersion id (edit.row row) edit.spec edit.schedule context

theorem update_learns (loadedRows : Current base loaded) :
    Learns base (update platform loaded context arguments) fun outcome =>
      ∃ id row current edit, requiredText platform arguments "workflow_id" = .ok id ∧ row.id = id ∧
        Edited platform base arguments row current edit ∧ outcome.1.resourceId = row.id ∧
        ((edit.changed = [] ∧ outcome.1.workflow = some row ∧ outcome.2 = []) ∨
          (edit.changed ≠ [] ∧ outcome.1.workflow = some (edit.row row) ∧
            ∃ nextRun scheduled versionId event, Timed edit.schedule (row.status = .enabled) nextRun ∧
              Replaced platform row (scheduleIn base row.id) edit.replaced nextRun scheduled ∧
              outcome.2 = scheduled ++ [.definition row (edit.row row)] ++
                [.newVersion (edit.version row versionId context), .newEvent event])) := by
  apply Informed.bind_ofExcept
  intro id named
  apply Informed.bind (workflowFor_learns loadedRows id)
  intro row found
  have identity := Table.find_key found
  apply Informed.ite
  · exact fun _ => Informed.raise
  · intro open_
    apply Learns.ask (by rfl)
    intro current told
    cases held : (current : Option WorkflowVersion) with
    | none => exact Informed.raise
    | some current =>
      apply Learns.ask (by rfl)
      intro schedule asked
      obtain rfl : schedule = scheduleIn base row.id := asked.scheduleOf
      apply Informed.bind_ofExcept
      intro edit made
      have edited : Edited platform base arguments row current edit :=
        ⟨identity.symm ▸ found, open_, told.currentVersion.symm.trans held, made⟩
      apply Informed.ite
      · intro same
        exact Informed.pure ⟨id, row, current, edit, named, identity, edited, rfl,
          .inl ⟨same, rfl, rfl⟩⟩
      · intro differs
        apply Informed.bind (futureScheduleTime_learns _ _)
        intro nextRun timed
        apply Informed.bind (replaceSchedule_learns _ _ _ _)
        rintro ⟨after, scheduled⟩ replaced
        apply Learns.ask (by rfl)
        intro versionId _
        apply Informed.bind recordWorkflowEvent_learns
        rintro _ ⟨event, rfl⟩
        refine Informed.pure ⟨id, row, current, edit, named, identity, edited, rfl,
          .inr ⟨differs, rfl, nextRun, scheduled, versionId, event, timed, replaced, ?_⟩⟩
        have changed : definitionChange row (edit.row row) = [.definition row (edit.row row)] :=
          if_neg (edit.row_ne row)
        rw [← changed]
        rfl

def statusChanges (row : WorkflowDefinition) (status : DefinitionStatus)
    (schedule : Option WorkflowSchedule) (moved : WorkflowSchedule → WorkflowSchedule)
    (event : KernelEventRecord) : List Write :=
  definitionChange row { row with status } ++
    (schedule.toList.flatMap fun schedule => scheduleChange schedule (moved schedule)) ++ [.newEvent event]

def WorkflowSchedule.resumed (next : Option Int) (schedule : WorkflowSchedule) : WorkflowSchedule :=
  { schedule with enabled := true, nextRunAt := next }

def WorkflowSchedule.withdrawn (schedule : WorkflowSchedule) : WorkflowSchedule :=
  { schedule with enabled := false, nextRunAt := none }

theorem resumeTime_learns (schedule : Option WorkflowSchedule) :
    Learns base (resumeTime platform schedule) fun next =>
      ∀ row, schedule = some row → Timed (loads row.scheduleJson) true next := by
  cases schedule with
  | none => exact Informed.pure fun row absent => by cases absent
  | some schedule =>
    apply Informed.weaken (futureScheduleTime_learns _ _)
    intro next timed row same
    cases same
    exact timed

theorem enable_learns (loadedRows : Current base loaded) :
    Learns base (enable platform loaded context arguments) fun outcome =>
      ∃ row next event, base.definitions.find row.id = some row ∧ row.status ≠ .archived ∧
        (∀ schedule, scheduleIn base row.id = some schedule → Timed (loads schedule.scheduleJson) true next) ∧
        outcome.2 = statusChanges row .enabled (scheduleIn base row.id) (.resumed next) event := by
  apply Informed.bind_ofExcept
  intro id _
  apply Informed.bind (workflowFor_learns loadedRows id)
  intro row found
  have identity := Table.find_key found
  apply Informed.ite
  · exact fun _ => Informed.raise
  · intro open_
    apply Learns.ask (by rfl)
    intro schedule asked
    obtain rfl : schedule = scheduleIn base row.id := asked.scheduleOf
    apply Informed.bind (resumeTime_learns _)
    intro next timed
    apply Informed.bind recordWorkflowEvent_learns
    rintro _ ⟨event, rfl⟩
    exact Informed.pure ⟨row, next, event, identity.symm ▸ found, open_, timed, rfl⟩

theorem withdraw_learns (loadedRows : Current base loaded) (status : DefinitionStatus → DefinitionStatus)
    (eventType : String) :
    Learns base (withdraw platform loaded context arguments status eventType) fun outcome =>
      ∃ row event, base.definitions.find row.id = some row ∧
        outcome.2 = statusChanges row (status row.status) (scheduleIn base row.id) .withdrawn event := by
  apply Informed.bind_ofExcept
  intro id _
  apply Informed.bind (workflowFor_learns loadedRows id)
  intro row found
  have identity := Table.find_key found
  apply Learns.ask (by rfl)
  intro schedule asked
  obtain rfl : schedule = scheduleIn base row.id := asked.scheduleOf
  apply Informed.bind recordWorkflowEvent_learns
  rintro _ ⟨event, rfl⟩
  exact Informed.pure ⟨row, event, identity.symm ▸ found, rfl⟩

/-! ### What leaves the workflows alone -/

def Beside : Write → Prop
  | .newDefinition _ | .definition _ _ | .newVersion _ | .version _ _ | .newSchedule _ | .schedule _ _
  | .deleteSchedule _ => False
  | .newRun row => ∀ id scheduledFor, row.dedupeKey ≠ .schedule id scheduledFor
  | _ => True

def KeyFor (requested : Option DedupeKey) (key : DedupeKey) : Prop :=
  match requested with
  | some wanted => key = wanted
  | none => ∃ workflowId unique, key = .manual workflowId unique

theorem queueWorkflowRun_learns {workflow : WorkflowDefinition} {request : RunRequest} :
    Learns base (queueWorkflowRun workflow request) fun outcome => ∃ event,
      outcome.2 = [.newRun outcome.1, .newEvent event] ∧ KeyFor request.dedupeKey outcome.1.dedupeKey ∧
        base.clock ≤ outcome.1.createdAt := by
  apply Learns.ask (by rfl)
  intro version _
  cases (version : Option WorkflowVersion) with
  | none => exact Informed.raise
  | some version =>
    apply Informed.bind_ofExcept
    intro authority _
    have keyed : Learns base (dedupeKeyFor workflow request.dedupeKey) (KeyFor request.dedupeKey) := by
      cases request.dedupeKey with
      | some key => exact Informed.pure rfl
      | none =>
        apply Learns.ask (by rfl)
        exact fun unique _ => Informed.pure ⟨_, unique, rfl⟩
    apply Informed.bind keyed
    intro key known
    apply Learns.ask (by rfl)
    intro id _
    apply Learns.ask (by rfl)
    intro createdAt told
    apply Informed.bind recordWorkflowEvent_learns
    rintro _ ⟨event, rfl⟩
    exact Informed.pure ⟨event, rfl, known, told.now⟩

theorem createTrigger_learns (loadedRows : Current base loaded) :
    Learns base (createTrigger platform loaded context arguments)
      fun outcome => ∀ change ∈ outcome.2, Beside change := by
  apply Informed.bind_ofExcept
  intro id _
  apply Informed.bind (workflowFor_learns loadedRows id)
  intro workflow _
  apply Informed.ite
  · exact fun _ => Informed.raise
  · intro _
    apply Informed.bind_ofExcept
    intro eventPattern _
    apply Informed.bind_ofExcept
    intro accepted _
    apply Learns.ask (by rfl)
    intro other _
    cases (other : Option WorkflowEventTrigger) with
    | some _ => exact Informed.raise
    | none =>
      apply Learns.ask (by rfl)
      intro triggerId _
      apply Learns.ask (by rfl)
      intro createdAt _
      apply Informed.bind recordWorkflowEvent_learns
      rintro _ ⟨event, rfl⟩
      apply Informed.pure
      simp [Beside]

theorem triggerById_learns (id : String) : Learns base (triggerById loaded id) fun _ => True := by
  unfold triggerById
  split
  · exact Informed.pure trivial
  · apply Learns.ask (by rfl)
    intro row _
    cases (row : Option WorkflowEventTrigger) with
    | some _ => exact Informed.pure trivial
    | none => exact Informed.raise

theorem deleteTrigger_learns (loadedRows : Current base loaded) :
    Learns base (deleteTrigger platform loaded context arguments)
      fun outcome => ∀ change ∈ outcome.2, Beside change := by
  apply Informed.bind_ofExcept
  intro id _
  apply Informed.bind (triggerById_learns id)
  intro trigger _
  apply Informed.bind (workflowFor_learns loadedRows trigger.workflowId)
  intro workflow _
  apply Informed.bind recordWorkflowEvent_learns
  rintro _ ⟨event, rfl⟩
  apply Informed.pure
  simp [Beside]

theorem startRun_learns (loadedRows : Current base loaded) :
    Learns base (startRun platform loaded context arguments)
      fun outcome => ∀ change ∈ outcome.2, Beside change := by
  apply Informed.bind_ofExcept
  intro id _
  apply Informed.bind (workflowFor_learns loadedRows id)
  intro workflow _
  apply Informed.ite
  · exact fun _ => Informed.raise
  · intro _
    apply Informed.bind queueWorkflowRun_learns
    rintro ⟨run, changes⟩ ⟨event, shape, ⟨workflowId, unique, key⟩, -⟩
    apply Informed.pure
    dsimp only at shape key
    simp [shape, Beside, key]

theorem runFor_learns (id : String) : Learns base (runFor loaded context id) fun _ => True := by
  apply Learns.ask (by rfl)
  intro answer _
  cases Option.filter (runInAuthority context) answer with
  | none => exact Informed.raise
  | some row => exact Informed.pure trivial

theorem ownedRun_learns (id : String) : Learns base (ownedRun context id) fun _ => True := by
  apply Learns.ask (by rfl)
  intro answer _
  cases Option.filter (runOwnedBy context) answer with
  | none => exact Informed.raise
  | some row => exact Informed.pure trivial

theorem currentStep_learns (run : WorkflowRun) : Learns base (currentStep run) fun _ => True := by
  apply Informed.ite
  · intro _
    have asked : Learns base (query (.stepRun run.id (run.currentStepKey.getD ""))) fun _ => True :=
      Informed.ask rfl fun _ _ => trivial
    exact asked
  · exact fun _ => Informed.pure trivial

theorem attemptOf_learns (step : WorkflowStepRun) : Learns base (attemptOf step) fun _ => True := by
  apply Informed.ite
  · intro _
    have asked : Learns base (query (.attempt step.id step.attempt)) fun _ => True :=
      Informed.ask rfl fun _ _ => trivial
    exact asked
  · exact fun _ => Informed.pure trivial

theorem beside_stepChange (loaded now : WorkflowStepRun) : ∀ change ∈ stepChange loaded now, Beside change := by
  unfold stepChange
  split
  · simp
  · simp [Beside]

theorem beside_attemptChange (loaded now : WorkflowStepAttempt) :
    ∀ change ∈ attemptChange loaded now, Beside change := by
  unfold attemptChange
  split
  · simp
  · simp [Beside]

theorem beside_runChange (loaded now : WorkflowRun) : ∀ change ∈ runChange loaded now, Beside change := by
  unfold runChange
  split
  · simp
  · simp [Beside]

theorem cancelStep_learns (step : Option WorkflowStepRun) (previous : RunStatus) (now : Int) :
    Learns base (cancelStep step previous now) fun outcome => ∀ change ∈ outcome.2, Beside change := by
  cases step with
  | none => exact Informed.pure (by simp)
  | some step =>
    apply Informed.ite
    · intro _
      apply Informed.bind (attemptOf_learns step)
      intro attempt _
      apply Informed.pure
      intro change member
      rcases List.mem_append.mp member with ofStep | ofAttempt
      · exact beside_stepChange _ _ change ofStep
      · obtain ⟨attempt, -, among⟩ := List.mem_flatMap.mp ofAttempt
        exact beside_attemptChange _ _ change among
    · exact fun _ => Informed.pure (by simp)

theorem cancelRun_learns : Learns base (cancelRun platform loaded context arguments)
    fun outcome => ∀ change ∈ outcome.2, Beside change := by
  apply Informed.bind_ofExcept
  intro id _
  apply Informed.bind (runFor_learns id)
  intro run _
  apply Informed.ite
  · exact fun _ => Informed.pure (by simp)
  · intro _
    apply Learns.ask (by rfl)
    intro now _
    apply Informed.bind (currentStep_learns run)
    intro step _
    apply Informed.bind (cancelStep_learns _ _ _)
    rintro ⟨attempt, stopped⟩ beside
    apply Informed.bind recordWorkflowEvent_learns
    rintro _ ⟨event, rfl⟩
    apply Informed.pure
    intro change member
    rcases List.mem_append.mp member with early | late
    · rcases List.mem_append.mp early with ofRun | ofStep
      · exact beside_runChange _ _ change ofRun
      · exact beside change ofStep
    · rw [List.mem_singleton.mp late]
      trivial

theorem retryRun_learns : Learns base (retryRun platform loaded context arguments)
    fun outcome => ∀ change ∈ outcome.2, Beside change := by
  apply Informed.bind_ofExcept
  intro id _
  apply Informed.bind (runFor_learns id)
  intro run _
  apply Informed.ite
  · exact fun _ => Informed.raise
  · intro _
    apply Learns.ask (by rfl)
    intro failed _
    apply Informed.bind recordWorkflowEvent_learns
    rintro _ ⟨event, rfl⟩
    apply Informed.pure
    intro change member
    rcases List.mem_append.mp member with early | late
    · rcases List.mem_append.mp early with ofStep | ofRun
      · obtain ⟨step, -, among⟩ := List.mem_flatMap.mp ofStep
        exact beside_stepChange _ _ change among
      · exact beside_runChange _ _ change ofRun
    · rw [List.mem_singleton.mp late]
      trivial

theorem executeUniversal_learns {capability : Capability} {result : CallResult × List Write → Prop}
    (learns : Learns base (match capability with
      | .create => create platform context arguments
      | .update => update platform loaded context arguments
      | .enable => enable platform loaded context arguments
      | .disable => disable platform loaded context arguments
      | .archive => archive platform loaded context arguments
      | .createTrigger => createTrigger platform loaded context arguments
      | .deleteTrigger => deleteTrigger platform loaded context arguments
      | .startRun => startRun platform loaded context arguments
      | .cancelRun => cancelRun platform loaded context arguments
      | .retryRun => retryRun platform loaded context arguments) result) :
    Learns base (executeUniversal platform capability loaded context arguments) result := by
  apply Informed.ite
  · exact fun _ => Informed.raise
  · intro _
    apply Informed.ite
    · exact fun _ => Informed.raise
    · exact fun _ => learns

theorem delegatedRows_learns (loadedRows : Current base loaded) (capability : Capability) :
    Learns base (delegatedRows platform capability loaded context arguments) (Current base) := by
  have definition : ∀ {row : WorkflowDefinition} {id : String}, base.definitions.find id = some row →
      ∀ {trigger : Option WorkflowEventTrigger} {run : Option WorkflowRun},
        Current base { definition := some row, run, trigger } := by
    intro row id found trigger run other same
    cases same
    exact (Table.find_key found).symm ▸ found
  cases capability with
  | create => exact Informed.pure loadedRows
  | cancelRun | retryRun =>
    apply Informed.bind (ownedRun_learns _)
    exact fun run _ => Informed.pure fun row held => loadedRows row held
  | deleteTrigger =>
    apply Informed.bind (triggerById_learns _)
    intro trigger _
    apply Informed.bind (ownedWorkflow_learns loadedRows _)
    exact fun row found => Informed.pure (definition found)
  | update | enable | disable | archive | createTrigger | startRun =>
    apply Informed.bind (ownedWorkflow_learns loadedRows _)
    exact fun row found => Informed.pure (definition found)

theorem executeScoped_learns {capability : Capability} {result : CallResult × List Write → Prop}
    (loadedRows : Current base loaded) (learns : ∀ loaded, Current base loaded →
      Learns base (executeUniversal platform capability loaded context arguments) result) :
    Learns base (executeScoped platform capability loaded context arguments) result := by
  apply Informed.bind_ofExcept
  intro _ _
  apply Informed.ite
  · exact fun _ => learns loaded loadedRows
  · intro _
    apply Informed.ite
    · exact fun _ => Informed.raise
    · intro _
      apply Informed.bind (delegatedRows_learns loadedRows capability)
      exact fun loaded current => learns loaded current

def Noted (changes : List Write) : Prop := ∀ change ∈ changes, ∃ event, change = .newEvent event

theorem notePolicy_learns {named : Bool} {event : TraceEvent} : Learns base (notePolicy named event) Noted := by
  apply Informed.ite
  · intro _
    apply Informed.bind recordWorkflowEvent_learns
    intro write shape
    apply Informed.pure
    intro change member
    rwa [List.mem_singleton.mp member]
  · exact fun _ => Informed.pure fun change absent => by cases absent

theorem currentVersionOf_learns (changes : List Write) (workflow : WorkflowDefinition) :
    Learns base (currentVersionOf changes workflow) fun version =>
      (insertedVersion changes workflow).or (base.versionOf workflow.id workflow.currentVersion) =
        some version := by
  unfold currentVersionOf
  split
  · next row inserted => exact Informed.pure (by rw [inserted, Option.some_or])
  · next absent =>
    apply Learns.ask (by rfl)
    intro answer told
    cases held : (answer : Option WorkflowVersion) with
    | none => exact Informed.raise
    | some row =>
      apply Informed.pure
      rw [absent, Option.none_or, ← told.currentVersion, held]

theorem storeCurrentPolicy_learns {changes : List Write} {workflow : WorkflowDefinition}
    {policy : ConcurrencyPolicy} {version : WorkflowVersion}
    (inserted : insertedVersion changes workflow = some version) :
    Learns base (storeCurrentPolicy changes workflow policy) fun outcome =>
      outcome.2 = [.version version (version.storePolicy policy)] := by
  apply Informed.bind (currentVersionOf_learns changes workflow)
  intro found known
  rw [inserted, Option.some_or, Option.some.injEq] at known
  subst known
  exact Informed.pure rfl

def Creates (platform : Platform) (context : ExecutionContext) (arguments : Fields)
    (outcome : CallResult × List Write) : Prop :=
  ∃ row version schedule requested event noted,
    Nonempty (Created platform context (withoutPolicy arguments) row version schedule) ∧
    requestedPolicy platform arguments = .ok requested ∧ outcome.1.resourceId = row.id ∧ Noted noted ∧
    outcome.2 = createdRows row version schedule ++ [.newEvent event] ++
      [.version version (version.storePolicy (requested.getD defaultPolicy))] ++ noted

theorem executeCreate_learns : Learns base (executeCreate platform context arguments)
    (Creates platform context arguments) := by
  apply Informed.bind_ofExcept
  intro requested wanted
  apply Informed.bind
    (executeScoped_learns .none fun loaded _ => executeUniversal_learns create_learns)
  rintro ⟨result, changes⟩ ⟨row, version, schedule, event, created, workflow, resource, shape⟩
  dsimp only at workflow resource shape ⊢
  rw [workflow]
  apply Informed.bind_ofExcept
  intro locked same
  have own : locked = row := by
    unfold lockedInserted at same
    split at same
    all_goals
      split at same
      · exact (Except.ok.inj same).symm
      · cases same
  subst own
  have inserted : insertedVersion changes locked = some version := by
    obtain ⟨creation⟩ := created
    rw [shape, creation.first]
    simp [insertedVersion, createdRows, newVersion]
  apply Informed.bind (storeCurrentPolicy_learns inserted)
  rintro ⟨stored, written⟩ rfl
  apply Informed.bind notePolicy_learns
  intro noted events
  exact Informed.pure ⟨locked, version, schedule, requested, event, noted, created, wanted,
    resource, events, by rw [shape]⟩

/-! ### Updating with a policy -/

theorem get_withoutPolicy (fields : Fields) {key : String} (other : key ≠ "concurrency") :
    Fields.get (withoutPolicy fields) key = Fields.get fields key := by
  unfold withoutPolicy Fields.get
  rw [List.find?_filter]
  congr 2
  funext entry
  by_cases same : entry.1 = key
  · simp [same, other]
  · simp [same]

theorem operand_of_required {fields : Fields} {key id : String} (read : requiredText platform fields key = .ok id)
    (given : operand platform.spelling fields key "" ≠ "") : operand platform.spelling fields key "" = id := by
  unfold requiredText required at read
  unfold operand Fields.getOr at given ⊢
  cases held : Fields.get fields key with
  | none => simp [held, Json.toStr] at given
  | some value =>
    by_cases truthy : value.truthy = true
    · simpa [held, truthy, Except.map] using read
    · simp [held, truthy, Json.toStr] at given

def WorkflowDefinition.bumped (row : WorkflowDefinition) : WorkflowDefinition :=
  { row with currentVersion := row.currentVersion + 1 }

theorem WorkflowDefinition.ne_bumped (row : WorkflowDefinition) : row ≠ row.bumped := by
  intro same
  have version := congrArg WorkflowDefinition.currentVersion same
  simp [bumped] at version

def WorkflowVersion.withNewPolicy (current : WorkflowVersion) (row : WorkflowDefinition) (id : String)
    (policy : ConcurrencyPolicy) (context : ExecutionContext) : WorkflowVersion where
  id := id
  workflowId := row.id
  version := row.bumped.currentVersion
  specJson := current.specJson
  snapshotJson := some (withPolicy (loads current.snapshotJson) policy).sortKeys
  createdByUserId := context.userId

structure Updating (platform : Platform) (base : WorkflowState) (arguments : Fields)
    (row : WorkflowDefinition) (current : WorkflowVersion) (edit : Edit)
    (requested : Option ConcurrencyPolicy) (previous : ConcurrencyPolicy) : Prop where
  target : base.definitions.find (operand platform.spelling arguments "workflow_id" "") = some row
  edited : Edited platform base (withoutPolicy arguments) row current edit
  requested : requestedPolicy platform arguments = .ok requested
  previous : policyFromSnapshot platform.spelling (loads current.snapshotJson) = .ok previous

inductive Updates (platform : Platform) (base : WorkflowState) (context : ExecutionContext)
    (arguments : Fields) (row : WorkflowDefinition) (current : WorkflowVersion) (edit : Edit)
    (policy previous : ConcurrencyPolicy) : List Write → Prop
  | same (unchanged : edit.changed = []) (kept : policy = previous) :
      Updates platform base context arguments row current edit policy previous []
  | policyOnly (unchanged : edit.changed = []) (differs : policy ≠ previous) (id : String)
      (noted : List Write) (events : Noted noted) :
      Updates platform base context arguments row current edit policy previous
        ([.definition row row.bumped, .newVersion (current.withNewPolicy row id policy context)] ++ noted)
  | revised (changes : edit.changed ≠ []) (nextRun : Option Int) (scheduled : List Write)
      (id : String) (event : KernelEventRecord) (noted : List Write)
      (timed : Timed edit.schedule (row.status = .enabled) nextRun)
      (replaced : Replaced platform row (scheduleIn base row.id) edit.replaced nextRun scheduled)
      (events : Noted noted) :
      Updates platform base context arguments row current edit policy previous
        (scheduled ++ [.definition row (edit.row row)] ++
          [.newVersion (edit.version row id context), .newEvent event] ++
          [.version (edit.version row id context) ((edit.version row id context).storePolicy policy)] ++ noted)

theorem executeUpdate_learns (named : base.definitions.find "" = none) :
    Learns base (executeUpdate platform context arguments) fun outcome =>
      ∃ row current edit requested previous, Updating platform base arguments row current edit requested previous ∧
        outcome.1.resourceId = row.id ∧
        Updates platform base context arguments row current edit (requested.getD previous) previous outcome.2 := by
  apply Informed.bind_ofExcept
  intro requested wanted
  apply Informed.bind (lockedWorkflow_learns _)
  intro locked found
  have identity := Table.find_key found
  have policed : Learns base (currentPolicy platform.spelling locked) fun previous => ∃ version,
      base.versionOf locked.id locked.currentVersion = some version ∧
        policyFromSnapshot platform.spelling (loads version.snapshotJson) = .ok previous := by
    apply Informed.bind (currentVersionOf_learns [] locked)
    intro version known
    exact Informed.ofExcept fun previous read => ⟨version, known, read⟩
  apply Informed.bind policed
  rintro previous ⟨version, latest, read⟩
  have loadedRow : Current base { definition := some locked } := by
    intro row same
    cases same
    exact identity.symm ▸ found
  apply Informed.bind (executeScoped_learns loadedRow fun loaded current =>
    executeUniversal_learns (update_learns current))
  rintro ⟨result, changes⟩ ⟨id, row, current, edit, given, rfl, edited, resource, outcome⟩
  dsimp only at resource outcome ⊢
  -- both lookups are for the same text
  have target := found
  have same : row = locked := by
    have text : operand platform.spelling arguments "workflow_id" "" =
        operand platform.spelling (withoutPolicy arguments) "workflow_id" "" := by
      rw [operand, operand, Fields.getOr, Fields.getOr, get_withoutPolicy arguments (by decide)]
    have set : operand platform.spelling (withoutPolicy arguments) "workflow_id" "" ≠ "" := by
      intro empty
      rw [text, empty, named] at found
      cases found
    rw [text, operand_of_required given set, edited.found] at found
    exact Option.some.inj found
  subst same
  obtain rfl : current = version := Option.some.inj (edited.latest.symm.trans latest)
  have updating : Updating platform base arguments row current edit requested previous :=
    ⟨target, edited, wanted, read⟩
  rcases outcome with ⟨unchanged, workflow, shape⟩ | ⟨changed, workflow, nextRun, scheduled, versionId, event,
    timed, replaced, shape⟩
  · subst shape
    rw [workflow, Option.getD_some]
    apply Informed.ite
    · rintro ⟨differs, -⟩
      have created : Learns base (createConcurrencyOnlyVersion [] row (requested.getD previous) context.userId)
          fun outcome => outcome.2.1 = row.bumped ∧
            ∃ id, outcome.2.2 = current.withNewPolicy row id (requested.getD previous) context := by
        apply Informed.bind (currentVersionOf_learns [] row)
        intro latest' known
        obtain rfl : current = latest' := Option.some.inj (latest.symm.trans known)
        apply Learns.ask (by rfl)
        exact fun id _ => Informed.pure ⟨rfl, id, rfl⟩
      apply Informed.bind created
      rintro ⟨latest', now, version⟩ ⟨rfl, id, rfl⟩
      apply Informed.bind recordWorkflowEvent_learns
      rintro _ ⟨updated, rfl⟩
      apply Informed.bind recordWorkflowEvent_learns
      rintro _ ⟨noted, rfl⟩
      apply Informed.pure
      refine ⟨row, current, edit, requested, previous, updating, resource, ?_⟩
      have change : definitionChange row row.bumped = [.definition row row.bumped] := if_neg row.ne_bumped
      rw [change]
      exact .policyOnly unchanged differs id [.newEvent updated, .newEvent noted] (by simp [Noted])
    · intro kept
      rw [if_neg (not_not.mpr rfl)]
      have equal : requested.getD previous = previous := by
        by_contra differs
        exact kept ⟨differs, rfl⟩
      apply Informed.bind (currentVersionOf_learns [] row)
      intro version _
      exact Informed.pure ⟨row, current, edit, requested, previous, updating, resource,
        .same unchanged equal⟩
  · subst shape
    rw [workflow, Option.getD_some]
    have later : (edit.row row).currentVersion ≠ row.currentVersion := by simp [Edit.row]
    rw [if_neg (fun stays => later stays.2), if_pos later]
    have ofSchedules : insertedVersion scheduled (edit.row row) = none := replaced.insertedVersion
    have inserted : insertedVersion (scheduled ++ [.definition row (edit.row row)] ++
        [.newVersion (edit.version row versionId context), .newEvent event]) (edit.row row) =
          some (edit.version row versionId context) := by
      simp only [insertedVersion, List.findSome?_append] at ofSchedules ⊢
      rw [ofSchedules]
      simp [Edit.version, newVersion]
    apply Informed.bind (storeCurrentPolicy_learns inserted)
    rintro ⟨stored, written⟩ rfl
    apply Informed.ite
    · intro _
      apply Informed.bind recordWorkflowEvent_learns
      rintro _ ⟨noted, rfl⟩
      exact Informed.pure ⟨row, current, edit, requested, previous, updating, resource,
        .revised changed nextRun scheduled versionId event [.newEvent noted] timed replaced (by simp [Noted])⟩
    · intro _
      apply Informed.pure
      refine ⟨row, current, edit, requested, previous, updating, resource, ?_⟩
      have revised : Updates platform base context arguments row current edit (requested.getD previous)
          previous _ := .revised changed nextRun scheduled versionId event [] timed replaced (by simp [Noted])
      rw [List.append_nil] at revised
      exact revised

end

end Operly.Workflow
