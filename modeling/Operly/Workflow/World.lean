import Operly.Workflow.Database

/-! The committed state of the workflow tables, and what each request of a session does to it. -/

namespace Operly.Workflow
open Python Security Concurrent Relational

/-- What `FOR UPDATE` can hold. -/
inductive Lockable where
  | run (id : String)
  | definition (id : String)
  | schedule (id : String)
  | cursor
  deriving DecidableEq

/-- What happened, in order, as far as the guarantees speak about it. -/
inductive LogEntry where
  /-- A session counted the active runs of a workflow. -/
  | counted (pid : Nat) (workflowId : String) (active : Nat)
  /-- A session read the triggers for an event. -/
  | consulted (pid : Nat) (event : KernelEventRecord)
      (rows : List (WorkflowEventTrigger × WorkflowDefinition))
  /-- The Kernel was called for a step; the rows are as they were committed then. -/
  | called (pid : Nat) (call : KernelCall) (step : Option WorkflowStepRun)
      (attempt : Option WorkflowStepAttempt)
  deriving DecidableEq

structure WorkflowState where
  clock : Int
  definitions : Table WorkflowDefinition String (·.id) := .empty
  versions : Table WorkflowVersion String (·.id) := .empty
  schedules : Table WorkflowSchedule String (·.id) := .empty
  triggers : Table WorkflowEventTrigger String (·.id) := .empty
  events : Table KernelEventRecord String (·.id) := .empty
  cursor : Option WorkflowEventCursor := none
  runs : Table WorkflowRun String (·.id) := .empty
  steps : Table WorkflowStepRun String (·.id) := .empty
  attempts : Table WorkflowStepAttempt String (·.id) := .empty
  approvals : Table Kernel.KernelApproval String (·.id) := .empty
  held : Lockable → Option Nat := fun _ => none
  /-- The identifiers that `uuid4` has made up. -/
  issued : List String := []
  log : List LogEntry := []

/-- What a request leaves to the world: the time that passes, fresh identifiers, rows with
uncommitted changes of other sessions, the resolved authority, and what the Kernel does. -/
structure Choice where
  elapsed : Nat := 0
  fresh : String := ""
  busy : List String := []
  authority : Except WorkflowError ExecutionContext := .error (.executionContext "unavailable")
  kernel : KernelAnswer := ⟨false, .error (.other "unavailable")⟩
  approvals : List Kernel.KernelApproval := []

def WorkflowRun.unleased (now : Int) (row : WorkflowRun) : Bool :=
  match row.leaseUntil with
  | none => true
  | some limit => limit < now

/-- `OCCUPYING_RUN_STATES` -/
def RunStatus.occupying (status : RunStatus) : Bool :=
  status = .running || status = .waiting || status = .waitingApproval

def WorkflowRun.occupies (now : Int) (row : WorkflowRun) : Bool :=
  row.status.occupying || (row.status = .queued && !row.unleased now)

def WorkflowSchedule.due (now : Int) (row : WorkflowSchedule) : Bool :=
  row.enabled &&
    (match row.nextRunAt with
      | none => false
      | some next => next ≤ now) &&
    (match row.leaseUntil with
      | none => true
      | some limit => limit < now)

namespace WorkflowState

def elapse (state : WorkflowState) (elapsed : Nat) : WorkflowState :=
  { state with clock := state.clock + elapsed }

def record (state : WorkflowState) (entry : LogEntry) : WorkflowState :=
  { state with log := state.log ++ [entry] }

/-- The identifier is taken, or empty; `uuid4` makes up none of these. -/
def used (state : WorkflowState) (id : String) : Bool :=
  id = "" || state.issued.contains id || (state.runs.find id).isSome || (state.steps.find id).isSome ||
    (state.attempts.find id).isSome || (state.events.find id).isSome ||
    (state.triggers.find id).isSome || (state.schedules.find id).isSome ||
    (state.definitions.find id).isSome || (state.versions.find id).isSome

def heldElsewhere (state : WorkflowState) (pid : Nat) (lock : Lockable) : Bool :=
  match state.held lock with
  | none => false
  | some holder => holder ≠ pid

def hold (state : WorkflowState) (pid : Nat) (locks : List Lockable) : WorkflowState :=
  { state with held := fun lock => if lock ∈ locks then some pid else state.held lock }

def release (state : WorkflowState) (pid : Nat) : WorkflowState :=
  { state with held := fun lock => if state.held lock = some pid then none else state.held lock }

/-- `SELECT ... ORDER BY ... LIMIT ... FOR UPDATE SKIP LOCKED` on the runs. -/
def runsForUpdate (state : WorkflowState) (pid : Nat) (busy : List String)
    (condition : WorkflowRun → Bool) (before : WorkflowRun → WorkflowRun → Bool) (limit : Nat) :
    List WorkflowRun :=
  (((state.runs.select condition).insertionSort fun a b => before a b).filter fun row =>
    !state.heldElsewhere pid (.run row.id) && !busy.contains row.id).take limit

def holdRuns (state : WorkflowState) (pid : Nat) (rows : List WorkflowRun) : WorkflowState :=
  state.hold pid (rows.map fun row => .run row.id)

def candidates (state : WorkflowState) (now : Int) (limit : Nat) : List String :=
  ((((state.runs.select fun row => row.status = .queued && row.unleased now).insertionSort
    fun a b => a.createdAt ≤ b.createdAt).map (·.workflowId)).eraseDups).take limit

def active (state : WorkflowState) (workflowId : String) (now : Int) : Nat :=
  state.runs.count fun row => row.workflowId = workflowId && row.occupies now

def queuedBefore (a b : WorkflowRun) : Bool :=
  a.createdAt < b.createdAt || (a.createdAt = b.createdAt && a.id ≤ b.id)

def versionOf (state : WorkflowState) (workflowId : String) (version : Nat) : Option WorkflowVersion :=
  state.versions.rows.find? fun row => row.workflowId = workflowId && row.version = version

def eventsAfter (state : WorkflowState) (key : EventKey) (limit : Nat) : List KernelEventRecord :=
  ((state.events.select fun event => key.lt event.key).insertionSort
    fun a b => !b.key.lt a.key).take limit

def inScope (event : KernelEventRecord) (workflow : WorkflowDefinition) : Bool :=
  workflow.scopeKind = event.scopeKind &&
    (match event.scopeKind with
      | .personal => workflow.workspaceId = none && workflow.ownerUserId = event.ownerUserId
      | .workspace => workflow.workspaceId = event.workspaceId)

def triggersFor (state : WorkflowState) (event : KernelEventRecord) :
    List (WorkflowEventTrigger × WorkflowDefinition) :=
  ((state.triggers.select (·.enabled)).insertionSort fun a b => a.createdAt ≤ b.createdAt).filterMap
    fun trigger => (state.definitions.find trigger.workflowId).bind fun workflow =>
      if workflow.status = .enabled && inScope event workflow then some (trigger, workflow) else none

/-- One flushed statement; `none` is an `IntegrityError`, or an update that meets no row. -/
def write (state : WorkflowState) : Write → Option WorkflowState
  | .newRun row =>
      if (state.runs.find row.id).isSome || state.runs.rows.any (·.dedupeKey = row.dedupeKey) then none
      else some { state with runs := state.runs.insert row }
  | .run loaded now => (state.runs.find loaded.id).map fun current =>
      { state with runs := state.runs.replace (WorkflowRun.patch state.clock loaded now current) }
  | .newStep row =>
      if (state.steps.find row.id).isSome || state.steps.rows.any (fun other =>
          other.workflowRunId = row.workflowRunId && other.stepKey = row.stepKey) then none
      else some { state with steps := state.steps.insert row }
  | .step loaded now => (state.steps.find loaded.id).map fun current =>
      { state with steps := state.steps.replace (WorkflowStepRun.patch loaded now current) }
  | .newAttempt row =>
      if (state.attempts.find row.id).isSome || state.attempts.rows.any (fun other =>
          other.stepRunId = row.stepRunId && other.attempt = row.attempt) then none
      else some { state with attempts := state.attempts.insert row }
  | .attempt loaded now => (state.attempts.find loaded.id).map fun current =>
      { state with attempts := state.attempts.replace (WorkflowStepAttempt.patch loaded now current) }
  | .newDefinition row =>
      if (state.definitions.find row.id).isSome then none
      else some { state with definitions := state.definitions.insert row }
  | .definition loaded now => (state.definitions.find loaded.id).map fun current =>
      { state with definitions := state.definitions.replace (WorkflowDefinition.patch loaded now current) }
  | .newVersion row =>
      if (state.versions.find row.id).isSome || (state.versionOf row.workflowId row.version).isSome then none
      else some { state with versions := state.versions.insert row }
  | .version loaded now => (state.versions.find loaded.id).map fun current =>
      { state with versions := state.versions.replace (WorkflowVersion.patch loaded now current) }
  | .newSchedule row =>
      if (state.schedules.find row.id).isSome || state.schedules.rows.any (·.workflowId = row.workflowId)
      then none
      else some { state with schedules := state.schedules.insert row }
  | .schedule loaded now => (state.schedules.find loaded.id).map fun current =>
      { state with schedules := state.schedules.replace (WorkflowSchedule.patch loaded now current) }
  | .deleteSchedule id => some { state with schedules := state.schedules.erase id }
  | .newTrigger row =>
      if (state.triggers.find row.id).isSome || state.triggers.rows.any (fun other =>
          other.workflowId = row.workflowId && other.eventPattern = row.eventPattern) then none
      else some { state with triggers := state.triggers.insert row }
  | .deleteTrigger id => some { state with triggers := state.triggers.erase id }
  | .newEvent row =>
      if (state.events.find row.id).isSome then none
      else some { state with events := state.events.insert row }
  | .cursor now => some { state with cursor := some now }
  | .approval id status decidedByUserId => (state.approvals.find id).map fun current =>
      { state with approvals := state.approvals.replace { current with status, decidedByUserId } }

def writeAll (state : WorkflowState) (changes : List Write) : Option WorkflowState :=
  changes.foldlM write state

end WorkflowState

def Write.target : Write → Option Lockable
  | .run loaded _ => some (.run loaded.id)
  | .definition loaded _ => some (.definition loaded.id)
  | .schedule loaded _ => some (.schedule loaded.id)
  | .deleteSchedule id => some (.schedule id)
  | .cursor _ => some .cursor
  | _ => none

namespace WorkflowState

def blocked (state : WorkflowState) (pid : Nat) (changes : List Write) : Bool :=
  changes.any fun change =>
    match change.target with
    | none => false
    | some lock => state.heldElsewhere pid lock

def putApprovals (state : WorkflowState) (rows : List Kernel.KernelApproval) : WorkflowState :=
  { state with approvals := rows.foldl (fun table row =>
      if (table.find row.id).isSome then table.replace row else table.insert row) state.approvals }

/-- One request after its time has passed; `none` while it waits for a row. -/
def serve (state : WorkflowState) (pid : Nat) :
    (op : Op) → Choice → Option (workflowDb.Answer op × WorkflowState)
  | .now, _ => some (state.clock, state)
  | .uuid, choice =>
      if state.used choice.fresh then none
      else some (choice.fresh, { state with issued := choice.fresh :: state.issued })
  | .run filter, _ => some ((state.runs.find filter.id).filter filter.admits, state)
  | .definition id, _ => some (state.definitions.find id, state)
  | .version id, _ => some (state.versions.find id, state)
  | .currentVersion workflowId version, _ => some (state.versionOf workflowId version, state)
  | .scheduleOf workflowId, _ =>
      some (state.schedules.rows.find? (·.workflowId = workflowId), state)
  | .trigger id, _ => some (state.triggers.find id, state)
  | .triggerByPattern workflowId eventPattern, _ =>
      some (state.triggers.rows.find? fun row =>
        row.workflowId = workflowId && row.eventPattern = eventPattern, state)
  | .stepRuns runId, _ =>
      some ((state.steps.select (·.workflowRunId = runId)).insertionSort
        (fun a b => a.stepOrder ≤ b.stepOrder), state)
  | .stepRun runId stepKey, _ =>
      some (state.steps.rows.find? fun row => row.workflowRunId = runId && row.stepKey = stepKey, state)
  | .stepById id, _ => some (state.steps.find id, state)
  | .attempt stepRunId attempt, _ =>
      some (state.attempts.rows.find? fun row =>
        row.stepRunId = stepRunId && row.attempt = attempt, state)
  | .attemptById id, _ => some (state.attempts.find id, state)
  | .failedStep runId, _ =>
      some (((state.steps.select fun row => row.workflowRunId = runId && row.status = .failed).insertionSort
        fun a b => b.stepOrder ≤ a.stepOrder).head?, state)
  | .approval id, _ => some (state.approvals.find id, state)
  | .runByKey key, _ => some ((state.runs.rows.find? (·.dedupeKey = key)).map (·.id), state)
  | .authority request, choice =>
      some (choice.authority.map fun context =>
        { context with
          scopeKind := request.scopeKind, workspaceId := request.workspaceId
          userId := some request.userId, channel := "workflow", surface := .systemTask
          conversationId := some request.conversationId, metadata := request.metadata }, state)
  | .kernel call, choice =>
      some (choice.kernel, (state.putApprovals choice.approvals).record
        (.called pid call (state.steps.find call.stepRunId) (state.attempts.find call.attemptId)))
  | .waitingForUpdate limit, choice =>
      let rows := state.runsForUpdate pid choice.busy
        (fun row => row.status = .waiting || row.status = .waitingApproval)
        (fun a b => a.updatedAt ≤ b.updatedAt) limit
      some (rows, state.holdRuns pid rows)
  | .expiredForUpdate now limit, choice =>
      let rows := state.runsForUpdate pid choice.busy
        (fun row => row.status = .running && row.leaseUntil ≠ none && row.unleased now)
        (fun _ _ => true) limit
      some (rows, state.holdRuns pid rows)
  | .dueForUpdate now limit, choice =>
      let rows := (((state.schedules.select fun row => row.due now).insertionSort
        fun a b => a.nextRunAt.getD 0 ≤ b.nextRunAt.getD 0).filter fun row =>
          !state.heldElsewhere pid (.schedule row.id) && !choice.busy.contains row.id).take limit
      some (rows, state.hold pid (rows.map fun row => .schedule row.id))
  | .candidates now limit, _ => some (state.candidates now limit, state)
  | .definitionForUpdate id, choice =>
      match state.definitions.find id with
      | none => some (none, state)
      | some row =>
          if state.heldElsewhere pid (.definition id) || choice.busy.contains id then some (none, state)
          else some (some row, state.hold pid [.definition id])
  | .lockDefinition id, _ =>
      if state.heldElsewhere pid (.definition id) then none
      else match state.definitions.find id with
        | none => some (none, state)
        | some row => some (some row, state.hold pid [.definition id])
  | .active workflowId now, _ =>
      let active := state.active workflowId now
      some (active, state.record (.counted pid workflowId active))
  | .queuedForUpdate workflowId now limit, choice =>
      let rows := state.runsForUpdate pid choice.busy
        (fun row => row.workflowId = workflowId && row.status = .queued && row.unleased now)
        queuedBefore limit
      some (rows, state.holdRuns pid rows)
  | .cursorForUpdate, _ =>
      match state.cursor with
      | none => some (none, state)
      | some row =>
          if state.heldElsewhere pid .cursor then some (none, state)
          else some (some row, state.hold pid [.cursor])
  | .eventsAfter key limit, _ => some (state.eventsAfter key limit, state)
  | .triggersFor event, _ =>
      let rows := state.triggersFor event
      some (rows, state.record (.consulted pid event rows))
  | .commit changes, _ =>
      if state.blocked pid changes then none
      else match state.writeAll changes with
        | none => some (.integrityError, state)
        | some state => some (.committed, state.release pid)
  | .rollback, _ => some ((), state.release pid)

end WorkflowState

def workflowWorld : World workflowDb WorkflowState Choice where
  perform pid op choice state := (state.elapse choice.elapsed).serve pid op choice
  abandon pid state := state.release pid

end Operly.Workflow
