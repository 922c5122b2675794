import Operly.Workflow.Schedule
import Operly.Workflow.Triggers

/-! `WorkflowProvider`: the capabilities that edit workflows and steer their runs, for the owner of
a namespace and for a delegated user. -/

namespace Operly.Workflow
open Python Security Concurrent Fallible
open Kernel (textOrNull)

inductive Capability where
  | create
  | update
  | enable
  | disable
  | archive
  | createTrigger
  | deleteTrigger
  | startRun
  | cancelRun
  | retryRun
  deriving DecidableEq

structure CallResult where
  workflow : Option WorkflowDefinition := none
  schedule : Option WorkflowSchedule := none
  version : Option WorkflowVersion := none
  changed : List String := []
  trigger : Option WorkflowEventTrigger := none
  run : Option WorkflowRun := none
  resourceId : String

/-- The rows that the session has loaded. A later select of one of them returns this copy, whatever
has been committed since. -/
structure Loaded where
  definition : Option WorkflowDefinition := none
  run : Option WorkflowRun := none
  trigger : Option WorkflowEventTrigger := none

def Loaded.definitionOr (loaded : Loaded) (row : WorkflowDefinition) : WorkflowDefinition :=
  (loaded.definition.filter (·.id = row.id)).getD row

def Loaded.runOr (loaded : Loaded) (row : WorkflowRun) : WorkflowRun :=
  (loaded.run.filter (·.id = row.id)).getD row

def definitionChange (loaded now : WorkflowDefinition) : List Write :=
  if loaded = now then [] else [.definition loaded now]

def scheduleChange (loaded now : WorkflowSchedule) : List Write :=
  if loaded = now then [] else [.schedule loaded now]

def runChange (loaded now : WorkflowRun) : List Write := if loaded = now then [] else [.run loaded now]

def stepChange (loaded now : WorkflowStepRun) : List Write :=
  if loaded = now then [] else [.step loaded now]

def attemptChange (loaded now : WorkflowStepAttempt) : List Write :=
  if loaded = now then [] else [.attempt loaded now]

def OnError.value : OnError → String
  | .stop => "stop"
  | .continue => "continue"

def StepKind.fields : StepKind → Fields
  | .action capabilityId arguments => [("capability_id", .str capabilityId), ("arguments", .obj arguments)]
  | .waitSeconds seconds => [("seconds", .int seconds)]
  | .waitUntil text => [("until", .str text)]

def StepKind.name : StepKind → String
  | .action _ _ => "action"
  | .waitSeconds _ | .waitUntil _ => "wait"

def Step.json (step : Step) : Json :=
  .obj ([("id", .str step.id), ("kind", .str step.kind.name),
    ("depends_on", .arr (step.dependsOn.map .str)), ("on_error", .str step.onError.value)] ++
    (match step.when with
      | some condition => [("when", condition)]
      | none => []) ++ step.kind.fields)

def specJson (steps : List Step) : Json := .obj [("steps", .arr (steps.map Step.json))]

def snapshot (name description : String) (spec schedule : Json) (status : DefinitionStatus) : Json :=
  .obj [("name", .str name), ("description", .str description), ("spec", spec), ("schedule", schedule),
    ("status", .str status.value)]

def scheduleJson : Option Fields → Json
  | none => .null
  | some fields => .obj fields

def loads (raw : Option Json) : Json := raw.getD (.obj [])

/-- `_scope_definition_filters` -/
def inAuthority (context : ExecutionContext) (row : WorkflowDefinition) : Bool :=
  if context.isPersonal then
    row.scopeKind = .personal && row.workspaceId = none && row.ownerUserId = context.userId
  else row.scopeKind = .workspace && row.workspaceId = context.workspaceId

/-- `_scope_run_filters` -/
def runInAuthority (context : ExecutionContext) (row : WorkflowRun) : Bool :=
  if context.isPersonal then
    row.scopeKind = .personal && row.workspaceId = none && row.authorityUserId = context.userId
  else row.scopeKind = .workspace && row.workspaceId = context.workspaceId

def ownedBy (context : ExecutionContext) (row : WorkflowDefinition) : Bool :=
  row.scopeKind = .workspace && row.workspaceId = context.workspaceId && row.ownerUserId = context.userId

def runOwnedBy (context : ExecutionContext) (row : WorkflowRun) : Bool :=
  row.scopeKind = .workspace && row.workspaceId = context.workspaceId &&
    row.authorityUserId = context.userId

def workflowFor (loaded : Loaded) (context : ExecutionContext) (id : String) :
    Session WorkflowDefinition := do
  match (← query (.definition id)).filter (inAuthority context) with
  | some row => return loaded.definitionOr row
  | none => raise (.lookup "Workflow is unavailable in this authority scope")

def ownedWorkflow (loaded : Loaded) (context : ExecutionContext) (id : String) :
    Session WorkflowDefinition := do
  match (← query (.definition id)).filter (ownedBy context) with
  | some row => return loaded.definitionOr row
  | none => raise (.permission "A non-owner may only access their own workflows")

def runFor (loaded : Loaded) (context : ExecutionContext) (id : String) : Session WorkflowRun := do
  match (← query (.run { id })).filter (runInAuthority context) with
  | some row => return loaded.runOr row
  | none => raise (.lookup "Workflow run is unavailable in this authority scope")

def ownedRun (context : ExecutionContext) (id : String) : Session WorkflowRun := do
  match (← query (.run { id })).filter (runOwnedBy context) with
  | some row => return row
  | none => raise (.permission "A non-owner may only access their own workflow runs")

/-- `arguments[key]`; a missing key is a `KeyError`. -/
def required (arguments : Fields) (key : String) : Except WorkflowError Json :=
  match Fields.get arguments key with
  | some value => .ok value
  | none => .error (.lookup key)

def requiredText (platform : Platform) (arguments : Fields) (key : String) : Except WorkflowError String :=
  (required arguments key).map (Json.toStr platform.spelling)

/-- `arguments.get(key)`, or nothing when it is `None`. -/
def supplied (arguments : Fields) (key : String) : Option Json :=
  match Fields.get arguments key with
  | some .null | none => none
  | some value => some value

def argument (arguments : Fields) (key : String) : Json := (Fields.get arguments key).getD .null

def futureScheduleTime (platform : Platform) (schedule : Json) (enabled : Bool) :
    Session (Option Int) := do
  if !schedule.truthy || !enabled then return none
  else
    let now : Int ← query .now
    let after ← Fallible.ofExcept (checkedTime (now - Time.second))
    match ← Fallible.ofExcept (nextScheduleTime platform schedule after) with
    | some next => return some next
    | none => raise (.value "Enabled schedule has no future occurrence")

def humanEvent (context : ExecutionContext) (workflow : WorkflowDefinition) (eventType : String)
    (payload : Fields) : TraceEvent where
  workspaceId := context.workspaceId
  workflowId := workflow.id
  eventType := eventType
  actorType := "human"
  actorId := context.userId
  ownerUserId := workflow.ownerUserId
  principalId := context.principalId
  payload := payload

/-! ### Editing -/

def newSchedule (id : String) (workflowId : String) (schedule : Fields) (enabled : Bool)
    (nextRunAt : Option Int) (spelling : Spelling) : WorkflowSchedule where
  id := id
  workflowId := workflowId
  scheduleType := operand spelling schedule "type" ""
  scheduleJson := some (Json.obj schedule).sortKeys
  timezone := operand spelling schedule "timezone" "UTC"
  enabled := enabled
  nextRunAt := nextRunAt

def insertSchedule (platform : Platform) (workflowId : String) (schedule : Option Fields)
    (enabled : Bool) (nextRunAt : Option Int) : Session (Option WorkflowSchedule) := do
  match schedule with
  | none => return none
  | some fields =>
      let id ← query .uuid
      return some (newSchedule id workflowId fields enabled nextRunAt platform.spelling)

structure Creation where
  name : String
  description : String
  steps : List Step
  schedule : Option Fields
  enabled : Bool

def creationOf (platform : Platform) (arguments : Fields) : Except WorkflowError Creation := do
  let name := strip (← requiredText platform arguments "name")
  if name = "" then throw (.value "Workflow name is required")
  let steps ← validateWorkflowSpec platform.spelling (← required arguments "spec")
  let schedule ← validateSchedule platform (argument arguments "schedule")
  return { name, steps, schedule
           description := operand platform.spelling arguments "description" ""
           enabled := (argument arguments "enabled").truthy }

def Creation.row (creation : Creation) (context : ExecutionContext) (id : String) :
    WorkflowDefinition where
  id := id
  scopeKind := context.scopeKind
  workspaceId := context.workspaceId
  ownerUserId := context.userId
  name := creation.name
  description := creation.description
  status := if creation.enabled then .enabled else .disabled
  currentVersion := 1

def newVersion (id : String) (workflow : WorkflowDefinition) (spec schedule : Json)
    (context : ExecutionContext) : WorkflowVersion where
  id := id
  workflowId := workflow.id
  version := workflow.currentVersion
  specJson := some spec.sortKeys
  snapshotJson := some (snapshot workflow.name workflow.description spec schedule workflow.status).sortKeys
  createdByUserId := context.userId

def create (platform : Platform) (context : ExecutionContext) (arguments : Fields) :
    Session (CallResult × List Write) := do
  let creation ← Fallible.ofExcept (creationOf platform arguments)
  let nextRun ← futureScheduleTime platform (scheduleJson creation.schedule) creation.enabled
  let id ← query .uuid
  let row := creation.row context id
  let versionId ← query .uuid
  let version := newVersion versionId row (specJson creation.steps) (scheduleJson creation.schedule) context
  let schedule ← insertSchedule platform id creation.schedule creation.enabled nextRun
  let event ← recordWorkflowEvent (humanEvent context row "workflow.created"
    [("scope_kind", .str row.scopeKind.value), ("version", .int 1), ("version_id", .str versionId),
      ("enabled", .bool creation.enabled),
      ("schedule_type", (creation.schedule.bind (Fields.get · "type")).getD (.str "manual"))])
  return ({ workflow := some row, schedule, version := some version, resourceId := id },
    .newDefinition row :: .newVersion version :: schedule.toList.map .newSchedule ++ [event])

/-- What `workflow.update` makes of a workflow. The schedule is replaced only when it changed. -/
structure Edit where
  name : String
  description : String
  spec : Json
  schedule : Json
  replaced : Option (Option Fields) := none
  changed : List String := []

def editText (current : String) (candidate : Option String) (field : String) :
    String × List String :=
  match candidate with
  | none => (current, [])
  | some candidate => if candidate ≠ current then (candidate, [field]) else (current, [])

def editName (platform : Platform) (arguments : Fields) (current : String) :
    Except WorkflowError (String × List String) :=
  match supplied arguments "name" with
  | none => .ok (current, [])
  | some value =>
      let candidate := strip (value.toStr platform.spelling)
      if candidate = "" then .error (.value "Workflow name cannot be empty")
      else .ok (editText current (some candidate) "name")

def editSpec (platform : Platform) (arguments : Fields) (current : Json) :
    Except WorkflowError (Json × List String) := do
  match supplied arguments "spec" with
  | none => return (current, [])
  | some value =>
      let candidate := specJson (← validateWorkflowSpec platform.spelling value)
      return if Json.same candidate current then (current, []) else (candidate, ["spec"])

def editSchedule (platform : Platform) (arguments : Fields) (current : Json) :
    Except WorkflowError (Json × Option (Option Fields)) := do
  if Fields.has arguments "schedule" then
    let candidate ← validateSchedule platform (argument arguments "schedule")
    return if Json.same (scheduleJson candidate) current then (current, none)
      else (scheduleJson candidate, some candidate)
  else return (current, none)

def editOf (platform : Platform) (arguments : Fields) (row : WorkflowDefinition)
    (version : WorkflowVersion) (schedule : Option WorkflowSchedule) : Except WorkflowError Edit := do
  let (name, named) ← editName platform arguments row.name
  let (description, described) := editText row.description
    ((supplied arguments "description").map (Json.toStr platform.spelling)) "description"
  let (spec, specified) ← editSpec platform arguments (loads version.specJson)
  let current := match schedule with
    | some schedule => loads schedule.scheduleJson
    | none => .null
  let (next, replaced) ← editSchedule platform arguments current
  return { name, description, spec, schedule := next, replaced
           changed := named ++ described ++ specified ++ if replaced.isSome then ["schedule"] else [] }

def replaceSchedule (platform : Platform) (row : WorkflowDefinition) (schedule : Option WorkflowSchedule)
    (replaced : Option (Option Fields)) (nextRun : Option Int) :
    Session (Option WorkflowSchedule × List Write) := do
  match replaced, schedule with
  | none, schedule => return (schedule, [])
  | some none, none => return (none, [])
  | some none, some schedule => return (none, [.deleteSchedule schedule.id])
  | some (some fields), none =>
      let id ← query .uuid
      let now := newSchedule id row.id fields (row.status = .enabled) nextRun platform.spelling
      return (some now, [.newSchedule now])
  | some (some fields), some schedule =>
      let now := { schedule with
        scheduleType := operand platform.spelling fields "type" ""
        scheduleJson := some (Json.obj fields).sortKeys
        timezone := operand platform.spelling fields "timezone" "UTC"
        enabled := row.status = .enabled, nextRunAt := nextRun }
      return (some now, scheduleChange schedule now)

def update (platform : Platform) (loaded : Loaded) (context : ExecutionContext) (arguments : Fields) :
    Session (CallResult × List Write) := do
  let id ← Fallible.ofExcept (requiredText platform arguments "workflow_id")
  let row ← workflowFor loaded context id
  if row.status = .archived then raise (.value "Archived workflow cannot be edited")
  else match ← query (.currentVersion row.id row.currentVersion) with
    | none => raise (.runtime "Current workflow version is unavailable")
    | some current =>
        let schedule ← query (.scheduleOf row.id)
        let edit ← Fallible.ofExcept (editOf platform arguments row current schedule)
        if edit.changed = [] then
          return ({ workflow := some row, schedule, version := some current, resourceId := row.id }, [])
        else
          let nextRun ← futureScheduleTime platform edit.schedule (row.status = .enabled)
          let now := { row with
            name := edit.name, description := edit.description, currentVersion := row.currentVersion + 1 }
          let (schedule, scheduled) ← replaceSchedule platform row schedule edit.replaced nextRun
          let versionId ← query .uuid
          let version := newVersion versionId now edit.spec edit.schedule context
          let event ← recordWorkflowEvent (humanEvent context row "workflow.updated"
            [("version", .int now.currentVersion), ("version_id", .str versionId),
              ("previous_version_id", .str current.id), ("changed", .arr (edit.changed.map .str))])
          return ({ workflow := some now, schedule, version := some version, changed := edit.changed
                    resourceId := row.id },
            scheduled ++ definitionChange row now ++ [.newVersion version, event])

def resumeTime (platform : Platform) : Option WorkflowSchedule → Session (Option Int)
  | some schedule => futureScheduleTime platform (loads schedule.scheduleJson) true
  | none => pure none

def enable (platform : Platform) (loaded : Loaded) (context : ExecutionContext) (arguments : Fields) :
    Session (CallResult × List Write) := do
  let id ← Fallible.ofExcept (requiredText platform arguments "workflow_id")
  let row ← workflowFor loaded context id
  if row.status = .archived then raise (.value "Archived workflow cannot be enabled")
  else
    let schedule ← query (.scheduleOf row.id)
    let nextRun ← resumeTime platform schedule
    let now := { row with status := .enabled }
    let scheduled := schedule.map fun schedule => { schedule with enabled := true, nextRunAt := nextRun }
    let event ← recordWorkflowEvent (humanEvent context row "workflow.enabled"
      [("next_run_at", textOrNull (nextRun.map isoformat))])
    return ({ workflow := some now, schedule := scheduled, resourceId := row.id },
      definitionChange row now ++ (schedule.toList.flatMap fun schedule =>
        scheduleChange schedule { schedule with enabled := true, nextRunAt := nextRun }) ++ [event])

/-- `workflow.disable` and `workflow.archive` differ in the status they leave and in their event. -/
def withdraw (platform : Platform) (loaded : Loaded) (context : ExecutionContext) (arguments : Fields)
    (status : DefinitionStatus → DefinitionStatus) (eventType : String) :
    Session (CallResult × List Write) := do
  let id ← Fallible.ofExcept (requiredText platform arguments "workflow_id")
  let row ← workflowFor loaded context id
  let schedule ← query (.scheduleOf row.id)
  let now := { row with status := status row.status }
  let stopped (schedule : WorkflowSchedule) : WorkflowSchedule :=
    { schedule with enabled := false, nextRunAt := none }
  let event ← recordWorkflowEvent (humanEvent context row eventType [])
  return ({ workflow := some now, schedule := schedule.map stopped, resourceId := row.id },
    definitionChange row now ++
      (schedule.toList.flatMap fun schedule => scheduleChange schedule (stopped schedule)) ++ [event])

def disable (platform : Platform) (loaded : Loaded) (context : ExecutionContext) (arguments : Fields) :
    Session (CallResult × List Write) :=
  withdraw platform loaded context arguments
    (fun status => if status ≠ .archived then .disabled else status) "workflow.disabled"

def archive (platform : Platform) (loaded : Loaded) (context : ExecutionContext) (arguments : Fields) :
    Session (CallResult × List Write) :=
  withdraw platform loaded context arguments (fun _ => .archived) "workflow.archived"

def createTrigger (platform : Platform) (loaded : Loaded) (context : ExecutionContext)
    (arguments : Fields) : Session (CallResult × List Write) := do
  let id ← Fallible.ofExcept (requiredText platform arguments "workflow_id")
  let workflow ← workflowFor loaded context id
  if workflow.status = .archived then
    raise (.value "Archived workflow cannot receive triggers")
  else
    let eventPattern ← Fallible.ofExcept (requiredText platform arguments "event_pattern")
    let accepted ← Fallible.ofExcept (newTrigger platform.spelling "" workflow.id eventPattern
      (Fields.get arguments "condition") 0)
    match ← query (.triggerByPattern workflow.id accepted.eventPattern) with
    | some _ => raise (.value "Workflow already has this event pattern")
    | none =>
        let triggerId ← query .uuid
        let createdAt ← query .now
        let row := { accepted with id := triggerId, createdAt }
        let event ← recordWorkflowEvent (humanEvent context workflow "workflow.trigger.created"
          [("trigger_id", .str triggerId), ("event_pattern", .str row.eventPattern),
            ("condition_present", .bool (loads row.conditionJson).truthy)])
        return ({ trigger := some row, resourceId := triggerId }, [.newTrigger row, event])

/-- `db.get`: a row that the session has loaded is not read again. -/
def triggerById (loaded : Loaded) (id : String) : Session WorkflowEventTrigger := do
  match loaded.trigger.filter (·.id = id) with
  | some row => return row
  | none =>
      match ← query (.trigger id) with
      | some row => return row
      | none => raise (.lookup "Workflow trigger is unavailable")

def deleteTrigger (platform : Platform) (loaded : Loaded) (context : ExecutionContext)
    (arguments : Fields) : Session (CallResult × List Write) := do
  let id ← Fallible.ofExcept (requiredText platform arguments "trigger_id")
  let trigger ← triggerById loaded id
  let workflow ← workflowFor loaded context trigger.workflowId
  let event ← recordWorkflowEvent (humanEvent context workflow "workflow.trigger.deleted"
    [("trigger_id", .str trigger.id), ("event_pattern", .str trigger.eventPattern)])
  return ({ resourceId := workflow.id }, [.deleteTrigger trigger.id, event])

/-! ### Runs -/

def startRun (platform : Platform) (loaded : Loaded) (context : ExecutionContext) (arguments : Fields) :
    Session (CallResult × List Write) := do
  let id ← Fallible.ofExcept (requiredText platform arguments "workflow_id")
  let workflow ← workflowFor loaded context id
  if workflow.status = .archived then raise (.value "Archived workflow cannot run")
  else
    let (run, changes) ← queueWorkflowRun workflow
      { triggerType := "manual", initiatedByUserId := context.userId
        triggerPayload := match argument arguments "trigger" with
          | .obj trigger => trigger
          | _ => [] }
    return ({ run := some run, resourceId := run.id }, changes)

def runEvent (context : ExecutionContext) (run : WorkflowRun) (eventType : String)
    (step : Option WorkflowStepRun) (attempt : Option WorkflowStepAttempt) (payload : Fields) :
    TraceEvent where
  workspaceId := context.workspaceId
  workflowId := run.workflowId
  workflowRunId := some run.id
  stepRunId := step.map (·.id)
  stepAttemptId := attempt.map (·.id)
  eventType := eventType
  actorType := "human"
  actorId := context.userId
  ownerUserId := run.authorityUserId
  principalId := context.principalId
  payload := payload

def currentStep (run : WorkflowRun) : Session (Option WorkflowStepRun) :=
  if isSet run.currentStepKey then query (.stepRun run.id (run.currentStepKey.getD "")) else pure none

def attemptOf (step : WorkflowStepRun) : Session (Option WorkflowStepAttempt) :=
  if step.stepKind = .action ∧ 0 < step.attempt then query (.attempt step.id step.attempt) else pure none

/-- The step and the attempt that end with a run that was cancelled while it waited. -/
def cancelStep (step : Option WorkflowStepRun) (previous : RunStatus) (now : Int) :
    Session (Option WorkflowStepAttempt × List Write) := do
  match step with
  | none => return (none, [])
  | some step =>
      if previous = .waiting ∨ previous = .waitingApproval then
        let attempt ← attemptOf step
        return (attempt, stepChange step { step with status := .cancelled, finishedAt := some now } ++
          attempt.toList.flatMap fun attempt =>
            attemptChange attempt { attempt with status := .cancelled, finishedAt := some now })
      else return (none, [])

def cancelRun (platform : Platform) (loaded : Loaded) (context : ExecutionContext) (arguments : Fields) :
    Session (CallResult × List Write) := do
  let id ← Fallible.ofExcept (requiredText platform arguments "run_id")
  let run ← runFor loaded context id
  if run.status.ended then return ({ run := some run, resourceId := run.id }, [])
  else
    let now ← query .now
    let cancelled : WorkflowRun := { run with
      status := .cancelled, finishedAt := some now, leaseToken := none, leaseUntil := none }
    let step ← currentStep run
    let (attempt, stopped) ← cancelStep step run.status now
    let event ← recordWorkflowEvent
      { runEvent context run "workflow.run.cancelled" step attempt
          [("previous_status", .str run.status.value), ("current_step_key", textOrNull run.currentStepKey)] with
        capabilityId := step.bind (·.capabilityId), kernelRunId := step.bind (·.kernelRunId)
        approvalId := step.bind (·.approvalId) }
    return ({ run := some cancelled, resourceId := run.id }, runChange run cancelled ++ stopped ++ [event])

def WorkflowStepRun.reset (step : WorkflowStepRun) : WorkflowStepRun :=
  { step with
    status := .pending, requestId := none, kernelRunId := none, approvalId := none, arguments := .obj []
    result := .obj [], errorCode := none, errorMessage := none, finishedAt := none }

def WorkflowRun.requeued (run : WorkflowRun) : WorkflowRun :=
  { run with
    status := .queued, errorCode := none, errorMessage := none, finishedAt := none, leaseToken := none
    leaseUntil := none }

def retryRun (platform : Platform) (loaded : Loaded) (context : ExecutionContext) (arguments : Fields) :
    Session (CallResult × List Write) := do
  let id ← Fallible.ofExcept (requiredText platform arguments "run_id")
  let run ← runFor loaded context id
  if run.status ≠ .failed then
    raise (.value "Only failed workflow runs can be retried; orphaned runs require manual reconciliation")
  else
    let failed : Option WorkflowStepRun ← query (.failedStep run.id)
    let event ← recordWorkflowEvent (runEvent context run "workflow.run.retry_requested" failed none
      [("step_key", textOrNull (failed.map (·.stepKey))),
        ("next_attempt", (failed.map fun step => Json.int (step.attempt + 1)).getD .null)])
    return ({ run := some run.requeued, resourceId := run.id },
      (failed.toList.flatMap fun step => stepChange step step.reset) ++ runChange run run.requeued ++ [event])

def executeUniversal (platform : Platform) (capability : Capability) (loaded : Loaded)
    (context : ExecutionContext) (arguments : Fields) : Session (CallResult × List Write) :=
  if !isSet context.userId then
    raise (.permission "Workflow authority requires an Operly user")
  else if context.isWorkspace && !isSet context.workspaceId then
    raise (.permission "Workspace workflow requires Workspace authority")
  else match capability with
    | .create => create platform context arguments
    | .update => update platform loaded context arguments
    | .enable => enable platform loaded context arguments
    | .disable => disable platform loaded context arguments
    | .archive => archive platform loaded context arguments
    | .createTrigger => createTrigger platform loaded context arguments
    | .deleteTrigger => deleteTrigger platform loaded context arguments
    | .startRun => startRun platform loaded context arguments
    | .cancelRun => cancelRun platform loaded context arguments
    | .retryRun => retryRun platform loaded context arguments

def validateMutationInput (platform : Platform) (capability : Capability) (arguments : Fields) :
    Except WorkflowError Unit :=
  match capability with
  | .create =>
      if strip (operand platform.spelling arguments "name" "") = "" then
        .error (.value "Workflow name is required")
      else .ok ()
  | .update =>
      match supplied arguments "name" with
      | none => .ok ()
      | some value =>
          if strip (value.toStr platform.spelling) = "" then
            .error (.value "Workflow name cannot be empty")
          else .ok ()
  | _ => .ok ()

/-- What a delegated user must own for a capability; the rows stay loaded. -/
def delegatedRows (platform : Platform) (capability : Capability) (loaded : Loaded)
    (context : ExecutionContext) (arguments : Fields) : Session Loaded := do
  let workflowId := operand platform.spelling arguments "workflow_id" ""
  match capability with
  | .update | .enable | .disable | .archive | .createTrigger | .startRun =>
      let definition ← ownedWorkflow loaded context workflowId
      return { loaded with definition := some definition }
  | .cancelRun | .retryRun =>
      let run ← ownedRun context (operand platform.spelling arguments "run_id" "")
      return { loaded with run := some run }
  | .deleteTrigger =>
      let trigger ← triggerById loaded (operand platform.spelling arguments "trigger_id" "")
      let definition ← ownedWorkflow loaded context trigger.workflowId
      return { loaded with trigger := some trigger, definition := some definition }
  | .create => return loaded

def isRoot (context : ExecutionContext) : Bool := context.isPersonal || context.role = "owner"

def executeScoped (platform : Platform) (capability : Capability) (loaded : Loaded)
    (context : ExecutionContext) (arguments : Fields) : Session (CallResult × List Write) := do
  Fallible.ofExcept (validateMutationInput platform capability arguments)
  if isRoot context then executeUniversal platform capability loaded context arguments
  else if !isSet context.userId then
    raise (.permission "Delegated Workflow authority requires an Operly user")
  else
    let loaded ← delegatedRows platform capability loaded context arguments
    executeUniversal platform capability loaded context arguments

end Operly.Workflow
