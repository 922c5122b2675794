import Operly.Python.Casing
import Operly.Workflow.Queue

/-! Event triggers: patterns, conditions, and the dispatcher that turns Kernel events into runs. -/

namespace Operly.Workflow
open Python Security Concurrent
open Kernel (textOrNull)

/-- A wildcard pattern `a.b.*` has only non-empty parts before the wildcard. -/
def wildcardProper (pattern : String) : Bool :=
  let start := String.ofList (pattern.toList.take (pattern.toList.length - 2))
  start ≠ "" && !(split '.' start).any (· = "")

/-- What `normalize_event_pattern` checks of the trimmed lower-case pattern. -/
def checkEventPattern (pattern : String) : Except WorkflowError Unit :=
  if pattern = "" ∨ 160 < pattern.toList.length then
    .error (.value "Event pattern is required and must be at most 160 characters")
  else if pattern = "*" then .ok ()
  else if endsWith pattern ".*" && !wildcardProper pattern then
    .error (.value "Event wildcard pattern is invalid")
  else if !endsWith pattern ".*" && contains pattern "*" then
    .error (.value "Only a trailing .* wildcard is supported")
  else if contains pattern ".." || startsWith pattern "." || endsWith pattern "." then
    .error (.value "Event pattern is invalid")
  else if pattern = "workflow.*" || startsWith pattern "workflow." then
    .error (.value "workflow.* lifecycle events cannot be workflow triggers")
  else .ok ()

def normalizeEventPattern (value : String) : Except WorkflowError String :=
  (checkEventPattern (lower (strip value))).map fun _ => lower (strip value)

theorem normalizeEventPattern_eq {value pattern : String} (accepted : normalizeEventPattern value = .ok pattern) :
    pattern = lower (strip value) ∧ checkEventPattern pattern = .ok () := by
  unfold normalizeEventPattern at accepted
  cases checked : checkEventPattern (lower (strip value)) with
  | error error =>
    rw [checked] at accepted
    cases accepted
  | ok done =>
    rw [checked] at accepted
    have same : lower (strip value) = pattern := Except.ok.inj accepted
    exact ⟨same.symm, same ▸ checked⟩

theorem normalizeEventPattern_idem {value pattern : String} (accepted : normalizeEventPattern value = .ok pattern) :
    normalizeEventPattern pattern = .ok pattern := by
  obtain ⟨shape, checked⟩ := normalizeEventPattern_eq accepted
  have same : lower (strip pattern) = pattern := by rw [shape, strip_lower_strip, lower_lower]
  rw [normalizeEventPattern, same, checked]
  rfl

def matchesNormal (eventType pattern : String) : Bool :=
  let eventType := lower (strip eventType)
  if startsWith eventType "workflow." then false
  else if pattern = "*" then true
  else if endsWith pattern ".*" then
    startsWith eventType (String.ofList (pattern.toList.take (pattern.toList.length - 1)))
  else eventType = pattern

def eventMatchesPattern (eventType pattern : String) : Except WorkflowError Bool :=
  (normalizeEventPattern pattern).map (matchesNormal eventType)

/-- `json.loads(row.payload_json or "{}")`, or no payload when that is no object. -/
def eventPayload (row : KernelEventRecord) : Fields :=
  match row.payloadJson with
  | some (.obj payload) => payload
  | _ => []

def eventEnvelope (row : KernelEventRecord) : Fields :=
  let payload := eventPayload row
  [("id", .str row.id), ("type", .str row.eventType), ("scope_kind", .str row.scopeKind.value),
    ("workspace_id", textOrNull row.workspaceId), ("owner_user_id", textOrNull row.ownerUserId),
    ("principal_id", textOrNull row.principalId), ("actor_type", .str row.actorType),
    ("actor_id", textOrNull row.actorId),
    ("initiator_principal_id", textOrNull row.initiatorPrincipalId),
    ("executor_principal_id", textOrNull row.executorPrincipalId),
    ("capability_id", textOrNull row.capabilityId), ("resource_type", textOrNull row.resourceType),
    ("resource_id", textOrNull row.resourceId), ("payload", .obj payload),
    ("created_at", .str (isoformat row.createdAt)),
    ("correlation_id", Fields.getOr payload "workflow_correlation_id" (.str row.id)),
    ("causation_id", (Fields.get payload "workflow_causation_id").getD .null)]

def eventContext (envelope : Fields) : Json := .obj [("event", .obj envelope)]

/-- A spec error of a condition is a mismatch; any other exception escapes. -/
def conditionMatches (spelling : Spelling) (raw : Option Json) (envelope : Fields) :
    Except WorkflowError Bool :=
  match raw with
  | none => .ok false
  | some condition =>
      if !condition.truthy then .ok true
      else match condition with
        | .obj fields =>
            match evaluateCondition spelling (eventContext envelope) (.obj fields) with
            | .error (.spec _) => .ok false
            | outcome => outcome
        | _ => .ok false

/-- `max(0, int(payload.get("workflow_depth") or 0))` -/
def eventDepth (payload : Fields) : Except WorkflowError Nat :=
  match (Fields.getOr payload "workflow_depth" (.int 0)).toInt with
  | .ok depth => .ok depth.toNat
  | .error failure => .error (.ofFailure failure)

structure DispatcherSettings where
  spelling : Spelling
  batchSize : Nat
  maxDepth : Nat

def triggersForEvent (event : KernelEventRecord) :
    Session (List (WorkflowEventTrigger × WorkflowDefinition)) :=
  if event.scopeKind = .personal ∧ !isSet event.ownerUserId then pure []
  else if event.scopeKind = .workspace ∧ !isSet event.workspaceId then pure []
  else query (.triggersFor event)

def eventRun (event : KernelEventRecord) (depth : Nat) (trigger : WorkflowEventTrigger) : RunRequest where
  triggerType := "event"
  triggerPayload := [("event", .obj (eventEnvelope event)), ("trigger_id", .str trigger.id),
    ("depth", .int (depth + 1))]
  dedupeKey := some (.event trigger.id event.id)

def triggerTakes (settings : DispatcherSettings) (event : KernelEventRecord)
    (trigger : WorkflowEventTrigger) : Except WorkflowError Bool := do
  if ← eventMatchesPattern event.eventType trigger.eventPattern then
    conditionMatches settings.spelling trigger.conditionJson (eventEnvelope event)
  else return false

def dispatchTrigger (settings : DispatcherSettings) (event : KernelEventRecord) (depth : Nat)
    (trigger : WorkflowEventTrigger) (workflow : WorkflowDefinition) : Session (List Write) := do
  if ← Fallible.ofExcept (triggerTakes settings event trigger) then
    match ← query (.runByKey (.event trigger.id event.id)) with
    | some _ => return []
    | none =>
        let (_, changes) ← queueWorkflowRun workflow (eventRun event depth trigger)
        return changes
  else return []

def dispatchTriggers (settings : DispatcherSettings) (event : KernelEventRecord) (depth : Nat) :
    List (WorkflowEventTrigger × WorkflowDefinition) → Session (List Write)
  | [] => return []
  | (trigger, workflow) :: rest => do
      let changes ← dispatchTrigger settings event depth trigger workflow
      let others ← dispatchTriggers settings event depth rest
      return changes ++ others

def triggerable (settings : DispatcherSettings) (event : KernelEventRecord) (depth : Nat) : Bool :=
  depth < settings.maxDepth && !startsWith event.eventType "workflow."

def dispatchEvent (settings : DispatcherSettings) (event : KernelEventRecord) : Session (List Write) := do
  let depth ← Fallible.ofExcept (eventDepth (eventPayload event))
  if triggerable settings event depth then
    let rows ← triggersForEvent event
    dispatchTriggers settings event depth rows
  else return []

def dispatchEvents (settings : DispatcherSettings) : List KernelEventRecord → Session (List Write)
  | [] => return []
  | event :: rest => do
      let changes ← dispatchEvent settings event
      let others ← dispatchEvents settings rest
      return changes ++ others

def cursorAfter (cursor : WorkflowEventCursor) (events : List KernelEventRecord) : WorkflowEventCursor :=
  match events.getLast? with
  | none => cursor
  | some event => ⟨some event.createdAt, some event.id⟩

def queuedRuns (changes : List Write) : Nat :=
  changes.countP fun change => match change with | .newRun _ => true | _ => false

def dispatchBatch (settings : DispatcherSettings) : Session (Nat × List Write) := do
  match ← query .cursorForUpdate with
  | none => return (0, [])
  | some cursor =>
      match cursor.lastCreatedAt with
      | none =>
          let now ← query .now
          return (0, [.cursor ⟨some now, some ""⟩])
      | some createdAt =>
          let events ← query (.eventsAfter ⟨createdAt, cursor.lastEventId.getD ""⟩ settings.batchSize)
          if events.isEmpty then return (0, [])
          else
            let changes ← dispatchEvents settings events
            return (queuedRuns changes, changes ++ [.cursor (cursorAfter cursor events)])

def dispatcherTick (settings : DispatcherSettings) : Session Nat := sessionScope (dispatchBatch settings)

/-- The row that `workflow.trigger.create` stores. -/
def newTrigger (spelling : Spelling) (id workflowId eventPattern : String) (condition : Option Json)
    (createdAt : Int) : Except WorkflowError WorkflowEventTrigger := do
  let pattern ← normalizeEventPattern eventPattern
  let condition := match condition with
    | some value => if value.truthy then value else .obj []
    | none => .obj []
  if condition.truthy then validateCondition spelling condition
  return { id, workflowId, eventPattern := pattern, conditionJson := some condition.sortKeys
           enabled := true, createdAt }

example : normalizeEventPattern " Orders.* " = .ok "orders.*" := by decide
example : (normalizeEventPattern "workflow.run.*").toOption = none := by decide
example : eventMatchesPattern "Orders.Created" "orders.*" = .ok true := by decide

end Operly.Workflow
