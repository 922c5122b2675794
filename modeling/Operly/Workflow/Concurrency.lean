import Operly.Workflow.Provider

/-! Concurrency policies: every version of a workflow carries one in its snapshot. -/

namespace Operly.Workflow
open Python Security Concurrent Fallible

inductive OverflowPolicy where
  | queue
  | drop
  deriving DecidableEq

def OverflowPolicy.value : OverflowPolicy → String
  | .queue => "queue"
  | .drop => "drop"

def maxConcurrentRuns : Nat := 64

structure ConcurrencyPolicy where
  maxConcurrentRuns : Int
  overflowPolicy : OverflowPolicy
  deriving DecidableEq

/-- `DEFAULT_CONCURRENCY_POLICY` -/
def defaultPolicy : ConcurrencyPolicy := ⟨0, .queue⟩

def ConcurrencyPolicy.json (policy : ConcurrencyPolicy) : Json :=
  .obj [("max_concurrent_runs", .int policy.maxConcurrentRuns),
    ("overflow_policy", .str policy.overflowPolicy.value)]

/-- `int(raw)`; a boolean is no integer here. -/
def policyInteger : Json → Except WorkflowError Int
  | .bool _ => .error (.value "max_concurrent_runs must be an integer")
  | raw =>
      match raw.toInt with
      | .ok limit => .ok limit
      | .error .overflowError => .error .overflow
      | .error _ => .error (.value "max_concurrent_runs must be an integer")

def policyLimit (fields : Fields) : Except WorkflowError Int := do
  let limit ← policyInteger ((Fields.get fields "max_concurrent_runs").getD (.int 0))
  if limit < 0 ∨ maxConcurrentRuns < limit then
    .error (.value s!"max_concurrent_runs must be between 0 and {maxConcurrentRuns}")
  else .ok limit

def policyOverflow (spelling : Spelling) (fields : Fields) : Except WorkflowError OverflowPolicy :=
  let overflow := lower (strip (operand spelling fields "overflow_policy" "queue"))
  if overflow = "queue" then .ok .queue
  else if overflow = "drop" then .ok .drop
  else .error (.value "overflow_policy must be 'queue' or 'drop'")

/-- `drop` has no meaning without a limit. -/
def normalizePolicy (spelling : Spelling) : Json → Except WorkflowError ConcurrencyPolicy
  | .null => .ok defaultPolicy
  | .obj fields => do
      let unknown := (fields.map (·.1)).filter fun key =>
        key ≠ "max_concurrent_runs" && key ≠ "overflow_policy"
      if unknown ≠ [] then
        throw (.value ("Unsupported Workflow concurrency field(s): " ++
          ", ".intercalate (unknown.insertionSort (· ≤ ·))))
      let limit ← policyLimit fields
      let overflow ← policyOverflow spelling fields
      return ⟨limit, if limit = 0 then .queue else overflow⟩
  | _ => .error (.value "Workflow concurrency must be an object or null")

/-- `policy_from_snapshot`; only a value error reads as the default. -/
def policyFromSnapshot (spelling : Spelling) (snapshot : Json) : Except WorkflowError ConcurrencyPolicy :=
  match snapshot with
  | .obj fields =>
      match normalizePolicy spelling ((Fields.get fields "concurrency").getD .null) with
      | .error (.value _) => .ok defaultPolicy
      | outcome => outcome
  | _ => .ok defaultPolicy

def withPolicy (snapshot : Json) (policy : ConcurrencyPolicy) : Json :=
  match snapshot with
  | .obj fields => .obj (Fields.set fields "concurrency" policy.json)
  | _ => .obj [("concurrency", policy.json)]

/-! ### The provider -/

/-- `_authorized_workflow` without the lock -/
def authorizedWorkflow (loaded : Loaded) (context : ExecutionContext) (id : String) :
    Session WorkflowDefinition :=
  if isRoot context then workflowFor loaded context id else ownedWorkflow loaded context id

/-- `_authorized_workflow(lock=True)`: the row is locked, and keeps the values it was loaded with. -/
def lockedWorkflow (context : ExecutionContext) (id : String) : Session WorkflowDefinition := do
  let row ← authorizedWorkflow {} context id
  match ← query (.lockDefinition row.id) with
  | some _ => return row
  | none => raise (.lookup "Workflow is unavailable")

def lockedInserted (context : ExecutionContext) (row : WorkflowDefinition) :
    Except WorkflowError WorkflowDefinition :=
  if isRoot context then
    if inAuthority context row then .ok row
    else .error (.lookup "Workflow is unavailable in this authority scope")
  else if ownedBy context row then .ok row
  else .error (.permission "A non-owner may only access their own workflows")

def insertedVersion (changes : List Write) (workflow : WorkflowDefinition) : Option WorkflowVersion :=
  changes.findSome? fun change => match change with
    | .newVersion row =>
        if row.workflowId = workflow.id ∧ row.version = workflow.currentVersion then some row else none
    | _ => none

/-- `_current_version`; what the session has flushed is visible to it. -/
def currentVersionOf (changes : List Write) (workflow : WorkflowDefinition) : Session WorkflowVersion := do
  match insertedVersion changes workflow with
  | some row => return row
  | none =>
      match ← query (.currentVersion workflow.id workflow.currentVersion) with
      | some row => return row
      | none => raise (.runtime "Current workflow version is unavailable")

def currentPolicy (spelling : Spelling) (workflow : WorkflowDefinition) : Session ConcurrencyPolicy := do
  let version ← currentVersionOf [] workflow
  Fallible.ofExcept (policyFromSnapshot spelling (loads version.snapshotJson))

def WorkflowVersion.storePolicy (version : WorkflowVersion) (policy : ConcurrencyPolicy) : WorkflowVersion :=
  { version with snapshotJson := some (withPolicy (loads version.snapshotJson) policy).sortKeys }

def storeCurrentPolicy (changes : List Write) (workflow : WorkflowDefinition) (policy : ConcurrencyPolicy) :
    Session (WorkflowVersion × List Write) := do
  let version ← currentVersionOf changes workflow
  let stored := version.storePolicy policy
  return (stored, [.version version stored])

def createConcurrencyOnlyVersion (changes : List Write) (workflow : WorkflowDefinition)
    (policy : ConcurrencyPolicy) (createdByUserId : Option String) :
    Session (WorkflowVersion × WorkflowDefinition × WorkflowVersion) := do
  let previous ← currentVersionOf changes workflow
  let now := { workflow with currentVersion := workflow.currentVersion + 1 }
  let id ← query .uuid
  let version : WorkflowVersion :=
    { id, workflowId := workflow.id, version := now.currentVersion, specJson := previous.specJson
      snapshotJson := some (withPolicy (loads previous.snapshotJson) policy).sortKeys, createdByUserId }
  return (previous, now, version)

def requestedPolicy (platform : Platform) (arguments : Fields) :
    Except WorkflowError (Option ConcurrencyPolicy) :=
  if Fields.has arguments "concurrency" then
    (normalizePolicy platform.spelling (argument arguments "concurrency")).map some
  else .ok none

def withoutPolicy (arguments : Fields) : Fields := arguments.filter (·.1 ≠ "concurrency")

def policyEvent (context : ExecutionContext) (workflow : WorkflowDefinition) (version : WorkflowVersion)
    (policy : ConcurrencyPolicy) : TraceEvent :=
  humanEvent context workflow "workflow.concurrency.updated"
    [("workflow_version", .int workflow.currentVersion), ("workflow_version_id", .str version.id),
      ("max_concurrent_runs", .int policy.maxConcurrentRuns),
      ("overflow_policy", .str policy.overflowPolicy.value)]

def notePolicy (named : Bool) (event : TraceEvent) : Session (List Write) := do
  if named then
    let event ← recordWorkflowEvent event
    return [event]
  else return []

/-- `workflow.create`: the policy goes into the version that the call has just inserted. -/
def executeCreate (platform : Platform) (context : ExecutionContext) (arguments : Fields) :
    Session (CallResult × List Write) := do
  let requested ← Fallible.ofExcept (requestedPolicy platform arguments)
  let (result, changes) ← executeScoped platform .create {} context (withoutPolicy arguments)
  match result.workflow with
  | none => raise (.lookup "Workflow is unavailable in this authority scope")
  | some row =>
      let workflow ← Fallible.ofExcept (lockedInserted context row)
      let policy := requested.getD defaultPolicy
      let (version, stored) ← storeCurrentPolicy changes workflow policy
      let noted ← notePolicy requested.isSome (policyEvent context workflow version policy)
      return ({ result with version := some version }, changes ++ stored ++ noted)

def policyOnlyEvent (context : ExecutionContext) (workflow : WorkflowDefinition)
    (previous version : WorkflowVersion) : TraceEvent :=
  humanEvent context workflow "workflow.updated"
    [("version", .int workflow.currentVersion), ("version_id", .str version.id),
      ("previous_version_id", .str previous.id), ("changed", .arr [.str "concurrency"])]

/-- `workflow.update`. The universal provider works on the row that was loaded here. -/
def executeUpdate (platform : Platform) (context : ExecutionContext) (arguments : Fields) :
    Session (CallResult × List Write) := do
  let requested ← Fallible.ofExcept (requestedPolicy platform arguments)
  let locked ← lockedWorkflow context (operand platform.spelling arguments "workflow_id" "")
  let previousPolicy ← currentPolicy platform.spelling locked
  let (result, changes) ← executeScoped platform .update { definition := some locked } context
    (withoutPolicy arguments)
  let workflow := result.workflow.getD locked
  let policy := requested.getD previousPolicy
  if policy ≠ previousPolicy ∧ workflow.currentVersion = locked.currentVersion then
    let (previous, now, version) ← createConcurrencyOnlyVersion changes workflow policy context.userId
    let updated ← recordWorkflowEvent (policyOnlyEvent context now previous version)
    let noted ← recordWorkflowEvent (policyEvent context now version policy)
    return ({ result with workflow := some now, version := some version, changed := ["concurrency"] },
      changes ++ definitionChange workflow now ++ [.newVersion version, updated, noted])
  else if workflow.currentVersion ≠ locked.currentVersion then
    let (version, stored) ← storeCurrentPolicy changes workflow policy
    if policy ≠ previousPolicy then
      let noted ← recordWorkflowEvent (policyEvent context workflow version policy)
      return ({ result with version := some version, changed := result.changed ++ ["concurrency"] },
        changes ++ stored ++ [noted])
    else return ({ result with version := some version }, changes ++ stored)
  else
    let version ← currentVersionOf changes workflow
    return ({ result with version := some version }, changes)

/-- `execute` of the provider that the runtimes use. -/
def execute (platform : Platform) (capability : Capability) (context : ExecutionContext)
    (arguments : Fields) : Session (CallResult × List Write) :=
  match capability with
  | .create => executeCreate platform context arguments
  | .update => executeUpdate platform context arguments
  | _ => executeScoped platform capability {} context arguments

/-- A call through the Kernel: the Kernel commits what the provider wrote, and rolls it back when
the provider raises. -/
def call (platform : Platform) (capability : Capability) (context : ExecutionContext)
    (arguments : Fields) : Session CallResult :=
  sessionScope (execute platform capability context arguments)

end Operly.Workflow
