import Operly.Workflow.Models

/-! The database requests of the workflow sessions. A select returns committed rows; what a
session writes becomes visible, all at once, at its commit. `SELECT ... FOR UPDATE SKIP LOCKED`
passes over the rows that other sessions hold, and holds those it returns until the session
commits, rolls back or is lost; without `SKIP LOCKED` it waits for them. -/

namespace Operly.Workflow
open Python Security Concurrent Relational

inductive Write where
  | newRun (row : WorkflowRun)
  | run (loaded now : WorkflowRun)
  | newStep (row : WorkflowStepRun)
  | step (loaded now : WorkflowStepRun)
  | newAttempt (row : WorkflowStepAttempt)
  | attempt (loaded now : WorkflowStepAttempt)
  | newDefinition (row : WorkflowDefinition)
  | definition (loaded now : WorkflowDefinition)
  | newVersion (row : WorkflowVersion)
  | version (loaded now : WorkflowVersion)
  | newSchedule (row : WorkflowSchedule)
  | schedule (loaded now : WorkflowSchedule)
  | deleteSchedule (id : String)
  | newTrigger (row : WorkflowEventTrigger)
  | deleteTrigger (id : String)
  | newEvent (row : KernelEventRecord)
  | cursor (now : WorkflowEventCursor)
  | approval (id : String) (status : Kernel.ApprovalStatus) (decidedByUserId : Option String)
  deriving DecidableEq

/-- `WHERE` clauses of the selects of one run. -/
structure RunFilter where
  id : String
  leaseToken : Option String := none
  statuses : List RunStatus := []
  scope : Option Kernel.ScopeFilter := none
  deriving DecidableEq

def scopeAdmits (scope : Kernel.ScopeFilter) (row : WorkflowRun) : Bool :=
  match scope with
  | .owner user => row.scopeKind = .personal && row.workspaceId = none && row.authorityUserId = some user
  | .tenant workspace => row.scopeKind = .workspace && row.workspaceId = some workspace

def RunFilter.admits (filter : RunFilter) (row : WorkflowRun) : Bool :=
  (filter.leaseToken = none || row.leaseToken = filter.leaseToken) &&
    (filter.statuses = [] || filter.statuses.contains row.status) &&
    (match filter.scope with
      | none => true
      | some scope => scopeAdmits scope row)

structure EventKey where
  createdAt : Int
  id : String
  deriving DecidableEq

def EventKey.lt (first second : EventKey) : Bool :=
  first.createdAt < second.createdAt ||
    (first.createdAt = second.createdAt && first.id < second.id)

def KernelEventRecord.key (event : KernelEventRecord) : EventKey := ⟨event.createdAt, event.id⟩

/-- A Kernel call of a step; the identifiers say which attempt it is made for. -/
structure KernelCall where
  stepRunId : String
  attemptId : String
  context : ExecutionContext
  request : Kernel.RuntimeRequest
  deriving DecidableEq

inductive KernelRaise where
  | execution (message code : String) (approvalId runId : Option String)
  | other (message : String)
  deriving DecidableEq

/-- What a Kernel call returns or raises, and whether it rolled back the shared session. -/
structure KernelAnswer where
  rolledBack : Bool
  outcome : Except KernelRaise Kernel.RuntimeResponse

structure AuthorityRequest where
  scopeKind : ScopeKind
  workspaceId : Option String
  userId : String
  conversationId : String
  metadata : Fields
  deriving DecidableEq

inductive Op where
  | now
  | uuid
  | run (filter : RunFilter)
  | definition (id : String)
  | version (id : String)
  | currentVersion (workflowId : String) (version : Nat)
  | scheduleOf (workflowId : String)
  | trigger (id : String)
  | triggerByPattern (workflowId eventPattern : String)
  | stepRuns (runId : String)
  | stepRun (runId stepKey : String)
  | stepById (id : String)
  | attempt (stepRunId : String) (attempt : Nat)
  | attemptById (id : String)
  | failedStep (runId : String)
  | approval (id : String)
  | runByKey (key : DedupeKey)
  | authority (request : AuthorityRequest)
  | kernel (call : KernelCall)
  | waitingForUpdate (limit : Nat)
  | expiredForUpdate (now : Int) (limit : Nat)
  | dueForUpdate (now : Int) (limit : Nat)
  | candidates (now : Int) (limit : Nat)
  | definitionForUpdate (id : String)
  | lockDefinition (id : String)
  | active (workflowId : String) (now : Int)
  | queuedForUpdate (workflowId : String) (now : Int) (limit : Nat)
  | cursorForUpdate
  | eventsAfter (key : EventKey) (limit : Nat)
  | triggersFor (event : KernelEventRecord)
  | commit (changes : List Write)
  | rollback

inductive Flushed where
  | committed
  | integrityError
  deriving DecidableEq

def workflowDb : Interface where
  Op := Op
  Answer
    | .now => Int
    | .uuid => String
    | .run _ => Option WorkflowRun
    | .definition _ => Option WorkflowDefinition
    | .version _ => Option WorkflowVersion
    | .currentVersion _ _ => Option WorkflowVersion
    | .scheduleOf _ => Option WorkflowSchedule
    | .trigger _ => Option WorkflowEventTrigger
    | .triggerByPattern _ _ => Option WorkflowEventTrigger
    | .stepRuns _ => List WorkflowStepRun
    | .stepRun _ _ => Option WorkflowStepRun
    | .stepById _ => Option WorkflowStepRun
    | .attempt _ _ => Option WorkflowStepAttempt
    | .attemptById _ => Option WorkflowStepAttempt
    | .failedStep _ => Option WorkflowStepRun
    | .approval _ => Option Kernel.KernelApproval
    | .runByKey _ => Option String
    | .authority _ => Except WorkflowError ExecutionContext
    | .kernel _ => KernelAnswer
    | .waitingForUpdate _ => List WorkflowRun
    | .expiredForUpdate _ _ => List WorkflowRun
    | .dueForUpdate _ _ => List WorkflowSchedule
    | .candidates _ _ => List String
    | .definitionForUpdate _ => Option WorkflowDefinition
    | .lockDefinition _ => Option WorkflowDefinition
    | .active _ _ => Nat
    | .queuedForUpdate _ _ _ => List WorkflowRun
    | .cursorForUpdate => Option WorkflowEventCursor
    | .eventsAfter _ _ => List KernelEventRecord
    | .triggersFor _ => List (WorkflowEventTrigger × WorkflowDefinition)
    | .commit _ => Flushed
    | .rollback => Unit

abbrev Session (α : Type) := Fallible workflowDb WorkflowError α

abbrev query (op : Op) : Session (workflowDb.Answer op) := Fallible.ask (show workflowDb.Op from op)

def commit (changes : List Write) : Session Unit := do
  match ← query (.commit changes) with
  | .committed => pure ()
  | .integrityError => Fallible.raise .integrity

/-- `session_scope()`: what the body wrote is committed at its end, and rolled back when it
raises. -/
def sessionScope {α : Type} (body : Session (α × List Write)) : Session α :=
  ExceptT.mk do
    match ← (body >>= fun result => commit result.2 >>= fun _ => pure result.1).run with
    | .ok value => pure (.ok value)
    | .error error => do
        Program.ask (show workflowDb.Op from .rollback)
        pure (.error error)

end Operly.Workflow
