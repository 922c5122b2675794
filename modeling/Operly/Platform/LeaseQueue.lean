import Mathlib.Data.List.Sort
import Operly.Concurrent.Program
import Operly.Python.Datetime
import Operly.Relational.Table

/-! The lease-based queues of the infrastructure workers: platform jobs, outbox events and event
deliveries. -/

namespace Operly.Platform
open Python Relational Concurrent

inductive QueueStatus where
  | fresh
  | retry
  | leased
  | done
  | dead
  deriving DecidableEq, Repr

/-- A row of one of the three queues. `maxAttempts` is the column of a job, and what the policy of
its subscription says of a delivery. -/
structure QueueRow where
  id : String
  status : QueueStatus := .fresh
  priority : Int := 100
  attempts : Nat := 0
  maxAttempts : Int
  availableAt : Int
  createdAt : Int
  lockedBy : Option String := none
  leaseExpiresAt : Option Int := none
  heartbeatAt : Option Int := none
  startedAt : Option Int := none
  finishedAt : Option Int := none
  lastError : Option String := none
  result : String := "{}"
  responseStatus : Option Int := none
  responseDigest : Option String := none
  deriving DecidableEq

inductive QueueError where
  | permission (message : String)
  | lookup (message : String)
  deriving DecidableEq

structure Outcome where
  result : Option String := none
  responseStatus : Option Int := none
  responseDigest : Option String := none

structure QueueService where
  statusText : QueueStatus → String
  /-- Jobs are taken by priority before they are taken by age. -/
  prioritized : Bool
  /-- Jobs record when they were started and last heard of. -/
  tracked : Bool
  batchCap : Int
  leaseFloor : Int
  leaseCeiling : Int
  errorCap : Nat
  /-- The attempts that `fail` allows, from what the row or its subscription asks for. -/
  limit : Int → Int
  /-- A dead job carries the time of its end. -/
  stampsDead : Bool
  /-- A failed delivery forgets the last response. -/
  clearsResponse : Bool
  missing : QueueError
  refused : QueueError
  /-- Whether the worker calls `fail` before or after it has rolled its session back, with or
  without `permanent`. -/
  fails : (recovering permanent : Bool) → Bool

/-- `max(low, min(value, high))` -/
def clamp (low high value : Int) : Int := max low (min value high)

namespace QueueService

def jobs : QueueService where
  statusText
    | .fresh => "queued"
    | .retry => "retry"
    | .leased => "running"
    | .done => "completed"
    | .dead => "failed"
  prioritized := true
  tracked := true
  batchCap := 100
  leaseFloor := 30
  leaseCeiling := 900
  errorCap := 8000
  limit maxAttempts := maxAttempts
  stampsDead := true
  clearsResponse := false
  missing := .permission "Platform job lease is not owned by this worker"
  refused := .permission "Platform job lease is not owned by this worker"
  fails recovering permanent := recovering != permanent

def events : QueueService where
  statusText
    | .fresh => "pending"
    | .retry => "retry"
    | .leased => "leased"
    | .done => "delivered"
    | .dead => "dead_letter"
  prioritized := false
  tracked := false
  batchCap := 200
  leaseFloor := 15
  leaseCeiling := 600
  errorCap := 4000
  limit _ := 10
  stampsDead := false
  clearsResponse := false
  missing := .lookup "Digital event not found"
  refused := .permission "Digital event lease is not owned by this worker"
  fails recovering permanent := recovering && !permanent

def deliveries : QueueService where
  statusText
    | .fresh => "pending"
    | .retry => "retry"
    | .leased => "delivering"
    | .done => "delivered"
    | .dead => "dead_letter"
  prioritized := false
  tracked := false
  batchCap := 200
  leaseFloor := 30
  leaseCeiling := 900
  errorCap := 4000
  limit maxAttempts := clamp 1 50 maxAttempts
  stampsDead := false
  clearsResponse := true
  missing := .permission "Event delivery lease is not owned by this worker"
  refused := .permission "Event delivery lease is not owned by this worker"
  fails recovering permanent := !recovering || !permanent

variable (service : QueueService)

/-- The rows that `lease_batch` selects: waiting ones, and leased ones whose lease has run out. -/
def due (now : Int) (row : QueueRow) : Bool :=
  row.availableAt ≤ now && (row.status = .fresh || row.status = .retry ||
    (row.status = .leased && row.leaseExpiresAt.any (· < now)))

def precedes (first second : QueueRow) : Prop :=
  let rank (row : QueueRow) : Int := if service.prioritized then row.priority else 0
  rank first < rank second ∨ rank first = rank second ∧
    (first.availableAt < second.availableAt ∨ first.availableAt = second.availableAt ∧
      first.createdAt ≤ second.createdAt)

instance (first second : QueueRow) : Decidable (service.precedes first second) := by
  unfold precedes
  infer_instance

/-- The ids of the batch: `locked` are the rows that other transactions hold, which
`FOR UPDATE SKIP LOCKED` passes by. -/
def batch (table : Table QueueRow String QueueRow.id) (now limit : Int) (locked : List String) :
    List String :=
  let rows := table.select fun row => due now row && !locked.contains row.id
  ((rows.insertionSort service.precedes).take (clamp 1 service.batchCap limit).toNat).map (·.id)

def lease (worker : String) (now leaseSeconds : Int) (row : QueueRow) : QueueRow :=
  { row with
    status := .leased
    lockedBy := some worker
    leaseExpiresAt := some (now +
      clamp service.leaseFloor service.leaseCeiling leaseSeconds * Time.second)
    heartbeatAt := if service.tracked then some now else row.heartbeatAt
    startedAt := if service.tracked then row.startedAt.or (some now) else row.startedAt
    attempts := row.attempts + 1 }

def owned (worker : String) : Option QueueRow → Except QueueError QueueRow
  | none => .error service.missing
  | some row => if row.status ≠ .leased ∨ row.lockedBy ≠ some worker then .error service.refused
      else .ok row

def completed (now : Int) (outcome : Outcome) (row : QueueRow) : QueueRow :=
  { row with
    status := .done
    result := outcome.result.getD row.result
    responseStatus := outcome.responseStatus.or row.responseStatus
    responseDigest := outcome.responseDigest.or row.responseDigest
    finishedAt := some now
    lockedBy := none
    leaseExpiresAt := none
    lastError := none }

def complete (worker : String) (now : Int) (outcome : Outcome) (row : Option QueueRow) :
    Except QueueError QueueRow :=
  (service.owned worker row).map (completed now outcome)

def released (error : String) (row : QueueRow) : QueueRow :=
  { row with
    lastError := some (String.ofList (error.toList.take service.errorCap))
    responseStatus := if service.clearsResponse then none else row.responseStatus
    lockedBy := none
    leaseExpiresAt := none }

def failed (now : Int) (error : String) (retryAfterSeconds : Int) (permanent : Bool)
    (row : QueueRow) : QueueRow :=
  if permanent = true ∨ service.limit row.maxAttempts ≤ row.attempts then
    { service.released error row with
      status := .dead
      finishedAt := if service.stampsDead then some now else row.finishedAt }
  else
    { service.released error row with
      status := .retry
      availableAt := now + clamp 1 86400 retryAfterSeconds * Time.second }

def fail (worker : String) (now : Int) (error : String) (retryAfterSeconds : Int)
    (permanent : Bool) (row : Option QueueRow) : Except QueueError QueueRow :=
  (service.owned worker row).map (service.failed now error retryAfterSeconds permanent)

end QueueService

/-! ### Sessions -/

/-- A column of a flush: only what the session changed in its copy is written. -/
def flushColumn {β : Type} [DecidableEq β] (column : QueueRow → β) (copy updated current : QueueRow) : β :=
  if column updated = column copy then column current else column updated

def flush (copy updated current : QueueRow) : QueueRow :=
  { current with
    status := flushColumn (·.status) copy updated current
    availableAt := flushColumn (·.availableAt) copy updated current
    lockedBy := flushColumn (·.lockedBy) copy updated current
    leaseExpiresAt := flushColumn (·.leaseExpiresAt) copy updated current
    finishedAt := flushColumn (·.finishedAt) copy updated current
    lastError := flushColumn (·.lastError) copy updated current
    result := flushColumn (·.result) copy updated current
    responseStatus := flushColumn (·.responseStatus) copy updated current
    responseDigest := flushColumn (·.responseDigest) copy updated current }

/-- The session in which a worker processes a row: the copy that its identity map holds, and
whether the handler has failed and the copy was read anew. -/
structure Session where
  copy : QueueRow
  recovering : Bool := false

inductive Entry where
  | leased (worker : String) (ids : List String)
  | read (worker : String) (id : String)
  | finished (worker : String) (id : String) (holder : Option String)
  deriving DecidableEq

structure QueueState where
  table : Table QueueRow String QueueRow.id
  /-- The ids of the batch that a worker has still to process. -/
  todo : String → List String
  session : String → Option Session
  log : List Entry

def QueueRow.holder (row : QueueRow) : Option String :=
  if row.status = .leased then row.lockedBy else none

def QueueState.holder (state : QueueState) (id : String) : Option String :=
  (state.table.find id).bind QueueRow.holder

inductive Action where
  | enqueue (row : QueueRow)
  | lease (worker : String) (now limit leaseSeconds : Int) (locked : List String)
  | start (worker : String)
  | complete (worker : String) (now : Int) (outcome : Outcome)
  | fail (worker : String) (now : Int) (error : String) (retryAfterSeconds : Int) (permanent : Bool)
  | recover (worker : String)
  | crash (worker : String)

namespace QueueState

variable (service : QueueService) (state : QueueState)

def empty : QueueState := ⟨Table.empty, fun _ => [], fun _ => none, []⟩

@[simps -fullyApplied table session log]
def setTodo (worker : String) (ids : List String) : QueueState :=
  { state with todo := Function.update state.todo worker ids }

@[simps -fullyApplied table todo log]
def setSession (worker : String) (session : Option Session) : QueueState :=
  { state with session := Function.update state.session worker session }

@[simps -fullyApplied table todo session]
def record (entry : Entry) : QueueState := { state with log := entry :: state.log }

def insertable (row : QueueRow) : Bool :=
  row.status = .fresh && row.attempts = 0 && row.lockedBy = none && 1 ≤ service.limit row.maxAttempts &&
    (state.table.find row.id).isNone

def leaseBatch (worker : String) (now limit leaseSeconds : Int) (locked : List String) : QueueState :=
  let ids := service.batch state.table now limit locked
  let table := state.table.modify
    (fun row => if row.id ∈ ids then service.lease worker now leaseSeconds row else row)
    (fun row => by by_cases taken : row.id ∈ ids <;> simp [taken, QueueService.lease])
  (({ state with table := table }).setTodo worker ids).record (.leased worker ids)

def load (worker id : String) (recovering : Bool) : QueueState :=
  match state.table.find id with
  | none => state.setSession worker none
  | some row =>
      if row.status ≠ .leased ∨ row.lockedBy ≠ some worker then state.setSession worker none
      else (state.setSession worker (some ⟨row, recovering⟩)).record (.read worker id)

def finish (worker : String) (copy updated : QueueRow) : QueueState :=
  match state.table.find copy.id with
  | none => state.setSession worker none
  | some current =>
      (({ state with table := state.table.replace (flush copy updated current) }).setSession worker
        none).record (.finished worker copy.id (state.holder copy.id))

/-- A call of `complete` or `fail`. Where it raises, the session goes on to roll back. -/
def conclude (worker : String) (copy : QueueRow) : Except QueueError QueueRow → QueueState
  | .ok updated => state.finish worker copy updated
  | .error _ => state

def step : Action → Option QueueState
  | .enqueue row =>
      if state.insertable service row then some { state with table := state.table.insert row } else none
  | .lease worker now limit leaseSeconds locked =>
      if state.todo worker = [] ∧ (state.session worker).isNone then
        some (state.leaseBatch service worker now limit leaseSeconds locked)
      else none
  | .start worker =>
      match state.todo worker, state.session worker with
      | id :: rest, none => some ((state.setTodo worker rest).load worker id false)
      | _, _ => none
  | .complete worker now outcome =>
      match state.session worker with
      | some ⟨copy, false⟩ =>
          some (state.conclude worker copy (service.complete worker now outcome (some copy)))
      | _ => none
  | .fail worker now error retryAfterSeconds permanent =>
      match state.session worker with
      | some ⟨copy, recovering⟩ =>
          if service.fails recovering permanent then
            some (state.conclude worker copy
              (service.fail worker now error retryAfterSeconds permanent (some copy)))
          else none
      | none => none
  | .recover worker =>
      match state.session worker with
      | some ⟨copy, false⟩ => some (state.load worker copy.id true)
      | _ => none
  | .crash worker => some ((state.setTodo worker []).setSession worker none)

end QueueState

end Operly.Platform
