import Operly.Workflow.Concurrency

/-! `ConcurrentWorkflowScheduler`: the four transactions of a tick. -/

namespace Operly.Workflow
open Python Security Concurrent
open Kernel (textOrNull)

structure SchedulerSettings where
  platform : Platform
  leaseSeconds : Nat
  maxWorkers : Nat

def SchedulerSettings.leaseEnd (settings : SchedulerSettings) (now : Int) : Int :=
  now + settings.leaseSeconds * Time.second

def systemEvent (run : WorkflowRun) (eventType actorId : String) (payload : Fields) : TraceEvent where
  workspaceId := run.workspaceId
  workflowId := run.workflowId
  workflowRunId := some run.id
  eventType := eventType
  actorId := some actorId
  ownerUserId := run.authorityUserId
  principalId := if isSet run.authorityUserId then userPrincipal run.authorityUserId else none
  payload := payload

def releasable (now : Int) (run : WorkflowRun) (step : WorkflowStepRun) : Session Bool := do
  if run.status = .waiting ∧ step.waitUntil.any (· ≤ now) then return true
  else if run.status = .waitingApproval ∧ isSet step.approvalId then
    match ← query (.approval (step.approvalId.getD "")) with
    | some approval => return approval.status ≠ .pending
    | none => return false
  else return false

def releaseRun (now : Int) (run : WorkflowRun) : Session (List Write) := do
  let queued := { run with status := .queued }
  match run.currentStepKey with
  | none => return [.run run queued]
  | some key =>
      match ← query (.stepRun run.id key) with
      | none => return [.run run queued]
      | some step => return if ← releasable now run step then [.run run queued] else []

def forEach {α : Type} (body : α → Session (List Write)) : List α → Session (List Write)
  | [] => return []
  | row :: rest => do
      let changes ← body row
      let others ← forEach body rest
      return changes ++ others

def releaseDecided : Session Unit := do
  let now : Int ← query .now
  sessionScope do
    let waiting ← query (.waitingForUpdate 100)
    let changes ← forEach (releaseRun now) waiting
    return ((), changes)

/-- `_current_attempt` of the step that a run stands at. -/
def standingAttempt (run : WorkflowRun) : Session (Option WorkflowStepAttempt) := do
  match ← currentStep run with
  | none => return none
  | some step => attemptOf step

def WorkflowRun.orphaned (run : WorkflowRun) (code message : String) (now : Int) : WorkflowRun :=
  { run with
    status := .orphaned, errorCode := some code, errorMessage := some message, finishedAt := some now
    leaseToken := none, leaseUntil := none }

def orphanRun (code message : String) (run : WorkflowRun) : Session (List Write) := do
  let workflow ← query (.definition run.workflowId)
  let attempt ← standingAttempt run
  let now ← query .now
  let ended := attempt.toList.flatMap fun attempt =>
    if attempt.status = .running then
      [Write.attempt attempt { attempt with
        status := .orphaned, errorCode := some code, errorMessage := some message
        finishedAt := some now }]
    else []
  match workflow with
  | none => return .run run (run.orphaned code message now) :: ended
  | some _ =>
      let event ← recordWorkflowEvent
        { systemEvent run "workflow.run.orphaned" "operly:scheduler"
            [("code", .str code), ("current_step_key", textOrNull run.currentStepKey),
              ("attempt", (attempt.map fun attempt => Json.int attempt.attempt).getD .null)] with
          stepAttemptId := attempt.map (·.id), capabilityId := attempt.map (·.capabilityId)
          kernelRunId := attempt.bind (·.kernelRunId), approvalId := attempt.bind (·.approvalId) }
      return .run run (run.orphaned code message now) :: ended ++ [event]

def markOrphanedRuns : Session Unit := do
  let now : Int ← query .now
  sessionScope do
    let rows ← query (.expiredForUpdate now 50)
    let changes ← forEach (orphanRun "execution_outcome_uncertain"
      "The worker lease expired during an in-flight step; Operly will not replay it automatically.") rows
    return ((), changes)

def scheduleEvent (workflow : WorkflowDefinition) (eventType : String) (payload : Fields) : TraceEvent where
  workspaceId := workflow.workspaceId
  workflowId := workflow.id
  eventType := eventType
  actorId := some "operly:scheduler"
  ownerUserId := workflow.ownerUserId
  principalId := if isSet workflow.ownerUserId then userPrincipal workflow.ownerUserId else none
  payload := payload

def WorkflowSchedule.fired (schedule : WorkflowSchedule) (scheduledFor : Int) (next : Option Int) :
    WorkflowSchedule :=
  { schedule with
    lastFiredAt := some scheduledFor, nextRunAt := next, enabled := next.isSome && schedule.enabled
    leaseToken := none, leaseUntil := none }

def WorkflowSchedule.stopped (schedule : WorkflowSchedule) : WorkflowSchedule :=
  { schedule with enabled := false, leaseToken := none, leaseUntil := none }

def occurrencePayload (schedule : WorkflowSchedule) (scheduledFor : Int) : Fields :=
  [("schedule_id", .str schedule.id), ("scheduled_for", .str (isoformat scheduledFor))]

def queueOccurrence (workflow : WorkflowDefinition) (schedule : WorkflowSchedule) (scheduledFor : Int) :
    Session (Bool × List Write) := do
  match ← query (.runByKey (.schedule schedule.id scheduledFor)) with
  | some _ => return (true, [])
  | none =>
      let (_, changes) ← queueWorkflowRun workflow
        { triggerType := "schedule", triggerPayload := occurrencePayload schedule scheduledFor
          dedupeKey := some (.schedule schedule.id scheduledFor), scheduledFor := some scheduledFor }
      return (false, changes)

def fireSchedule (platform : Platform) (workflow : WorkflowDefinition) (schedule : WorkflowSchedule)
    (scheduledFor : Int) : Session (List Write) := do
  match schedule.scheduleJson with
  | none => Fallible.raise (.value "Expecting value")
  | some spec =>
      let next ← Fallible.ofExcept (nextScheduleTime platform spec scheduledFor)
      let (deduplicated, queued) ← queueOccurrence workflow schedule scheduledFor
      let fired ← recordWorkflowEvent (scheduleEvent workflow "workflow.schedule.fired"
        (occurrencePayload schedule scheduledFor ++
          [("deduplicated", .bool deduplicated), ("exhausted", .bool next.isNone),
            ("next_run_at", textOrNull (next.map isoformat))]))
      let changes := scheduleChange schedule (schedule.fired scheduledFor next) ++ queued ++ [fired]
      match next with
      | some _ => return changes
      | none =>
          let exhausted ← recordWorkflowEvent (scheduleEvent workflow "workflow.schedule.exhausted"
            (occurrencePayload schedule scheduledFor))
          return definitionChange workflow { workflow with status := .disabled } ++ changes ++ [exhausted]

def enqueueSchedule (platform : Platform) (schedule : WorkflowSchedule) : Session (List Write) := do
  match ← query (.definition schedule.workflowId), schedule.nextRunAt with
  | some workflow, some scheduledFor =>
      if workflow.status = .enabled then fireSchedule platform workflow schedule scheduledFor
      else return scheduleChange schedule schedule.stopped
  | _, _ => return scheduleChange schedule schedule.stopped

def enqueueDueSchedules (platform : Platform) : Session Unit := do
  let now : Int ← query .now
  sessionScope do
    let due ← query (.dueForUpdate now 25)
    let changes ← forEach (enqueueSchedule platform) due
    return ((), changes)

def workflowPolicy (platform : Platform) (workflow : WorkflowDefinition) : Session ConcurrencyPolicy := do
  match ← query (.currentVersion workflow.id workflow.currentVersion) with
  | none => return defaultPolicy
  | some version =>
      Fallible.ofExcept (policyFromSnapshot platform.spelling (loads version.snapshotJson))

structure Claim where
  runId : String
  leaseToken : String
  deriving DecidableEq

def WorkflowRun.suppressed (run : WorkflowRun) (now : Int) : WorkflowRun :=
  { run with
    status := .cancelled, errorCode := some "concurrency_suppressed"
    errorMessage := some "This run was suppressed because the workflow concurrency limit was full."
    finishedAt := some now, leaseToken := none, leaseUntil := none }

/-- `_suppress_overflow_run` -/
def suppressRun (policy : ConcurrencyPolicy) (now : Int) (run : WorkflowRun) : Session (List Write) := do
  let event ← recordWorkflowEvent (systemEvent run "workflow.run.suppressed" "operly:scheduler"
    [("reason", .str "concurrency_limit"), ("max_concurrent_runs", .int policy.maxConcurrentRuns),
      ("overflow_policy", .str policy.overflowPolicy.value), ("trigger_type", .str run.triggerType)])
  return [.run run (run.suppressed now), event]

/-- The slots of one workflow: how many runs it may start now, of those that the workers may. -/
structure Slots where
  policy : ConcurrencyPolicy
  available : Nat
  budget : Nat

def dropOverflow (slots : Slots) (now : Int) (index : Nat) (run : WorkflowRun) : Session (List Write) :=
  if 0 < slots.policy.maxConcurrentRuns ∧ slots.available ≤ index ∧ slots.policy.overflowPolicy = .drop then
    suppressRun slots.policy now run
  else pure []

def claimQueued (settings : SchedulerSettings) (now : Int) (slots : Slots) :
    Nat → List WorkflowRun → Session (List Claim × List Write)
  | _, [] => return ([], [])
  | index, run :: rest => do
      if index < slots.budget then
        let token ← query .uuid
        let leased := { run with leaseToken := some token, leaseUntil := some (settings.leaseEnd now) }
        let (claims, changes) ← claimQueued settings now slots (index + 1) rest
        return (⟨run.id, token⟩ :: claims, .run run leased :: changes)
      else
        let dropped ← dropOverflow slots now index run
        let (claims, changes) ← claimQueued settings now slots (index + 1) rest
        return (claims, dropped ++ changes)

def claimWorkflow (settings : SchedulerSettings) (now : Int) (remaining : Nat) (workflowId : String) :
    Session (List Claim × List Write) := do
  match ← query (.definitionForUpdate workflowId) with
  | none => return ([], [])
  | some workflow =>
      let policy ← workflowPolicy settings.platform workflow
      let active : Nat ← query (.active workflow.id now)
      let available := if policy.maxConcurrentRuns = 0 then remaining
        else (policy.maxConcurrentRuns - active).toNat
      let queued ← query (.queuedForUpdate workflow.id now (max 50 (min 512 (remaining * 16))))
      claimQueued settings now ⟨policy, available, min remaining available⟩ 0 queued

def claimWorkflows (settings : SchedulerSettings) (now : Int) (limit : Nat) :
    List String → List Claim → Session (List Claim × List Write)
  | [], claims => return (claims, [])
  | workflowId :: rest, claims => do
      if limit ≤ claims.length then return (claims, [])
      else
        let (more, changes) ← claimWorkflow settings now (limit - claims.length) workflowId
        let (all, others) ← claimWorkflows settings now limit rest (claims ++ more)
        return (all, changes ++ others)

def candidateLimit (limit : Nat) : Nat := max 25 (min (limit * 8) 256)

def claimRuns (settings : SchedulerSettings) (limit : Nat) : Session (List Claim) := do
  if limit < 1 then return []
  else
    let now : Int ← query .now
    sessionScope do
      let candidates ← query (.candidates now (candidateLimit limit))
      claimWorkflows settings now limit candidates []

/-- `tick`, up to the workers it starts for its claims. -/
def tick (settings : SchedulerSettings) (active : Nat) : Session (List Claim) := do
  releaseDecided
  markOrphanedRuns
  enqueueDueSchedules settings.platform
  let capacity := settings.maxWorkers - active
  if capacity < 1 then return []
  else claimRuns settings (min capacity 25)

end Operly.Workflow
