import Operly.Kernel.Lineage
import Operly.Workflow.Engine
import Operly.Workflow.Triggers

/-! Chains of events and runs: what a run says of its depth, and what its events say. -/

namespace Operly.Workflow
open Python Security Concurrent Fallible

abbrev Steps := List (Sigma workflowDb.Answer)

def readEvents (steps : Steps) : List KernelEventRecord :=
  steps.flatMap fun step => match step with
    | ⟨.eventsAfter _ _, (events : List KernelEventRecord)⟩ => events
    | _ => []

def written (steps : Steps) : List Write :=
  steps.flatMap fun step => match step with
    | ⟨.commit changes, (flushed : Flushed)⟩ => if flushed = .committed then changes else []
    | _ => []

theorem readEvents_append (early late : Steps) :
    readEvents (early ++ late) = readEvents early ++ readEvents late := List.flatMap_append ..

theorem written_append (early late : Steps) : written (early ++ late) = written early ++ written late :=
  List.flatMap_append ..

def Inner : Op → Prop
  | .eventsAfter _ _ => False
  | .commit _ => False
  | _ => True

def Uncommitted : Op → Prop
  | .commit _ => False
  | _ => True

theorem Inner.uncommitted {op : Op} (inner : Inner op) : Uncommitted op := by
  cases op with
  | commit => exact inner
  | _ => trivial

variable {steps : Steps} {event : KernelEventRecord} {workflow : WorkflowDefinition} {settings : DispatcherSettings}
  {run : WorkflowRun}

theorem written_uncommitted (uncommitted : ∀ step ∈ steps, Uncommitted step.1) : written steps = [] := by
  rw [written, List.flatMap_eq_nil_iff]
  rintro ⟨op, answer⟩ member
  cases op with
  | commit => exact (uncommitted _ member).elim
  | _ => rfl

theorem inner_steps (inner : ∀ step ∈ steps, Inner step.1) : readEvents steps = [] ∧ written steps = [] := by
  refine ⟨?_, written_uncommitted fun step member => (inner step member).uncommitted⟩
  rw [readEvents, List.flatMap_eq_nil_iff]
  rintro ⟨op, answer⟩ member
  cases op with
  | eventsAfter => exact (inner _ member).elim
  | _ => rfl

/-! ### What a tick of the dispatcher queues -/

structure Queued (settings : DispatcherSettings) (event : KernelEventRecord) (run : WorkflowRun) : Prop where
  type : run.triggerType = "event"
  from_ : ∃ depth trigger, eventDepth (eventPayload event) = .ok depth ∧ depth < settings.maxDepth ∧
    run.dedupeKey = .event trigger event.id ∧
    run.triggerPayload = (Json.obj [("event", .obj (eventEnvelope event)), ("trigger_id", .str trigger),
      ("depth", .int (depth + 1))]).sortKeys

abbrev Queues (code : Session (List Write)) (queued : WorkflowRun → Prop) : Prop :=
  code.Behaves Inner (fun changes => ∀ run, .newRun run ∈ changes → queued run) fun _ => True

theorem recordWorkflowEvent_inner {event : TraceEvent} :
    (recordWorkflowEvent event).Behaves Inner (fun write => ∃ row, write = .newEvent row)
      fun _ => True := by
  unfold recordWorkflowEvent
  split
  · apply Behaves.bind_ask trivial
    intro createdAt
    apply Behaves.bind_ask trivial
    intro id
    exact Behaves.pure ⟨_, rfl⟩
  · exact Behaves.raise trivial

theorem dedupeKeyFor_inner {key : DedupeKey} :
    (dedupeKeyFor workflow (some key)).Behaves Inner (fun taken => taken = key) fun _ => True :=
  Behaves.pure rfl

theorem queueWorkflowRun_inner {request : RunRequest} {key : DedupeKey} (keyed : request.dedupeKey = some key) :
    (queueWorkflowRun workflow request).Behaves Inner
      (fun result => ∀ run, .newRun run ∈ result.2 → run.triggerType = request.triggerType ∧
        run.dedupeKey = key ∧ run.triggerPayload = (Json.obj request.triggerPayload).sortKeys)
      fun _ => True := by
  unfold queueWorkflowRun
  apply Behaves.bind_ask trivial
  intro version
  cases version with
  | none => exact Behaves.raise trivial
  | some version =>
    apply Behaves.bind_ofExcept (fun _ _ => trivial)
    intro authority _
    rw [keyed]
    apply Behaves.bind dedupeKeyFor_inner
    rintro taken rfl
    apply Behaves.bind_ask trivial
    intro id
    apply Behaves.bind_ask trivial
    intro createdAt
    apply Behaves.bind recordWorkflowEvent_inner
    rintro _ ⟨row, rfl⟩
    apply Behaves.pure
    intro run member
    rcases List.mem_cons.mp member with same | other
    · cases same
      exact ⟨rfl, rfl, rfl⟩
    · simp at other

theorem dispatchTrigger_queues {depth : Nat} {trigger : WorkflowEventTrigger}
    (deep : eventDepth (eventPayload event) = .ok depth) (below : depth < settings.maxDepth) :
    Queues (dispatchTrigger settings event depth trigger workflow) (Queued settings event) := by
  unfold dispatchTrigger
  generalize triggerTakes settings event trigger = taken
  apply Behaves.bind_ofExcept (fun _ _ => trivial)
  intro takes _
  cases takes with
  | false => exact Behaves.pure (by simp)
  | true =>
    apply Behaves.bind_ask trivial
    intro existing
    cases existing with
    | some id => exact Behaves.pure (by simp)
    | none =>
      apply Behaves.bind (queueWorkflowRun_inner rfl)
      rintro ⟨queued, changes⟩ runs
      apply Behaves.pure
      intro run member
      obtain ⟨type, key, payload⟩ := runs run member
      exact ⟨type, depth, trigger.id, deep, below, key, payload⟩

theorem dispatchTriggers_queues {depth : Nat} (deep : eventDepth (eventPayload event) = .ok depth)
    (below : depth < settings.maxDepth) (rows : List (WorkflowEventTrigger × WorkflowDefinition)) :
    Queues (dispatchTriggers settings event depth rows) (Queued settings event) := by
  induction rows with
  | nil =>
    rw [dispatchTriggers]
    exact Behaves.pure (by simp)
  | cons row rest ih =>
    cases row with | mk trigger workflow =>
    rw [dispatchTriggers]
    apply Behaves.bind (dispatchTrigger_queues deep below)
    intro changes first
    apply Behaves.bind ih
    intro others second
    apply Behaves.pure
    intro run member
    rcases List.mem_append.mp member with early | late
    · exact first run early
    · exact second run late

theorem triggersForEvent_inner : (triggersForEvent event).Behaves Inner (fun _ => True) fun _ => True := by
  unfold triggersForEvent
  apply Behaves.ite
  · exact fun _ => Behaves.pure trivial
  · intro _
    apply Behaves.ite
    · exact fun _ => Behaves.pure trivial
    · intro _
      have asked : Behaves Inner (fun _ => True) (fun _ => True) (query (.triggersFor event)) :=
        Behaves.ask trivial fun _ => trivial
      exact asked

theorem dispatchEvent_queues : Queues (dispatchEvent settings event) (Queued settings event) := by
  unfold dispatchEvent
  apply Behaves.bind_ofExcept (fun _ _ => trivial)
  intro depth deep
  split
  · next taken =>
    have below : depth < settings.maxDepth := by
      simp only [triggerable, Bool.and_eq_true, decide_eq_true_eq] at taken
      exact taken.1
    apply Behaves.bind triggersForEvent_inner
    exact fun rows _ => dispatchTriggers_queues deep below rows
  · exact Behaves.pure (by simp)

theorem dispatchEvents_queues (events : List KernelEventRecord) :
    Queues (dispatchEvents settings events) fun run => ∃ event ∈ events, Queued settings event run := by
  induction events with
  | nil => exact Behaves.pure (by simp)
  | cons event rest ih =>
    apply Behaves.bind dispatchEvent_queues
    intro changes first
    apply Behaves.bind ih
    intro others second
    apply Behaves.pure
    intro run member
    rcases List.mem_append.mp member with early | late
    · exact ⟨event, List.mem_cons_self .., first run early⟩
    · obtain ⟨later, within, queued⟩ := second run late
      exact ⟨later, List.mem_cons_of_mem _ within, queued⟩

theorem sessionScope_trace {α : Type} {body : Session (α × List Write)} {result : Except WorkflowError α}
    (run : Program.Trace (sessionScope body).run steps result) :
    (∃ early late value flushed, steps = early ++ ⟨.commit value.2, flushed⟩ :: late ∧
        Program.Trace body.run early (.ok value) ∧ ∀ step ∈ late, step.1 = .rollback) ∨
      ∃ early error, steps = early ++ [⟨.rollback, ()⟩] ∧ Program.Trace body.run early (.error error) := by
  obtain ⟨within, after, outcome, rfl, scope, rest⟩ := Program.Trace.bind_iff.mp run
  have closed : ∀ step ∈ after, step.1 = .rollback := by
    cases outcome with
    | ok value =>
      obtain ⟨rfl, -⟩ := Program.Trace.done_iff.mp rest
      simp
    | error error =>
      obtain ⟨_, late, _, rfl, asked, done⟩ := Program.Trace.bind_iff.mp rest
      obtain rfl := Program.Trace.ask_iff.mp asked
      obtain ⟨rfl, -⟩ := Program.Trace.done_iff.mp done
      intro step member
      rw [List.append_nil, List.mem_singleton] at member
      rw [member]
  rcases trace_bind.mp scope with ⟨early, middle, value, rfl, body, rest'⟩ | ⟨error, rfl, body⟩
  · left
    have committing : ∃ flushed : Flushed, middle = [⟨.commit value.2, flushed⟩] := by
      have flush : ∀ {steps : Steps} {result : Except WorkflowError Unit},
          Program.Trace (commit value.2).run steps result →
          ∃ flushed : Flushed, steps = [⟨.commit value.2, flushed⟩] := by
        intro steps result run
        rcases trace_bind.mp run with ⟨_, _, flushed, rfl, asked, tail⟩ | ⟨_, -, asked⟩
        · obtain ⟨flushed, rfl, same⟩ := trace_ask.mp asked
          refine ⟨flushed, ?_⟩
          cases same
          cases (flushed : Flushed) with
          | committed =>
            obtain ⟨rfl, -⟩ := trace_pure.mp tail
            rfl
          | integrityError =>
            obtain ⟨rfl, -⟩ := trace_raise.mp tail
            rfl
        · obtain ⟨_, -, same⟩ := trace_ask.mp asked
          cases same
      rcases trace_bind.mp rest' with ⟨_, _, _, rfl, written, done⟩ | ⟨_, -, written⟩
      · obtain ⟨rfl, -⟩ := trace_pure.mp done
        obtain ⟨flushed, rfl⟩ := flush written
        exact ⟨flushed, rfl⟩
      · exact flush written
    obtain ⟨flushed, rfl⟩ := committing
    exact ⟨early, after, value, flushed, by simp, body, closed⟩
  · right
    obtain ⟨_, late, _, rfl, asked, done⟩ := Program.Trace.bind_iff.mp rest
    obtain rfl := Program.Trace.ask_iff.mp asked
    obtain ⟨rfl, -⟩ := Program.Trace.done_iff.mp done
    exact ⟨within, error, rfl, body⟩

theorem dispatchBatch_written {result : Except WorkflowError (Nat × List Write)}
    (run : Program.Trace (dispatchBatch settings).run steps result) : written steps = [] := by
  have uncommitted : (dispatchBatch settings).Behaves Uncommitted (fun _ => True) fun _ => True := by
    apply Behaves.bind_ask trivial
    intro cursor
    cases (cursor : Option WorkflowEventCursor) with
    | none => exact Behaves.pure trivial
    | some cursor =>
      obtain ⟨createdAt, lastEventId⟩ := cursor
      cases createdAt with
      | none =>
        apply Behaves.bind_ask trivial
        exact fun now => Behaves.pure trivial
      | some createdAt =>
        apply Behaves.bind_ask trivial
        intro events
        change List KernelEventRecord at events
        apply Behaves.ite
        · exact fun _ => Behaves.pure trivial
        · intro _
          have dispatched : (dispatchEvents settings events).Behaves Uncommitted (fun _ => True)
              fun _ => True :=
            Behaves.weaken (dispatchEvents_queues events) (fun _ inner => inner.uncommitted)
              (fun _ _ => trivial) fun _ holds => holds
          exact Behaves.bind dispatched fun _ _ => Behaves.pure trivial
  exact written_uncommitted (Program.Behaves.trace (Behaves.run_iff.mp uncommitted) run).1

theorem batch_steps (cursor : Option WorkflowEventCursor) (key : EventKey) (limit : Nat)
    (events : List KernelEventRecord) {tail : Steps} (inner : ∀ step ∈ tail, Inner step.1) :
    readEvents ([⟨.cursorForUpdate, cursor⟩] ++ ([⟨.eventsAfter key limit, events⟩] ++ tail)) = events := by
  rw [readEvents_append, readEvents_append, (inner_steps inner).1, List.append_nil]
  exact List.append_nil events

theorem dispatchBatch_queues {value : Nat × List Write}
    (run : Program.Trace (dispatchBatch settings).run steps (.ok value)) :
    ∀ run, .newRun run ∈ value.2 → ∃ event ∈ readEvents steps, Queued settings event run := by
  rcases trace_bind.mp run with ⟨_, late, cursor, rfl, asked, rest⟩ | ⟨_, same, -⟩
  · obtain ⟨cursor, rfl, same⟩ := trace_ask.mp asked
    cases same
    cases (cursor : Option WorkflowEventCursor) with
    | none =>
      obtain ⟨rfl, same⟩ := trace_pure.mp rest
      cases same
      simp
    | some cursor =>
      obtain ⟨createdAt, lastEventId⟩ := cursor
      cases createdAt with
      | none =>
        rcases trace_bind.mp rest with ⟨_, _, now, rfl, asked', rest'⟩ | ⟨_, same, -⟩
        · obtain ⟨now, rfl, same⟩ := trace_ask.mp asked'
          obtain ⟨rfl, same⟩ := trace_pure.mp rest'
          cases same
          simp
        · cases same
      | some createdAt =>
        rcases trace_bind.mp rest with ⟨_, tail, events, rfl, asked', rest'⟩ | ⟨_, same, -⟩
        · obtain ⟨events, rfl, same⟩ := trace_ask.mp asked'
          cases same
          change List KernelEventRecord at events
          split at rest'
          · obtain ⟨rfl, same⟩ := trace_pure.mp rest'
            cases same
            simp
          · rcases Behaves.trace_bind (dispatchEvents_queues events) rest' with
              ⟨_, same, -⟩ | ⟨early, late, changes, rfl, within, queued, done⟩
            · cases same
            · obtain ⟨rfl, same⟩ := trace_pure.mp done
              cases same
              rw [List.append_nil]
              have read := batch_steps (some ⟨some createdAt, lastEventId⟩)
                ⟨createdAt, lastEventId.getD ""⟩ settings.batchSize events within
              intro run member
              obtain ⟨event, among, taken⟩ := queued run (by simpa using member)
              exact ⟨event, read.symm ▸ among, taken⟩
        · cases same
  · cases same

/-- A tick of the dispatcher has read the event and queued the run for it. The ids of the events
that it reads are those of rows, and so distinct. -/
structure Dispatched (settings : DispatcherSettings) (event : KernelEventRecord) (run : WorkflowRun) : Prop where
  tick : ∃ steps result, Program.Trace (dispatcherTick settings).run steps result ∧
    event ∈ readEvents steps ∧ ((readEvents steps).map (·.id)).Nodup ∧ .newRun run ∈ written steps
  key : ∃ trigger, run.dedupeKey = .event trigger event.id

theorem Dispatched.queued (dispatched : Dispatched settings event run) : Queued settings event run := by
  obtain ⟨⟨steps, result, traced, read, distinct, stored⟩, trigger, key⟩ := dispatched
  rcases sessionScope_trace traced with ⟨early, late, value, flushed, rfl, body, closed⟩ | ⟨early, _, rfl, body⟩
  · have quiet : ∀ step ∈ late, Inner step.1 := by
      intro step member
      rw [closed step member]
      trivial
    obtain ⟨readLate, wroteLate⟩ := inner_steps quiet
    have whole : readEvents (early ++ ⟨.commit value.2, flushed⟩ :: late) = readEvents early := by
      rw [readEvents_append, show readEvents (⟨.commit value.2, flushed⟩ :: late) = readEvents late from rfl,
        readLate, List.append_nil]
    have committed : .newRun run ∈ value.2 := by
      rw [written_append, dispatchBatch_written body, List.nil_append,
        show written (⟨.commit value.2, flushed⟩ :: late) = written [⟨.commit value.2, flushed⟩] ++
          written late from written_append [_] late, wroteLate, List.append_nil] at stored
      simp only [written, List.flatMap_cons, List.flatMap_nil, List.append_nil, List.mem_ite_nil_right]
        at stored
      exact stored.2
    rw [whole] at read distinct
    obtain ⟨source, among, taken⟩ := dispatchBatch_queues body run committed
    -- the key of the run names one event of the batch only
    have same : source.id = event.id := by
      obtain ⟨_, _, -, -, keyed, -⟩ := taken.from_
      rw [keyed, DedupeKey.event.injEq] at key
      exact key.2
    rwa [List.inj_on_of_nodup_map distinct among read same] at taken
  · rw [written_append, dispatchBatch_written body] at stored
    cases stored

/-! ### From a run to its events -/

def runDepth (run : WorkflowRun) : Option Int :=
  (fieldsOf run.triggerPayload).bind fun trigger => (triggerDepth trigger).toOption

def storedEvent (context : ExecutionContext) (event : Kernel.KernelEventRecord) (id : String)
    (createdAt : Int) : KernelEventRecord where
  id := id
  eventType := event.eventType
  scopeKind := event.scopeKind
  workspaceId := event.workspaceId
  ownerUserId := event.ownerUserId
  principalId := event.principalId
  actorType := if isSet context.userId then "human" else "system"
  actorId := firstSet context.userId context.principalId
  initiatorPrincipalId := context.principalId
  executorPrincipalId := some "operly:kernel"
  capabilityId := event.capabilityId
  resourceType := event.resourceType
  resourceId := event.resourceId
  payloadJson := some (Json.obj event.payload).sortKeys
  createdAt := createdAt

structure SameRun (queued current : WorkflowRun) : Prop where
  id : current.id = queued.id
  triggerType : current.triggerType = queued.triggerType
  triggerPayload : current.triggerPayload = queued.triggerPayload

theorem SameRun.refl (run : WorkflowRun) : SameRun run run := ⟨rfl, rfl, rfl⟩

/-- The authority that a step is granted acts with the metadata it was asked for: the resolvers
copy it, and add guest fields for an external space only, which a workflow names none of. -/
def Grants (request : AuthorityRequest) (context : ExecutionContext) : Prop :=
  ∃ resolved : ExecutionContext, context = { resolved with
    scopeKind := request.scopeKind, workspaceId := request.workspaceId
    userId := some request.userId, channel := "workflow", surface := .systemTask
    conversationId := some request.conversationId, metadata := request.metadata }

/-- A step of the run has called the Kernel, with whatever answers of the database and of the
provider, and the call has left the event. -/
inductive Emits (run : WorkflowRun) : KernelEventRecord → Prop
  | step {current : WorkflowRun} {row : WorkflowStepRun} {attempt : WorkflowStepAttempt}
      {resolution : Steps} {context : ExecutionContext} {caller : Kernel.Caller} {arguments : Fields}
      {approvalId : Option String} {steps : Kernel.Steps}
      {result : Except Kernel.KernelError Kernel.RuntimeResponse} {event : Kernel.KernelEventRecord}
      (loaded : SameRun run current)
      (resolved : Program.Trace (resolveAuthority current row attempt).run resolution (.ok context))
      (granted : ∀ request answer, ⟨.authority request, .ok answer⟩ ∈ resolution → Grants request answer)
      (executed : Program.Trace (Kernel.execute caller context
        (stepRequest current row arguments approvalId)).run steps result)
      (persisted : event ∈ Kernel.persistedEvents steps) (id : String) (createdAt : Int) :
      Emits run (storedEvent context event id createdAt)

inductive Chain (settings : DispatcherSettings) (first : WorkflowRun) : Nat → WorkflowRun → Prop
  | start : Chain settings first 0 first
  | next {n : Nat} {run later : WorkflowRun} {event : KernelEventRecord}
      (chain : Chain settings first n run) (emitted : Emits run event)
      (dispatched : Dispatched settings event later) : Chain settings first (n + 1) later

theorem Queued.payload (queued : Queued settings event run) : ∃ depth trigger envelope,
      eventDepth (eventPayload event) = .ok depth ∧ depth < settings.maxDepth ∧
      run.triggerPayload = .obj trigger ∧ Fields.get trigger "event" = some (.obj envelope) ∧
      Fields.get trigger "depth" = some (.int (depth + 1)) := by
  obtain ⟨depth, trigger, deep, below, -, payload⟩ := queued.from_
  refine ⟨depth, _, Json.byKey (Json.sortFields (eventEnvelope event)), deep, below, payload, ?_, ?_⟩
  · rw [Fields.get_sorted]
    rfl
  · rw [Fields.get_sorted]
    rfl

theorem triggerDepth_of_get {trigger : Fields} {depth : Nat}
    (held : Fields.get trigger "depth" = some (.int (depth + 1))) : triggerDepth trigger = .ok (depth + 1) := by
  have positive : (Json.int (depth + 1)).truthy = true := by
    simp only [Json.truthy, bne_iff_ne]
    omega
  rw [triggerDepth, Fields.getOr, held]
  dsimp only
  rw [if_pos positive]
  rfl

theorem Queued.depth (queued : Queued settings event run) : ∃ depth : Nat, eventDepth (eventPayload event) = .ok depth ∧
      depth < settings.maxDepth ∧ runDepth run = some ((depth : Int) + 1) := by
  obtain ⟨depth, trigger, envelope, deep, below, payload, -, held⟩ := queued.payload
  refine ⟨depth, deep, below, ?_⟩
  rw [runDepth, payload, fieldsOf, Option.bind_some, triggerDepth_of_get held]
  rfl

theorem stepMetadata_depth {row : WorkflowStepRun} {attempt : WorkflowStepAttempt}
    {trigger envelope metadata : Fields} {depth : Nat} (payload : run.triggerPayload = .obj trigger)
    (event : Fields.get trigger "event" = some (.obj envelope))
    (held : Fields.get trigger "depth" = some (.int (depth + 1)))
    (composed : stepMetadata run row attempt = .ok metadata) :
    Fields.get metadata "workflow_depth" = some (.int (depth + 1)) := by
  unfold stepMetadata at composed
  rw [payload] at composed
  simp only [fieldsOf, event, Option.bind_some, eventMetadata, triggerDepth_of_get held, bind,
    Except.bind, pure, Except.pure, Except.ok.injEq] at composed
  rw [← composed]
  rfl

theorem resolveAuthority_grants {row : WorkflowStepRun} {attempt : WorkflowStepAttempt} {context : ExecutionContext}
    (run' : Program.Trace (resolveAuthority run row attempt).run steps (.ok context))
    (granted : ∀ request answer, ⟨.authority request, .ok answer⟩ ∈ steps → Grants request answer) :
    stepMetadata run row attempt = .ok context.metadata := by
  unfold resolveAuthority at run'
  rcases trace_bind.mp run' with ⟨_, late, metadata, rfl, composed, rest⟩ | ⟨_, same, -⟩
  · obtain ⟨rfl, same⟩ := trace_ofExcept.mp composed
    split at rest
    · obtain ⟨-, same⟩ := trace_raise.mp rest
      cases same
    · rcases trace_bind.mp rest with ⟨_, _, answer, rfl, asked, returned⟩ | ⟨_, same, -⟩
      · obtain ⟨answer, rfl, same'⟩ := trace_ask.mp asked
        cases same'
        obtain ⟨rfl, same'⟩ := trace_ofExcept.mp returned
        obtain rfl : answer = .ok context := same'.symm
        obtain ⟨resolved, shape⟩ := granted _ context (List.mem_cons_self ..)
        rw [shape]
        exact same.symm
      · cases same
  · cases same

theorem Emits.depth {cause : KernelEventRecord} (queued : Queued settings cause run) (emits : Emits run event) :
    ∃ depth : Nat, runDepth run = some (depth : Int) ∧
      eventDepth (eventPayload event) = .ok depth := by
  obtain ⟨depth, trigger, envelope, -, -, payload, inside, held⟩ := queued.payload
  refine ⟨depth + 1, ?_, ?_⟩
  · rw [runDepth, payload, fieldsOf, Option.bind_some, triggerDepth_of_get held]
    rfl
  · cases emits with
    | @step current row attempt resolution context caller arguments approvalId steps result event
        loaded resolved granted executed persisted id createdAt =>
      have metadata := resolveAuthority_grants resolved granted
      have carried : Fields.get context.metadata "workflow_depth" = some (.int (depth + 1)) :=
        stepMetadata_depth (loaded.triggerPayload.trans payload) inside held metadata
      obtain ⟨provided, lined⟩ := Kernel.execute_lined executed event persisted
      have said : Fields.get event.payload "workflow_depth" = some (.int (depth + 1)) := by
        rw [lined]
        exact Kernel.get_lineage_held provided (by decide) carried (by simp)
      have stored : Fields.get (eventPayload (storedEvent context event id createdAt)) "workflow_depth" =
          some (.int (depth + 1)) := by
        show Fields.get (Json.byKey (Json.sortFields event.payload)) "workflow_depth" = _
        rw [Fields.get_sorted, said]
        rfl
      have positive : (Json.int (depth + 1)).truthy = true := by
        simp only [Json.truthy, bne_iff_ne]
        omega
      rw [eventDepth, Fields.getOr, stored]
      dsimp only
      rw [if_pos positive]
      rfl

/-- Along a chain the depth grows by one from run to run, and it never passes the bound; so no
chain of runs is longer than the bound. -/
theorem event_chain_depth {settings : DispatcherSettings} {event : KernelEventRecord}
    {first last : WorkflowRun} {n : Nat} (dispatched : Dispatched settings event first)
    (chain : Chain settings first n last) :
    ∃ depth : Nat, runDepth first = some (depth : Int) ∧ 1 ≤ depth ∧
      runDepth last = some ((depth + n : Nat) : Int) ∧ depth + n ≤ settings.maxDepth := by
  obtain ⟨depth, -, below, held⟩ := dispatched.queued.depth
  have along : runDepth last = some ((depth + 1 + n : Nat) : Int) ∧
      depth + 1 + n ≤ settings.maxDepth ∧ ∃ cause, Queued settings cause last := by
    induction chain with
    | start => exact ⟨held, below, event, dispatched.queued⟩
    | @next n run later event _ emitted dispatched ih =>
      obtain ⟨same, -, cause, queued⟩ := ih
      obtain ⟨carried, own, said⟩ := emitted.depth queued
      obtain ⟨deep, spoken, under, follows⟩ := dispatched.queued.depth
      have equal : carried = depth + 1 + n := by
        rw [own] at same
        exact_mod_cast Option.some.inj same
      have again : deep = carried := Except.ok.inj (spoken.symm.trans said)
      refine ⟨?_, by omega, _, dispatched.queued⟩
      rw [follows, again, equal]
      congr 1
  exact ⟨depth + 1, held, by omega, along.1, along.2.1⟩

def sampleWorkflow : WorkflowDefinition where
  id := "w1"
  scopeKind := .personal
  workspaceId := none
  ownerUserId := some "u1"
  name := "Notes"
  status := .enabled
  currentVersion := 1

def sampleTrigger : WorkflowEventTrigger where
  id := "t1"
  workflowId := "w1"
  eventPattern := "capability.*"
  conditionJson := some (.obj [])
  enabled := true
  createdAt := 0

def sampleDispatcher : DispatcherSettings where
  spelling := { float := fun _ => "", container := fun _ => "" }
  batchSize := 50
  maxDepth := 8

def sampleAnswers (events : List KernelEventRecord) : (op : Op) → workflowDb.Answer op
  | .now => (0 : Int)
  | .uuid => "u1"
  | .run _ | .definition _ | .version _ | .stepRun _ _ | .stepById _ | .attempt _ _ | .attemptById _
  | .failedStep _ | .approval _ | .runByKey _ | .definitionForUpdate _ | .lockDefinition _
  | .scheduleOf _ | .trigger _ | .triggerByPattern _ _ => none
  | .currentVersion _ _ =>
      some { id := "v1", workflowId := "w1", version := 1, specJson := none, snapshotJson := none }
  | .stepRuns _ | .waitingForUpdate _ | .expiredForUpdate _ _ | .dueForUpdate _ _ | .candidates _ _
  | .queuedForUpdate _ _ _ => []
  | .authority request => .ok { Kernel.sampleContext with
      scopeKind := request.scopeKind, workspaceId := request.workspaceId
      userId := some request.userId, channel := "workflow", surface := .systemTask
      conversationId := some request.conversationId, metadata := request.metadata }
  | .kernel _ => ⟨false, .error (.other "unavailable")⟩
  | .active _ _ => (0 : Nat)
  | .cursorForUpdate => some ⟨some 0, some ""⟩
  | .eventsAfter _ _ => events
  | .triggersFor _ => [(sampleTrigger, sampleWorkflow)]
  | .commit _ => .committed
  | .rollback => ()

def tickSteps (event : KernelEventRecord) : Steps :=
  ((dispatcherTick sampleDispatcher).run.answered (sampleAnswers [event])).1

def sampleRuns (event : KernelEventRecord) : List WorkflowRun :=
  (written (tickSteps event)).filterMap fun change => match change with
    | .newRun run => some run
    | _ => none

theorem sampleRuns_dispatched (queued : run ∈ sampleRuns event) (read : readEvents (tickSteps event) = [event])
    (key : run.dedupeKey = .event "t1" event.id) : Dispatched sampleDispatcher event run := by
  refine ⟨⟨tickSteps event, _, Program.answered_trace _ _, by simp [read], by simp [read], ?_⟩, "t1", key⟩
  obtain ⟨change, stored, same⟩ := List.mem_filterMap.mp queued
  split at same
  · cases same
    exact stored
  · cases same

def sampleEvent : KernelEventRecord where
  id := "e1"
  eventType := "capability.executed"
  scopeKind := .personal
  workspaceId := none
  ownerUserId := some "u1"
  payloadJson := some (.obj [])
  createdAt := 1

def firstRun : WorkflowRun := (sampleRuns sampleEvent).head (by decide)

def sampleStep : WorkflowStepRun where
  id := "s1"
  workflowRunId := "u1"
  stepKey := "note"
  stepOrder := 0
  stepKind := .action
  capabilityId := some "note.write"
  requestId := some "workflow:u1:note:attempt:1"

def sampleAttempt : WorkflowStepAttempt where
  id := "a1"
  workflowRunId := "u1"
  stepRunId := "s1"
  attempt := 1
  capabilityId := "note.write"
  status := .running
  requestId := "workflow:u1:note:attempt:1"
  startedAt := 2

def stepContext : ExecutionContext :=
  match ((resolveAuthority firstRun sampleStep sampleAttempt).run.answered (sampleAnswers [])).2 with
  | .ok context => context
  | .error _ => Kernel.sampleContext

def stepSteps : Kernel.Steps :=
  ((Kernel.execute ⟨Kernel.sample, 0⟩ stepContext (stepRequest firstRun sampleStep [] none)).run.answered
    (Kernel.sampleAnswers [("workflow_depth", .int 0)])).1

def stepEvent : KernelEventRecord :=
  storedEvent stepContext ((Kernel.persistedEvents stepSteps).head (by decide)) "e2" 3

theorem stepEvent_emitted : Emits firstRun stepEvent := by
  have resolved : ((resolveAuthority firstRun sampleStep sampleAttempt).run.answered
      (sampleAnswers [])).2 = .ok stepContext := by decide
  have traced := Program.answered_trace (sampleAnswers [])
    (resolveAuthority firstRun sampleStep sampleAttempt).run
  rw [resolved] at traced
  refine .step (.refl _) traced ?_ (Program.answered_trace _ _) (List.head_mem _) "e2" 3
  intro request answer asked
  have same := Program.answered_answer asked
  exact ⟨Kernel.sampleContext, Except.ok.inj same⟩

def secondRun : WorkflowRun := (sampleRuns stepEvent).head (by decide)

theorem firstRun_dispatched : Dispatched sampleDispatcher sampleEvent firstRun :=
  sampleRuns_dispatched (List.head_mem _) (by decide) (by decide)

theorem secondRun_dispatched : Dispatched sampleDispatcher stepEvent secondRun :=
  sampleRuns_dispatched (List.head_mem _) (by decide) (by decide)

theorem event_chain_depth_two : ∃ depth : Nat, runDepth firstRun = some (depth : Int) ∧ 1 ≤ depth ∧
    runDepth secondRun = some ((depth + 1 : Nat) : Int) ∧ depth + 1 ≤ 8 :=
  event_chain_depth firstRun_dispatched (.next .start stepEvent_emitted secondRun_dispatched)

end Operly.Workflow
