import Operly.Platform.Leases
import Operly.Python.Affixes
import Operly.Python.Casing
import Operly.Python.Exceptions

/-! The fan-out of outbox events to subscriptions, by workers that may fail, crash and overtake one another. -/

namespace Operly.Platform.Fanout
open Python Relational Concurrent

/-- `text[:-1]` -/
def dropLast (text : String) : String := String.ofList text.toList.dropLast

def eventMatches (pattern eventType : String) : Bool :=
  let clean := strip pattern
  if clean = "*" then true
  else if endsWith clean ".*" then startsWith eventType (dropLast clean)
  else clean = eventType

/-- `[a-z][a-z0-9_.-]{1,177}` -/
def patternName : List Char → Bool
  | [] => false
  | c :: rest => c.isLower && 1 ≤ rest.length && rest.length ≤ 177 &&
      rest.all fun d => d.isLower || d.isDigit || d = '_' || d = '.' || d = '-'

def patternValid (value : String) : Bool :=
  let clean := lower (strip value)
  let name := if endsWith clean ".*" then clean.toList.dropLast.dropLast else clean.toList
  (clean = "*" || patternName name) && !(contains clean ".." || startsWith clean "." || endsWith clean ".")

def declaredPatternAllows (declared requested : String) : Bool :=
  let declared := lower (strip declared)
  let requested := lower (strip requested)
  if declared = "*" then requested ≠ "*" || requested = "*"
  else if endsWith declared ".*" then requested = declared || startsWith requested (dropLast declared)
  else declared = requested

theorem dropLast_wildcard (front : String) : dropLast (front ++ ".*") = front ++ "." := by
  rw [← String.toList_inj]
  simp [dropLast, List.dropLast_append_of_ne_nil]

theorem eventMatches_of_allowed {declared requested eventType : String}
    (allowed : declaredPatternAllows declared requested = true)
    (matched : eventMatches (lower (strip requested)) eventType = true) :
    eventMatches (lower (strip declared)) eventType = true := by
  simp only [eventMatches, declaredPatternAllows, strip_lower_strip] at *
  generalize lower (strip declared) = declared at *
  generalize lower (strip requested) = requested at *
  by_cases every : declared = "*"
  · rw [if_pos every]
  rw [if_neg every] at allowed ⊢
  by_cases wild : endsWith declared ".*" = true
  · rw [if_pos wild] at allowed ⊢
    obtain ⟨front, rfl⟩ := exists_of_endsWith wild
    rw [dropLast_wildcard] at allowed ⊢
    have under : startsWith requested (front ++ ".") = true := by
      rcases Bool.or_eq_true_iff.mp allowed with same | starts
      · rw [of_decide_eq_true same, startsWith_iff]
        simp
      · exact starts
    have start := startsWith_iff.mp under
    have several : requested ≠ "*" := by
      rintro rfl
      have same := start.eq_of_length_le (by simp)
      simpa using congrArg List.getLast? same
    rw [if_neg several] at matched
    split at matched
    · next ends =>
      obtain ⟨name, rfl⟩ := exists_of_endsWith ends
      rw [dropLast_wildcard] at matched
      have shape : (name ++ ".*").toList = (name ++ ".").toList ++ ['*'] := by simp
      rw [shape, List.prefix_concat_iff] at start
      have inner := start.resolve_left fun same => by simpa using congrArg List.getLast? same
      exact startsWith_iff.mpr (inner.trans (startsWith_iff.mp matched))
    · rw [← of_decide_eq_true matched]
      exact under
  · rw [if_neg wild] at allowed ⊢
    obtain rfl : declared = requested := of_decide_eq_true allowed
    rw [if_neg every, if_neg wild] at matched
    exact matched

/-- The columns of an outbox row that nothing changes. -/
structure OutboxEvent where
  tenantId : String
  eventType : String

structure EventSubscription where
  id : String
  tenantId : String
  installationId : String
  eventPattern : String
  targetReference : String
  enabled : Bool := true
  /-- What the manifest of the plugin declared when the row was created. -/
  consumesEvents : List String

/-- A delivery as it is created; what becomes of it is the matter of its own queue. -/
structure EventDelivery where
  tenantId : String
  eventId : String
  subscriptionId : String

/-- `uq_digital_event_delivery_event_subscription` -/
def EventDelivery.key (row : EventDelivery) : String × String := (row.eventId, row.subscriptionId)

abbrev Subscriptions := Table EventSubscription String EventSubscription.id

abbrev Deliveries := Table EventDelivery (String × String) EventDelivery.key

/-- `create_event_subscription`, with a target that it has validated. -/
def createEventSubscription (consumesEvents : List String) (row : EventSubscription) (table : Subscriptions) :
    Except String Subscriptions :=
  let eventPattern := lower (strip row.eventPattern)
  let declared := consumesEvents.map fun item => lower (strip item)
  if ¬ patternValid eventPattern then .error "Event subscription pattern is invalid"
  else if ¬ declared.any (declaredPatternAllows · eventPattern) then
    .error "Plugin manifest did not declare authority to consume this event pattern"
  else if table.rows.any fun other => other.tenantId = row.tenantId ∧ other.installationId = row.installationId ∧
      other.eventPattern = eventPattern ∧ other.targetReference = row.targetReference then
    .error "This plugin event subscription already exists"
  else .ok (table.insert { row with eventPattern, enabled := true, consumesEvents })

def disableEventSubscription (tenantId installationId id : String) (table : Subscriptions) : Subscriptions :=
  table.modify (fun row => { row with enabled := row.enabled &&
    !(row.id = id && row.tenantId = tenantId && row.installationId = installationId) }) fun _ => rfl

/-- The query and the matching of `_fanout_event`. -/
def OutboxEvent.wants (event : OutboxEvent) (row : EventSubscription) : Bool :=
  row.tenantId = event.tenantId && row.enabled && eventMatches row.eventPattern event.eventType

def addDeliveries (table : Deliveries) : List EventDelivery → Option Deliveries
  | [] => some table
  | row :: rest => if (table.find row.key).isSome then none else addDeliveries (table.insert row) rest

/-! ### The workers -/

structure Attempt where
  rows : List EventSubscription
  pending : List EventSubscription
  missing : List EventSubscription

structure FanoutState where
  queue : QueueState
  subscriptions : Subscriptions
  deliveries : Deliveries
  attempt : String → Option Attempt
  /-- The events that an attempt has completed, each with the subscriptions as that attempt had read them. -/
  completed : List (String × List EventSubscription)

inductive FanoutMove where
  | queue (action : Action)
  | subscribe (consumesEvents : List String) (row : EventSubscription)
  | disable (tenantId installationId id : String)
  | select (worker : String)
  | look (worker : String)
  | commit (worker : String) (now : Int)

def worker : Action → Option String
  | .enqueue _ => none
  | .lease worker .. | .start worker | .complete worker .. | .fail worker .. | .recover worker | .crash worker => some worker

def completes : Action → Bool
  | .complete .. => true
  | _ => false

namespace FanoutState

def empty : FanoutState := ⟨.empty, .empty, .empty, fun _ => none, []⟩

def setAttempt (state : FanoutState) (worker : String) (attempt : Option Attempt) : FanoutState :=
  { state with attempt := Function.update state.attempt worker attempt }

def dropAttempt (state : FanoutState) (action : Action) : FanoutState :=
  { state with attempt := fun other => if worker action = some other then none else state.attempt other }

def perform (state : FanoutState) (action : Action) : Option FanoutState :=
  (state.queue.step .events action).map fun queue => { state.dropAttempt action with queue }

def subscribe (state : FanoutState) (consumesEvents : List String) (row : EventSubscription) : Option FanoutState :=
  match createEventSubscription consumesEvents row state.subscriptions with
  | .ok subscriptions => some { state with subscriptions }
  | .error _ => none

def select (events : String → OutboxEvent) (state : FanoutState) (worker : String) : Option FanoutState :=
  match state.queue.session worker, state.attempt worker with
  | some ⟨copy, false⟩, none => some (state.setAttempt worker (some
      ⟨state.subscriptions.rows, state.subscriptions.rows.filter (events copy.id).wants, []⟩))
  | _, _ => none

def look (state : FanoutState) (worker : String) : Option FanoutState :=
  match state.queue.session worker, state.attempt worker with
  | some ⟨copy, false⟩, some ⟨rows, row :: pending, missing⟩ =>
      let known := (state.deliveries.find (copy.id, row.id)).isSome
      some (state.setAttempt worker (some ⟨rows, pending, if known then missing else missing ++ [row]⟩))
  | _, _ => none

/-- The deliveries are committed together with the event; a session that fails rolls back. -/
def commit (events : String → OutboxEvent) (state : FanoutState) (worker : String) (now : Int) : Option FanoutState :=
  match state.queue.session worker, state.attempt worker with
  | some ⟨copy, false⟩, some ⟨rows, [], missing⟩ =>
      let added := missing.map fun row => ⟨(events copy.id).tenantId, copy.id, row.id⟩
      match addDeliveries state.deliveries added, QueueService.events.complete worker now {} (some copy) with
      | some deliveries, .ok updated =>
          some { state.setAttempt worker none with
            queue := state.queue.finish worker copy updated
            deliveries
            completed := (copy.id, rows) :: state.completed }
      | _, _ => state.perform (.recover worker)
  | _, _ => none

def step (events : String → OutboxEvent) (state : FanoutState) : FanoutMove → Option FanoutState
  | .queue action => if completes action then none else state.perform action
  | .subscribe consumesEvents row => state.subscribe consumesEvents row
  | .disable tenantId installationId id =>
      some { state with subscriptions := disableEventSubscription tenantId installationId id state.subscriptions }
  | .select worker => state.select events worker
  | .look worker => state.look worker
  | .commit worker now => state.commit events worker now

end FanoutState

section Queue
variable {queue after : QueueState} {action : Action}

variable {id holder other : String}

theorem load_session {recovering : Bool} (apart : other ≠ holder) :
    (queue.load holder id recovering).session other = queue.session other := by
  rcases queue.load_cases holder id recovering with same | ⟨row, -, -, -, same⟩
  · rw [same, QueueState.setSession_session, if_neg apart]
  · rw [same, QueueState.record_session, QueueState.setSession_session, if_neg apart]

theorem finish_session {copy updated : QueueRow} (apart : other ≠ holder) :
    (queue.finish holder copy updated).session other = queue.session other := by
  rcases queue.finish_cases holder copy updated with same | ⟨current, -, same⟩
  · rw [same, QueueState.setSession_session, if_neg apart]
  · rw [same, QueueState.record_session, QueueState.setSession_session, if_neg apart]

theorem session_apart (moved : queue.step .events action = some after) (apart : worker action ≠ some other) :
    after.session other = queue.session other := by
  have different {holder : String} (own : worker action = some holder) : other ≠ holder :=
    fun same => apart (same ▸ own)
  cases QueueState.step_effect moved with
  | enqueued | leased | refused => rfl
  | started => exact load_session (different rfl)
  | completed | failed => exact finish_session (different rfl)
  | recovered => exact load_session (different rfl)
  | crashed => rw [QueueState.setSession_session, if_neg (different rfl)]; rfl

def Done (queue : QueueState) (id : String) : Prop := ∃ row, queue.table.find id = some row ∧ row.status = .done

theorem load_table {recovering : Bool} : (queue.load holder id recovering).table = queue.table := by
  rcases queue.load_cases holder id recovering with same | ⟨row, -, -, -, same⟩ <;> rw [same] <;> rfl

theorem finish_done {copy updated : QueueRow} (done : Done (queue.finish holder copy updated) id) :
    Done queue id ∨ id = copy.id ∧
      ∃ current : QueueRow, (flush copy updated current).status = .done := by
  obtain ⟨row, found, status⟩ := done
  rcases queue.finish_cases holder copy updated with same | ⟨current, present, same⟩
  · rw [same] at found
    exact .inl ⟨row, found, status⟩
  · rw [same, QueueState.record_table, QueueState.setSession_table, Table.find_replace] at found
    split at found
    · next key =>
      obtain ⟨old, -, rfl⟩ := Option.map_eq_some_iff.mp found
      exact .inr ⟨key.trans (show current.id = copy.id from Table.find_key present), current, status⟩
    · exact .inl ⟨row, found, status⟩

theorem done_before (moved : queue.step .events action = some after) (other : completes action = false)
    (done : Done after id) : Done queue id := by
  cases QueueState.step_effect moved with
  | enqueued insertable =>
    obtain ⟨row, found, status⟩ := done
    rw [Table.find_insert] at found
    rcases Option.or_eq_some_iff.mp found with old | ⟨-, new⟩
    · exact ⟨row, old, status⟩
    · split at new
      · cases new
        rw [(QueueState.insertable_spec insertable).1] at status
        cases status
      · cases new
  | leased idle free =>
    obtain ⟨row, found, status⟩ := done
    rw [QueueState.find_leaseBatch] at found
    obtain ⟨old, present, rfl⟩ := Option.map_eq_some_iff.mp found
    split at status
    · cases status
    · next spared => exact ⟨old, present, status⟩
  | started => rwa [Done, load_table] at done
  | completed => cases other
  | failed held leased locked calls =>
    refine (finish_done done).resolve_right ?_
    rintro ⟨-, current, ended⟩
    unfold QueueService.failed at ended
    split at ended <;> simp [flush, flushColumn, leased] at ended
  | refused => exact done
  | recovered => rwa [Done, load_table] at done
  | crashed => exact done

end Queue

/-! ### What a run delivers -/

/-- Whatever a subscription matches is matched by what the manifest of its plugin declared. -/
def Permitted (row : EventSubscription) : Prop :=
  ∀ eventType, eventMatches row.eventPattern eventType = true →
    ∃ item ∈ row.consumesEvents, eventMatches (lower (strip item)) eventType = true

/-- How far an attempt has come with the subscriptions that it wants. -/
structure Attempt.Reads (event : OutboxEvent) (delivered : String → Prop) (attempt : Attempt) : Prop where
  wanted : ∀ row ∈ attempt.rows, event.wants row = true →
    row ∈ attempt.pending ∨ row ∈ attempt.missing ∨ delivered row.id
  listed : ∀ row, row ∈ attempt.pending ∨ row ∈ attempt.missing → row ∈ attempt.rows ∧ event.wants row = true
  permitted : ∀ row ∈ attempt.rows, Permitted row

def FanoutState.Delivered (state : FanoutState) (id subscription : String) : Prop :=
  (state.deliveries.find (id, subscription)).isSome = true

/-- The deliveries are those that the completed attempts wanted, of the subscriptions that they had read. -/
structure Tallied (events : String → OutboxEvent) (state : FanoutState) : Prop where
  done : ∀ id, Done state.queue id → ∃ rows, (id, rows) ∈ state.completed
  delivered : ∀ id subscription, state.Delivered id subscription ↔
    ∃ rows, (id, rows) ∈ state.completed ∧ ∃ row ∈ rows, row.id = subscription ∧ (events id).wants row = true
  reads : ∀ worker copy attempt, state.queue.session worker = some ⟨copy, false⟩ →
    state.attempt worker = some attempt → attempt.Reads (events copy.id) (state.Delivered copy.id)
  permitted : ∀ row ∈ state.subscriptions.rows, Permitted row
  completed : ∀ entry ∈ state.completed, ∀ row ∈ entry.2, Permitted row

variable {events : String → OutboxEvent} {state next : FanoutState} {row : EventSubscription} {holder : String}

theorem permitted_of_created {consumesEvents : List String} {table after : Subscriptions}
    (created : createEventSubscription consumesEvents row table = .ok after) (old : ∀ row ∈ table.rows, Permitted row) :
    ∀ row ∈ after.rows, Permitted row := by
  unfold createEventSubscription at created
  dsimp only at created
  rw [check_eq_ok, check_eq_ok, check_eq_ok] at created
  obtain ⟨-, allowed, -, inserted⟩ := created
  cases inserted
  intro other member
  have found := Table.find_of_mem member
  rw [Table.find_insert] at found
  rcases Option.or_eq_some_iff.mp found with earlier | ⟨-, new⟩
  · exact old other (Table.find_mem earlier)
  · split at new
    · cases new
      intro eventType matched
      obtain ⟨item, declared, covers⟩ := List.any_eq_true.mp (not_not.mp allowed)
      obtain ⟨raw, listed, rfl⟩ := List.mem_map.mp declared
      have within := eventMatches_of_allowed covers (by simpa using matched)
      exact ⟨raw, listed, by simpa using within⟩
    · cases new

theorem addDeliveries_find {table after : Deliveries} {rows : List EventDelivery}
    (added : addDeliveries table rows = some after) (key : String × String) :
    (after.find key).isSome = true ↔ (table.find key).isSome = true ∨ ∃ row ∈ rows, row.key = key := by
  induction rows generalizing table with
  | nil =>
    cases added
    simp
  | cons row rest ih =>
    rw [addDeliveries] at added
    split at added
    · cases added
    · rw [ih added, Table.find_insert, Option.isSome_or, Bool.or_eq_true, or_assoc]
      by_cases same : key = row.key
      · simp [same]
      · simp [same, Ne.symm same]

theorem Tallied.perform (tallied : Tallied events state) {action : Action} (other : completes action = false)
    (moved : state.perform action = some next) : Tallied events next := by
  obtain ⟨queue, stepped, rfl⟩ := Option.map_eq_some_iff.mp moved
  refine ⟨fun id done => tallied.done id (done_before stepped other done), tallied.delivered, ?_, tallied.permitted,
    tallied.completed⟩
  intro holder copy attempt held attempted
  dsimp only [FanoutState.dropAttempt] at attempted
  split at attempted
  · cases attempted
  · next apart =>
    rw [session_apart stepped apart] at held
    exact tallied.reads holder copy attempt held attempted

theorem Tallied.setAttempt (tallied : Tallied events state) {copy : QueueRow} {attempt : Attempt}
    (held : state.queue.session holder = some ⟨copy, false⟩)
    (reads : attempt.Reads (events copy.id) (state.Delivered copy.id)) :
    Tallied events (state.setAttempt holder (some attempt)) := by
  refine ⟨tallied.done, tallied.delivered, ?_, tallied.permitted, tallied.completed⟩
  intro other copy' attempt' held' attempted
  dsimp only [FanoutState.setAttempt] at attempted
  rw [Function.update_apply] at attempted
  split at attempted
  · next same =>
    subst same
    cases attempted
    cases held.symm.trans held'
    exact reads
  · exact tallied.reads other copy' attempt' held' attempted

theorem Attempt.Reads.look {event : OutboxEvent} {delivered : String → Prop}
    {rows pending missing : List EventSubscription}
    (reads : Attempt.Reads event delivered ⟨rows, row :: pending, missing⟩) (known : Bool)
    (present : known = true → delivered row.id) :
    Attempt.Reads event delivered ⟨rows, pending, if known then missing else missing ++ [row]⟩ := by
  obtain ⟨wanted, listed, permitted⟩ := reads
  refine ⟨fun other read wants => ?_, fun other member => ?_, permitted⟩
  · rcases wanted other read wants with waiting | absent | there
    · rcases List.mem_cons.mp waiting with rfl | later
      · cases known with
        | true => exact .inr (.inr (present rfl))
        | false => exact .inr (.inl (by simp))
      · exact .inl later
    · exact .inr (.inl (by cases known <;> simp [absent]))
    · exact .inr (.inr there)
  · apply listed
    cases known with
    | true => exact member.imp_left (List.mem_cons_of_mem row)
    | false =>
      simp only [Bool.false_eq_true, if_false, List.mem_append, List.mem_singleton] at member
      simp only [List.mem_cons]
      tauto

theorem Tallied.complete (tallied : Tallied events state) {copy updated : QueueRow}
    {rows missing : List EventSubscription} {deliveries : Deliveries}
    (held : state.queue.session holder = some ⟨copy, false⟩)
    (attempted : state.attempt holder = some ⟨rows, [], missing⟩) (added : addDeliveries state.deliveries
      (missing.map fun row => ⟨(events copy.id).tenantId, copy.id, row.id⟩) = some deliveries) :
    Tallied events { state.setAttempt holder none with
      queue := state.queue.finish holder copy updated
      deliveries
      completed := (copy.id, rows) :: state.completed } := by
  obtain ⟨wanted, listed, permitted⟩ := tallied.reads holder copy _ held attempted
  have there (id subscription : String) : (deliveries.find (id, subscription)).isSome = true ↔
      state.Delivered id subscription ∨ id = copy.id ∧ ∃ row ∈ missing, row.id = subscription := by
    rw [addDeliveries_find added]
    refine or_congr_right ⟨?_, ?_⟩
    · rintro ⟨_, member, same⟩
      obtain ⟨row, absent, rfl⟩ := List.mem_map.mp member
      cases same
      exact ⟨rfl, row, absent, rfl⟩
    · rintro ⟨rfl, row, absent, rfl⟩
      exact ⟨_, List.mem_map_of_mem absent, rfl⟩
  refine ⟨?_, ?_, ?_, tallied.permitted, List.forall_mem_cons.mpr ⟨permitted, tallied.completed⟩⟩
  · intro id done
    rcases finish_done done with before | ⟨rfl, -⟩
    · obtain ⟨earlier, member⟩ := tallied.done id before
      exact ⟨earlier, List.mem_cons_of_mem _ member⟩
    · exact ⟨rows, List.mem_cons_self⟩
  · intro id subscription
    rw [FanoutState.Delivered, there, tallied.delivered]
    constructor
    · rintro (⟨earlier, member, found⟩ | ⟨rfl, row, absent, rfl⟩)
      · exact ⟨earlier, List.mem_cons_of_mem _ member, found⟩
      · obtain ⟨read, wants⟩ := listed row (.inr absent)
        exact ⟨rows, List.mem_cons_self, row, read, rfl, wants⟩
    · rintro ⟨found, member, row, read, rfl, wants⟩
      rcases List.mem_cons.mp member with same | earlier
      · cases same
        rcases wanted row read wants with waiting | absent | known
        · cases waiting
        · exact .inr ⟨rfl, row, absent, rfl⟩
        · exact .inl ((tallied.delivered _ _).mp known)
      · exact .inl ⟨found, earlier, row, read, rfl, wants⟩
  · intro other copy' attempt' held' attempted'
    dsimp only [FanoutState.setAttempt] at attempted'
    rw [Function.update_apply] at attempted'
    split at attempted'
    · cases attempted'
    · next apart =>
      rw [finish_session apart] at held'
      obtain ⟨wanted', listed', permitted'⟩ := tallied.reads other copy' attempt' held' attempted'
      refine ⟨fun row read wants => ?_, listed', permitted'⟩
      exact (wanted' row read wants).imp_right fun rest => rest.imp_right fun known => (there _ _).mpr (.inl known)

theorem Tallied.subscribe (tallied : Tallied events state) {consumesEvents : List String}
    (moved : state.subscribe consumesEvents row = some next) : Tallied events next := by
  unfold FanoutState.subscribe at moved
  split at moved
  · next table created =>
    cases moved
    exact { tallied with permitted := permitted_of_created created tallied.permitted }
  · cases moved

theorem Tallied.select (tallied : Tallied events state) (moved : state.select events holder = some next) :
    Tallied events next := by
  unfold FanoutState.select at moved
  split at moved
  · next copy held _ =>
    cases moved
    exact tallied.setAttempt held ⟨fun row read wants => .inl (List.mem_filter.mpr ⟨read, wants⟩),
      fun row member => List.mem_filter.mp (member.resolve_right List.not_mem_nil), tallied.permitted⟩
  · cases moved

theorem Tallied.look (tallied : Tallied events state) (moved : state.look holder = some next) :
    Tallied events next := by
  unfold FanoutState.look at moved
  split at moved
  · next copy rows row pending missing held attempted =>
    cases moved
    exact tallied.setAttempt held ((tallied.reads holder copy _ held attempted).look _ id)
  · cases moved

theorem Tallied.commit (tallied : Tallied events state) {now : Int}
    (moved : state.commit events holder now = some next) : Tallied events next := by
  unfold FanoutState.commit at moved
  split at moved
  · next copy rows missing held attempted =>
    dsimp only at moved
    split at moved
    · next deliveries updated added _ =>
      cases moved
      exact tallied.complete held attempted added
    · exact tallied.perform rfl moved
  · cases moved

theorem Tallied.step (tallied : Tallied events state) {move : FanoutMove} (moved : state.step events move = some next) :
    Tallied events next := by
  cases move with
  | queue action =>
    have performed : (if completes action then none else state.perform action) = some next := moved
    rw [Option.ite_none_left_eq_some, Bool.not_eq_true] at performed
    exact tallied.perform performed.1 performed.2
  | subscribe consumesEvents row =>
    have subscribed : state.subscribe consumesEvents row = some next := moved
    exact tallied.subscribe subscribed
  | disable tenantId installationId id =>
    cases moved
    refine { tallied with permitted := fun row member => ?_ }
    obtain ⟨old, present, rfl⟩ := List.mem_map.mp member
    exact tallied.permitted old present
  | select holder => exact tallied.select moved
  | look holder => exact tallied.look moved
  | commit holder now => exact tallied.commit moved

/-- In any interleaving of workers that fail, crash and overtake one another, a delivered event has been completed
by an attempt, and it has one delivery for each subscription that such an attempt had read as enabled and matching,
and no other; and each of these subscriptions stays within what its plugin declared. -/
theorem fanned_out {moves : List FanoutMove} {final : FanoutState}
    (run : Runs (FanoutState.step events) (fun _ _ => True) .empty moves final) :
    (∀ id, Done final.queue id → ∃ rows, (id, rows) ∈ final.completed) ∧
      (∀ id subscription, final.Delivered id subscription ↔ ∃ rows, (id, rows) ∈ final.completed ∧
        ∃ row ∈ rows, row.id = subscription ∧ (events id).wants row = true) ∧
      ∀ id rows, (id, rows) ∈ final.completed → ∀ row ∈ rows, (events id).wants row = true →
        ∃ item ∈ row.consumesEvents, eventMatches (lower (strip item)) (events id).eventType = true := by
  have tallied : Tallied events final := by
    refine run.invariant ?_ fun state move next holds _ moved => holds.step moved
    refine ⟨?_, ?_, ?_, ?_, ?_⟩
    · rintro id ⟨row, found, -⟩
      cases found
    · intro id subscription
      exact iff_of_false nofun nofun
    · intro worker copy attempt held
      cases held
    · exact nofun
    · exact nofun
  refine ⟨tallied.done, tallied.delivered, fun id rows member row read wants => ?_⟩
  have matched : eventMatches row.eventPattern (events id).eventType = true := (Bool.and_eq_true_iff.mp wants).2
  exact tallied.completed _ member row read _ matched

def sale : List FanoutMove :=
  [.queue (.enqueue { id := "event-1", maxAttempts := 10, availableAt := 0, createdAt := 0 }),
    .subscribe ["sales.*"] ⟨"sub-1", "shop", "plugin-1", "sales.order.*", "https://shop.test/hook", true, []⟩,
    .queue (.lease "a" 0 20 180 []), .queue (.start "a"), .select "a", .look "a", .commit "a" 1]

theorem fanned_out_sale : ∃ final,
    Runs (FanoutState.step fun _ => ⟨"shop", "sales.order.paid"⟩) (fun _ _ => True) .empty sale final ∧
      Done final.queue "event-1" ∧ (∃ rows, ("event-1", rows) ∈ final.completed) ∧
      final.Delivered "event-1" "sub-1" := by
  have ended : (sale.foldlM (FanoutState.step fun _ => ⟨"shop", "sales.order.paid"⟩) .empty).any
      (fun final => (final.queue.table.find "event-1").any (·.status = .done) &&
        final.completed.any fun done => done.1 == "event-1" &&
          done.2.any fun row => row.id == "sub-1" &&
            OutboxEvent.wants ⟨"shop", "sales.order.paid"⟩ row) = true := by decide +kernel
  obtain ⟨final, evaluated, found⟩ := (Option.any_eq_true _ _).mp ended
  rw [Bool.and_eq_true] at found
  obtain ⟨row, present, status⟩ := (Option.any_eq_true _ _).mp found.1
  obtain ⟨⟨id, rows⟩, completed, wanted⟩ := List.any_eq_true.mp found.2
  obtain ⟨named, wanted⟩ := (Bool.and_eq_true_iff).mp wanted
  obtain ⟨subscription, read, wants⟩ := List.any_eq_true.mp wanted
  obtain ⟨identified, wants⟩ := (Bool.and_eq_true_iff).mp wants
  cases eq_of_beq named
  have done : Done final.queue "event-1" := ⟨row, present, of_decide_eq_true status⟩
  have run := Runs.of_foldlM evaluated
  have delivered : final.Delivered "event-1" "sub-1" :=
    ((fanned_out run).2.1 _ _).mpr ⟨rows, completed, subscription, read, eq_of_beq identified, wants⟩
  exact ⟨final, run, done, (fanned_out run).1 _ done, delivered⟩

end Operly.Platform.Fanout
