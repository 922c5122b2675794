import Operly.Platform.LeaseQueue
import Operly.Python.Exceptions
import Operly.Python.Sections
import Operly.Python.Values

/-! Platform jobs by their idempotency keys: what `enqueue` looks for, and what it stores. -/

namespace Operly.Platform
open Python Relational

/-- `DigitalPlatformJobRecord` -/
structure PlatformJob where
  queue : QueueRow
  tenantId : Option String
  idempotencyScope : String
  jobType : String
  subjectKind : String
  subjectId : String
  payloadJson : String
  idempotencyKey : String
  createdBy : Option String
  deriving DecidableEq

namespace PlatformJob

def id (job : PlatformJob) : String := job.queue.id

/-- The columns of `uq_digital_platform_job_idempotency` -/
def slot (job : PlatformJob) : String × String := (job.idempotencyScope, job.idempotencyKey)

end PlatformJob

structure JobRequest where
  jobType : String
  subjectKind : String
  subjectId : String
  idempotencyKey : String
  tenantId : Option String := none
  payload : Fields := []
  priority : Int := 100
  maxAttempts : Int := 5
  availableAt : Option Int := none
  createdBy : Option String := none

structure References where
  tenants : List String
  users : List String

inductive EnqueueError where
  | value (message : String)
  /-- `IntegrityError` of the unique constraint, at these values of its columns -/
  | duplicate (slot : String × String)
  /-- `IntegrityError` of a foreign key -/
  | reference
  deriving DecidableEq

/-- `text[:width]` -/
def sliced (width : Nat) (text : String) : String := String.ofList (text.toList.take width)

theorem sliced_length_le (width : Nat) (text : String) : (sliced width text).length ≤ width := by
  rw [sliced, String.length_ofList, List.length_take]
  exact Nat.min_le_left ..

theorem sliced_of_length_le {width : Nat} {text : String} (short : text.length ≤ width) :
    sliced width text = text := by
  rw [sliced, List.take_of_length_le (by rwa [String.length_toList]), String.ofList_toList]

theorem sliced_eq_empty {width : Nat} (positive : 0 < width) {text : String} : sliced width text = "" ↔ text = "" := by
  have cut : sliced width text = "" ↔ width = 0 ∨ text.toList = [] := by
    rw [sliced, String.ofList_eq_empty_iff, List.take_eq_nil_iff]
  rw [cut, String.toList_eq_nil_iff]
  exact or_iff_right positive.ne'

structure JobStore where
  jobs : Table PlatformJob String PlatformJob.id
  unique : (jobs.rows.map PlatformJob.slot).Nodup
  width : ∀ job ∈ jobs.rows, job.idempotencyKey.length ≤ 200

namespace JobStore

def empty : JobStore := ⟨.empty, List.nodup_nil, fun _ member => absurd member List.not_mem_nil⟩

def slots (store : JobStore) : List (String × String) := store.jobs.rows.map PlatformJob.slot

/-- What `uuid4` gives for the next row: an id that no row has -/
structure FreshId (store : JobStore) where
  value : String
  unused : store.jobs.find value = none

def lookup (store : JobStore) (slot : String × String) : Option PlatformJob :=
  store.jobs.first fun job => job.slot = slot

def insert (store : JobStore) (row : PlatformJob) (unused : store.jobs.find row.id = none)
    (free : row.slot ∉ store.slots) (short : row.idempotencyKey.length ≤ 200) : JobStore where
  jobs := store.jobs.insert row
  unique := by
    rw [Table.insert_rows unused, List.map_append, List.map_singleton, List.nodup_append]
    refine ⟨store.unique, List.nodup_singleton _, ?_⟩
    intro slot held other last same
    rw [List.mem_singleton.mp last] at same
    exact free (same ▸ held)
  width := by
    intro job member
    rw [Table.insert_rows unused, List.mem_append, List.mem_singleton] at member
    cases member with
    | inl earlier => exact store.width job earlier
    | inr last => exact last ▸ short

def change (store : JobStore) (update : QueueRow → QueueRow) (keeps : ∀ row, (update row).id = row.id) : JobStore where
  jobs := store.jobs.modify (fun job => { job with queue := update job.queue }) fun job => keeps job.queue
  unique := by
    have same : (store.jobs.rows.map fun job => { job with queue := update job.queue }).map PlatformJob.slot =
        store.jobs.rows.map PlatformJob.slot := by
      rw [List.map_map]
      rfl
    exact same.symm ▸ store.unique
  width := by
    intro job member
    obtain ⟨old, known, rfl⟩ := List.mem_map.mp member
    exact store.width old known

theorem lookup_eq_some {store : JobStore} {slot : String × String} {job : PlatformJob} :
    store.lookup slot = some job ↔ job ∈ store.jobs.rows ∧ job.slot = slot := by
  constructor
  · exact fun found => Table.first_spec found
  · rintro ⟨member, same⟩
    cases found : store.lookup slot with
    | none => exact absurd same (Table.first_eq_none.mp found job member)
    | some other =>
      have first := Table.first_spec found
      rw [List.inj_on_of_nodup_map store.unique first.1 member (first.2.trans same.symm)]

end JobStore

/-! ### The service -/

def jobScope : Option String → String
  | none => "platform"
  | some tenant => if tenant = "" then "platform" else "workspace:" ++ tenant

namespace JobRequest

def scope (request : JobRequest) : String := jobScope request.tenantId

def cleanKey (request : JobRequest) : String := strip request.idempotencyKey

def slot (request : JobRequest) : String × String := (request.scope, request.cleanKey)

def storedSlot (request : JobRequest) : String × String := (request.scope, sliced 200 request.cleanKey)

theorem slot_eq_iff {first second : JobRequest} :
    first.slot = second.slot ↔ first.scope = second.scope ∧ first.cleanKey = second.cleanKey := by
  rw [slot, slot, Prod.mk.injEq]

theorem storedSlot_eq_iff {first second : JobRequest} : first.storedSlot = second.storedSlot ↔
    first.scope = second.scope ∧ sliced 200 first.cleanKey = sliced 200 second.cleanKey := by
  rw [storedSlot, storedSlot, Prod.mk.injEq]

def row (spelling : Spelling) (request : JobRequest) (now : Int) (id : String) : PlatformJob where
  queue := {
    id
    priority := clamp 0 1000 request.priority
    maxAttempts := clamp 1 20 request.maxAttempts
    availableAt := request.availableAt.getD now
    createdAt := now }
  tenantId := request.tenantId
  idempotencyScope := request.scope
  jobType := sliced 100 (strip request.jobType)
  subjectKind := sliced 60 (strip request.subjectKind)
  subjectId := sliced 160 (strip request.subjectId)
  payloadJson := Json.dumps spelling (Json.sortKeys (.obj request.payload))
  idempotencyKey := sliced 200 request.cleanKey
  createdBy := request.createdBy

def Complete (request : JobRequest) : Prop :=
  strip request.jobType ≠ "" ∧ strip request.subjectKind ≠ "" ∧ strip request.subjectId ≠ ""

instance (request : JobRequest) : Decidable request.Complete := by
  unfold Complete
  infer_instance

end JobRequest

namespace JobStore
variable (spelling : Spelling) (known : References)

def flush (store : JobStore) (row : PlatformJob) (unused : store.jobs.find row.id = none)
    (short : row.idempotencyKey.length ≤ 200) : Except EnqueueError (PlatformJob × JobStore) :=
  if taken : row.slot ∈ store.slots then .error (.duplicate row.slot)
  else if row.tenantId.any (· ∉ known.tenants) || row.createdBy.any (· ∉ known.users) then .error .reference
  else .ok (row, store.insert row unused taken short)

def enqueue (store : JobStore) (now : Int) (id : store.FreshId) (request : JobRequest) :
    Except EnqueueError (PlatformJob × JobStore) :=
  if request.cleanKey = "" then .error (.value "Platform job idempotency_key is required")
  else match store.lookup request.slot with
    | some existing => .ok (existing, store)
    | none =>
      let row := request.row spelling now id.value
      if row.jobType = "" ∨ row.subjectKind = "" ∨ row.subjectId = "" then
        .error (.value "Platform job type and subject are required")
      else store.flush known row id.unused (sliced_length_le 200 request.cleanKey)

def queue (store : JobStore) : Table QueueRow String QueueRow.id where
  rows := store.jobs.rows.map (·.queue)
  distinct := by
    rw [List.map_map]
    exact store.jobs.distinct

/-- `lease_batch`, passing by the rows that others hold locked -/
def leaseBatch (store : JobStore) (worker : String) (now limit leaseSeconds : Int) (locked : List String) : JobStore :=
  let batch := QueueService.jobs.batch store.queue now limit locked
  store.change (fun row => if row.id ∈ batch then QueueService.jobs.lease worker now leaseSeconds row else row)
    fun row => by split <;> rfl

def onLeased (store : JobStore) (worker jobId : String) (update : QueueRow → QueueRow)
    (keeps : ∀ row, (update row).id = row.id) : Except QueueError JobStore :=
  (QueueService.jobs.owned worker (store.queue.find jobId)).map fun _ =>
    store.change (fun row => if row.id = jobId then update row else row) fun row => by
      split
      · exact keeps row
      · rfl

def heartbeat (store : JobStore) (worker jobId : String) (now leaseSeconds : Int) : Except QueueError JobStore :=
  store.onLeased worker jobId (fun row => { row with
    heartbeatAt := some now
    leaseExpiresAt := some (now + clamp 30 900 leaseSeconds * Time.second) }) fun _ => rfl

def complete (store : JobStore) (worker jobId : String) (now : Int) (result : Fields) : Except QueueError JobStore :=
  store.onLeased worker jobId
    (QueueService.completed now { result := some (Json.dumps spelling (Json.sortKeys (.obj result))) }) fun _ => rfl

def fail (store : JobStore) (worker jobId : String) (now : Int) (error : String) (retryAfterSeconds : Int)
    (permanent : Bool) : Except QueueError JobStore :=
  store.onLeased worker jobId (QueueService.jobs.failed now error retryAfterSeconds permanent) fun row => by
    unfold QueueService.failed
    split <;> rfl

end JobStore

/-- What the service does to the table in one transaction that commits -/
inductive JobStep (spelling : Spelling) (known : References) : JobStore → JobStore → Prop where
  | enqueued {store after : JobStore} {now : Int} {id : store.FreshId} {request : JobRequest} {job : PlatformJob}
      (done : store.enqueue spelling known now id request = .ok (job, after)) : JobStep spelling known store after
  | leased (store : JobStore) (worker : String) (now limit leaseSeconds : Int) (locked : List String) :
      JobStep spelling known store (store.leaseBatch worker now limit leaseSeconds locked)
  | heard {store after : JobStore} {worker jobId : String} {now leaseSeconds : Int}
      (done : store.heartbeat worker jobId now leaseSeconds = .ok after) : JobStep spelling known store after
  | completed {store after : JobStore} {worker jobId : String} {now : Int} {result : Fields}
      (done : store.complete spelling worker jobId now result = .ok after) : JobStep spelling known store after
  | failed {store after : JobStore} {worker jobId error : String} {now retryAfterSeconds : Int} {permanent : Bool}
      (done : store.fail worker jobId now error retryAfterSeconds permanent = .ok after) :
      JobStep spelling known store after

abbrev JobRun (spelling : Spelling) (known : References) : JobStore → JobStore → Prop :=
  Relation.ReflTransGen (JobStep spelling known)

/-! ### The row of a request -/

section Rows
variable {spelling : Spelling} {known : References} {now : Int}

theorem row_id (request : JobRequest) (id : String) : (request.row spelling now id).id = id := rfl

theorem row_slot (request : JobRequest) (id : String) : (request.row spelling now id).slot = request.storedSlot := rfl

theorem row_incomplete (request : JobRequest) (id : String) :
    ((request.row spelling now id).jobType = "" ∨ (request.row spelling now id).subjectKind = "" ∨
      (request.row spelling now id).subjectId = "") ↔ ¬ request.Complete := by
  simp only [JobRequest.row, sliced_eq_empty (Nat.succ_pos _)]
  rw [JobRequest.Complete, not_and_or, not_and_or, not_not, not_not, not_not]

namespace JobStore

variable {store after : JobStore} {request : JobRequest}

theorem flush_taken {row : PlatformJob} {unused : store.jobs.find row.id = none}
    {short : row.idempotencyKey.length ≤ 200} (taken : row.slot ∈ store.slots) :
    store.flush known row unused short = .error (.duplicate row.slot) := dif_pos taken

theorem flush_free {row : PlatformJob} {unused : store.jobs.find row.id = none}
    {short : row.idempotencyKey.length ≤ 200} (free : row.slot ∉ store.slots)
    (referenced : (row.tenantId.any (· ∉ known.tenants) || row.createdBy.any (· ∉ known.users)) = false) :
    store.flush known row unused short = .ok (row, store.insert row unused free short) := by
  unfold JobStore.flush
  rw [dif_neg free, referenced]
  rfl

theorem flush_ok {row job : PlatformJob} {unused : store.jobs.find row.id = none}
    {short : row.idempotencyKey.length ≤ 200} (done : store.flush known row unused short = .ok (job, after)) :
    job = row ∧ after.jobs.rows = store.jobs.rows ++ [row] := by
  unfold JobStore.flush at done
  split at done
  · cases done
  split at done
  · cases done
  cases done
  exact ⟨rfl, Table.insert_rows unused⟩

theorem enqueue_found {id : store.FreshId} {job : PlatformJob} (present : request.cleanKey ≠ "")
    (found : store.lookup request.slot = some job) :
    store.enqueue spelling known now id request = .ok (job, store) := by
  rw [enqueue, if_neg present, found]

theorem enqueue_incomplete (spelling : Spelling) (known : References) (now : Int) (id : store.FreshId)
    (absent : store.lookup request.slot = none) (incomplete : ¬ request.Complete) :
    ∃ message, store.enqueue spelling known now id request = .error (.value message) := by
  rw [enqueue]
  split
  · exact ⟨_, rfl⟩
  · rw [absent]
    exact ⟨_, if_pos ((row_incomplete request id.value).mpr incomplete)⟩

theorem enqueue_new {id : store.FreshId} (present : request.cleanKey ≠ "") (absent : store.lookup request.slot = none)
    (complete : request.Complete) :
    store.enqueue spelling known now id request =
      store.flush known (request.row spelling now id.value) id.unused (sliced_length_le 200 request.cleanKey) := by
  rw [enqueue, if_neg present, absent]
  exact if_neg fun blank => (row_incomplete request id.value).mp blank complete

theorem enqueue_inserts (spelling : Spelling) (known : References) (now : Int) (id : store.FreshId)
    (present : request.cleanKey ≠ "") (absent : store.lookup request.slot = none) (complete : request.Complete)
    (free : request.storedSlot ∉ store.slots)
    (referenced : (request.tenantId.any (· ∉ known.tenants) || request.createdBy.any (· ∉ known.users)) = false) :
    ∃ after, store.enqueue spelling known now id request = .ok (request.row spelling now id.value, after) := by
  rw [enqueue_new present absent complete]
  exact ⟨_, flush_free free referenced⟩

theorem enqueue_ok {id : store.FreshId} {job : PlatformJob}
    (enqueued : store.enqueue spelling known now id request = .ok (job, after)) :
    request.cleanKey ≠ "" ∧ (store.lookup request.slot = some job ∧ after = store ∨
      job.slot = request.storedSlot ∧ after.jobs.rows = store.jobs.rows ++ [job]) := by
  have present : request.cleanKey ≠ "" := by
    intro blank
    rw [enqueue, if_pos blank] at enqueued
    cases enqueued
  refine ⟨present, ?_⟩
  cases found : store.lookup request.slot with
  | some existing =>
    rw [enqueue_found present found] at enqueued
    cases enqueued
    exact .inl ⟨rfl, rfl⟩
  | none =>
    by_cases complete : request.Complete
    · rw [enqueue_new present found complete] at enqueued
      obtain ⟨rfl, rows⟩ := flush_ok enqueued
      exact .inr ⟨row_slot request id.value, rows⟩
    · obtain ⟨message, failed⟩ :=
        enqueue_incomplete spelling known now id found complete
      rw [failed] at enqueued
      cases enqueued

theorem enqueue_duplicate {id : store.FreshId} {slot : String × String}
    (failed : store.enqueue spelling known now id request = .error (.duplicate slot)) : slot = request.storedSlot := by
  unfold enqueue at failed
  split at failed
  · cases failed
  split at failed
  · cases failed
  dsimp only at failed
  split at failed
  · cases failed
  unfold JobStore.flush at failed
  split at failed
  · cases failed
    rfl
  split at failed
  · cases failed
  · cases failed

theorem enqueue_row {id : store.FreshId} {job : PlatformJob}
    (enqueued : store.enqueue spelling known now id request = .ok (job, after)) :
    job ∈ after.jobs.rows ∧ job.slot = request.storedSlot := by
  obtain ⟨-, ⟨found, rfl⟩ | ⟨slot, rows⟩⟩ := enqueue_ok enqueued
  · have held := lookup_eq_some.mp found
    have key : job.idempotencyKey = request.cleanKey := congrArg Prod.snd held.2
    refine ⟨held.1, held.2.trans ?_⟩
    rw [JobRequest.slot, JobRequest.storedSlot, sliced_of_length_le (key ▸ after.width job held.1)]
  · rw [rows]
    exact ⟨List.mem_append_right _ (List.mem_singleton_self _), slot⟩

theorem change_keeps {update : QueueRow → QueueRow} {keeps : ∀ row, (update row).id = row.id} {job : PlatformJob}
    (member : job ∈ store.jobs.rows) :
    ∃ kept ∈ (store.change update keeps).jobs.rows, kept.id = job.id ∧ kept.slot = job.slot :=
  ⟨{ job with queue := update job.queue }, List.mem_map_of_mem member, keeps job.queue, rfl⟩

theorem onLeased_keeps {worker jobId : String} {update : QueueRow → QueueRow}
    {keeps : ∀ row, (update row).id = row.id} (done : store.onLeased worker jobId update keeps = .ok after)
    {job : PlatformJob} (member : job ∈ store.jobs.rows) :
    ∃ kept ∈ after.jobs.rows, kept.id = job.id ∧ kept.slot = job.slot := by
  obtain ⟨row, -, rfl⟩ := map_eq_ok.mp done
  exact change_keeps member

theorem enqueue_keeps {id : store.FreshId} {enqueued : PlatformJob}
    (done : store.enqueue spelling known now id request = .ok (enqueued, after)) {job : PlatformJob}
    (member : job ∈ store.jobs.rows) : job ∈ after.jobs.rows := by
  obtain ⟨-, ⟨-, rfl⟩ | ⟨-, rows⟩⟩ := enqueue_ok done
  · exact member
  · rw [rows]
    exact List.mem_append_left _ member

end JobStore

theorem JobStep.keeps {store after : JobStore} (step : JobStep spelling known store after) {job : PlatformJob}
    (member : job ∈ store.jobs.rows) : ∃ kept ∈ after.jobs.rows, kept.id = job.id ∧ kept.slot = job.slot := by
  cases step with
  | enqueued done => exact ⟨job, JobStore.enqueue_keeps done member, rfl, rfl⟩
  | leased => exact JobStore.change_keeps member
  | heard done => exact JobStore.onLeased_keeps done member
  | completed done => exact JobStore.onLeased_keeps done member
  | failed done => exact JobStore.onLeased_keeps done member

theorem JobRun.keeps {store later : JobStore} (run : JobRun spelling known store later) {job : PlatformJob}
    (member : job ∈ store.jobs.rows) : ∃ kept ∈ later.jobs.rows, kept.id = job.id ∧ kept.slot = job.slot := by
  induction run with
  | refl => exact ⟨job, member, rfl, rfl⟩
  | tail earlier step ih =>
    obtain ⟨kept, present, id, slot⟩ := ih
    obtain ⟨last, held, id', slot'⟩ := step.keeps present
    exact ⟨last, held, id'.trans id, slot'.trans slot⟩

end Rows

/-! ### Two requests -/

/-- What is promised of a second request, when `job` is the row that the first one got: with the same
scope and key it gets the same row and adds none, otherwise it neither gets that row nor runs into it. -/
def KeyContract (first second : JobRequest) (job : PlatformJob) (later : JobStore)
    (outcome : Except EnqueueError (PlatformJob × JobStore)) : Prop :=
  if first.slot = second.slot then ∃ found, outcome = .ok (found, later) ∧ found.id = job.id
  else (∀ found after, outcome = .ok (found, after) → found.id ≠ job.id) ∧ outcome ≠ .error (.duplicate job.slot)

/-- Two requests whose keys agree as stored but not as looked up: one and the same key that is too long for
its column, a long key followed by what is stored of it, or a complete request whose key is too long. -/
def Clash (first second : JobRequest) : Prop :=
  first.storedSlot = second.storedSlot ∧ (first.cleanKey = second.cleanKey → 200 < first.cleanKey.length) ∧
    (first.cleanKey ≠ second.cleanKey → second.cleanKey = sliced 200 first.cleanKey ∨ second.Complete)

section Contract
variable {spelling : Spelling} {known : References} {now : Int} {first second : JobRequest} {job kept : PlatformJob}
  {later : JobStore} {id : later.FreshId}

theorem enqueue_same (present : second.cleanKey ≠ "") (member : kept ∈ later.jobs.rows)
    (slot : kept.slot = second.slot) : later.enqueue spelling known now id second = .ok (kept, later) :=
  JobStore.enqueue_found present (JobStore.lookup_eq_some.mpr ⟨member, slot⟩)

theorem enqueue_taken (absent : later.lookup second.slot = none) (present : second.cleanKey ≠ "")
    (member : kept ∈ later.jobs.rows) (slot : kept.slot = second.storedSlot) (complete : second.Complete) :
    later.enqueue spelling known now id second = .error (.duplicate kept.slot) := by
  have taken : (second.row spelling now id.value).slot ∈ later.slots := by
    rw [row_slot, ← slot]
    exact List.mem_map_of_mem member
  rw [JobStore.enqueue_new present absent complete, slot]
  exact JobStore.flush_taken taken

theorem lookup_long (long : 200 < second.cleanKey.length) : later.lookup second.slot = none := by
  cases found : later.lookup second.slot with
  | none => rfl
  | some other =>
    obtain ⟨member, slot⟩ := JobStore.lookup_eq_some.mp found
    have key : other.idempotencyKey = second.cleanKey := congrArg Prod.snd slot
    have narrow := later.width other member
    rw [key] at narrow
    omega

theorem contract_same_iff (same : first.slot = second.slot) (present : second.cleanKey ≠ "")
    (member : kept ∈ later.jobs.rows) (kept_id : kept.id = job.id) (slot : kept.slot = first.storedSlot) :
    KeyContract first second job later (later.enqueue spelling known now id second) ↔
      first.cleanKey.length ≤ 200 := by
  obtain ⟨scopes, keys⟩ := JobRequest.slot_eq_iff.mp same
  have stored : first.storedSlot = second.storedSlot := JobRequest.storedSlot_eq_iff.mpr ⟨scopes, by rw [keys]⟩
  rw [KeyContract, if_pos same]
  constructor
  · rintro ⟨found, outcome, -⟩
    by_contra long
    have absent : later.lookup second.slot = none := lookup_long (by rw [← keys]; omega)
    by_cases complete : second.Complete
    · rw [enqueue_taken absent present member (slot.trans stored) complete] at outcome
      cases outcome
    · obtain ⟨message, failed⟩ := JobStore.enqueue_incomplete spelling known now id absent complete
      rw [failed] at outcome
      cases outcome
  · intro short
    refine ⟨kept, enqueue_same present member ?_, kept_id⟩
    rw [slot, stored, JobRequest.storedSlot, sliced_of_length_le (keys ▸ short), JobRequest.slot]

theorem contract_apart (differs : first.slot ≠ second.slot) (stored : first.storedSlot ≠ second.storedSlot)
    (member : kept ∈ later.jobs.rows) (kept_id : kept.id = job.id) (slot : kept.slot = first.storedSlot)
    (job_slot : job.slot = first.storedSlot) :
    KeyContract first second job later (later.enqueue spelling known now id second) := by
  rw [KeyContract, if_neg differs]
  constructor
  · intro found after outcome same
    obtain ⟨present, found_slot⟩ := JobStore.enqueue_row outcome
    have still := JobStore.enqueue_keeps outcome member
    have equal : found = kept :=
      List.inj_on_of_nodup_map after.jobs.distinct present still (same.trans kept_id.symm)
    apply stored
    rw [← slot, ← equal, found_slot]
  · intro outcome
    apply stored
    rw [← job_slot]
    exact JobStore.enqueue_duplicate outcome

theorem contract_other_iff (differs : first.slot ≠ second.slot) (first_present : first.cleanKey ≠ "")
    (member : kept ∈ later.jobs.rows) (kept_id : kept.id = job.id) (slot : kept.slot = first.storedSlot)
    (job_slot : job.slot = first.storedSlot) :
    KeyContract first second job later (later.enqueue spelling known now id second) ↔
      ¬ (first.storedSlot = second.storedSlot ∧
        (second.cleanKey = sliced 200 first.cleanKey ∨ second.Complete)) := by
  by_cases stored : first.storedSlot = second.storedSlot
  · obtain ⟨scopes, keys⟩ := JobRequest.storedSlot_eq_iff.mp stored
    have wide : 0 < 200 := by decide
    have present : second.cleanKey ≠ "" := by
      intro blank
      have cut : sliced 200 first.cleanKey = "" := keys.trans ((sliced_eq_empty wide).mpr blank)
      exact first_present ((sliced_eq_empty wide).mp cut)
    by_cases cut : second.cleanKey = sliced 200 first.cleanKey
    · -- the key of the second request is what the first one stored
      have found : kept.slot = second.slot := by
        rw [slot, JobRequest.storedSlot, ← cut, scopes, JobRequest.slot]
      rw [enqueue_same present member found, KeyContract, if_neg differs]
      refine iff_of_false (fun contract => contract.1 kept later rfl kept_id) ?_
      exact not_not_intro ⟨stored, .inl cut⟩
    · have absent : later.lookup second.slot = none := by
        apply lookup_long
        by_contra short
        exact cut (keys.trans (sliced_of_length_le (by omega))).symm
      by_cases complete : second.Complete
      · rw [enqueue_taken absent present member (slot.trans stored) complete, KeyContract, if_neg differs]
        refine iff_of_false (fun contract => contract.2 ?_) (not_not_intro ⟨stored, .inr complete⟩)
        rw [slot, job_slot]
      · obtain ⟨message, failed⟩ := JobStore.enqueue_incomplete spelling known now id absent complete
        rw [failed, KeyContract, if_neg differs]
        refine iff_of_true ⟨?_, ?_⟩ (by simp [cut, complete])
        · intro found after outcome
          cases outcome
        · intro outcome
          cases outcome
  · exact iff_of_true (contract_apart differs stored member kept_id slot job_slot) fun both => stored both.1

end Contract

/-- Exactly which pairs of requests keep the promise of an idempotency key, whatever happens between them -/
theorem enqueue_twice_iff {spelling : Spelling} {known : References} {store after later : JobStore} {now now' : Int}
    {id : store.FreshId} {first second : JobRequest} {job : PlatformJob}
    (enqueued : store.enqueue spelling known now id first = .ok (job, after)) (run : JobRun spelling known after later)
    (id' : later.FreshId) :
    KeyContract first second job later (later.enqueue spelling known now' id' second) ↔ ¬ Clash first second := by
  obtain ⟨present, slot⟩ := JobStore.enqueue_row enqueued
  have first_present := (JobStore.enqueue_ok enqueued).1
  obtain ⟨kept, member, kept_id, kept_slot⟩ := run.keeps present
  by_cases same : first.slot = second.slot
  · obtain ⟨scopes, keys⟩ := JobRequest.slot_eq_iff.mp same
    rw [contract_same_iff same (keys ▸ first_present) member kept_id (kept_slot.trans slot), Clash]
    simp [JobRequest.storedSlot, keys, scopes]
  · rw [contract_other_iff same first_present member kept_id (kept_slot.trans slot) slot, Clash]
    have apart (stored : first.storedSlot = second.storedSlot) : first.cleanKey ≠ second.cleanKey := by
      intro keys
      exact same (JobRequest.slot_eq_iff.mpr ⟨(JobRequest.storedSlot_eq_iff.mp stored).1, keys⟩)
    refine not_congr (and_congr_right fun stored => ?_)
    simp [apart stored]

def validationRequest (key : String) : JobRequest where
  jobType := "plugin.validate"
  subjectKind := "plugin_version"
  subjectId := "version-1"
  idempotencyKey := key

def letters (count : Nat) : String := String.ofList (List.replicate count 'k')

theorem strip_letters_length (count : Nat) : (strip (letters count)).length = count := by
  have solid : ∀ c ∈ (letters count).toList, isSpace c = false := by
    intro c member
    rw [letters, String.toList_ofList] at member
    rw [List.eq_of_mem_replicate member]
    decide
  rw [strip_solid solid, letters, String.length_ofList, List.length_replicate]

theorem validationRequest_complete (key : String) : (validationRequest key).Complete := by
  have named : strip "plugin.validate" ≠ "" ∧ strip "plugin_version" ≠ "" ∧ strip "version-1" ≠ "" := by decide
  exact named

theorem enqueue_empty (spelling : Spelling) (now : Int) {key : String} (present : (validationRequest key).cleanKey ≠ "") :
    ∃ job after, JobStore.empty.enqueue spelling ⟨[], []⟩ now ⟨"job-1", rfl⟩ (validationRequest key) = .ok (job, after) ∧
      after.jobs.find "job-2" = none := by
  let id : JobStore.empty.FreshId := ⟨"job-1", rfl⟩
  obtain ⟨after, enqueued⟩ := JobStore.enqueue_inserts spelling ⟨[], []⟩ now id present rfl
    (validationRequest_complete key) List.not_mem_nil rfl
  refine ⟨_, after, enqueued, ?_⟩
  rw [Table.find_eq_none]
  intro row member same
  obtain ⟨-, ⟨found, -⟩ | ⟨-, rows⟩⟩ := JobStore.enqueue_ok enqueued
  · cases found
  rw [rows] at member
  rw [List.mem_singleton.mp member, row_id] at same
  exact absurd same (by decide)

/-- A key of 201 characters is accepted once; the same request again is an integrity error. -/
theorem keyContract_fails : ∃ (spelling : Spelling) (known : References) (first : JobRequest) (job : PlatformJob)
    (after : JobStore) (id' : after.FreshId),
    first = validationRequest (letters 201) ∧
    JobStore.empty.enqueue spelling known 0 ⟨"job-1", rfl⟩ first = .ok (job, after) ∧
    ¬ KeyContract first first job after (after.enqueue spelling known 1 id' first) := by
  have length : (validationRequest (letters 201)).cleanKey.length = 201 := strip_letters_length 201
  have present : (validationRequest (letters 201)).cleanKey ≠ "" := by
    intro blank
    simp [blank] at length
  obtain ⟨job, after, enqueued, unused⟩ := enqueue_empty ⟨fun _ => "", fun _ => ""⟩ 0 present
  refine ⟨_, _, _, job, after, ⟨"job-2", unused⟩, rfl, enqueued, ?_⟩
  obtain ⟨member, slot⟩ := JobStore.enqueue_row enqueued
  have same : (validationRequest (letters 201)).slot = (validationRequest (letters 201)).slot := rfl
  rw [contract_same_iff same (JobStore.enqueue_ok enqueued).1 member rfl slot, length]
  decide

/-- A key that its column holds: the request that is repeated gets its row again. -/
theorem enqueue_twice_validation : ∃ (spelling : Spelling) (job : PlatformJob) (after : JobStore) (id' : after.FreshId),
    JobStore.empty.enqueue spelling ⟨[], []⟩ 0 ⟨"job-1", rfl⟩ (validationRequest " plugin.validate:1 ") = .ok (job, after) ∧
    (KeyContract (validationRequest " plugin.validate:1 ") (validationRequest "plugin.validate:1") job after
        (after.enqueue spelling ⟨[], []⟩ 1 id' (validationRequest "plugin.validate:1")) ↔
      ¬ Clash (validationRequest " plugin.validate:1 ") (validationRequest "plugin.validate:1")) := by
  obtain ⟨job, after, enqueued, unused⟩ :=
    enqueue_empty ⟨fun _ => "", fun _ => ""⟩ 0 (show (validationRequest " plugin.validate:1 ").cleanKey ≠ "" by decide)
  exact ⟨_, job, after, ⟨"job-2", unused⟩, enqueued, enqueue_twice_iff enqueued .refl ⟨"job-2", unused⟩⟩

end Operly.Platform
