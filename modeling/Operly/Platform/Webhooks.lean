import Operly.Concurrent.Growing
import Operly.Python.Values
import Operly.Relational.Columns
import Operly.Security.Context

/-! Webhook ingestion: a verified delivery leaves a receipt, the artifact of its body and one digital
event, unless a receipt with its dedupe key is there already. -/

namespace Operly.Platform.Webhooks
open Python Concurrent Relational Security Fallible Transaction

abbrev Body := List UInt8

structure Hashes where
  sha256 : Body → String
  hmacSha256 : String → Body → String
  digits : ∀ body, (sha256 body).length = 64

inductive VerificationType where
  | none
  | hmacSha256
  deriving DecidableEq

/-- `DigitalWebhookEndpointRecord` -/
structure Endpoint where
  id : String
  tenantId : String
  installationId : Option String
  endpointKeyHash : String
  eventType : String
  verificationType : VerificationType
  secretReference : Option String
  maxBodyBytes : Nat
  enabled : Bool
  createdBy : Option String
  deriving DecidableEq

/-- `ConnectorSecret`, with its `webhook_secret` unless it cannot be decrypted -/
structure ConnectorSecret where
  id : String
  tenantId : String
  webhookSecret : Option String

/-- `ArtifactRecord` -/
structure Artifact where
  id : String
  tenantId : String
  filename : String
  contentType : String
  sizeBytes : Nat
  sha256 : String
  source : String
  createdBy : Option String
  content : Body
  metadata : Fields

/-- `DigitalWebhookReceiptRecord`, with the value that `headers_json` encodes -/
structure Receipt where
  id : String
  tenantId : String
  endpointId : String
  dedupeKey : String
  bodySha256 : String
  payloadArtifactId : String
  headers : Fields
  verificationState : String
  processingState : String
  eventId : String

/-- `DigitalEventOutboxRecord`, with the values of its payload -/
structure DigitalEvent where
  id : String
  tenantId : String
  eventType : String
  sourceKind : String
  sourceId : Option String
  subjectType : Option String
  subjectId : Option String
  payload : Fields
  availableAt : Int

/-- `KernelEventRecord` of a digital event -/
structure KernelEvent where
  eventType : String
  workspaceId : String
  principalId : String
  actorType : String
  actorId : Option String
  executorPrincipalId : String
  resourceType : String
  resourceId : String
  payload : Fields

structure Delivery where
  endpointKey : String
  body : Body
  headers : List (String × String)

structure Accepted where
  delivery : Delivery
  endpoint : Endpoint
  receiptId : String

structure State where
  endpoints : List Endpoint
  secrets : List ConnectorSecret
  artifacts : List Artifact
  receipts : Table Receipt String Receipt.id
  events : Table DigitalEvent String DigitalEvent.id
  kernelEvents : List KernelEvent
  accepted : List Accepted

inductive Query where
  | endpoint (keyHash : String)
  | secret (id : String)
  | receipt (endpointId dedupeKey : String)
  | uid
  | utcnow

def queries : Interface where
  Op := Query
  Answer
    | .endpoint _ => Option Endpoint
    | .secret _ => Option ConnectorSecret
    | .receipt .. => Option Receipt
    | .uid => String
    | .utcnow => Int

/-- What a session has composed for a delivery: a receipt with all that comes with it, or nothing. -/
inductive Flush where
  | fresh (accepted : Accepted) (artifact : Artifact) (receipt : Receipt) (event : DigitalEvent)
      (kernelEvent : KernelEvent)
  | duplicate (accepted : Accepted)

/-- The unique constraint and the primary keys undo the session that comes second. -/
def commit : Flush → State → Option State
  | .fresh accepted artifact receipt event kernelEvent, state =>
      if (state.receipts.first fun other =>
            other.endpointId = receipt.endpointId ∧ other.dedupeKey = receipt.dedupeKey).isSome ||
          (state.receipts.find receipt.id).isSome || (state.events.find event.id).isSome then none
      else some { state with
        artifacts := state.artifacts ++ [artifact]
        receipts := state.receipts.insert receipt
        events := state.events.insert event
        kernelEvents := state.kernelEvents ++ [kernelEvent]
        accepted := state.accepted ++ [accepted] }
  | .duplicate accepted, state => some { state with accepted := state.accepted ++ [accepted] }

namespace State

def endpointOf (state : State) (keyHash : String) : Option Endpoint :=
  state.endpoints.find? fun row => row.endpointKeyHash = keyHash ∧ row.enabled = true

def secretRow (state : State) (id : String) : Option ConnectorSecret := state.secrets.find? (·.id = id)

end State

structure Drawn where
  text : String
  now : Int

def database : Database queries Flush State Drawn where
  select
    | .endpoint keyHash, _, state => (state.endpointOf keyHash, state)
    | .secret id, _, state => (state.secretRow id, state)
    | .receipt endpointId dedupeKey, _, state =>
        (state.receipts.first fun row => row.endpointId = endpointId ∧ row.dedupeKey = dedupeKey, state)
    | .uid, drawn, state => (drawn.text, state)
    | .utcnow, drawn, state => (drawn.now, state)
  commit := commit

/-! ### The service -/

inductive WebhookError where
  | lookup (message : String)
  | value (message : String)
  | verification (message : String)
  | runtime (message : String)
  | typeError
  | database
  deriving DecidableEq

abbrev Session (α : Type) := Transaction queries Flush WebhookError α

def ask (query : Query) : Session (queries.Answer query) :=
  Transaction.select (show queries.Op from query)

/-- `{str(k).lower(): str(v) for k, v in headers.items()}.get(name)`: the last one wins. -/
def header (headers : List (String × String)) (name : String) : Option String :=
  (headers.reverse.find? fun entry => lower entry.1 = name).map (·.2)

def truncated (text : String) (length : Nat) : String := String.ofList (text.toList.take length)

def suppliedSignature (headers : List (String × String)) : String :=
  let supplied := strip ((header headers "x-operly-webhook-signature").getD "")
  if startsWith supplied "sha256=" then String.ofList (supplied.toList.drop 7) else supplied

def eventId (headers : List (String × String)) : Option String :=
  (header headers "x-operly-event-id").filter (· ≠ "")

def dedupeKey (hashes : Hashes) (delivery : Delivery) : String :=
  truncated ((eventId delivery.headers).getD (hashes.sha256 delivery.body)) 240

def maxBodyBytes : Nat := 1024 * 1024

def readSecret (tenantId reference : String) : Session String := do
  let found : Option ConnectorSecret ← ask (.secret reference)
  match found.filter (·.tenantId = tenantId) with
  | none => raise (.lookup "Connector credential not found")
  | some row =>
      match row.webhookSecret with
      | none => raise (.runtime "Connector credential cannot be decrypted")
      | some secret => return secret

def verify (hashes : Hashes) (row : Endpoint) (delivery : Delivery) : Session Unit :=
  match row.verificationType with
  | .none => return ()
  | .hmacSha256 => do
      let secret ← readSecret row.tenantId (row.secretReference.getD "None")
      if secret = "" then
        raise (.verification "Webhook verification secret is unavailable")
      let supplied := suppliedSignature delivery.headers
      if supplied = "" then
        raise (.verification "Webhook signature is invalid")
      -- `compare_digest` takes ASCII texts only
      if supplied.toList.any fun c => 128 ≤ c.toNat then
        raise .typeError
      if supplied ≠ hashes.hmacSha256 secret delivery.body then
        raise (.verification "Webhook signature is invalid")

structure Emission where
  tenantId : String
  eventType : String
  sourceKind : String
  sourceId : Option String
  subjectType : Option String
  subjectId : Option String
  payload : Fields
  triggerPayload : Fields

def jsonText (text : Option String) : Json := (text.map Json.str).getD .null

def shortened (text : Option String) (length : Nat) : Option String :=
  (text.filter (· ≠ "")).map (truncated · length)

def kernelEvent (emission : Emission) (eventType resourceId : String) : KernelEvent where
  eventType := eventType
  workspaceId := emission.tenantId
  principalId := "digital:" ++
    truncated (if emission.sourceKind = "" then "system" else emission.sourceKind) 120
  actorType := if ["webhook", "plugin", "plugin_runtime", "external"].contains (lower emission.sourceKind)
    then "external" else "system"
  actorId := shortened emission.sourceId 160
  executorPrincipalId := "operly:digital-event-bridge"
  resourceType := "digital_event"
  resourceId := resourceId
  payload := [("digital_event_id", .str resourceId),
    ("digital_source_kind", .str (truncated emission.sourceKind 80)),
    ("digital_source_id", jsonText (shortened emission.sourceId 160)),
    ("digital_subject_type", jsonText (shortened emission.subjectType 100)),
    ("digital_subject_id", jsonText (shortened emission.subjectId 160)),
    ("trigger", .obj emission.triggerPayload)]

/-- `DigitalEventService.emit` with the bridge to the kernel -/
def emit (spelling : Spelling) (emission : Emission) : Session (DigitalEvent × KernelEvent) := do
  let eventType := lower (strip emission.eventType)
  if eventType = "" ∨ 160 < eventType.length then
    raise (.value "event_type is invalid; canonical semantic events are at most 160 characters")
  let availableAt : Int ← ask .utcnow
  let id : String ← ask .uid
  if 8192 < (Json.dumps spelling (Json.obj emission.triggerPayload).sortKeys).utf8ByteSize then
    raise (.value "trigger_payload exceeds the 8 KiB semantic-event projection limit")
  return (⟨id, emission.tenantId, eventType, emission.sourceKind, emission.sourceId, emission.subjectType,
    emission.subjectId, emission.payload, availableAt⟩, kernelEvent emission eventType id)

/-- `ArtifactService.create_bytes` of a delivery; its limit of 25 MiB is above the one of a delivery. -/
def createArtifact (hashes : Hashes) (row : Endpoint) (delivery : Delivery) : Session Artifact := do
  let digest := hashes.sha256 delivery.body
  let contentType := truncated ((header delivery.headers "content-type").getD "application/octet-stream") 200
  let id : String ← ask .uid
  return { id
           tenantId := row.tenantId
           filename := truncated (strip s!"webhook-{row.id}-{truncated digest 12}.bin") 255
           contentType := if contentType = "" then "application/octet-stream" else contentType
           sizeBytes := delivery.body.length
           sha256 := digest
           source := "webhook_ingress"
           createdBy := row.createdBy
           content := delivery.body
           metadata := [("webhook_endpoint_id", .str row.id), ("event_type", .str row.eventType)] }

def safeHeaders (headers : List (String × String)) : Fields :=
  ["content-type", "user-agent", "x-operly-event-id"].filterMap fun name =>
    (header headers name).map fun value => (name, .str (truncated value 1000))

def verificationState : VerificationType → String
  | .none => "not_required"
  | .hmacSha256 => "verified"

/-- The receipt of a delivery that has none yet, with all that comes with it. -/
def ingest (hashes : Hashes) (spelling : Spelling) (row : Endpoint) (dedupeKey : String) (delivery : Delivery) :
    Session (Receipt × Flush) := do
  let digest := hashes.sha256 delivery.body
  let artifact ← createArtifact hashes row delivery
  let receiptId : String ← ask .uid
  let projection : Fields := [("receipt_id", .str receiptId), ("artifact_id", .str artifact.id),
    ("body_sha256", .str digest), ("content_type", .str artifact.contentType)]
  let subject : String × String := match row.installationId.filter (· ≠ "") with
    | some installation => ("plugin_installation", installation)
    | none => ("workspace", row.tenantId)
  let (event, kernelEvent) ← emit spelling ⟨row.tenantId, row.eventType, "webhook", row.id, subject.1, subject.2,
    projection, projection⟩
  let receipt : Receipt := ⟨receiptId, row.tenantId, row.id, dedupeKey, digest, artifact.id,
    safeHeaders delivery.headers, verificationState row.verificationType, "accepted", event.id⟩
  return (receipt, .fresh ⟨delivery, row, receiptId⟩ artifact receipt event kernelEvent)

def accept (hashes : Hashes) (spelling : Spelling) (row : Endpoint) (dedupeKey : String) (delivery : Delivery) :
    Session (Receipt × Flush) := do
  let existing : Option Receipt ← ask (.receipt row.id dedupeKey)
  match existing with
  | some receipt => return (receipt, .duplicate ⟨delivery, row, receipt.id⟩)
  | none => ingest hashes spelling row dedupeKey delivery

/-- `DigitalWebhookService.receive`, with what it has composed -/
def receive (hashes : Hashes) (spelling : Spelling) (delivery : Delivery) : Session (Receipt × Flush) := do
  let found : Option Endpoint ← ask (.endpoint (hashes.sha256 delivery.endpointKey.toUTF8.toList))
  match found with
  | none => raise (.lookup "Webhook endpoint not found")
  | some row =>
      if min row.maxBodyBytes maxBodyBytes < delivery.body.length then
        raise (.value "Webhook payload exceeds endpoint policy")
      verify hashes row delivery
      accept hashes spelling row (dedupeKey hashes delivery) delivery

structure Response where
  receiptId : String
  duplicate : Bool

/-- `receive_webhook`: one delivery in a transaction of its own -/
def receiveWebhook (hashes : Hashes) (spelling : Spelling) (_ : Nat) (delivery : Delivery) :
    Session Response :=
  Transaction.commits .database do
    let (receipt, flush) ← receive hashes spelling delivery
    return (⟨receipt.id, receipt.processingState ≠ "accepted"⟩, flush)

/-! ### What the tables say about the deliveries -/

def State.secretOf (state : State) (endpoint : Endpoint) : Option String :=
  ((state.secretRow (endpoint.secretReference.getD "None")).filter (·.tenantId = endpoint.tenantId)).bind
    ConnectorSecret.webhookSecret

namespace Accepted

def key (hashes : Hashes) (accepted : Accepted) : String := dedupeKey hashes accepted.delivery

/-- The delivery names the endpoint's key and has the signature that the endpoint asks for. -/
structure Verified (hashes : Hashes) (state : State) (accepted : Accepted) : Prop where
  named : state.endpointOf (hashes.sha256 accepted.delivery.endpointKey.toUTF8.toList) = some accepted.endpoint
  signed : accepted.endpoint.verificationType = .hmacSha256 → ∃ secret ≠ "",
    state.secretOf accepted.endpoint = some secret ∧
      suppliedSignature accepted.delivery.headers = hashes.hmacSha256 secret accepted.delivery.body

end Accepted

structure Receipt.Answers (hashes : Hashes) (receipt : Receipt) (accepted : Accepted) : Prop where
  id : receipt.id = accepted.receiptId
  endpoint : receipt.endpointId = accepted.endpoint.id
  key : receipt.dedupeKey = accepted.key hashes

/-- The receipts are unique by their keys, there is one event for each in turn, and they are the ones of
the accepted deliveries. -/
structure Ingested (hashes : Hashes) (start state : State) : Prop where
  endpoints : state.endpoints = start.endpoints
  secrets : state.secrets = start.secrets
  keyed : ∀ first ∈ state.receipts.rows, ∀ second ∈ state.receipts.rows,
    first.endpointId = second.endpointId → first.dedupeKey = second.dedupeKey → first = second
  events : state.events.rows.map DigitalEvent.id = state.receipts.rows.map Receipt.eventId
  answered : ∀ accepted ∈ state.accepted, accepted.Verified hashes start ∧
    ∃ receipt ∈ state.receipts.rows, receipt.Answers hashes accepted
  caused : ∀ receipt ∈ state.receipts.rows, ∃ accepted ∈ state.accepted, receipt.Answers hashes accepted

/-- What a commit needs: a verified delivery, and a receipt that answers it. -/
def Allowed (hashes : Hashes) (start : State) : Flush → State → Prop
  | .fresh accepted _ receipt event _, _ =>
      accepted.Verified hashes start ∧ receipt.Answers hashes accepted ∧ receipt.eventId = event.id
  | .duplicate accepted, state =>
      accepted.Verified hashes start ∧ ∃ receipt ∈ state.receipts.rows, receipt.Answers hashes accepted

structure Grows (before after : State) : Prop where
  receipts : ∀ receipt ∈ before.receipts.rows, receipt ∈ after.receipts.rows
  accepted : ∀ accepted ∈ before.accepted, accepted ∈ after.accepted

def Told (delivery : Delivery) (receiptId : String) (state : State) : Prop :=
  ∃ accepted ∈ state.accepted, accepted.delivery = delivery ∧ accepted.receiptId = receiptId

def Flush.accepted : Flush → Accepted
  | .fresh accepted .. => accepted
  | .duplicate accepted => accepted

theorem commit_accepted {flush : Flush} {state after : State} (committed : commit flush state = some after) :
    after.accepted = state.accepted ++ [flush.accepted] := by
  cases flush with
  | fresh =>
    simp only [commit] at committed
    split at committed
    · cases committed
    · cases committed
      rfl
  | duplicate =>
    cases committed
    rfl

theorem commit_fresh {accepted : Accepted} {artifact : Artifact} {receipt : Receipt} {event : DigitalEvent}
    {kernelEvent : KernelEvent} {state after : State}
    (committed : commit (.fresh accepted artifact receipt event kernelEvent) state = some after) :
    (∀ other ∈ state.receipts.rows, ¬ (other.endpointId = receipt.endpointId ∧ other.dedupeKey = receipt.dedupeKey)) ∧
      after.receipts.rows = state.receipts.rows ++ [receipt] ∧ after.events.rows = state.events.rows ++ [event] ∧
        after.endpoints = state.endpoints ∧ after.secrets = state.secrets := by
  simp only [commit] at committed
  split at committed
  · cases committed
  · next free =>
    cases committed
    rw [Bool.or_eq_true, Bool.or_eq_true, not_or, not_or] at free
    refine ⟨Table.first_eq_none.mp (Option.not_isSome_iff_eq_none.mp free.1.1), ?_, ?_, rfl, rfl⟩
    · exact Table.insert_rows (Option.not_isSome_iff_eq_none.mp free.1.2)
    · exact Table.insert_rows (Option.not_isSome_iff_eq_none.mp free.2)

section Commits
variable {hashes : Hashes} {start state after : State}

theorem Ingested.fresh {accepted : Accepted} {artifact : Artifact} {receipt : Receipt} {event : DigitalEvent}
    {kernelEvent : KernelEvent} (ingested : Ingested hashes start state)
    (allowed : Allowed hashes start (.fresh accepted artifact receipt event kernelEvent) state)
    (committed : commit (.fresh accepted artifact receipt event kernelEvent) state = some after) :
    Ingested hashes start after := by
  obtain ⟨free, receipts, events, endpoints, secrets⟩ := commit_fresh committed
  have log : after.accepted = state.accepted ++ [accepted] := commit_accepted committed
  obtain ⟨verified, answers, source⟩ := allowed
  refine ⟨endpoints.trans ingested.endpoints, secrets.trans ingested.secrets, ?_, ?_, ?_, ?_⟩
  · rw [receipts]
    intro first firstIn second secondIn sameEndpoint sameKey
    simp only [List.mem_append, List.mem_singleton] at firstIn secondIn
    rcases firstIn with old | rfl <;> rcases secondIn with old' | rfl
    · exact ingested.keyed first old second old' sameEndpoint sameKey
    · exact absurd ⟨sameEndpoint, sameKey⟩ (free first old)
    · exact absurd ⟨sameEndpoint.symm, sameKey.symm⟩ (free second old')
    · rfl
  · rw [receipts, events, List.map_append, List.map_append, ingested.events]
    simp only [List.map_cons, List.map_nil, source]
  · rw [receipts, log]
    intro entry member
    rcases List.mem_append.mp member with old | fresh
    · obtain ⟨known, row, rowIn, same⟩ := ingested.answered entry old
      exact ⟨known, row, List.mem_append_left _ rowIn, same⟩
    · rw [List.mem_singleton.mp fresh]
      exact ⟨verified, receipt, List.mem_append_right _ (List.mem_singleton_self receipt), answers⟩
  · rw [receipts, log]
    intro row member
    rcases List.mem_append.mp member with old | fresh
    · obtain ⟨entry, entryIn, same⟩ := ingested.caused row old
      exact ⟨entry, List.mem_append_left _ entryIn, same⟩
    · rw [List.mem_singleton.mp fresh]
      exact ⟨accepted, List.mem_append_right _ (List.mem_singleton_self accepted), answers⟩

theorem Ingested.commit {flush : Flush} (ingested : Ingested hashes start state)
    (allowed : Allowed hashes start flush state) (committed : commit flush state = some after) :
    Ingested hashes start after ∧ Grows state after := by
  have log := commit_accepted committed
  have logged : ∀ accepted ∈ state.accepted, accepted ∈ after.accepted := by
    rw [log]
    exact fun accepted member => List.mem_append_left _ member
  cases flush with
  | fresh accepted artifact receipt event kernelEvent =>
    refine ⟨ingested.fresh allowed committed, ⟨?_, logged⟩⟩
    rw [(commit_fresh committed).2.1]
    exact fun row member => List.mem_append_left _ member
  | duplicate accepted =>
    cases committed
    refine ⟨⟨ingested.endpoints, ingested.secrets, ingested.keyed, ingested.events, ?_, ?_⟩, ⟨fun _ member => member, logged⟩⟩
    · intro entry member
      rcases List.mem_append.mp member with old | fresh
      · exact ingested.answered entry old
      · rw [List.mem_singleton.mp fresh]
        exact allowed
    · intro row member
      obtain ⟨entry, entryIn, same⟩ := ingested.caused row member
      exact ⟨entry, logged entry entryIn, same⟩

end Commits

def growth (hashes : Hashes) (start : State) : Growth database where
  invariant := Ingested hashes start
  grows := Grows
  allowed := Allowed hashes start
  refl _ := ⟨fun _ member => member, fun _ member => member⟩
  trans first second := ⟨fun row member => second.receipts row (first.receipts row member),
    fun entry member => second.accepted entry (first.accepted entry member)⟩
  selects query drawn state ingested := by
    have same : (database.select query drawn state).2 = state := by cases query <;> rfl
    rw [same]
    exact ⟨ingested, ⟨fun _ member => member, fun _ member => member⟩⟩
  commits ingested allowed committed := ingested.commit allowed committed

theorem allowed_lasting (hashes : Hashes) (start : State) (flush : Flush) :
    (growth hashes start).Lasting (Allowed hashes start flush) := by
  intro before after allowed grown
  cases flush with
  | fresh => exact allowed
  | duplicate accepted =>
    obtain ⟨verified, receipt, member, answers⟩ := allowed
    exact ⟨verified, receipt, grown.receipts receipt member, answers⟩

theorem told_lasting (hashes : Hashes) (start : State) (delivery : Delivery) (receiptId : String) :
    (growth hashes start).Lasting (Told delivery receiptId) := by
  intro before after told grown
  obtain ⟨accepted, member, same⟩ := told
  exact ⟨accepted, grown.accepted accepted member, same⟩

/-! ### What a session composes -/

def Reads (start : State) : (query : queries.Op) → queries.Answer query → Prop
  | .endpoint keyHash, found => found = start.endpointOf keyHash
  | .secret id, found => found = start.secretRow id
  | _, _ => True

section Composes
variable {hashes : Hashes} {start : State}

theorem database_reads (query : queries.Op) (drawn : Drawn) (state : State)
    (ingested : (growth hashes start).invariant state) : Reads start query (database.select query drawn state).1 := by
  cases query with
  | endpoint keyHash =>
    show state.endpoints.find? _ = start.endpoints.find? _
    rw [ingested.endpoints]
  | secret id =>
    show state.secrets.find? _ = start.secrets.find? _
    rw [ingested.secrets]
  | receipt | uid | utcnow => trivial

theorem ask_yields (query : Query) : (ask query).Yields (Reads start) (Reads start query) := by
  apply Yields.select
  exact fun _ known => known

theorem readSecret_yields (row : Endpoint) :
    (readSecret row.tenantId (row.secretReference.getD "None")).Yields (Reads start)
      fun secret => start.secretOf row = some secret := by
  apply Yields.bind_select
  intro (found : Option ConnectorSecret) known
  subst known
  unfold State.secretOf
  split
  · exact Yields.raise
  · next owned =>
    rw [owned]
    split
    · exact Yields.raise
    · next present => exact Yields.pure present

variable {row : Endpoint} {delivery entry : Delivery} {pid : Nat}

theorem verify_yields (named : start.endpointOf (hashes.sha256 delivery.endpointKey.toUTF8.toList) = some row) :
    (verify hashes row delivery).Yields (Reads start)
      fun _ => ∀ receiptId, Accepted.Verified hashes start ⟨delivery, row, receiptId⟩ := by
  unfold verify
  split
  · next unsigned =>
    apply Yields.pure
    refine fun receiptId => ⟨named, fun signed => ?_⟩
    cases unsigned.symm.trans signed
  · apply Yields.bind (readSecret_yields row)
    intro secret read
    apply Yields.check
    intro present
    apply Yields.check
    intro _
    apply Yields.check
    intro _
    apply Yields.ite
    · exact fun _ => Yields.raise
    · intro same
      exact Yields.pure fun receiptId => ⟨named, fun _ => ⟨secret, present, read, not_not.mp same⟩⟩

theorem createArtifact_yields (row : Endpoint) (delivery : Delivery) :
    (createArtifact hashes row delivery).Yields (Reads start) fun _ => True := by
  apply Yields.bind_select
  exact fun _ _ => Yields.pure trivial

theorem emit_yields (spelling : Spelling) (emission : Emission) :
    (emit spelling emission).Yields (Reads start) fun _ => True := by
  unfold emit
  extract_lets eventType
  apply Yields.check
  intro _
  apply Yields.bind_select
  intro _ _
  apply Yields.bind_select
  intro _ _
  apply Yields.check
  exact fun _ => Yields.pure trivial

/-- What a session may commit for a delivery, with the receipt that it returns. -/
structure Composed (hashes : Hashes) (start : State) (delivery : Delivery) (result : Receipt × Flush) (state : State) :
    Prop where
  allowed : Allowed hashes start result.2 state
  delivery : result.2.accepted.delivery = delivery
  receipt : result.2.accepted.receiptId = result.1.id

theorem ingest_yields (spelling : Spelling)
    (verified : ∀ receiptId, Accepted.Verified hashes start ⟨delivery, row, receiptId⟩) :
    (ingest hashes spelling row (dedupeKey hashes delivery) delivery).Yields (Reads start)
      fun result => ∀ state, Composed hashes start delivery result state := by
  apply Yields.bind (createArtifact_yields _ _)
  intro artifact _
  apply Yields.bind_select
  intro (receiptId : String) _
  apply Yields.bind (emit_yields _ _)
  exact fun _ _ => Yields.pure fun _ => ⟨⟨verified receiptId, ⟨rfl, rfl, rfl⟩, rfl⟩, rfl, rfl⟩

/-- What the session finds of a receipt; it is still there when the session commits. -/
def Found (hashes : Hashes) (row : Endpoint) (delivery : Delivery) (existing : Option Receipt) (state : State) : Prop :=
  ∀ receipt, existing = some receipt → receipt ∈ state.receipts.rows ∧
    receipt.endpointId = row.id ∧ receipt.dedupeKey = dedupeKey hashes delivery

theorem ask_found (row : Endpoint) (delivery : Delivery) :
    ((growth hashes start).setting Delivery).Triple pid entry (fun _ => True)
      (ask (.receipt row.id (dedupeKey hashes delivery))) (Found hashes row delivery) := by
  apply Growth.query
  · exact fun _ _ _ _ => trivial
  · intro existing before after known grown receipt same
    exact ⟨grown.receipts receipt (known receipt same).1, (known receipt same).2⟩
  · exact fun drawn state _ _ receipt found => Table.first_spec found

theorem accept_composed (spelling : Spelling)
    (verified : ∀ receiptId, Accepted.Verified hashes start ⟨delivery, row, receiptId⟩) :
    ((growth hashes start).setting Delivery).Triple pid entry (fun _ => True)
      (accept hashes spelling row (dedupeKey hashes delivery) delivery) (Composed hashes start delivery) := by
  apply Triple.bind _ (ask_found row delivery)
  intro (existing : Option Receipt)
  cases existing with
  | none =>
    apply Triple.weaken (Growth.of_yields database_reads (ingest_yields spelling verified))
    · exact fun _ _ => trivial
    · exact fun _ state composed => composed state
  | some receipt =>
    apply Triple.pure
    · intro before after composed grown
      exact ⟨allowed_lasting hashes start _ before after composed.allowed grown, composed.delivery, composed.receipt⟩
    · intro state known
      obtain ⟨member, endpoint, key⟩ := known receipt rfl
      exact ⟨⟨verified receipt.id, receipt, member, rfl, endpoint, key⟩, rfl, rfl⟩

theorem receive_composed (spelling : Spelling) (delivery : Delivery) :
    ((growth hashes start).setting Delivery).Triple pid entry (fun _ => True)
      (receive hashes spelling delivery) (Composed hashes start delivery) := by
  apply Triple.bind _ (Growth.of_yields database_reads (ask_yields _))
  intro (found : Option Endpoint)
  apply Growth.known
  intro named
  cases found with
  | none => exact Triple.raise
  | some row =>
    apply Growth.check
    intro _
    apply Triple.bind _ (Growth.of_yields database_reads (verify_yields named.symm))
    intro _
    apply Growth.known
    exact accept_composed spelling

def Recorded (delivery : Delivery) (response : Response) (flush : Flush) : Prop :=
  flush.accepted.delivery = delivery ∧ flush.accepted.receiptId = response.receiptId

theorem receiveWebhook_told (spelling : Spelling) (pid : Nat) (delivery : Delivery) :
    ((growth hashes start).setting Delivery).Triple pid delivery (fun _ => True)
      (receiveWebhook hashes spelling pid delivery) fun response => Told delivery response.receiptId := by
  refine Growth.transaction (Recorded delivery) (allowed_lasting hashes start)
    (fun _ => told_lasting hashes start _ _) ?_ ?_
  · apply Triple.bind _ (receive_composed spelling delivery)
    rintro ⟨receipt, flush⟩
    refine Triple.pure ?_ ?_
    · exact fun before after known grown => ⟨allowed_lasting hashes start _ before after known.1 grown, known.2⟩
    · exact fun state composed => ⟨composed.allowed, composed.delivery, composed.receipt⟩
  · intro response flush state after related committed
    refine ⟨flush.accepted, ?_, related⟩
    rw [commit_accepted committed]
    exact List.mem_append_right _ (List.mem_singleton_self _)

end Composes

/-! ### Deliveries and their receipts -/

namespace Ingested
variable {hashes : Hashes} {start state : State} {first second : Accepted}

theorem eventIds_nodup (ingested : Ingested hashes start state) :
    (state.receipts.rows.map Receipt.eventId).Nodup := by
  rw [← ingested.events]
  exact state.events.distinct

theorem sameReceipt_iff (ingested : Ingested hashes start state) (firstIn : first ∈ state.accepted)
    (secondIn : second ∈ state.accepted) : first.receiptId = second.receiptId ↔
      first.endpoint.id = second.endpoint.id ∧ first.key hashes = second.key hashes := by
  obtain ⟨-, receipt, receiptIn, answers⟩ := ingested.answered first firstIn
  obtain ⟨-, other, otherIn, answers'⟩ := ingested.answered second secondIn
  constructor
  · intro same
    have one : receipt = other := by
      apply List.inj_on_of_nodup_map state.receipts.distinct receiptIn otherIn
      rw [answers.id, answers'.id, same]
    subst one
    exact ⟨answers.endpoint.symm.trans answers'.endpoint, answers.key.symm.trans answers'.key⟩
  · intro ⟨endpoint, key⟩
    have one : receipt = other := by
      apply ingested.keyed receipt receiptIn other otherIn
      · rw [answers.endpoint, answers'.endpoint, endpoint]
      · rw [answers.key, answers'.key, key]
    rw [← answers.id, ← answers'.id, one]

theorem one_receipt (ingested : Ingested hashes start state) (member : first ∈ state.accepted) :
    ∃ receipt ∈ state.receipts.rows, receipt.Answers hashes first ∧
      (∀ other ∈ state.receipts.rows, other.endpointId = first.endpoint.id → other.dedupeKey = first.key hashes →
        other = receipt) ∧
      ∃ event ∈ state.events.rows, event.id = receipt.eventId := by
  obtain ⟨-, receipt, receiptIn, answers⟩ := ingested.answered first member
  refine ⟨receipt, receiptIn, answers, ?_, ?_⟩
  · intro other otherIn endpoint key
    apply ingested.keyed other otherIn receipt receiptIn
    · rw [endpoint, answers.endpoint]
    · rw [key, answers.key]
  · have listed : receipt.eventId ∈ state.events.rows.map DigitalEvent.id := by
      rw [ingested.events]
      exact List.mem_map_of_mem receiptIn
    obtain ⟨event, eventIn, same⟩ := List.mem_map.mp listed
    exact ⟨event, eventIn, same⟩

end Ingested

/-- Whatever the deliveries interleave: the accepted ones are verified, each has one receipt and one
event, two of them share these if and only if they have one endpoint and one dedupe key, and there are
no others. -/
theorem webhook_ingested_once (hashes : Hashes) (spelling : Spelling) {start : State} {moves : List (Move Delivery Drawn)}
    {final : Pool (sessions queries Flush) Delivery (Except WebhookError Response) State}
    (unused : start.receipts.rows = [] ∧ start.events.rows = [] ∧ start.accepted = [])
    (run : Runs (Pool.step database.world fun pid delivery => (receiveWebhook hashes spelling pid delivery).run)
      (fun _ _ => True) (Pool.initial start) moves final) :
    (∀ pid delivery response, final.tasks pid = some ⟨delivery, some (.done (.ok response))⟩ →
      ∃ accepted ∈ final.shared.accepted, accepted.delivery = delivery ∧ accepted.receiptId = response.receiptId) ∧
    (∀ accepted ∈ final.shared.accepted, accepted.Verified hashes start ∧
      ∃ receipt ∈ final.shared.receipts.rows, receipt.Answers hashes accepted ∧
        (∀ other ∈ final.shared.receipts.rows, other.endpointId = accepted.endpoint.id →
          other.dedupeKey = accepted.key hashes → other = receipt) ∧
        ∃ event ∈ final.shared.events.rows, event.id = receipt.eventId) ∧
    (∀ first ∈ final.shared.accepted, ∀ second ∈ final.shared.accepted, first.receiptId = second.receiptId ↔
      first.endpoint.id = second.endpoint.id ∧ first.key hashes = second.key hashes) ∧
    (∀ receipt ∈ final.shared.receipts.rows, ∃ accepted ∈ final.shared.accepted, receipt.Answers hashes accepted) ∧
    final.shared.events.rows.map DigitalEvent.id = final.shared.receipts.rows.map Receipt.eventId ∧
    (final.shared.receipts.rows.map Receipt.eventId).Nodup := by
  obtain ⟨noReceipts, noEvents, noneAccepted⟩ := unused
  have initially : (growth hashes start).invariant start := by
    refine ⟨rfl, rfl, ?_, ?_, ?_, ?_⟩
    · simp only [noReceipts, List.not_mem_nil, false_implies, implies_true]
    · simp only [noReceipts, noEvents, List.map_nil]
    · simp only [noneAccepted, List.not_mem_nil, false_implies, implies_true]
    · simp only [noReceipts, List.not_mem_nil, false_implies, implies_true]
  obtain ⟨ingested, told⟩ := Growth.everywhere (receiveWebhook_told spelling) initially run
  refine ⟨told, ?_, ?_, ingested.caused, ingested.events, ingested.eventIds_nodup⟩
  · exact fun accepted member => ⟨(ingested.answered accepted member).1, ingested.one_receipt member⟩
  · exact fun first firstIn second secondIn => ingested.sameReceipt_iff firstIn secondIn

def digests : Hashes where
  sha256 body :=
    if body = "whk_orders".toUTF8.toList then "0e87d49d08461418140507f29fcb70d7e5f60a7a3553539e5b3899d9d0ed8821"
    else if body = [91, 49, 93] then "080a9ed428559ef602668b4c00f114f1a11c3f6b02a435f0bdc154578e4d7f22"
    else "44136fa355b3678a1146ad16f7e8649e94fb4fc21fe77e8310c060f61caaff8a"
  hmacSha256 _ body :=
    if body = [91, 49, 93] then "d832580a6b785bddc42cfd5e19af6afc8bb83961067968ee9bb8d7bdf45df058"
    else "77325902caca812dc259733aacd046b73817372c777b8d95b402647474516e13"
  digits body := by split_ifs <;> decide

def plain : Spelling := ⟨fun _ => "0.0", fun _ => ""⟩

def orders : Endpoint := ⟨"endpoint", "tenant", none, "0e87d49d08461418140507f29fcb70d7e5f60a7a3553539e5b3899d9d0ed8821",
  "orders.created", .hmacSha256, some "credential", 1048576, true, none⟩

def opened : State where
  endpoints := [orders]
  secrets := [⟨"credential", "tenant", some "secret"⟩]
  artifacts := []
  receipts := .empty
  events := .empty
  kernelEvents := []
  accepted := []

def delivered (id : String) : Delivery where
  endpointKey := "whk_orders"
  body := [91, 49, 93]
  headers := [("x-operly-event-id", id),
    ("x-operly-webhook-signature", "sha256=d832580a6b785bddc42cfd5e19af6afc8bb83961067968ee9bb8d7bdf45df058")]

def forged : Delivery := { delivered "second" with body := [123, 125] }

def serve (pid : Nat) (texts : List String) : List (Move Delivery Drawn) :=
  texts.map fun text => .act pid ⟨text, 0⟩

def redelivered : List (Move Delivery Drawn) :=
  [.start 0 (delivered "first"), .start 1 (delivered "first"), .start 2 (delivered "first"), .start 3 forged] ++
    serve 0 ["", "", "", "artifact", "receipt", "", "event"] ++
    serve 1 ["", "", "", "other artifact", "other receipt", "", "other event"] ++
    serve 0 [""] ++ serve 1 [""] ++ serve 2 ["", "", "", ""] ++ serve 3 ["", ""]

theorem redelivered_runs : (redelivered.foldlM (Pool.step database.world fun pid delivery =>
    (receiveWebhook digests plain pid delivery).run) (Pool.initial opened)).map (fun pool =>
      (pool.shared.accepted.map Accepted.receiptId, pool.shared.receipts.rows.map Receipt.id)) =
    some (["receipt", "receipt"], ["receipt"]) := by
  decide +kernel

theorem webhook_redelivered_once : ∃ final, Runs (Pool.step database.world fun pid delivery =>
      (receiveWebhook digests plain pid delivery).run) (fun _ _ => True) (Pool.initial opened) redelivered final ∧
    final.shared.accepted.map Accepted.receiptId = ["receipt", "receipt"] ∧
    final.shared.receipts.rows.map Receipt.id = ["receipt"] ∧
    final.shared.events.rows.map DigitalEvent.id = final.shared.receipts.rows.map Receipt.eventId := by
  obtain ⟨final, evaluated, facts⟩ := Option.map_eq_some_iff.mp redelivered_runs
  have run := Runs.of_foldlM evaluated
  have once := webhook_ingested_once digests plain ⟨rfl, rfl, rfl⟩ run
  exact ⟨final, run, congrArg Prod.fst facts, congrArg Prod.snd facts, once.2.2.2.2.1⟩

def long : String := String.ofList (List.replicate 240 'a')

def truncatedIds : List (Move Delivery Drawn) :=
  [.start 0 (delivered (long ++ "1")), .start 1 (delivered (long ++ "2"))] ++
    serve 0 ["", "", "", "artifact", "receipt", "", "event", ""] ++ serve 1 ["", "", "", ""]

theorem truncated_append (chars : List Char) (tail : String) :
    truncated (String.ofList chars ++ tail) chars.length = String.ofList chars := by
  simp only [truncated, String.toList_append, String.toList_ofList, List.take_left]

theorem eventId_delivered {id : String} (present : id ≠ "") : eventId (delivered id).headers = some id := by
  have other : lower "x-operly-webhook-signature" ≠ "x-operly-event-id" := by decide
  have own : lower "x-operly-event-id" = "x-operly-event-id" := by decide
  simp [eventId, header, delivered, other, own, present]

theorem dedupeKey_long {tail : String} (present : long ++ tail ≠ "") :
    dedupeKey digests (delivered (long ++ tail)) = long := by
  have kept := truncated_append (List.replicate 240 'a') tail
  rw [List.length_replicate] at kept
  rw [dedupeKey, eventId_delivered present]
  exact kept

theorem truncatedIds_run : (truncatedIds.foldlM (Pool.step database.world fun pid delivery =>
    (receiveWebhook digests plain pid delivery).run) (Pool.initial opened)).map (fun pool =>
      (pool.shared.accepted.map fun accepted => (eventId accepted.delivery.headers, accepted.receiptId),
        pool.shared.receipts.rows.length, pool.shared.events.rows.length)) =
    some ([(some (long ++ "1"), "receipt"), (some (long ++ "2"), "receipt")], 1, 1) := by
  have first : dedupeKey digests (delivered (long ++ "1")) = long := dedupeKey_long (by decide +kernel)
  have second : dedupeKey digests (delivered (long ++ "2")) = long := dedupeKey_long (by decide +kernel)
  simp only [truncatedIds, List.cons_append, List.nil_append, List.foldlM_cons, Pool.step, receiveWebhook, receive,
    first, second]
  decide +kernel

/-- Event ids that agree in their first 240 characters share one receipt and one event. -/
theorem long_event_ids_share_a_receipt : long ++ "1" ≠ long ++ "2" ∧
    ∃ final, Runs (Pool.step database.world fun pid delivery =>
      (receiveWebhook digests plain pid delivery).run) (fun _ _ => True) (Pool.initial opened) truncatedIds final ∧
    final.shared.accepted.map (fun accepted => (eventId accepted.delivery.headers, accepted.receiptId)) =
      [(some (long ++ "1"), "receipt"), (some (long ++ "2"), "receipt")] ∧
    final.shared.receipts.rows.length = 1 ∧ final.shared.events.rows.length = 1 := by
  refine ⟨by decide +kernel, ?_⟩
  obtain ⟨final, evaluated, facts⟩ := Option.map_eq_some_iff.mp truncatedIds_run
  obtain ⟨accepted, receipts, events⟩ := Prod.mk.inj facts |>.imp id Prod.mk.inj
  exact ⟨final, .of_foldlM evaluated, accepted, receipts, events⟩

end Operly.Platform.Webhooks
