import Mathlib.Algebra.GroupWithZero.Nat
import Operly.Concurrent.Program
import Operly.Platform.Metering

/-! `runtime_egress`: the broker that sends HTTP requests for plugin installations, and what it
charges for them. -/

namespace Operly.Platform
open Python Concurrent

/-- What is raised inside the `try` block, by the handler that catches it. -/
inductive EgressError where
  | budgetExceeded (message : String)
  | lookup (message : String)
  | permission (message : String)
  | value (message : String)
  | timeout
  | transport
  | runtime (message : String)
  /-- Caught by no handler: an error of the database, a cancellation, the loss of the process. -/
  | uncaught
  deriving DecidableEq

structure HttpFailure where
  statusCode : Nat
  detail : String
  deriving DecidableEq

/-- The handlers of `runtime_egress`. Each of them rolls the session back first. -/
def EgressError.handled : EgressError → Option HttpFailure
  | .budgetExceeded message => some ⟨429, message⟩
  | .lookup message => some ⟨404, message⟩
  | .permission message => some ⟨403, message⟩
  | .value message => some ⟨422, message⟩
  | .timeout => some ⟨504, "Egress request timed out"⟩
  | .transport => some ⟨502, "Egress target request failed"⟩
  | .runtime message => some ⟨503, message⟩
  | .uncaught => none

def UsageError.toEgress : UsageError → EgressError
  | .value message => .value message
  | .lookup message => .lookup message
  | .budgetExceeded message => .budgetExceeded message

structure PreparedRequest where
  tenantId : String
  installationId : String
  grantId : String
  body : List UInt8
  deriving DecidableEq

/-- The HTTP exchange: it fails before the request has left, or the request leaves and is answered
by these chunks and then possibly a failure. -/
inductive Exchange where
  | unsent (error : EgressError)
  | sent (chunks : List Nat) (failure : Option EgressError)

inductive Point where
  | requests
  | requestBytes
  | responseBytes
  | commit
  deriving DecidableEq

/-- One call of `runtime_egress`, with everything that the world decides about it. -/
structure EgressCall where
  /-- What precedes the charge: the runtime identity, its grant, the target and its address, the
  credential, the body. It may raise, and neither sends nor writes anything. -/
  prepared : Except EgressError PreparedRequest
  maxResponseBytes : Nat
  exchange : Exchange
  chargedAt : Int
  bodyChargedAt : Int
  responseChargedAt : Int
  sentAt : Int
  interrupted : Point → Option EgressError := fun _ => none

structure EgressReceipt where
  sizeBytes : Nat
  grantId : String
  deriving DecidableEq

structure EgressOutcome where
  usage : Usage
  sent : Option Effect
  response : Except (Option HttpFailure) EgressReceipt

namespace PreparedRequest

def entry (prepared : PreparedRequest) (metric : String) (quantity recordedAt : Int) : LedgerEntry where
  meter := ⟨prepared.tenantId, "plugin_installation", prepared.installationId, metric⟩
  quantity := quantity
  referenceKind := some "egress_grant"
  referenceId := some prepared.grantId
  recordedAt := recordedAt

end PreparedRequest

namespace EgressCall

def requestEntry (call : EgressCall) (prepared : PreparedRequest) : LedgerEntry :=
  prepared.entry "egress_requests" 1 call.chargedAt

def bodyEntry (call : EgressCall) (prepared : PreparedRequest) : LedgerEntry :=
  prepared.entry "egress_request_bytes" prepared.body.length call.bodyChargedAt

def responseEntry (call : EgressCall) (prepared : PreparedRequest) (size : Nat) : LedgerEntry :=
  prepared.entry "egress_response_bytes" size call.responseChargedAt

/-- `resource_budgets.consume` at one of the points. -/
def consumeAt (call : EgressCall) (point : Point) (session : Usage) (entry : LedgerEntry) :
    Except EgressError Usage :=
  match call.interrupted point with
  | some error => .error error
  | none => ((session.consume entry).mapError UsageError.toEgress).map (·.2)

def charged (call : EgressCall) (usage : Usage) : Except EgressError (PreparedRequest × Usage) := do
  let prepared ← call.prepared
  let session ← call.consumeAt .requests usage (call.requestEntry prepared)
  if prepared.body.isEmpty then return (prepared, session)
  let session ← call.consumeAt .requestBytes session (call.bodyEntry prepared)
  return (prepared, session)

def receive (maxResponseBytes : Nat) : Nat → List Nat → Except EgressError Nat
  | size, [] => .ok size
  | size, chunk :: rest =>
      if maxResponseBytes < size + chunk then
        .error (.value "Egress response exceeds requested byte limit")
      else receive maxResponseBytes (size + chunk) rest

def chargeResponse (call : EgressCall) (prepared : PreparedRequest) (session : Usage) (size : Nat) :
    Except EgressError Usage :=
  if size = 0 then .ok session
  else call.consumeAt .responseBytes session (call.responseEntry prepared size)

def raising : Option EgressError → Except EgressError Unit
  | some error => .error error
  | none => .ok ()

def settle (call : EgressCall) (prepared : PreparedRequest) (session : Usage) (chunks : List Nat)
    (failure : Option EgressError) : Except EgressError (EgressReceipt × Usage) := do
  let size ← receive call.maxResponseBytes 0 chunks
  raising failure
  let session ← call.chargeResponse prepared session size
  raising (call.interrupted .commit)
  return (⟨size, prepared.grantId⟩, session)

end EgressCall

/-- `runtime_egress`. Whatever is raised, the session is rolled back or lost. -/
def runtimeEgress (usage : Usage) (call : EgressCall) : EgressOutcome :=
  match call.charged usage with
  | .error error => ⟨usage, none, .error error.handled⟩
  | .ok (prepared, session) =>
      match call.exchange with
      | .unsent error => ⟨usage, none, .error error.handled⟩
      | .sent chunks failure =>
          let request : Effect := ⟨call.requestEntry prepared, call.sentAt⟩
          match call.settle prepared session chunks failure with
          | .error error => ⟨usage, some request, .error error.handled⟩
          | .ok (receipt, session) => ⟨session, some request, .ok receipt⟩

/-! ### The fate of the charge -/

namespace EgressCall
variable {call : EgressCall} {usage session final : Usage} {prepared : PreparedRequest}
variable {entry : LedgerEntry} {point : Point}

theorem consumeAt_ok : call.consumeAt point session entry = .ok final →
    call.interrupted point = none ∧ session.Consumes entry final := by
  intro consumed
  unfold consumeAt at consumed
  split at consumed
  · cases consumed
  · next quiet =>
    refine ⟨quiet, ?_⟩
    cases result : session.consume entry with
    | error error =>
      rw [result] at consumed
      cases consumed
    | ok value =>
      rw [result] at consumed
      cases consumed
      exact Usage.consume_ok result

theorem consumeAt_of_admits (quiet : call.interrupted point = none) (positive : 0 < entry.quantity)
    (admits : session.Admits entry) : ∃ final, call.consumeAt point session entry = .ok final := by
  obtain ⟨consumption, final, consumed⟩ := Usage.consume_of_admits positive admits
  refine ⟨final, ?_⟩
  rw [consumeAt, quiet, consumed]
  rfl

theorem raising_eq_ok {raised : Option EgressError} {value : Unit} : raising raised = .ok value ↔ raised = none := by
  cases raised <;> simp [raising]

structure Leaves (call : EgressCall) (usage : Usage) (prepared : PreparedRequest) : Prop where
  checked : call.prepared = .ok prepared
  requests : call.interrupted .requests = none ∧ usage.Admits (call.requestEntry prepared)
  body : prepared.body.isEmpty = false →
    call.interrupted .requestBytes = none ∧ usage.Admits (call.bodyEntry prepared)
  exchanged : ∃ chunks failure, call.exchange = .sent chunks failure

theorem meter_ne (metric other : String) (distinct : metric ≠ other) {quantity quantity' now now' : Int} :
    (prepared.entry metric quantity now).meter ≠ (prepared.entry other quantity' now').meter :=
  fun same => distinct (congrArg Meter.metric same)

theorem charged_ok (charged : call.charged usage = .ok (prepared, session)) :
    call.prepared = .ok prepared ∧ call.interrupted .requests = none ∧
      ∃ counted, usage.Consumes (call.requestEntry prepared) counted ∧
        ((prepared.body.isEmpty = true ∧ session = counted) ∨
          (call.interrupted .requestBytes = none ∧ counted.Consumes (call.bodyEntry prepared) session)) := by
  unfold EgressCall.charged at charged
  obtain ⟨request, checked, rest⟩ := bind_eq_ok.mp charged
  obtain ⟨counted, consumed, rest⟩ := bind_eq_ok.mp rest
  obtain ⟨quiet, counts⟩ := consumeAt_ok consumed
  by_cases empty : request.body.isEmpty = true
  · rw [if_pos empty] at rest
    obtain ⟨rfl, rfl⟩ := Prod.mk.inj (pure_eq_ok.mp rest)
    exact ⟨checked, quiet, _, counts, .inl ⟨empty, rfl⟩⟩
  · rw [if_neg empty] at rest
    obtain ⟨after, consumed', rest⟩ := bind_eq_ok.mp rest
    obtain ⟨rfl, rfl⟩ := Prod.mk.inj (pure_eq_ok.mp rest)
    exact ⟨checked, quiet, counted, counts, .inr (consumeAt_ok consumed')⟩

theorem charged_iff_leaves {chunks : List Nat} {failure : Option EgressError}
    (exchanged : call.exchange = .sent chunks failure) :
    (∃ session, call.charged usage = .ok (prepared, session)) ↔ call.Leaves usage prepared := by
  have apart : ∀ counted, usage.Consumes (call.requestEntry prepared) counted →
      (counted.Admits (call.bodyEntry prepared) ↔ usage.Admits (call.bodyEntry prepared)) :=
    fun counted counts =>
      counts.admits_other (meter_ne "egress_request_bytes" "egress_requests" (by decide))
  constructor
  · rintro ⟨session, charged⟩
    obtain ⟨checked, quiet, counted, counts, rest⟩ := charged_ok charged
    refine ⟨checked, ⟨quiet, counts.admits⟩, fun some => ?_, chunks, failure, exchanged⟩
    rcases rest with ⟨empty, -⟩ | ⟨quiet', counts'⟩
    · rw [some] at empty
      cases empty
    · exact ⟨quiet', (apart counted counts).mp counts'.admits⟩
  · rintro ⟨checked, ⟨quiet, admits⟩, body, -⟩
    obtain ⟨counted, consumed⟩ := consumeAt_of_admits quiet Int.one_pos admits
    have counts := (consumeAt_ok consumed).2
    unfold EgressCall.charged
    rw [checked]
    show ∃ session, (call.consumeAt .requests usage (call.requestEntry prepared) >>= _) = _
    rw [consumed]
    cases empty : prepared.body.isEmpty with
    | true => exact ⟨counted, rfl⟩
    | false =>
      obtain ⟨quiet', admits'⟩ := body empty
      have positive : 0 < (call.bodyEntry prepared).quantity := by
        have some : prepared.body ≠ [] := by simpa using empty
        have long := List.length_pos_iff.mpr some
        simp only [bodyEntry, PreparedRequest.entry]
        omega
      obtain ⟨session, consumed'⟩ :=
        consumeAt_of_admits quiet' positive ((apart counted counts).mpr admits')
      refine ⟨session, ?_⟩
      show (call.consumeAt .requestBytes counted (call.bodyEntry prepared) >>= _) = _
      rw [consumed']
      rfl

theorem receive_eq_ok {limit size total : Nat} {chunks : List Nat} (fits : size ≤ limit) :
    receive limit size chunks = .ok total ↔ size + chunks.sum ≤ limit ∧ total = size + chunks.sum := by
  induction chunks generalizing size with
  | nil =>
    simp only [receive, Except.ok.injEq, List.sum_nil, Nat.add_zero]
    omega
  | cons chunk rest ih =>
    unfold receive
    rw [List.sum_cons]
    split
    · simp only [reduceCtorEq, false_iff]
      omega
    · rw [ih (by omega)]
      omega

structure Settles (call : EgressCall) (usage : Usage) : Prop where
  answered : ∃ chunks, call.exchange = .sent chunks none ∧ chunks.sum ≤ call.maxResponseBytes ∧
    (chunks.sum ≠ 0 → call.interrupted .responseBytes = none ∧ ∀ prepared,
      call.prepared = .ok prepared → usage.Admits (call.responseEntry prepared chunks.sum))
  stored : call.interrupted .commit = none

theorem settle_ok {chunks : List Nat} {failure : Option EgressError} {receipt : EgressReceipt}
    (settled : call.settle prepared session chunks failure = .ok (receipt, final)) :
    failure = none ∧ chunks.sum ≤ call.maxResponseBytes ∧ call.interrupted .commit = none ∧
      ((chunks.sum = 0 ∧ final = session) ∨ (call.interrupted .responseBytes = none ∧
        session.Consumes (call.responseEntry prepared chunks.sum) final)) := by
  unfold settle at settled
  obtain ⟨size, received, rest⟩ := bind_eq_ok.mp settled
  obtain ⟨fits, rfl⟩ := (receive_eq_ok (Nat.zero_le _)).mp received
  rw [Nat.zero_add] at fits rest
  obtain ⟨_, ended, rest⟩ := bind_eq_ok.mp rest
  obtain ⟨after, metered, rest⟩ := bind_eq_ok.mp rest
  obtain ⟨_, stored, rest⟩ := bind_eq_ok.mp rest
  obtain ⟨-, rfl⟩ := Prod.mk.inj (pure_eq_ok.mp rest)
  refine ⟨raising_eq_ok.mp ended, fits, raising_eq_ok.mp stored, ?_⟩
  unfold chargeResponse at metered
  by_cases empty : chunks.sum = 0
  · rw [if_pos empty] at metered
    cases metered
    exact .inl ⟨empty, rfl⟩
  · rw [if_neg empty] at metered
    exact .inr (consumeAt_ok metered)

theorem settle_of {chunks : List Nat} (fits : chunks.sum ≤ call.maxResponseBytes)
    (stored : call.interrupted .commit = none) (room : chunks.sum ≠ 0 → call.interrupted .responseBytes = none ∧
      session.Admits (call.responseEntry prepared chunks.sum)) :
    ∃ receipt final, call.settle prepared session chunks none = .ok (receipt, final) := by
  have received := (receive_eq_ok (Nat.zero_le _)).mpr
    (⟨by omega, rfl⟩ : 0 + chunks.sum ≤ call.maxResponseBytes ∧ _)
  have metered : ∃ final, call.chargeResponse prepared session chunks.sum = .ok final := by
    unfold chargeResponse
    by_cases empty : chunks.sum = 0
    · exact ⟨session, if_pos empty⟩
    · obtain ⟨quiet, admits⟩ := room empty
      have positive : 0 < (call.responseEntry prepared chunks.sum).quantity := by
        simp only [responseEntry, PreparedRequest.entry]
        omega
      rw [if_neg empty]
      exact consumeAt_of_admits quiet positive admits
  obtain ⟨final, metered⟩ := metered
  refine ⟨⟨chunks.sum, prepared.grantId⟩, final, ?_⟩
  unfold settle
  rw [received, Nat.zero_add, stored]
  show (call.chargeResponse prepared session chunks.sum >>= _) = _
  rw [metered]
  rfl

theorem charged_admits (charged : call.charged usage = .ok (prepared, session)) (size : Nat) :
    session.Admits (call.responseEntry prepared size) ↔ usage.Admits (call.responseEntry prepared size) := by
  obtain ⟨-, -, counted, counts, rest⟩ := charged_ok charged
  have first : counted.Admits (call.responseEntry prepared size) ↔ usage.Admits _ :=
    counts.admits_other (meter_ne "egress_response_bytes" "egress_requests" (by decide))
  rcases rest with ⟨-, rfl⟩ | ⟨-, counts'⟩
  · exact first
  · exact (counts'.admits_other
      (meter_ne "egress_response_bytes" "egress_request_bytes" (by decide))).trans first

end EgressCall

section Fate
variable {usage : Usage} {call : EgressCall} {request : Effect}

theorem EgressCall.charged_consumed {session : Usage} {prepared : PreparedRequest}
    (charged : call.charged usage = .ok (prepared, session)) :
    ∃ rest, Usage.Consumed usage (call.requestEntry prepared :: rest) session ∧
      ∀ entry ∈ rest, entry.meter.metric ≠ "egress_requests" := by
  obtain ⟨-, -, counted, counts, ⟨-, rfl⟩ | ⟨-, counts'⟩⟩ := charged_ok charged
  · exact ⟨[], .cons counts (.nil _), by simp⟩
  · refine ⟨[call.bodyEntry prepared], .cons counts (.cons counts' (.nil _)), ?_⟩
    intro entry member
    cases List.mem_singleton.mp member
    exact (by decide : "egress_request_bytes" ≠ "egress_requests")

theorem runtimeEgress_eq {session : Usage} {prepared : PreparedRequest} {chunks : List Nat}
    {failure : Option EgressError} (charged : call.charged usage = .ok (prepared, session))
    (exchanged : call.exchange = .sent chunks failure) :
    (runtimeEgress usage call).sent = some ⟨call.requestEntry prepared, call.sentAt⟩ ∧
      (runtimeEgress usage call).usage =
        match call.settle prepared session chunks failure with
        | .error _ => usage
        | .ok (_, session) => session := by
  unfold runtimeEgress
  rw [charged]
  simp only [exchanged]
  cases call.settle prepared session chunks failure <;> exact ⟨rfl, rfl⟩

theorem runtimeEgress_cases (usage : Usage) (call : EgressCall) :
    ((runtimeEgress usage call).sent = none ∧ (runtimeEgress usage call).usage = usage ∧
        ∀ prepared, ¬ call.Leaves usage prepared) ∨
      ∃ prepared session chunks failure, call.charged usage = .ok (prepared, session) ∧
        call.exchange = .sent chunks failure := by
  cases exchanged : call.exchange with
  | unsent error =>
    refine .inl ?_
    have stays : ∀ prepared, ¬ call.Leaves usage prepared := by
      rintro prepared ⟨-, -, -, chunks, failure, same⟩
      cases exchanged.symm.trans same
    unfold runtimeEgress
    rw [exchanged]
    cases call.charged usage <;> exact ⟨rfl, rfl, stays⟩
  | sent chunks failure =>
    cases charged : call.charged usage with
    | error error =>
      refine .inl ⟨?_, ?_, ?_⟩
      · rw [runtimeEgress, charged]
      · rw [runtimeEgress, charged]
      · intro prepared leaves
        obtain ⟨session, same⟩ := (EgressCall.charged_iff_leaves exchanged).mpr leaves
        cases charged.symm.trans same
    | ok result => exact .inr ⟨result.1, result.2, chunks, failure, rfl, rfl⟩

theorem runtimeEgress_unsent (stayed : (runtimeEgress usage call).sent = none) :
    (runtimeEgress usage call).usage = usage := by
  rcases runtimeEgress_cases usage call with ⟨-, same, -⟩ | ⟨_, _, _, _, charged, exchanged⟩
  · exact same
  · cases stayed.symm.trans (runtimeEgress_eq charged exchanged).1

theorem sent_iff_leaves :
    (runtimeEgress usage call).sent = some request ↔
      ∃ prepared, call.Leaves usage prepared ∧ request = ⟨call.requestEntry prepared, call.sentAt⟩ := by
  rcases runtimeEgress_cases usage call with
    ⟨stayed, -, stays⟩ | ⟨prepared, session, chunks, failure, charged, exchanged⟩
  · rw [stayed]
    constructor
    · intro left
      cases left
    · rintro ⟨prepared, leaves, -⟩
      exact absurd leaves (stays prepared)
  · rw [(runtimeEgress_eq charged exchanged).1]
    constructor
    · intro same
      exact ⟨prepared, (EgressCall.charged_iff_leaves exchanged).mp ⟨session, charged⟩,
        (Option.some.inj same).symm⟩
    · rintro ⟨prepared', leaves, rfl⟩
      have checked := (EgressCall.charged_ok charged).1
      cases checked.symm.trans leaves.checked
      rfl

/-- What a request that left was charged as, and the fate of that charge. -/
inductive ChargeFate (usage : Usage) (call : EgressCall) (request : Effect) (after : Usage) : Prop
  | kept (settles : call.Settles usage) (rest : List LedgerEntry)
      (consumed : Usage.Consumed usage (request.entry :: rest) after)
      (others : ∀ entry ∈ rest, entry.meter.metric ≠ "egress_requests")
  | lost (unsettled : ¬ call.Settles usage) (same : after = usage)

theorem runtimeEgress_sent (left : (runtimeEgress usage call).sent = some request) :
    ChargeFate usage call request (runtimeEgress usage call).usage := by
  rcases runtimeEgress_cases usage call with
    ⟨stayed, -⟩ | ⟨prepared, session, chunks, failure, charged, exchanged⟩
  · rw [stayed] at left
    cases left
  have checked := (EgressCall.charged_ok charged).1
  obtain ⟨rest, consumed, others⟩ := EgressCall.charged_consumed charged
  obtain ⟨sent, after⟩ := runtimeEgress_eq charged exchanged
  rw [sent] at left
  cases left
  cases settled : call.settle prepared session chunks failure with
  | error error =>
    rw [settled] at after
    refine .lost ?_ after
    rintro ⟨⟨chunks', same, fits, room⟩, stored⟩
    obtain ⟨rfl, rfl⟩ := Exchange.sent.inj (exchanged.symm.trans same)
    obtain ⟨receipt, final, settles⟩ := EgressCall.settle_of fits stored fun some =>
      ⟨(room some).1, (EgressCall.charged_admits charged _).mpr ((room some).2 prepared checked)⟩
    cases settled.symm.trans settles
  | ok result =>
    obtain ⟨receipt, final⟩ := result
    rw [settled] at after
    obtain ⟨rfl, fits, stored, metered⟩ := EgressCall.settle_ok settled
    have settles : call.Settles usage := by
      refine ⟨⟨chunks, exchanged, fits, ?_⟩, stored⟩
      rcases metered with ⟨empty, -⟩ | ⟨quiet, counts⟩
      · exact fun some => absurd empty some
      · intro _
        refine ⟨quiet, fun other same => ?_⟩
        cases checked.symm.trans same
        exact (EgressCall.charged_admits charged _).mp counts.admits
    rw [after]
    rcases metered with ⟨-, rfl⟩ | ⟨-, counts⟩
    · exact .kept settles rest consumed others
    · refine .kept settles (rest ++ [call.responseEntry prepared chunks.sum])
        (consumed.append (.cons counts (.nil _))) ?_
      intro entry member
      rcases List.mem_append.mp member with earlier | last
      · exact others entry earlier
      · cases List.mem_singleton.mp last
        exact (by decide : "egress_response_bytes" ≠ "egress_requests")

theorem chargedIn_iff_settles (left : (runtimeEgress usage call).sent = some request) :
    request.ChargedIn usage (runtimeEgress usage call).usage ↔ call.Settles usage := by
  cases runtimeEgress_sent left with
  | kept settles rest consumed =>
    exact ⟨fun _ => settles, fun _ => ⟨rest, consumed.ledger.2⟩⟩
  | lost unsettled same =>
    rw [same]
    exact iff_of_false (request.not_chargedIn_self usage) unsettled

end Fate

/-! ### Sequences of calls -/

inductive EgressMove where
  | table (move : TableMove)
  | egress (call : EgressCall)

namespace EgressMove

def step (metering : Metering) : EgressMove → Option Metering
  | .table move => some { metering with usage := metering.usage.apply move }
  | .egress call =>
      let outcome := runtimeEgress metering.usage call
      some ⟨outcome.usage, metering.effects ++ outcome.sent.toList⟩

def Settled (metering : Metering) : EgressMove → Prop
  | .table _ => True
  | .egress call => (∃ prepared, call.Leaves metering.usage prepared) → call.Settles metering.usage

/-- The budget is configured at every charge of the window, and every request of the meter leaves
in the window in which it is charged. -/
def Throughout (bucket : Bucket) (hardLimit : Nat) (metering : Metering) : EgressMove → Prop
  | .table move => move.Governed bucket hardLimit metering.usage
  | .egress call => ∀ prepared, call.Leaves metering.usage prepared →
      (bucketAt (call.requestEntry prepared).meter call.chargedAt bucket.windowSeconds = bucket →
        metering.usage.Governed bucket hardLimit) ∧
      (bucketAt (call.requestEntry prepared).meter call.sentAt bucket.windowSeconds = bucket →
        bucketAt (call.requestEntry prepared).meter call.chargedAt bucket.windowSeconds = bucket)

variable {metering next : Metering} {move : EgressMove} {bucket : Bucket} {hardLimit : Nat}

/-- What a step does: a transaction on the tables, nothing, or a request with the fate of its
charge. -/
inductive StepFate (metering : Metering) (move : EgressMove) (next : Metering) : Prop
  | table (other : TableMove) (moved : move = .table other)
      (same : next = { metering with usage := metering.usage.apply other })
  | idle (same : next = metering)
  | sent (call : EgressCall) (prepared : PreparedRequest) (moved : move = .egress call)
      (leaves : call.Leaves metering.usage prepared)
      (same : next.effects = metering.effects ++ [⟨call.requestEntry prepared, call.sentAt⟩])
      (fate : ChargeFate metering.usage call ⟨call.requestEntry prepared, call.sentAt⟩ next.usage)

theorem step_fate (stepped : step metering move = some next) : StepFate metering move next := by
  cases move with
  | table other => exact .table other rfl (Option.some.inj stepped).symm
  | egress call =>
    cases left : (runtimeEgress metering.usage call).sent with
    | none =>
      simp only [step, left, runtimeEgress_unsent left] at stepped
      refine .idle ((Option.some.inj stepped).symm.trans ?_)
      simp
    | some request =>
      simp only [step, left] at stepped
      cases stepped
      obtain ⟨prepared, leaves, rfl⟩ := sent_iff_leaves.mp left
      exact .sent call prepared rfl leaves rfl (runtimeEgress_sent left)

theorem charged_step (charged : metering.Charged) (settled : Settled metering move)
    (stepped : step metering move = some next) : next.Charged := by
  cases step_fate stepped with
  | table other moved same =>
    subst same
    exact charged.apply
  | idle same =>
    subst same
    exact charged
  | sent call prepared moved leaves same fate =>
    subst moved
    obtain ⟨usage, effects⟩ := next
    cases fate with
    | lost unsettled => exact absurd (settled ⟨prepared, leaves⟩) unsettled
    | kept settles rest consumed =>
      cases same
      exact charged.perform consumed

theorem within_step (metric : bucket.meter.metric = "egress_requests") (within : metering.Within bucket hardLimit)
    (settled : Settled metering move) (throughout : Throughout bucket hardLimit metering move)
    (stepped : step metering move = some next) : next.Within bucket hardLimit := by
  cases step_fate stepped with
  | table other moved same =>
    subst same moved
    exact within.apply throughout
  | idle same =>
    subst same
    exact within
  | sent call prepared moved leaves same fate =>
    subst moved
    obtain ⟨usage, effects⟩ := next
    obtain ⟨governed, prompt⟩ := throughout prepared leaves
    cases fate with
    | lost unsettled => exact absurd (settled ⟨prepared, leaves⟩) unsettled
    | kept settles rest consumed others =>
      cases same
      refine within.perform consumed ?_ prompt
      intro entry member inside
      rcases List.mem_cons.mp member with rfl | other
      · exact governed inside
      · have meter : entry.meter = bucket.meter := congrArg Bucket.meter inside
        exact absurd ((congrArg Meter.metric meter).trans metric) (others entry other)

/-- Where every request that leaves is answered in full, within its byte limit and the budget of
response bytes, and its transaction is committed, every request has its entry in the ledger; and
where each leaves in the window of its charge, no window holds more of them than the limit
configured throughout it. The charge of a single request is durable exactly under that condition. -/
theorem egress_requests_metered {moves : List EgressMove} {final : Metering}
    (run : Runs step Settled {} moves final) :
    final.Charged ∧
      (∀ bucket (hardLimit : Nat), bucket.meter.metric = "egress_requests" →
        Runs step (Throughout bucket hardLimit) {} moves final →
        (final.effectsIn bucket).length ≤ hardLimit) ∧
      ∀ usage call request, (runtimeEgress usage call).sent = some request →
        (request.ChargedIn usage (runtimeEgress usage call).usage ↔ call.Settles usage) := by
  refine ⟨?_, ?_, fun usage call request left => chargedIn_iff_settles left⟩
  · apply run.invariant (List.Sublist.refl _)
    intro metering move next charged settled stepped
    exact charged_step charged settled stepped
  · intro bucket hardLimit metric throughout
    have within : final.Within bucket hardLimit := by
      apply (run.both throughout).invariant (Metering.Within.empty bucket hardLimit)
      intro metering move next within allowed stepped
      exact within_step metric within allowed.1 allowed.2 stepped
    exact within.bounded

def sampleRequest : PreparedRequest := ⟨"tenant-1", "installation-1", "grant-1", []⟩

def sampleCall (chunks : List Nat) (failure : Option EgressError) : EgressCall where
  prepared := .ok sampleRequest
  maxResponseBytes := 1048576
  exchange := .sent chunks failure
  chargedAt := unixEpoch
  bodyChargedAt := unixEpoch
  responseChargedAt := unixEpoch
  sentAt := unixEpoch

def sampleHour : Bucket :=
  bucketAt ⟨"tenant-1", "plugin_installation", "installation-1", "egress_requests"⟩ unixEpoch 3600

def sampleMoves (chunks : List Nat) (failure : Option EgressError) : List EgressMove :=
  [.table (.configure sampleHour.meter 3600 1 none), .egress (sampleCall chunks failure),
    .egress (sampleCall chunks failure)]

def governedHour (metering : Metering) : EgressMove → Bool
  | .table (.configure ..) => true
  | .table (.consume _) => false
  | .egress call => call.sentAt = call.chargedAt && decide (metering.usage.Governed sampleHour 1)

theorem governedHour_sound (metering : Metering) (move : EgressMove)
    (checked : governedHour metering move = true) : Throughout sampleHour 1 metering move := by
  cases move with
  | table other =>
    cases other with
    | configure => trivial
    | consume => cases checked
  | egress call =>
    simp only [governedHour, Bool.and_eq_true, decide_eq_true_eq] at checked
    intro prepared leaves
    rw [checked.1]
    exact ⟨fun _ => checked.2, id⟩

theorem timedOut_log : ((sampleMoves [] (some .timeout)).foldlM (fun metering move =>
      if governedHour metering move then step metering move else none) {}).map
        (fun metering => (metering.usage.ledger, (metering.effectsIn sampleHour).length)) =
      some ([], 2) := by
  decide

/-- Two requests leave in an hour that allows one, and none of them is charged. -/
theorem egress_requests_not_metered : ∃ final,
    Runs step (Throughout sampleHour 1) {} (sampleMoves [] (some .timeout)) final ∧
      ¬ final.Charged ∧ ¬ (final.effectsIn sampleHour).length ≤ 1 := by
  obtain ⟨final, evaluated, log⟩ := Option.map_eq_some_iff.mp timedOut_log
  obtain ⟨ledger, requests⟩ := Prod.mk.inj log
  refine ⟨final, .of_checked governedHour_sound evaluated, ?_, by omega⟩
  intro charged
  unfold Metering.Charged at charged
  rw [ledger] at charged
  have none : final.effects = [] := by simpa using charged
  rw [Metering.effectsIn, none] at requests
  cases requests

def answeredEmpty (_ : Metering) : EgressMove → Bool
  | .table _ => true
  | .egress call => (match call.exchange with | .sent [] none => true | _ => false) &&
      (call.interrupted .commit).isNone

theorem answeredEmpty_sound (metering : Metering) (move : EgressMove)
    (checked : answeredEmpty metering move = true) : Settled metering move := by
  cases move with
  | table => trivial
  | egress call =>
    intro _
    simp only [answeredEmpty, Bool.and_eq_true, Option.isNone_iff_eq_none] at checked
    obtain ⟨answered, stored⟩ := checked
    split at answered
    · next exchanged => exact ⟨⟨[], exchanged, Nat.zero_le _, fun some => absurd rfl some⟩, stored⟩
    · cases answered

theorem answered_runs : (((sampleMoves [] none).foldlM (fun metering move =>
      if answeredEmpty metering move then step metering move else none) {}).map
        fun metering => (metering.effectsIn sampleHour).length) = some 1 := by
  decide

theorem egress_requests_metered_answered : ∃ final : Metering,
    (final.effectsIn sampleHour).length = 1 ∧ final.Charged := by
  obtain ⟨final, evaluated, requests⟩ := Option.map_eq_some_iff.mp answered_runs
  have run : Runs step Settled {} (sampleMoves [] none) final :=
    .of_checked answeredEmpty_sound evaluated
  exact ⟨final, requests, (egress_requests_metered run).1⟩

end EgressMove

end Operly.Platform
