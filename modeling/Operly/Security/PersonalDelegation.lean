import Operly.Concurrent.ReadCommitted
import Operly.Relational.Columns
import Operly.Security.Context

/-! Personal delegations to a workspace: a use is authorized from the rows that are active when they are
read, and recorded when the transaction commits. -/

namespace Operly.Security.PersonalDelegation
open Python Concurrent Relational Transaction

inductive Status where
  | active
  | revoked
  | expired
  | consumed
  deriving DecidableEq

inductive GrantType where
  | persistent
  | oneTime
  deriving DecidableEq

def GrantType.value : GrantType → String
  | .persistent => "persistent"
  | .oneTime => "one_time"

/-- `PersonalWorkspaceDelegation` -/
structure Delegation where
  id : String
  principalId : String
  userId : String
  tenantId : String
  capabilityId : String
  connectorReference : Option String
  grantType : GrantType
  actionId : Option String
  status : Status
  createdAt : Int
  expiresAt : Option Int
  revokedAt : Option Int
  lastUsedAt : Option Int
  deriving DecidableEq

inductive Outcome where
  | authorizedUse
  | revoked
  deriving DecidableEq

/-- `DelegatedCapabilityAudit`, with the value that `evidence_json` encodes -/
structure Audit where
  delegationId : String
  principalId : String
  tenantId : String
  capabilityId : String
  actionId : Option String
  outcome : Outcome
  evidence : Json

structure AccountConnector where
  id : String
  userId : String
  provider : String
  enabled : Bool
  status : String

/-- The tables. `late` only records: a use was committed from a row that was read when a revocation of
it had been committed. -/
structure State where
  members : List (String × String)
  connectors : List AccountConnector
  delegations : Table Delegation String Delegation.id
  audits : List Audit
  late : Bool := false

namespace State

def uses (state : State) (delegationId : String) : Nat :=
  state.audits.countP fun audit => audit.delegationId = delegationId ∧ audit.outcome = .authorizedUse

def wasRevoked (state : State) (delegationId : String) : Bool :=
  state.audits.any fun audit => audit.delegationId = delegationId ∧ audit.outcome = .revoked

end State

structure Loaded where
  row : Delegation
  revoked : Bool

inductive Query where
  | membership (userId tenantId : String)
  | utcnow
  | active (userId tenantId capabilityId : String)
  | connector (id userId : String)
  | owned (id userId : String)

def queries : Interface where
  Op := Query
  Answer
    | .membership .. => Bool
    | .utcnow => Int
    | .active .. => List Loaded
    | .connector .. => Option AccountConnector
    | .owned .. => Option Delegation

structure Use where
  loaded : Loaded
  usedAt : Int
  audit : Audit

/-- What a session has composed: rows that it found expired, and a use; or a revocation. -/
inductive Flush where
  | authorized (expired : List Delegation) (use : Option Use)
  | revoked (loaded : Delegation) (revokedAt : Int) (audit : Audit)
  | nothing

/-- `UPDATE` of the columns that a session has changed, of a row that must still be there. -/
def update (state : State) (loaded row : Delegation) : Option State :=
  (state.delegations.find loaded.id).map fun now => { state with
    delegations := state.delegations.replace { now with
      status := written loaded.status row.status now.status
      revokedAt := written loaded.revokedAt row.revokedAt now.revokedAt
      lastUsedAt := written loaded.lastUsedAt row.lastUsedAt now.lastUsedAt } }

def Use.row (use : Use) : Delegation :=
  { use.loaded.row with
    lastUsedAt := some use.usedAt
    status := if use.loaded.row.grantType = .oneTime then .consumed else use.loaded.row.status }

def State.record (state : State) (audit : Audit) : State := { state with audits := state.audits ++ [audit] }

def commit : Flush → State → Option State
  | .authorized expired use, state => do
      let state ← expired.foldlM (fun state loaded => update state loaded { loaded with status := .expired }) state
      match use with
      | none => return state
      | some use => do
          let state ← update state use.loaded.row use.row
          return { state.record use.audit with late := state.late || use.loaded.revoked }
  | .revoked loaded revokedAt audit, state => do
      let state ← update state loaded { loaded with status := .revoked, revokedAt := some revokedAt }
      return state.record audit
  | .nothing, state => some state

def database : Database queries Flush State Int where
  select
    | .membership userId tenantId, _, state => (state.members.contains (userId, tenantId), state)
    | .utcnow, now, state => (now, state)
    | .active userId tenantId capabilityId, _, state =>
        let rows := state.delegations.select fun row => row.userId = userId ∧ row.tenantId = tenantId ∧
          row.capabilityId = capabilityId ∧ row.status = .active
        ((rows.insertionSort fun first second => second.createdAt ≤ first.createdAt).map fun row =>
          ⟨row, state.wasRevoked row.id⟩, state)
    | .connector id userId, _, state =>
        (state.connectors.find? fun row => row.id = id ∧ row.userId = userId ∧ row.enabled ∧
          row.status = "connected", state)
    | .owned id userId, _, state => (state.delegations.first fun row => row.id = id ∧ row.userId = userId, state)
  commit := commit

/-- `LookupError`, and what the database raises at a flush -/
inductive DelegationFailure where
  | lookup (message : String)
  | database
  deriving DecidableEq

abbrev Session (α : Type) := Transaction queries Flush DelegationFailure α

def ask (query : Query) : Session (queries.Answer query) :=
  Transaction.select (show queries.Op from query)

structure UseRequest where
  userId : String
  tenantId : String
  capabilityId : String
  actionId : Option String
  connectorProvider : Option String

/-- The connector of a row: one that is connected and of the provider that was asked for, unless the row
names none. -/
def connectorOf (request : UseRequest) (row : Delegation) : Session (Option (Option AccountConnector)) :=
  if isSet row.connectorReference then do
    let found : Option AccountConnector ← ask (.connector (row.connectorReference.getD "") request.userId)
    return (found.filter fun connector =>
      !isSet request.connectorProvider || request.connectorProvider = some connector.provider).map some
  else return some none

def firstFitting (request : UseRequest) (now : Int) :
    List Loaded → Session (List Delegation × Option (Loaded × Option AccountConnector))
  | [] => return ([], none)
  | loaded :: rest =>
      if loaded.row.expiresAt.any (· ≤ now) then do
        let (expired, chosen) ← firstFitting request now rest
        return (loaded.row :: expired, chosen)
      else if loaded.row.grantType = .oneTime ∧ isSet loaded.row.actionId ∧ loaded.row.actionId ≠ request.actionId then
        firstFitting request now rest
      else do
        match ← connectorOf request loaded.row with
        | some connector => return ([], some (loaded, connector))
        | none => firstFitting request now rest

/-- `active_delegation`, with the rows that it marks as expired -/
def activeDelegation (request : UseRequest) :
    Session (List Delegation × Option (Loaded × Option AccountConnector)) := do
  let member : Bool ← ask (.membership request.userId request.tenantId)
  if member then do
    let now : Int ← ask .utcnow
    let rows : List Loaded ← ask (.active request.userId request.tenantId request.capabilityId)
    firstFitting request now rows
  else return ([], none)

/-- `authorize_delegated_use`, with what it has composed -/
def authorizeDelegatedUse (request : UseRequest) :
    Session (Option (Delegation × Option AccountConnector) × Flush) := do
  let (expired, resolved) ← activeDelegation request
  match resolved with
  | none => return (none, .authorized expired none)
  | some (loaded, connector) => do
      let usedAt : Int ← ask .utcnow
      let row := loaded.row
      let evidence := Json.obj [("connector_reference", (row.connectorReference.map Json.str).getD .null),
        ("grant_type", .str row.grantType.value)]
      let use : Use := ⟨loaded, usedAt, ⟨row.id, row.principalId, row.tenantId, row.capabilityId, request.actionId,
        .authorizedUse, evidence⟩⟩
      return (some (use.row, connector), .authorized expired (some use))

/-- `revoke_delegation`, with what it has composed -/
def revokeDelegation (userId delegationId : String) : Session (Delegation × Flush) := do
  let found : Option Delegation ← ask (.owned delegationId userId)
  match found with
  | none => Fallible.raise (.lookup "Delegation not found")
  | some row =>
      if row.status = .active then do
        let now : Int ← ask .utcnow
        let audit : Audit := ⟨row.id, row.principalId, row.tenantId, row.capabilityId, row.actionId, .revoked, .obj []⟩
        return ({ row with status := .revoked, revokedAt := some now }, .revoked row now audit)
      else return (row, .nothing)

inductive Call where
  | authorize (request : UseRequest)
  | revoke (userId delegationId : String)

inductive Reply where
  | authorized (use : Option (Delegation × Option AccountConnector))
  | revoked (row : Delegation)

def main (_ : Nat) : Call → Program (sessions queries Flush) (Except DelegationFailure Reply)
  | .authorize request =>
      (Transaction.commits .database do
        let (use, flush) ← authorizeDelegatedUse request
        return (Reply.authorized use, flush)).run
  | .revoke userId delegationId =>
      (Transaction.commits .database do
        let (row, flush) ← revokeDelegation userId delegationId
        return (Reply.revoked row, flush)).run

/-! ### What a session composes -/

section Composes
variable {good : Loaded → Prop}

def Every (good : Loaded → Prop) (rows : List Loaded) : Prop := ∀ loaded ∈ rows, good loaded

def answers (good : Loaded → Prop) : (query : queries.Op) → queries.Answer query → Prop
  | .active .., rows => Every good rows
  | _, _ => True

/-- A use is one of a row that was read as active, a revocation one of a row that is active. -/
def Composed (good : Loaded → Prop) : Flush → Prop
  | .authorized _ none => True
  | .authorized _ (some use) =>
      good use.loaded ∧ use.audit.delegationId = use.loaded.row.id ∧ use.audit.outcome = .authorizedUse
  | .revoked loaded _ audit => loaded.status = .active ∧ audit.delegationId = loaded.id ∧ audit.outcome = .revoked
  | .nothing => True

theorem connectorOf_yields (request : UseRequest) (row : Delegation) :
    (connectorOf request row).Yields (answers good) fun _ => True := by
  apply Yields.ite
  · intro _
    apply Yields.bind_select
    exact fun _ _ => Yields.pure trivial
  · exact fun _ => Yields.pure trivial

theorem firstFitting_yields (request : UseRequest) (now : Int) {rows : List Loaded}
    (known : Every good rows) : (firstFitting request now rows).Yields (answers good)
      fun result => ∀ chosen, result.2 = some chosen → good chosen.1 := by
  induction rows with
  | nil => exact Yields.pure fun chosen same => by cases same
  | cons loaded rest ih =>
    have later := ih fun other member => known other (List.mem_cons_of_mem loaded member)
    apply Yields.ite
    · intro _
      apply Yields.bind later
      exact fun result holds => Yields.pure holds
    · intro _
      apply Yields.ite
      · exact fun _ => later
      · intro _
        apply Yields.bind (connectorOf_yields request loaded.row)
        intro connector _
        cases connector with
        | none => exact later
        | some connector =>
          apply Yields.pure
          intro chosen same
          cases same
          exact known loaded List.mem_cons_self

theorem activeDelegation_yields (request : UseRequest) : (activeDelegation request).Yields (answers good)
    fun result => ∀ chosen, result.2 = some chosen → good chosen.1 := by
  apply Yields.bind_select
  intro (member : Bool) _
  apply Yields.ite
  · intro _
    apply Yields.bind_select
    intro (now : Int) _
    apply Yields.bind_select
    intro (rows : List Loaded) known
    exact firstFitting_yields request now (show Every good rows from known)
  · exact fun _ => Yields.pure fun chosen same => by cases same

theorem authorizeDelegatedUse_yields (request : UseRequest) :
    (authorizeDelegatedUse request).Yields (answers good) fun result => Composed good result.2 := by
  apply Yields.bind (activeDelegation_yields request)
  rintro ⟨expired, resolved⟩ known
  cases resolved with
  | none => exact Yields.pure trivial
  | some chosen =>
    apply Yields.bind_select
    intro (usedAt : Int) _
    exact Yields.pure ⟨known chosen rfl, rfl, rfl⟩

theorem revokeDelegation_yields (userId delegationId : String) :
    (revokeDelegation userId delegationId).Yields (answers good) fun result => Composed good result.2 := by
  apply Yields.bind_select
  intro (found : Option Delegation) _
  cases found with
  | none => exact Yields.raise
  | some row =>
    apply Yields.ite
    · intro active
      apply Yields.bind_select
      intro (now : Int) _
      exact Yields.pure ⟨active, rfl, rfl⟩
    · exact fun _ => Yields.pure trivial

theorem main_composes (good : Loaded → Prop) (pid : Nat) (call : Call) :
    Composes (answers good) (Composed good) (main pid call) := by
  cases call with
  | authorize request =>
    apply Yields.commits
    apply Yields.bind (authorizeDelegatedUse_yields request)
    exact fun _ composed => Yields.pure composed
  | revoke userId delegationId =>
    apply Yields.commits
    apply Yields.bind (revokeDelegation_yields userId delegationId)
    exact fun _ composed => Yields.pure composed

end Composes

def patched (loaded row now : Delegation) : Delegation :=
  { now with
    status := written loaded.status row.status now.status
    revokedAt := written loaded.revokedAt row.revokedAt now.revokedAt
    lastUsedAt := written loaded.lastUsedAt row.lastUsedAt now.lastUsedAt }

structure Updated (state after : State) (loaded row : Delegation) : Prop where
  rows : ∀ now ∈ after.delegations.rows, ∃ old ∈ state.delegations.rows,
    now = if old.id = loaded.id then patched loaded row old else old
  audits : after.audits = state.audits
  late : after.late = state.late

theorem update_updated {state after : State} {loaded row : Delegation}
    (updated : update state loaded row = some after) : Updated state after loaded row := by
  unfold update at updated
  rw [Option.map_eq_some_iff] at updated
  obtain ⟨old, found, rfl⟩ := updated
  refine ⟨fun now member => ?_, rfl, rfl⟩
  have known : old.id = loaded.id := Table.find_key found
  rcases Table.mem_replace.mp member with ⟨kept, apart⟩ | ⟨rfl, _⟩
  · exact ⟨now, kept, by rw [if_neg fun same => apart (same.trans known.symm)]⟩
  · exact ⟨old, Table.find_mem found, by rw [if_pos known]; rfl⟩

theorem expire_invariant {property : State → Prop} (each : ∀ state after loaded, property state →
      Updated state after loaded { loaded with status := .expired } → property after) {state after : State}
    {expired : List Delegation} (initially : property state)
    (updated : expired.foldlM (fun state loaded => update state loaded { loaded with status := .expired }) state =
      some after) : property after := by
  induction expired generalizing state with
  | nil =>
    cases updated
    exact initially
  | cons loaded rest ih =>
    rw [List.foldlM_cons, Option.bind_eq_bind, Option.bind_eq_some_iff] at updated
    obtain ⟨middle, first, later⟩ := updated
    exact ih (each state middle loaded initially (update_updated first)) later

theorem patched_inactive {loaded row now : Delegation} (closes : row.status = loaded.status ∨ row.status ≠ .active)
    (closed : now.status ≠ .active) : (patched loaded row now).status ≠ .active := by
  unfold patched written
  dsimp only
  split
  · exact closed
  · next differs => exact closes.resolve_left differs

theorem uses_record (state : State) (audit : Audit) (delegationId : String) :
    (state.record audit).uses delegationId = state.uses delegationId +
      if audit.delegationId = delegationId ∧ audit.outcome = .authorizedUse then 1 else 0 := by
  simp only [State.uses, State.record, List.countP_append, List.countP_singleton, decide_eq_true_eq]

theorem wasRevoked_record (state : State) (audit : Audit) (delegationId : String) :
    (state.record audit).wasRevoked delegationId =
      (state.wasRevoked delegationId || decide (audit.delegationId = delegationId ∧ audit.outcome = .revoked)) := by
  simp only [State.wasRevoked, State.record, List.any_append, List.any_cons, List.any_nil, Bool.or_false]

theorem Updated.uses {state after : State} {loaded row : Delegation} (updated : Updated state after loaded row)
    (delegationId : String) : after.uses delegationId = state.uses delegationId := by
  rw [State.uses, updated.audits, State.uses]

theorem Updated.wasRevoked {state after : State} {loaded row : Delegation} (updated : Updated state after loaded row)
    (delegationId : String) : after.wasRevoked delegationId = state.wasRevoked delegationId := by
  rw [State.wasRevoked, updated.audits, State.wasRevoked]

/-! ### After a revocation -/

/-- A revoked delegation is not active, and none was used after it was read so. -/
structure Closed (state : State) : Prop where
  inactive : ∀ row ∈ state.delegations.rows, state.wasRevoked row.id = true → row.status ≠ .active
  timely : state.late = false

def Unrevoked (loaded : Loaded) : Prop := loaded.row.status = .active ∧ loaded.revoked = false

theorem Closed.updated {state after : State} {loaded row : Delegation} (closed : Closed state)
    (updated : Updated state after loaded row) (closes : row.status = loaded.status ∨ row.status ≠ .active) :
    Closed after := by
  refine ⟨fun now member revoked => ?_, updated.late.trans closed.timely⟩
  rw [updated.wasRevoked] at revoked
  obtain ⟨old, kept, rfl⟩ := updated.rows now member
  split at revoked
  · next same =>
    rw [if_pos same]
    exact patched_inactive closes (closed.inactive old kept revoked)
  · next other =>
    rw [if_neg other]
    exact closed.inactive old kept revoked

theorem select_active (userId tenantId capabilityId : String) (now : Int) {state : State} {loaded : Loaded}
    (member : loaded ∈ (show List Loaded from (database.select (.active userId tenantId capabilityId) now state).1)) :
    loaded.row ∈ state.delegations.rows ∧ loaded.row.status = .active ∧
      loaded.revoked = state.wasRevoked loaded.row.id := by
  obtain ⟨row, listed, rfl⟩ := List.mem_map.mp member
  rw [List.mem_insertionSort, Table.mem_select] at listed
  obtain ⟨found, matched⟩ := listed
  exact ⟨Table.find_mem found, (of_decide_eq_true matched).2.2.2, rfl⟩

theorem database_reads (query : queries.Op) (now : Int) (state : State) : (database.select query now state).2 = state := by
  cases query <;> rfl

theorem database_answers {good : Loaded → Prop} {state : State}
    (active : ∀ row ∈ state.delegations.rows, row.status = .active → good ⟨row, state.wasRevoked row.id⟩)
    (query : queries.Op) (now : Int) : answers good query (database.select query now state).1 := by
  cases query with
  | active userId tenantId capabilityId =>
    intro loaded member
    obtain ⟨kept, isActive, flag⟩ := select_active userId tenantId capabilityId now member
    have same : loaded = ⟨loaded.row, state.wasRevoked loaded.row.id⟩ := by rw [← flag]
    rw [same]
    exact active loaded.row kept isActive
  | _ => trivial

theorem commit_authorized {expired : List Delegation} {use : Use} {state after : State}
    (committed : commit (.authorized expired (some use)) state = some after) : ∃ middle used,
      expired.foldlM (fun state loaded => update state loaded { loaded with status := .expired }) state = some middle ∧
      Updated middle used use.loaded.row use.row ∧
      after = { used.record use.audit with late := used.late || use.loaded.revoked } := by
  simp only [commit, Option.bind_eq_bind, Option.bind_eq_some_iff] at committed
  obtain ⟨middle, marked, used, updated, recorded⟩ := committed
  cases recorded
  exact ⟨middle, used, marked, update_updated updated, rfl⟩

theorem commit_expired {expired : List Delegation} {state after : State}
    (committed : commit (.authorized expired none) state = some after) :
    expired.foldlM (fun state loaded => update state loaded { loaded with status := .expired }) state = some after := by
  simp only [commit, Option.bind_eq_bind, Option.bind_eq_some_iff] at committed
  obtain ⟨middle, marked, same⟩ := committed
  cases same
  exact marked

theorem commit_revoked {loaded : Delegation} {revokedAt : Int} {audit : Audit} {state after : State}
    (committed : commit (.revoked loaded revokedAt audit) state = some after) : ∃ updated,
      Updated state updated loaded { loaded with status := .revoked, revokedAt := some revokedAt } ∧
      after = updated.record audit := by
  simp only [commit, Option.bind_eq_bind, Option.bind_eq_some_iff] at committed
  obtain ⟨updated, wrote, recorded⟩ := committed
  cases recorded
  exact ⟨updated, update_updated wrote, rfl⟩

theorem Use.closes (use : Use) : use.row.status = use.loaded.row.status ∨ use.row.status ≠ .active := by
  unfold Use.row
  dsimp only
  split
  · exact .inr (by decide)
  · exact .inl rfl

theorem Closed.commit {state after : State} {flush : Flush} (closed : Closed state)
    (composed : Composed Unrevoked flush) (committed : commit flush state = some after) : Closed after := by
  have expires : ∀ state after loaded, Closed state →
      Updated state after loaded { loaded with status := .expired } → Closed after :=
    fun _ _ _ closed updated => closed.updated updated (.inr (by simp))
  cases flush with
  | authorized expired use =>
    cases use with
    | none => exact expire_invariant expires closed (commit_expired committed)
    | some use =>
      obtain ⟨middle, used, marked, updated, rfl⟩ := commit_authorized committed
      obtain ⟨good, target, outcome⟩ := composed
      have before := (expire_invariant expires closed marked).updated updated use.closes
      refine ⟨fun row member revoked => ?_, ?_⟩
      · have flag : (used.record use.audit).wasRevoked row.id = true := revoked
        rw [wasRevoked_record, outcome] at flag
        have earlier : used.wasRevoked row.id = true := by simpa using flag
        exact before.inactive row member earlier
      · simp only [before.timely, good.2, Bool.or_self]
  | revoked loaded revokedAt audit =>
    obtain ⟨updated, wrote, rfl⟩ := commit_revoked committed
    obtain ⟨active, target, outcome⟩ := composed
    have before := closed.updated wrote (.inr (by simp))
    refine ⟨fun row member revoked => ?_, before.timely⟩
    by_cases own : row.id = loaded.id
    · obtain ⟨old, kept, rfl⟩ := wrote.rows row member
      have same : old.id = loaded.id := by
        by_cases hit : old.id = loaded.id
        · exact hit
        · rwa [if_neg hit] at own
      rw [if_pos same]
      have closes : (Status.revoked : Status) ≠ loaded.status := by rw [active]; decide
      simp only [patched, written_of_ne closes]
      decide
    · rw [wasRevoked_record, target] at revoked
      have earlier : updated.wasRevoked row.id = true := by simpa [Ne.symm own] using revoked
      exact before.inactive row member earlier
  | nothing =>
    cases committed
    exact closed

theorem closed_kept : database.Keeps Closed (answers Unrevoked) (Composed Unrevoked) (fun _ _ => True) where
  selects query now state closed := by
    refine ⟨database_answers (fun row kept active => ⟨active, ?_⟩) query now,
      (database_reads query now state).symm ▸ closed⟩
    cases revoked : state.wasRevoked row.id with
    | false => rfl
    | true => exact absurd active (closed.inactive row kept revoked)
  commits _ _ _ closed composed _ committed := closed.commit composed committed

/-! ### The life of a one-time grant -/

/-- A one-time grant is unused, or it was used once, shows it and is not active any more. The kind of a
grant never changes. -/
structure Lived (kinds : String → GrantType) (state : State) : Prop where
  kind : ∀ row ∈ state.delegations.rows, row.grantType = kinds row.id
  once : ∀ row ∈ state.delegations.rows, row.grantType = .oneTime →
    (state.uses row.id = 0 ∧ row.lastUsedAt = none) ∨
      (state.uses row.id = 1 ∧ row.lastUsedAt ≠ none ∧ row.status ≠ .active)

/-- Read as active, and without a use if it is a one-time grant. -/
structure Fresh (kinds : String → GrantType) (loaded : Loaded) : Prop where
  active : loaded.row.status = .active
  kind : loaded.row.grantType = kinds loaded.row.id
  unused : loaded.row.grantType = .oneTime → loaded.row.lastUsedAt = none

/-- No use of a one-time grant was recorded in its row since the row was read. -/
def UnusedSince : Flush → State → Prop
  | .authorized _ (some use), state => use.loaded.row.grantType = .oneTime →
      ∀ now ∈ state.delegations.find use.loaded.row.id, now.lastUsedAt = use.loaded.row.lastUsedAt
  | _, _ => True

instance (flush : Flush) (state : State) : Decidable (UnusedSince flush state) :=
  match flush with
  | .authorized _ (some use) => inferInstanceAs (Decidable (use.loaded.row.grantType = .oneTime →
      ∀ now ∈ state.delegations.find use.loaded.row.id, now.lastUsedAt = use.loaded.row.lastUsedAt))
  | .authorized _ none | .revoked .. | .nothing => .isTrue trivial

section Lived
variable {kinds : String → GrantType} {state after : State} {loaded row : Delegation}

theorem Lived.updated (lived : Lived kinds state) (updated : Updated state after loaded row)
    (closes : row.status = loaded.status ∨ row.status ≠ .active) (idle : row.lastUsedAt = loaded.lastUsedAt) :
    Lived kinds after := by
  have facts : ∀ now ∈ after.delegations.rows, ∃ old ∈ state.delegations.rows, now.id = old.id ∧
      now.grantType = old.grantType ∧ now.lastUsedAt = old.lastUsedAt ∧
        (old.status ≠ .active → now.status ≠ .active) := by
    intro now member
    obtain ⟨old, kept, rfl⟩ := updated.rows now member
    refine ⟨old, kept, ?_⟩
    split
    · exact ⟨rfl, rfl, by simp only [patched, idle, written_same], patched_inactive closes⟩
    · exact ⟨rfl, rfl, rfl, id⟩
  constructor
  · intro now member
    obtain ⟨old, kept, same, kind, _⟩ := facts now member
    rw [kind, same, lived.kind old kept]
  · intro now member oneTime
    obtain ⟨old, kept, same, kind, use, inactive⟩ := facts now member
    rw [updated.uses, same, use]
    rcases lived.once old kept (kind.symm.trans oneTime) with unused | ⟨used, shown, closed⟩
    · exact .inl unused
    · exact .inr ⟨used, shown, inactive closed⟩

theorem Lived.record (lived : Lived kinds state) {audit : Audit} (idle : audit.outcome ≠ .authorizedUse) :
    Lived kinds (state.record audit) := by
  refine ⟨lived.kind, fun row member oneTime => ?_⟩
  rw [uses_record, if_neg fun both => idle both.2]
  exact lived.once row member oneTime

theorem Lived.used {use : Use} (lived : Lived kinds state) (fresh : Fresh kinds use.loaded)
    (unused : use.loaded.row.grantType = .oneTime →
      ∀ now ∈ state.delegations.rows, now.id = use.loaded.row.id → now.lastUsedAt = none)
    (target : use.audit.delegationId = use.loaded.row.id) (outcome : use.audit.outcome = .authorizedUse)
    (updated : Updated state after use.loaded.row use.row) : Lived kinds (after.record use.audit) := by
  constructor
  · intro now member
    obtain ⟨old, kept, rfl⟩ := updated.rows now member
    split
    · exact lived.kind old kept
    · exact lived.kind old kept
  · intro now member oneTime
    obtain ⟨old, kept, rfl⟩ := updated.rows now member
    rw [uses_record, updated.uses]
    by_cases hit : old.id = use.loaded.row.id
    · rw [if_pos hit] at oneTime ⊢
      have kind : use.loaded.row.grantType = .oneTime := by
        rw [fresh.kind, ← hit, ← lived.kind old kept]
        exact oneTime
      have first : state.uses old.id = 0 := by
        rcases lived.once old kept oneTime with ⟨none, _⟩ | ⟨_, shown, _⟩
        · exact none
        · exact absurd (unused kind old kept hit) shown
      have last : use.row.lastUsedAt ≠ use.loaded.row.lastUsedAt := by
        rw [fresh.unused kind]
        exact Option.some_ne_none _
      have consumed : use.row.status = .consumed := if_pos kind
      have closes : use.row.status ≠ use.loaded.row.status := by rw [consumed, fresh.active]; decide
      refine .inr ⟨?_, ?_, ?_⟩
      · have own : (patched use.loaded.row use.row old).id = old.id := rfl
        rw [own, first, if_pos ⟨target.trans hit.symm, outcome⟩]
      · have shown : (patched use.loaded.row use.row old).lastUsedAt = use.row.lastUsedAt := written_of_ne last
        rw [shown]
        exact Option.some_ne_none _
      · have closed : (patched use.loaded.row use.row old).status = use.row.status := written_of_ne closes
        rw [closed, consumed]
        decide
    · rw [if_neg hit] at oneTime ⊢
      rw [if_neg fun both => hit (both.1.symm.trans target)]
      exact lived.once old kept oneTime

theorem Lived.commit {flush : Flush} (lived : Lived kinds state) (composed : Composed (Fresh kinds) flush)
    (unused : UnusedSince flush state) (committed : commit flush state = some after) : Lived kinds after := by
  cases flush with
  | authorized expired use =>
    cases use with
    | none =>
      refine expire_invariant (fun _ _ _ lived updated => ?_) lived (commit_expired committed)
      exact lived.updated updated (.inr (by simp)) rfl
    | some use =>
      obtain ⟨middle, used, marked, updated, rfl⟩ := commit_authorized committed
      obtain ⟨fresh, target, outcome⟩ := composed
      -- the rows that are marked as expired keep their use
      let unread (state : State) : Prop := Lived kinds state ∧ (use.loaded.row.grantType = .oneTime →
        ∀ now ∈ state.delegations.rows, now.id = use.loaded.row.id → now.lastUsedAt = none)
      have before : unread state := by
        refine ⟨lived, fun oneTime now member same => ?_⟩
        rw [← fresh.unused oneTime]
        apply unused oneTime
        rw [← same]
        exact Table.find_of_mem member
      have step : ∀ state after loaded, unread state →
          Updated state after loaded { loaded with status := .expired } → unread after := by
        intro state after loaded ⟨lived, unused⟩ updated
        refine ⟨lived.updated updated (.inr (by simp)) rfl, fun oneTime now member same => ?_⟩
        obtain ⟨old, kept, rfl⟩ := updated.rows now member
        split at same
        · next hit =>
          rw [if_pos hit]
          simp only [patched, written_same]
          exact unused oneTime old kept same
        · next miss =>
          rw [if_neg miss]
          exact unused oneTime old kept same
      obtain ⟨still, none⟩ := expire_invariant step before marked
      have recorded := still.used fresh none target outcome updated
      exact ⟨recorded.kind, recorded.once⟩
  | revoked loaded revokedAt audit =>
    obtain ⟨updated, wrote, rfl⟩ := commit_revoked committed
    obtain ⟨_, _, outcome⟩ := composed
    exact (lived.updated wrote (.inr (by simp)) rfl).record (by rw [outcome]; decide)
  | nothing =>
    cases committed
    exact lived

end Lived

theorem lived_kept (kinds : String → GrantType) :
    database.Keeps (Lived kinds) (answers (Fresh kinds)) (Composed (Fresh kinds)) UnusedSince where
  selects query now state lived := by
    refine ⟨database_answers (fun row kept active => ⟨active, lived.kind row kept, fun oneTime => ?_⟩) query now,
      (database_reads query now state).symm ▸ lived⟩
    rcases lived.once row kept oneTime with ⟨_, unused⟩ | ⟨_, _, closed⟩
    · exact unused
    · exact absurd active closed
  commits _ _ _ lived composed unused committed := lived.commit composed unused committed

/-- Before any of these transactions: every one-time grant is unused, a revoked one is not active. -/
structure Opening (state : State) : Prop where
  unused : ∀ row ∈ state.delegations.rows, row.grantType = .oneTime →
    state.uses row.id = 0 ∧ row.lastUsedAt = none
  closed : Closed state

/-- Whatever the calls interleave: as long as no use of a one-time grant commits after another one was
recorded in its row, it is used once at most; and no delegation is ever used from a row that was read
after its revocation. -/
theorem delegated_uses_bounded {start : State} {moves : List (Move Call Int)}
    {final : Pool (sessions queries Flush) Call (Except DelegationFailure Reply) State} (opening : Opening start) :
    (Runs (Pool.step database.world main) (database.admitted UnusedSince) (Pool.initial start) moves final →
      ∀ row ∈ final.shared.delegations.rows, row.grantType = .oneTime → final.shared.uses row.id ≤ 1) ∧
    (Runs (Pool.step database.world main) (fun _ _ => True) (Pool.initial start) moves final →
      final.shared.late = false) := by
  constructor
  · intro run row member oneTime
    let kinds (id : String) : GrantType := ((start.delegations.find id).map Delegation.grantType).getD .persistent
    have lived : Lived kinds start := {
      kind := fun row member => by simp only [kinds, Table.find_of_mem member, Option.map_some, Option.getD_some]
      once := fun row member oneTime => .inl (opening.unused row member oneTime) }
    have kept := (lived_kept kinds).committed (main_composes (Fresh kinds)) lived run
    rcases kept.once row member oneTime with ⟨none, _⟩ | ⟨one, _⟩ <;> omega
  · intro run
    have admitted := run.weaken (Database.admitted_true database)
    exact (closed_kept.committed (main_composes Unrevoked) opening.closed admitted).timely

def grant (id : String) (grantType : GrantType) : Delegation :=
  ⟨id, "principal", "ada", "workspace", "gmail.send", none, grantType, none, .active, 0, none, none, none⟩

def granted : State where
  members := [("ada", "workspace")]
  connectors := []
  delegations := [grant "once" .oneTime, grant "always" .persistent].foldl .insert .empty
  audits := []

theorem granted_opening : Opening granted where
  unused := by decide
  closed := ⟨by decide, rfl⟩

def sendMail : Call := .authorize ⟨"ada", "workspace", "gmail.send", none, none⟩

def steps (pid count : Nat) : List (Move Call Int) := .replicate count (.act pid 5)

def inTurn : List (Move Call Int) :=
  [.start 0 sendMail] ++ steps 0 5 ++ [.start 1 sendMail, .start 2 (.revoke "ada" "always")] ++ steps 1 3 ++
    steps 2 3 ++ steps 1 2

theorem inTurn_checked : (inTurn.foldlM (fun pool move =>
    if database.checked (fun flush state => UnusedSince flush state) pool move then
      pool.step database.world main move else none) (Pool.initial granted)).map
        (fun pool => pool.shared.audits.map fun audit => (audit.delegationId, decide (audit.outcome = .revoked))) =
          some [("once", false), ("always", true), ("always", false)] := by
  decide

theorem delegated_uses_bounded_in_turn : ∃ final,
    Runs (Pool.step database.world main) (database.admitted UnusedSince) (Pool.initial granted) inTurn final ∧
      (∀ row ∈ final.shared.delegations.rows, row.grantType = .oneTime → final.shared.uses row.id ≤ 1) ∧
        final.shared.late = false := by
  obtain ⟨final, evaluated, _⟩ := Option.map_eq_some_iff.mp inTurn_checked
  have run := Runs.of_checked (Database.admitted_of_checked fun _ _ => of_decide_eq_true) evaluated
  exact ⟨final, run, (delegated_uses_bounded granted_opening).1 run,
    (delegated_uses_bounded granted_opening).2 (run.weaken fun _ _ _ => trivial)⟩

def overlapping : List (Move Call Int) := [.start 0 sendMail, .start 1 sendMail] ++ steps 0 4 ++ steps 1 4 ++
  steps 0 1 ++ steps 1 1

theorem overlapping_uses : (overlapping.foldlM (Pool.step database.world main) (Pool.initial granted)).map
    (fun pool => decide (∀ row ∈ pool.shared.delegations.rows, row.grantType = .oneTime →
      pool.shared.uses row.id ≤ 1)) = some false := by
  decide

theorem one_time_grant_used_twice : Opening granted ∧
    ∃ final, Runs (Pool.step database.world main) (fun _ _ => True) (Pool.initial granted) overlapping final ∧
      ¬ ∀ row ∈ final.shared.delegations.rows, row.grantType = .oneTime → final.shared.uses row.id ≤ 1 := by
  refine ⟨granted_opening, ?_⟩
  obtain ⟨final, evaluated, twice⟩ := Option.map_eq_some_iff.mp overlapping_uses
  exact ⟨final, .of_foldlM evaluated, of_decide_eq_false twice⟩

end Operly.Security.PersonalDelegation
