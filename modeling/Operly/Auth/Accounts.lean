import Operly.Auth.Security
import Operly.Concurrent.ReadCommitted
import Operly.Python.Json
import Operly.Relational.Columns

/-! The requests of an account that prove something: a code, a link or a password. Each is a session of
its own, which reads rows without locking them and commits at its end. -/

namespace Operly.Auth
open Python Concurrent Relational

structure AppUser where
  id : String
  email : String
  passwordHash : Option String
  emailVerifiedAt : Option Int
  active : Bool
  updatedAt : Int
  deriving DecidableEq

structure AuthIdentity where
  userId : String
  provider : String
  providerSubject : String
  providerEmail : Option String
  deriving DecidableEq

structure AuthChallenge where
  id : String
  purpose : String
  userId : Option String
  targetEmail : String
  secretHash : String
  codeHash : Option String
  expiresAt : Int
  attemptCount : Int
  maxAttempts : Int
  consumedAt : Option Int
  createdAt : Int
  deriving DecidableEq

structure AuthSession where
  id : String
  tokenHash : String
  csrfTokenHash : String
  userId : String
  tenantId : Option String
  createdAt : Int
  expiresAt : Int
  lastActivityAt : Int
  revokedAt : Option Int
  authenticatedAt : Int
  deriving DecidableEq

/-- `TenantMember`, in the order of `created_at` and `id` -/
structure TenantMember where
  tenantId : String
  userId : String
  deriving DecidableEq

/-- `SecurityEvent`, with the value that `metadata_json` encodes -/
structure SecurityEvent where
  eventType : String
  outcome : String
  userId : Option String
  tenantId : Option String
  metadata : Fields
  deriving DecidableEq

inductive Entry where
  /-- a wrong code was compared with a challenge -/
  | compared (challengeId : String)
  /-- a proof for a challenge was accepted -/
  | accepted (challengeId : String)
  | passwordSet (userId password : String)
  /-- a login verified a password and opened a session -/
  | signedIn (userId sessionId password : String)
  deriving DecidableEq

/-- The tables, and the record of what has happened, the latest first -/
structure State where
  users : Table AppUser String AppUser.id
  identities : List AuthIdentity
  challenges : Table AuthChallenge String AuthChallenge.id
  sessions : Table AuthSession String AuthSession.id
  members : List TenantMember
  events : List SecurityEvent
  log : List Entry

/-! ### The statements of a session -/

inductive Query where
  | utcnow
  | uid
  | randomToken
  | salt
  /-- whether `_rate_limit` raises -/
  | rateLimited (endpoint : String) (account : Option String)
  | user (id : String)
  | userByEmail (email : String)
  | challengeById (id : String)
  | challengeByLink (purpose secretHash : String)
  | challengeByEmail (purpose email : String)
  /-- whether the `UPDATE` that consumes a challenge finds it -/
  | consumable (challengeId : String)
  | openChallenges (userId purpose : String)
  | sessionByToken (tokenHash : String)
  | openSessions (userId : String)
  | firstMembership (userId : String)
  | membership (userId tenantId : String)
  | identity (userId provider : String)

def queries : Interface where
  Op := Query
  Answer
    | .utcnow => Int
    | .uid | .randomToken | .salt => String
    | .rateLimited .. | .consumable _ => Bool
    | .user _ | .userByEmail _ => Option AppUser
    | .challengeById _ | .challengeByLink .. | .challengeByEmail .. => Option AuthChallenge
    | .openChallenges .. | .openSessions _ => List String
    | .sessionByToken _ => Option AuthSession
    | .firstMembership _ | .membership .. => Option TenantMember
    | .identity .. => Option AuthIdentity

/-- What the clock, the generator of secrets and the rate limiter answer. The limiter counts requests by
account and address in a table of its own. -/
structure Drawn where
  now : Int := 0
  text : String := ""
  limited : Bool := false

inductive Change where
  /-- a wrong code is compared with the challenge as it was loaded; a record, no statement -/
  | compared (loaded : AuthChallenge)
  | audited (event : SecurityEvent)
  | touched (session : AuthSession) (lastActivityAt : Int)
  /-- a failed guess, with the attempts that it writes -/
  | failed (loaded : AuthChallenge) (attemptCount : Int) (consumedAt : Option Int) (event : SecurityEvent)
  | verified (challenge : AuthChallenge) (others : List String) (user : AppUser) (at' : Int) (session : AuthSession)
      (events : List SecurityEvent)
  | signedIn (user : AppUser) (password : String) (upgradedHash : Option String) (at' : Int) (session : AuthSession)
      (event : SecurityEvent)
  /-- a new password, with the sessions that were found open, and the challenge of a reset -/
  | passwordSet (challenge : Option AuthChallenge) (user : AppUser) (password hash : String) (at' : Int)
      (identity : Option AuthIdentity) (revoked : List String) (session : AuthSession) (event : SecurityEvent)

namespace State
variable (state : State)

def record (entry : Entry) : State := { state with log := entry :: state.log }
def audit (events : List SecurityEvent) : State := { state with events := state.events ++ events }

/-- `UPDATE auth_challenges SET consumed_at ... WHERE id = ... AND consumed_at IS NULL`, which must find the row -/
def consume (challenge : AuthChallenge) (at' : Int) : Option State :=
  match state.challenges.find challenge.id with
  | none => none
  | some now =>
      if now.consumedAt = none then
        some { state with challenges := state.challenges.replace { now with consumedAt := some at' } }
      else none

def consumeOpen (ids : List String) (at' : Int) : State :=
  { state with
    challenges := state.challenges.modify
      (fun row => if row.id ∈ ids ∧ row.consumedAt = none then { row with consumedAt := some at' } else row)
      fun row => by split <;> rfl }

def revoke (ids : List String) (at' : Int) : State :=
  { state with
    sessions := state.sessions.modify
      (fun row => if row.id ∈ ids ∧ row.revokedAt = none then { row with revokedAt := some at' } else row)
      fun row => by split <;> rfl }

def updateUser (loaded : AppUser) (change : AppUser → AppUser) : Option State :=
  (state.users.find loaded.id).map fun now => { state with users := state.users.replace (change now) }

def upgrade (user : AppUser) (at' : Int) : Option String → Option State
  | none => some state
  | some hash => state.updateUser user fun now => { now with passwordHash := some hash, updatedAt := at' }

def prove (at' : Int) : Option AuthChallenge → Option State
  | none => some state
  | some challenge => (state.consume challenge at').map (·.record (.accepted challenge.id))

/-- `INSERT` of a session, whose id and token are unique -/
def openSession (session : AuthSession) : Option State :=
  if (state.sessions.find session.id).isSome ∨ state.sessions.rows.any (·.tokenHash = session.tokenHash) then none
  else some { state with sessions := state.sessions.insert session }

def addIdentity : Option AuthIdentity → Option State
  | none => some state
  | some identity =>
      if state.identities.any fun other => other.provider = identity.provider ∧
          (other.providerSubject = identity.providerSubject ∨ other.userId = identity.userId) then none
      else some { state with identities := state.identities ++ [identity] }

end State

def commit : Change → State → Option State
  | .compared loaded, state => some (state.record (.compared loaded.id))
  | .audited event, state => some (state.audit [event])
  | .touched session lastActivityAt, state =>
      (state.sessions.find session.id).map fun now => { state with
        sessions := state.sessions.replace { now with
          lastActivityAt := written session.lastActivityAt lastActivityAt now.lastActivityAt } }
  | .failed loaded attemptCount consumedAt event, state =>
      (state.challenges.find loaded.id).map fun now => { state.audit [event] with
        challenges := state.challenges.replace { now with
          attemptCount := written loaded.attemptCount attemptCount now.attemptCount
          consumedAt := written loaded.consumedAt consumedAt now.consumedAt } }
  | .verified challenge others user at' session events, state => do
      let state ← state.consume challenge at'
      let state ← (state.consumeOpen others at').updateUser user fun now => { now with
        emailVerifiedAt := written user.emailVerifiedAt (user.emailVerifiedAt.or (some at')) now.emailVerifiedAt
        updatedAt := at' }
      let state ← state.openSession session
      return (state.audit events).record (.accepted challenge.id)
  | .signedIn user password upgradedHash at' session event, state => do
      let state ← state.upgrade user at' upgradedHash
      let state ← state.openSession session
      return (state.audit [event]).record (.signedIn user.id session.id password)
  | .passwordSet challenge user password hash at' identity revoked session event, state => do
      let state ← state.prove at' challenge
      -- every hash has a salt of its own, so the column always changes
      let state ← state.updateUser user fun now => { now with passwordHash := some hash, updatedAt := at' }
      let state ← state.addIdentity identity
      let state ← (state.revoke revoked at').openSession session
      return (state.audit [event]).record (.passwordSet user.id password)

def newest : List AuthChallenge → Option AuthChallenge
  | [] => none
  | row :: rest =>
      match newest rest with
      | none => some row
      | some other => if row.createdAt < other.createdAt then some other else some row

def database : Database queries Change State Drawn where
  select
    | .utcnow, drawn, state => (drawn.now, state)
    | .uid, drawn, state | .randomToken, drawn, state | .salt, drawn, state => (drawn.text, state)
    | .rateLimited .., drawn, state => (drawn.limited, state)
    | .user id, _, state => (state.users.find id, state)
    | .userByEmail email, _, state => (state.users.first fun row => row.email = email, state)
    | .challengeById id, _, state => (state.challenges.find id, state)
    | .challengeByLink purpose secretHash, _, state =>
        (state.challenges.first fun row => row.purpose = purpose ∧ row.secretHash = secretHash, state)
    | .challengeByEmail purpose email, _, state =>
        (newest (state.challenges.select fun row => row.purpose = purpose ∧ row.targetEmail = email ∧
          row.consumedAt = none), state)
    | .consumable id, _, state => ((state.challenges.find id).any (·.consumedAt = none), state)
    | .openChallenges userId purpose, _, state =>
        ((state.challenges.select fun row => row.userId = some userId ∧ row.purpose = purpose ∧
          row.consumedAt = none).map (·.id), state)
    | .sessionByToken tokenHash, _, state => (state.sessions.first fun row => row.tokenHash = tokenHash, state)
    | .openSessions userId, _, state =>
        ((state.sessions.select fun row => row.userId = userId ∧ row.revokedAt = none).map (·.id), state)
    | .firstMembership userId, _, state => (state.members.find? fun row => row.userId = userId, state)
    | .membership userId tenantId, _, state =>
        (state.members.find? fun row => row.userId = userId ∧ row.tenantId = tenantId, state)
    | .identity userId provider, _, state =>
        (state.identities.find? fun row => row.userId = userId ∧ row.provider = provider, state)
  commit := commit

/-! ### What a commit does to the tables -/

section Commits
variable {state after : State}

variable {at' : Int} {session : AuthSession} {user : AppUser}

theorem State.consume_eq_some {challenge : AuthChallenge} (consumed : state.consume challenge at' = some after) :
    ∃ now, state.challenges.find challenge.id = some now ∧ now.consumedAt = none ∧
      after = { state with challenges := state.challenges.replace { now with consumedAt := some at' } } := by
  unfold State.consume at consumed
  split at consumed
  · cases consumed
  · next now found =>
    split at consumed
    · next opened =>
      cases consumed
      exact ⟨now, found, opened, rfl⟩
    · cases consumed

theorem State.updateUser_eq_some {loaded : AppUser} {change : AppUser → AppUser}
    (updated : state.updateUser loaded change = some after) :
    ∃ now, state.users.find loaded.id = some now ∧ after = { state with users := state.users.replace (change now) } := by
  obtain ⟨now, found, same⟩ := Option.map_eq_some_iff.mp updated
  exact ⟨now, found, same.symm⟩

theorem State.openSession_eq_some (opened : state.openSession session = some after) :
    state.sessions.find session.id = none ∧ after = { state with sessions := state.sessions.insert session } := by
  unfold State.openSession at opened
  split at opened
  · cases opened
  · next fresh =>
    cases opened
    exact ⟨Option.not_isSome_iff_eq_none.mp fun taken => fresh (.inl taken), rfl⟩

theorem State.addIdentity_eq_some {identity : Option AuthIdentity} (added : state.addIdentity identity = some after) :
    ∃ identities, after = { state with identities := identities } := by
  unfold State.addIdentity at added
  split at added
  · cases added
    exact ⟨_, rfl⟩
  · split at added
    · cases added
    · cases added
      exact ⟨_, rfl⟩

theorem State.open_of_revoke {ids : List String} (member : session ∈ (state.revoke ids at').sessions.rows)
    (opened : session.revokedAt = none) : session ∈ state.sessions.rows ∧ session.id ∉ ids := by
  obtain ⟨row, present, same⟩ := List.mem_map.mp member
  split at same
  · rw [← same] at opened
    cases opened
  · next untouched =>
    subst same
    exact ⟨present, fun listed => untouched ⟨listed, opened⟩⟩

theorem commit_verified {challenge : AuthChallenge} {others : List String} {events : List SecurityEvent}
    (committed : commit (.verified challenge others user at' session events) state = some after) :
    (∃ consumed middle, state.consume challenge at' = some consumed ∧ middle = consumed.consumeOpen others at' ∧
      after.challenges = middle.challenges) ∧
    (∃ now, state.users.find user.id = some now ∧ after.users = state.users.replace { now with
      emailVerifiedAt := written user.emailVerifiedAt (user.emailVerifiedAt.or (some at')) now.emailVerifiedAt
      updatedAt := at' }) ∧
    (state.sessions.find session.id = none ∧ after.sessions = state.sessions.insert session) ∧
    after.log = .accepted challenge.id :: state.log := by
  obtain ⟨consumed, consumption, committed⟩ := Option.bind_eq_some_iff.mp committed
  obtain ⟨updated, update, committed⟩ := Option.bind_eq_some_iff.mp committed
  obtain ⟨opened, opening, same⟩ := Option.bind_eq_some_iff.mp committed
  cases same
  obtain ⟨row, _, _, rfl⟩ := State.consume_eq_some consumption
  obtain ⟨now, found, rfl⟩ := State.updateUser_eq_some update
  obtain ⟨fresh, rfl⟩ := State.openSession_eq_some opening
  exact ⟨⟨_, _, consumption, rfl, rfl⟩, ⟨now, found, rfl⟩, ⟨fresh, rfl⟩, rfl⟩

theorem commit_signedIn {password : String} {upgradedHash : Option String} {event : SecurityEvent}
    (committed : commit (.signedIn user password upgradedHash at' session event) state = some after) :
    after.challenges = state.challenges ∧
    ((upgradedHash = none ∧ after.users = state.users) ∨
      ∃ hash now, upgradedHash = some hash ∧ state.users.find user.id = some now ∧
        after.users = state.users.replace { now with passwordHash := some hash, updatedAt := at' }) ∧
    (state.sessions.find session.id = none ∧ after.sessions = state.sessions.insert session) ∧
    after.log = .signedIn user.id session.id password :: state.log := by
  obtain ⟨upgraded, upgrade, committed⟩ := Option.bind_eq_some_iff.mp committed
  obtain ⟨opened, opening, same⟩ := Option.bind_eq_some_iff.mp committed
  cases same
  obtain ⟨fresh, rfl⟩ := State.openSession_eq_some opening
  cases upgradedHash with
  | none =>
    cases upgrade
    exact ⟨rfl, .inl ⟨rfl, rfl⟩, ⟨fresh, rfl⟩, rfl⟩
  | some hash =>
    obtain ⟨now, found, rfl⟩ := State.updateUser_eq_some upgrade
    exact ⟨rfl, .inr ⟨hash, now, rfl, found, rfl⟩, ⟨fresh, rfl⟩, rfl⟩

theorem commit_passwordSet {challenge : Option AuthChallenge} {password hash : String}
    {identity : Option AuthIdentity} {revoked : List String} {event : SecurityEvent}
    (committed : commit (.passwordSet challenge user password hash at' identity revoked session event) state =
      some after) :
    ((challenge = none ∧ after.challenges = state.challenges ∧ after.log = .passwordSet user.id password :: state.log) ∨
      ∃ proof consumed, challenge = some proof ∧ state.consume proof at' = some consumed ∧
        after.challenges = consumed.challenges ∧
        after.log = .passwordSet user.id password :: .accepted proof.id :: state.log) ∧
    (∃ now, state.users.find user.id = some now ∧
      after.users = state.users.replace { now with passwordHash := some hash, updatedAt := at' }) ∧
    ((state.revoke revoked at').sessions.find session.id = none ∧
      after.sessions = (state.revoke revoked at').sessions.insert session) := by
  obtain ⟨proved, proof, committed⟩ := Option.bind_eq_some_iff.mp committed
  obtain ⟨updated, update, committed⟩ := Option.bind_eq_some_iff.mp committed
  obtain ⟨known, addition, committed⟩ := Option.bind_eq_some_iff.mp committed
  obtain ⟨opened, opening, same⟩ := Option.bind_eq_some_iff.mp committed
  cases same
  obtain ⟨now, found, rfl⟩ := State.updateUser_eq_some update
  obtain ⟨identities, rfl⟩ := State.addIdentity_eq_some addition
  obtain ⟨fresh, rfl⟩ := State.openSession_eq_some opening
  cases challenge with
  | none =>
    cases proof
    exact ⟨.inl ⟨rfl, rfl, rfl⟩, ⟨now, found, rfl⟩, ⟨fresh, rfl⟩⟩
  | some challenge =>
    obtain ⟨consumed, consumption, rfl⟩ := Option.map_eq_some_iff.mp proof
    obtain ⟨row, _, _, rfl⟩ := State.consume_eq_some consumption
    exact ⟨.inr ⟨challenge, _, rfl, consumption, rfl, rfl⟩, ⟨now, found, rfl⟩, ⟨fresh, rfl⟩⟩

end Commits

end Operly.Auth
