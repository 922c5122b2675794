import Operly.Auth.Accounts
import Operly.Python.Datetime
import Operly.Security.Context

/-! The endpoints that take a proof: verification of an address, login, reset and change of a password. -/

namespace Operly.Auth
open Python Concurrent Relational Security Fallible

/-- `auth_error`, and what the database raises at a flush -/
inductive AuthError where
  | auth (statusCode : Nat) (code message : String)
  | http (statusCode : Nat) (message : String)
  | database
  deriving DecidableEq

abbrev Session (α : Type) := Transaction queries Change AuthError α

def ask (query : Query) : Session (queries.Answer query) :=
  Transaction.select (show queries.Op from query)

def note (change : Change) : Session Unit := do
  let _ : Bool ← Fallible.ask (show (sessions queries Change).Op from .commit change)
  return ()

def sessionMaxAge : Int := 60 * 60 * 24 * 7 * Time.second

structure ChallengeInput where
  challengeId : Option String := none
  email : Option String := none
  code : Option String := none
  token : Option String := none

inductive Reply where
  | verified (scope : String)
  | signedIn (scope : String)
  | passwordReset (scope : String)
  | passwordChanged
  deriving DecidableEq

/-- What a request returns: a reply or an error, after the changes of either are committed -/
abbrev Outcome := Except AuthError Reply × Change

def securityEvent (eventType outcome : String) (userId tenantId : Option String) (metadata : Fields) : SecurityEvent :=
  ⟨eventType, outcome, userId, tenantId, metadata⟩

section Endpoints
variable (primitives : Primitives)

def normalizedEmail (value : String) : Except AuthError String :=
  match normalizeEmail primitives value with
  | none => .error (.auth 422 "INVALID_EMAIL" "Enter a valid email address")
  | some email => .ok email

/-- `_rate_limit`; the event of a request that is limited -/
def rateLimit (endpoint : String) (account : Option String) : Session (Option Outcome) := do
  let exceeded : Bool ← ask (.rateLimited endpoint account)
  if exceeded then
    return some (.error (.auth 429 "RATE_LIMITED" "Too many attempts. Please wait and try again."),
      .audited (securityEvent "rate_limit_triggered" "blocked" none none [("endpoint", .str endpoint)]))
  else return none

def namedChallenge (challengeId : Option String) : Session (Option AuthChallenge) :=
  match challengeId.filter (· ≠ "") with
  | some challengeId => ask (.challengeById challengeId)
  | none => return none

def challengeOfEmail (payload : ChallengeInput) (purpose : String) : Session (Option AuthChallenge) :=
  match payload.email.filter (· ≠ ""), payload.code.filter (· ≠ "") with
  | some email, some _ =>
      match normalizeEmail primitives email with
      | none => return none
      | some target => ask (.challengeByEmail purpose target)
  | _, _ => return none

def challengeFromProof (payload : ChallengeInput) (purpose : String) : Session (Option AuthChallenge) :=
  match payload.token.filter (· ≠ "") with
  | some token =>
      ask (.challengeByLink purpose (primitives.hashToken s!"challenge:{purpose}:link" token))
  | none => do
      let named ← namedChallenge payload.challengeId
      match named.filter (·.purpose = purpose) with
      | some challenge => return some challenge
      | none => challengeOfEmail primitives payload purpose

def invalidChallenge : AuthError := .auth 400 "INVALID_CHALLENGE" "That code or link is not valid"
def alreadyUsed : AuthError := .auth 409 "CHALLENGE_ALREADY_USED" "That code or link has already been used"

/-- What a proof leads to: an error that is answered after a commit, or the challenge and the time at which
it is consumed -/
abbrev Proof := Except Outcome (AuthChallenge × Int)

/-- The end of `_validate_challenge`: the conditional `UPDATE` -/
def consumeChallenge (challenge : AuthChallenge) (now : Int) : Session Proof := do
  let found : Bool ← ask (.consumable challenge.id)
  if found then return .ok (challenge, now) else raise alreadyUsed

def codeMatches (challenge : AuthChallenge) (purpose code : String) : Bool :=
  challenge.codeHash.filter (· ≠ "") = some (primitives.hashToken s!"challenge:{purpose}:code" code)

def validateChallenge (payload : ChallengeInput) (purpose : String) : Session Proof := do
  match ← challengeFromProof primitives payload purpose with
  | none => raise invalidChallenge
  | some challenge => do
      let now : Int ← ask .utcnow
      let event (eventType outcome : String) :=
        securityEvent eventType outcome challenge.userId none [("purpose", .str purpose)]
      if challenge.consumedAt ≠ none then return .error (.error alreadyUsed, .audited (event "challenge_replay" "blocked"))
      else if challenge.expiresAt ≤ now then
        return .error (.error (.auth 410 "CHALLENGE_EXPIRED" "That code or link has expired"),
          .audited (event "challenge_expired" "blocked"))
      else if challenge.maxAttempts ≤ challenge.attemptCount then
        raise (.auth 429 "CHALLENGE_LOCKED" "Too many incorrect attempts. Request a new code.")
      else
        match payload.code.filter (· ≠ "") with
        | none => consumeChallenge challenge now
        | some code =>
            if codeMatches primitives challenge purpose code then consumeChallenge challenge now
            else do
              note (.compared challenge)
              let attemptCount := challenge.attemptCount + 1
              return .error (.error invalidChallenge, .failed challenge attemptCount
                (if challenge.maxAttempts ≤ attemptCount then some now else challenge.consumedAt)
                (event "challenge_failed" "failed"))

/-- `_create_session` up to its `INSERT` -/
def createSession (userId : String) (tenantId : Option String) : Session AuthSession := do
  let now : Int ← ask .utcnow
  let id : String ← ask .uid
  let secret : String ← ask .randomToken
  let csrf : String ← ask .randomToken
  return ⟨id, primitives.hashToken "session" secret, primitives.hashToken "csrf" csrf, userId, tenantId, now,
    now + sessionMaxAge, now, none, now⟩

def scopeOf (tenantId : Option String) : String := if isSet tenantId then "workspace" else "personal"

def accountSignal (payload : ChallengeInput) (tokenPurpose : String) : Except AuthError String :=
  match payload.challengeId.filter (· ≠ "") with
  | some challengeId => .ok challengeId
  | none =>
      match payload.email.filter (· ≠ "") with
      | some email => do
          let account ← normalizedEmail primitives email
          return if account = "" then primitives.hashToken ("privacy:" ++ tokenPurpose) (payload.token.getD "") else account
      | none => .ok (primitives.hashToken ("privacy:" ++ tokenPurpose) (payload.token.getD ""))

/-- `verify_email` up to its commit -/
def verifyEmail (payload : ChallengeInput) : Session Outcome := do
  let signal ← Fallible.ofExcept (accountSignal primitives payload "verify-token")
  match ← rateLimit "verify_email" (some signal) with
  | some limited => return limited
  | none =>
      match ← validateChallenge primitives payload "email_verification" with
      | .error outcome => return outcome
      | .ok (challenge, _) => do
          let user : Option AppUser ← ask (.user (challenge.userId.getD ""))
          match user.filter (·.active) with
          | none => raise invalidChallenge
          | some user => do
              let membership : Option TenantMember ← ask (.firstMembership user.id)
              let tenantId := membership.map (·.tenantId)
              let now : Int ← ask .utcnow
              let others : List String ← ask (.openChallenges user.id "email_verification")
              let session ← createSession primitives user.id tenantId
              return (.ok (.verified (scopeOf tenantId)), .verified challenge others user now session
                [securityEvent "email_verified" "succeeded" (some user.id) tenantId [],
                  securityEvent "signup_completed" "succeeded" (some user.id) tenantId []])

def invalidCredentials : Except AuthError Reply :=
  .error (.auth 401 "INVALID_CREDENTIALS" "Invalid email or password")

/-- `login` up to its commit -/
def login (email password : String) : Session Outcome := do
  let email ← Fallible.ofExcept (normalizedEmail primitives email)
  match ← rateLimit "login" (some email) with
  | some limited => return limited
  | none => do
      let found : Option AppUser ← ask (.userByEmail email)
      let salt : String ← ask .salt
      match found with
      | none => return (invalidCredentials, .audited (securityEvent "login_failure" "failed" none none []))
      | some user =>
          let verification := verifyAndUpdatePassword primitives salt password user.passwordHash
          if user.active = false ∨ verification.valid = false then
            return (invalidCredentials, .audited (securityEvent "login_failure" "failed" (some user.id) none []))
          else if user.emailVerifiedAt = none then
            return (.error (.auth 403 "EMAIL_NOT_VERIFIED" "Verify your email before signing in"),
              .audited (securityEvent "login_failure" "blocked" (some user.id) none [("reason", .str "unverified")]))
          else do
            let membership : Option TenantMember ← ask (.firstMembership user.id)
            let tenantId := membership.map (·.tenantId)
            let now : Int ← ask .utcnow
            let session ← createSession primitives user.id tenantId
            return (.ok (.signedIn (scopeOf tenantId)),
              .signedIn user password verification.upgradedHash now session
                (securityEvent "login_success" "succeeded" (some user.id) tenantId
                  [("provider", .str "password"), ("scope", .str (scopeOf tenantId))]))

def passwordIdentity (user : AppUser) : Session (Option AuthIdentity) := do
  let known : Option AuthIdentity ← ask (.identity user.id "password")
  return match known with
    | some _ => none
    | none => some ⟨user.id, "password", user.email, some user.email⟩

def checkPassword (password : String) (user : AppUser) : Except AuthError Unit :=
  (validatePassword primitives password user.email).mapError fun message => .auth 422 "WEAK_PASSWORD" message

/-- `reset_password` up to its commit -/
def resetPassword (payload : ChallengeInput) (password : String) : Session Outcome := do
  let signal ← Fallible.ofExcept (accountSignal primitives payload "reset-token")
  match ← rateLimit "reset_password" (some signal) with
  | some limited => return limited
  | none =>
      match ← validateChallenge primitives payload "password_reset" with
      | .error outcome => return outcome
      | .ok (challenge, _) => do
          let user : Option AppUser ← ask (.user (challenge.userId.getD ""))
          match user.filter (·.active) with
          | none => raise invalidChallenge
          | some user => do
              Fallible.ofExcept (checkPassword primitives password user)
              let membership : Option TenantMember ← ask (.firstMembership user.id)
              let tenantId := membership.map (·.tenantId)
              let now : Int ← ask .utcnow
              let salt : String ← ask .salt
              let identity ← passwordIdentity user
              let revoked : List String ← ask (.openSessions user.id)
              let session ← createSession primitives user.id tenantId
              return (.ok (.passwordReset (scopeOf tenantId)),
                .passwordSet (some challenge) user password (hashPassword primitives salt password) now identity revoked
                  session (securityEvent "password_reset_completed" "succeeded" (some user.id) tenantId []))

def accountAuthContext (secret : Option String) : Session (AppUser × AuthSession) :=
  match secret.filter (· ≠ "") with
  | none => raise (.http 401 "Authentication required")
  | some secret => do
      let now : Int ← ask .utcnow
      let found : Option AuthSession ← ask (.sessionByToken (primitives.hashToken "session" secret))
      match found.filter fun session => session.revokedAt = none ∧ now < session.expiresAt with
      | none => raise (.http 401 "Session is no longer valid")
      | some session => do
          let user : Option AppUser ← ask (.user session.userId)
          match user.filter (·.active) with
          | none => raise (.http 401 "Access denied")
          | some user => do
              if session.lastActivityAt < now - 5 * Time.minute then note (.touched session now)
              return (user, session)

/-- Whether the one who changes a password has proved who it is; the error has the event that is committed with it. -/
def mayChange (salt : String) (currentPassword : Option String) (user : AppUser) (session : AuthSession) (now : Int) :
    Except (AuthError × Option SecurityEvent) Unit :=
  if isSet user.passwordHash then
    if (verifyAndUpdatePassword primitives salt (currentPassword.getD "") user.passwordHash).valid then .ok ()
    else .error (.auth 401 "CURRENT_PASSWORD_INCORRECT" "Current password is incorrect",
      some (securityEvent "password_change_failed" "failed" (some user.id) session.tenantId []))
  else if session.authenticatedAt < now - 10 * Time.minute then
    .error (.auth 401 "RECENT_SIGN_IN_REQUIRED" "Sign in again before setting a password", none)
  else .ok ()

def keptWorkspace (userId : String) (tenantId : Option String) : Session (Option String) :=
  match tenantId.filter (· ≠ "") with
  | none => return none
  | some tenantId => do
      let membership : Option TenantMember ← ask (.membership userId tenantId)
      return membership.map fun _ => tenantId

/-- `change_password` up to its commit; the user is the row that the authentication has read. -/
def changePassword (secret currentPassword : Option String) (newPassword : String) : Session Outcome := do
  let (user, current) ← accountAuthContext primitives secret
  match ← rateLimit "change_password" (some user.id) with
  | some limited => return limited
  | none => do
      let now : Int ← ask .utcnow
      let salt : String ← ask .salt
      match mayChange primitives salt currentPassword user current now with
      | .error (error, some event) => return (.error error, .audited event)
      | .error (error, none) => raise error
      | .ok _ => do
          Fallible.ofExcept (checkPassword primitives newPassword user)
          let now : Int ← ask .utcnow
          let salt : String ← ask .salt
          let identity ← passwordIdentity user
          let tenantId ← keptWorkspace user.id current.tenantId
          let revoked : List String ← ask (.openSessions user.id)
          let session ← createSession primitives user.id tenantId
          return (.ok .passwordChanged,
            .passwordSet none user newPassword (hashPassword primitives salt newPassword) now identity revoked session
              (securityEvent "password_changed" "succeeded" (some user.id) tenantId []))

inductive Call where
  | verifyEmail (payload : ChallengeInput)
  | login (email password : String)
  | resetPassword (payload : ChallengeInput) (password : String)
  | changePassword (secret currentPassword : Option String) (newPassword : String)

def endpoint : Call → Session Outcome
  | .verifyEmail payload => verifyEmail primitives payload
  | .login email password => login primitives email password
  | .resetPassword payload password => resetPassword primitives payload password
  | .changePassword secret currentPassword newPassword => changePassword primitives secret currentPassword newPassword

def main (_ : Nat) (call : Call) : Program (sessions queries Change) (Except AuthError (Except AuthError Reply)) :=
  (Transaction.commits .database (endpoint primitives call)).run

/-! ### What a request composes -/

def IsHash (hash password : String) : Prop := ∃ salt, hash = hashPassword primitives salt password

variable (known : AuthChallenge → Prop)

def answers : (query : queries.Op) → queries.Answer query → Prop
  | .challengeById _, challenge | .challengeByLink .., challenge | .challengeByEmail .., challenge =>
      ∀ row : AuthChallenge, challenge = some row → known row
  | _, _ => True

/-- A code is compared with a challenge that is loaded as open and not locked; the attempts that are written
back are one more than were loaded, and the challenge is consumed with the last of them. A login has
verified the password, and its session is the user's. Every hash that is written is one of the password. -/
def Composed : Change → Prop
  | .compared loaded => known loaded ∧ loaded.attemptCount < loaded.maxAttempts
  | .failed loaded attemptCount consumedAt _ => known loaded ∧ loaded.consumedAt = none ∧
      attemptCount = loaded.attemptCount + 1 ∧ (loaded.maxAttempts ≤ attemptCount → consumedAt ≠ none)
  | .signedIn user password upgradedHash _ session _ => session.userId = user.id ∧
      (∀ salt, (verifyAndUpdatePassword primitives salt password user.passwordHash).valid = true) ∧
      ∀ hash, upgradedHash = some hash → IsHash primitives hash password
  | .passwordSet _ _ password hash _ _ _ _ _ => IsHash primitives hash password
  | _ => True

abbrev Composes {α : Type} (returns : α → Prop) (code : Session α) : Prop :=
  code.Informed (told (answers known)) (composed (Composed primitives known)) returns

variable {primitives known} {α : Type}

theorem ask_composes (query : Query) : Composes primitives known (answers known query) (ask query) :=
  @Informed.ask (sessions queries Change) AuthError (told (answers known))
    (composed (Composed primitives known)) (Request.select (show queries.Op from query)) (answers known query)
    trivial fun _ answered => answered

theorem bind_ask_composes {query : Query} {returns : α → Prop} {next : queries.Answer query → Session α}
    (rest : ∀ answer, answers known query answer → Composes primitives known returns (next answer)) :
    Composes primitives known returns (ask query >>= next) :=
  Informed.bind (ask_composes query) rest

theorem note_composes {change : Change} (proper : Composed primitives known change) :
    Composes primitives known (fun _ => True) (note change) := by
  have noted := @Informed.ask (sessions queries Change) AuthError (told (answers known))
    (composed (Composed primitives known)) (Request.commit change) (fun _ => True) proper fun _ _ => trivial
  exact Informed.bind noted fun _ _ => Informed.pure trivial

theorem rateLimit_composes (endpoint : String) (account : Option String) :
    Composes primitives known (fun limited => ∀ outcome, limited = some outcome → Composed primitives known outcome.2)
      (rateLimit endpoint account) := by
  apply bind_ask_composes
  intro (exceeded : Bool) _
  apply Informed.ite
  · intro _
    apply Informed.pure
    intro outcome same
    cases same
    trivial
  · intro _
    exact Informed.pure fun _ absent => by cases absent

def Found (known : AuthChallenge → Prop) (found : Option AuthChallenge) : Prop :=
  ∀ row, found = some row → known row

theorem found_none : Composes primitives known (Found known) (pure none) :=
  Informed.pure fun _ absent => by cases absent

theorem namedChallenge_composes (challengeId : Option String) :
    Composes primitives known (Found known) (namedChallenge challengeId) := by
  unfold namedChallenge
  split
  · exact ask_composes (.challengeById _)
  · exact found_none

theorem challengeOfEmail_composes (payload : ChallengeInput) (purpose : String) :
    Composes primitives known (Found known) (challengeOfEmail primitives payload purpose) := by
  unfold challengeOfEmail
  split
  · split
    · exact found_none
    · exact ask_composes (.challengeByEmail ..)
  · exact found_none

theorem challengeFromProof_composes (payload : ChallengeInput) (purpose : String) :
    Composes primitives known (Found known) (challengeFromProof primitives payload purpose) := by
  unfold challengeFromProof
  split
  · exact ask_composes (.challengeByLink ..)
  · apply Informed.bind (namedChallenge_composes payload.challengeId)
    intro named loaded
    split
    · next challenge kept =>
      apply Informed.pure
      intro row same
      cases same
      exact loaded challenge (Option.filter_eq_some_iff.mp kept).1
    · exact challengeOfEmail_composes payload purpose

def Answered (primitives : Primitives) (known : AuthChallenge → Prop) (outcome : Outcome) : Prop :=
  Composed primitives known outcome.2

def Refused (primitives : Primitives) (known : AuthChallenge → Prop) (proof : Proof) : Prop :=
  ∀ outcome, proof = .error outcome → Answered primitives known outcome

theorem consumeChallenge_composes (challenge : AuthChallenge) (now : Int) :
    Composes primitives known (Refused primitives known) (consumeChallenge challenge now) := by
  apply bind_ask_composes
  intro (found : Bool) _
  apply Informed.ite
  · intro _
    exact Informed.pure fun _ absent => by cases absent
  · exact fun _ => Informed.raise

theorem refused_audit (error : AuthError) (event : SecurityEvent) :
    Composes primitives known (Refused primitives known) (pure (.error (.error error, .audited event))) := by
  apply Informed.pure
  intro outcome same
  cases same
  trivial

theorem validateChallenge_composes (payload : ChallengeInput) (purpose : String) :
    Composes primitives known (Refused primitives known) (validateChallenge primitives payload purpose) := by
  apply Informed.bind (challengeFromProof_composes payload purpose)
  intro found loaded
  split
  · exact Informed.raise
  · next challenge =>
    have attempts : known challenge := loaded challenge rfl
    apply bind_ask_composes
    intro (now : Int) _
    apply Informed.ite
    · exact fun _ => refused_audit _ _
    intro opened
    apply Informed.ite
    · exact fun _ => refused_audit _ _
    intro _
    apply Informed.ite
    · exact fun _ => Informed.raise
    intro unlocked
    split
    · exact consumeChallenge_composes challenge now
    · apply Informed.ite
      · exact fun _ => consumeChallenge_composes challenge now
      intro _
      have compared : Composed primitives known (.compared challenge) := ⟨attempts, not_le.mp unlocked⟩
      apply Informed.bind (note_composes compared)
      intro _ _
      apply Informed.pure
      intro outcome same
      cases same
      refine ⟨attempts, not_not.mp opened, rfl, fun last => ?_⟩
      rw [if_pos last]
      exact Option.some_ne_none now

theorem createSession_composes (userId : String) (tenantId : Option String) :
    Composes primitives known (·.userId = userId) (createSession primitives userId tenantId) := by
  apply bind_ask_composes
  intro now _
  apply bind_ask_composes
  intro id _
  apply bind_ask_composes
  intro secret _
  apply bind_ask_composes
  intro csrf _
  exact Informed.pure rfl

theorem bind_rateLimit_composes {endpoint : String} {account : Option String} {next : Session Outcome}
    (rest : Composes primitives known (Answered primitives known) next) :
    Composes primitives known (Answered primitives known) (do
      match ← rateLimit endpoint account with
      | some limited => return limited
      | none => next) := by
  apply Informed.bind (rateLimit_composes endpoint account)
  intro limited blocked
  cases limited with
  | some outcome => exact Informed.pure (blocked outcome rfl)
  | none => exact rest

theorem verifyEmail_composes (payload : ChallengeInput) :
    Composes primitives known (Answered primitives known) (verifyEmail primitives payload) := by
  apply Informed.bind_ofExcept
  intro signal _
  apply bind_rateLimit_composes
  apply Informed.bind (validateChallenge_composes payload _)
  intro proof refused
  split
  · exact Informed.pure (refused _ rfl)
  · apply bind_ask_composes
    intro (user : Option AppUser) _
    split
    · exact Informed.raise
    · apply bind_ask_composes
      intro (membership : Option TenantMember) _
      apply bind_ask_composes
      intro now _
      apply bind_ask_composes
      intro others _
      apply Informed.bind (createSession_composes _ _)
      intro session _
      exact Informed.pure trivial

theorem verifyAndUpdatePassword_upgrades (salt password : String) (stored : Option String) (hash : String)
    (upgraded : (verifyAndUpdatePassword primitives salt password stored).upgradedHash = some hash) :
    IsHash primitives hash password := by
  unfold verifyAndUpdatePassword at upgraded
  split at upgraded
  · cases upgraded
  · split at upgraded
    · cases upgraded
    split at upgraded
    · cases upgraded
    split at upgraded
    · cases upgraded
      exact ⟨salt, rfl⟩
    · cases upgraded

theorem verifyAndUpdatePassword_valid (salt other password : String) (stored : Option String) :
    (verifyAndUpdatePassword primitives salt password stored).valid =
      (verifyAndUpdatePassword primitives other password stored).valid := by
  unfold verifyAndUpdatePassword
  repeat (split; · rfl)
  rfl

theorem login_composes (email password : String) :
    Composes primitives known (Answered primitives known) (login primitives email password) := by
  apply Informed.bind_ofExcept
  intro email _
  apply bind_rateLimit_composes
  apply bind_ask_composes
  intro (found : Option AppUser) _
  apply bind_ask_composes
  intro (salt : String) _
  split
  · exact Informed.pure trivial
  · next user _ =>
    apply Informed.ite
    · exact fun _ => Informed.pure trivial
    intro passed
    apply Informed.ite
    · exact fun _ => Informed.pure trivial
    intro _
    apply bind_ask_composes
    intro (membership : Option TenantMember) _
    apply bind_ask_composes
    intro now _
    apply Informed.bind (createSession_composes _ _)
    intro session own
    rw [not_or, Bool.not_eq_false, Bool.not_eq_false] at passed
    exact Informed.pure ⟨own, fun other => (verifyAndUpdatePassword_valid other salt _ _).trans passed.2,
      verifyAndUpdatePassword_upgrades salt password user.passwordHash⟩

theorem passwordIdentity_composes (user : AppUser) :
    Composes primitives known (fun _ => True) (passwordIdentity user) := by
  apply bind_ask_composes
  intro known _
  exact Informed.pure trivial

theorem resetPassword_composes (payload : ChallengeInput) (password : String) :
    Composes primitives known (Answered primitives known) (resetPassword primitives payload password) := by
  apply Informed.bind_ofExcept
  intro signal _
  apply bind_rateLimit_composes
  apply Informed.bind (validateChallenge_composes payload _)
  intro proof refused
  split
  · exact Informed.pure (refused _ rfl)
  · apply bind_ask_composes
    intro (user : Option AppUser) _
    split
    · exact Informed.raise
    · apply Informed.bind_ofExcept
      intro _ _
      apply bind_ask_composes
      intro (membership : Option TenantMember) _
      apply bind_ask_composes
      intro now _
      apply bind_ask_composes
      intro (salt : String) _
      apply Informed.bind (passwordIdentity_composes _)
      intro identity _
      apply bind_ask_composes
      intro revoked _
      apply Informed.bind (createSession_composes _ _)
      intro session _
      exact Informed.pure ⟨salt, rfl⟩

theorem accountAuthContext_composes (secret : Option String) :
    Composes primitives known (fun _ => True) (accountAuthContext primitives secret) := by
  unfold accountAuthContext
  split
  · exact Informed.raise
  · apply bind_ask_composes
    intro (now : Int) _
    apply bind_ask_composes
    intro (found : Option AuthSession) _
    split
    · exact Informed.raise
    · apply bind_ask_composes
      intro (user : Option AppUser) _
      split
      · exact Informed.raise
      · next session _ _ _ user _ =>
        apply Informed.ite
        · intro _
          have touched : Composed primitives known (.touched session now) := trivial
          apply Informed.bind (note_composes touched)
          exact fun _ _ => Informed.pure trivial
        · exact fun _ => Informed.pure trivial

theorem keptWorkspace_composes (userId : String) (tenantId : Option String) :
    Composes primitives known (fun _ => True) (keptWorkspace userId tenantId) := by
  unfold keptWorkspace
  split
  · exact Informed.pure trivial
  · apply bind_ask_composes
    intro membership _
    exact Informed.pure trivial

theorem changePassword_composes (secret currentPassword : Option String) (newPassword : String) :
    Composes primitives known (Answered primitives known)
      (changePassword primitives secret currentPassword newPassword) := by
  apply Informed.bind (accountAuthContext_composes secret)
  intro (user, current) _
  apply bind_rateLimit_composes
  apply bind_ask_composes
  intro (now : Int) _
  apply bind_ask_composes
  intro (salt : String) _
  split
  · exact Informed.pure trivial
  · exact Informed.raise
  · apply Informed.bind_ofExcept
    intro _ _
    apply bind_ask_composes
    intro now _
    apply bind_ask_composes
    intro (salt : String) _
    apply Informed.bind (passwordIdentity_composes _)
    intro identity _
    apply Informed.bind (keptWorkspace_composes _ _)
    intro tenantId _
    apply bind_ask_composes
    intro revoked _
    apply Informed.bind (createSession_composes _ _)
    intro session _
    exact Informed.pure ⟨salt, rfl⟩

theorem main_composes (pid : Nat) (call : Call) :
    Concurrent.Composes (answers known) (Composed primitives known) (main primitives pid call) := by
  apply Concurrent.Composes.of_informed
  cases call with
  | verifyEmail payload => exact verifyEmail_composes payload
  | login email password => exact login_composes email password
  | resetPassword payload password => exact resetPassword_composes payload password
  | changePassword secret currentPassword newPassword => exact changePassword_composes secret currentPassword newPassword

end Endpoints

def legible : Primitives where
  hashToken purpose secret := s!"{purpose}({secret})"
  derivePhcEncoded salt password := "$argon2id$" ++ password ++ "$" ++ salt
  verifyPhcEncoded password stored := startsWith stored ("$argon2id$" ++ password ++ "$")
  pbkdf2Hmac password salt _ := some (salt ++ password.toUTF8.toList)
  urlsafeB64decode text := some text.toUTF8.toList
  casefold := lower
  idna := some
  commonPasswords := []

end Operly.Auth
