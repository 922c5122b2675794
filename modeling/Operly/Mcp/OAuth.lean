import Operly.Concurrent.RelyGuarantee
import Operly.Mcp.Narrowing
import Operly.Python.IsoFormat
import Operly.Relational.Columns

/-! The tokens of MCP clients: authorization codes, refresh tokens, and the grants of workspace owners. -/

namespace Operly.Mcp
open Python Concurrent Relational Fallible

inductive GrantStatus where
  | active
  | revoked
  deriving DecidableEq

structure ClientGrant where
  id : String
  principalId : String
  tenantId : Option String
  clientId : String
  scopes : List String
  status : GrantStatus
  expiresAt : Option Int
  createdAt : Int
  updatedAt : Int
  deriving DecidableEq

structure McpAuthorizationCode where
  codeHash : String
  grantId : String
  principalId : String
  tenantId : String
  clientId : String
  redirectUri : String
  scopes : List String
  codeChallenge : String
  resource : String
  expiresAt : Int
  consumedAt : Option Int
  createdAt : Int
  deriving DecidableEq

/-- What the access token and the refresh token of an exchange carry -/
structure TokenPayload where
  grantId : String
  principalId : String
  tenantId : String
  clientId : String
  resource : String
  scopes : List String
  refreshGeneration : String
  deriving DecidableEq

abbrev Grants := Table ClientGrant String (·.id)
abbrev Codes := Table McpAuthorizationCode String (·.codeHash)

/-! ### The database -/

inductive Change where
  | issued (code : McpAuthorizationCode)
  | exchanged (code : McpAuthorizationCode) (consumedAt : Int) (token : TokenPayload)
  | redeemed (loaded : ClientGrant) (updatedAt : Int) (presented token : TokenPayload)
  | alarmed (loaded : ClientGrant) (updatedAt : Int) (presented : TokenPayload)
  | granted (row : ClientGrant)
  | consented (loaded : ClientGrant) (scopes : List String) (updatedAt : Int)
  | revoked (loaded : ClientGrant) (updatedAt : Int)

inductive Entry where
  | read (pid : Nat) (now : Int)
  /-- a grant was answered to a statement -/
  | told (pid : Nat) (grant : ClientGrant)
  | exchanged (pid : Nat) (code : McpAuthorizationCode) (token : TokenPayload)
  /-- with the grant as it was before -/
  | redeemed (pid : Nat) (presented token : TokenPayload) (grant : ClientGrant)
  | alarmed (pid : Nat) (presented : TokenPayload)
  | edited (pid : Nat)
  deriving DecidableEq

inductive Op where
  | utcnow
  | uid
  | codeForUpdate (codeHash : String)
  | grantForUpdate (id clientId : String)
  | activeGrant (id clientId : String)
  | grantById (id principalId tenantId : String)
  | grantOf (principalId tenantId clientId : String)
  | commit (change : Change)
  | rollback

def oauth : Interface where
  Op := Op
  Answer
    | .utcnow => Int
    | .uid => String
    | .codeForUpdate _ => Option McpAuthorizationCode
    | .grantForUpdate .. | .activeGrant .. | .grantById .. | .grantOf .. => Option ClientGrant
    | .commit _ => Bool
    | .rollback => Unit

structure Drawn where
  now : Int := 0
  text : String := ""

structure State where
  grants : Grants
  codes : Codes
  /-- Who holds a row for update -/
  grantLocks : String → Option Nat := fun _ => none
  codeLocks : String → Option Nat := fun _ => none
  /-- The last reading of the clock -/
  clock : Int := 0
  log : List Entry := []

namespace State

def release (state : State) (pid : Nat) : State :=
  { state with
    grantLocks := fun id => if state.grantLocks id = some pid then none else state.grantLocks id
    codeLocks := fun hash => if state.codeLocks hash = some pid then none else state.codeLocks hash }

def note (state : State) (entry : Entry) : State := { state with log := entry :: state.log }

def tell (state : State) (pid : Nat) : Option ClientGrant → Option ClientGrant × State
  | some grant => (some grant, state.note (.told pid grant))
  | none => (none, state)

/-- An `UPDATE` of the grant that was loaded. When the time is the one that was loaded it is no part of the
statement, and the column's `onupdate` reads the clock if anything else is. -/
def update (state : State) (loaded : ClientGrant) (scopes : List String) (status : GrantStatus) (updatedAt : Int)
    (onupdate : Int) : Option (ClientGrant × State) :=
  (state.grants.find loaded.id).map fun now =>
    let stamp := if updatedAt ≠ loaded.updatedAt then updatedAt
      else if scopes ≠ loaded.scopes ∨ status ≠ loaded.status then onupdate else now.updatedAt
    (now, { state with grants := state.grants.replace { now with
      scopes := written loaded.scopes scopes now.scopes
      status := written loaded.status status now.status
      updatedAt := stamp } })

/-- The changes of a transaction; `none` when a constraint is violated or a row is gone. -/
def apply (state : State) (pid : Nat) (onupdate : Int) : Change → Option State
  | .issued code =>
      if (state.codes.find code.codeHash).isSome then none
      else some { state with codes := state.codes.insert code }
  | .exchanged code consumedAt token =>
      (state.codes.find code.codeHash).map fun now =>
        { state with codes := state.codes.replace { now with consumedAt := some consumedAt } }.note
          (.exchanged pid code token)
  | .redeemed loaded updatedAt presented token =>
      (state.update loaded loaded.scopes loaded.status updatedAt onupdate).map fun result =>
        result.2.note (.redeemed pid presented token result.1)
  | .alarmed loaded updatedAt presented =>
      (state.update loaded loaded.scopes .revoked updatedAt onupdate).map fun result =>
        result.2.note (.alarmed pid presented)
  | .granted row =>
      if (state.grants.find row.id).isSome ∨ (state.grants.first fun other => other.principalId = row.principalId ∧
          other.tenantId = row.tenantId ∧ other.clientId = row.clientId).isSome then none
      else some ({ state with grants := state.grants.insert row }.note (.edited pid))
  | .consented loaded scopes updatedAt =>
      (state.update loaded scopes .active updatedAt onupdate).map fun result => result.2.note (.edited pid)
  | .revoked loaded updatedAt =>
      (state.update loaded loaded.scopes .revoked updatedAt onupdate).map fun result => result.2.note (.edited pid)

end State

def Change.grant : Change → Option String
  | .redeemed loaded .. | .alarmed loaded .. | .consented loaded .. | .revoked loaded _ => some loaded.id
  | _ => none

def free (holder : Option Nat) (pid : Nat) : Bool := holder = none || holder = some pid

/-- A statement waits while another session holds the row that it locks or updates. -/
def perform (pid : Nat) : (op : Op) → Drawn → State → Option (oauth.Answer op × State)
  | .utcnow, drawn, state =>
      if Time.inRange drawn.now then some (drawn.now, { state with clock := drawn.now }.note (.read pid drawn.now))
      else none
  | .uid, drawn, state => some (drawn.text, state)
  | .codeForUpdate codeHash, _, state =>
      match state.codes.find codeHash with
      | none => some (none, state)
      | some code =>
          if free (state.codeLocks codeHash) pid then
            some (some code, { state with codeLocks := Function.update state.codeLocks codeHash (some pid) })
          else none
  | .grantForUpdate id clientId, _, state =>
      match (state.grants.find id).filter fun grant => grant.clientId = clientId with
      | none => some (none, state)
      | some grant =>
          if free (state.grantLocks id) pid then
            some (some grant,
              { state with grantLocks := Function.update state.grantLocks id (some pid) }.note (.told pid grant))
          else none
  | .activeGrant id clientId, _, state =>
      some (state.tell pid ((state.grants.find id).filter fun grant => grant.clientId = clientId ∧ grant.status = .active))
  | .grantById id principalId tenantId, _, state =>
      some (state.tell pid ((state.grants.find id).filter fun grant =>
        grant.principalId = principalId ∧ grant.tenantId = some tenantId))
  | .grantOf principalId tenantId clientId, _, state =>
      some (state.tell pid (state.grants.first fun grant =>
        grant.principalId = principalId ∧ grant.tenantId = some tenantId ∧ grant.clientId = clientId))
  | .commit change, drawn, state =>
      if change.grant.all fun id => free (state.grantLocks id) pid then
        match state.apply pid drawn.now change with
        | some after => some (true, after.release pid)
        | none => some (false, state.release pid)
      else none
  | .rollback, _, state => some ((), state.release pid)

def world : World oauth State Drawn where
  perform := perform
  abandon pid state := state.release pid

/-! ### The endpoints -/

inductive OAuthFailure where
  | http (statusCode : Nat) (detail : String)
  | overflow
  | database
  deriving DecidableEq

def ClientGrant.refreshGeneration (grant : ClientGrant) : String := isoMicroseconds grant.updatedAt

structure OAuthSettings where
  resource : String
  /-- `CHATGPT_MCP_CLIENT_SECRET`, stripped -/
  clientSecret : String
  codeHash : String → String
  pkceS256 : String → String

def chatgptClientId : String := "chatgpt"

structure TokenForm where
  grantType : String
  clientId : String
  resource : Option String := none
  clientSecret : Option String := none
  code : Option String := none
  redirectUri : Option String := none
  codeVerifier : Option String := none
  refreshToken : Option String := none

abbrev OAuth (α : Type) := Fallible oauth OAuthFailure α

namespace OAuth

def ask (op : Op) : OAuth (oauth.Answer op) := Fallible.ask (show oauth.Op from op)

def http {α : Type} (statusCode : Nat) (detail : String) : OAuth α := raise (.http statusCode detail)

/-- An `McpOAuthError` becomes a 401. -/
def refuse {α : Type} (detail : String) : OAuth α := http 401 detail

def commit (change : Change) : OAuth Unit := do
  let committed : Bool ← ask (.commit change)
  if committed then return () else raise .database

end OAuth

section Endpoints
variable (settings : OAuthSettings)

def verifyClient (clientId : String) (clientSecret : Option String) : OAuth Unit :=
  if clientId ≠ chatgptClientId then OAuth.refuse "Invalid MCP OAuth client"
  else if settings.clientSecret ≠ "" ∧ clientSecret ≠ some settings.clientSecret then
    OAuth.refuse "Invalid MCP OAuth client"
  else return ()

/-- `consume_authorization_code` up to its flush; the code as it was locked, and the time of the consumption -/
def consumeAuthorizationCode (code clientId redirectUri codeVerifier resource : String) :
    OAuth (McpAuthorizationCode × Int) := do
  let row : Option McpAuthorizationCode ← OAuth.ask (.codeForUpdate (settings.codeHash code))
  let now : Int ← OAuth.ask .utcnow
  match row with
  | none => OAuth.refuse "Invalid MCP authorization code"
  | some row =>
      if row.consumedAt ≠ none then OAuth.refuse "MCP authorization code was already used"
      else if row.expiresAt ≤ now then OAuth.refuse "MCP authorization code expired"
      else if row.clientId ≠ clientId ∨ row.redirectUri ≠ redirectUri ∨ row.resource ≠ resource then
        OAuth.refuse "MCP authorization code binding mismatch"
      else if codeVerifier.length < 43 ∨ 128 < codeVerifier.length then
        OAuth.refuse "Invalid MCP PKCE verifier length"
      else if settings.pkceS256 codeVerifier ≠ row.codeChallenge then
        OAuth.refuse "MCP PKCE verification failed"
      else return (row, now)

/-- The stamp after a rotation: the time, or a microsecond after the last stamp -/
def rotated (now previous : Int) : Except OAuthFailure Int :=
  if previous < now then .ok now
  else if Time.inRange (previous + 1) then .ok (previous + 1) else .error .overflow

/-- `consume_refresh_token` of the payload of a token, up to its flush -/
def consumeRefreshToken (payload : TokenPayload) (clientId resource : String) : OAuth (ClientGrant × Int) := do
  if payload.clientId ≠ clientId ∨ payload.resource ≠ resource then
    OAuth.refuse "Refresh token client or resource mismatch"
  else
    let grant : Option ClientGrant ← OAuth.ask (.grantForUpdate payload.grantId clientId)
    let now : Int ← OAuth.ask .utcnow
    match grant.filter fun grant => grant.status = .active ∧ grant.tenantId ≠ none with
    | none => OAuth.refuse "MCP grant is no longer active"
    | some grant =>
        if grant.expiresAt.any (· ≤ now) then OAuth.refuse "MCP grant has expired"
        else if grant.principalId ≠ payload.principalId ∨ grant.tenantId ≠ some payload.tenantId then
          OAuth.refuse "MCP refresh token identity mismatch"
        else if payload.refreshGeneration = "" ∨ payload.refreshGeneration ≠ grant.refreshGeneration then do
          OAuth.commit (.alarmed grant now payload)
          OAuth.refuse "MCP refresh token reuse detected; client grant revoked"
        else do
          let stamp ← Fallible.ofExcept (rotated now grant.updatedAt)
          return (grant, stamp)

def activeGrant (grantId clientId : String) : OAuth ClientGrant := do
  let row : Option ClientGrant ← OAuth.ask (.activeGrant grantId clientId)
  match row.filter fun row => row.tenantId ≠ none with
  | none => OAuth.refuse "MCP grant is no longer active"
  | some row =>
      match row.expiresAt with
      | none => return row
      | some expiresAt => do
          let now : Int ← OAuth.ask .utcnow
          if expiresAt ≤ now then OAuth.refuse "MCP grant has expired" else return row

/-- `_grant_scopes`, before the set is formed -/
def ClientGrant.grantScopes (grant : ClientGrant) : List String := cleanScopes grant.scopes

/-- What the tokens of an exchange carry; the stamp is that of the grant, or the rotated one. -/
def tokenPayload (grant : ClientGrant) (clientId resource : String) (scopes : List String) (stamp : Int) : TokenPayload where
  grantId := grant.id
  principalId := grant.principalId
  tenantId := grant.tenantId.getD ""
  clientId := clientId
  resource := resource
  scopes := (narrowScopeRules scopes grant.grantScopes).dedup.insertionSort (· ≤ ·)
  refreshGeneration := isoMicroseconds stamp

def sameIdentity (grant : ClientGrant) (principalId tenantId : String) : OAuth Unit :=
  if grant.principalId ≠ principalId ∨ grant.tenantId ≠ some tenantId then OAuth.refuse "MCP grant identity mismatch"
  else return ()

def given (field : Option String) : Option String := field.filter (· ≠ "")

/-- `oauth_token`. What the serializer makes of the refresh token is an argument. -/
def oauthToken (form : TokenForm) (loaded : Except String TokenPayload) : OAuth TokenPayload := do
  verifyClient settings form.clientId form.clientSecret
  let resource := (given form.resource).getD settings.resource
  if resource ≠ settings.resource then OAuth.http 400 "OAuth resource does not match the Operly MCP server"
  else if form.grantType = "authorization_code" then
    match given form.code, given form.redirectUri, given form.codeVerifier with
    | some code, some redirectUri, some codeVerifier => do
        let (row, now) ← consumeAuthorizationCode settings code form.clientId redirectUri codeVerifier resource
        let grant ← activeGrant row.grantId form.clientId
        sameIdentity grant row.principalId row.tenantId
        let token := tokenPayload grant form.clientId resource row.scopes grant.updatedAt
        OAuth.commit (.exchanged row now token)
        return token
    | _, _, _ => OAuth.http 400 "Incomplete authorization-code exchange"
  else if form.grantType = "refresh_token" then
    match given form.refreshToken, loaded with
    | none, _ => OAuth.http 400 "Missing refresh token"
    | some _, .error detail => OAuth.refuse detail
    | some _, .ok payload => do
        let (grant, stamp) ← consumeRefreshToken payload form.clientId resource
        sameIdentity grant payload.principalId payload.tenantId
        let token := tokenPayload grant form.clientId resource payload.scopes stamp
        OAuth.commit (.redeemed grant stamp payload token)
        return token
  else OAuth.http 400 "Unsupported grant type"

end Endpoints

/-! ### Owners -/

def isScopeChar (c : Char) : Bool := ('a' ≤ c && c ≤ 'z') || ('0' ≤ c && c ≤ '9') || c = '_' || c = '-'

def isScopeName : List Char → Bool
  | first :: rest => 'a' ≤ first && first ≤ 'z' && rest.all isScopeChar
  | [] => false

/-- `_SCOPE_CAPABILITY.fullmatch` -/
def isScopeCapability (scope : String) : Bool :=
  match scope.toList.splitOn '.' with
  | first :: rest =>
      let rest := if rest.getLast? = some ['*'] then rest.dropLast else rest
      isScopeName first && rest.all fun part => part ≠ [] && part.all isScopeChar
  | [] => false

/-- `_SCOPE_PERMISSION.fullmatch` -/
def isScopePermission (scope : String) : Bool :=
  match scope.toList.splitOn ':' with
  | first :: second :: rest => (first :: second :: rest).all isScopeName
  | _ => false

def invalidScope (scope : String) : String :=
  s!"Invalid MCP capability scope: {scope}. Use workspace:*, a capability ID, a namespace wildcard such as computer.*, or a Workspace permission such as crm:read."

def normalizeScopes (values : List String) : Except OAuthFailure (List String) :=
  let cleaned := (cleanScopes values).dedup.insertionSort (· ≤ ·)
  if cleaned = [] then .ok ["workspace:*"]
  else match cleaned.find? fun scope => scope ≠ "workspace:*" && !isScopeCapability scope && !isScopePermission scope with
    | some scope => .error (.http 422 (invalidScope scope))
    | none => .ok cleaned

structure ClientGrantInput where
  clientId : String
  scopes : List String
  workspaceOnly : Bool := true

/-- An authenticated member of the active workspace, with the principal of the user -/
structure Owner where
  role : String
  principalId : String
  tenantId : String

def requireOwner (owner : Owner) : OAuth Unit :=
  if owner.role ≠ "owner" then OAuth.http 403 "Only the workspace owner can manage external AI access" else return ()

def createClientGrant (payload : ClientGrantInput) (owner : Owner) : OAuth Unit := do
  requireOwner owner
  let clientId := lower (strip payload.clientId)
  if clientId ≠ chatgptClientId then OAuth.http 400 "Unsupported external AI client"
  else if !payload.workspaceOnly then OAuth.http 400 "External AI grants must be scoped to the active workspace"
  else do
    let existing : Option ClientGrant ← OAuth.ask (.grantOf owner.principalId owner.tenantId clientId)
    let scopes ← Fallible.ofExcept (normalizeScopes payload.scopes)
    match existing with
    | some existing => do
        let now : Int ← OAuth.ask .utcnow
        OAuth.commit (.consented existing scopes now)
    | none => do
        let id : String ← OAuth.ask .uid
        let createdAt : Int ← OAuth.ask .utcnow
        let updatedAt : Int ← OAuth.ask .utcnow
        OAuth.commit (.granted ⟨id, owner.principalId, some owner.tenantId, clientId, scopes, .active, none,
          createdAt, updatedAt⟩)

def revokeClientGrant (grantId : String) (owner : Owner) : OAuth Unit := do
  requireOwner owner
  let row : Option ClientGrant ← OAuth.ask (.grantById grantId owner.principalId owner.tenantId)
  match row with
  | none => OAuth.http 404 "Client grant not found"
  | some row => do
      let now : Int ← OAuth.ask .utcnow
      OAuth.commit (.revoked row now)

inductive Request where
  | token (form : TokenForm) (loaded : Except String TokenPayload)
  /-- `issue_authorization_code`, with the row that is to be inserted -/
  | authorize (code : McpAuthorizationCode)
  | consent (payload : ClientGrantInput) (owner : Owner)
  | revoke (grantId : String) (owner : Owner)

inductive Reply where
  | tokens (payload : TokenPayload)
  | done
  deriving DecidableEq

def answer (settings : OAuthSettings) : Request → OAuth Reply
  | .token form loaded => do return .tokens (← oauthToken settings form loaded)
  | .authorize code => do
      OAuth.commit (.issued { code with consumedAt := none })
      return .done
  | .consent payload owner => do
      createClientGrant payload owner
      return .done
  | .revoke grantId owner => do
      revokeClientGrant grantId owner
      return .done

def main (settings : OAuthSettings) (_ : Nat) (request : Request) : Program oauth (Except OAuthFailure Reply) := do
  let result ← (answer settings request).run
  match result with
  | .ok reply => return .ok reply
  | .error failure => do
      let _ : Unit ← Program.ask (show oauth.Op from .rollback)
      return .error failure

end Operly.Mcp
