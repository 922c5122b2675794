import Operly.Concurrent.Growing
import Operly.Python.Datetime
import Operly.Relational.Columns

/-! Principals, and the accounts of other providers that are bound to them. A guest is the principal of an account
that nobody has claimed. -/

namespace Operly.Security.Principals
open Python Concurrent Relational

inductive PrincipalKind where
  | user
  | human
  | guest
  deriving DecidableEq

inductive PrincipalStatus where
  | active
  | claimed
  | other (text : String)
  deriving DecidableEq

structure Principal where
  id : String
  kind : PrincipalKind
  userId : Option String
  displayName : Option String
  status : PrincipalStatus
  expiresAt : Option Int
  claimedByUserId : Option String
  claimedAt : Option Int
  metadataJson : String
  deriving DecidableEq

structure ExternalPrincipalBinding where
  provider : String
  providerSubject : String
  principalId : String
  displayName : Option String
  verified : Bool
  metadataJson : String
  deriving DecidableEq

def ExternalPrincipalBinding.subject (row : ExternalPrincipalBinding) : String × String :=
  (row.provider, row.providerSubject)

structure ChannelConversationState where
  id : String
  provider : String
  externalUserId : String
  userId : Option String
  deriving DecidableEq

structure PrincipalConversation where
  id : String
  principalId : String
  provider : String
  externalConversationId : String
  deriving DecidableEq

def PrincipalConversation.origin (row : PrincipalConversation) : String × String × String :=
  (row.principalId, row.provider, row.externalConversationId)

structure AgentConversation where
  id : String
  principalId : String
  deriving DecidableEq

structure AppUser where
  id : String
  displayName : String
  active : Bool
  deriving DecidableEq

structure State where
  users : List AppUser
  principals : Table Principal String (·.id)
  bindings : Table ExternalPrincipalBinding (String × String) ExternalPrincipalBinding.subject
  channelConversations : Table ChannelConversationState String (·.id)
  principalConversations : Table PrincipalConversation String (·.id)
  agentConversations : Table AgentConversation String (·.id)

/-! ### The statements of a session -/

inductive Query where
  | utcnow
  | uid
  | binding (provider providerSubject : String)
  | principal (id : String)
  | principalOf (kind : PrincipalKind) (userId : String)
  | user (id : String)

def queries : Interface where
  Op := Query
  Answer
    | .utcnow => Int
    | .uid => String
    | .binding .. => Option ExternalPrincipalBinding
    | .principal _ | .principalOf .. => Option Principal
    | .user _ => Option AppUser

structure Drawn where
  now : Int := 0
  text : String := ""

/-- The principal of a user: a row that was found, or one that is to be inserted -/
inductive Owner where
  | existing (row : Principal)
  | fresh (row : Principal)

def Owner.row : Owner → Principal
  | .existing row | .fresh row => row

structure Claim where
  guest : Principal
  binding : ExternalPrincipalBinding
  owner : Owner
  userId : String
  claimedAt : Int

/-- What a link writes about the account; the metadata are as `json.dumps` writes them. -/
structure Details where
  displayName : Option String
  metadataJson : Option String

inductive Change where
  | unchanged
  | guest (principal : Principal) (binding : ExternalPrincipalBinding)
  | bound (owner : Owner) (binding : ExternalPrincipalBinding)
  | refreshed (loaded : ExternalPrincipalBinding) (details : Details)
  | claimed (claim : Claim) (details : Option Details)

/-- `binding.display_name = display_name or binding.display_name` -/
def Details.name (details : Details) (loaded : ExternalPrincipalBinding) : Option String :=
  (details.displayName.filter (· ≠ "")).or loaded.displayName

def ExternalPrincipalBinding.updated (now loaded : ExternalPrincipalBinding) (principalId : String)
    (details : Option Details) : ExternalPrincipalBinding :=
  { now with
    principalId := written loaded.principalId principalId now.principalId
    verified := written loaded.verified true now.verified
    displayName := written loaded.displayName ((details.map (·.name loaded)).getD loaded.displayName) now.displayName
    metadataJson := written loaded.metadataJson ((details.bind (·.metadataJson)).getD loaded.metadataJson) now.metadataJson }

def Principal.claimed (now : Principal) (claim : Claim) : Principal :=
  { now with
    status := written claim.guest.status .claimed now.status
    claimedByUserId := written claim.guest.claimedByUserId (some claim.userId) now.claimedByUserId
    claimedAt := written claim.guest.claimedAt (some claim.claimedAt) now.claimedAt }

namespace State

def addPrincipal (state : State) (row : Principal) : Option State :=
  if (state.principals.find row.id).isSome ∨
      (state.principals.first fun other => other.kind = row.kind ∧ row.userId ≠ none ∧ other.userId = row.userId).isSome then
    none
  else some { state with principals := state.principals.insert row }

def addOwner (state : State) : Owner → Option State
  | .existing _ => some state
  | .fresh row => state.addPrincipal row

def addBinding (state : State) (row : ExternalPrincipalBinding) : Option State :=
  if (state.bindings.find row.subject).isSome then none
  else some { state with bindings := state.bindings.insert row }

def updateBinding (state : State) (loaded : ExternalPrincipalBinding) (principalId : String) (details : Option Details) :
    Option State :=
  (state.bindings.find loaded.subject).map fun now =>
    { state with bindings := state.bindings.replace (now.updated loaded principalId details) }

def claimPrincipal (state : State) (claim : Claim) : Option State :=
  (state.principals.find claim.guest.id).map fun now =>
    { state with principals := state.principals.replace (now.claimed claim) }

def handOver (state : State) (guestId ownerId userId : String) (subject : String × String) : Option State :=
  let conversations := state.principalConversations.modify
    (fun row => if row.principalId = guestId then { row with principalId := ownerId } else row)
    fun row => by split <;> rfl
  if ¬(conversations.rows.map PrincipalConversation.origin).Nodup then none
  else some { state with
    channelConversations := state.channelConversations.modify
      (fun row => if (row.provider, row.externalUserId) = subject then { row with userId := some userId } else row)
      fun row => by split <;> rfl
    principalConversations := conversations
    agentConversations := state.agentConversations.modify
      (fun row => if row.principalId = "guest:" ++ guestId then { row with principalId := "user:" ++ userId } else row)
      fun row => by split <;> rfl }

end State

def commit : Change → State → Option State
  | .unchanged, state => some state
  | .guest principal binding, state => do (← state.addPrincipal principal).addBinding binding
  | .bound owner binding, state => do (← state.addOwner owner).addBinding binding
  | .refreshed loaded details, state => state.updateBinding loaded loaded.principalId (some details)
  | .claimed claim details, state => do
      let state ← state.addOwner claim.owner
      let state ← state.claimPrincipal claim
      let state ← state.updateBinding claim.binding claim.owner.row.id details
      state.handOver claim.guest.id claim.owner.row.id claim.userId claim.binding.subject

def database : Database queries Change State Drawn where
  select
    | .utcnow, drawn, state => (drawn.now, state)
    | .uid, drawn, state => (drawn.text, state)
    | .binding provider providerSubject, _, state => (state.bindings.find (provider, providerSubject), state)
    | .principal id, _, state => (state.principals.find id, state)
    | .principalOf kind userId, _, state =>
        (state.principals.first fun row => row.kind = kind ∧ row.userId = some userId ∧ row.status = .active, state)
    | .user id, _, state => (state.users.find? (·.id = id), state)
  commit := commit

/-! ### The service -/

inductive PrincipalError where
  | principal (message : String)
  | database
  deriving DecidableEq

abbrev Session (α : Type) := Transaction queries Change PrincipalError α

def ask (query : Query) : Session (queries.Answer query) :=
  Transaction.select (show queries.Op from query)

def refuse {α : Type} (message : String) : Session α := Fallible.raise (.principal message)

def userPrincipal (userId : String) : Session Owner := do
  let row : Option Principal ← ask (.principalOf .user userId)
  match row with
  | some row => return .existing row
  | none => do
      let user : Option AppUser ← ask (.user userId)
      match user.filter (·.active) with
      | none => refuse "Operly user is unavailable"
      | some user => do
          let id : String ← ask .uid
          return .fresh ⟨id, .user, some user.id, some user.displayName, .active, none, none, none, "\x7b\x7d"⟩

def identityPrincipal (userId : String) : Session Owner := do
  let human : Option Principal ← ask (.principalOf .human userId)
  match human with
  | some human => return .existing human
  | none => userPrincipal userId

def externalPrincipal (provider providerSubject : String) : Session (Option (Principal × ExternalPrincipalBinding)) := do
  let binding : Option ExternalPrincipalBinding ← ask (.binding provider providerSubject)
  match binding with
  | none => return none
  | some binding => do
      let principal : Option Principal ← ask (.principal binding.principalId)
      return principal.map (·, binding)

/-- `claim_guest` after its guest is found; a row that the session has loaded before stays as it was loaded. -/
def claimLoaded (guest : Principal) (loaded : Option ExternalPrincipalBinding) (userId provider providerSubject : String) :
    Session Claim := do
  let owner ← identityPrincipal userId
  let found : Option ExternalPrincipalBinding ← ask (.binding provider providerSubject)
  match (found.map fun row => loaded.getD row).filter fun row => row.principalId = guest.id with
  | none => refuse "External identity does not belong to this guest"
  | some binding => do
      let claimedAt : Int ← ask .utcnow
      return ⟨guest, binding, owner, userId, claimedAt⟩

def Principal.claimable (row : Principal) : Bool := row.kind = .guest ∧ row.status = .active

def claimGuest (guestPrincipalId userId provider providerSubject : String) : Session Claim := do
  let guest : Option Principal ← ask (.principal guestPrincipalId)
  match guest.filter (·.claimable) with
  | none => refuse "Guest session is unavailable"
  | some guest => claimLoaded guest none userId provider providerSubject

def newBinding (provider providerSubject : String) (owner : Owner) (displayName : Option String) (metadataJson : Option String) :
    ExternalPrincipalBinding :=
  ⟨provider, providerSubject, owner.row.id, displayName, true, metadataJson.getD "\x7b\x7d"⟩

def bindExternalIdentity (userId provider providerSubject : String) (displayName metadataJson : Option String) :
    Session Change := do
  let existing ← externalPrincipal provider providerSubject
  match existing with
  | some (principal, binding) =>
      if principal.claimable then do
        let claim ← claimLoaded principal (some binding) userId provider providerSubject
        let rebound : Option ExternalPrincipalBinding ← ask (.binding provider providerSubject)
        match rebound with
        | none => refuse "External identity binding disappeared"
        | some _ => return .claimed claim (some ⟨displayName, metadataJson⟩)
      else if principal.userId ≠ some userId then refuse "This external identity is already linked to another Operly user"
      else return .refreshed binding ⟨displayName, metadataJson⟩
  | none => do
      let owner ← identityPrincipal userId
      return .bound owner (newBinding provider providerSubject owner displayName metadataJson)

def guestTtl : Int := 30 * Time.day

/-- `resolve_or_create_guest`; `origin` is the provider as `json.dumps` writes it. -/
def resolveOrCreateGuest (provider providerSubject : String) (displayName : Option String) (origin : String) :
    Session Change := do
  let existing ← externalPrincipal provider providerSubject
  match existing with
  | some _ => return .unchanged
  | none => do
      let now : Int ← ask .utcnow
      let id : String ← ask .uid
      return .guest
        ⟨id, .guest, none, displayName, .active, some (now + guestTtl), none, none,
          "\x7b\"origin_provider\":" ++ origin ++ "\x7d"⟩
        ⟨provider, providerSubject, id, displayName, false, "\x7b\x7d"⟩

inductive Request where
  | resolveOrCreateGuest (provider providerSubject : String) (displayName : Option String) (origin : String)
  | bindExternalIdentity (userId provider providerSubject : String) (displayName metadataJson : Option String)
  | claimGuest (guestPrincipalId userId provider providerSubject : String)

def answer : Request → Session Change
  | .resolveOrCreateGuest provider providerSubject displayName origin =>
      resolveOrCreateGuest provider providerSubject displayName origin
  | .bindExternalIdentity userId provider providerSubject displayName metadataJson =>
      bindExternalIdentity userId provider providerSubject displayName metadataJson
  | .claimGuest guestPrincipalId userId provider providerSubject => do
      let claim ← claimGuest guestPrincipalId userId provider providerSubject
      return .claimed claim none

def main (_ : Nat) (request : Request) : Session Unit :=
  Transaction.commits .database do
    let change ← answer request
    return ((), change)

end Operly.Security.Principals
