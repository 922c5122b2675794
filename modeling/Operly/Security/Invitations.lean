import Operly.Auth.Session

/-! Invitations to a workspace. That an invitation is pending is read first; the membership and the new status are
written at the end of the session. -/

namespace Operly.Security.Invitations
open Python Concurrent Relational Fallible Transaction
open Auth (Primitives normalizeEmail legible)

inductive InvitationStatus where
  | pending
  | accepted
  | revoked
  deriving DecidableEq

structure WorkspaceInvitation where
  id : String
  tenantId : String
  role : String
  targetEmail : Option String
  tokenHash : String
  status : InvitationStatus
  acceptedByUserId : Option String
  expiresAt : Int
  acceptedAt : Option Int
  deriving DecidableEq

structure TenantMember where
  id : String
  tenantId : String
  userId : String
  role : String
  deriving DecidableEq

structure AppUser where
  id : String
  email : String
  active : Bool
  deriving DecidableEq

structure Tenant where
  id : String
  name : String
  deriving DecidableEq

structure AuthSession where
  id : String
  tenantId : Option String
  deriving DecidableEq

inductive Entry where
  | joined (invitationId userId : String)
  | revoked (invitationId : String)
  deriving DecidableEq

structure State where
  invitations : Table WorkspaceInvitation String (·.id)
  members : Table TenantMember String (·.id)
  sessions : Table AuthSession String (·.id)
  users : List AppUser
  tenants : List Tenant
  log : List Entry := []

inductive Query where
  | utcnow
  | uid
  | pendingByToken (tokenHash : String) (now : Int)
  | user (id : String)
  | member (tenantId userId : String)
  | tenant (id : String)
  | invitation (id tenantId : String)

def queries : Interface where
  Op := Query
  Answer
    | .utcnow => Int
    | .uid => String
    | .pendingByToken .. | .invitation .. => Option WorkspaceInvitation
    | .user _ => Option AppUser
    | .member .. => Option TenantMember
    | .tenant _ => Option Tenant

structure Drawn where
  now : Int := 0
  text : String := ""

inductive Change where
  | accepted (loaded : WorkspaceInvitation) (userId : String) (acceptedAt : Int) (joining : Option TenantMember)
      (session : Option AuthSession) (tenantId : String)
  | revoked (loaded : WorkspaceInvitation) (status : InvitationStatus)

namespace State

def join (state : State) (invitationId : String) : Option TenantMember → Option State
  | none => some state
  | some row =>
      if (state.members.first fun other => other.tenantId = row.tenantId ∧ other.userId = row.userId).isSome ∨
          (state.members.find row.id).isSome then none
      else some { state with
        members := state.members.insert row
        log := .joined invitationId row.userId :: state.log }

/-- `auth.session.tenant_id = tenant_id` -/
def enter (state : State) (tenantId : String) : Option AuthSession → Option State
  | none => some state
  | some loaded =>
      if loaded.tenantId = some tenantId then some state
      else (state.sessions.find loaded.id).map fun now =>
        { state with sessions := state.sessions.replace { now with tenantId := some tenantId } }

end State

def commit : Change → State → Option State
  | .accepted loaded userId acceptedAt joining session tenantId, state => do
      let state ← state.join loaded.id joining
      let now ← state.invitations.find loaded.id
      let row : WorkspaceInvitation := { now with
        status := written loaded.status .accepted now.status
        acceptedByUserId := written loaded.acceptedByUserId (some userId) now.acceptedByUserId
        acceptedAt := written loaded.acceptedAt (some acceptedAt) now.acceptedAt }
      { state with invitations := state.invitations.replace row }.enter tenantId session
  | .revoked loaded status, state =>
      if status = loaded.status then some state
      else (state.invitations.find loaded.id).map fun now => { state with
        invitations := state.invitations.replace { now with status := status }
        log := .revoked loaded.id :: state.log }

def database : Database queries Change State Drawn where
  select
    | .utcnow, drawn, state => (drawn.now, state)
    | .uid, drawn, state => (drawn.text, state)
    | .pendingByToken tokenHash now, _, state =>
        (state.invitations.first fun row => row.tokenHash = tokenHash ∧ row.status = .pending ∧ now < row.expiresAt, state)
    | .user id, _, state => (state.users.find? (·.id = id), state)
    | .member tenantId userId, _, state =>
        (state.members.first fun row => row.tenantId = tenantId ∧ row.userId = userId, state)
    | .tenant id, _, state => (state.tenants.find? (·.id = id), state)
    | .invitation id tenantId, _, state =>
        ((state.invitations.find id).filter fun row => row.tenantId = tenantId, state)
  commit := commit

/-! ### The service -/

inductive InvitationError where
  /-- `WorkspaceInvitationError`, as the endpoint answers it -/
  | http (statusCode : Nat) (detail : String)
  /-- `EmailAddressError` -/
  | email
  | database
  deriving DecidableEq

abbrev Session (α : Type) := Transaction queries Change InvitationError α

def ask (query : Query) : Session (queries.Answer query) :=
  Transaction.select (show queries.Op from query)

section Service
variable (primitives : Primitives)

def tokenHash (token : String) : String := primitives.hashToken "workspace-invitation" token

def pendingByToken (token : String) : Session (Option WorkspaceInvitation) := do
  let clean := strip token
  if clean.length < 20 then return none
  else do
    let now : Int ← ask .utcnow
    let row : Option WorkspaceInvitation ← ask (.pendingByToken (tokenHash primitives clean) now)
    return row

def misaddressed (row : WorkspaceInvitation) (user : AppUser) : Except InvitationError Bool :=
  match row.targetEmail.filter (· ≠ "") with
  | none => .ok false
  | some target =>
      match normalizeEmail primitives user.email with
      | none => .error .email
      | some email => .ok (email ≠ target)

/-- `WorkspaceInvitationService.accept`: the membership, whether it is new, and the update of the invitation -/
def accept (token userId : String) : Session (TenantMember × (Option AuthSession → Change)) := do
  let row ← pendingByToken primitives token
  match row with
  | none => raise (.http 400 "Workspace invitation is invalid or expired")
  | some row => do
      let user : Option AppUser ← ask (.user userId)
      match user.filter (·.active) with
      | none => raise (.http 400 "Operly user is unavailable")
      | some user => do
          let other ← Fallible.ofExcept (misaddressed primitives row user)
          if other then raise (.http 400 "This workspace invitation was issued to a different email address")
          else do
            let membership : Option TenantMember ← ask (.member row.tenantId user.id)
            match membership with
            | some membership => do
                let acceptedAt : Int ← ask .utcnow
                return (membership, fun session => .accepted row user.id acceptedAt none session membership.tenantId)
            | none => do
                let id : String ← ask .uid
                let membership : TenantMember := ⟨id, row.tenantId, user.id, row.role⟩
                let acceptedAt : Int ← ask .utcnow
                return (membership,
                  fun session => .accepted row user.id acceptedAt (some membership) session membership.tenantId)

def revoke (tenantId invitationId : String) : Session (WorkspaceInvitation × InvitationStatus) := do
  let row : Option WorkspaceInvitation ← ask (.invitation invitationId tenantId)
  match row with
  | none => raise (.http 404 "Workspace invitation not found")
  | some row => return (row, if row.status = .pending then .revoked else row.status)

inductive Reply where
  | entered (workspaceId workspaceName role : String)
  | joined (workspaceId role : String)
  | revoked (id : String) (status : InvitationStatus)
  deriving DecidableEq

inductive Request where
  | acceptInvitation (token userId : String) (session : AuthSession)
  | acceptWorkspaceInvitation (token userId : String)
  | revokeInvitation (tenantId invitationId : String)

/-- `accept_invitation`, which also enters the workspace -/
def acceptInvitation (token userId : String) (session : AuthSession) : Session (Reply × Change) := do
  let (membership, change) ← accept primitives token userId
  let workspace : Option Tenant ← ask (.tenant membership.tenantId)
  return (.entered membership.tenantId ((workspace.map (·.name)).getD "Workspace") membership.role, change (some session))

def acceptWorkspaceInvitation (token userId : String) : Session (Reply × Change) := do
  let (membership, change) ← accept primitives token userId
  return (.joined membership.tenantId membership.role, change none)

def revokeInvitation (tenantId invitationId : String) : Session (Reply × Change) := do
  let (row, status) ← revoke tenantId invitationId
  return (.revoked row.id status, .revoked row status)

def answer : Request → Session (Reply × Change)
  | .acceptInvitation token userId session => acceptInvitation primitives token userId session
  | .acceptWorkspaceInvitation token userId => acceptWorkspaceInvitation primitives token userId
  | .revokeInvitation tenantId invitationId => revokeInvitation tenantId invitationId

def main (_ : Nat) (request : Request) : Program (sessions queries Change) (Except InvitationError Reply) :=
  (Transaction.commits .database (answer primitives request)).run

end Service

def known : (query : queries.Op) → queries.Answer query → Prop
  | .pendingByToken .., found => ∀ row : WorkspaceInvitation, found = some row → row.status = .pending
  | _, _ => True

/-- An invitation is accepted that was pending when it was loaded, and revoked only then. -/
def Composed : Change → Prop
  | .accepted loaded .. => loaded.status = .pending
  | .revoked loaded status => status = loaded.status ∨ (loaded.status = .pending ∧ status = .revoked)

section Composition
variable (primitives : Primitives)

theorem pendingByToken_yields (token : String) :
    Yields known (fun found : Option WorkspaceInvitation => ∀ row, found = some row → row.status = .pending)
      (pendingByToken primitives token) := by
  apply Yields.ite
  · intro _
    exact Yields.pure fun _ absent => by cases absent
  · intro _
    apply Yields.bind_select
    intro (now : Int) _
    apply Yields.bind_select
    intro (found : Option WorkspaceInvitation) pending
    exact Yields.pure pending

theorem accept_yields (token userId : String) :
    Yields known (fun result : TenantMember × (Option AuthSession → Change) => ∀ session, Composed (result.2 session))
      (accept primitives token userId) := by
  apply Yields.bind (pendingByToken_yields primitives token)
  intro found pending
  cases found with
  | none => exact Yields.raise
  | some row =>
    have first : row.status = .pending := pending row rfl
    apply Yields.bind_select
    intro (user : Option AppUser) _
    split
    · exact Yields.raise
    · next user _ =>
      apply Yields.bind (Yields.ofExcept fun _ _ => trivial)
      intro other _
      apply Yields.ite
      · exact fun _ => Yields.raise
      · intro _
        apply Yields.bind_select
        intro (membership : Option TenantMember) _
        cases membership with
        | some membership =>
          apply Yields.bind_select
          intro (acceptedAt : Int) _
          exact Yields.pure fun _ => first
        | none =>
          apply Yields.bind_select
          intro (id : String) _
          apply Yields.bind_select
          intro (acceptedAt : Int) _
          exact Yields.pure fun _ => first

theorem revoke_yields (tenantId invitationId : String) :
    Yields known (fun result : WorkspaceInvitation × InvitationStatus => Composed (.revoked result.1 result.2))
      (revoke tenantId invitationId) := by
  apply Yields.bind_select
  intro (found : Option WorkspaceInvitation) _
  cases found with
  | none => exact Yields.raise
  | some row =>
    apply Yields.pure
    by_cases pending : row.status = .pending
    · exact .inr ⟨pending, if_pos pending⟩
    · exact .inl (if_neg pending)

theorem main_composes (pid : Nat) (request : Request) : Composes known Composed (main primitives pid request) := by
  apply Yields.commits
  cases request with
  | acceptInvitation token userId session =>
    apply Yields.bind (accept_yields primitives token userId)
    rintro ⟨membership, change⟩ composed
    apply Yields.bind_select
    intro (workspace : Option Tenant) _
    exact Yields.pure (composed _)
  | acceptWorkspaceInvitation token userId =>
    apply Yields.bind (accept_yields primitives token userId)
    rintro ⟨membership, change⟩ composed
    exact Yields.pure (composed _)
  | revokeInvitation tenantId invitationId =>
    apply Yields.bind (revoke_yields tenantId invitationId)
    rintro ⟨row, status⟩ composed
    exact Yields.pure composed

end Composition

/-! ### One membership for each invitation -/

namespace Entry

def invitation : Entry → String
  | .joined invitationId _ | .revoked invitationId => invitationId

def joins (invitationId : String) : Entry → Bool
  | .joined other _ => other = invitationId
  | .revoked _ => false

end Entry

/-- At most one membership is added for the invitation, and none if it is revoked. -/
def OneUse (log : List Entry) (invitationId : String) : Prop :=
  log.countP (Entry.joins invitationId) ≤ 1 ∧
    (.revoked invitationId ∈ log → log.countP (Entry.joins invitationId) = 0)

def StillPending (loaded : WorkspaceInvitation) (state : State) : Prop :=
  ∀ now ∈ state.invitations.find loaded.id, now.status = .pending

/-- A session that adds a membership or revokes has not been overtaken by another one. -/
def Unovertaken : Change → State → Prop
  | .accepted loaded _ _ (some _) _ _, state => StillPending loaded state
  | .accepted _ _ _ none _ _, _ => True
  | .revoked loaded _, state => loaded.status = .pending → StillPending loaded state

structure Kept (state : State) : Prop where
  unused : ∀ id row, state.invitations.find id = some row → row.status = .pending → ∀ entry ∈ state.log, entry.invitation ≠ id
  once : ∀ id, OneUse state.log id

instance (loaded : WorkspaceInvitation) (state : State) : Decidable (StillPending loaded state) :=
  inferInstanceAs (Decidable (∀ now ∈ state.invitations.find loaded.id, now.status = .pending))

instance (change : Change) (state : State) : Decidable (Unovertaken change state) :=
  match change with
  | .accepted loaded _ _ (some _) _ _ => inferInstanceAs (Decidable (StillPending loaded state))
  | .accepted _ _ _ none _ _ => .isTrue trivial
  | .revoked loaded _ => inferInstanceAs (Decidable (loaded.status = .pending → StillPending loaded state))

variable {state after : State} {log : List Entry} {entry : Entry}

theorem OneUse.other {id : String} (one : OneUse log id) (other : entry.invitation ≠ id) :
    OneUse (entry :: log) id := by
  have same : (entry :: log).countP (Entry.joins id) = log.countP (Entry.joins id) := by
    apply List.countP_cons_of_neg
    cases entry with
    | joined invitationId userId => simpa [Entry.joins, Entry.invitation] using other
    | revoked => exact Bool.false_ne_true
  rw [OneUse, same]
  refine ⟨one.1, fun member => one.2 ?_⟩
  cases List.mem_cons.mp member with
  | inl new => exact absurd (congrArg Entry.invitation new).symm other
  | inr old => exact old

theorem OneUse.first (unused : ∀ other ∈ log, other.invitation ≠ entry.invitation) :
    OneUse (entry :: log) entry.invitation := by
  have none : log.countP (Entry.joins entry.invitation) = 0 := by
    rw [List.countP_eq_zero]
    intro other member joins
    cases other with
    | joined invitationId userId => exact unused _ member (of_decide_eq_true joins)
    | revoked => cases joins
  rw [OneUse, List.countP_cons, none]
  cases entry with
  | joined invitationId userId =>
    refine ⟨by split <;> omega, fun member => ?_⟩
    cases List.mem_cons.mp member with
    | inl impossible => cases impossible
    | inr old => exact absurd rfl (unused (.revoked invitationId) old)
  | revoked invitationId => exact ⟨Nat.zero_le _, fun _ => rfl⟩

theorem once_cons (kept : Kept state) {now : WorkspaceInvitation}
    (found : state.invitations.find entry.invitation = some now) (pending : now.status = .pending) (id : String) :
    OneUse (entry :: state.log) id := by
  by_cases same : entry.invitation = id
  · subst same
    exact OneUse.first (kept.unused _ now found pending)
  · exact (kept.once id).other same

theorem unused_replace {row : WorkspaceInvitation} (settled : row.status ≠ .pending)
    (unused : ∀ id old, id ≠ row.id → state.invitations.find id = some old → old.status = .pending →
      ∀ entry ∈ log, entry.invitation ≠ id) :
    ∀ id old, (state.invitations.replace row).find id = some old → old.status = .pending →
      ∀ entry ∈ log, entry.invitation ≠ id := by
  intro id old found pending
  rw [Table.find_replace] at found
  split at found
  · obtain ⟨_, -, rfl⟩ := Option.map_eq_some_iff.mp found
    exact absurd pending settled
  · next other => exact unused id old other found pending

theorem unused_cons (kept : Kept state) {id : String} {row : WorkspaceInvitation} (other : id ≠ entry.invitation)
    (found : state.invitations.find id = some row) (pending : row.status = .pending) :
    ∀ any ∈ entry :: state.log, any.invitation ≠ id :=
  List.forall_mem_cons.mpr ⟨other.symm, kept.unused id row found pending⟩

theorem State.enter_eq_some {tenantId : String} {session : Option AuthSession}
    (entered : state.enter tenantId session = some after) :
    after.invitations = state.invitations ∧ after.log = state.log := by
  cases session with
  | none =>
    cases entered
    exact ⟨rfl, rfl⟩
  | some loaded =>
    simp only [State.enter] at entered
    split at entered
    · cases entered
      exact ⟨rfl, rfl⟩
    · obtain ⟨now, -, rfl⟩ := Option.map_eq_some_iff.mp entered
      exact ⟨rfl, rfl⟩

theorem State.join_eq_some {invitationId : String} {joining : Option TenantMember}
    (joined : state.join invitationId joining = some after) : after.invitations = state.invitations ∧
      ((joining = none ∧ after.log = state.log) ∨
        ∃ row, joining = some row ∧ after.log = .joined invitationId row.userId :: state.log) := by
  cases joining with
  | none =>
    cases joined
    exact ⟨rfl, .inl ⟨rfl, rfl⟩⟩
  | some row =>
    simp only [State.join] at joined
    split at joined
    · cases joined
    · cases joined
      exact ⟨rfl, .inr ⟨row, rfl, rfl⟩⟩

theorem commit_kept {change : Change} (kept : Kept state) (composed : Composed change) (allowed : Unovertaken change state)
    (committed : commit change state = some after) : Kept after := by
  cases change with
  | accepted loaded userId acceptedAt joining session tenantId =>
    have pending : loaded.status = .pending := composed
    simp only [commit, Option.bind_eq_bind, Option.bind_eq_some_iff] at committed
    obtain ⟨middle, joined, now, found, entered⟩ := committed
    obtain ⟨invitations, log⟩ := State.enter_eq_some entered
    obtain ⟨same, entries⟩ := State.join_eq_some joined
    rw [same] at found
    have settled : written loaded.status .accepted now.status ≠ .pending := by
      rw [pending, written_of_ne InvitationStatus.noConfusion]
      exact InvitationStatus.noConfusion
    have key : now.id = loaded.id := Table.find_key found
    rcases entries with ⟨rfl, unchanged⟩ | ⟨row, rfl, new⟩
    · constructor
      · rw [invitations, log, same, unchanged]
        exact unused_replace settled fun id old _ => kept.unused id old
      · rw [log]
        exact unchanged ▸ kept.once
    · constructor
      · rw [invitations, log, same, new]
        exact unused_replace settled fun id old other => unused_cons kept (key ▸ other)
      · rw [log]
        exact new ▸ once_cons kept found (allowed now found)
  | revoked loaded status =>
    simp only [commit] at committed
    split at committed
    · cases committed
      exact kept
    · next differs =>
      obtain ⟨pending, rfl⟩ := composed.resolve_left differs
      obtain ⟨now, found, rfl⟩ := Option.map_eq_some_iff.mp committed
      have key : now.id = loaded.id := Table.find_key found
      constructor
      · exact unused_replace InvitationStatus.noConfusion fun id old other => unused_cons kept (key ▸ other)
      · exact once_cons kept found (allowed pending now found)

theorem database_kept : database.Keeps Kept known Composed Unovertaken where
  selects query drawn state kept := by
    constructor
    · cases query with
      | pendingByToken tokenHash now =>
        intro row found
        exact (Table.first_spec found).2.2.1
      | _ => trivial
    · cases query <;> exact kept
  commits _ _ _ kept composed allowed committed := commit_kept kept composed allowed committed

/-- As long as no session that adds a membership or revokes is overtaken, an invitation is used once. -/
theorem invitation_used_once (primitives : Primitives) {start : State} (fresh : start.log = [])
    {moves : List (Move Request Drawn)}
    {final : Pool (sessions queries Change) Request (Except InvitationError Reply) State}
    (run : Runs (Pool.step database.world (main primitives)) (database.admitted Unovertaken) (Pool.initial start) moves final)
    (id : String) : OneUse final.shared.log id := by
  refine (database_kept.committed (main_composes primitives) ⟨?_, ?_⟩ run).once id
  · rw [fresh]
    exact fun _ _ _ _ _ absent => absurd absent List.not_mem_nil
  · rw [fresh]
    exact fun _ => ⟨Nat.zero_le _, fun absent => absurd absent List.not_mem_nil⟩

namespace Shared

def invitation : WorkspaceInvitation :=
  ⟨"invitation", "acme", "member", none, "workspace-invitation(an-invitation-to-acme)", .pending, none, 900, none⟩

def start : State where
  invitations := Table.empty.insert invitation
  members := .empty
  sessions := .empty
  users := [⟨"ada", "ada@example.com", true⟩, ⟨"bob", "bob@example.com", true⟩]
  tenants := [⟨"acme", "Acme"⟩]

def accepting (pid : Nat) (userId : String) : Move Request Drawn :=
  .start pid (.acceptWorkspaceInvitation "an-invitation-to-acme" userId)

def act (pid : Nat) (text : String) : Move Request Drawn := .act pid { now := 1, text := text }

def together : List (Move Request Drawn) :=
  accepting 0 "ada" :: accepting 1 "bob" :: List.replicate 6 (act 0 "first") ++ List.replicate 6 (act 1 "second") ++
    [act 0 "", act 1 ""]

def revoking : List (Move Request Drawn) :=
  accepting 0 "ada" :: List.replicate 6 (act 0 "first") ++
    [.start 1 (.revokeInvitation "acme" "invitation"), act 1 "", act 1 "", act 0 ""]

def inTurn : List (Move Request Drawn) :=
  accepting 0 "ada" :: List.replicate 7 (act 0 "first") ++ accepting 1 "bob" :: List.replicate 2 (act 1 "second")

def logged (moves : List (Move Request Drawn)) : Option (List Entry) :=
  (moves.foldlM (Pool.step database.world (main legible)) (Pool.initial start)).map fun pool => pool.shared.log

theorem together_logged : logged together = some [.joined "invitation" "bob", .joined "invitation" "ada"] := by
  decide

theorem revoking_logged : logged revoking = some [.joined "invitation" "ada", .revoked "invitation"] := by
  decide

theorem inTurn_checked : (inTurn.foldlM (fun pool move =>
    if database.checked (fun change state => Unovertaken change state) pool move then
      pool.step database.world (main legible) move else none) (Pool.initial start)).map (fun pool => pool.shared.log) =
        some [.joined "invitation" "ada"] := by
  decide

def Commits (moves : List (Move Request Drawn)) (log : List Entry) : Prop :=
  ∃ final, Runs (Pool.step database.world (main legible)) (fun _ _ => True) (Pool.initial start) moves final ∧
    final.shared.log = log

theorem commits_of_logged {moves : List (Move Request Drawn)} (shown : logged moves = some log) :
    Commits moves log := by
  obtain ⟨final, evaluated, same⟩ := Option.map_eq_some_iff.mp shown
  exact ⟨final, Runs.of_foldlM evaluated, same⟩

end Shared

theorem invitation_used_once_in_turn : ∃ final, OneUse final.shared.log "invitation" ∧
    Runs (Pool.step database.world (main legible)) (database.admitted Unovertaken) (Pool.initial Shared.start)
      Shared.inTurn final := by
  obtain ⟨final, evaluated, _⟩ := Option.map_eq_some_iff.mp Shared.inTurn_checked
  have run := Runs.of_checked (Database.admitted_of_checked fun _ _ => of_decide_eq_true) evaluated
  exact ⟨final, invitation_used_once legible rfl run "invitation", run⟩

/-- One link adds both users, and it adds a user after it has been revoked. -/
theorem invitation_shared : ∃ together revoking, Shared.Commits Shared.together together ∧
    Shared.Commits Shared.revoking revoking ∧ ¬OneUse together "invitation" ∧ ¬OneUse revoking "invitation" := by
  refine ⟨_, _, Shared.commits_of_logged Shared.together_logged, Shared.commits_of_logged Shared.revoking_logged, ?_, ?_⟩
  · exact fun one => absurd one.1 (by decide)
  · exact fun one => absurd (one.2 (by decide)) (by decide)

end Operly.Security.Invitations
