import Operly.Workspace.Authority

/-! The members of a workspace. The last owner is counted when an owner is about to be demoted or
removed, and written later in the same transaction. -/

namespace Operly.Workspace.Members
open Python Concurrent Relational Security Fallible Transaction

structure TenantMember where
  id : String
  tenantId : String
  userId : String
  role : String
  deriving DecidableEq

/-- A fresh `id` belongs to one workspace for good, so the workspace may be part of the identity. -/
def TenantMember.identity (row : TenantMember) : String × String := (row.tenantId, row.id)

structure WorkspaceRole where
  tenantId : String
  key : String
  deriving DecidableEq

structure State where
  directory : Directory
  roles : List WorkspaceRole
  members : Table TenantMember (String × String) TenantMember.identity
  events : List ActivityEvent

namespace State

/-- `SELECT count(*) ... WHERE role = 'owner'` -/
def owners (state : State) (tenantId : String) : Nat :=
  state.members.count fun row => row.tenantId = tenantId ∧ row.role = "owner"

def HasOwner (state : State) (tenantId : String) : Prop :=
  ∃ row ∈ state.members.rows, row.tenantId = tenantId ∧ row.role = "owner"

instance (state : State) (tenantId : String) : Decidable (state.HasOwner tenantId) :=
  inferInstanceAs (Decidable (∃ row ∈ state.members.rows, row.tenantId = tenantId ∧ row.role = "owner"))

end State

inductive Query where
  | tenant (id : String)
  | user (id : String)
  | userByEmail (email : String)
  | role (tenantId key : String)
  | member (tenantId userId : String)
  | owners (tenantId : String)
  | uid

def queries : Interface where
  Op := Query
  Answer
    | .tenant _ => Option String
    | .user _ | .userByEmail _ => Option AppUser
    | .role .. => Bool
    | .member .. => Option TenantMember
    | .owners _ => Nat
    | .uid => String

/-- What a session has composed about a membership: the row as it was loaded, and the owners that were
counted if the last owner was looked for. -/
inductive Change where
  | added (row : TenantMember)
  | changed (loaded : TenantMember) (role : String) (counted : Option Nat)
  | removed (loaded : TenantMember) (counted : Option Nat)

structure Flush where
  change : Change
  event : ActivityEvent

/-- A membership that is there already or an updated row that is gone undoes the session; a deleted row
that is gone does not. A role that stays as it was loaded is not written. -/
def Change.apply : Change → State → Option State
  | .added row, state =>
      if (state.members.first fun other => other.tenantId = row.tenantId ∧ other.userId = row.userId).isSome ||
          (state.members.find row.identity).isSome then none
      else some { state with members := state.members.insert row }
  | .changed loaded role _, state =>
      if role = loaded.role then some state
      else (state.members.find loaded.identity).map fun now =>
        { state with members := state.members.replace { now with role := role } }
  | .removed loaded _, state => some { state with members := state.members.erase loaded.identity }

def commit (flush : Flush) (state : State) : Option State :=
  (flush.change.apply state).map fun after => { after with events := after.events ++ [flush.event] }

/-- Of the characters beyond ASCII: which ones `isalnum` admits, and what `lower` of SQL makes of a text. -/
structure Locale where
  isAlnum : Char → Bool
  lowerSql : String → String

def database (locale : Locale) : Database queries Flush State String where
  select
    | .tenant id, _, state => (state.directory.tenants.find? (· = id), state)
    | .user id, _, state => (state.directory.users.find? (·.id = id), state)
    | .userByEmail email, _, state => (state.directory.users.find? (locale.lowerSql ·.email = email), state)
    | .role tenantId key, _, state => (state.roles.any fun role => role.tenantId = tenantId ∧ role.key = key, state)
    | .member tenantId userId, _, state =>
        (state.members.first fun row => row.tenantId = tenantId ∧ row.userId = userId, state)
    | .owners tenantId, _, state => (state.owners tenantId, state)
    | .uid, drawn, state => (drawn, state)
  commit := commit

/-! ### The capabilities -/

abbrev Session (α : Type) := Transaction queries Flush CapabilityError α

def ask (query : Query) : Session (queries.Answer query) :=
  Transaction.select (show queries.Op from query)

def normalizeRoleKey (locale : Locale) (value : String) : Except CapabilityError String :=
  let raw := "-".intercalate (words (lower (strip value)))
  let cleaned := raw.toList.filter fun c => locale.isAlnum c || c = '-' || c = '_'
  if cleaned = [] then .error (.value "Role key is required")
  else .ok (String.ofList (cleaned.take 30))

def defaultRoles : List String := ["owner", "manager", "agent", "employee"]

def roleExists (tenantId roleKey : String) : Session Bool :=
  if defaultRoles.contains roleKey then return true else ask (.role tenantId roleKey)

/-- `_member_add`, with what it has composed; the result is the user and the role. -/
def memberAdd (locale : Locale) (auth : AuthContext) (email : String) (role : Option String) :
    Session ((AppUser × String) × Flush) := do
  let roleKey ← Fallible.ofExcept (normalizeRoleKey locale (if isSet role then role.getD "" else "employee"))
  if roleKey = "owner" ∧ auth.role ≠ "owner" then
    raise (.permission "Only an owner can assign the owner role")
  let known ← roleExists auth.tenantId roleKey
  if !known then
    raise (.value "Workspace role not found")
  let found : Option AppUser ← ask (.userByEmail (lower (strip email)))
  match found.filter AppUser.active with
  | none => raise (.value "That email does not have an active Operly account")
  | some user =>
      let id : String ← ask .uid
      let called := if user.displayName ≠ "" then user.displayName else user.email
      return ((user, roleKey), ⟨.added ⟨id, auth.tenantId, user.id, roleKey⟩,
        activity auth "created" "workspace_member" user.id s!"Added {called} as {roleKey}"⟩)

/-- The last-owner check where it is needed: what it counts, unless that is too few. -/
def keepOwner (needed : Prop) [Decidable needed] (tenantId : String) : Session (Option Nat) :=
  if needed then do
    let counted : Nat ← ask (.owners tenantId)
    if counted ≤ 1 then
      raise (.value "A workspace must keep at least one owner")
    return some counted
  else return none

def membership (tenantId userId : String) : Session TenantMember := do
  match ← ask (.member tenantId userId) with
  | none => raise (.value "Workspace member not found")
  | some row => return row

def memberRoleUpdate (locale : Locale) (auth : AuthContext) (userId role : String) :
    Session ((String × String) × Flush) := do
  let loaded ← membership auth.tenantId userId
  let roleKey ← Fallible.ofExcept (normalizeRoleKey locale role)
  let known ← roleExists auth.tenantId roleKey
  if !known then
    raise (.value "Workspace role not found")
  if (loaded.role = "owner" ∨ roleKey = "owner") ∧ auth.role ≠ "owner" then
    raise (.permission "Only an owner can change workspace ownership")
  let counted ← keepOwner (loaded.role = "owner" ∧ roleKey ≠ "owner") auth.tenantId
  return ((userId, roleKey), ⟨.changed loaded roleKey counted,
    activity auth "updated" "workspace_member" userId s!"Changed workspace member role to {roleKey}"⟩)

def memberRemove (auth : AuthContext) (userId : String) : Session (String × Flush) := do
  let loaded ← membership auth.tenantId userId
  if loaded.role = "owner" ∧ auth.role ≠ "owner" then
    raise (.permission "Only an owner can remove an owner")
  let counted ← keepOwner (loaded.role = "owner") auth.tenantId
  return (userId, ⟨.removed loaded counted,
    activity auth "deleted" "workspace_member" userId "Removed a workspace member"⟩)

inductive Call where
  | add (email : String) (role : Option String)
  | roleUpdate (userId role : String)
  | remove (userId : String)

inductive Reply where
  | added (user : AppUser) (role : String)
  | updated (userId role : String)
  | removed (userId : String)

def handler (locale : Locale) (auth : AuthContext) : Call → Session (Reply × Flush)
  | .add email role => do
      let ((user, roleKey), flush) ← memberAdd locale auth email role
      return (.added user roleKey, flush)
  | .roleUpdate userId role => do
      let ((userId, roleKey), flush) ← memberRoleUpdate locale auth userId role
      return (.updated userId roleKey, flush)
  | .remove userId => do
      let (userId, flush) ← memberRemove auth userId
      return (.removed userId, flush)

/-- What a failed flush raises: only the one that adds a member turns it into a `ValueError`. -/
def Call.refused : Call → CapabilityError
  | .add .. => .value "User is already a workspace member"
  | .roleUpdate .. | .remove .. => .database

/-- `WorkspaceControlProvider.execute` for the members, in a transaction of its own -/
def main (locale : Locale) (_ : Nat) (entry : ExecutionContext × Call) :
    Program (sessions queries Flush) (Except CapabilityError Reply) :=
  (Transaction.commits entry.2.refused do
    let auth ← authContext "Workspace control capability requires a workspace member"
      (fun id => ask (.tenant id)) (fun id => ask (.user id)) entry.1
    handler locale auth entry.2).run

/-! ### What a session composes -/

def answers : (query : queries.Op) → queries.Answer query → Prop
  | .member tenantId _, found => ∀ row : TenantMember, found = some row → row.tenantId = tenantId
  | _, _ => True

def Counted : Flush → Prop
  | ⟨.added _, _⟩ => True
  | ⟨.changed loaded role counted, _⟩ =>
      loaded.role = "owner" → role ≠ "owner" → ∃ owners, counted = some owners ∧ 1 < owners
  | ⟨.removed loaded counted, _⟩ => loaded.role = "owner" → ∃ owners, counted = some owners ∧ 1 < owners

theorem ask_yields (query : Query) : (ask query).Yields answers fun _ => True := by
  apply Yields.select
  exact fun _ _ => trivial

theorem roleExists_yields (tenantId roleKey : String) :
    (roleExists tenantId roleKey).Yields answers fun _ => True := by
  apply Yields.ite
  · exact fun _ => Yields.pure trivial
  · exact fun _ => ask_yields (.role tenantId roleKey)

theorem membership_yields (tenantId userId : String) :
    (membership tenantId userId).Yields answers fun row => row.tenantId = tenantId := by
  apply Yields.bind_select
  intro (found : Option TenantMember) known
  cases found with
  | none => exact Yields.raise
  | some row => exact Yields.pure (known row rfl)

theorem keepOwner_yields (needed : Prop) [Decidable needed] (tenantId : String) :
    (keepOwner needed tenantId).Yields answers
      fun counted => needed → ∃ owners, counted = some owners ∧ 1 < owners := by
  apply Yields.ite
  · intro _
    apply Yields.bind_select
    intro (owners : Nat) _
    apply Yields.check
    intro many
    exact Yields.pure fun _ => ⟨owners, rfl, Nat.lt_of_not_le many⟩
  · exact fun idle => Yields.pure fun needs => absurd needs idle

theorem memberAdd_yields (locale : Locale) (auth : AuthContext) (email : String) (role : Option String) :
    (memberAdd locale auth email role).Yields answers fun result => Counted result.2 := by
  unfold memberAdd
  apply Yields.bind (Yields.ofExcept fun _ _ => trivial)
  intro roleKey _
  apply Yields.check
  intro _
  apply Yields.bind (roleExists_yields _ _)
  intro known _
  apply Yields.check
  intro _
  apply Yields.bind_select
  intro (found : Option AppUser) _
  split
  · exact Yields.raise
  · apply Yields.bind_select
    exact fun _ _ => Yields.pure trivial

theorem memberRoleUpdate_yields (locale : Locale) (auth : AuthContext) (userId role : String) :
    (memberRoleUpdate locale auth userId role).Yields answers fun result => Counted result.2 := by
  apply Yields.bind (membership_yields _ _)
  intro loaded _
  apply Yields.bind (Yields.ofExcept fun _ _ => trivial)
  intro roleKey _
  apply Yields.bind (roleExists_yields _ _)
  intro known _
  apply Yields.check
  intro _
  apply Yields.check
  intro _
  apply Yields.bind (keepOwner_yields _ _)
  intro counted many
  exact Yields.pure fun owner demoted => many ⟨owner, demoted⟩

theorem memberRemove_yields (auth : AuthContext) (userId : String) :
    (memberRemove auth userId).Yields answers fun result => Counted result.2 := by
  apply Yields.bind (membership_yields _ _)
  intro loaded _
  apply Yields.check
  intro _
  apply Yields.bind (keepOwner_yields _ _)
  intro counted many
  exact Yields.pure many

theorem main_composes (locale : Locale) (pid : Nat) (entry : ExecutionContext × Call) :
    Composes answers Counted (main locale pid entry) := by
  apply Yields.commits
  apply Yields.bind (authContext_yields (fun id => ask_yields (.tenant id))
    fun id => ask_yields (.user id))
  intro auth _
  cases entry.2 with
  | add email role =>
    apply Yields.bind (memberAdd_yields locale auth email role)
    exact fun _ counted => Yields.pure counted
  | roleUpdate userId role =>
    apply Yields.bind (memberRoleUpdate_yields locale auth userId role)
    exact fun _ counted => Yields.pure counted
  | remove userId =>
    apply Yields.bind (memberRemove_yields auth userId)
    exact fun _ counted => Yields.pure counted

/-! ### What a commit does to the owners -/

variable {state : State} {tenantId : String}

theorem exists_other_owner (many : 1 < state.owners tenantId) (identity : String × String) : ∃ row ∈ state.members.rows,
      (row.tenantId = tenantId ∧ row.role = "owner") ∧ row.identity ≠ identity := by
  obtain ⟨row, member, counted, other⟩ := Table.exists_other_of_count many identity
  exact ⟨row, member, of_decide_eq_true counted, other⟩

/-- The last-owner check would still pass: the row that is demoted or removed is no owner now, or it is
not the only one. -/
def Rechecked (flush : Flush) (state : State) : Prop :=
  match flush.change with
  | .added _ => True
  | .changed loaded role _ => role ≠ loaded.role → role ≠ "owner" →
      ∀ now ∈ state.members.find loaded.identity, now.role = "owner" → 1 < state.owners loaded.tenantId
  | .removed loaded _ =>
      ∀ now ∈ state.members.find loaded.identity, now.role = "owner" → 1 < state.owners loaded.tenantId

instance (flush : Flush) (state : State) : Decidable (Rechecked flush state) :=
  match flush with
  | ⟨.added _, _⟩ => .isTrue trivial
  | ⟨.changed loaded role _, _⟩ => inferInstanceAs (Decidable (role ≠ loaded.role → role ≠ "owner" →
      ∀ now ∈ state.members.find loaded.identity, now.role = "owner" → 1 < state.owners loaded.tenantId))
  | ⟨.removed loaded _, _⟩ => inferInstanceAs (Decidable
      (∀ now ∈ state.members.find loaded.identity, now.role = "owner" → 1 < state.owners loaded.tenantId))

/-- The row is as it was loaded, and there are as many owners as were counted. -/
def Current (flush : Flush) (state : State) : Prop :=
  match flush.change with
  | .added _ => True
  | .changed loaded _ counted | .removed loaded counted =>
      state.members.find loaded.identity = some loaded ∧ ∀ owners ∈ counted, state.owners loaded.tenantId = owners

theorem many_of_current {loaded : TenantMember} {counted : Option Nat}
    (current : state.members.find loaded.identity = some loaded ∧ ∀ owners ∈ counted, state.owners loaded.tenantId = owners)
    (checked : loaded.role = "owner" → ∃ owners, counted = some owners ∧ 1 < owners) :
    ∀ now ∈ state.members.find loaded.identity, now.role = "owner" → 1 < state.owners loaded.tenantId := by
  intro now found owner
  rw [current.1, Option.mem_some_iff] at found
  obtain ⟨owners, same, many⟩ := checked (found ▸ owner)
  rwa [current.2 owners same]

/-- What the session has counted passes at its commit too, if nothing else has been committed since. -/
theorem rechecked_of_current {flush : Flush} (counted : Counted flush) (current : Current flush state) :
    Rechecked flush state := by
  obtain ⟨change, event⟩ := flush
  cases change with
  | added row => trivial
  | changed loaded role many =>
    intro _ demoted
    exact many_of_current current fun owner => counted owner demoted
  | removed loaded many => exact many_of_current current counted

theorem HasOwner.other {loaded : TenantMember} (holds : state.HasOwner tenantId)
    (kept : ∀ now ∈ state.members.find loaded.identity, now.role = "owner" → 1 < state.owners loaded.tenantId) :
    ∃ row ∈ state.members.rows, (row.tenantId = tenantId ∧ row.role = "owner") ∧ row.identity ≠ loaded.identity := by
  obtain ⟨row, member, own, owner⟩ := holds
  by_cases same : row.identity = loaded.identity
  · have found : state.members.find loaded.identity = some row := by rw [← same, Table.find_of_mem member]
    have tenant : row.tenantId = loaded.tenantId := congrArg Prod.fst same
    rw [← own, tenant]
    exact exists_other_owner (kept row found owner) loaded.identity
  · exact ⟨row, member, ⟨own, owner⟩, same⟩

theorem HasOwner.commit {after : State} {flush : Flush} (holds : state.HasOwner tenantId)
    (rechecked : Rechecked flush state) (committed : commit flush state = some after) : after.HasOwner tenantId := by
  obtain ⟨change, event⟩ := flush
  rw [Members.commit, Option.map_eq_some_iff] at committed
  obtain ⟨middle, applied, rfl⟩ := committed
  suffices middle.HasOwner tenantId from this
  cases change with
  | added row =>
    simp only [Change.apply] at applied
    split at applied
    · cases applied
    · cases applied
      obtain ⟨owner, member, facts⟩ := holds
      exact ⟨owner, Table.mem_insert_of_mem member, facts⟩
  | changed loaded role counted =>
    simp only [Change.apply] at applied
    split at applied
    · cases applied
      exact holds
    · next differs =>
      rw [Option.map_eq_some_iff] at applied
      obtain ⟨now, found, rfl⟩ := applied
      have same : now.identity = loaded.identity := Table.find_key found
      by_cases promoted : role = "owner"
      · -- the written row is an owner itself; every other row is as it was
        obtain ⟨owner, member, own, isOwner⟩ := holds
        by_cases hit : owner.identity = now.identity
        · have tenant : now.tenantId = tenantId := (congrArg Prod.fst hit).symm.trans own
          have present : (state.members.find now.identity).isSome := by rw [same, found, Option.isSome_some]
          exact ⟨{ now with role := role }, Table.mem_replace.mpr (.inr ⟨rfl, present⟩), tenant, promoted⟩
        · exact ⟨owner, Table.mem_replace.mpr (.inl ⟨member, hit⟩), own, isOwner⟩
      · obtain ⟨owner, member, facts, other⟩ := HasOwner.other holds (rechecked differs promoted)
        exact ⟨owner, Table.mem_replace.mpr (.inl ⟨member, same ▸ other⟩), facts⟩
  | removed loaded counted =>
    cases applied
    obtain ⟨owner, member, facts, other⟩ := HasOwner.other holds rechecked
    exact ⟨owner, List.mem_filter.mpr ⟨member, by simpa using other⟩, facts⟩

theorem database_answers (locale : Locale) (query : queries.Op) (drawn : String) (state : State) :
    answers query ((database locale).select query drawn state).1 := by
  cases query with
  | member tenantId userId =>
    intro row found
    exact (Table.first_spec found).2.1
  | _ => trivial

theorem database_reads (locale : Locale) (query : queries.Op) (drawn : String) (state : State) :
    ((database locale).select query drawn state).2 = state := by
  cases query <;> rfl

theorem database_keeps (locale : Locale) (tenantId : String) :
    (database locale).Keeps (·.HasOwner tenantId) answers Counted Rechecked where
  selects query drawn state holds :=
    ⟨database_answers locale query drawn state, (database_reads locale query drawn state).symm ▸ holds⟩
  commits _ _ _ holds _ rechecked committed := HasOwner.commit holds rechecked committed

/-- As long as the last-owner check would still pass at every commit, no interleaving leaves a workspace
without an owner. -/
theorem workspace_keeps_owner (locale : Locale) {tenantId : String} {start : State}
    {moves : List (Move (ExecutionContext × Call) String)}
    {final : Pool (sessions queries Flush) (ExecutionContext × Call) (Except CapabilityError Reply) State}
    (initially : start.HasOwner tenantId)
    (run : Runs (Pool.step (database locale).world (main locale)) ((database locale).admitted Rechecked)
      (Pool.initial start) moves final) : final.shared.HasOwner tenantId :=
  (database_keeps locale tenantId).committed (main_composes locale) initially run

/-- In particular, sessions that commit while what they have read is still so keep an owner. -/
theorem owner_kept_undisturbed (locale : Locale) {start : State} {moves : List (Move (ExecutionContext × Call) String)}
    {final : Pool (sessions queries Flush) (ExecutionContext × Call) (Except CapabilityError Reply) State}
    (initially : start.HasOwner tenantId)
    (run : Runs (Pool.step (database locale).world (main locale)) ((database locale).admitted Current)
      (Pool.initial start) moves final) : final.shared.HasOwner tenantId := by
  have keeps : (database locale).Keeps (·.HasOwner tenantId) answers Counted Current :=
    { selects := (database_keeps locale tenantId).selects
      commits := fun _ _ _ holds counted current committed =>
        HasOwner.commit holds (rechecked_of_current counted current) committed }
  exact keeps.committed (main_composes locale) initially run

def english : Locale where
  isAlnum c := c.isAlphanum
  lowerSql := lower

def asOwner (userId : String) : ExecutionContext where
  workspaceId := some "workspace"
  userId := some userId
  role := "owner"
  permissions := []
  channel := "web"
  surface := .workspacePrivate
  conversationId := none
  metadata := []
  scopeKind := .workspace
  principalId := none
  workspaceMode := "full"

def shared : State where
  directory := ⟨["workspace"], [⟨"ada", "ada@example.com", "Ada", true⟩, ⟨"ben", "ben@example.com", "", true⟩]⟩
  roles := []
  members := [⟨"1", "workspace", "ada", "owner"⟩, ⟨"2", "workspace", "ben", "owner"⟩].foldl .insert .empty
  events := []

def handedOver : List (Move (ExecutionContext × Call) String) :=
  [.start 0 (asOwner "ada", .roleUpdate "ben" "Manager"), .act 0 "", .act 0 "", .act 0 "", .act 0 "", .act 0 "",
    .start 1 (asOwner "ada", .remove "ben"), .act 1 "", .act 1 "", .act 1 "", .act 1 ""]

theorem handedOver_checked : (handedOver.foldlM (fun pool move =>
    if (database english).checked (fun flush state => Rechecked flush state) pool move then
      pool.step (database english).world (main english) move else none) (Pool.initial shared)).map
        (fun pool => (pool.shared.members.rows.map TenantMember.userId, pool.shared.events.length)) =
          some (["ada"], 2) := by
  decide

theorem workspace_keeps_owner_handed : ∃ final, final.shared.HasOwner "workspace" ∧
    Runs (Pool.step (database english).world (main english)) ((database english).admitted Rechecked)
      (Pool.initial shared) handedOver final := by
  obtain ⟨final, evaluated, _⟩ := Option.map_eq_some_iff.mp handedOver_checked
  have run := Runs.of_checked (Database.admitted_of_checked fun _ _ => of_decide_eq_true) evaluated
  exact ⟨final, workspace_keeps_owner english (by decide) run, run⟩

/-- Each owner removes the other, and both are counted before either commits. -/
def crossed : List (Move (ExecutionContext × Call) String) :=
  [.start 0 (asOwner "ada", .remove "ben"), .start 1 (asOwner "ben", .remove "ada"),
    .act 0 "", .act 0 "", .act 0 "", .act 0 "", .act 1 "", .act 1 "", .act 1 "", .act 1 "", .act 0 "", .act 1 ""]

theorem crossed_removes : (crossed.foldlM (Pool.step (database english).world (main english))
    (Pool.initial shared)).map (fun pool => decide (pool.shared.HasOwner "workspace")) = some false := by
  decide

theorem crossed_removals_leave_no_owner : shared.HasOwner "workspace" ∧
    ∃ final, Runs (Pool.step (database english).world (main english)) (fun _ _ => True) (Pool.initial shared)
      crossed final ∧ ¬ final.shared.HasOwner "workspace" := by
  refine ⟨by decide, ?_⟩
  obtain ⟨final, evaluated, lost⟩ := Option.map_eq_some_iff.mp crossed_removes
  exact ⟨final, .of_foldlM evaluated, of_decide_eq_false lost⟩

end Operly.Workspace.Members
