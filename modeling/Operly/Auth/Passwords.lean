import Operly.Auth.Session

/-! The end of a password: a login verifies a hash that it has read earlier, and opens a session and may write
an upgraded hash later; a change revokes the sessions that it has found open earlier. -/

namespace Operly.Auth
open Python Concurrent Relational

/-! ### The record -/

def latest : List Entry → String → Option String
  | [], _ => none
  | .passwordSet id password :: rest, userId => if id = userId then some password else latest rest userId
  | _ :: rest, userId => latest rest userId

/-- A password has been replaced by a different one before `later`, and is not set again in it. -/
def EndedBefore (log later : List Entry) (userId password : String) : Prop :=
  ∃ new earlier, log = later ++ .passwordSet userId new :: earlier ∧ new ≠ password ∧
    .passwordSet userId password ∉ later

variable {later : List Entry} {userId password : String}

theorem latest_of_ended {log : List Entry} (ended : EndedBefore log later userId password) :
    ∃ now, latest log userId = some now ∧ now ≠ password := by
  obtain ⟨new, earlier, rfl, differs, unset⟩ := ended
  induction later with
  | nil => exact ⟨new, if_pos rfl, differs⟩
  | cons entry rest ih =>
    have before := ih fun present => unset (List.mem_cons_of_mem entry present)
    cases entry with
    | passwordSet id set' =>
      by_cases own : id = userId
      · refine ⟨set', if_pos own, fun same => unset ?_⟩
        rw [own, same]
        exact List.mem_cons_self
      · obtain ⟨now, found, other⟩ := before
        exact ⟨now, (if_neg own).trans found, other⟩
    | compared id => exact before
    | accepted id => exact before
    | signedIn id sessionId set' => exact before

def Agreeing : List Entry → Prop
  | [] => True
  | .signedIn userId _ password :: rest => (∀ now, latest rest userId = some now → now = password) ∧ Agreeing rest
  | _ :: rest => Agreeing rest

theorem Agreeing.login {earlier : List Entry} {sessionId : String}
    (agreeing : Agreeing (later ++ .signedIn userId sessionId password :: earlier)) :
    ∀ now, latest earlier userId = some now → now = password := by
  induction later with
  | nil => exact agreeing.1
  | cons entry rest ih =>
    cases entry with
    | signedIn id other set' => exact ih agreeing.2
    | compared id => exact ih agreeing
    | accepted id => exact ih agreeing
    | passwordSet id set' => exact ih agreeing

theorem Agreeing.ended {log : List Entry} (agreeing : Agreeing log) (ended : EndedBefore log later userId password)
    (sessionId : String) : .signedIn userId sessionId password ∉ later := by
  intro member
  obtain ⟨new, earlier, rfl, differs, unset⟩ := ended
  obtain ⟨after, before, rfl⟩ := List.append_of_mem member
  have stillEnded : EndedBefore (before ++ .passwordSet userId new :: earlier) before userId password :=
    ⟨new, earlier, rfl, differs, fun present => unset (List.mem_append_right _ (List.mem_cons_of_mem _ present))⟩
  obtain ⟨now, found, other⟩ := latest_of_ended stillEnded
  rw [List.append_assoc, List.cons_append] at agreeing
  exact other (agreeing.login now found)

section Primitives
variable (primitives : Primitives)

def accepts (password : String) (stored : Option String) : Bool :=
  (verifyAndUpdatePassword primitives "" password stored).valid

def Apart (passwords : List String) : Prop :=
  ∀ password ∈ passwords, ∀ other ∈ passwords, ∀ salt,
    accepts primitives password (some (hashPassword primitives salt other)) = true → password = other

/-- A password that has ended opens nothing: no login has used it since, the stored hash does not accept it,
and every session that it has opened is revoked. -/
structure Ends (state : State) (later : List Entry) (userId password : String) : Prop where
  logins : ∀ sessionId, .signedIn userId sessionId password ∉ later
  hash : ∀ row ∈ state.users.find userId, accepts primitives password row.passwordHash = false
  sessions : ∀ session ∈ state.sessions.rows, session.revokedAt = none →
    .signedIn userId session.id password ∉ state.log

def openedOtherwise (log : List Entry) (userId password sessionId : String) : Bool :=
  log.any fun
    | .signedIn id opened other => id = userId ∧ opened = sessionId ∧ other ≠ password
    | _ => false

/-- The hash that a login finds at its commit accepts its password still, and a new password revokes every open
session that a login with another one has opened. -/
def Settled (passwords : List String) : Change → State → Prop
  | .signedIn user password .., state =>
      password ∈ passwords ∧ ∃ row ∈ state.users.find user.id, accepts primitives password row.passwordHash = true
  | .passwordSet _ user password _ _ _ revoked _ _, state =>
      password ∈ passwords ∧ ∀ session ∈ state.sessions.rows, session.revokedAt = none →
        openedOtherwise state.log user.id password session.id = true → session.id ∈ revoked
  | _, _ => True

instance (passwords : List String) (change : Change) (state : State) : Decidable (Settled primitives passwords change state) :=
  match change with
  | .signedIn user password _ _ _ _ => inferInstanceAs (Decidable (password ∈ passwords ∧
      ∃ row ∈ state.users.find user.id, accepts primitives password row.passwordHash = true))
  | .passwordSet _ user password _ _ _ revoked _ _ => inferInstanceAs (Decidable (password ∈ passwords ∧
      ∀ session ∈ state.sessions.rows, session.revokedAt = none →
        openedOtherwise state.log user.id password session.id = true → session.id ∈ revoked))
  | .compared _ | .audited _ | .touched .. | .failed .. | .verified .. => .isTrue trivial

end Primitives

/-! ### What the commits keep -/

section Invariant
variable {primitives : Primitives} {passwords : List String} {known : AuthChallenge → Prop} {log : List Entry}
  {users : Table AppUser String AppUser.id} {sessions : Table AuthSession String AuthSession.id}

def Hashed (primitives : Primitives) (passwords : List String) (log : List Entry)
    (users : Table AppUser String AppUser.id) : Prop :=
  ∀ row ∈ users.rows, ∀ password ∈ passwords, accepts primitives password row.passwordHash = true →
    ∀ now, latest log row.id = some now → now = password

def Standing (log : List Entry) (sessions : Table AuthSession String AuthSession.id) : Prop :=
  ∀ session ∈ sessions.rows, session.revokedAt = none → ∀ userId password,
    .signedIn userId session.id password ∈ log → ∀ now, latest log userId = some now → now = password

def Recorded (log : List Entry) (sessions : Table AuthSession String AuthSession.id) : Prop :=
  ∀ userId sessionId password, .signedIn userId sessionId password ∈ log → (sessions.find sessionId).isSome

def Owned (log : List Entry) (sessions : Table AuthSession String AuthSession.id) : Prop :=
  ∀ session ∈ sessions.rows, ∀ userId password, .signedIn userId session.id password ∈ log → session.userId = userId

structure Current (primitives : Primitives) (passwords : List String) (log : List Entry)
    (users : Table AppUser String AppUser.id) (sessions : Table AuthSession String AuthSession.id) : Prop where
  hashed : Hashed primitives passwords log users
  standing : Standing log sessions
  recorded : Recorded log sessions
  owned : Owned log sessions
  agreeing : Agreeing log

namespace Current
variable (current : Current primitives passwords log users sessions)
include current

theorem challenge {entry : Entry} {id : String} (about : entry = .compared id ∨ entry = .accepted id) :
    Current primitives passwords (entry :: log) users sessions := by
  have same : ∀ userId, latest (entry :: log) userId = latest log userId := by
    intro userId
    cases about with
    | inl compared => exact compared ▸ rfl
    | inr accepted => exact accepted ▸ rfl
  have old : ∀ userId sessionId password, Entry.signedIn userId sessionId password ∈ entry :: log →
      Entry.signedIn userId sessionId password ∈ log := by
    intro userId sessionId password member
    cases List.mem_cons.mp member with
    | inl new => rcases about with compared | accepted <;> cases new.trans ‹entry = _›
    | inr present => exact present
  constructor
  · intro row member password known accepted
    rw [same]
    exact current.hashed row member password known accepted
  · intro session member unrevoked userId password login
    rw [same]
    exact current.standing session member unrevoked userId password (old _ _ _ login)
  · exact fun userId sessionId password login => current.recorded userId sessionId password (old _ _ _ login)
  · exact fun session member userId password login => current.owned session member userId password (old _ _ _ login)
  · cases about with
    | inl compared => exact compared ▸ current.agreeing
    | inr accepted => exact accepted ▸ current.agreeing

theorem updateUser {row : AppUser} (hash : ∀ password ∈ passwords, accepts primitives password row.passwordHash = true →
    ∀ now, latest log row.id = some now → now = password) :
    Current primitives passwords log (users.replace row) sessions where
  hashed := by
    intro other member
    cases Table.mem_replace.mp member with
    | inl old => exact current.hashed other old.1
    | inr new => exact new.1 ▸ hash
  standing := current.standing
  recorded := current.recorded
  owned := current.owned
  agreeing := current.agreeing

theorem touch {row now : AuthSession} (found : sessions.find row.id = some now) (same : row.revokedAt = now.revokedAt)
    (own : row.userId = now.userId) :
    Current primitives passwords log users (sessions.replace row) where
  hashed := current.hashed
  standing := by
    intro session member unrevoked
    cases Table.mem_replace.mp member with
    | inl old => exact current.standing session old.1 unrevoked
    | inr new =>
      rw [new.1, same] at unrevoked
      rw [new.1, ← Table.find_key found]
      exact current.standing now (Table.find_mem found) unrevoked
  recorded := by
    intro userId sessionId password login
    have present := current.recorded userId sessionId password login
    rw [Table.find_replace]
    split
    · rw [Option.isSome_map]
      exact present
    · exact present
  owned := by
    intro session member
    cases Table.mem_replace.mp member with
    | inl old => exact current.owned session old.1
    | inr new =>
      rw [new.1, own, ← Table.find_key found]
      exact current.owned now (Table.find_mem found)
  agreeing := current.agreeing

variable {session : AuthSession}

theorem fresh (absent : sessions.find session.id = none) (userId password : String) :
    .signedIn userId session.id password ∉ log := by
  intro login
  have present := current.recorded userId session.id password login
  rw [absent] at present
  cases present

theorem openSession (absent : sessions.find session.id = none) :
    Current primitives passwords log users (sessions.insert session) where
  hashed := current.hashed
  standing := by
    intro other member unrevoked userId password login
    rw [Table.insert_rows absent, List.mem_append, List.mem_singleton] at member
    cases member with
    | inl old => exact current.standing other old unrevoked userId password login
    | inr new => exact absurd (new ▸ login) (current.fresh absent userId password)
  recorded := by
    intro userId sessionId password login
    rw [Table.find_insert, Option.isSome_or, current.recorded userId sessionId password login, Bool.true_or]
  owned := by
    intro other member userId password login
    rw [Table.insert_rows absent, List.mem_append, List.mem_singleton] at member
    cases member with
    | inl old => exact current.owned other old userId password login
    | inr new => exact absurd (new ▸ login) (current.fresh absent userId password)
  agreeing := current.agreeing

theorem signIn (absent : sessions.find session.id = none) (own : session.userId = userId)
    (agrees : ∀ now, latest log userId = some now → now = password) :
    Current primitives passwords (.signedIn userId session.id password :: log) users (sessions.insert session) where
  hashed := current.hashed
  standing := by
    intro other member unrevoked id word login
    rw [Table.insert_rows absent, List.mem_append, List.mem_singleton] at member
    cases List.mem_cons.mp login with
    | inl new =>
      rw [Entry.signedIn.injEq] at new
      rw [new.1, new.2.2]
      exact agrees
    | inr old =>
      cases member with
      | inl present => exact current.standing other present unrevoked id word old
      | inr added => exact absurd (added ▸ old) (current.fresh absent id word)
  recorded := by
    intro id sessionId word login
    rw [Table.find_insert, Option.isSome_or, Bool.or_eq_true]
    cases List.mem_cons.mp login with
    | inl new =>
      rw [Entry.signedIn.injEq] at new
      right
      rw [if_pos new.2.1, Option.isSome_some]
    | inr old => exact .inl (current.recorded id sessionId word old)
  owned := by
    intro other member id word login
    rw [Table.insert_rows absent, List.mem_append, List.mem_singleton] at member
    cases List.mem_cons.mp login with
    | inl new =>
      rw [Entry.signedIn.injEq] at new
      cases member with
      | inl present =>
        have found := Table.find_of_mem present
        rw [new.2.1, absent] at found
        cases found
      | inr added => rw [added, own, new.1]
    | inr old =>
      cases member with
      | inl present => exact current.owned other present id word old
      | inr added => exact absurd (added ▸ old) (current.fresh absent id word)
  agreeing := ⟨agrees, current.agreeing⟩

theorem revoke {fewer : Table AuthSession String AuthSession.id}
    (opened : ∀ session ∈ fewer.rows, session.revokedAt = none → session ∈ sessions.rows)
    (kept : ∀ id, (fewer.find id).isSome = (sessions.find id).isSome)
    (same : ∀ session ∈ fewer.rows, ∃ old ∈ sessions.rows, old.id = session.id ∧ old.userId = session.userId) :
    Current primitives passwords log users fewer where
  hashed := current.hashed
  standing session member unrevoked := current.standing session (opened session member unrevoked) unrevoked
  recorded userId sessionId password login := (kept sessionId).trans (current.recorded userId sessionId password login)
  owned session member userId password login := by
    obtain ⟨old, present, id, user⟩ := same session member
    exact user ▸ current.owned old present userId password (id ▸ login)
  agreeing := current.agreeing

theorem setPassword {row : AppUser} (own : row.id = userId)
    (hash : ∀ other ∈ passwords, accepts primitives other row.passwordHash = true → other = password)
    (opened : ∀ session ∈ sessions.rows, session.revokedAt = none → ∀ other,
      .signedIn userId session.id other ∈ log → other = password) :
    Current primitives passwords (.passwordSet userId password :: log) (users.replace row) sessions where
  hashed := by
    intro other member word known accepted now found
    cases Table.mem_replace.mp member with
    | inl old =>
      rw [latest, if_neg (own ▸ Ne.symm old.2)] at found
      exact current.hashed other old.1 word known accepted now found
    | inr new =>
      rw [new.1] at accepted found
      rw [latest, if_pos own.symm, Option.some.injEq] at found
      rw [← found, hash word known accepted]
  standing := by
    intro session member unrevoked id word login now found
    have old : Entry.signedIn id session.id word ∈ log := by
      cases List.mem_cons.mp login with
      | inl absurd => cases absurd
      | inr old => exact old
    by_cases same : userId = id
    · rw [latest, if_pos same, Option.some.injEq] at found
      rw [← found, opened session member unrevoked word (same ▸ old)]
    · rw [latest, if_neg same] at found
      exact current.standing session member unrevoked id word old now found
  recorded := by
    intro id sessionId word login
    cases List.mem_cons.mp login with
    | inl absurd => cases absurd
    | inr old => exact current.recorded id sessionId word old
  owned := by
    intro session member id word login
    cases List.mem_cons.mp login with
    | inl absurd => cases absurd
    | inr old => exact current.owned session member id word old
  agreeing := current.agreeing

end Current

variable {state after : State} {password : String}

theorem openedOtherwise_of_mem {sessionId other : String} (differs : other ≠ password)
    (login : .signedIn userId sessionId other ∈ log) : openedOtherwise log userId password sessionId = true :=
  List.any_eq_true.mpr ⟨_, login, by simp [differs]⟩

theorem Current.commit_signedIn {user : AppUser} {upgradedHash : Option String} {at' : Int} {session : AuthSession}
    {event : SecurityEvent} (apart : Apart primitives passwords)
    (current : Current primitives passwords state.log state.users state.sessions)
    (composed : Composed primitives known (.signedIn user password upgradedHash at' session event))
    (settled : Settled primitives passwords (.signedIn user password upgradedHash at' session event) state)
    (committed : commit (.signedIn user password upgradedHash at' session event) state = some after) :
    Current primitives passwords after.log after.users after.sessions := by
  obtain ⟨_, upgrade, ⟨absent, opened⟩, log⟩ := Auth.commit_signedIn committed
  obtain ⟨known, row, present, accepted⟩ := settled
  have agrees : ∀ now, latest state.log user.id = some now → now = password := by
    rw [← Table.find_key present]
    exact current.hashed row (Table.find_mem present) password known accepted
  suffices kept : Current primitives passwords state.log after.users state.sessions by
    rw [log, opened]
    exact kept.signIn absent composed.1 agrees
  rcases upgrade with ⟨_, accounts⟩ | ⟨hash, now, upgraded, found, accounts⟩
  · rw [accounts]
    exact current
  · obtain ⟨salt, rfl⟩ := composed.2.2 hash upgraded
    rw [accounts]
    apply current.updateUser
    intro other listed acceptsOther newest isLatest
    have same : other = password := apart other listed password known salt acceptsOther
    have own : now.id = user.id := Table.find_key found
    rw [same]
    exact agrees newest (own ▸ isLatest)

theorem Current.commit_passwordSet {challenge : Option AuthChallenge} {user : AppUser} {hash : String} {at' : Int}
    {identity : Option AuthIdentity} {revoked : List String} {session : AuthSession} {event : SecurityEvent}
    (apart : Apart primitives passwords) (current : Current primitives passwords state.log state.users state.sessions)
    (composed : Composed primitives known (.passwordSet challenge user password hash at' identity revoked session event))
    (settled : Settled primitives passwords (.passwordSet challenge user password hash at' identity revoked session event)
      state)
    (committed : commit (.passwordSet challenge user password hash at' identity revoked session event) state =
      some after) : Current primitives passwords after.log after.users after.sessions := by
  obtain ⟨proof, ⟨now, found, accounts⟩, absent, opened⟩ := Auth.commit_passwordSet committed
  obtain ⟨listed, revokes⟩ := settled
  obtain ⟨salt, rfl⟩ := composed
  have own : now.id = user.id := Table.find_key found
  -- the record up to the new password: the challenge of a reset stands in between
  obtain ⟨before, kept, logins, log⟩ : ∃ before, Current primitives passwords before state.users state.sessions ∧
      (∀ userId sessionId word, Entry.signedIn userId sessionId word ∈ before →
        .signedIn userId sessionId word ∈ state.log) ∧ after.log = .passwordSet user.id password :: before := by
    rcases proof with ⟨_, _, log⟩ | ⟨proved, _, _, _, _, log⟩
    · exact ⟨state.log, current, fun _ _ _ member => member, log⟩
    · refine ⟨_, current.challenge (.inr rfl), fun _ _ _ member => ?_, log⟩
      exact (List.mem_cons.mp member).resolve_left fun absurd => by cases absurd
  have fewer : Current primitives passwords before state.users (state.revoke revoked at').sessions := by
    apply kept.revoke
    · exact fun row member unrevoked => (State.open_of_revoke member unrevoked).1
    · intro id
      rw [State.revoke, Table.find_modify, Option.isSome_map]
    · intro row member
      obtain ⟨old, present, same⟩ := List.mem_map.mp member
      refine ⟨old, present, ?_⟩
      rw [← same]
      split <;> exact ⟨rfl, rfl⟩
  rw [log, accounts, opened]
  apply Current.openSession _ absent
  refine fewer.setPassword ?_ ?_ ?_
  · exact own
  · exact fun other known accepted => apart other known password listed salt accepted
  · intro row member unrevoked other login
    obtain ⟨present, spared⟩ := State.open_of_revoke member unrevoked
    by_contra differs
    exact spared (revokes row present unrevoked (openedOtherwise_of_mem differs (logins _ _ _ login)))

theorem Current.commit {change : Change} (apart : Apart primitives passwords)
    (current : Current primitives passwords state.log state.users state.sessions)
    (composed : Composed primitives known change) (settled : Settled primitives passwords change state)
    (committed : commit change state = some after) :
    Current primitives passwords after.log after.users after.sessions := by
  cases change with
  | compared loaded =>
    cases committed
    exact current.challenge (.inl rfl)
  | audited event =>
    cases committed
    exact current
  | touched session lastActivityAt =>
    obtain ⟨now, found, rfl⟩ := Option.map_eq_some_iff.mp committed
    have own : state.sessions.find now.id = some now := by rw [Table.find_key found, found]
    exact current.touch own rfl rfl
  | failed loaded attemptCount consumedAt event =>
    obtain ⟨now, found, rfl⟩ := Option.map_eq_some_iff.mp committed
    exact current
  | verified challenge others user at' session events =>
    obtain ⟨_, ⟨now, found, accounts⟩, ⟨absent, opened⟩, log⟩ := commit_verified committed
    have kept : Current primitives passwords state.log after.users state.sessions := by
      rw [accounts]
      exact current.updateUser (current.hashed now (Table.find_mem found))
    rw [log, opened]
    exact (kept.openSession absent).challenge (.inr rfl)
  | signedIn user password upgradedHash at' session event => exact current.commit_signedIn apart composed settled committed
  | passwordSet challenge user password hash at' identity revoked session event =>
    exact current.commit_passwordSet apart composed settled committed

theorem Current.ends (current : Current primitives passwords state.log state.users state.sessions)
    (known : password ∈ passwords) (ended : EndedBefore state.log later userId password) :
    Ends primitives state later userId password where
  logins := current.agreeing.ended ended
  hash := by
    intro row found
    obtain ⟨now, isLatest, other⟩ := latest_of_ended ended
    by_contra accepted
    rw [← Table.find_key found] at isLatest
    exact other (current.hashed row (Table.find_mem found) password known (by simpa using accepted) now isLatest)
  sessions := by
    intro session member unrevoked login
    obtain ⟨now, isLatest, other⟩ := latest_of_ended ended
    exact other (current.standing session member unrevoked userId password login now isLatest)

end Invariant

/-! ### Every run -/

theorem selects_read (query : queries.Op) (drawn : Drawn) (state : State) : (database.select query drawn state).2 = state := by
  cases query <;> rfl

theorem answers_anything (query : queries.Op) (answer : queries.Answer query) : answers (fun _ => True) query answer := by
  cases query <;> first | trivial | exact fun _ _ => trivial

theorem database_settles {primitives : Primitives} {passwords : List String} (apart : Apart primitives passwords) :
    database.Keeps (fun state => Current primitives passwords state.log state.users state.sessions)
      (answers fun _ => True) (Composed primitives fun _ => True) (Settled primitives passwords) where
  selects query drawn state current :=
    ⟨answers_anything query _, (selects_read query drawn state).symm ▸ current⟩
  commits _ _ _ current composed settled committed := current.commit apart composed settled committed

theorem Current.initial (primitives : Primitives) (passwords : List String) (users : Table AppUser String AppUser.id)
    (sessions : Table AuthSession String AuthSession.id) : Current primitives passwords [] users sessions where
  hashed := fun _ _ _ _ _ _ absent => by cases absent
  standing := fun _ _ _ _ _ absent => by cases absent
  recorded := fun _ _ _ absent => by cases absent
  owned := fun _ _ _ _ absent => by cases absent
  agreeing := trivial

/-- As long as no login and no new password of a user overlap harmfully, a password that has been replaced opens
nothing any more. -/
theorem replaced_password_ends {primitives : Primitives} {passwords : List String} (apart : Apart primitives passwords)
    {start : State} {moves : List (Move Call Drawn)}
    {final : Pool (sessions queries Change) Call (Except AuthError (Except AuthError Reply)) State} (unused : start.log = [])
    (run : Runs (Pool.step database.world (main primitives)) (database.admitted (Settled primitives passwords))
      (Pool.initial start) moves final) {userId password : String} (used : password ∈ passwords) {later : List Entry}
    (ended : EndedBefore final.shared.log later userId password) : Ends primitives final.shared later userId password := by
  have initially : Current primitives passwords start.log start.users start.sessions :=
    unused ▸ Current.initial primitives passwords start.users start.sessions
  exact ((database_settles apart).committed main_composes initially run).ends used ended

/-- What a session has read is still so at its commit: the user whose password it has verified, or the open
sessions that it has found. -/
def Undisturbed (passwords : List String) : Change → State → Prop
  | .signedIn user password .., state => password ∈ passwords ∧ state.users.find user.id = some user
  | .passwordSet _ user password _ _ _ revoked _ _, state =>
      password ∈ passwords ∧ (database.select (.openSessions user.id) {} state).1 = revoked
  | _, _ => True

theorem settled_of_undisturbed {primitives : Primitives} {passwords : List String} {known : AuthChallenge → Prop}
    {state : State} {change : Change} (current : Current primitives passwords state.log state.users state.sessions)
    (composed : Composed primitives known change) (undisturbed : Undisturbed passwords change state) :
    Settled primitives passwords change state := by
  cases change with
  | signedIn user password => exact ⟨undisturbed.1, user, undisturbed.2, composed.2.1 ""⟩
  | passwordSet challenge user password hash at' identity revoked =>
    obtain ⟨listed, selected⟩ := undisturbed
    refine ⟨listed, fun row member opened found => ?_⟩
    obtain ⟨entry, login, other⟩ := List.any_eq_true.mp found
    cases entry with
    | signedIn id sessionId word =>
      obtain ⟨rfl, rfl, -⟩ := of_decide_eq_true other
      have own : row.userId = user.id := current.owned row member user.id word login
      rw [← selected]
      exact List.mem_map.mpr ⟨row, List.mem_filter.mpr ⟨member, decide_eq_true ⟨own, opened⟩⟩, rfl⟩
    | _ => cases other
  | _ => trivial

/-- In particular, a password that has been replaced opens nothing when no commit comes between what a session reads
and its own. -/
theorem replaced_password_ends_undisturbed {primitives : Primitives} {passwords : List String}
    (apart : Apart primitives passwords) {start : State} {moves : List (Move Call Drawn)}
    {final : Pool (sessions queries Change) Call (Except AuthError (Except AuthError Reply)) State} (unused : start.log = [])
    (run : Runs (Pool.step database.world (main primitives)) (database.admitted (Undisturbed passwords))
      (Pool.initial start) moves final) {userId password : String} (used : password ∈ passwords) {later : List Entry}
    (ended : EndedBefore final.shared.log later userId password) : Ends primitives final.shared later userId password := by
  have keeps : database.Keeps (fun state => Current primitives passwords state.log state.users state.sessions)
      (answers fun _ => True) (Composed primitives fun _ => True) (Undisturbed passwords) :=
    { selects := (database_settles apart).selects
      commits := fun _ _ _ current composed undisturbed committed =>
        current.commit apart composed (settled_of_undisturbed current composed undisturbed) committed }
  exact (keeps.committed main_composes (unused ▸ Current.initial primitives passwords start.users start.sessions) run).ends
    used ended

def oldPassword : String := "correct horse battery"
def newPassword : String := "another horse battery"

def opening (password : String) : List Char := ("$argon2id$" ++ password ++ "$").toList

theorem accepts_legible {other salt : String}
    (accepted : accepts legible password (some (hashPassword legible salt other)) = true) :
    (opening password).isPrefixOf (opening other ++ salt.toList) = true := by
  have stored : (hashPassword legible salt other).toList = opening other ++ salt.toList := String.toList_append
  have present : startsWith (hashPassword legible salt other) "$argon2id$" = true := by
    rw [startsWith, stored, opening, String.toList_append, String.toList_append, List.append_assoc, List.append_assoc,
      List.isPrefixOf_iff_prefix]
    exact List.prefix_append _ _
  have nonempty : hashPassword legible salt other ≠ "" := by
    intro empty
    rw [empty] at present
    revert present
    decide
  rw [accepts, verifyAndUpdatePassword, Option.filter_some, if_pos (by simpa using nonempty)] at accepted
  dsimp only at accepted
  split at accepted
  · cases accepted
  · rw [← stored]
    exact accepted

theorem passwords_apart : Apart legible [oldPassword, newPassword] := by
  intro password listed other known salt accepted
  have found : opening password <+: opening other ++ salt.toList := List.isPrefixOf_iff_prefix.mp (accepts_legible accepted)
  obtain ⟨rest, same⟩ := found
  have lengths : ∀ password ∈ [oldPassword, newPassword], ∀ other ∈ [oldPassword, newPassword],
      (opening password).length = (opening other).length := by decide
  have injective : ∀ password ∈ [oldPassword, newPassword], ∀ other ∈ [oldPassword, newPassword],
      opening password = opening other → password = other := by decide
  exact injective password listed other known (List.append_inj_left same (lengths password listed other known))

def migrated : State where
  users := [⟨"ada", "ada@example.com", some "pbkdf2_sha256$600000$salt$saltcorrect horse battery", some 0, true, 0⟩].foldl
    .insert .empty
  identities := [⟨"ada", "password", "ada@example.com", some "ada@example.com"⟩]
  challenges := .empty
  sessions := [⟨"browser", "session(cookie)", "csrf(cookie)", "ada", none, 0, 1000, 0, none, 0⟩].foldl .insert .empty
  members := []
  events := []
  log := []

def logsIn (pid : Nat) (password : String) : Move Call Drawn := .start pid (.login "ada@example.com" password)

def steps (count pid : Nat) (text : String) : List (Move Call Drawn) := List.replicate count (.act pid { text := text })

def changes (pid : Nat) : Move Call Drawn := .start pid (.changePassword (some "cookie") (some oldPassword) newPassword)

def inTurn : List (Move Call Drawn) :=
  logsIn 0 oldPassword :: steps 10 0 "first" ++ changes 1 :: steps 15 1 "changed" ++
    logsIn 2 newPassword :: steps 10 2 "second"

def overtaken : List (Move Call Drawn) :=
  logsIn 0 oldPassword :: steps 9 0 "first" ++ changes 1 :: steps 15 1 "changed" ++ steps 1 0 "first"

def again : List (Move Call Drawn) := logsIn 2 oldPassword :: steps 10 2 "second"

theorem inTurn_checked : (inTurn.foldlM (fun pool move =>
    if database.checked (fun change state => Settled legible [oldPassword, newPassword] change state) pool move then
      pool.step database.world (main legible) move else none) (Pool.initial migrated)).map (fun pool => pool.shared.log) =
        some [.signedIn "ada" "second" newPassword, .passwordSet "ada" newPassword, .signedIn "ada" "first" oldPassword] := by
  decide +kernel

theorem replaced_password_ends_in_turn : ∃ final, Ends legible final.shared [.signedIn "ada" "second" newPassword] "ada"
      oldPassword ∧
    Runs (Pool.step database.world (main legible)) (database.admitted (Settled legible [oldPassword, newPassword]))
      (Pool.initial migrated) inTurn final := by
  obtain ⟨final, evaluated, log⟩ := Option.map_eq_some_iff.mp inTurn_checked
  have run := Runs.of_checked (Database.admitted_of_checked fun _ _ => of_decide_eq_true) evaluated
  have ended : EndedBefore final.shared.log [.signedIn "ada" "second" newPassword] "ada" oldPassword :=
    ⟨newPassword, [.signedIn "ada" "first" oldPassword], log, by decide, by decide⟩
  exact ⟨final, replaced_password_ends passwords_apart rfl run (by decide) ended, run⟩

def succeeded (pool : Pool (sessions queries Change) Call (Except AuthError (Except AuthError Reply)) State) (pid : Nat) : Bool :=
  match pool.tasks pid with
  | some ⟨_, some (.done (.ok (.ok _)))⟩ => true
  | _ => false

def Reopened (middle final : Pool (sessions queries Change) Call (Except AuthError (Except AuthError Reply)) State) : Prop :=
  middle.shared.log = [.signedIn "ada" "first" oldPassword, .passwordSet "ada" newPassword] ∧
    final.shared.log = [.signedIn "ada" "second" oldPassword, .signedIn "ada" "first" oldPassword,
      .passwordSet "ada" newPassword] ∧
    (∀ pid ∈ [0, 1, 2], succeeded final pid = true) ∧
    ∃ session ∈ final.shared.sessions.rows, session.revokedAt = none ∧ session.id = "first"

instance (middle final : Pool (sessions queries Change) Call (Except AuthError (Except AuthError Reply)) State) :
    Decidable (Reopened middle final) :=
  inferInstanceAs (Decidable (_ ∧ _ ∧ (∀ pid ∈ [0, 1, 2], _) ∧ ∃ session ∈ final.shared.sessions.rows, _ ∧ _))

theorem overtaken_reopens : (overtaken.foldlM (Pool.step database.world (main legible)) (Pool.initial migrated)).bind
    (fun middle => (again.foldlM (Pool.step database.world (main legible)) middle).map
      fun final => decide (Reopened middle final)) = some true := by
  decide +kernel

theorem overtaken_password_lives : Apart legible [oldPassword, newPassword] ∧ migrated.log = [] ∧
    ∃ middle final, Runs (Pool.step database.world (main legible)) (fun _ _ => True) (Pool.initial migrated) overtaken
        middle ∧
      Runs (Pool.step database.world (main legible)) (fun _ _ => True) middle again final ∧
      EndedBefore middle.shared.log [.signedIn "ada" "first" oldPassword] "ada" oldPassword ∧
      EndedBefore final.shared.log [.signedIn "ada" "second" oldPassword, .signedIn "ada" "first" oldPassword] "ada"
        oldPassword ∧
      -- every request has finished, the last one with a login that started after the change
      (∀ pid ∈ [0, 1, 2], succeeded final pid = true) ∧
      .signedIn "ada" "first" oldPassword ∈ final.shared.log ∧
      ∃ session ∈ final.shared.sessions.rows, session.revokedAt = none ∧ session.id = "first" := by
  refine ⟨passwords_apart, rfl, ?_⟩
  obtain ⟨middle, first, evaluated⟩ := Option.bind_eq_some_iff.mp overtaken_reopens
  obtain ⟨final, second, reopened⟩ := Option.map_eq_some_iff.mp evaluated
  obtain ⟨before, after, finished, opened⟩ := of_decide_eq_true reopened
  refine ⟨middle, final, .of_foldlM first, .of_foldlM second, ?_, ?_, finished, ?_, opened⟩
  · rw [before]
    exact ⟨newPassword, [], rfl, by decide, by decide⟩
  · rw [after]
    exact ⟨newPassword, [], rfl, by decide, by decide⟩
  · rw [after]
    decide

end Operly.Auth
