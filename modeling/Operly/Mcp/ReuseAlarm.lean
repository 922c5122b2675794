import Operly.Mcp.OneTimeTokens

/-! The alarm of a refresh token that is presented again. The generation of a grant is the time of its last update,
and an owner's consent is an update too. -/

namespace Operly.Mcp
open Python Concurrent Relational

variable {pid : Nat} {state after : State}

def Issued (token : TokenPayload) (log : List Entry) : Prop := ∃ entry ∈ log, entry.issues = some token

def latest (grantId : String) (log : List Entry) : Option TokenPayload :=
  log.findSome? fun entry => entry.issues.filter fun token => token.grantId = grantId

def Redeemed (grantId generation : String) (log : List Entry) : Prop := ∃ entry ∈ log, entry.redeems grantId generation = true

/-- The alarm follows a redemption of the same generation, and it is not for the latest token. -/
def Founded (presented : TokenPayload) (log : List Entry) : Prop :=
  Redeemed presented.grantId presented.refreshGeneration log ∧ latest presented.grantId log ≠ some presented

/-- An edit that leaves the grant active while tokens of it are out supersedes them. -/
def Supersedes (state : State) (loaded : ClientGrant) (status : GrantStatus) : Prop :=
  ∃ now token, state.grants.find loaded.id = some now ∧ written loaded.status status now.status = .active ∧
    Issued token state.log ∧ token.grantId = loaded.id

/-- No edit of an owner supersedes tokens, no exchange issues one that is superseded, and what is presented to an alarm
is a token that was issued. -/
def unsuperseded (_ : Nat) (_ : Request) (op : Op) (_ : Drawn) (state : State) : Prop :=
  match op with
  | .commit (.alarmed _ _ presented) => Issued presented state.log
  | .commit (.exchanged _ _ token) => ∀ now, state.grants.find token.grantId = some now → now.status = .active →
      token.refreshGeneration = now.refreshGeneration
  | .commit (.consented loaded _ _) => ¬Supersedes state loaded .active
  | .commit (.revoked loaded _) => ¬Supersedes state loaded .revoked
  | _ => True

theorem issued_cons {entry : Entry} {token : TokenPayload} {log : List Entry} :
    Issued token (entry :: log) ↔ entry.issues = some token ∨ Issued token log := by
  simp [Issued]

theorem Redeemed.cons {grantId generation : String} {log : List Entry} (redeemed : Redeemed grantId generation log)
    (entry : Entry) : Redeemed grantId generation (entry :: log) := by
  obtain ⟨old, member, redeems⟩ := redeemed
  exact ⟨old, List.mem_cons_of_mem _ member, redeems⟩

theorem latest_cons_of_none {entry : Entry} {grantId : String} (log : List Entry)
    (other : ∀ token, entry.issues = some token → token.grantId ≠ grantId) :
    latest grantId (entry :: log) = latest grantId log := by
  have skipped : (entry.issues.filter fun token => token.grantId = grantId) = none := by
    rw [Option.filter_eq_none_iff]
    intro token issued
    simpa using other token issued
  rw [latest, List.findSome?_cons, skipped]
  rfl

theorem latest_cons_of_some {entry : Entry} {token : TokenPayload} (log : List Entry) (issued : entry.issues = some token) :
    latest token.grantId (entry :: log) = some token := by
  have first : (entry.issues.filter fun other => other.grantId = token.grantId) = some token := by
    rw [issued, Option.filter_some, if_pos (decide_eq_true rfl)]
  rw [latest, List.findSome?_cons, first]

/-- While the grant is active, the tokens of another generation than its own have been redeemed, and the latest token is
of its own. -/
def Fair (log : List Entry) (row : ClientGrant) : Prop :=
  row.status = .active →
    (∀ token, Issued token log → token.grantId = row.id →
      token.refreshGeneration = row.refreshGeneration ∨ Redeemed row.id token.refreshGeneration log) ∧
    ∀ token, latest row.id log = some token → token.refreshGeneration = row.refreshGeneration

namespace Fair
variable {log : List Entry} {row : ClientGrant} {entry : Entry}

theorem cons_other (fair : Fair log row) (other : ∀ token, entry.issues = some token → token.grantId ≠ row.id) :
    Fair (entry :: log) row := by
  intro active
  obtain ⟨generations, last⟩ := fair active
  constructor
  · intro token issued mine
    cases issued_cons.mp issued with
    | inl new => exact absurd mine (other token new)
    | inr old => exact (generations token old mine).imp_right fun redeemed => redeemed.cons entry
  · rw [latest_cons_of_none log other]
    exact last

theorem cons_plain (fair : Fair log row) (plain : entry.issues = none) : Fair (entry :: log) row := by
  apply fair.cons_other
  intro token issued
  rw [plain] at issued
  cases issued

theorem cons_current {token : TokenPayload} (fair : Fair log row) (issued : entry.issues = some token)
    (same : token.grantId = row.id)
    (current : row.status = .active → token.refreshGeneration = row.refreshGeneration) : Fair (entry :: log) row := by
  intro active
  constructor
  · intro other known mine
    cases issued_cons.mp known with
    | inl new =>
      cases issued.symm.trans new
      exact .inl (current active)
    | inr old => exact ((fair active).1 other old mine).imp_right fun redeemed => redeemed.cons entry
  · intro other last
    rw [← same, latest_cons_of_some log issued] at last
    cases last
    exact current active

theorem cons_rotated {token : TokenPayload} {next : ClientGrant} (fair : Fair log row) (active : row.status = .active)
    (redeems : entry.redeems row.id row.refreshGeneration = true) (issued : entry.issues = some token)
    (same : token.grantId = row.id) (identity : next.id = row.id)
    (current : token.refreshGeneration = next.refreshGeneration) : Fair (entry :: log) next := by
  intro _
  rw [identity]
  constructor
  · intro other known mine
    cases issued_cons.mp known with
    | inl new =>
      cases issued.symm.trans new
      exact .inl current
    | inr old =>
      right
      cases (fair active).1 other old mine with
      | inl shared => exact shared ▸ ⟨entry, List.mem_cons_self, redeems⟩
      | inr redeemed => exact redeemed.cons entry
  · intro other last
    rw [← same, latest_cons_of_some log issued] at last
    cases last
    exact current

theorem of_unissued (unissued : ∀ token, Issued token log → token.grantId ≠ row.id) : Fair log row := by
  intro _
  refine ⟨fun token issued mine => absurd mine (unissued token issued), ?_⟩
  intro token last
  obtain ⟨entry, member, kept⟩ := List.exists_of_findSome?_eq_some last
  obtain ⟨issued, mine⟩ := Option.filter_eq_some_iff.mp kept
  exact absurd (of_decide_eq_true mine) (unissued token ⟨entry, member, issued⟩)

end Fair

/-! ### Every state -/

structure Alarms (state : State) : Prop where
  issued : ∀ token, Issued token state.log → ∃ row, state.grants.find token.grantId = some row
  told : ∀ pid grant, .told pid grant ∈ state.log → ∃ row, state.grants.find grant.id = some row
  fair : ∀ id row, state.grants.find id = some row → Fair state.log row
  founded : ∀ later pid presented earlier, state.log = later ++ .alarmed pid presented :: earlier → Founded presented earlier

namespace Alarms

theorem cons {entry : Entry} (held : Alarms state) (log : after.log = entry :: state.log)
    (kept : ∀ id row, state.grants.find id = some row → ∃ next, after.grants.find id = some next)
    (issued : ∀ token, entry.issues = some token → ∃ row, state.grants.find token.grantId = some row)
    (told : ∀ pid grant, entry = .told pid grant → ∃ row, state.grants.find grant.id = some row)
    (fair : ∀ id row, after.grants.find id = some row → Fair (entry :: state.log) row)
    (founded : ∀ pid presented, entry = .alarmed pid presented → Founded presented state.log) : Alarms after where
  issued := by
    intro token known
    rw [log] at known
    cases issued_cons.mp known with
    | inl new =>
      obtain ⟨row, found⟩ := issued token new
      exact kept _ row found
    | inr old =>
      obtain ⟨row, found⟩ := held.issued token old
      exact kept _ row found
  told := by
    intro pid grant member
    rw [log] at member
    cases List.mem_cons.mp member with
    | inl new =>
      obtain ⟨row, found⟩ := told pid grant new.symm
      exact kept _ row found
    | inr old =>
      obtain ⟨row, found⟩ := held.told pid grant old
      exact kept _ row found
  fair := log ▸ fair
  founded := by
    intro later pid presented earlier shape
    rw [log] at shape
    cases later with
    | nil =>
      obtain ⟨first, rest⟩ := List.cons.inj shape
      exact rest ▸ founded pid presented first
    | cons newest later =>
      obtain ⟨-, rest⟩ := List.cons.inj shape
      exact held.founded later pid presented earlier rest

theorem recorded {op : Op} {drawn : Drawn} (held : Alarms state) (recorded : Recorded pid drawn state after op)
    (same : after.grants = state.grants) : Alarms after := by
  have kept : ∀ id row, state.grants.find id = some row → ∃ next, after.grants.find id = some next :=
    fun _ row found => ⟨row, same ▸ found⟩
  cases recorded with
  | nothing log =>
    obtain ⟨issued, told, fair, founded⟩ := held
    constructor
    · exact log ▸ same ▸ issued
    · exact log ▸ same ▸ told
    · exact log ▸ same ▸ fair
    · exact log ▸ founded
  | reading _ log =>
    refine held.cons log kept (fun _ none => by cases none) (fun _ _ none => by cases none) ?_ fun _ _ none => by cases none
    exact fun id row found => (held.fair id row (same ▸ found)).cons_plain rfl
  | @telling _ grant known log =>
    refine held.cons log kept (fun _ none => by cases none) ?_ ?_ fun _ _ none => by cases none
    · intro pid' grant' told
      cases told
      exact ⟨grant, known⟩
    · exact fun id row found => (held.fair id row (same ▸ found)).cons_plain rfl

variable {edit : GrantEdit} {now : ClientGrant} {onupdate : Int}

theorem find_edited {row : ClientGrant} {id : String} (current : state.grants.find edit.loaded.id = some now)
    (found : (state.grants.replace (edit.row now onupdate)).find id = some row) :
    (id = edit.loaded.id ∧ row = edit.row now onupdate) ∨ (id ≠ edit.loaded.id ∧ state.grants.find id = some row) := by
  have key : (edit.row now onupdate).id = edit.loaded.id := (Table.find_key current : now.id = edit.loaded.id)
  rw [Table.find_replace, key] at found
  split at found
  · next mine =>
    subst mine
    rw [current] at found
    cases found
    exact .inl ⟨rfl, rfl⟩
  · next other => exact .inr ⟨other, found⟩

theorem find_kept (now : ClientGrant) (onupdate : Int) (id : String) (row : ClientGrant)
    (found : state.grants.find id = some row) :
    ∃ next, (state.grants.replace (edit.row now onupdate)).find id = some next := by
  rw [Table.find_replace, found]
  split
  · exact ⟨_, rfl⟩
  · exact ⟨row, rfl⟩

theorem edited {change : Change} (held : Alarms state) (current : state.grants.find edit.loaded.id = some now)
    (plain : (change.entry pid now).issues = none)
    (fair : Fair (change.entry pid now :: state.log) (edit.row now onupdate))
    (founded : ∀ pid' presented, change.entry pid now = .alarmed pid' presented → Founded presented state.log) :
    Alarms ({ state with grants := state.grants.replace (edit.row now onupdate) }.note (change.entry pid now)) := by
  refine held.cons rfl (find_kept now onupdate) ?_ ?_ ?_ founded
  · intro token issued
    rw [plain] at issued
    cases issued
  · intro pid' grant told
    have commits := @Change.entry_commits pid change now
    rw [told] at commits
    cases commits
  · intro id row found
    rcases find_edited current found with ⟨-, rfl⟩ | ⟨-, old⟩
    · exact fair
    · exact (held.fair id row old).cons_plain plain

theorem owned {entry : Entry} (plain : entry.issues = none) (current : state.grants.find edit.loaded.id = some now)
    (harmless : ¬Supersedes state edit.loaded edit.status) : Fair (entry :: state.log) (edit.row now onupdate) := by
  intro active
  refine Fair.of_unissued ?_ active
  intro token issued same
  rw [issued_cons, plain] at issued
  have key : (edit.row now onupdate).id = edit.loaded.id := (Table.find_key current : now.id = edit.loaded.id)
  refine harmless ⟨now, token, current, active, ?_, same.trans key⟩
  exact issued.resolve_left fun impossible => by cases impossible

theorem commit {request : Request} {change : Change} {drawn : Drawn} (held : Alarms state)
    (allowed : unsuperseded pid request (.commit change) drawn state) (ready : Ready pid state change)
    (applied : state.apply pid drawn.now change = some after) : Alarms after := by
  cases change with
  | issued code =>
    simp only [State.apply] at applied
    split at applied
    · cases applied
    · cases applied
      exact ⟨held.issued, held.told, held.fair, held.founded⟩
  | exchanged code consumedAt token =>
    obtain ⟨-, -, -, grant, clientId, resource, told, shape⟩ := ready
    obtain ⟨now, -, rfl⟩ := Option.map_eq_some_iff.mp applied
    obtain ⟨row, known⟩ := held.told pid grant told
    refine held.cons rfl (fun _ row found => ⟨row, found⟩) ?_ (fun _ _ none => by cases none) ?_ fun _ _ none => by cases none
    · intro other issued
      cases issued
      exact ⟨row, shape ▸ known⟩
    · intro id row found
      by_cases mine : token.grantId = row.id
      · refine (held.fair id row found).cons_current rfl mine (allowed row ?_)
        rw [mine, Table.find_key found]
        exact found
      · refine (held.fair id row found).cons_other ?_
        intro other issued
        cases issued
        exact mine
  | granted row =>
    simp only [State.apply] at applied
    split at applied
    · cases applied
    · next absent =>
      cases applied
      obtain ⟨unused, -⟩ := not_or.mp absent
      have missing : state.grants.find row.id = none := by simpa using unused
      refine held.cons rfl ?_ (fun _ none => by cases none) (fun _ _ none => by cases none) ?_ fun _ _ none => by cases none
      · intro id old found
        refine ⟨old, ?_⟩
        show (state.grants.insert row).find id = some old
        rw [Table.find_insert, found]
        rfl
      · intro id other found
        change (state.grants.insert row).find id = some other at found
        rw [Table.find_insert] at found
        cases known : state.grants.find id with
        | some _ =>
          rw [known] at found
          cases found
          exact (held.fair id other known).cons_plain rfl
        | none =>
          rw [known] at found
          split at found
          · cases found
            refine Fair.cons_plain (Fair.of_unissued ?_) rfl
            intro token issued same
            obtain ⟨old, existing⟩ := held.issued token issued
            rw [same, missing] at existing
            cases existing
          · cases found
  | consented loaded scopes updatedAt =>
    obtain ⟨now, current, rfl⟩ := apply_edit rfl applied
    exact held.edited current rfl (owned rfl current allowed) fun _ _ none => by cases none
  | revoked loaded updatedAt =>
    obtain ⟨now, current, rfl⟩ := apply_edit rfl applied
    exact held.edited current rfl (owned rfl current allowed) fun _ _ none => by cases none
  | alarmed loaded updatedAt presented =>
    obtain ⟨-, mine, active, identity, stale, -⟩ := ready
    obtain ⟨now, current, rfl⟩ := apply_edit rfl applied
    have unchanged : now = loaded := Option.some.inj (current.symm.trans mine.2)
    subst unchanged
    obtain ⟨generations, last⟩ := held.fair now.id now mine.2 active
    have differs : presented.refreshGeneration ≠ now.refreshGeneration := by
      cases stale with
      | inl empty =>
        rw [empty]
        exact (isoMicroseconds_ne_empty now.updatedAt).symm
      | inr differs => exact differs
    refine held.edited current rfl ?_ ?_
    · intro impossible
      rw [GrantEdit.row, active] at impossible
      cases impossible
    · intro pid' presented' same
      cases same
      refine ⟨identity ▸ (generations presented allowed identity).resolve_left differs, ?_⟩
      rw [identity]
      exact fun newest => differs (last presented newest)
  | redeemed loaded updatedAt presented token =>
    obtain ⟨-, mine, active, identity, generation, ⟨time, -, rotation⟩, clientId, resource, shape⟩ := ready
    obtain ⟨now, current, rfl⟩ := apply_edit rfl applied
    have unchanged : now = loaded := Option.some.inj (current.symm.trans mine.2)
    subst unchanged
    have later : now.updatedAt < updatedAt := by
      rw [rotated] at rotation
      split at rotation
      · cases rotation
        assumption
      · split at rotation
        · cases rotation
          omega
        · cases rotation
    have belongs : token.grantId = now.id := congrArg TokenPayload.grantId shape
    refine held.cons rfl (find_kept now drawn.now) ?_ (fun _ _ none => by cases none) ?_ fun _ _ none => by cases none
    · intro other issued
      cases issued
      exact ⟨now, belongs ▸ mine.2⟩
    · intro id row found
      rcases find_edited current found with ⟨-, rfl⟩ | ⟨other, old⟩
      · refine (held.fair now.id now mine.2).cons_rotated active ?_ rfl belongs rfl ?_
        · exact decide_eq_true ⟨identity, generation⟩
        · rw [ClientGrant.refreshGeneration, edit_stamp later, shape]
          rfl
      · refine (held.fair id row old).cons_other ?_
        intro other' issued same
        cases issued
        exact other ((Table.find_key old).symm.trans (same.symm.trans belongs))

theorem initial {start : State} (fresh : start.log = []) : Alarms start where
  issued := by
    rintro token ⟨entry, member, -⟩
    rw [fresh] at member
    cases member
  told := by
    intro pid grant member
    rw [fresh] at member
    cases member
  fair := by
    intro id row _
    rw [fresh]
    exact Fair.of_unissued fun token ⟨_, absent, _⟩ => absurd absent List.not_mem_nil
  founded := by
    intro later pid presented earlier shape
    rw [fresh] at shape
    cases later <;> cases shape

end Alarms

/-- No false alarm: while owners' edits and exchanges supersede no tokens, an alarm follows a redemption of the same
generation and is never for the latest token. -/
theorem alarms_founded {settings : OAuthSettings} {start : State} (fresh : start.log = [])
    {moves : List (Move Request Drawn)} {final : Pool oauth Request (Except OAuthFailure Reply) State}
    (run : Runs (Pool.step world (main settings)) (Pool.meets unsuperseded) (Pool.initial start) moves final) :
    ∀ later pid presented earlier, final.shared.log = later ++ .alarmed pid presented :: earlier →
      Founded presented earlier := by
  have held : Alarms final.shared := by
    refine invariant_of_run fresh (Alarms.initial fresh) ?_ ?_ ?_ run
    · intro pid request op drawn state answer after plain _ held performed
      have own : Own pid state after := perform_plain plain performed
      have recorded : Recorded pid drawn state after op := perform_recorded plain performed
      exact held.recorded recorded own.grants
    · exact fun pid state held => ⟨held.issued, held.told, held.fair, held.founded⟩
    · intro pid request change drawn state after allowed ready held applied
      exact held.commit allowed ready applied
  exact held.founded

namespace Reused

def sound (pool : Pool oauth Request (Except OAuthFailure Reply) State) : Move Request Drawn → Bool
  | .act pid _ =>
      match pool.tasks pid with
      | some ⟨_, some (.request (.commit (.alarmed _ _ presented)) _)⟩ =>
          pool.shared.log.any fun entry => entry.issues = some presented
      | some ⟨_, some (.request (.commit (.exchanged _ _ token)) _)⟩ =>
          (pool.shared.grants.find token.grantId).all fun now => token.refreshGeneration = now.refreshGeneration
      | some ⟨_, some (.request (.commit (.consented ..)) _)⟩ | some ⟨_, some (.request (.commit (.revoked ..)) _)⟩ => false
      | _ => true
  | _ => true

theorem meets_of_sound (pool : Pool oauth Request (Except OAuthFailure Reply) State) (move : Move Request Drawn)
    (checked : sound pool move = true) : pool.meets unsuperseded move := by
  cases move with
  | start | crash => trivial
  | act pid drawn =>
    intro request (op : Op) next present
    cases op with
    | commit change =>
      cases change with
      | alarmed loaded updatedAt presented =>
        simp only [sound, present, List.any_eq_true, decide_eq_true_eq] at checked
        exact checked
      | exchanged code consumedAt token =>
        simp only [sound, present, Option.all_eq_true, decide_eq_true_eq] at checked
        exact fun now found _ => checked now found
      | consented | revoked =>
        simp only [sound, present] at checked
        cases checked
      | issued | redeemed | granted => trivial
    | _ => trivial

theorem sounded : ((moves.foldlM (fun pool move =>
    if sound pool move then pool.step world (main settings) move else none) (Pool.initial start)).map
      fun pool => pool.shared.log.head?) = some (some (.alarmed 2 token)) := by
  decide

def reconsented : List (Move Request Drawn) :=
  [.start 0 exchange, .act 0 {}, .act 0 { now := 1 }, .act 0 {}, .act 0 {},
    .start 1 (.consent ⟨"chatgpt", ["crm:read"], true⟩ ⟨"owner", "p", "t"⟩), .act 1 {}, .act 1 { now := 2 }, .act 1 {},
    .start 2 refresh, .act 2 {}, .act 2 { now := 3 }, .act 2 {}]

theorem reconsented_alarmed : ((reconsented.foldlM (fun pool move =>
    if ticked pool move then pool.step world (main settings) move else none) (Pool.initial start)).map
      fun pool => (pool.shared.log.head?, pool.shared.log.tail.any (Entry.redeems "g" token.refreshGeneration),
        latest "g" pool.shared.log.tail, (pool.shared.grants.find "g").map (·.status))) =
    some (some (.alarmed 2 token), false, some token, some .revoked) := by
  decide

end Reused

theorem alarms_founded_reused : ∃ final earlier,
    Runs (Pool.step world (main Reused.settings)) (Pool.meets unsuperseded) (Pool.initial Reused.start) Reused.moves final ∧
      final.shared.log = .alarmed 2 Reused.token :: earlier ∧ Founded Reused.token earlier := by
  obtain ⟨final, evaluated, newest⟩ := Option.map_eq_some_iff.mp Reused.sounded
  obtain ⟨earlier, shape⟩ := List.head?_eq_some_iff.mp newest
  have run := Runs.of_checked Reused.meets_of_sound evaluated
  exact ⟨final, earlier, run, shape, alarms_founded rfl run [] 2 Reused.token earlier shape⟩

/-- The client presents the only token it has received, and its grant is revoked. -/
theorem consent_raises_alarm : ∃ final earlier,
    Runs (Pool.step world (main Reused.settings)) (Pool.meets ticking) (Pool.initial Reused.start) Reused.reconsented final ∧
      final.shared.log = .alarmed 2 Reused.token :: earlier ∧
      ¬Redeemed "g" Reused.token.refreshGeneration earlier ∧ latest "g" earlier = some Reused.token ∧
      (final.shared.grants.find "g").map (·.status) = some .revoked := by
  obtain ⟨final, evaluated, shown⟩ := Option.map_eq_some_iff.mp Reused.reconsented_alarmed
  simp only [Prod.mk.injEq] at shown
  obtain ⟨newest, unredeemed, last, revoked⟩ := shown
  obtain ⟨earlier, shape⟩ := List.head?_eq_some_iff.mp newest
  rw [shape, List.tail_cons] at unredeemed last
  refine ⟨final, earlier, Runs.of_checked meets_of_ticked evaluated, shape, ?_, last, revoked⟩
  rintro ⟨entry, member, redeems⟩
  rw [List.any_eq_false] at unredeemed
  exact unredeemed entry member redeems

end Operly.Mcp
