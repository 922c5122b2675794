import Operly.Mcp.OAuth

/-! What a session has established when it commits: the rows it holds are as it has read them. -/

namespace Operly.Mcp
open Python Concurrent Relational

namespace Entry

def pid : Entry → Nat
  | .read pid _ | .told pid _ | .exchanged pid .. | .redeemed pid .. | .alarmed pid _ | .edited pid => pid

def commits : Entry → Bool
  | .read .. | .told .. => false
  | _ => true

end Entry

def Quiet (pid : Nat) (state : State) : Prop := ∀ entry ∈ state.log, entry.pid = pid → entry.commits = false

def HoldsCode (pid : Nat) (code : McpAuthorizationCode) (state : State) : Prop :=
  state.codeLocks code.codeHash = some pid ∧ state.codes.find code.codeHash = some code

def HoldsGrant (pid : Nat) (grant : ClientGrant) (state : State) : Prop :=
  state.grantLocks grant.id = some pid ∧ state.grants.find grant.id = some grant

def Told (pid : Nat) (grant : ClientGrant) (state : State) : Prop := .told pid grant ∈ state.log

def HasRead (pid : Nat) (now : Int) (state : State) : Prop := .read pid now ∈ state.log

def ReadAfter (pid : Nat) (grant : ClientGrant) (now : Int) (state : State) : Prop :=
  ∃ later earlier, state.log = later ++ .read pid now :: earlier ∧ .told pid grant ∈ earlier

def Ready (pid : Nat) (state : State) : Change → Prop
  | .issued code => code.consumedAt = none
  | .exchanged code _ token => Quiet pid state ∧ HoldsCode pid code state ∧ code.consumedAt = none ∧
      ∃ grant clientId resource, Told pid grant state ∧
        token = tokenPayload grant clientId resource code.scopes grant.updatedAt
  | .redeemed loaded updatedAt presented token => Quiet pid state ∧ HoldsGrant pid loaded state ∧
      loaded.status = .active ∧ presented.grantId = loaded.id ∧ presented.refreshGeneration = loaded.refreshGeneration ∧
      (∃ now, ReadAfter pid loaded now state ∧ rotated now loaded.updatedAt = .ok updatedAt) ∧
      ∃ clientId resource, token = tokenPayload loaded clientId resource presented.scopes updatedAt
  | .alarmed loaded updatedAt presented => Quiet pid state ∧ HoldsGrant pid loaded state ∧ loaded.status = .active ∧
      presented.grantId = loaded.id ∧
      (presented.refreshGeneration = "" ∨ presented.refreshGeneration ≠ loaded.refreshGeneration) ∧
      ReadAfter pid loaded updatedAt state
  | .granted row => Quiet pid state ∧ HasRead pid row.updatedAt state
  | .consented loaded _ updatedAt | .revoked loaded updatedAt => Quiet pid state ∧ ReadAfter pid loaded updatedAt state

structure Rely (pid : Nat) (before after : State) : Prop where
  log : ∃ more, after.log = more ++ before.log ∧ ∀ entry ∈ more, entry.pid ≠ pid
  codes : ∀ code, HoldsCode pid code before → HoldsCode pid code after
  grants : ∀ grant, HoldsGrant pid grant before → HoldsGrant pid grant after

theorem Rely.refl (pid : Nat) (state : State) : Rely pid state state where
  log := ⟨[], rfl, fun _ absent => absurd absent List.not_mem_nil⟩
  codes _ held := held
  grants _ held := held

theorem Rely.trans {pid : Nat} {first second third : State} (left : Rely pid first second)
    (right : Rely pid second third) : Rely pid first third where
  log := by
    obtain ⟨more, grown, others⟩ := left.log
    obtain ⟨more', grown', others'⟩ := right.log
    refine ⟨more' ++ more, by rw [grown', grown, List.append_assoc], ?_⟩
    intro entry member
    cases List.mem_append.mp member with
    | inl late => exact others' entry late
    | inr early => exact others entry early
  codes code held := right.codes code (left.codes code held)
  grants grant held := right.grants grant (left.grants grant held)

/-- A session's own statements, before it commits: they lock and they are recorded. -/
structure Own (pid : Nat) (before after : State) : Prop where
  log : ∃ more, after.log = more ++ before.log ∧ ∀ entry ∈ more, entry.pid = pid ∧ entry.commits = false
  codes : after.codes = before.codes
  grants : after.grants = before.grants
  codeLocks : ∀ hash, after.codeLocks hash = before.codeLocks hash ∨
    (after.codeLocks hash = some pid ∧ free (before.codeLocks hash) pid = true)
  grantLocks : ∀ id, after.grantLocks id = before.grantLocks id ∨
    (after.grantLocks id = some pid ∧ free (before.grantLocks id) pid = true)

def setting : Setting oauth Request State Drawn where
  world := world
  permitted _ _ _ _ _ := True
  issued pid _ op state := match op with
    | .commit change => Ready pid state change
    | _ => True
  discipline := {
    invariant := fun _ => True
    rely := Rely
    guarantee := fun pid _ before after => ∀ other, other ≠ pid → Rely other before after
    rely_refl := Rely.refl
    rely_trans := Rely.trans
    guarantee_rely := fun apart promised => promised _ apart }

variable {pid : Nat} {state after : State}

/-! ### Statements -/

variable {other : Nat} {onupdate : Int}

theorem free_of_held {holder : Option Nat} (held : holder = some other) (apart : other ≠ pid) :
    free holder pid = false := by
  simp [free, held, apart]

theorem Own.rely (own : Own pid state after) (apart : other ≠ pid) : Rely other state after where
  log := by
    obtain ⟨more, grown, mine⟩ := own.log
    exact ⟨more, grown, fun entry member => (mine entry member).1 ▸ apart.symm⟩
  codes code held := by
    refine ⟨?_, own.codes ▸ held.2⟩
    rcases own.codeLocks code.codeHash with same | ⟨_, freed⟩
    · rw [same]
      exact held.1
    · rw [free_of_held held.1 apart] at freed
      cases freed
  grants grant held := by
    refine ⟨?_, own.grants ▸ held.2⟩
    rcases own.grantLocks grant.id with same | ⟨_, freed⟩
    · rw [same]
      exact held.1
    · rw [free_of_held held.1 apart] at freed
      cases freed

theorem Own.refl (pid : Nat) (state : State) : Own pid state state where
  log := ⟨[], rfl, fun _ absent => absurd absent List.not_mem_nil⟩
  codes := rfl
  grants := rfl
  codeLocks _ := .inl rfl
  grantLocks _ := .inl rfl

theorem Own.note {entry : Entry} (own : Own pid state after) (mine : entry.pid = pid) (plain : entry.commits = false) :
    Own pid state (after.note entry) where
  log := by
    obtain ⟨more, grown, known⟩ := own.log
    exact ⟨entry :: more, congrArg (entry :: ·) grown, List.forall_mem_cons.mpr ⟨⟨mine, plain⟩, known⟩⟩
  codes := own.codes
  grants := own.grants
  codeLocks := own.codeLocks
  grantLocks := own.grantLocks

theorem Own.tell (pid : Nat) (state : State) (answer : Option ClientGrant) : Own pid state (state.tell pid answer).2 := by
  cases answer with
  | none => exact Own.refl pid state
  | some grant => exact (Own.refl pid state).note rfl rfl

def Op.plain : Op → Bool
  | .commit _ | .rollback => false
  | _ => true

theorem update_locks {locks : String → Option Nat} {key : String} (freed : free (locks key) pid = true) (other : String) :
    Function.update locks key (some pid) other = locks other ∨
      (Function.update locks key (some pid) other = some pid ∧ free (locks other) pid = true) := by
  by_cases same : other = key
  · subst same
    exact .inr ⟨Function.update_self .., freed⟩
  · exact .inl (Function.update_of_ne same ..)

theorem perform_plain {op : Op} {drawn : Drawn} {answer : oauth.Answer op} (plain : op.plain = true)
    (performed : perform pid op drawn state = some (answer, after)) : Own pid state after := by
  cases op with
  | utcnow =>
    simp only [perform] at performed
    split at performed
    · cases performed
      exact Own.note ⟨⟨[], rfl, fun _ absent => absurd absent List.not_mem_nil⟩, rfl, rfl, fun _ => .inl rfl,
        fun _ => .inl rfl⟩ rfl rfl
    · cases performed
  | uid =>
    cases performed
    exact Own.refl pid state
  | codeForUpdate codeHash =>
    simp only [perform] at performed
    split at performed
    · cases performed
      exact Own.refl pid state
    · split at performed
      · next freed =>
        cases performed
        exact { Own.refl pid state with codeLocks := update_locks freed }
      · cases performed
  | grantForUpdate id clientId =>
    simp only [perform] at performed
    split at performed
    · cases performed
      exact Own.refl pid state
    · split at performed
      · next freed =>
        cases performed
        exact Own.note { Own.refl pid state with grantLocks := update_locks freed } rfl rfl
      · cases performed
  | activeGrant id clientId =>
    have same : (state.tell pid _).2 = after := congrArg Prod.snd (Option.some.inj performed)
    exact same ▸ Own.tell pid state _
  | grantById id principalId tenantId =>
    have same : (state.tell pid _).2 = after := congrArg Prod.snd (Option.some.inj performed)
    exact same ▸ Own.tell pid state _
  | grantOf principalId tenantId clientId =>
    have same : (state.tell pid _).2 = after := congrArg Prod.snd (Option.some.inj performed)
    exact same ▸ Own.tell pid state _
  | commit | rollback => cases plain

/-! ### Commits -/

theorem release_holdsCode {code : McpAuthorizationCode} (apart : other ≠ pid) (held : HoldsCode other code state) :
    HoldsCode other code (state.release pid) := by
  refine ⟨?_, held.2⟩
  show (if _ then _ else _) = _
  rw [held.1, if_neg (by simpa using apart)]

theorem release_holdsGrant {grant : ClientGrant} (apart : other ≠ pid) (held : HoldsGrant other grant state) :
    HoldsGrant other grant (state.release pid) := by
  refine ⟨?_, held.2⟩
  show (if _ then _ else _) = _
  rw [held.1, if_neg (by simpa using apart)]

theorem release_rely (apart : other ≠ pid) : Rely other state (state.release pid) where
  log := ⟨[], rfl, fun _ absent => absurd absent List.not_mem_nil⟩
  codes _ held := release_holdsCode apart held
  grants _ held := release_holdsGrant apart held

structure GrantEdit where
  loaded : ClientGrant
  scopes : List String
  status : GrantStatus
  updatedAt : Int

def Change.edit : Change → Option GrantEdit
  | .redeemed loaded updatedAt _ _ => some ⟨loaded, loaded.scopes, loaded.status, updatedAt⟩
  | .alarmed loaded updatedAt _ => some ⟨loaded, loaded.scopes, .revoked, updatedAt⟩
  | .consented loaded scopes updatedAt => some ⟨loaded, scopes, .active, updatedAt⟩
  | .revoked loaded updatedAt => some ⟨loaded, loaded.scopes, .revoked, updatedAt⟩
  | _ => none

def Change.entry (pid : Nat) (now : ClientGrant) : Change → Entry
  | .redeemed _ _ presented token => .redeemed pid presented token now
  | .alarmed _ _ presented => .alarmed pid presented
  | _ => .edited pid

/-- The row after an `UPDATE` that was composed from an earlier version of it -/
def GrantEdit.row (edit : GrantEdit) (now : ClientGrant) (onupdate : Int) : ClientGrant :=
  { now with
    scopes := written edit.loaded.scopes edit.scopes now.scopes
    status := written edit.loaded.status edit.status now.status
    updatedAt := if edit.updatedAt ≠ edit.loaded.updatedAt then edit.updatedAt
      else if edit.scopes ≠ edit.loaded.scopes ∨ edit.status ≠ edit.loaded.status then onupdate else now.updatedAt }

theorem Change.entry_pid (change : Change) (now : ClientGrant) : (change.entry pid now).pid = pid := by
  cases change <;> rfl

theorem Change.entry_commits (change : Change) (now : ClientGrant) : (change.entry pid now).commits = true := by
  cases change <;> rfl

theorem update_edit {loaded : ClientGrant} {scopes : List String} {status : GrantStatus} {updatedAt : Int}
    {entry : ClientGrant → Entry}
    (applied : ((state.update loaded scopes status updatedAt onupdate).map fun result => result.2.note (entry result.1)) =
      some after) :
    ∃ now, state.grants.find loaded.id = some now ∧ after = { state with
      grants := state.grants.replace ((GrantEdit.mk loaded scopes status updatedAt).row now onupdate) }.note (entry now) := by
  obtain ⟨result, updated, rfl⟩ := Option.map_eq_some_iff.mp applied
  obtain ⟨now, found, rfl⟩ := Option.map_eq_some_iff.mp updated
  exact ⟨now, found, rfl⟩

theorem apply_edit {change : Change} {edit : GrantEdit} (edits : change.edit = some edit)
    (applied : state.apply pid onupdate change = some after) :
    ∃ now, state.grants.find edit.loaded.id = some now ∧
      after = { state with grants := state.grants.replace (edit.row now onupdate) }.note (change.entry pid now) := by
  cases change with
  | issued | exchanged | granted => cases edits
  | redeemed loaded updatedAt presented token =>
    cases edits
    exact @update_edit _ _ _ _ _ _ _ (fun now => .redeemed pid presented token now) applied
  | alarmed loaded updatedAt presented =>
    cases edits
    exact @update_edit _ _ _ _ _ _ _ (fun _ => .alarmed pid presented) applied
  | consented loaded scopes updatedAt =>
    cases edits
    exact @update_edit _ _ _ _ _ _ _ (fun _ => .edited pid) applied
  | revoked loaded updatedAt =>
    cases edits
    exact @update_edit _ _ _ _ _ _ _ (fun _ => .edited pid) applied

theorem free_grant {id : String} (grant : ClientGrant) (freed : free (state.grantLocks id) pid = true)
    (apart : other ≠ pid) (held : HoldsGrant other grant state) : grant.id ≠ id := by
  rintro rfl
  rw [free_of_held held.1 apart] at freed
  cases freed

theorem edit_rely {edit : GrantEdit} {now : ClientGrant} {entry : Entry} (apart : other ≠ pid)
    (mine : entry.pid = pid) (freed : free (state.grantLocks edit.loaded.id) pid = true)
    (found : state.grants.find edit.loaded.id = some now) :
    Rely other state ({ state with grants := state.grants.replace (edit.row now onupdate) }.note entry) := by
  refine ⟨⟨[entry], rfl, ?_⟩, fun _ held => held, ?_⟩
  · intro only member
    rw [List.mem_singleton.mp member, mine]
    exact apart.symm
  · intro grant held
    refine ⟨held.1, ?_⟩
    have key : now.id = edit.loaded.id := Table.find_key found
    have other' : grant.id ≠ (edit.row now onupdate).id := by
      show grant.id ≠ now.id
      rw [key]
      exact free_grant grant freed apart held
    show (state.grants.replace _).find grant.id = some grant
    rw [Table.find_replace, if_neg other']
    exact held.2

theorem apply_rely {change : Change} (apart : other ≠ pid) (ready : Ready pid state change)
    (freed : change.grant.all (fun id => free (state.grantLocks id) pid) = true)
    (applied : state.apply pid onupdate change = some after) : Rely other state after := by
  have plain : ∀ entry : Entry, entry.pid = pid → ∀ only ∈ [entry], only.pid ≠ other := by
    intro entry mine only member
    rw [List.mem_singleton.mp member, mine]
    exact apart.symm
  cases change with
  | issued code =>
    simp only [State.apply] at applied
    split at applied
    · cases applied
    · cases applied
      refine ⟨⟨[], rfl, fun _ absent => absurd absent List.not_mem_nil⟩, ?_, fun _ held => held⟩
      intro held known
      refine ⟨known.1, ?_⟩
      show (state.codes.insert code).find held.codeHash = some held
      rw [Table.find_insert, known.2]
      rfl
  | exchanged code consumedAt token =>
    obtain ⟨-, mine, -⟩ := ready
    simp only [State.apply] at applied
    obtain ⟨now, found, rfl⟩ := Option.map_eq_some_iff.mp applied
    refine ⟨⟨[_], rfl, plain _ rfl⟩, ?_, fun _ held => held⟩
    intro held known
    refine ⟨known.1, ?_⟩
    have differs : held.codeHash ≠ now.codeHash := by
      rw [Table.find_key found]
      intro same
      have locked := known.1
      rw [same, mine.1] at locked
      exact apart (Option.some.inj locked).symm
    show (state.codes.replace _).find held.codeHash = some held
    rw [Table.find_replace, if_neg differs]
    exact known.2
  | granted row =>
    simp only [State.apply] at applied
    split at applied
    · cases applied
    · cases applied
      refine ⟨⟨[_], rfl, plain _ rfl⟩, fun _ held => held, ?_⟩
      intro held known
      refine ⟨known.1, ?_⟩
      show (state.grants.insert row).find held.id = some held
      rw [Table.find_insert, known.2]
      rfl
  | redeemed | alarmed | consented | revoked =>
    obtain ⟨now, found, rfl⟩ := apply_edit rfl applied
    exact edit_rely apart (Change.entry_pid _ now) freed found

theorem setting_lawful : setting.Lawful := by
  intro pid request op drawn before answer after _ issued _ performed
  refine ⟨trivial, ?_⟩
  intro other apart
  cases plain : op.plain with
  | true =>
    have own : Own pid before after := @perform_plain pid before after op drawn answer plain performed
    exact own.rely apart
  | false =>
    cases op with
    | commit change =>
      simp only [setting, world, perform] at performed
      split at performed
      · next freed =>
        split at performed
        · next applied =>
          cases performed
          exact (apply_rely apart issued freed applied).trans (release_rely apart)
        · cases performed
          exact release_rely apart
      · cases performed
    | rollback =>
      cases performed
      exact release_rely apart
    | utcnow | uid | codeForUpdate | grantForUpdate | activeGrant | grantById | grantOf => cases plain

/-- Neither the others nor the session's own statements take the fact away. -/
structure Settled (pid : Nat) (fact : State → Prop) : Prop where
  rely : ∀ state after, fact state → Rely pid state after → fact after
  own : ∀ state after, fact state → Own pid state after → fact after

namespace Settled
variable {first second : State → Prop}

theorem const (holds : Prop) : Settled pid fun _ => holds := ⟨fun _ _ known _ => known, fun _ _ known _ => known⟩

theorem and (left : Settled pid first) (right : Settled pid second) : Settled pid fun state => first state ∧ second state :=
  ⟨fun state after known step => ⟨left.rely state after known.1 step, right.rely state after known.2 step⟩,
    fun state after known step => ⟨left.own state after known.1 step, right.own state after known.2 step⟩⟩

theorem imp {holds : Prop} (settled : Settled pid first) : Settled pid fun state => holds → first state :=
  ⟨fun state after known step given => settled.rely state after (known given) step,
    fun state after known step given => settled.own state after (known given) step⟩

theorem forall' {α : Type} {facts : α → State → Prop} (settled : ∀ value, Settled pid (facts value)) :
    Settled pid fun state => ∀ value, facts value state :=
  ⟨fun state after known step value => (settled value).rely state after (known value) step,
    fun state after known step value => (settled value).own state after (known value) step⟩

theorem exists' {α : Type} {facts : α → State → Prop} (settled : ∀ value, Settled pid (facts value)) :
    Settled pid fun state => ∃ value, facts value state := by
  constructor
  · rintro state after ⟨value, known⟩ step
    exact ⟨value, (settled value).rely state after known step⟩
  · rintro state after ⟨value, known⟩ step
    exact ⟨value, (settled value).own state after known step⟩

end Settled

theorem quiet_settled : Settled pid (Quiet pid) := by
  constructor
  · intro state after quiet step
    obtain ⟨more, grown, others⟩ := step.log
    intro entry member mine
    rw [grown] at member
    cases List.mem_append.mp member with
    | inl late => exact absurd mine (others entry late)
    | inr early => exact quiet entry early mine
  · intro state after quiet step
    obtain ⟨more, grown, plain⟩ := step.log
    intro entry member mine
    rw [grown] at member
    cases List.mem_append.mp member with
    | inl late => exact (plain entry late).2
    | inr early => exact quiet entry early mine

theorem log_settled (fact : List Entry → Prop) (grows : ∀ more log, fact log → fact (more ++ log)) :
    Settled pid fun state => fact state.log := by
  constructor
  · intro state after known step
    obtain ⟨more, grown, -⟩ := step.log
    rw [grown]
    exact grows more state.log known
  · intro state after known step
    obtain ⟨more, grown, -⟩ := step.log
    rw [grown]
    exact grows more state.log known

theorem told_settled (grant : ClientGrant) : Settled pid (Told pid grant) :=
  log_settled (fun log => Entry.told pid grant ∈ log) fun _ _ known => List.mem_append_right _ known

theorem hasRead_settled (now : Int) : Settled pid (HasRead pid now) :=
  log_settled (fun log => Entry.read pid now ∈ log) fun _ _ known => List.mem_append_right _ known

theorem readAfter_settled (grant : ClientGrant) (now : Int) : Settled pid (ReadAfter pid grant now) := by
  apply log_settled fun log => ∃ later earlier, log = later ++ Entry.read pid now :: earlier ∧ Entry.told pid grant ∈ earlier
  rintro more _ ⟨later, earlier, rfl, told⟩
  exact ⟨more ++ later, earlier, by rw [List.append_assoc], told⟩

theorem holdsCode_settled (code : McpAuthorizationCode) : Settled pid (HoldsCode pid code) where
  rely _ _ held step := step.codes code held
  own := by
    intro state after held step
    refine ⟨?_, step.codes ▸ held.2⟩
    rcases step.codeLocks code.codeHash with same | ⟨mine, -⟩
    · rw [same]
      exact held.1
    · exact mine

theorem holdsGrant_settled (grant : ClientGrant) : Settled pid (HoldsGrant pid grant) where
  rely _ _ held step := step.grants grant held
  own := by
    intro state after held step
    refine ⟨?_, step.grants ▸ held.2⟩
    rcases step.grantLocks grant.id with same | ⟨mine, -⟩
    · rw [same]
      exact held.1
    · exact mine

/-! ### Statements of a session -/

section Session
variable {request : Request} {fact : State → Prop}

theorem statement {op : Op} {told : oauth.Answer op → State → Prop} (plain : op.plain = true)
    (settled : Settled pid fact) (lasting : ∀ answer, Settled pid (told answer))
    (tells : ∀ state drawn answer after, fact state → perform pid op drawn state = some (answer, after) →
      told answer after) :
    setting.Triple pid request fact (OAuth.ask op) fun answer state => fact state ∧ told answer state := by
  refine Triple.ask_lawful setting_lawful settled.rely (fun answer => (settled.and (lasting answer)).rely) ?_ ?_
  · intro state _ _
    cases op with
    | commit => cases plain
    | _ => trivial
  · intro state drawn answer after _ known _ performed
    exact ⟨settled.own state after known (perform_plain plain performed), tells state drawn answer after known performed⟩

theorem utcnow_spec (settled : Settled pid fact) :
    setting.Triple pid request fact (OAuth.ask .utcnow) fun (now : Int) state => fact state ∧ HasRead pid now state := by
  refine @statement pid request fact .utcnow _ rfl settled (fun (now : Int) => hasRead_settled now) ?_
  intro state drawn answer after _ performed
  simp only [perform] at performed
  split at performed
  · cases performed
    exact List.mem_cons_self
  · cases performed

theorem readAfter_spec (grant : ClientGrant) (settled : Settled pid fact) :
    setting.Triple pid request (fun state => fact state ∧ Told pid grant state) (OAuth.ask .utcnow)
      fun (now : Int) state => (fact state ∧ Told pid grant state) ∧ ReadAfter pid grant now state := by
  refine @statement pid request _ .utcnow _ rfl (settled.and (told_settled grant))
    (fun (now : Int) => readAfter_settled grant now) ?_
  intro state drawn answer after known performed
  simp only [perform] at performed
  split at performed
  · cases performed
    exact ⟨[], state.log, rfl, known.2⟩
  · cases performed

theorem codeForUpdate_spec (codeHash : String) (settled : Settled pid fact) :
    setting.Triple pid request fact (OAuth.ask (.codeForUpdate codeHash))
      fun (row : Option McpAuthorizationCode) state => fact state ∧ ∀ code, row = some code → HoldsCode pid code state := by
  apply statement rfl settled fun row => Settled.forall' fun code => (holdsCode_settled code).imp
  intro state drawn answer after _ performed
  simp only [perform] at performed
  split at performed
  · cases performed
    exact fun _ impossible => by cases impossible
  · next code found =>
    split at performed
    · cases performed
      rintro _ ⟨⟩
      rw [HoldsCode, Table.find_key found]
      exact ⟨Function.update_self .., found⟩
    · cases performed

theorem grantForUpdate_spec (id clientId : String) (settled : Settled pid fact) :
    setting.Triple pid request fact (OAuth.ask (.grantForUpdate id clientId))
      fun (row : Option ClientGrant) state => fact state ∧
        ∀ grant, row = some grant → (HoldsGrant pid grant state ∧ Told pid grant state) ∧ grant.id = id := by
  apply statement rfl settled fun row => Settled.forall' fun grant =>
    (((holdsGrant_settled grant).and (told_settled grant)).and (Settled.const (grant.id = id))).imp
  intro state drawn answer after _ performed
  simp only [perform] at performed
  split at performed
  · cases performed
    exact fun _ impossible => by cases impossible
  · next grant found =>
    split at performed
    · cases performed
      rintro _ ⟨⟩
      obtain ⟨found, -⟩ := Option.filter_eq_some_iff.mp found
      rw [HoldsGrant, Table.find_key found]
      exact ⟨⟨⟨Function.update_self .., found⟩, List.mem_cons_self⟩, rfl⟩
    · cases performed

theorem tell_told {row answer : Option ClientGrant} {grant : ClientGrant}
    (performed : some (state.tell pid row) = some (answer, after)) (shown : answer = some grant) : Told pid grant after := by
  subst shown
  cases row with
  | none => cases performed
  | some row =>
    cases performed
    exact List.mem_cons_self

theorem activeGrant_ask_spec (id clientId : String) (settled : Settled pid fact) :
    setting.Triple pid request fact (OAuth.ask (.activeGrant id clientId))
      fun (row : Option ClientGrant) state => fact state ∧ ∀ grant, row = some grant → Told pid grant state := by
  apply statement rfl settled fun row => Settled.forall' fun grant => (told_settled grant).imp
  exact fun _ _ _ _ _ performed _ shown => tell_told performed shown

theorem grantById_spec (id principalId tenantId : String) (settled : Settled pid fact) :
    setting.Triple pid request fact (OAuth.ask (.grantById id principalId tenantId))
      fun (row : Option ClientGrant) state => fact state ∧ ∀ grant, row = some grant → Told pid grant state := by
  apply statement rfl settled fun row => Settled.forall' fun grant => (told_settled grant).imp
  exact fun _ _ _ _ _ performed _ shown => tell_told performed shown

theorem grantOf_spec (principalId tenantId clientId : String) (settled : Settled pid fact) :
    setting.Triple pid request fact (OAuth.ask (.grantOf principalId tenantId clientId))
      fun (row : Option ClientGrant) state => fact state ∧ ∀ grant, row = some grant → Told pid grant state := by
  apply statement rfl settled fun row => Settled.forall' fun grant => (told_settled grant).imp
  exact fun _ _ _ _ _ performed _ shown => tell_told performed shown

theorem commit_spec {change : Change} (settled : Settled pid fact) (ready : ∀ state, fact state → Ready pid state change) :
    setting.Triple pid request fact (OAuth.commit change) fun _ _ => True := by
  apply Triple.bind fun _ _ => True
  · exact Triple.ask_lawful setting_lawful settled.rely (fun _ => (Settled.const True).rely)
      (fun state _ known => ready state known) fun _ _ _ _ _ _ _ _ => trivial
  · intro (committed : Bool)
    cases committed with
    | true => exact Triple.pure (Settled.const True).rely fun _ _ => trivial
    | false => exact Triple.raise

theorem check_spec {α : Type} {condition : Prop} [Decidable condition] {statusCode : Nat} {detail : String} {next : OAuth α}
    {post : α → State → Prop} (passes : ¬condition → setting.Triple pid request fact next post) :
    setting.Triple pid request fact (if condition then OAuth.http statusCode detail else next) post := by
  split
  · exact Triple.raise
  · next fails => exact passes fails

/-! ### The endpoints -/

theorem consumeAuthorizationCode_spec (settings : OAuthSettings) (code clientId redirectUri codeVerifier resource : String) :
    setting.Triple pid request (Quiet pid)
      (consumeAuthorizationCode settings code clientId redirectUri codeVerifier resource)
      fun result state => (Quiet pid state ∧ HoldsCode pid result.1 state) ∧ result.1.consumedAt = none := by
  apply Triple.bind _ (codeForUpdate_spec (settings.codeHash code) quiet_settled)
  intro (row : Option McpAuthorizationCode)
  have held : Settled pid fun state => Quiet pid state ∧ ∀ code, row = some code → HoldsCode pid code state :=
    quiet_settled.and (Settled.forall' fun code => (holdsCode_settled code).imp)
  apply Triple.bind _ (utcnow_spec held)
  intro (now : Int)
  cases row with
  | none => exact Triple.raise
  | some row =>
    refine check_spec fun unused => check_spec fun _ => check_spec fun _ => check_spec fun _ => check_spec fun _ => ?_
    refine Triple.pure ((quiet_settled.and (holdsCode_settled row)).and (Settled.const _)).rely ?_
    rintro state ⟨⟨quiet, holds⟩, -⟩
    exact ⟨⟨quiet, holds row rfl⟩, not_not.mp unused⟩

def Redeeming (pid : Nat) (payload : TokenPayload) (result : ClientGrant × Int) (state : State) : Prop :=
  (Quiet pid state ∧ HoldsGrant pid result.1 state) ∧
    (result.1.status = .active ∧ payload.grantId = result.1.id ∧
      payload.refreshGeneration = result.1.refreshGeneration) ∧
    ∃ now, ReadAfter pid result.1 now state ∧ rotated now result.1.updatedAt = .ok result.2

theorem redeeming_settled (payload : TokenPayload) (result : ClientGrant × Int) :
    Settled pid (Redeeming pid payload result) :=
  (quiet_settled.and (holdsGrant_settled result.1)).and ((Settled.const _).and
    (Settled.exists' fun now => (readAfter_settled result.1 now).and (Settled.const _)))

def Locked (pid : Nat) (payload : TokenPayload) (grant : ClientGrant) (now : Int) (state : State) : Prop :=
  ((Quiet pid state ∧ HoldsGrant pid grant state ∧ grant.id = payload.grantId) ∧ Told pid grant state) ∧
    ReadAfter pid grant now state

theorem holding_settled (payload : TokenPayload) (grant : ClientGrant) :
    Settled pid fun state => Quiet pid state ∧ HoldsGrant pid grant state ∧ grant.id = payload.grantId :=
  quiet_settled.and ((holdsGrant_settled grant).and (Settled.const _))

theorem locked_settled (payload : TokenPayload) (grant : ClientGrant) (now : Int) :
    Settled pid (Locked pid payload grant now) :=
  ((holding_settled payload grant).and (told_settled grant)).and (readAfter_settled grant now)

theorem consumeRefreshToken_spec (payload : TokenPayload) (clientId resource : String) :
    setting.Triple pid request (Quiet pid) (consumeRefreshToken payload clientId resource) (Redeeming pid payload) := by
  refine check_spec fun _ => ?_
  apply Triple.bind _ (grantForUpdate_spec payload.grantId clientId quiet_settled)
  intro (row : Option ClientGrant)
  cases row with
  | none =>
    apply Triple.bind fun _ _ => True
    · apply Triple.weaken (utcnow_spec (Settled.const True))
      · exact fun _ _ => trivial
      · exact fun _ _ _ => trivial
    · exact fun _ => Triple.raise
  | some grant =>
    apply Triple.bind (Locked pid payload grant)
    · apply Triple.weaken (readAfter_spec grant (holding_settled payload grant))
      · rintro state ⟨quiet, known⟩
        obtain ⟨⟨holds, told⟩, same⟩ := known grant rfl
        exact ⟨⟨quiet, holds, same⟩, told⟩
      · exact fun _ _ known => known
    intro now
    split
    · exact Triple.raise
    · next kept shown =>
      obtain ⟨same, condition⟩ := Option.filter_eq_some_iff.mp shown
      cases same
      obtain ⟨active, -⟩ := of_decide_eq_true condition
      refine check_spec fun _ => check_spec fun _ => ?_
      split
      · next stale =>
        apply Triple.bind fun _ _ => True
        · apply commit_spec (locked_settled payload grant now)
          rintro state ⟨⟨⟨quiet, holds, same⟩, -⟩, read⟩
          exact ⟨quiet, holds, active, same.symm, stale, read⟩
        · exact fun _ => Triple.raise
      · next fresh =>
        obtain ⟨-, same⟩ := not_or.mp fresh
        apply Triple.bind_ofExcept
        intro stamp rotation
        refine Triple.pure ?_ ?_
        · exact (redeeming_settled payload (grant, stamp)).rely
        rintro state ⟨⟨⟨quiet, holds, identity⟩, -⟩, read⟩
        exact ⟨⟨quiet, holds⟩, ⟨active, identity.symm, not_not.mp same⟩, now, read, rotation⟩

theorem activeGrant_spec (grantId clientId : String) (settled : Settled pid fact) :
    setting.Triple pid request fact (activeGrant grantId clientId) fun grant state => fact state ∧ Told pid grant state := by
  apply Triple.bind _ (activeGrant_ask_spec grantId clientId settled)
  intro (row : Option ClientGrant)
  split
  · exact Triple.raise
  · next grant shown =>
    obtain ⟨rfl, -⟩ := Option.filter_eq_some_iff.mp shown
    have known : ∀ state, (fact state ∧ ∀ other, some grant = some other → Told pid other state) →
        fact state ∧ Told pid grant state := fun state both => ⟨both.1, both.2 grant rfl⟩
    have kept := settled.and (told_settled grant)
    split
    · exact Triple.pure kept.rely known
    · next expiresAt _ =>
      apply Triple.bind fun _ state => fact state ∧ Told pid grant state
      · apply Triple.weaken (utcnow_spec kept) known
        exact fun _ _ both => both.1
      · intro (now : Int)
        exact check_spec fun _ => Triple.pure kept.rely fun _ both => both

theorem sameIdentity_spec (grant : ClientGrant) (principalId tenantId : String) (settled : Settled pid fact) :
    setting.Triple pid request fact (sameIdentity grant principalId tenantId) fun _ => fact :=
  check_spec fun _ => Triple.pure settled.rely fun _ known => known

theorem oauthToken_spec (settings : OAuthSettings) (form : TokenForm) (loaded : Except String TokenPayload) :
    setting.Triple pid request (Quiet pid) (oauthToken settings form loaded) fun _ _ => True := by
  have done : ∀ token : TokenPayload, setting.Triple pid request (fun _ => True) (pure token : OAuth TokenPayload)
      fun _ _ => True := fun _ => Triple.pure (Settled.const True).rely fun _ _ => trivial
  apply Triple.bind fun _ => Quiet pid
  · exact check_spec fun _ => check_spec fun _ => Triple.pure quiet_settled.rely fun _ quiet => quiet
  intro _
  refine check_spec fun _ => ?_
  split
  · split
    · next code redirectUri codeVerifier _ _ _ =>
      apply Triple.bind _ (consumeAuthorizationCode_spec settings code _ redirectUri codeVerifier _)
      rintro ⟨row, now⟩
      have kept : Settled pid fun state => (Quiet pid state ∧ HoldsCode pid row state) ∧ row.consumedAt = none :=
        (quiet_settled.and (holdsCode_settled row)).and (Settled.const _)
      apply Triple.bind _ (activeGrant_spec row.grantId form.clientId kept)
      intro grant
      apply Triple.bind _ (sameIdentity_spec grant _ _ (kept.and (told_settled grant)))
      intro _
      apply Triple.bind fun _ _ => True
      · apply commit_spec (kept.and (told_settled grant))
        rintro state ⟨⟨⟨quiet, holds⟩, unused⟩, told⟩
        exact ⟨quiet, holds, unused, grant, _, _, told, rfl⟩
      · exact fun _ => done _
    · exact Triple.raise
  · split
    · split
      · exact Triple.raise
      · exact Triple.raise
      · next payload _ =>
        apply Triple.bind _ (consumeRefreshToken_spec payload _ _)
        rintro ⟨grant, stamp⟩
        apply Triple.bind _ (sameIdentity_spec grant _ _ (redeeming_settled payload (grant, stamp)))
        intro _
        apply Triple.bind fun _ _ => True
        · apply commit_spec (redeeming_settled payload (grant, stamp))
          rintro state ⟨⟨quiet, holds⟩, ⟨active, identity, generation⟩, rotation⟩
          exact ⟨quiet, holds, active, identity, generation, rotation, _, _, rfl⟩
        · exact fun _ => done _
    · exact Triple.raise

theorem createClientGrant_spec (payload : ClientGrantInput) (owner : Owner) :
    setting.Triple pid request (Quiet pid) (createClientGrant payload owner) fun _ _ => True := by
  apply Triple.bind fun _ => Quiet pid
  · exact check_spec fun _ => Triple.pure quiet_settled.rely fun _ quiet => quiet
  intro _
  refine check_spec fun _ => check_spec fun _ => ?_
  apply Triple.bind _ (grantOf_spec owner.principalId owner.tenantId _ quiet_settled)
  intro (row : Option ClientGrant)
  apply Triple.bind_ofExcept
  intro scopes _
  cases row with
  | some existing =>
    apply Triple.bind _ (Triple.weaken (readAfter_spec existing quiet_settled)
      (fun _ known => ⟨known.1, known.2 existing rfl⟩) fun _ _ known => known)
    intro (now : Int)
    apply commit_spec ((quiet_settled.and (told_settled existing)).and (readAfter_settled existing now))
    exact fun state known => ⟨known.1.1, known.2⟩
  | none =>
    apply Triple.bind fun _ => Quiet pid
    · have drawn : setting.Triple pid request (Quiet pid) (OAuth.ask .uid) fun (_ : String) state => Quiet pid state ∧ True :=
        @statement pid request _ .uid _ rfl quiet_settled (fun _ => Settled.const True) fun _ _ _ _ _ _ => trivial
      exact Triple.weaken drawn (fun _ known => known.1) fun _ _ known => known.1
    intro (id : String)
    apply Triple.bind fun _ => Quiet pid
    · exact Triple.weaken (utcnow_spec quiet_settled) (fun _ known => known) fun _ _ known => known.1
    intro (createdAt : Int)
    apply Triple.bind _ (utcnow_spec quiet_settled)
    intro (updatedAt : Int)
    apply commit_spec (quiet_settled.and (hasRead_settled updatedAt))
    exact fun _ known => known

theorem revokeClientGrant_spec (grantId : String) (owner : Owner) :
    setting.Triple pid request (Quiet pid) (revokeClientGrant grantId owner) fun _ _ => True := by
  apply Triple.bind fun _ => Quiet pid
  · exact check_spec fun _ => Triple.pure quiet_settled.rely fun _ quiet => quiet
  intro _
  apply Triple.bind _ (grantById_spec grantId owner.principalId owner.tenantId quiet_settled)
  intro (row : Option ClientGrant)
  cases row with
  | none => exact Triple.raise
  | some row =>
    apply Triple.bind _ (Triple.weaken (readAfter_spec row quiet_settled)
      (fun _ known => ⟨known.1, known.2 row rfl⟩) fun _ _ known => known)
    intro (now : Int)
    apply commit_spec ((quiet_settled.and (told_settled row)).and (readAfter_settled row now))
    exact fun state known => ⟨known.1.1, known.2⟩

theorem answer_spec (settings : OAuthSettings) :
    setting.Triple pid request (Quiet pid) (answer settings request) fun _ _ => True := by
  have done : ∀ reply : Reply, setting.Triple pid request (fun _ => True) (pure reply : OAuth Reply)
      fun _ _ => True := fun _ => Triple.pure (Settled.const True).rely fun _ _ => trivial
  cases request with
  | token form loaded => exact Triple.bind _ (oauthToken_spec settings form loaded) fun _ => done _
  | authorize code =>
    apply Triple.bind _ (commit_spec quiet_settled _) fun _ => done _
    exact fun _ _ => rfl
  | consent payload owner => exact Triple.bind _ (createClientGrant_spec payload owner) fun _ => done _
  | revoke grantId owner => exact Triple.bind _ (revokeClientGrant_spec grantId owner) fun _ => done _

end Session

theorem verified (settings : OAuthSettings) :
    Verified setting (main settings) (fun pid state => ∀ entry ∈ state.log, entry.pid ≠ pid) fun _ _ _ _ => True where
  fresh_stable pid := by
    intro before after fresh step
    obtain ⟨more, grown, others⟩ := step.log
    intro entry member
    rw [grown] at member
    cases List.mem_append.mp member with
    | inl late => exact others entry late
    | inr early => exact fresh entry early
  starts pid request state _ fresh := by
    have quiet : Quiet pid state := fun entry member mine => absurd mine (fresh entry member)
    apply Safe.bind ((answer_spec settings).safe state quiet)
    intro result state _
    cases result with
    | ok reply => exact Safe.done (fun _ _ _ _ => trivial) trivial
    | error failure =>
      refine Safe.request (fun (_ _ : State) (known : True) _ => known) trivial (fun _ _ _ => trivial) ?_
      intro state drawn answered after _ _ _ performed
      obtain ⟨-, promised⟩ := setting_lawful pid request .rollback drawn state answered after trivial trivial trivial performed
      exact ⟨trivial, promised, Safe.done (fun _ _ _ _ => trivial) trivial⟩
  crashes pid request state _ := ⟨trivial, fun _ apart => release_rely apart⟩

theorem idle_sound {start : State} (fresh : start.log = []) :
    Sound setting (fun pid state => ∀ entry ∈ state.log, entry.pid ≠ pid) (fun _ _ _ _ => True)
      (Pool.initial start : Pool oauth Request (Except OAuthFailure Reply) State) := by
  refine ⟨trivial, fun pid _ entry member => ?_, fun _ _ _ absent => by cases absent⟩
  have empty : (Pool.initial start : Pool oauth Request (Except OAuthFailure Reply) State).shared.log = [] := fresh
  rw [empty] at member
  cases member

/-- The invariant rule: it is enough that statements, the ends of sessions and the commits that have what they
need keep the invariant. -/
theorem invariant_of_run {settings : OAuthSettings} {start : State} {inv : State → Prop}
    {condition : Nat → Request → Op → Drawn → State → Prop} (fresh : start.log = []) (initially : inv start)
    (statements : ∀ pid request op drawn state answer after, op.plain = true → condition pid request op drawn state →
      inv state → perform pid op drawn state = some (answer, after) → inv after)
    (releases : ∀ pid state, inv state → inv (state.release pid))
    (commits : ∀ pid request change drawn state after, condition pid request (.commit change) drawn state →
      Ready pid state change → inv state → state.apply pid drawn.now change = some after → inv after)
    {moves : List (Move Request Drawn)} {final : Pool oauth Request (Except OAuthFailure Reply) State}
    (run : Runs (Pool.step world (main settings)) (Pool.meets condition) (Pool.initial start) moves final) :
    inv final.shared := by
  let known (pool : Pool oauth Request (Except OAuthFailure Reply) State) : Prop :=
    Sound setting (fun pid state => ∀ entry ∈ state.log, entry.pid ≠ pid) (fun _ _ _ _ => True) pool ∧ inv pool.shared
  have first : known (Pool.initial start) := ⟨idle_sound fresh, initially⟩
  refine (run.invariant first ?_).2
  rintro pool move next ⟨sound, holds⟩ allowed moved
  have permitted : setting.permits pool move := by
    cases move with
    | start | crash => trivial
    | act => exact fun _ _ _ _ => trivial
  refine ⟨((verified settings).step sound permitted moved).1, ?_⟩
  cases move with
  | start pid request =>
    simp only [Pool.step] at moved
    split at moved
    · cases moved
      exact holds
    · cases moved
  | crash pid =>
    simp only [Pool.step] at moved
    split at moved
    · cases moved
      exact releases pid pool.shared holds
    · cases moved
  | act pid drawn =>
    simp only [Pool.step] at moved
    split at moved
    · next request op rest present =>
      obtain ⟨⟨answer, after⟩, performed, rfl⟩ := Option.map_eq_some_iff.mp moved
      have met := allowed request op rest present
      cases plain : op.plain with
      | true => exact statements pid request op drawn pool.shared answer after plain met holds performed
      | false =>
        cases op with
        | commit change =>
          have ready : Ready pid pool.shared change := Safe.issues (sound.running pid request _ present) trivial
          simp only [world, perform] at performed
          split at performed
          · split at performed
            · next applied =>
              cases performed
              exact releases pid _ (commits pid request change drawn pool.shared _ met ready holds applied)
            · cases performed
              exact releases pid pool.shared holds
          · cases performed
        | rollback =>
          cases performed
          exact releases pid pool.shared holds
        | utcnow | uid | codeForUpdate | grantForUpdate | activeGrant | grantById | grantOf => cases plain
    · cases moved

end Operly.Mcp
