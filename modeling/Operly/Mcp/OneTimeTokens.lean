import Mathlib.Data.List.Dedup
import Operly.Mcp.Issuance

/-! Codes and refresh generations are used once. The generation of a grant is the time of its last update; a
clock whose readings increase never gives it twice. -/

namespace Operly.Mcp
open Python Concurrent Relational

variable {pid : Nat} {state after : State}

def Entry.sameCode : Entry → Entry → Prop
  | .exchanged _ code _, .exchanged _ other _ => code.codeHash = other.codeHash
  | _, _ => False

def Entry.sameGeneration : Entry → Entry → Prop
  | .redeemed _ presented _ _, .redeemed _ other _ _ =>
      presented.grantId = other.grantId ∧ presented.refreshGeneration = other.refreshGeneration
  | _, _ => False

/-- The newer entry is a reading of the clock that is later than what the older one shows. -/
def Entry.later : Entry → Entry → Prop
  | .read _ now, .read _ time => time < now
  | .read _ now, .told _ grant => grant.updatedAt < now
  | _, _ => True

theorem countP_le_one {α : Type} {apart : α → α → Prop} {p : α → Bool} {list : List α} (pairs : list.Pairwise apart)
    (never : ∀ first second, p first = true → p second = true → ¬apart first second) : list.countP p ≤ 1 := by
  induction pairs with
  | nil => exact Nat.zero_le _
  | @cons first rest others _ ih =>
    rw [List.countP_cons]
    by_cases holds : p first = true
    · have none : rest.countP p = 0 := by
        rw [List.countP_eq_zero]
        exact fun second member holds' => never first second holds holds' (others second member)
      rw [none, if_pos holds]
    · rw [if_neg holds]
      exact ih

/-! ### Codes -/

/-- An exchanged code is consumed, and no other exchange is of the same code. -/
structure OneTime (state : State) : Prop where
  once : state.log.Pairwise fun newer older => ¬newer.sameCode older
  consumed : ∀ pid code token, .exchanged pid code token ∈ state.log →
    ∃ row, state.codes.find code.codeHash = some row ∧ row.consumedAt ≠ none

theorem Entry.not_sameCode {newer : Entry} (plain : ∀ pid code token, newer ≠ .exchanged pid code token) (older : Entry) :
    ¬newer.sameCode older := by
  cases newer with
  | exchanged pid code token => exact absurd rfl (plain pid code token)
  | _ => exact id

theorem OneTime.grow (held : OneTime state) {more : List Entry} (grown : after.log = more ++ state.log)
    (plain : ∀ entry ∈ more, ∀ pid code token, entry ≠ .exchanged pid code token)
    (kept : ∀ hash row, state.codes.find hash = some row → row.consumedAt ≠ none →
      ∃ row', after.codes.find hash = some row' ∧ row'.consumedAt ≠ none) : OneTime after where
  once := by
    rw [grown, List.pairwise_append]
    refine ⟨?_, held.once, fun newer member older _ => Entry.not_sameCode (plain newer member) older⟩
    exact List.pairwise_of_forall_mem_list fun newer member older _ => Entry.not_sameCode (plain newer member) older
  consumed := by
    intro pid code token member
    rw [grown] at member
    cases List.mem_append.mp member with
    | inl late => exact absurd rfl (plain _ late pid code token)
    | inr early =>
      obtain ⟨row, found, consumed⟩ := held.consumed pid code token early
      exact kept _ row found consumed

theorem OneTime.same (held : OneTime state) {more : List Entry} (grown : after.log = more ++ state.log)
    (plain : ∀ entry ∈ more, ∀ pid code token, entry ≠ .exchanged pid code token) (codes : after.codes = state.codes) :
    OneTime after :=
  held.grow grown plain fun _ row found consumed => ⟨row, codes ▸ found, consumed⟩

theorem OneTime.exchange (held : OneTime state) {code now : McpAuthorizationCode} {consumedAt : Int} {token : TokenPayload}
    (found : state.codes.find code.codeHash = some code) (unused : code.consumedAt = none)
    (current : state.codes.find code.codeHash = some now) :
    OneTime ({ state with codes := state.codes.replace { now with consumedAt := some consumedAt } }.note
      (.exchanged pid code token)) where
  once := by
    refine List.pairwise_cons.mpr ⟨?_, held.once⟩
    intro older member same
    cases older with
    | exchanged pid' other token' =>
      have hash : code.codeHash = other.codeHash := same
      obtain ⟨row, known, consumed⟩ := held.consumed pid' other token' member
      rw [← hash, found] at known
      cases known
      exact consumed unused
    | _ => exact same
  consumed := by
    have stays : ∀ hash row, state.codes.find hash = some row → (hash = code.codeHash ∨ row.consumedAt ≠ none) →
        ∃ row', (state.codes.replace { now with consumedAt := some consumedAt }).find hash = some row' ∧
          row'.consumedAt ≠ none := by
      intro hash row known consumed
      rw [Table.find_replace]
      split
      · exact ⟨_, by rw [known, Option.map_some], Option.some_ne_none _⟩
      · next other =>
        refine ⟨row, known, consumed.resolve_left ?_⟩
        rintro rfl
        exact other (Table.find_key current).symm
    intro pid' other token' member
    cases List.mem_cons.mp member with
    | inl new =>
      cases new
      exact stays _ now current (.inl rfl)
    | inr old =>
      obtain ⟨row, known, consumed⟩ := held.consumed pid' other token' old
      exact stays _ row known (.inr consumed)

theorem OneTime.commit {change : Change} {onupdate : Int} (held : OneTime state) (ready : Ready pid state change)
    (applied : state.apply pid onupdate change = some after) : OneTime after := by
  have other : ∀ {next : State} {entry : Entry}, next.log = entry :: state.log →
      (∀ pid code token, entry ≠ .exchanged pid code token) → next.codes = state.codes → OneTime next := by
    intro next entry log plain codes
    have grown : next.log = [entry] ++ state.log := log
    refine held.same grown ?_ codes
    intro only member
    rw [List.mem_singleton.mp member]
    exact plain
  cases change with
  | issued code =>
    simp only [State.apply] at applied
    split at applied
    · cases applied
    · cases applied
      refine held.grow (List.nil_append _).symm (fun _ absent => absurd absent List.not_mem_nil) ?_
      intro hash row found consumed
      refine ⟨row, ?_, consumed⟩
      show (state.codes.insert code).find hash = some row
      rw [Table.find_insert, found]
      rfl
  | exchanged code consumedAt token =>
    obtain ⟨-, mine, unused, -⟩ := ready
    obtain ⟨now, current, rfl⟩ := Option.map_eq_some_iff.mp applied
    exact held.exchange mine.2 unused current
  | granted row =>
    simp only [State.apply] at applied
    split at applied
    · cases applied
    · cases applied
      exact other rfl (fun _ _ _ same => by cases same) rfl
  | redeemed | alarmed | consented | revoked =>
    obtain ⟨now, -, rfl⟩ := apply_edit rfl applied
    exact other rfl (fun _ _ _ same => by cases same) rfl

/-! ### Readings of the clock -/

inductive Recorded (pid : Nat) (drawn : Drawn) (state after : State) : Op → Prop where
  | nothing {op : Op} (log : after.log = state.log) (clock : after.clock = state.clock) : Recorded pid drawn state after op
  | reading (inRange : Time.inRange drawn.now = true) (log : after.log = .read pid drawn.now :: state.log)
      (clock : after.clock = drawn.now) : Recorded pid drawn state after .utcnow
  | telling {op : Op} {grant : ClientGrant} (found : state.grants.find grant.id = some grant)
      (log : after.log = .told pid grant :: state.log) (clock : after.clock = state.clock) : Recorded pid drawn state after op

theorem tell_recorded {op : Op} {drawn : Drawn} {row : Option ClientGrant}
    (found : ∀ grant, row = some grant → state.grants.find grant.id = some grant) :
    Recorded pid drawn state (state.tell pid row).2 op := by
  cases row with
  | none => exact .nothing rfl rfl
  | some grant => exact .telling (found grant rfl) rfl rfl

theorem find_filtered {grants : Grants} {id : String} {condition : ClientGrant → Bool} {grant : ClientGrant}
    (shown : (grants.find id).filter condition = some grant) : grants.find grant.id = some grant := by
  obtain ⟨found, -⟩ := Option.filter_eq_some_iff.mp shown
  rw [Table.find_key found]
  exact found

theorem perform_recorded {op : Op} {drawn : Drawn} {answer : oauth.Answer op} (plain : op.plain = true)
    (performed : perform pid op drawn state = some (answer, after)) : Recorded pid drawn state after op := by
  cases op with
  | utcnow =>
    simp only [perform] at performed
    split at performed
    · next inRange =>
      cases performed
      exact .reading inRange rfl rfl
    · cases performed
  | uid =>
    cases performed
    exact .nothing rfl rfl
  | codeForUpdate codeHash =>
    simp only [perform] at performed
    split at performed
    · cases performed
      exact .nothing rfl rfl
    · split at performed
      · cases performed
        exact .nothing rfl rfl
      · cases performed
  | grantForUpdate id clientId =>
    simp only [perform] at performed
    split at performed
    · cases performed
      exact .nothing rfl rfl
    · next shown =>
      split at performed
      · cases performed
        exact .telling (find_filtered shown) rfl rfl
      · cases performed
  | activeGrant id clientId =>
    have same : (state.tell pid _).2 = after := congrArg Prod.snd (Option.some.inj performed)
    exact same ▸ tell_recorded fun _ => find_filtered
  | grantById id principalId tenantId =>
    have same : (state.tell pid _).2 = after := congrArg Prod.snd (Option.some.inj performed)
    exact same ▸ tell_recorded fun _ => find_filtered
  | grantOf principalId tenantId clientId =>
    have same : (state.tell pid _).2 = after := congrArg Prod.snd (Option.some.inj performed)
    exact same ▸ tell_recorded fun _ shown => Table.find_of_mem (Table.first_spec shown).1
  | commit | rollback => cases plain

/-- Every reading is later than what was read or told before, and no stamp is later than the clock. -/
structure Clocked (origin : Int) (state : State) : Prop where
  ordered : state.log.Pairwise Entry.later
  start : origin ≤ state.clock
  readings : ∀ pid now, .read pid now ∈ state.log → Time.inRange now = true ∧ origin < now ∧ now ≤ state.clock
  tellings : ∀ pid grant, .told pid grant ∈ state.log → grant.updatedAt ≤ state.clock
  rows : ∀ id grant, state.grants.find id = some grant → Time.inRange grant.updatedAt = true ∧ grant.updatedAt ≤ state.clock

theorem Entry.later_of_commits {newer : Entry} (commits : newer.commits = true) (older : Entry) : newer.later older := by
  cases newer with
  | read | told => cases commits
  | exchanged | redeemed | alarmed | edited => trivial

namespace Clocked
variable {origin : Int}

theorem recorded {op : Op} {drawn : Drawn} (held : Clocked origin state) (ticking : op = .utcnow → state.clock < drawn.now)
    (recorded : Recorded pid drawn state after op) (same : after.grants = state.grants) : Clocked origin after := by
  cases recorded with
  | nothing log clock =>
    constructor
    · exact log ▸ held.ordered
    · exact clock ▸ held.start
    · exact log ▸ clock ▸ held.readings
    · exact log ▸ clock ▸ held.tellings
    · exact same ▸ clock ▸ held.rows
  | reading inRange log clock =>
    have tick : state.clock < after.clock := clock ▸ ticking rfl
    constructor
    · rw [log]
      refine List.pairwise_cons.mpr ⟨?_, held.ordered⟩
      intro older member
      cases older with
      | read pid' now =>
        have known := (held.readings pid' now member).2.2
        show now < drawn.now
        omega
      | told pid' grant =>
        have known := held.tellings pid' grant member
        show grant.updatedAt < drawn.now
        omega
      | _ => trivial
    · exact held.start.trans tick.le
    · intro pid' now member
      rw [log] at member
      cases List.mem_cons.mp member with
      | inl new =>
        cases new
        have start := held.start
        exact ⟨inRange, by omega, clock.ge⟩
      | inr old =>
        obtain ⟨proper, late, early⟩ := held.readings pid' now old
        exact ⟨proper, late, early.trans tick.le⟩
    · intro pid' grant member
      rw [log] at member
      cases List.mem_cons.mp member with
      | inl new => cases new
      | inr old => exact (held.tellings pid' grant old).trans tick.le
    · intro id grant found
      rw [same] at found
      obtain ⟨proper, early⟩ := held.rows id grant found
      exact ⟨proper, early.trans tick.le⟩
  | @telling _ grant found log clock =>
    constructor
    · rw [log]
      exact List.pairwise_cons.mpr ⟨fun _ _ => trivial, held.ordered⟩
    · exact clock ▸ held.start
    · intro pid' now member
      rw [log] at member
      cases List.mem_cons.mp member with
      | inl new => cases new
      | inr old => exact clock ▸ held.readings pid' now old
    · intro pid' other member
      rw [log] at member
      rw [clock]
      cases List.mem_cons.mp member with
      | inl new =>
        cases new
        exact (held.rows _ grant found).2
      | inr old => exact held.tellings pid' other old
    · exact same ▸ clock ▸ held.rows

theorem read_once (held : Clocked origin state) {other : Nat} {now : Int} (mine : .read pid now ∈ state.log)
    (theirs : .read other now ∈ state.log) : pid = other := by
  have ordered := held.ordered
  clear held
  generalize state.log = log at ordered mine theirs
  induction ordered with
  | nil => cases mine
  | @cons entry rest before _ ih =>
    cases List.mem_cons.mp mine with
    | inl first =>
      cases List.mem_cons.mp theirs with
      | inl second =>
        cases first.trans second.symm
        rfl
      | inr later =>
        subst first
        exact absurd (before _ later) (lt_irrefl now)
    | inr later =>
      cases List.mem_cons.mp theirs with
      | inl second =>
        subst second
        exact absurd (before _ later) (lt_irrefl now)
      | inr later' => exact ih later later'

theorem read_after (held : Clocked origin state) {grant : ClientGrant} {now : Int} (read : ReadAfter pid grant now state) :
    grant.updatedAt < now := by
  obtain ⟨later, earlier, shape, told⟩ := read
  have ordered := held.ordered
  rw [shape, List.pairwise_append] at ordered
  exact (List.pairwise_cons.mp ordered.2.1).1 _ told

end Clocked

/-- A commit leaves a grant as it is, or stamps it with a reading of its session. -/
structure Stamped (pid : Nat) (state after : State) : Prop where
  clock : after.clock = state.clock
  log : after.log = state.log ∨ ∃ entry, entry.pid = pid ∧ entry.commits = true ∧ after.log = entry :: state.log
  rows : ∀ id row, after.grants.find id = some row → state.grants.find id = some row ∨
    (Quiet pid state ∧ HasRead pid row.updatedAt state ∧ ¬Quiet pid after)

theorem not_quiet {entry : Entry} (mine : entry.pid = pid) (commits : entry.commits = true)
    (log : after.log = entry :: state.log) : ¬Quiet pid after := by
  intro quiet
  have plain := quiet entry (log ▸ List.mem_cons_self) mine
  rw [commits] at plain
  cases plain

theorem edit_stamp {edit : GrantEdit} (later : edit.loaded.updatedAt < edit.updatedAt) (now : ClientGrant) (onupdate : Int) :
    (edit.row now onupdate).updatedAt = edit.updatedAt :=
  if_pos later.ne'

section Commits
variable {origin : Int} {change : Change} {onupdate : Int}

theorem edit_reading {edit : GrantEdit} (clocked : Clocked origin state) (ready : Ready pid state change)
    (edits : change.edit = some edit) :
    Quiet pid state ∧ HasRead pid edit.updatedAt state ∧ edit.loaded.updatedAt < edit.updatedAt := by
  have read : ∀ {grant : ClientGrant} {now : Int}, ReadAfter pid grant now state → HasRead pid now state := by
    rintro grant now ⟨later, earlier, shape, -⟩
    rw [HasRead, shape]
    exact List.mem_append_right _ List.mem_cons_self
  cases change with
  | issued | exchanged | granted => cases edits
  | redeemed loaded updatedAt presented token =>
    cases edits
    obtain ⟨quiet, -, -, -, -, ⟨now, after, rotation⟩, -⟩ := ready
    have later := clocked.read_after after
    rw [rotated, if_pos later] at rotation
    cases rotation
    exact ⟨quiet, read after, later⟩
  | alarmed loaded updatedAt presented =>
    cases edits
    obtain ⟨quiet, -, -, -, -, after⟩ := ready
    exact ⟨quiet, read after, clocked.read_after after⟩
  | consented loaded scopes updatedAt =>
    cases edits
    exact ⟨ready.1, read ready.2, clocked.read_after ready.2⟩
  | revoked loaded updatedAt =>
    cases edits
    exact ⟨ready.1, read ready.2, clocked.read_after ready.2⟩

theorem apply_stamped (clocked : Clocked origin state) (ready : Ready pid state change)
    (applied : state.apply pid onupdate change = some after) : Stamped pid state after := by
  cases change with
  | issued code =>
    simp only [State.apply] at applied
    split at applied
    · cases applied
    · cases applied
      exact ⟨rfl, .inl rfl, fun _ _ found => .inl found⟩
  | exchanged code consumedAt token =>
    obtain ⟨now, current, rfl⟩ := Option.map_eq_some_iff.mp applied
    exact ⟨rfl, .inr ⟨_, rfl, rfl, rfl⟩, fun _ _ found => .inl found⟩
  | granted row =>
    simp only [State.apply] at applied
    split at applied
    · cases applied
    · cases applied
      refine ⟨rfl, .inr ⟨_, rfl, rfl, rfl⟩, ?_⟩
      intro id other found
      change (state.grants.insert row).find id = some other at found
      rw [Table.find_insert] at found
      cases known : state.grants.find id with
      | some same =>
        rw [known] at found
        exact .inl found
      | none =>
        rw [known] at found
        split at found
        · cases found
          exact .inr ⟨ready.1, ready.2, not_quiet rfl rfl rfl⟩
        · cases found
  | redeemed | alarmed | consented | revoked =>
    obtain ⟨quiet, read, later⟩ := edit_reading clocked ready rfl
    obtain ⟨now, found, rfl⟩ := apply_edit rfl applied
    refine ⟨rfl, .inr ⟨_, Change.entry_pid _ now, Change.entry_commits _ now, rfl⟩, ?_⟩
    intro id row known
    change (state.grants.replace _).find id = some row at known
    rw [Table.find_replace] at known
    split at known
    · obtain ⟨_, -, rfl⟩ := Option.map_eq_some_iff.mp known
      rw [edit_stamp later]
      exact .inr ⟨quiet, read, not_quiet (Change.entry_pid _ now) (Change.entry_commits _ now) rfl⟩
    · exact .inl known

theorem Clocked.stamped (held : Clocked origin state) (stamped : Stamped pid state after) : Clocked origin after := by
  have older : ∀ entry : Entry, entry.commits = false → entry ∈ after.log → entry ∈ state.log := by
    intro entry plain member
    rcases stamped.log with same | ⟨new, -, commits, log⟩
    · exact same ▸ member
    · rw [log] at member
      cases List.mem_cons.mp member with
      | inl first =>
        rw [first, commits] at plain
        cases plain
      | inr rest => exact rest
  constructor
  · rcases stamped.log with same | ⟨new, -, commits, log⟩
    · exact same ▸ held.ordered
    · rw [log]
      exact List.pairwise_cons.mpr ⟨fun older _ => Entry.later_of_commits commits older, held.ordered⟩
  · exact stamped.clock ▸ held.start
  · exact fun pid now member => stamped.clock ▸ held.readings pid now (older _ rfl member)
  · exact fun pid grant member => stamped.clock ▸ held.tellings pid grant (older _ rfl member)
  · intro id row found
    rw [stamped.clock]
    rcases stamped.rows id row found with old | ⟨-, read, -⟩
    · exact held.rows id row old
    · obtain ⟨proper, -, early⟩ := held.readings pid row.updatedAt read
      exact ⟨proper, early⟩

end Commits

/-! ### Generations -/

/-- The stamp is not to come again: it is from before the record, or its session has committed. -/
def Spent (origin : Int) (state : State) (stamp : Int) : Prop :=
  stamp ≤ origin ∨ ∃ pid, .read pid stamp ∈ state.log ∧ ¬Quiet pid state

theorem Spent.grow {origin stamp : Int} {more : List Entry} (spent : Spent origin state stamp)
    (grown : after.log = more ++ state.log) : Spent origin after stamp := by
  refine spent.imp_right ?_
  rintro ⟨pid, read, committed⟩
  refine ⟨pid, grown ▸ List.mem_append_right _ read, fun quiet => committed ?_⟩
  exact fun entry member => quiet entry (grown ▸ List.mem_append_right _ member)

theorem Clocked.unspent {origin stamp : Int} (held : Clocked origin state) (quiet : Quiet pid state)
    (read : HasRead pid stamp state) : ¬Spent origin state stamp := by
  intro spent
  cases spent with
  | inl early =>
    have late := (held.readings pid stamp read).2.1
    omega
  | inr other =>
    obtain ⟨pid', theirs, committed⟩ := other
    exact committed (held.read_once read theirs ▸ quiet)

/-- A redeemed generation is no longer that of its grant, and no other redemption is of it. -/
structure Rotating (origin : Int) (state : State) : Prop where
  once : state.log.Pairwise fun newer older => ¬newer.sameGeneration older
  rows : ∀ id row, state.grants.find id = some row → Spent origin state row.updatedAt
  redeemed : ∀ pid presented token grant, .redeemed pid presented token grant ∈ state.log →
    presented.grantId = grant.id ∧ presented.refreshGeneration = grant.refreshGeneration ∧
      Time.inRange grant.updatedAt = true ∧ Spent origin state grant.updatedAt ∧
      ∀ row, state.grants.find grant.id = some row → row.updatedAt ≠ grant.updatedAt

theorem Entry.not_sameGeneration {newer : Entry} (plain : ∀ pid presented token grant, newer ≠ .redeemed pid presented token grant)
    (older : Entry) : ¬newer.sameGeneration older := by
  cases newer with
  | redeemed pid presented token grant => exact absurd rfl (plain pid presented token grant)
  | _ => exact id

namespace Rotating
variable {origin : Int}

theorem recorded {op : Op} {drawn : Drawn} (held : Rotating origin state) (recorded : Recorded pid drawn state after op)
    (same : after.grants = state.grants) : Rotating origin after := by
  have grown : ∃ more, after.log = more ++ state.log ∧
      ∀ entry ∈ more, ∀ pid presented token grant, entry ≠ .redeemed pid presented token grant := by
    have single : ∀ only : Entry, (∀ pid presented token grant, only ≠ .redeemed pid presented token grant) →
        ∀ entry ∈ [only], ∀ pid presented token grant, entry ≠ .redeemed pid presented token grant := by
      intro only plain entry member
      rw [List.mem_singleton.mp member]
      exact plain
    cases recorded with
    | nothing log => exact ⟨[], log, fun _ absent => absurd absent List.not_mem_nil⟩
    | reading _ log => exact ⟨[_], log, single _ fun _ _ _ _ same => by cases same⟩
    | telling _ log => exact ⟨[_], log, single _ fun _ _ _ _ same => by cases same⟩
  obtain ⟨more, log, plain⟩ := grown
  constructor
  · rw [log, List.pairwise_append]
    refine ⟨?_, held.once, fun newer member older _ => Entry.not_sameGeneration (plain newer member) older⟩
    exact List.pairwise_of_forall_mem_list fun newer member older _ => Entry.not_sameGeneration (plain newer member) older
  · intro id row found
    exact (held.rows id row (same ▸ found)).grow log
  · intro pid presented token grant member
    rw [log] at member
    cases List.mem_append.mp member with
    | inl late => exact absurd rfl (plain _ late pid presented token grant)
    | inr early =>
      obtain ⟨identity, generation, proper, spent, rows⟩ := held.redeemed pid presented token grant early
      exact ⟨identity, generation, proper, spent.grow log, same ▸ rows⟩

theorem commit {change : Change} {onupdate : Int} (held : Rotating origin state) (clocked : Clocked origin state)
    (ready : Ready pid state change) (applied : state.apply pid onupdate change = some after) : Rotating origin after := by
  have stamped : Stamped pid state after := apply_stamped clocked ready applied
  have grown : ∃ more, after.log = more ++ state.log := by
    rcases stamped.log with same | ⟨entry, -, -, log⟩
    · exact ⟨[], same⟩
    · exact ⟨[entry], log⟩
  obtain ⟨more, log⟩ := grown
  -- a new stamp is not among those that are spent
  have differs : ∀ {stamp : Int} {id : String} {row : ClientGrant}, Spent origin state stamp →
      (∀ row, state.grants.find id = some row → row.updatedAt ≠ stamp) → after.grants.find id = some row →
      row.updatedAt ≠ stamp := by
    intro stamp id row spent old found
    rcases stamped.rows id row found with same | ⟨quiet, read, -⟩
    · exact old row same
    · rintro rfl
      exact clocked.unspent quiet read spent
  have rows : ∀ id row, after.grants.find id = some row → Spent origin after row.updatedAt := by
    intro id row found
    rcases stamped.rows id row found with same | ⟨-, read, committed⟩
    · exact (held.rows id row same).grow log
    · exact .inr ⟨pid, log ▸ List.mem_append_right _ read, committed⟩
  have earlier : ∀ pid presented token grant, .redeemed pid presented token grant ∈ state.log →
      presented.grantId = grant.id ∧ presented.refreshGeneration = grant.refreshGeneration ∧
        Time.inRange grant.updatedAt = true ∧ Spent origin after grant.updatedAt ∧
        ∀ row, after.grants.find grant.id = some row → row.updatedAt ≠ grant.updatedAt := by
    intro pid presented token grant member
    obtain ⟨identity, generation, proper, spent, old⟩ := held.redeemed pid presented token grant member
    exact ⟨identity, generation, proper, spent.grow log, fun row found => differs spent old found⟩
  have other : ∀ entry, after.log = entry :: state.log →
      (∀ pid presented token grant, entry ≠ .redeemed pid presented token grant) → Rotating origin after := by
    intro entry log plain
    refine ⟨?_, rows, ?_⟩
    · rw [log]
      exact List.pairwise_cons.mpr ⟨fun older _ => Entry.not_sameGeneration plain older, held.once⟩
    · intro pid presented token grant member
      rw [log] at member
      cases List.mem_cons.mp member with
      | inl new => exact absurd new.symm (plain pid presented token grant)
      | inr old => exact earlier pid presented token grant old
  cases change with
  | issued code =>
    have same : after.log = state.log := by
      simp only [State.apply] at applied
      split at applied
      · cases applied
      · cases applied
        rfl
    exact ⟨same ▸ held.once, rows, fun pid presented token grant member => earlier pid presented token grant (same ▸ member)⟩
  | exchanged code consumedAt token =>
    obtain ⟨now, -, rfl⟩ := Option.map_eq_some_iff.mp applied
    exact other _ rfl fun _ _ _ _ same => by cases same
  | granted row =>
    simp only [State.apply] at applied
    split at applied
    · cases applied
    · cases applied
      exact other _ rfl fun _ _ _ _ same => by cases same
  | alarmed | consented | revoked =>
    obtain ⟨now, -, rfl⟩ := apply_edit rfl applied
    exact other _ rfl fun _ _ _ _ same => by cases same
  | redeemed loaded updatedAt presented token =>
    obtain ⟨-, read, later⟩ := edit_reading clocked ready rfl
    obtain ⟨now, current, rfl⟩ := apply_edit rfl applied
    obtain ⟨quiet, mine, -, identity, generation, -⟩ := ready
    have unchanged : now = loaded := Option.some.inj (current.symm.trans mine.2)
    subst unchanged
    have proper := (clocked.rows _ _ mine.2).1
    refine ⟨?_, rows, ?_⟩
    · refine List.pairwise_cons.mpr ⟨?_, held.once⟩
      intro older member same
      cases older with
      | redeemed pid' other token' grant =>
        obtain ⟨sameGrant, sameGeneration⟩ := same
        obtain ⟨identity', generation', proper', -, old⟩ := held.redeemed pid' other token' grant member
        have key : now.id = grant.id := by rw [← identity, sameGrant, identity']
        refine old now (key ▸ mine.2) (isoMicroseconds_inj proper proper' ?_)
        show now.refreshGeneration = grant.refreshGeneration
        rw [← generation, sameGeneration, generation']
      | _ => exact same
    · intro pid' presented' token' grant member
      cases List.mem_cons.mp member with
      | inl new =>
        cases new
        refine ⟨identity, generation, proper, (held.rows _ _ mine.2).grow log, ?_⟩
        intro row found
        change (state.grants.replace _).find now.id = some row at found
        rw [Table.find_replace, if_pos (show now.id = (GrantEdit.row _ now onupdate).id from rfl), mine.2] at found
        cases found
        rw [edit_stamp later]
        exact later.ne'
      | inr old => exact earlier pid' presented' token' grant old

end Rotating

/-! ### Scopes -/

def CoveredBy (scopes rules : List String) : Prop := ∀ scope ∈ scopes, ∃ rule ∈ rules, scopeRuleCovers rule scope = true

def Entry.issues : Entry → Option TokenPayload
  | .exchanged _ _ token | .redeemed _ _ token _ => some token
  | _ => none

/-- The scopes of the code or the token that was presented -/
def Entry.presented : Entry → List String
  | .exchanged _ code _ => code.scopes
  | .redeemed _ presented _ _ => presented.scopes
  | _ => []

/-- What a step issues is covered by what was presented, and by the grant at that time. -/
def Issues (before after : State) : Prop :=
  ∀ entry token, after.log = entry :: before.log → entry.issues = some token →
    CoveredBy token.scopes entry.presented ∧
      ∃ grant, before.grants.find token.grantId = some grant ∧ CoveredBy token.scopes grant.scopes

/-- No scope that the session may give to the presenter of a code has been taken from the grant since it was read. -/
def Unnarrowed (pid : Nat) (state : State) : Op → Prop
  | .commit (.exchanged code _ _) => ∀ grant, Told pid grant state →
      ∃ row, state.grants.find grant.id = some row ∧
        ∀ scope ∈ cleanScopes code.scopes, CoveredBy [scope] grant.scopes → CoveredBy [scope] row.scopes
  | _ => True

theorem scopeRuleCovers_clean {text rule : String} : scopeRuleCovers (lower (strip text)) rule = scopeRuleCovers text rule := by
  simp only [scopeRuleCovers, strip_lower_strip, lower_lower]

theorem covered_cleanScopes (scopes : List String) : CoveredBy (cleanScopes scopes) scopes := by
  intro scope member
  have clean := mem_cleanScopes member
  obtain ⟨text, held, rfl⟩ := List.mem_map.mp member
  refine ⟨text, (List.mem_filter.mp held).1, ?_⟩
  simp only [scopeRuleCovers, clean.2, clean.1, or_self, or_true, if_true, if_false]

theorem CoveredBy.of_clean {scopes rules : List String} (covered : CoveredBy scopes (cleanScopes rules)) :
    CoveredBy scopes rules := by
  intro scope member
  obtain ⟨rule, held, covers⟩ := covered scope member
  obtain ⟨text, given, rfl⟩ := List.mem_map.mp held
  exact ⟨text, (List.mem_filter.mp given).1, scopeRuleCovers_clean ▸ covers⟩

theorem tokenPayload_covered (grant : ClientGrant) (clientId resource : String) (scopes : List String) (stamp : Int) :
    (∀ scope ∈ (tokenPayload grant clientId resource scopes stamp).scopes, scope ∈ cleanScopes scopes) ∧
      CoveredBy (tokenPayload grant clientId resource scopes stamp).scopes grant.scopes := by
  have narrowed : ∀ scope ∈ (tokenPayload grant clientId resource scopes stamp).scopes,
      scope ∈ cleanScopes scopes ∧ ∃ rule ∈ cleanScopes grant.grantScopes, scopeRuleCovers rule scope = true := by
    intro scope member
    have held := List.mem_dedup.mp ((List.mem_insertionSort _).mp member)
    obtain ⟨requested, covers⟩ := List.mem_filter.mp held
    exact ⟨requested, List.any_eq_true.mp covers⟩
  constructor
  · exact fun scope member => (narrowed scope member).1
  · exact CoveredBy.of_clean (CoveredBy.of_clean fun scope member => (narrowed scope member).2)

theorem Unnarrowed.of_current (current : ∀ grant, Told pid grant state → state.grants.find grant.id = some grant) (op : Op) :
    Unnarrowed pid state op := by
  cases op with
  | commit change =>
    cases change with
    | exchanged => exact fun grant told => ⟨grant, current grant told, fun _ _ covered => covered⟩
    | _ => trivial
  | _ => trivial

theorem Issues.of_plain {more : List Entry} (log : after.log = more ++ state.log)
    (plain : ∀ entry ∈ more, entry.issues = none) : Issues state after := by
  intro entry token grown issued
  rw [log, List.append_eq_cons_iff] at grown
  rcases grown with ⟨rfl, same⟩ | ⟨rest, rfl, -⟩
  · exact absurd (congrArg List.length same) (by simp)
  · rw [plain entry List.mem_cons_self] at issued
    cases issued

theorem Issues.of_only {entry : Entry} (log : after.log = entry :: state.log)
    (covered : ∀ token, entry.issues = some token → CoveredBy token.scopes entry.presented ∧
      ∃ grant, state.grants.find token.grantId = some grant ∧ CoveredBy token.scopes grant.scopes) :
    Issues state after := by
  intro other token grown issued
  rw [log, List.cons.injEq] at grown
  rw [← grown.1] at issued ⊢
  exact covered token issued

theorem Issues.commit {change : Change} {onupdate : Int} (ready : Ready pid state change)
    (unnarrowed : Unnarrowed pid state (.commit change)) (applied : state.apply pid onupdate change = some after) :
    Issues state after := by
  have plain : ∀ {next : State} {entry : Entry}, next.log = entry :: state.log → entry.issues = none →
      Issues state next := fun log none => .of_only log fun _ issued => absurd (none.symm.trans issued) (by simp)
  cases change with
  | issued code =>
    simp only [State.apply] at applied
    split at applied
    · cases applied
    · cases applied
      exact .of_plain (List.nil_append _).symm fun _ absent => absurd absent List.not_mem_nil
  | exchanged code consumedAt token =>
    obtain ⟨-, -, -, grant, clientId, resource, told, rfl⟩ := ready
    obtain ⟨now, -, rfl⟩ := Option.map_eq_some_iff.mp applied
    obtain ⟨requested, covered⟩ := tokenPayload_covered grant clientId resource code.scopes grant.updatedAt
    obtain ⟨row, found, still⟩ := unnarrowed grant told
    refine .of_only rfl fun token issued => ?_
    cases issued
    refine ⟨fun scope member => covered_cleanScopes code.scopes scope (requested scope member), row, found, ?_⟩
    intro scope member
    refine still scope (requested scope member) ?_ scope (List.mem_singleton_self scope)
    intro only same
    exact List.mem_singleton.mp same ▸ covered scope member
  | granted row =>
    simp only [State.apply] at applied
    split at applied
    · cases applied
    · cases applied
      exact plain rfl rfl
  | alarmed | consented | revoked =>
    obtain ⟨now, -, rfl⟩ := apply_edit rfl applied
    exact plain rfl rfl
  | redeemed loaded updatedAt presented token =>
    obtain ⟨-, mine, -, -, -, -, clientId, resource, rfl⟩ := ready
    obtain ⟨now, current, rfl⟩ := apply_edit rfl applied
    obtain ⟨requested, covered⟩ := tokenPayload_covered loaded clientId resource presented.scopes updatedAt
    refine .of_only rfl fun token issued => ?_
    cases issued
    exact ⟨fun scope member => covered_cleanScopes presented.scopes scope (requested scope member), loaded, mine.2, covered⟩

/-! ### Every run -/

def Entry.exchanges (codeHash : String) : Entry → Bool
  | .exchanged _ code _ => code.codeHash = codeHash
  | _ => false

def Entry.redeems (grantId generation : String) : Entry → Bool
  | .redeemed _ presented _ _ => presented.grantId = grantId ∧ presented.refreshGeneration = generation
  | _ => false

theorem Entry.exchanges_same {codeHash : String} {first second : Entry} (left : first.exchanges codeHash = true)
    (right : second.exchanges codeHash = true) : ¬¬first.sameCode second := by
  cases first with
  | exchanged _ code _ =>
    cases second with
    | exchanged _ other _ =>
      have same : code.codeHash = other.codeHash := (of_decide_eq_true left).trans (of_decide_eq_true right).symm
      exact not_not.mpr same
    | _ => cases right
  | _ => cases left

theorem Entry.redeems_same {grantId generation : String} {first second : Entry}
    (left : first.redeems grantId generation = true) (right : second.redeems grantId generation = true) :
    ¬¬first.sameGeneration second := by
  cases first with
  | redeemed _ presented _ _ =>
    cases second with
    | redeemed _ other _ _ =>
      obtain ⟨grant, stamp⟩ := of_decide_eq_true left
      obtain ⟨grant', stamp'⟩ := of_decide_eq_true right
      exact not_not.mpr ⟨grant.trans grant'.symm, stamp.trans stamp'.symm⟩
    | _ => cases right
  | _ => cases left

def ticking (_ : Nat) (_ : Request) (op : Op) (drawn : Drawn) (state : State) : Prop :=
  op = .utcnow → state.clock < drawn.now

def ticked (pool : Pool oauth Request (Except OAuthFailure Reply) State) : Move Request Drawn → Bool
  | .act pid drawn =>
      match pool.tasks pid with
      | some ⟨_, some (.request .utcnow _)⟩ => pool.shared.clock < drawn.now
      | _ => true
  | _ => true

theorem meets_of_ticked (pool : Pool oauth Request (Except OAuthFailure Reply) State) (move : Move Request Drawn)
    (checked : ticked pool move = true) : pool.meets ticking move := by
  cases move with
  | start | crash => trivial
  | act pid drawn =>
    intro request op next present same
    change op = .utcnow at same
    subst same
    simp only [ticked, present, decide_eq_true_eq] at checked
    exact checked

structure OneTimeTokens (origin : Int) (state : State) : Prop where
  codes : OneTime state
  clocked : Clocked origin state
  rotating : Rotating origin state

theorem OneTimeTokens.initial {start : State} (fresh : start.log = [])
    (stamps : ∀ grant ∈ start.grants.rows, Time.inRange grant.updatedAt = true ∧ grant.updatedAt ≤ start.clock) :
    OneTimeTokens start.clock start := by
  have empty : ∀ {entry : Entry} {holds : Prop}, entry ∈ start.log → holds := by
    intro entry holds member
    rw [fresh] at member
    cases member
  have ordered : ∀ {apart : Entry → Entry → Prop}, start.log.Pairwise apart := fresh ▸ .nil
  refine ⟨⟨ordered, fun _ _ _ => empty⟩, ⟨ordered, le_rfl, fun _ _ => empty, fun _ _ => empty, ?_⟩,
    ⟨ordered, ?_, fun _ _ _ _ => empty⟩⟩
  · exact fun _ row found => stamps row (Table.find_mem found)
  · exact fun _ row found => .inl (stamps row (Table.find_mem found)).2

theorem OneTimeTokens.run {settings : OAuthSettings} {start : State} (fresh : start.log = [])
    (stamps : ∀ grant ∈ start.grants.rows, Time.inRange grant.updatedAt = true ∧ grant.updatedAt ≤ start.clock)
    {moves : List (Move Request Drawn)} {final : Pool oauth Request (Except OAuthFailure Reply) State}
    (run : Runs (Pool.step world (main settings)) (Pool.meets ticking) (Pool.initial start) moves final) :
    OneTimeTokens start.clock final.shared := by
  refine invariant_of_run fresh (OneTimeTokens.initial fresh stamps) ?_ ?_ ?_ run
  · intro pid request op drawn state answer after plain ticks held performed
    have own : Own pid state after := perform_plain plain performed
    have recorded : Recorded pid drawn state after op := perform_recorded plain performed
    obtain ⟨more, log, known⟩ := own.log
    refine ⟨held.codes.same log ?_ own.codes, held.clocked.recorded ticks recorded own.grants,
      held.rotating.recorded recorded own.grants⟩
    rintro entry member pid code token rfl
    cases (known _ member).2
  · intro pid state held
    obtain ⟨⟨once, consumed⟩, ⟨ordered, start, readings, tellings, rows⟩, ⟨once', rows', redeemed⟩⟩ := held
    exact ⟨⟨once, consumed⟩, ⟨ordered, start, readings, tellings, rows⟩, ⟨once', rows', redeemed⟩⟩
  · intro pid request change drawn state after _ ready held applied
    exact ⟨held.codes.commit ready applied, held.clocked.stamped (apply_stamped held.clocked ready applied),
      held.rotating.commit held.clocked ready applied⟩

theorem issues_of_not_commits {entry : Entry} (plain : entry.commits = false) : entry.issues = none := by
  cases entry with
  | read | told => rfl
  | exchanged | redeemed | alarmed | edited => cases plain

theorem issues_step {settings : OAuthSettings} {start : State} (fresh : start.log = [])
    {moves : List (Move Request Drawn)} {move : Move Request Drawn}
    {pool next : Pool oauth Request (Except OAuthFailure Reply) State}
    (run : Runs (Pool.step world (main settings)) (Pool.meets ticking) (Pool.initial start) moves pool)
    (unnarrowed : pool.meets (fun pid _ op _ state => Unnarrowed pid state op) move)
    (moved : pool.step world (main settings) move = some next) : Issues pool.shared next.shared := by
  have sound := (verified settings).sound (idle_sound fresh) (run.weaken fun _ move _ => by
    cases move with
    | start | crash => trivial
    | act => exact fun _ _ _ _ => trivial)
  have still : Issues pool.shared pool.shared :=
    .of_plain (List.nil_append _).symm fun _ absent => absurd absent List.not_mem_nil
  cases move with
  | start pid request =>
    simp only [Pool.step] at moved
    split at moved
    · cases moved
      exact still
    · cases moved
  | crash pid =>
    simp only [Pool.step] at moved
    split at moved
    · cases moved
      exact still
    · cases moved
  | act pid drawn =>
    simp only [Pool.step] at moved
    split at moved
    · next request op rest present =>
      obtain ⟨⟨answer, after⟩, performed, rfl⟩ := Option.map_eq_some_iff.mp moved
      have met := unnarrowed request op rest present
      cases plain : op.plain with
      | true =>
        obtain ⟨more, log, known⟩ := (perform_plain plain performed).log
        exact .of_plain log fun entry member => issues_of_not_commits (known entry member).2
      | false =>
        cases op with
        | commit change =>
          have ready : Ready pid pool.shared change := Safe.issues (sound.running pid request _ present) trivial
          simp only [world, perform] at performed
          split at performed
          · split at performed
            · next applied =>
              cases performed
              have issues := Issues.commit ready met applied
              exact issues
            · cases performed
              exact still
          · cases performed
        | rollback =>
          cases performed
          exact still
        | utcnow | uid | codeForUpdate | grantForUpdate | activeGrant | grantById | grantOf => cases plain
    · cases moved

/-- Tokens are issued once, however requests interleave: each code is exchanged at most once and each refresh
generation of a grant is redeemed at most once. What a step issues is covered by what was presented and by the
grant, unless the grant was narrowed after an exchange of a code had read it. -/
theorem tokens_one_time {settings : OAuthSettings} {start : State} (fresh : start.log = [])
    (stamps : ∀ grant ∈ start.grants.rows, Time.inRange grant.updatedAt = true ∧ grant.updatedAt ≤ start.clock)
    {moves : List (Move Request Drawn)} {move : Move Request Drawn}
    {pool next : Pool oauth Request (Except OAuthFailure Reply) State}
    (run : Runs (Pool.step world (main settings)) (Pool.meets ticking) (Pool.initial start) moves pool)
    (ticks : pool.meets ticking move) (unnarrowed : pool.meets (fun pid _ op _ state => Unnarrowed pid state op) move)
    (moved : pool.step world (main settings) move = some next) :
    (∀ codeHash, next.shared.log.countP (Entry.exchanges codeHash) ≤ 1) ∧
      (∀ grantId generation, next.shared.log.countP (Entry.redeems grantId generation) ≤ 1) ∧
      Issues pool.shared next.shared := by
  have held := OneTimeTokens.run fresh stamps (run.append (.cons ticks moved (.nil next)))
  refine ⟨fun codeHash => ?_, fun grantId generation => ?_, issues_step fresh run unnarrowed moved⟩
  · exact countP_le_one held.codes.once fun _ _ => Entry.exchanges_same
  · exact countP_le_one held.rotating.once fun _ _ => Entry.redeems_same

namespace Reused

def settings : OAuthSettings := ⟨"https://operly.test/mcp", "", id, id⟩

def verifier : String := "0123456789012345678901234567890123456789012"

def grant : ClientGrant := ⟨"g", "p", some "t", "chatgpt", ["crm:read", "tasks.*"], .active, none, 0, 0⟩

def code : McpAuthorizationCode :=
  ⟨"c", "g", "p", "t", "chatgpt", "https://chat.test/back", ["crm:read"], verifier, settings.resource, 100, none, 0⟩

def start : State := { grants := Table.empty.insert grant, codes := Table.empty.insert code }

def exchange : Request :=
  .token { grantType := "authorization_code", clientId := "chatgpt", code := some "c",
           redirectUri := some code.redirectUri, codeVerifier := some verifier } (.error "")

def refresh : Request :=
  .token { grantType := "refresh_token", clientId := "chatgpt", refreshToken := some "r" }
    (.ok (tokenPayload grant "chatgpt" settings.resource ["crm:read"] 0))

def moves : List (Move Request Drawn) :=
  [.start 0 exchange, .act 0 {}, .act 0 { now := 1 }, .act 0 {}, .act 0 {},
    .start 1 refresh, .start 2 refresh, .act 1 {}, .act 1 { now := 2 }, .act 1 {},
    .act 2 {}, .act 2 { now := 3 }, .act 2 {}, .act 2 {}]

def token : TokenPayload := tokenPayload grant "chatgpt" settings.resource ["crm:read"] 0

theorem exchanged : (((moves.take 4).foldlM (fun pool move =>
    if ticked pool move then pool.step world (main settings) move else none) (Pool.initial start)).bind fun pool =>
      (pool.step world (main settings) (.act 0 {})).map fun next =>
        (pool.shared.log, pool.shared.grants.find "g", ticked pool (.act 0 {}), next.shared.log)) =
    some ([.told 0 grant, .read 0 1], some grant, true, [.exchanged 0 code token, .told 0 grant, .read 0 1]) := by
  decide

def narrowed : List (Move Request Drawn) :=
  moves.take 4 ++ [.start 1 (.consent ⟨"chatgpt", ["tasks.*"], true⟩ ⟨"owner", "p", "t"⟩), .act 1 {}, .act 1 { now := 2 },
    .act 1 {}]

theorem narrowed_exchanged : ((narrowed.foldlM (fun pool move =>
    if ticked pool move then pool.step world (main settings) move else none) (Pool.initial start)).bind fun pool =>
      (pool.step world (main settings) (.act 0 {})).map fun next =>
        (next.shared.log.head?, decide (next.shared.log.tail = pool.shared.log), token.scopes,
          (pool.shared.grants.find "g").map (·.scopes), ticked pool (.act 0 {}))) =
    some (some (.exchanged 0 code token), true, ["crm:read"], some ["tasks.*"], true) := by
  decide

end Reused

theorem tokens_one_time_reused : ∃ pool next,
    Runs (Pool.step world (main Reused.settings)) (Pool.meets ticking) (Pool.initial Reused.start) (Reused.moves.take 4) pool ∧
      pool.step world (main Reused.settings) (.act 0 {}) = some next ∧
      next.shared.log = .exchanged 0 Reused.code Reused.token :: pool.shared.log ∧
      (∀ codeHash, next.shared.log.countP (Entry.exchanges codeHash) ≤ 1) ∧
      (∀ grantId generation, next.shared.log.countP (Entry.redeems grantId generation) ≤ 1) ∧
      Issues pool.shared next.shared := by
  obtain ⟨pool, evaluated, stepped⟩ := Option.bind_eq_some_iff.mp Reused.exchanged
  obtain ⟨next, moved, shown⟩ := Option.map_eq_some_iff.mp stepped
  simp only [Prod.mk.injEq] at shown
  obtain ⟨log, held, ticks, grown⟩ := shown
  have stamps : ∀ grant ∈ Reused.start.grants.rows, Time.inRange grant.updatedAt = true ∧
      grant.updatedAt ≤ Reused.start.clock := by decide
  have current : ∀ grant, Told 0 grant pool.shared → pool.shared.grants.find grant.id = some grant := by
    intro grant told
    simp only [Told, log, List.mem_cons, Entry.told.injEq, true_and, reduceCtorEq, List.not_mem_nil, or_false] at told
    exact told ▸ held
  have run := Runs.of_checked meets_of_ticked evaluated
  exact ⟨pool, next, run, moved, grown.trans (congrArg _ log.symm), tokens_one_time rfl stamps run
    (meets_of_ticked _ _ ticks) (fun _ op _ _ => Unnarrowed.of_current current op) moved⟩

/-- The client gets a token for a scope that the grant has lost. -/
theorem narrowed_grant_exceeded : ∃ pool next row,
    Runs (Pool.step world (main Reused.settings)) (Pool.meets ticking) (Pool.initial Reused.start) Reused.narrowed pool ∧
      pool.meets ticking (.act 0 {}) ∧ pool.step world (main Reused.settings) (.act 0 {}) = some next ∧
      next.shared.log = .exchanged 0 Reused.code Reused.token :: pool.shared.log ∧
      pool.shared.grants.find "g" = some row ∧ Reused.token.scopes = ["crm:read"] ∧ row.scopes = ["tasks.*"] ∧
      ¬Issues pool.shared next.shared := by
  obtain ⟨pool, evaluated, stepped⟩ := Option.bind_eq_some_iff.mp Reused.narrowed_exchanged
  obtain ⟨next, moved, shown⟩ := Option.map_eq_some_iff.mp stepped
  simp only [Prod.mk.injEq, decide_eq_true_eq, Option.map_eq_some_iff] at shown
  obtain ⟨newest, older, asked, ⟨row, found, left⟩, ticks⟩ := shown
  have log := List.head?_eq_some_iff.mp newest
  obtain ⟨rest, shape⟩ := log
  rw [shape, List.tail_cons] at older
  subst older
  refine ⟨pool, next, row, Runs.of_checked meets_of_ticked evaluated, meets_of_ticked _ _ ticks, moved, shape, found, asked,
    left, fun issues => ?_⟩
  obtain ⟨-, grant, current, covered⟩ := issues _ Reused.token shape rfl
  rw [show Reused.token.grantId = "g" from rfl, found, Option.some.injEq] at current
  rw [← current, left, asked] at covered
  exact absurd covered (by unfold CoveredBy; decide)

end Operly.Mcp
