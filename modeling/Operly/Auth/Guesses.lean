import Operly.Auth.Session

/-! The attempts at a challenge: the check, the comparison and the increment of a guess are separate steps,
and the increment writes what was loaded plus one. -/

namespace Operly.Auth
open Python Concurrent Relational

def wrong (log : List Entry) (id : String) : Nat := log.countP (· = .compared id)

def Bounded (log : List Entry) (id : String) (limit : Int) : Prop :=
  wrong log id ≤ limit ∧ ∀ later earlier, log = later ++ earlier → limit ≤ wrong earlier id → .accepted id ∉ later

theorem wrong_append (later earlier : List Entry) (id : String) :
    wrong (later ++ earlier) id = wrong later id + wrong earlier id := by
  rw [wrong, List.countP_append, wrong, wrong]

theorem wrong_cons (entry : Entry) (log : List Entry) (id : String) :
    wrong (entry :: log) id = wrong log id + if entry = .compared id then 1 else 0 := by
  rw [wrong, List.countP_cons, wrong]
  by_cases same : entry = .compared id <;> simp [same]

theorem Bounded.nil {id : String} {limit : Int} (positive : 0 ≤ limit) : Bounded [] id limit := by
  refine ⟨positive, fun later earlier same _ => ?_⟩
  rw [(List.append_eq_nil_iff.mp same.symm).1]
  exact List.not_mem_nil

theorem Bounded.cons {log : List Entry} {id : String} {limit : Int} {entry : Entry} (bounded : Bounded log id limit)
    (left : entry = .compared id ∨ entry = .accepted id → wrong log id < limit) :
    Bounded (entry :: log) id limit := by
  constructor
  · rw [wrong_cons]
    by_cases same : entry = .compared id
    · have less := left (.inl same)
      rw [if_pos same]
      omega
    · rw [if_neg same]
      exact bounded.1
  · intro later earlier same spent
    cases later with
    | nil => exact List.not_mem_nil
    | cons first rest =>
      rw [List.cons_append, List.cons.injEq] at same
      obtain ⟨rfl, split⟩ := same
      intro accepted
      cases List.mem_cons.mp accepted with
      | inl new =>
        have less := left (.inr new.symm)
        rw [split, wrong_append] at less
        omega
      | inr old => exact bounded.2 rest earlier split spent old

/-! ### The rows -/

def Given (limits : String → Int) (row : AuthChallenge) : Prop := row.maxAttempts = limits row.id

def Proper (limits : String → Int) (row : AuthChallenge) : Prop :=
  Given limits row ∧ (row.maxAttempts ≤ row.attemptCount → row.consumedAt ≠ none)

structure Counting (limits : String → Int) (state : State) : Prop where
  rows : ∀ row ∈ state.challenges.rows, Proper limits row
  bounded : ∀ id, Bounded state.log id (limits id)

def CountsAll (challenge : AuthChallenge) (state : State) : Prop :=
  ∀ row ∈ state.challenges.find challenge.id, wrong state.log challenge.id = row.attemptCount

/-- All wrong codes are counted: at a comparison in the row as it was loaded, at an acceptance in the row as it is. -/
def Counted : Change → State → Prop
  | .compared loaded, state => wrong state.log loaded.id = loaded.attemptCount
  | .verified challenge .., state => CountsAll challenge state
  | .passwordSet (some challenge) .., state => CountsAll challenge state
  | _, _ => True

instance (challenge : AuthChallenge) (state : State) : Decidable (CountsAll challenge state) :=
  inferInstanceAs (Decidable (∀ row ∈ state.challenges.find challenge.id, wrong state.log challenge.id = row.attemptCount))

instance (change : Change) (state : State) : Decidable (Counted change state) :=
  match change with
  | .compared loaded => inferInstanceAs (Decidable ((wrong state.log loaded.id : Int) = loaded.attemptCount))
  | .verified challenge .. => inferInstanceAs (Decidable (CountsAll challenge state))
  | .passwordSet (some challenge) .. => inferInstanceAs (Decidable (CountsAll challenge state))
  | .passwordSet none .. | .audited _ | .touched .. | .failed .. | .signedIn .. => .isTrue trivial

variable {primitives : Primitives} {limits : String → Int} {state after : State} {row : AuthChallenge}

theorem Proper.consumed (proper : Proper limits row) (at' : Int) : Proper limits { row with consumedAt := some at' } :=
  ⟨proper.1, fun _ => Option.some_ne_none at'⟩

theorem Proper.left (proper : Proper limits row) (opened : row.consumedAt = none) :
    row.attemptCount < limits row.id := by
  by_contra spent
  exact proper.2 (proper.1 ▸ not_lt.mp spent) opened

theorem rows_replace (kept : ∀ row ∈ state.challenges.rows, Proper limits row) (proper : Proper limits row) :
    ∀ other ∈ (state.challenges.replace row).rows, Proper limits other := by
  intro other member
  cases Table.mem_replace.mp member with
  | inl old => exact kept other old.1
  | inr new => exact new.1 ▸ proper

theorem rows_consume {challenge : AuthChallenge} {at' : Int} (kept : ∀ row ∈ state.challenges.rows, Proper limits row)
    (consumed : state.consume challenge at' = some after) : ∀ row ∈ after.challenges.rows, Proper limits row := by
  obtain ⟨now, found, _, rfl⟩ := State.consume_eq_some consumed
  exact rows_replace kept ((kept now (Table.find_mem found)).consumed at')

theorem rows_consumeOpen (ids : List String) (at' : Int) (kept : ∀ row ∈ state.challenges.rows, Proper limits row) :
    ∀ row ∈ (state.consumeOpen ids at').challenges.rows, Proper limits row := by
  intro row member
  obtain ⟨old, present, rfl⟩ := List.mem_map.mp member
  split
  · exact (kept old present).consumed at'
  · exact kept old present

theorem Counting.accept {challenge : AuthChallenge} {at' : Int} (counting : Counting limits state)
    (consumed : state.consume challenge at' = some after) (counted : CountsAll challenge state) (id : String) :
    Bounded (.accepted challenge.id :: state.log) id (limits id) := by
  obtain ⟨now, found, opened, _⟩ := State.consume_eq_some consumed
  have less := (counting.rows now (Table.find_mem found)).left opened
  rw [← counted now found, Table.find_key found] at less
  apply (counting.bounded id).cons
  intro about
  cases about with
  | inl absurd => cases absurd
  | inr same =>
    rw [Entry.accepted.injEq] at same
    exact same ▸ less

theorem Bounded.other {log : List Entry} {entry : Entry} (bounded : ∀ id, Bounded log id (limits id))
    (compared : ∀ id, entry ≠ .compared id) (accepted : ∀ id, entry ≠ .accepted id) (id : String) :
    Bounded (entry :: log) id (limits id) := by
  apply (bounded id).cons
  intro about
  cases about with
  | inl same => exact absurd same (compared id)
  | inr same => exact absurd same (accepted id)

theorem Counting.commit {change : Change} (counting : Counting limits state)
    (composed : Composed primitives (Given limits) change) (counted : Counted change state)
    (committed : commit change state = some after) : Counting limits after := by
  cases change with
  | compared loaded =>
    cases committed
    refine ⟨counting.rows, fun id => (counting.bounded id).cons fun about => ?_⟩
    obtain ⟨attempts, left⟩ := composed
    cases about with
    | inr absurd => cases absurd
    | inl same =>
      rw [Entry.compared.injEq] at same
      have all : (wrong state.log loaded.id : Int) = loaded.attemptCount := counted
      rw [Given] at attempts
      rw [← same]
      omega
  | audited event =>
    cases committed
    exact ⟨counting.rows, counting.bounded⟩
  | touched session lastActivityAt =>
    obtain ⟨now, _, rfl⟩ := Option.map_eq_some_iff.mp committed
    exact ⟨counting.rows, counting.bounded⟩
  | failed loaded attemptCount consumedAt event =>
    obtain ⟨now, found, rfl⟩ := Option.map_eq_some_iff.mp committed
    obtain ⟨attempts, opened, rfl, last⟩ := composed
    refine ⟨rows_replace counting.rows ?_, counting.bounded⟩
    have same : now.id = loaded.id := Table.find_key found
    have given : Given limits now := (counting.rows now (Table.find_mem found)).1
    refine ⟨given, fun spent => ?_⟩
    have increment : loaded.attemptCount + 1 ≠ loaded.attemptCount := by omega
    rw [written_of_ne increment] at spent
    have consumed : consumedAt ≠ none := by
      apply last
      rw [attempts, ← same, ← given]
      exact spent
    have differs : consumedAt ≠ loaded.consumedAt := by
      rw [opened]
      exact consumed
    rw [written_of_ne differs]
    exact consumed
  | verified challenge others user at' session events =>
    obtain ⟨⟨consumed, middle, consumption, rfl, challenges⟩, _, _, log⟩ := commit_verified committed
    refine ⟨?_, ?_⟩
    · rw [challenges]
      exact rows_consumeOpen others at' (rows_consume counting.rows consumption)
    · rw [log]
      exact counting.accept consumption counted
  | signedIn user password upgradedHash at' session event =>
    obtain ⟨challenges, _, _, log⟩ := commit_signedIn committed
    refine ⟨challenges ▸ counting.rows, ?_⟩
    rw [log]
    exact Bounded.other counting.bounded (fun _ => by simp) fun _ => by simp
  | passwordSet challenge user password hash at' identity revoked session event =>
    obtain ⟨proof, _, _⟩ := commit_passwordSet committed
    rcases proof with ⟨rfl, challenges, log⟩ | ⟨challenge, consumed, rfl, consumption, challenges, log⟩
    · refine ⟨challenges ▸ counting.rows, ?_⟩
      rw [log]
      exact Bounded.other counting.bounded (fun _ => by simp) fun _ => by simp
    · refine ⟨challenges ▸ rows_consume counting.rows consumption, ?_⟩
      rw [log]
      exact Bounded.other (counting.accept consumption counted) (fun _ => by simp) fun _ => by simp

/-! ### Every run -/

theorem newest_mem {rows : List AuthChallenge} (found : newest rows = some row) : row ∈ rows := by
  induction rows with
  | nil => cases found
  | cons first rest ih =>
    unfold newest at found
    split at found
    · cases found
      exact List.mem_cons_self
    · next other later =>
      split at found
      · cases found
        exact List.mem_cons_of_mem first (ih later)
      · cases found
        exact List.mem_cons_self

theorem database_answers (rows : ∀ row ∈ state.challenges.rows, Proper limits row) (query : queries.Op) (drawn : Drawn) :
    answers (Given limits) query (database.select query drawn state).1 := by
  cases query with
  | challengeById id =>
    intro row found
    exact (rows row (Table.find_mem found)).1
  | challengeByLink purpose secretHash =>
    intro row found
    exact (rows row (Table.first_spec found).1).1
  | challengeByEmail purpose email =>
    intro row found
    exact (rows row (List.mem_filter.mp (newest_mem found)).1).1
  | _ => trivial

theorem database_reads (query : queries.Op) (drawn : Drawn) (state : State) :
    (database.select query drawn state).2 = state := by
  cases query <;> rfl

theorem database_counts (primitives : Primitives) (limits : String → Int) :
    database.Keeps (Counting limits) (answers (Given limits)) (Composed primitives (Given limits)) Counted where
  selects query drawn state counting :=
    ⟨database_answers counting.rows query drawn, (database_reads query drawn state).symm ▸ counting⟩
  commits _ _ _ counting composed counted committed := counting.commit composed counted committed

/-- The challenges as they are issued: open, and with no attempt counted. -/
structure Issued (limits : String → Int) (state : State) : Prop where
  rows : ∀ row ∈ state.challenges.rows, row.maxAttempts = limits row.id ∧ 0 < row.maxAttempts ∧ row.attemptCount = 0
  limits : ∀ id, 0 ≤ limits id
  log : state.log = []

theorem Issued.counting (issued : Issued limits state) : Counting limits state := by
  constructor
  · intro row member
    obtain ⟨given, positive, fresh⟩ := issued.rows row member
    refine ⟨given, fun spent => ?_⟩
    omega
  · intro id
    rw [issued.log]
    exact Bounded.nil (issued.limits id)

/-- As long as no guess and no acceptance overlaps with a guess that the row has not counted yet, the guesses at
every challenge are bounded. -/
theorem guesses_bounded (primitives : Primitives) {limits : String → Int} {start : State}
    {moves : List (Move Call Drawn)}
    {final : Pool (sessions queries Change) Call (Except AuthError (Except AuthError Reply)) State}
    (issued : Issued limits start)
    (run : Runs (Pool.step database.world (main primitives)) (database.admitted Counted) (Pool.initial start) moves final)
    (id : String) : Bounded final.shared.log id (limits id) :=
  ((database_counts primitives limits).committed main_composes issued.counting run).bounded id

def signedUp : State where
  users := [⟨"ada", "ada@example.com", none, none, true, 0⟩].foldl .insert .empty
  identities := []
  challenges := [⟨"challenge", "email_verification", some "ada", "ada@example.com", "link",
    some "challenge:email_verification:code(482913)", 900, 0, 6, none, 0⟩].foldl .insert .empty
  sessions := .empty
  members := []
  events := []
  log := []

theorem signedUp_issued : Issued (fun _ => 6) signedUp where
  rows := by decide
  limits := fun _ => by decide
  log := rfl

def guess (pid : Nat) (code : String) : Move Call Drawn :=
  .start pid (.verifyEmail { challengeId := some "challenge", code := some code })

def act (pid : Nat) (text : String) : Move Call Drawn := .act pid { text := text }

def corrected : List (Move Call Drawn) :=
  guess 0 "000000" :: List.replicate 5 (act 0 "") ++ guess 1 "482913" :: List.replicate 13 (act 1 "session")

theorem corrected_checked : (corrected.foldlM (fun pool move =>
    if database.checked (fun change state => Counted change state) pool move then
      pool.step database.world (main legible) move else none) (Pool.initial signedUp)).map (fun pool => pool.shared.log) =
        some [.accepted "challenge", .compared "challenge"] := by
  decide

theorem guesses_bounded_corrected : ∃ final, Bounded final.shared.log "challenge" 6 ∧
    Runs (Pool.step database.world (main legible)) (database.admitted Counted) (Pool.initial signedUp) corrected final := by
  obtain ⟨final, evaluated, _⟩ := Option.map_eq_some_iff.mp corrected_checked
  have run := Runs.of_checked (Database.admitted_of_checked fun _ _ => of_decide_eq_true) evaluated
  exact ⟨final, guesses_bounded legible signedUp_issued run "challenge", run⟩

def overlapping : List (Move Call Drawn) :=
  (List.range 7).flatMap (fun pid => guess pid "000000" :: List.replicate 4 (act pid "")) ++
    (List.range 7).map fun pid => act pid ""

theorem overlapping_compares : (overlapping.foldlM (Pool.step database.world (main legible)) (Pool.initial signedUp)).map
    (fun pool => (wrong pool.shared.log "challenge", pool.shared.challenges.rows.map fun row =>
      (row.attemptCount, row.consumedAt))) = some (7, [(1, none)]) := by
  decide

theorem overlapping_guesses_unbounded : Issued (fun _ => 6) signedUp ∧
    ∃ final, Runs (Pool.step database.world (main legible)) (fun _ _ => True) (Pool.initial signedUp) overlapping final ∧
      ¬ Bounded final.shared.log "challenge" 6 := by
  refine ⟨signedUp_issued, ?_⟩
  obtain ⟨final, evaluated, compared⟩ := Option.map_eq_some_iff.mp overlapping_compares
  refine ⟨final, .of_foldlM evaluated, fun bounded => ?_⟩
  have seven : wrong final.shared.log "challenge" = 7 := congrArg Prod.fst compared
  have limit := bounded.1
  rw [seven] at limit
  omega

end Operly.Auth
