import Operly.Concurrent.Informed

/-! Sessions under READ COMMITTED without row locks. A select answers from the state that is committed
then; what a session has composed takes effect at its commit, all at once, or is undone. Between two
requests of one session the others may commit, so what it has read may be stale. -/

namespace Concurrent

inductive Request (κ ω : Type) where
  | select (query : κ)
  | commit (changes : ω)

def sessions (queries : Interface) (ω : Type) : Interface where
  Op := Request queries.Op ω
  Answer
    | .select query => queries.Answer query
    | .commit _ => Bool

/-- What the selects answer, and what a commit does; `none` when a constraint is violated or an
updated row is gone. A select changes nothing but what is recorded about it. -/
structure Database (queries : Interface) (ω σ χ : Type) where
  select : (query : queries.Op) → χ → σ → queries.Answer query × σ
  commit : ω → σ → Option σ

variable {queries : Interface} {ω σ χ ε ξ α β : Type}

def Database.world (database : Database queries ω σ χ) : World (sessions queries ω) σ χ where
  perform _
    | .select query, choice, state => some (database.select query choice state)
    | .commit changes, _, state =>
        match database.commit changes state with
        | some after => some (true, after)
        | none => some (false, state)
  abandon _ state := state

abbrev Transaction (queries : Interface) (ω ε α : Type) := Fallible (sessions queries ω) ε α

namespace Transaction

def select (query : queries.Op) : Transaction queries ω ε (queries.Answer query) :=
  Fallible.ask (show (sessions queries ω).Op from .select query)

/-- The body's changes are committed at its end. When the body raises nothing is, and when the
commit fails the session raises as well. -/
def commits (aborted : ε) (body : Transaction queries ω ε (α × ω)) : Transaction queries ω ε α := do
  let (value, changes) ← body
  let committed : Bool ← Fallible.ask (show (sessions queries ω).Op from .commit changes)
  if committed then return value else Fallible.raise aborted

end Transaction

def told (answers : (query : queries.Op) → queries.Answer query → Prop) :
    (op : (sessions queries ω).Op) → (sessions queries ω).Answer op → Prop
  | .select query, answer => answers query answer
  | .commit _, _ => True

def composed (changes : ω → Prop) : (sessions queries ω).Op → Prop
  | .select _ => True
  | .commit written => changes written

def Composes (answers : (query : queries.Op) → queries.Answer query → Prop) (changes : ω → Prop)
    (program : Program (sessions queries ω) α) : Prop :=
  program.Informed (told answers) (composed changes) fun _ => True

section Rules
variable {answers : (query : queries.Op) → queries.Answer query → Prop} {changes : ω → Prop}

theorem Composes.of_informed {aborted : ε} {body : Transaction queries ω ε (α × ω)}
    (informed : body.Informed (told answers) (composed changes) fun result => changes result.2) :
    Composes answers changes (Transaction.commits aborted body).run := by
  have session : (Transaction.commits aborted body).Informed (told answers) (composed changes)
      fun _ => True := by
    apply Fallible.Informed.bind informed
    rintro ⟨value, written⟩ holds
    apply Fallible.Informed.bind_ask holds
    intro (committed : Bool) _
    apply Fallible.Informed.ite
    · exact fun _ => Fallible.Informed.pure trivial
    · exact fun _ => Fallible.Informed.raise
  apply Program.Informed.weaken (Fallible.Informed.run_iff.mp session)
  exact fun _ _ => trivial

def Transaction.Yields (answers : (query : queries.Op) → queries.Answer query → Prop)
    (returns : α → Prop) (body : Transaction queries ω ε α) : Prop :=
  ∀ changes, body.Informed (told answers) (composed changes) returns

namespace Transaction.Yields

variable {returns : α → Prop}

theorem pure {value : α} (holds : returns value) :
    Yields answers returns (Pure.pure value : Transaction queries ω ε α) :=
  fun _ => Fallible.Informed.pure holds

theorem raise {error : ε} : Yields answers returns (Fallible.raise error : Transaction queries ω ε α) :=
  fun _ => Fallible.Informed.raise

theorem ofExcept {outcome : Except ε α} (holds : ∀ value, outcome = .ok value → returns value) :
    Yields answers returns (Fallible.ofExcept outcome : Transaction queries ω ε α) :=
  fun _ => Fallible.Informed.ofExcept holds

theorem bind {middle : α → Prop} {returns : β → Prop} {body : Transaction queries ω ε α}
    {next : α → Transaction queries ω ε β} (first : Yields answers middle body)
    (rest : ∀ value, middle value → Yields answers returns (next value)) : Yields answers returns (body >>= next) :=
  fun changes => Fallible.Informed.bind (first changes) fun value holds => rest value holds changes

theorem select {query : queries.Op} {returns : queries.Answer query → Prop}
    (known : ∀ answer, answers query answer → returns answer) :
    Yields answers returns (Transaction.select query : Transaction queries ω ε (queries.Answer query)) :=
  fun changes => @Fallible.Informed.ask (sessions queries ω) ε (told answers) (composed changes)
    (Request.select query) returns trivial known

theorem bind_select {query : queries.Op} {returns : β → Prop}
    {next : queries.Answer query → Transaction queries ω ε β}
    (rest : ∀ answer, answers query answer → Yields answers returns (next answer)) :
    Yields answers returns (Transaction.select query >>= next) :=
  fun changes => Fallible.Informed.bind_ask trivial fun answer known => rest answer known changes

theorem ite {condition : Prop} [Decidable condition] {body other : Transaction queries ω ε α}
    (holds : condition → Yields answers returns body) (fails : ¬ condition → Yields answers returns other) :
    Yields answers returns (if condition then body else other) :=
  fun changes => Fallible.Informed.ite (fun yes => holds yes changes) fun no => fails no changes

theorem check {condition : Prop} [Decidable condition] {error : ε} {returns : β → Prop}
    {next : Unit → Transaction queries ω ε β} (passes : ¬ condition → Yields answers returns (next ())) :
    Yields answers returns (if condition then Fallible.raise error >>= next else next ()) := by
  apply ite
  · intro _
    have never : Yields answers (fun _ => False) (Fallible.raise error : Transaction queries ω ε Unit) := raise
    exact bind never fun _ absurd => absurd.elim
  · exact passes

theorem commits {aborted : ε} {body : Transaction queries ω ε (α × ω)}
    (yields : Yields answers (fun result => changes result.2) body) :
    Composes answers changes (Transaction.commits aborted body).run :=
  Composes.of_informed (yields changes)

end Transaction.Yields

end Rules

/-! ### Every reachable committed state -/

section Runs
variable {database : Database queries ω σ χ} {main : Nat → ξ → Program (sessions queries ω) α}

/-- Every commit that succeeds meets a condition on the state that it is about to change. -/
def Database.admitted (database : Database queries ω σ χ) (admits : ω → σ → Prop)
    (pool : Pool (sessions queries ω) ξ α σ) : Move ξ χ → Prop :=
  pool.meets fun _ _ (op : Request queries.Op ω) _ state => match op with
    | .select _ => True
    | .commit changes => (database.commit changes state).isSome → admits changes state

theorem Database.admitted_mono {admits weaker : ω → σ → Prop}
    (implies : ∀ changes state, admits changes state → weaker changes state) (pool : Pool (sessions queries ω) ξ α σ)
    (move : Move ξ χ) (allowed : database.admitted admits pool move) : database.admitted weaker pool move := by
  cases move with
  | start | crash => trivial
  | act pid choice =>
    intro entry op rest present
    have permitted := allowed entry op rest present
    cases op with
    | select query => trivial
    | commit changes => exact fun succeeds => implies changes pool.shared (permitted succeeds)

theorem Database.admitted_true (database : Database queries ω σ χ) (pool : Pool (sessions queries ω) ξ α σ)
    (move : Move ξ χ) (_ : True) : database.admitted (fun _ _ => True) pool move := by
  cases move with
  | start | crash => trivial
  | act pid choice =>
    intro entry op rest present
    cases op with
    | select query => trivial
    | commit changes => exact fun _ => trivial

def Database.checked (database : Database queries ω σ χ) (check : ω → σ → Bool)
    (pool : Pool (sessions queries ω) ξ α σ) : Move ξ χ → Bool
  | .act pid _ =>
      match pool.tasks pid with
      | some ⟨_, some (.request (.commit changes) _)⟩ =>
          (database.commit changes pool.shared).isNone || check changes pool.shared
      | _ => true
  | _ => true

theorem Database.admitted_of_checked {check : ω → σ → Bool} {admits : ω → σ → Prop}
    (sound : ∀ changes state, check changes state = true → admits changes state)
    (pool : Pool (sessions queries ω) ξ α σ) (move : Move ξ χ) (passed : database.checked check pool move = true) :
    database.admitted admits pool move := by
  cases move with
  | start | crash => trivial
  | act pid choice =>
    intro entry op rest present
    cases op with
    | select query => trivial
    | commit changes =>
      intro succeeds
      simp only [checked, present] at passed
      rw [Option.isNone_eq_false_iff.mpr succeeds, Bool.false_or] at passed
      exact sound changes pool.shared passed

structure Database.Keeps (database : Database queries ω σ χ) (invariant : σ → Prop)
    (answers : (query : queries.Op) → queries.Answer query → Prop) (changes : ω → Prop)
    (admits : ω → σ → Prop) : Prop where
  selects : ∀ query choice state, invariant state →
    answers query (database.select query choice state).1 ∧ invariant (database.select query choice state).2
  commits : ∀ written state after, invariant state → changes written → admits written state →
    database.commit written state = some after → invariant after

variable {invariant : σ → Prop} {answers : (query : queries.Op) → queries.Answer query → Prop}
  {changes : ω → Prop} {admits : ω → σ → Prop}

structure Database.Sound (invariant : σ → Prop) (answers : (query : queries.Op) → queries.Answer query → Prop)
    (changes : ω → Prop) (pool : Pool (sessions queries ω) ξ α σ) : Prop where
  kept : invariant pool.shared
  running : ∀ pid entry program, pool.tasks pid = some ⟨entry, some program⟩ →
    Composes answers changes program

variable {pool : Pool (sessions queries ω) ξ α σ}

theorem Database.Sound.running_update {pid : Nat} {task : Task (sessions queries ω) ξ α}
    (sound : Database.Sound invariant answers changes pool)
    (own : ∀ program, task.rest = some program → Composes answers changes program) :
    ∀ other entry program, Function.update pool.tasks pid (some task) other = some ⟨entry, some program⟩ →
      Composes answers changes program := by
  intro other entry program present
  by_cases same : other = pid
  · subst same
    rw [Function.update_self, Option.some.injEq] at present
    subst present
    exact own program rfl
  · rw [Function.update_of_ne same] at present
    exact sound.running other entry program present

theorem Database.Keeps.step (keeps : database.Keeps invariant answers changes admits)
    (starts : ∀ pid entry, Composes answers changes (main pid entry)) {next : Pool (sessions queries ω) ξ α σ}
    {move : Move ξ χ} (sound : Database.Sound invariant answers changes pool)
    (allowed : database.admitted admits pool move) (moved : pool.step database.world main move = some next) :
    Database.Sound invariant answers changes next := by
  cases move with
  | start pid entry =>
    simp only [Pool.step] at moved
    split at moved
    · cases moved
      exact ⟨sound.kept, sound.running_update fun program same => by cases same; exact starts pid entry⟩
    · cases moved
  | act pid choice =>
    simp only [Pool.step] at moved
    split at moved
    · next entry op rest present =>
      simp only [Option.map_eq_some_iff] at moved
      obtain ⟨⟨answer, after⟩, performed, rfl⟩ := moved
      obtain ⟨issued, informed⟩ := sound.running pid entry _ present
      have permitted := allowed entry op rest present
      cases op with
      | select query =>
        have same : database.select query choice pool.shared = (answer, after) := Option.some.inj performed
        obtain ⟨known, kept⟩ := keeps.selects query choice pool.shared sound.kept
        rw [same] at known kept
        exact ⟨kept, sound.running_update fun program same => by cases same; exact informed _ known⟩
      | commit written =>
        have continues : ∀ answer, Composes answers changes (rest answer) := fun answer => informed answer trivial
        simp only [Database.world] at performed
        split at performed
        · next committed =>
          cases performed
          have succeeds : (database.commit written pool.shared).isSome = true := by rw [committed, Option.isSome_some]
          have kept := keeps.commits written pool.shared after sound.kept issued (permitted succeeds) committed
          exact ⟨kept, sound.running_update fun program same => by cases same; exact continues _⟩
        · cases performed
          exact ⟨sound.kept, sound.running_update fun program same => by cases same; exact continues _⟩
    · cases moved
  | crash pid =>
    simp only [Pool.step] at moved
    split at moved
    · cases moved
      exact ⟨sound.kept, sound.running_update fun program same => by cases same⟩
    · cases moved

theorem Database.Keeps.sound (keeps : database.Keeps invariant answers changes admits)
    (starts : ∀ pid entry, Composes answers changes (main pid entry)) {final : Pool (sessions queries ω) ξ α σ}
    {moves : List (Move ξ χ)} (initially : Database.Sound invariant answers changes pool)
    (run : Runs (Pool.step database.world main) (database.admitted admits) pool moves final) :
    Database.Sound invariant answers changes final :=
  run.invariant initially fun _ _ _ sound allowed moved => keeps.step starts sound allowed moved

theorem Database.Keeps.committed (keeps : database.Keeps invariant answers changes admits)
    (starts : ∀ pid entry, Composes answers changes (main pid entry)) {start : σ}
    {final : Pool (sessions queries ω) ξ α σ} {moves : List (Move ξ χ)} (initially : invariant start)
    (run : Runs (Pool.step database.world main) (database.admitted admits) (Pool.initial start) moves final) :
    invariant final.shared := by
  have idle : Database.Sound invariant answers changes (Pool.initial start : Pool (sessions queries ω) ξ α σ) :=
    ⟨initially, fun _ _ _ absent => by cases absent⟩
  exact (keeps.sound starts idle run).kept

end Runs

end Concurrent
