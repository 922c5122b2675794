import Operly.Concurrent.ReadCommitted

/-! Sessions whose tables only grow. What a session has read of them is still there when it commits, so
a commit may rely on it. -/

namespace Concurrent

/-- An invariant of the committed states, how a state may change while a session waits, and what a
session must know of the state to which it commits. -/
structure Growth {queries : Interface} {ω σ χ : Type} (database : Database queries ω σ χ) where
  invariant : σ → Prop
  grows : σ → σ → Prop
  allowed : ω → σ → Prop
  refl : ∀ state, grows state state
  trans : ∀ {first second third}, grows first second → grows second third → grows first third
  selects : ∀ query choice state, invariant state →
    invariant (database.select query choice state).2 ∧ grows state (database.select query choice state).2
  commits : ∀ {written state after}, invariant state → allowed written state →
    database.commit written state = some after → invariant after ∧ grows state after

namespace Growth
variable {queries : Interface} {ω σ χ ε ξ α β : Type} {database : Database queries ω σ χ}

def setting (growth : Growth database) (ξ : Type) : Setting (sessions queries ω) ξ σ χ where
  world := database.world
  permitted _ _ _ _ _ := True
  issued _ _ op state := match op with
    | .select _ => True
    | .commit written => growth.allowed written state
  discipline := {
    invariant := growth.invariant
    rely := fun _ => growth.grows
    guarantee := fun _ _ => growth.grows
    rely_refl := fun _ => growth.refl
    rely_trans := growth.trans
    guarantee_rely := fun _ grown => grown }

def Lasting (growth : Growth database) (fact : σ → Prop) : Prop :=
  ∀ before after, fact before → growth.grows before after → fact after

variable {growth : Growth database} {pid : Nat} {entry : ξ} {before : σ → Prop}

theorem Lasting.const (growth : Growth database) (fact : Prop) : growth.Lasting fun _ => fact :=
  fun _ _ known _ => known

theorem Lasting.and {first second : σ → Prop} (left : growth.Lasting first) (right : growth.Lasting second) :
    growth.Lasting fun state => first state ∧ second state :=
  fun before after known grown => ⟨left before after known.1 grown, right before after known.2 grown⟩

theorem query {query : queries.Op} {post : queries.Answer query → σ → Prop} (settled : growth.Lasting before)
    (lasting : ∀ answer, growth.Lasting (post answer))
    (told : ∀ choice state, growth.invariant state → before state →
      post (database.select query choice state).1 (database.select query choice state).2) :
    (growth.setting ξ).Triple pid entry before (Transaction.select query : Transaction queries ω ε _) post := by
  refine Triple.ask settled lasting (fun _ _ _ => trivial) ?_
  intro state choice answer after holds asserted _ performed
  have same : database.select query choice state = (answer, after) := Option.some.inj performed
  obtain ⟨kept, grown⟩ := growth.selects query choice state holds
  have known := told choice state holds asserted
  rw [same] at kept grown known
  exact ⟨kept, grown, known⟩

theorem of_yields {answers : (query : queries.Op) → queries.Answer query → Prop} {returns : α → Prop}
    {body : Transaction queries ω ε α}
    (tells : ∀ query choice state, growth.invariant state → answers query (database.select query choice state).1)
    (yields : body.Yields answers returns) :
    (growth.setting ξ).Triple pid entry (fun _ => True) body fun value _ => returns value := by
  have safe : ∀ {β : Type} {program : Program (sessions queries ω) β} {result : β → Prop},
      program.Informed (told answers) (composed fun _ => False) result → ∀ state,
      (growth.setting ξ).Safe pid entry (fun value _ => result value) program state := by
    intro β program result informed
    induction program with
    | done value => exact fun state => Safe.done (fun _ _ known _ => known) informed
    | request op next ih =>
      intro state
      obtain ⟨issued, informed⟩ := informed
      cases op with
      | commit written => exact issued.elim
      | select query =>
        refine Safe.request (fun (_ _ : σ) (known : True) _ => known) trivial (fun _ _ _ => trivial) ?_
        intro before choice answer after holds _ _ performed
        have same : database.select query choice before = (answer, after) := Option.some.inj performed
        obtain ⟨kept, grown⟩ := growth.selects query choice before holds
        have told := tells query choice before holds
        rw [same] at kept grown told
        exact ⟨kept, grown, ih answer (informed answer told) after⟩
  exact ⟨fun state _ => safe (Fallible.Informed.run_iff.mp (yields fun _ => False)) state⟩

theorem known {fact : Prop} {code : Transaction queries ω ε α} {post : α → σ → Prop}
    (safe : fact → (growth.setting ξ).Triple pid entry (fun _ => True) code post) :
    (growth.setting ξ).Triple pid entry (fun _ => fact) code post :=
  ⟨fun state holds => (safe holds).safe state trivial⟩

theorem check {condition : Prop} [Decidable condition] {error : ε} {next : Unit → Transaction queries ω ε β}
    {post : β → σ → Prop} (passes : ¬ condition → (growth.setting ξ).Triple pid entry before (next ()) post) :
    (growth.setting ξ).Triple pid entry before
      (if condition then Fallible.raise error >>= next else next ()) post := by
  split
  · have never : (growth.setting ξ).Triple pid entry before
        (Fallible.raise error : Transaction queries ω ε Unit) fun _ _ => False := Triple.raise
    exact Triple.bind _ never fun _ => known fun absurd => absurd.elim
  · next fails => exact passes fails

/-- A session whose body leaves what its commit needs; what it returns then holds of what it has written. -/
theorem transaction {aborted : ε} {body : Transaction queries ω ε (α × ω)} (related : α → ω → Prop)
    {post : α → σ → Prop} (lasting : ∀ written, growth.Lasting (growth.allowed written))
    (lasts : ∀ value, growth.Lasting (post value)) (yields : (growth.setting ξ).Triple pid entry before body
      fun result state => growth.allowed result.2 state ∧ related result.1 result.2)
    (leaves : ∀ value written state after, related value written →
      database.commit written state = some after → post value after) :
    (growth.setting ξ).Triple pid entry before (Transaction.commits aborted body) post := by
  apply Triple.bind _ yields
  rintro ⟨value, written⟩
  apply Triple.bind (fun committed state => committed = true → post value state)
  · refine Triple.ask ?_ ?_ (fun _ _ known => known.1) ?_
    · exact fun before after known grown => ⟨lasting written before after known.1 grown, known.2⟩
    · exact fun _ before after known grown same => lasts value before after (known same) grown
    · intro state choice answer after holds known _ performed
      simp only [setting, Database.world] at performed
      split at performed
      · next committed =>
        cases performed
        obtain ⟨kept, grown⟩ := growth.commits holds known.1 committed
        exact ⟨kept, grown, fun _ => leaves value written _ _ known.2 committed⟩
      · cases performed
        exact ⟨holds, growth.refl _, fun impossible => by cases impossible⟩
  · intro (committed : Bool)
    cases committed with
    | true =>
      exact Triple.pure (lasts value) fun _ known => known rfl
    | false => exact Triple.raise

section Pools
variable {main : Nat → ξ → Transaction queries ω ε α} {post : ξ → α → σ → Prop}

def Composing (growth : Growth database) (post : ξ → α → σ → Prop) (pool : Pool (sessions queries ω) ξ (Except ε α) σ) : Prop :=
  Sound (growth.setting ξ) (fun _ _ => True) (fun _ entry result state => ∀ value, result = .ok value → post entry value state)
    pool

theorem pool_verified
    (verified : ∀ pid entry, (growth.setting ξ).Triple pid entry (fun _ => True) (main pid entry) (post entry)) :
    Verified (growth.setting ξ) (fun pid entry => (main pid entry).run) (fun _ _ => True)
      fun _ entry result state => ∀ value, result = .ok value → post entry value state where
  fresh_stable := fun _ _ _ _ _ => trivial
  starts := fun pid entry state _ _ => (verified pid entry).safe state trivial
  crashes := fun _ _ state holds => ⟨holds, growth.refl state⟩

theorem composing_initial {start : σ} (initially : growth.invariant start) :
    growth.Composing post (Pool.initial start : Pool (sessions queries ω) ξ (Except ε α) σ) :=
  ⟨initially, fun _ _ => trivial, fun _ _ _ absent => by cases absent⟩

theorem kept (verified : ∀ pid entry, (growth.setting ξ).Triple pid entry (fun _ => True) (main pid entry) (post entry))
    {admits : ω → σ → Prop} {property : σ → Prop}
    (selects : ∀ query choice state, property state → property (database.select query choice state).2)
    (commits : ∀ written state after, growth.invariant state → growth.allowed written state → admits written state →
      property state → database.commit written state = some after → property after)
    {pool final : Pool (sessions queries ω) ξ (Except ε α) σ} {moves : List (Move ξ χ)}
    (composing : growth.Composing post pool) (holds : property pool.shared)
    (run : Runs (Pool.step database.world fun pid entry => (main pid entry).run) (database.admitted admits) pool moves final) :
    growth.Composing post final ∧ property final.shared := by
  let known (pool : Pool (sessions queries ω) ξ (Except ε α) σ) : Prop := growth.Composing post pool ∧ property pool.shared
  have first : known pool := ⟨composing, holds⟩
  refine run.invariant first ?_
  rintro pool move next ⟨composing, holds⟩ allowed moved
  have permitted : (growth.setting ξ).permits pool move := by
    cases move with
    | start | crash => trivial
    | act => exact fun _ _ _ _ => trivial
  refine ⟨((pool_verified verified).step composing permitted moved).1, ?_⟩
  cases move with
  | start pid entry =>
    simp only [Pool.step] at moved
    split at moved
    · cases moved
      exact holds
    · cases moved
  | crash pid =>
    simp only [Pool.step] at moved
    split at moved
    · cases moved
      exact holds
    · cases moved
  | act pid choice =>
    simp only [Pool.step] at moved
    split at moved
    · next entry op rest present =>
      obtain ⟨⟨answer, after⟩, performed, rfl⟩ := Option.map_eq_some_iff.mp moved
      have issued := Safe.issues (composing.running pid entry _ present) composing.invariant
      have met := allowed entry op rest present
      cases op with
      | select query =>
        have same : database.select query choice pool.shared = (answer, after) := Option.some.inj performed
        have stays := selects query choice pool.shared holds
        rw [same] at stays
        exact stays
      | commit written =>
        simp only [Database.world] at performed
        split at performed
        · next committed =>
          cases performed
          have succeeds : (database.commit written pool.shared).isSome = true := by rw [committed, Option.isSome_some]
          exact commits written _ _ composing.invariant issued (met succeeds) holds committed
        · cases performed
          exact holds
    · cases moved

/-- The invariant rule: whatever the sessions interleave, it holds in every committed state, and what the
sessions return holds there too. -/
theorem everywhere (verified : ∀ pid entry, (growth.setting ξ).Triple pid entry (fun _ => True) (main pid entry) (post entry))
    {start : σ} {final : Pool (sessions queries ω) ξ (Except ε α) σ} {moves : List (Move ξ χ)}
    (initially : growth.invariant start)
    (run : Runs (Pool.step database.world fun pid entry => (main pid entry).run) (fun _ _ => True)
      (Pool.initial start) moves final) :
    growth.invariant final.shared ∧ ∀ pid entry value,
      final.tasks pid = some ⟨entry, some (.done (.ok value))⟩ → post entry value final.shared := by
  have admitted := run.weaken (Database.admitted_true database)
  obtain ⟨composing, -⟩ := kept verified (fun _ _ _ _ => trivial) (fun _ _ _ _ _ _ _ _ => trivial)
    (composing_initial initially) trivial admitted
  refine ⟨composing.invariant, fun pid entry value finished => ?_⟩
  exact Safe.result (composing.running pid entry _ finished) value rfl

end Pools

end Growth

end Concurrent
