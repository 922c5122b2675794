import Operly.Concurrent.Program

/-! Rely and guarantee for pools of programs. A process is verified once, against the
interference it relies on; a pool of verified processes keeps the shared invariant on
every run, whatever the schedule, the answers and the crashes. -/

namespace Concurrent

structure Discipline (ε σ : Type) where
  invariant : σ → Prop
  rely : Nat → σ → σ → Prop
  guarantee : Nat → ε → σ → σ → Prop
  rely_refl : ∀ pid state, rely pid state state
  rely_trans : ∀ {pid first second third},
    rely pid first second → rely pid second third → rely pid first third
  guarantee_rely : ∀ {pid entry other before after}, other ≠ pid →
    guarantee pid entry before after → rely other before after

/-- Everything a process is verified against: the world, the condition under which its
requests are served, what it must have established before it issues a request, and the
discipline of the pool. -/
structure Setting (ι : Interface) (ε σ χ : Type) where
  world : World ι σ χ
  permitted : Nat → ε → ι.Op → χ → σ → Prop
  issued : Nat → ε → ι.Op → σ → Prop
  discipline : Discipline ε σ

variable {ι : Interface} {ε σ χ α β ξ : Type}

namespace Setting
variable (setting : Setting ι ε σ χ)

def Stable (pid : Nat) (assertion : σ → Prop) : Prop :=
  ∀ before after, assertion before → setting.discipline.rely pid before after → assertion after

/-- The program issues every request as it must and keeps the invariant and its guarantee
there, under any interference it relies on, and its result satisfies the postcondition. -/
def Safe (pid : Nat) (entry : ε) (post : α → σ → Prop) : Program ι α → σ → Prop
  | .done value, state => ∀ later, setting.discipline.rely pid state later → post value later
  | .request op next, state =>
      ∀ before, setting.discipline.rely pid state before → setting.discipline.invariant before →
        setting.issued pid entry op before ∧
          ∀ choice answer after, setting.permitted pid entry op choice before →
            setting.world.perform pid op choice before = some (answer, after) →
            setting.discipline.invariant after ∧ setting.discipline.guarantee pid entry before after ∧
              Safe pid entry post (next answer) after

def Lawful : Prop :=
  ∀ pid entry op choice before answer after, setting.discipline.invariant before →
    setting.issued pid entry op before → setting.permitted pid entry op choice before →
    setting.world.perform pid op choice before = some (answer, after) →
    setting.discipline.invariant after ∧ setting.discipline.guarantee pid entry before after

end Setting

namespace Safe
variable {setting : Setting ι ε σ χ} {pid : Nat} {entry : ε}

theorem stable {post : α → σ → Prop} (program : Program ι α) :
    setting.Stable pid (setting.Safe pid entry post program) := by
  intro before after safe interference
  cases program with
  | done value =>
    exact fun later rely => safe later (setting.discipline.rely_trans interference rely)
  | request op next =>
    exact fun middle rely => safe middle (setting.discipline.rely_trans interference rely)

variable {state : σ} {op : ι.Op}

theorem weaken {post weaker : α → σ → Prop} {program : Program ι α} (safe : setting.Safe pid entry post program state)
    (implies : ∀ value state, post value state → weaker value state) : setting.Safe pid entry weaker program state := by
  induction program generalizing state with
  | done value => exact fun later rely => implies _ _ (safe later rely)
  | request op next ih =>
    intro before rely holds
    obtain ⟨issued, served⟩ := safe before rely holds
    refine ⟨issued, fun choice answer after allowed performed => ?_⟩
    obtain ⟨kept, promised, rest⟩ := served choice answer after allowed performed
    exact ⟨kept, promised, ih answer rest⟩

theorem bind {middle : α → σ → Prop} {post : β → σ → Prop} {program : Program ι α} {next : α → Program ι β}
    (first : setting.Safe pid entry middle program state)
    (rest : ∀ value state, middle value state → setting.Safe pid entry post (next value) state) :
    setting.Safe pid entry post (program >>= next) state := by
  induction program generalizing state with
  | done value =>
    exact rest value state (first state (setting.discipline.rely_refl pid state))
  | request op tail ih =>
    intro before rely holds
    obtain ⟨issued, served⟩ := first before rely holds
    refine ⟨issued, fun choice answer after allowed performed => ?_⟩
    obtain ⟨kept, promised, safe⟩ := served choice answer after allowed performed
    exact ⟨kept, promised, ih answer safe⟩

theorem done {post : α → σ → Prop} {value : α} (settled : setting.Stable pid (post value)) (holds : post value state) :
    setting.Safe pid entry post (.done value) state :=
  fun _ rely => settled _ _ holds rely

theorem request {before : σ → Prop} {post : α → σ → Prop} {next : ι.Answer op → Program ι α}
    (settled : setting.Stable pid before) (holds : before state)
    (issues : ∀ state, setting.discipline.invariant state → before state →
      setting.issued pid entry op state)
    (served : ∀ state choice answer after, setting.discipline.invariant state → before state →
      setting.permitted pid entry op choice state →
      setting.world.perform pid op choice state = some (answer, after) →
      setting.discipline.invariant after ∧ setting.discipline.guarantee pid entry state after ∧
        setting.Safe pid entry post (next answer) after) : setting.Safe pid entry post (.request op next) state := by
  intro middle rely kept
  have asserted := settled _ _ holds rely
  refine ⟨issues middle kept asserted, fun choice answer after allowed performed => ?_⟩
  exact served middle choice answer after kept asserted allowed performed

theorem result {post : α → σ → Prop} {value : α} (safe : setting.Safe pid entry post (.done value) state) :
    post value state :=
  safe state (setting.discipline.rely_refl pid state)

theorem served {post : α → σ → Prop} {next : ι.Answer op → Program ι α} {after : σ} {choice : χ}
    {answer : ι.Answer op} (safe : setting.Safe pid entry post (.request op next) state)
    (kept : setting.discipline.invariant state) (allowed : setting.permitted pid entry op choice state)
    (performed : setting.world.perform pid op choice state = some (answer, after)) :
    setting.discipline.invariant after ∧ setting.discipline.guarantee pid entry state after ∧
      setting.Safe pid entry post (next answer) after :=
  (safe state (setting.discipline.rely_refl pid state) kept).2 choice answer after allowed performed

theorem issues {post : α → σ → Prop} {next : ι.Answer op → Program ι α}
    (safe : setting.Safe pid entry post (.request op next) state) (kept : setting.discipline.invariant state) :
    setting.issued pid entry op state :=
  (safe state (setting.discipline.rely_refl pid state) kept).1

end Safe

-- from here on, safety is used through its rules
attribute [irreducible] Setting.Safe

/-! Fallible programs: an exception skips the continuation and promises nothing. -/

namespace Setting
variable (setting : Setting ι ε σ χ)

structure Triple (pid : Nat) (entry : ε) (before : σ → Prop) (code : Fallible ι ξ α)
    (post : α → σ → Prop) : Prop where
  safe : ∀ state, before state → setting.Safe pid entry
    (fun result state => ∀ value, result = .ok value → post value state) code.run state

end Setting

namespace Triple
variable {setting : Setting ι ε σ χ} {pid : Nat} {entry : ε} {before : σ → Prop}

variable {code : Fallible ι ξ α}

theorem bind (middle : α → σ → Prop) {post : β → σ → Prop} {next : α → Fallible ι ξ β}
    (first : setting.Triple pid entry before code middle)
    (rest : ∀ value, setting.Triple pid entry (middle value) (next value) post) :
    setting.Triple pid entry before (code >>= next) post := by
  refine ⟨fun state holds => ?_⟩
  apply Safe.bind (first.safe state holds)
  intro result state holds
  cases result with
  | ok value => exact (rest value).safe state (holds value rfl)
  | error error =>
    exact Safe.done (fun _ _ _ _ _ impossible => nomatch impossible)
      fun _ impossible => nomatch impossible

theorem pure {post : α → σ → Prop} {value : α} (settled : setting.Stable pid (post value))
    (holds : ∀ state, before state → post value state) :
    setting.Triple pid entry before (Pure.pure value : Fallible ι ξ α) post := by
  refine ⟨fun state asserted => Safe.done ?_ ?_⟩
  · intro first second known rely result same
    cases same
    exact settled _ _ (known value rfl) rely
  · intro result same
    cases same
    exact holds state asserted

theorem raise {post : α → σ → Prop} {error : ξ} : setting.Triple pid entry before (Fallible.raise error) post :=
  ⟨fun _ _ => Safe.done (fun _ _ _ _ _ impossible => nomatch impossible)
    fun _ impossible => nomatch impossible⟩

theorem ofExcept {post : α → σ → Prop} {result : Except ξ α} (settled : ∀ value, setting.Stable pid (post value))
    (holds : ∀ value state, result = .ok value → before state → post value state) :
    setting.Triple pid entry before (Fallible.ofExcept result) post := by
  refine ⟨fun state asserted => Safe.done ?_ ?_⟩
  · intro first second known rely value same
    exact settled value _ _ (known value same) rely
  · exact fun value same => holds value state same asserted

theorem bind_ofExcept {post : β → σ → Prop} {result : Except ξ α} {next : α → Fallible ι ξ β}
    (rest : ∀ value, result = .ok value → setting.Triple pid entry before (next value) post) :
    setting.Triple pid entry before (Fallible.ofExcept result >>= next) post := by
  cases result with
  | ok value => exact rest value rfl
  | error error => exact raise

theorem assume {fact : Prop} {post : α → σ → Prop} (safe : fact → setting.Triple pid entry before code post) :
    setting.Triple pid entry (fun state => before state ∧ fact) code post :=
  ⟨fun state holds => (safe holds.2).safe state holds.1⟩

theorem mapError {ξ' : Type} {post : α → σ → Prop} {change : ξ → ξ'}
    (settled : ∀ value, setting.Stable pid (post value)) (safe : setting.Triple pid entry before code post) :
    setting.Triple pid entry before (Fallible.mapError change code) post := by
  refine ⟨fun state asserted => ?_⟩
  apply Safe.bind (safe.safe state asserted)
  intro result state holds
  refine Safe.done ?_ ?_
  · intro first second known rely value same
    exact settled value _ _ (known value same) rely
  · intro value same
    cases result with
    | ok _ =>
      cases same
      exact holds value rfl
    | error error => cases same

theorem weaken {stronger : σ → Prop} {post weaker : α → σ → Prop} (safe : setting.Triple pid entry before code post)
    (pre : ∀ state, stronger state → before state) (implies : ∀ value state, post value state → weaker value state) :
    setting.Triple pid entry stronger code weaker := by
  refine ⟨fun state holds => ?_⟩
  apply Safe.weaken (safe.safe state (pre state holds))
  intro result state holds value same
  exact implies value state (holds value same)

theorem ask {op : ι.Op} {post : ι.Answer op → σ → Prop} (settled : setting.Stable pid before)
    (answers : ∀ answer, setting.Stable pid (post answer))
    (issues : ∀ state, setting.discipline.invariant state → before state →
      setting.issued pid entry op state)
    (served : ∀ state choice answer after, setting.discipline.invariant state → before state →
      setting.permitted pid entry op choice state →
      setting.world.perform pid op choice state = some (answer, after) →
      setting.discipline.invariant after ∧ setting.discipline.guarantee pid entry state after ∧
        post answer after) : setting.Triple pid entry before (Fallible.ask (ε := ξ) op) post := by
  refine ⟨fun state holds => ?_⟩
  apply Safe.request settled holds issues
  intro state choice answer after kept asserted allowed performed
  obtain ⟨invariant, promised, result⟩ := served state choice answer after kept asserted allowed performed
  refine ⟨invariant, promised, Safe.done ?_ ?_⟩
  · intro first second holds rely value same
    exact answers value _ _ (holds value same) rely
  · intro value same
    cases same
    exact result

theorem ask_lawful (lawful : setting.Lawful) {op : ι.Op} {post : ι.Answer op → σ → Prop}
    (settled : setting.Stable pid before) (answers : ∀ answer, setting.Stable pid (post answer))
    (issues : ∀ state, setting.discipline.invariant state → before state →
      setting.issued pid entry op state)
    (served : ∀ state choice answer after, setting.discipline.invariant state → before state →
      setting.permitted pid entry op choice state →
      setting.world.perform pid op choice state = some (answer, after) → post answer after) :
    setting.Triple pid entry before (Fallible.ask (ε := ξ) op) post := by
  refine ask settled answers issues ?_
  intro state choice answer after kept asserted allowed performed
  obtain ⟨invariant, promised⟩ := lawful pid entry op choice state answer after kept
    (issues state kept asserted) allowed performed
  exact ⟨invariant, promised, served state choice answer after kept asserted allowed performed⟩

end Triple

/-! From verified programs to verified pools. -/

structure Sound (setting : Setting ι ε σ χ) (fresh : Nat → σ → Prop)
    (post : Nat → ε → α → σ → Prop) (pool : Pool ι ε α σ) : Prop where
  invariant : setting.discipline.invariant pool.shared
  idle : ∀ pid, pool.tasks pid = none → fresh pid pool.shared
  running : ∀ pid entry program, pool.tasks pid = some ⟨entry, some program⟩ →
    setting.Safe pid entry (post pid entry) program pool.shared

structure Verified (setting : Setting ι ε σ χ) (main : Nat → ε → Program ι α)
    (fresh : Nat → σ → Prop) (post : Nat → ε → α → σ → Prop) : Prop where
  fresh_stable : ∀ pid, setting.Stable pid (fresh pid)
  starts : ∀ pid entry state, setting.discipline.invariant state → fresh pid state →
    setting.Safe pid entry (post pid entry) (main pid entry) state
  crashes : ∀ pid entry state, setting.discipline.invariant state →
    setting.discipline.invariant (setting.world.abandon pid state) ∧
      setting.discipline.guarantee pid entry state (setting.world.abandon pid state)

def Pool.meets (condition : Nat → ε → ι.Op → χ → σ → Prop) (pool : Pool ι ε α σ) : Move ε χ → Prop
  | .act pid choice => ∀ entry op next,
      pool.tasks pid = some ⟨entry, some (.request op next)⟩ → condition pid entry op choice pool.shared
  | _ => True

def Setting.permits (setting : Setting ι ε σ χ) (pool : Pool ι ε α σ) (move : Move ε χ) : Prop :=
  pool.meets setting.permitted move

/-- A pool step leaves the shared state alone or is a guaranteed step of some process. -/
def Setting.Advances (setting : Setting ι ε σ χ) (before after : σ) : Prop :=
  after = before ∨ ∃ pid entry, setting.discipline.guarantee pid entry before after

namespace Sound
variable {setting : Setting ι ε σ χ} {fresh : Nat → σ → Prop} {post : Nat → ε → α → σ → Prop}
  {pool : Pool ι ε α σ}

theorem advance (sound : Sound setting fresh post pool) (stable : ∀ pid, setting.Stable pid (fresh pid)) {pid : Nat}
    {entry : ε} {shared : σ} {task : Task ι ε α} (kept : setting.discipline.invariant shared)
    (promised : setting.discipline.guarantee pid entry pool.shared shared)
    (stepped : ∀ program, task.rest = some program →
      setting.Safe pid task.entry (post pid task.entry) program shared) :
    Sound setting fresh post
      ⟨shared, Function.update pool.tasks pid (some task)⟩ := by
  refine ⟨kept, ?_, ?_⟩
  · intro other absent
    by_cases same : other = pid
    · subst other
      simp at absent
    · simp only [Function.update_of_ne same] at absent
      exact stable other _ _ (sound.idle other absent) (setting.discipline.guarantee_rely same promised)
  · intro other entry' program present
    by_cases same : other = pid
    · subst other
      simp only [Function.update_self, Option.some.injEq] at present
      subst task
      exact stepped program rfl
    · simp only [Function.update_of_ne same] at present
      exact Safe.stable program _ _ (sound.running other entry' program present)
        (setting.discipline.guarantee_rely same promised)

end Sound

namespace Verified
variable {setting : Setting ι ε σ χ} {main : Nat → ε → Program ι α} {fresh : Nat → σ → Prop}
  {post : Nat → ε → α → σ → Prop}

theorem step (verified : Verified setting main fresh post) {pool next : Pool ι ε α σ}
    {move : Move ε χ} (sound : Sound setting fresh post pool) (allowed : setting.permits pool move)
    (moved : pool.step setting.world main move = some next) :
    Sound setting fresh post next ∧ setting.Advances pool.shared next.shared := by
  cases move with
  | start pid entry =>
    simp only [Pool.step] at moved
    split at moved
    · next absent =>
      cases moved
      refine ⟨⟨sound.invariant, ?_, ?_⟩, .inl rfl⟩
      · intro other absent'
        by_cases same : other = pid
        · subst other
          simp at absent'
        · simp only [Function.update_of_ne same] at absent'
          exact sound.idle other absent'
      · intro other entry' program present
        by_cases same : other = pid
        · subst other
          simp only [Function.update_self, Option.some.injEq, Task.mk.injEq] at present
          obtain ⟨rfl, rfl⟩ := present
          exact verified.starts _ _ _ sound.invariant (sound.idle _ absent)
        · simp only [Function.update_of_ne same] at present
          exact sound.running other entry' program present
    · cases moved
  | act pid choice =>
    simp only [Pool.step] at moved
    split at moved
    · next entry op rest present =>
      simp only [Option.map_eq_some_iff] at moved
      obtain ⟨⟨answer, after⟩, performed, rfl⟩ := moved
      obtain ⟨kept, promised, safe⟩ := Safe.served (sound.running pid entry _ present)
        sound.invariant (allowed entry op rest present) performed
      refine ⟨sound.advance verified.fresh_stable kept promised ?_, .inr ⟨pid, entry, promised⟩⟩
      intro program same
      cases same
      exact safe
    · cases moved
  | crash pid =>
    simp only [Pool.step] at moved
    split at moved
    · next entry op rest present =>
      cases moved
      obtain ⟨kept, promised⟩ := verified.crashes pid entry pool.shared sound.invariant
      refine ⟨sound.advance verified.fresh_stable kept promised ?_, .inr ⟨pid, entry, promised⟩⟩
      intro program absent
      cases absent
    · cases moved

theorem sound (verified : Verified setting main fresh post) {pool final : Pool ι ε α σ} {moves : List (Move ε χ)}
    (initially : Sound setting fresh post pool)
    (run : Runs (Pool.step setting.world main) setting.permits pool moves final) : Sound setting fresh post final :=
  run.invariant initially fun _ _ _ holds allowed moved => (verified.step holds allowed moved).1

end Verified

end Concurrent
