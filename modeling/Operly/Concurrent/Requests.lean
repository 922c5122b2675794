import Operly.Concurrent.Solo

/-! What a program can request whatever its answers are, and the transcripts of its requests
with their answers. Neither depends on a world, so both hold under any interleaving. -/

namespace Concurrent

variable {ι : Interface} {σ χ α β ε ξ ξ' : Type}

namespace Program

def Behaves (requests : ι.Op → Prop) (result : α → Prop) : Program ι α → Prop
  | .done value => result value
  | .request op next => requests op ∧ ∀ answer, (next answer).Behaves requests result

/-- A complete run: the requests in order, each with its answer, and the result. -/
inductive Trace : Program ι α → List (Sigma ι.Answer) → α → Prop
  | done (value : α) : Trace (.done value) [] value
  | request {op : ι.Op} {next : ι.Answer op → Program ι α} (answer : ι.Answer op)
      {rest : List (Sigma ι.Answer)} {value : α} (run : Trace (next answer) rest value) :
      Trace (.request op next) (⟨op, answer⟩ :: rest) value

namespace Behaves
variable {requests : ι.Op → Prop}

variable {program : Program ι α}

theorem bind {middle : α → Prop} {result : β → Prop} {next : α → Program ι β}
    (first : program.Behaves requests middle) (rest : ∀ value, middle value → (next value).Behaves requests result) :
    (program >>= next).Behaves requests result := by
  induction program with
  | done value => exact rest value first
  | request op tail ih => exact ⟨first.1, fun answer => ih answer (first.2 answer)⟩

theorem weaken {wider : ι.Op → Prop} {result weaker : α → Prop} (behaves : program.Behaves requests result)
    (widens : ∀ op, requests op → wider op) (implies : ∀ value, result value → weaker value) :
    program.Behaves wider weaker := by
  induction program with
  | done value => exact implies value behaves
  | request op next ih => exact ⟨widens op behaves.1, fun answer => ih answer (behaves.2 answer)⟩

theorem trace {result : α → Prop} {steps : List (Sigma ι.Answer)} {value : α}
    (behaves : program.Behaves requests result) (run : Trace program steps value) :
    (∀ step ∈ steps, requests step.1) ∧ result value := by
  induction run with
  | done value => exact ⟨by simp, behaves⟩
  | request answer _ ih =>
    obtain ⟨rest, final⟩ := ih (behaves.2 answer)
    refine ⟨?_, final⟩
    intro step member
    rcases List.mem_cons.mp member with rfl | later
    · exact behaves.1
    · exact rest step later

end Behaves

namespace Trace

variable {steps : List (Sigma ι.Answer)}

theorem done_iff {value result : α} : Trace (.done value) steps result ↔ steps = [] ∧ result = value := by
  constructor
  · intro run
    cases run
    exact ⟨rfl, rfl⟩
  · rintro ⟨rfl, rfl⟩
    exact .done _

theorem bind_iff {program : Program ι α} {next : α → Program ι β} {result : β} :
    Trace (program >>= next) steps result ↔ ∃ early late value,
      steps = early ++ late ∧ Trace program early value ∧ Trace (next value) late result := by
  induction program generalizing steps with
  | done value =>
    constructor
    · exact fun run => ⟨[], steps, value, rfl, .done value, run⟩
    · rintro ⟨early, late, _, rfl, run, rest⟩
      obtain ⟨rfl, rfl⟩ := done_iff.mp run
      exact rest
  | request op tail ih =>
    rw [request_bind]
    constructor
    · intro run
      cases run with
      | request answer run =>
        obtain ⟨early, late, value, rfl, run, rest⟩ := (ih answer).mp run
        exact ⟨⟨op, answer⟩ :: early, late, value, rfl, .request answer run, rest⟩
    · rintro ⟨_, late, value, rfl, run, rest⟩
      cases run with
      | request answer run => exact .request answer ((ih answer).mpr ⟨_, late, value, rfl, run, rest⟩)

theorem ask_iff {op : ι.Op} {answer : ι.Answer op} : Trace (Program.ask op) steps answer ↔ steps = [⟨op, answer⟩] := by
  constructor
  · intro run
    cases run with
    | request _ run =>
      obtain ⟨rfl, rfl⟩ := done_iff.mp run
      rfl
  · rintro rfl
    exact .request answer (.done answer)

end Trace

def answered (answers : (op : ι.Op) → ι.Answer op) : Program ι α → List (Sigma ι.Answer) × α
  | .done value => ([], value)
  | .request op next =>
      let rest := answered answers (next (answers op))
      (⟨op, answers op⟩ :: rest.1, rest.2)

theorem answered_trace (answers : (op : ι.Op) → ι.Answer op) (program : Program ι α) :
    Trace program (answered answers program).1 (answered answers program).2 := by
  induction program with
  | done value => exact .done value
  | request op next ih => exact .request (answers op) (ih (answers op))

theorem answered_answer {answers : (op : ι.Op) → ι.Answer op} {program : Program ι α} {op : ι.Op}
    {answer : ι.Answer op} (asked : ⟨op, answer⟩ ∈ (answered answers program).1) : answer = answers op := by
  induction program with
  | done value => cases asked
  | request first next ih =>
    rcases List.mem_cons.mp asked with same | later
    · cases same
      rfl
    · exact ih (answers first) later

end Program

/-! ### Fallible programs -/

namespace Fallible

def Behaves (requests : ι.Op → Prop) (returns : α → Prop) (raises : ε → Prop)
    (code : Fallible ι ε α) : Prop :=
  code.run.Behaves requests fun result => match result with
    | .ok value => returns value
    | .error error => raises error

namespace Behaves
variable {requests : ι.Op → Prop} {raises : ε → Prop}

theorem bind {middle : α → Prop} {returns : β → Prop} {code : Fallible ι ε α}
    {next : α → Fallible ι ε β} (first : code.Behaves requests middle raises)
    (rest : ∀ value, middle value → (next value).Behaves requests returns raises) :
    (code >>= next).Behaves requests returns raises := by
  apply Program.Behaves.bind first
  intro result holds
  cases result with
  | ok value => exact rest value holds
  | error error => exact holds

theorem pure {returns : α → Prop} {value : α} (holds : returns value) :
    (Pure.pure value : Fallible ι ε α).Behaves requests returns raises := holds

theorem raise {returns : α → Prop} {error : ε} (holds : raises error) :
    (Fallible.raise error : Fallible ι ε α).Behaves requests returns raises := holds

theorem ofExcept {returns : α → Prop} {result : Except ε α} (ok : ∀ value, result = .ok value → returns value)
    (failed : ∀ error, result = .error error → raises error) :
    (Fallible.ofExcept result : Fallible ι ε α).Behaves requests returns raises := by
  cases result with
  | ok value => exact ok value rfl
  | error error => exact failed error rfl

theorem bind_ofExcept {returns : β → Prop} {result : Except ε α} {next : α → Fallible ι ε β}
    (failed : ∀ error, result = .error error → raises error)
    (rest : ∀ value, result = .ok value → (next value).Behaves requests returns raises) :
    (Fallible.ofExcept result >>= next).Behaves requests returns raises := by
  cases result with
  | ok value => exact rest value rfl
  | error error => exact failed error rfl

theorem ask {op : ι.Op} {returns : ι.Answer op → Prop} (allowed : requests op) (answers : ∀ answer, returns answer) :
    (Fallible.ask op : Fallible ι ε (ι.Answer op)).Behaves requests returns raises :=
  ⟨allowed, answers⟩

theorem seq {returns : β → Prop} {code : Fallible ι ε α} {next : α → Fallible ι ε β}
    (first : code.Behaves requests (fun _ => True) raises)
    (rest : ∀ value, (next value).Behaves requests returns raises) :
    (code >>= next).Behaves requests returns raises :=
  bind first fun value _ => rest value

theorem bind_ask {op : ι.Op} {returns : β → Prop} {next : ι.Answer op → Fallible ι ε β}
    (allowed : requests op) (rest : ∀ answer, (next answer).Behaves requests returns raises) :
    (Fallible.ask op >>= next).Behaves requests returns raises :=
  seq (ask allowed fun _ => trivial) rest

theorem ite {condition : Prop} [Decidable condition] {returns : α → Prop} {code other : Fallible ι ε α}
    (holds : condition → code.Behaves requests returns raises)
    (fails : ¬ condition → other.Behaves requests returns raises) :
    (if condition then code else other).Behaves requests returns raises := by
  split
  · next yes => exact holds yes
  · next no => exact fails no

theorem mapError {returns : α → Prop} {raises' : ξ → Prop} {change : ξ → ε} {code : Fallible ι ξ α}
    (behaves : code.Behaves requests returns raises') (changed : ∀ error, raises' error → raises (change error)) :
    (Fallible.mapError change code).Behaves requests returns raises := by
  apply Program.Behaves.bind behaves
  intro result holds
  cases result with
  | ok value => exact holds
  | error error => exact changed error holds

theorem weaken {wider : ι.Op → Prop} {returns returns' : α → Prop} {raises' : ε → Prop}
    {code : Fallible ι ε α} (behaves : code.Behaves requests returns raises)
    (widens : ∀ op, requests op → wider op) (implies : ∀ value, returns value → returns' value)
    (failed : ∀ error, raises error → raises' error) : code.Behaves wider returns' raises' := by
  apply Program.Behaves.weaken behaves widens
  intro result holds
  cases result with
  | ok value => exact implies value holds
  | error error => exact failed error holds

end Behaves

theorem Behaves.run_iff {requests : ι.Op → Prop} {returns : α → Prop} {raises : ε → Prop}
    {code : Fallible ι ε α} : code.Behaves requests returns raises ↔
      code.run.Behaves requests fun result => match result with
        | .ok value => returns value
        | .error error => raises error := Iff.rfl

variable {steps : List (Sigma ι.Answer)} {result : Except ε α}

theorem trace_bind {code : Fallible ι ε α} {next : α → Fallible ι ε β} {result : Except ε β} :
    Program.Trace (code >>= next).run steps result ↔
      (∃ early late value, steps = early ++ late ∧ Program.Trace code.run early (.ok value) ∧
        Program.Trace (next value).run late result) ∨
      ∃ error, result = .error error ∧ Program.Trace code.run steps (.error error) := by
  have shape : (code >>= next).run = code.run >>= fun outcome => match outcome with
      | .ok value => (next value).run
      | .error error => .done (.error error) := by
    rw [ExceptT.run_bind]
    congr 1
    funext outcome
    cases outcome <;> rfl
  rw [shape, Program.Trace.bind_iff]
  constructor
  · rintro ⟨early, late, outcome, rfl, run, rest⟩
    cases outcome with
    | ok value => exact .inl ⟨early, late, value, rfl, run, rest⟩
    | error error =>
      obtain ⟨rfl, rfl⟩ := Program.Trace.done_iff.mp rest
      exact .inr ⟨error, rfl, by simpa using run⟩
  · rintro (⟨early, late, value, rfl, run, rest⟩ | ⟨error, rfl, run⟩)
    · exact ⟨early, late, .ok value, rfl, run, rest⟩
    · exact ⟨steps, [], .error error, by simp, run, .done _⟩

theorem trace_ofExcept {outcome : Except ε α} :
    Program.Trace (Fallible.ofExcept outcome : Fallible ι ε α).run steps result ↔
      steps = [] ∧ result = outcome := Program.Trace.done_iff

theorem trace_pure {value : α} :
    Program.Trace (pure value : Fallible ι ε α).run steps result ↔
      steps = [] ∧ result = .ok value := Program.Trace.done_iff

theorem trace_raise {error : ε} :
    Program.Trace (Fallible.raise error : Fallible ι ε α).run steps result ↔
      steps = [] ∧ result = .error error := Program.Trace.done_iff

theorem trace_bind_ofExcept {outcome : Except ε α} {next : α → Fallible ι ε β} {result : Except ε β} :
    Program.Trace (Fallible.ofExcept outcome >>= next).run steps result ↔
      (∃ value, outcome = .ok value ∧ Program.Trace (next value).run steps result) ∨
      ∃ error, outcome = .error error ∧ steps = [] ∧ result = .error error := by
  cases outcome with
  | ok value =>
    refine ⟨fun run => .inl ⟨value, rfl, run⟩, ?_⟩
    rintro (⟨_, same, run⟩ | ⟨error, same, -⟩)
    · cases same
      exact run
    · cases same
  | error error =>
    refine ⟨fun run => .inr ⟨error, rfl, Program.Trace.done_iff.mp run⟩, ?_⟩
    rintro (⟨_, same, -⟩ | ⟨_, same, ended⟩)
    · cases same
    · cases same
      exact Program.Trace.done_iff.mpr ended

theorem trace_ask {op : ι.Op} {result : Except ε (ι.Answer op)} :
    Program.Trace (Fallible.ask op : Fallible ι ε (ι.Answer op)).run steps result ↔
      ∃ answer, steps = [⟨op, answer⟩] ∧ result = .ok answer := by
  constructor
  · intro run
    obtain ⟨early, late, answer, rfl, asked, rest⟩ := Program.Trace.bind_iff.mp
      (show Program.Trace (Program.ask op >>= fun answer => .done (.ok answer)) steps result from run)
    obtain ⟨rfl, rfl⟩ := Program.Trace.done_iff.mp rest
    obtain rfl := Program.Trace.ask_iff.mp asked
    exact ⟨answer, rfl, rfl⟩
  · rintro ⟨answer, rfl, rfl⟩
    exact .request answer (.done _)

theorem trace_mapError {change : ε → ξ} {code : Fallible ι ε α} {result : Except ξ α} :
    Program.Trace (Fallible.mapError change code).run steps result ↔
      ∃ outcome, Program.Trace code.run steps outcome ∧ result = outcome.mapError change := by
  constructor
  · intro run
    obtain ⟨early, late, outcome, rfl, called, rest⟩ := Program.Trace.bind_iff.mp
      (show Program.Trace (code.run >>= fun result => .done (result.mapError change)) steps result
        from run)
    obtain ⟨rfl, rfl⟩ := Program.Trace.done_iff.mp rest
    exact ⟨outcome, by simpa using called, rfl⟩
  · rintro ⟨outcome, run, rfl⟩
    exact Program.Trace.bind_iff.mpr ⟨steps, [], outcome, by simp, run, .done _⟩

theorem trace_caught {code : Fallible ι ε α} {result : Except ε (Except ε α)} :
    Program.Trace (Fallible.caught code).run steps result ↔
      ∃ outcome, Program.Trace code.run steps outcome ∧ result = .ok outcome := by
  constructor
  · intro run
    obtain ⟨early, late, outcome, rfl, called, rest⟩ := Program.Trace.bind_iff.mp
      (show Program.Trace (code.run >>= fun result => .done (.ok result)) steps result from run)
    obtain ⟨rfl, rfl⟩ := Program.Trace.done_iff.mp rest
    exact ⟨outcome, by simpa using called, rfl⟩
  · rintro ⟨outcome, run, rfl⟩
    exact Program.Trace.bind_iff.mpr ⟨steps, [], outcome, by simp, run, .done _⟩

end Fallible

namespace Fallible
variable {requests : ι.Op → Prop} {returns : α → Prop} {raises : ε → Prop}
  {code : Fallible ι ε α} {next : α → Fallible ι ε β}

theorem Behaves.trace_bind (behaves : code.Behaves requests returns raises) {steps : List (Sigma ι.Answer)}
    {result : Except ε β} (run : Program.Trace (code >>= next).run steps result) :
    (∃ error, result = .error error ∧ raises error ∧ ∀ step ∈ steps, requests step.1) ∨
      ∃ early late value, steps = early ++ late ∧ (∀ step ∈ early, requests step.1) ∧ returns value ∧
        Program.Trace (next value).run late result := by
  rcases Fallible.trace_bind.mp run with ⟨early, late, value, rfl, first, rest⟩ | ⟨error, rfl, first⟩
  · obtain ⟨within, holds⟩ := Program.Behaves.trace behaves first
    exact .inr ⟨early, late, value, rfl, within, holds, rest⟩
  · obtain ⟨within, holds⟩ := Program.Behaves.trace behaves first
    exact .inl ⟨error, rfl, holds, within⟩

end Fallible

/-! ### Pools and worlds -/

def Pool.entries (pool : Pool ι ε α σ) (pid : Nat) : Option ε := (pool.tasks pid).map (·.entry)

theorem Pool.entries_update {shared : σ} {tasks : Nat → Option (Task ι ε α)} {pid : Nat}
    {task : Task ι ε α} : Pool.entries ⟨shared, Function.update tasks pid (some task)⟩ =
      Function.update (Pool.entries ⟨shared, tasks⟩) pid (some task.entry) := by
  funext other
  by_cases same : other = pid
  · subst same
    simp [Pool.entries]
  · simp [Pool.entries, Function.update_of_ne same]

/-- The invariant rule for pools of programs that behave as their entry points do: what relates
the shared state to the entry points has to survive a start, a request that the entry point may
make, and a crash. -/
theorem Pool.behaves {world : World ι σ χ} {main : Nat → ε → Program ι α}
    {ok : Pool ι ε α σ → Move ε χ → Prop} {requests : Nat → ε → ι.Op → Prop}
    {result : Nat → ε → α → Prop} {initial : σ} (kept : (Nat → Option ε) → σ → Prop)
    (behaving : ∀ pid entry, (main pid entry).Behaves (requests pid entry) (result pid entry))
    (initially : kept (fun _ => none) initial)
    (starts : ∀ entries shared pid entry, entries pid = none → kept entries shared →
      kept (Function.update entries pid (some entry)) shared)
    (acts : ∀ entries shared pid entry op choice answer after, entries pid = some entry →
      requests pid entry op → kept entries shared →
      world.perform pid op choice shared = some (answer, after) → kept entries after)
    (crashes : ∀ entries shared pid, kept entries shared → kept entries (world.abandon pid shared))
    {moves : List (Move ε χ)} {final : Pool ι ε α σ}
    (run : Runs (Pool.step world main) ok (Pool.initial initial) moves final) :
    kept final.entries final.shared ∧ ∀ pid entry program,
      final.tasks pid = some ⟨entry, some program⟩ →
        program.Behaves (requests pid entry) (result pid entry) := by
  let property (pool : Pool ι ε α σ) : Prop := kept pool.entries pool.shared ∧
    ∀ pid entry program, pool.tasks pid = some ⟨entry, some program⟩ →
      program.Behaves (requests pid entry) (result pid entry)
  show property final
  refine run.invariant ⟨initially, by simp [Pool.initial]⟩ ?_
  rintro ⟨shared, tasks⟩ move next ⟨holds, running⟩ _ moved
  -- one task is replaced by another of the same entry point, or is new
  have replaced : ∀ {pid : Nat} {entry : ε} {rest : Option (Program ι α)} {after : σ},
      kept (Function.update (Pool.entries ⟨shared, tasks⟩) pid (some entry)) after →
      (∀ program, rest = some program →
        program.Behaves (requests pid entry) (result pid entry)) →
      property ⟨after, Function.update tasks pid (some ⟨entry, rest⟩)⟩ := by
    intro pid entry rest after holds behaves
    refine ⟨by rw [Pool.entries_update]; exact holds, ?_⟩
    intro other entry' program present
    by_cases same : other = pid
    · subst same
      simp only [Function.update_self, Option.some.injEq, Task.mk.injEq] at present
      obtain ⟨rfl, rfl⟩ := present
      exact behaves program rfl
    · simp only [Function.update_of_ne same] at present
      exact running other entry' program present
  cases move with
  | start pid entry =>
    simp only [Pool.step] at moved
    split at moved
    · next absent =>
      cases moved
      apply replaced (starts _ _ _ _ (by simp [Pool.entries, absent]) holds)
      intro program same
      cases same
      exact behaving pid entry
    · cases moved
  | act pid choice =>
    simp only [Pool.step] at moved
    split at moved
    · next entry op rest present =>
      simp only [Option.map_eq_some_iff] at moved
      obtain ⟨⟨answer, after⟩, performed, rfl⟩ := moved
      have entered : Pool.entries ⟨shared, tasks⟩ pid = some entry := by simp [Pool.entries, present]
      have behaves := running pid entry _ present
      apply replaced
      · rw [Function.update_eq_self_iff.mpr entered.symm]
        exact acts _ _ _ _ _ _ _ _ entered behaves.1 holds performed
      · intro program same
        cases same
        exact behaves.2 answer
    · cases moved
  | crash pid =>
    simp only [Pool.step] at moved
    split at moved
    · next entry op rest present =>
      cases moved
      have entered : Pool.entries ⟨shared, tasks⟩ pid = some entry := by simp [Pool.entries, present]
      apply replaced
      · rw [Function.update_eq_self_iff.mpr entered.symm]
        exact crashes _ _ _ holds
      · intro program same
        cases same
    · cases moved

namespace Evaluates
variable {world : World ι σ χ} {pid : Nat} {allowed : ι.Op → χ → σ → Prop}

theorem mapError_run {change : ε → ξ} {code : Fallible ι ε α} {result : Except ξ α} {state final : σ} :
    Evaluates world pid allowed (Fallible.mapError change code).run state result final ↔
      ∃ outcome, Evaluates world pid allowed code.run state outcome final ∧
        result = outcome.mapError change := by
  constructor
  · intro run
    obtain ⟨outcome, middle, run, rest⟩ := bind_iff.mp
      (show Evaluates world pid allowed (code.run >>= fun result => .done (result.mapError change))
        state result final from run)
    obtain ⟨rfl, rfl⟩ := done_iff.mp rest
    exact ⟨outcome, run, rfl⟩
  · rintro ⟨outcome, run, rfl⟩
    exact bind_iff.mpr ⟨outcome, final, run, .done⟩

theorem trace {program : Program ι α} {value : α} {state final : σ}
    (tracks : List (Sigma ι.Answer) → σ → Prop)
    (run : Evaluates world pid allowed program state value final) (initially : tracks [] state)
    (extends' : ∀ steps op choice before answer after, tracks steps before →
      allowed op choice before → world.perform pid op choice before = some (answer, after) → tracks (steps ++ [⟨op, answer⟩]) after) :
    ∃ steps, Program.Trace program steps value ∧ tracks steps final := by
  suffices general : ∀ earlier, tracks earlier state →
      ∃ steps, Program.Trace program steps value ∧ tracks (earlier ++ steps) final from by
    simpa using general [] initially
  clear initially
  induction run with
  | done => exact fun earlier holds => ⟨[], .done _, by simpa using holds⟩
  | @request op next state middle final choice answer value permitted performed _ ih =>
    intro earlier holds
    have continued := extends' _ _ _ _ _ _ holds permitted performed
    obtain ⟨steps, traced, tracked⟩ := ih _ continued
    exact ⟨⟨op, answer⟩ :: steps, .request answer traced, by simpa using tracked⟩

theorem runs {main : Nat → ε → Program ι α} {entry : ε} {program : Program ι α} {value : α}
    {state final : σ} (run : Evaluates world pid allowed program state value final)
    {tasks : Nat → Option (Task ι ε α)} (present : tasks pid = some ⟨entry, some program⟩) :
    ∃ moves, Runs (Pool.step world main) (fun _ _ => True) ⟨state, tasks⟩ moves
      ⟨final, Function.update tasks pid (some ⟨entry, some (.done value)⟩)⟩ := by
  induction run generalizing tasks with
  | done =>
    refine ⟨[], ?_⟩
    rw [Function.update_eq_self_iff.mpr present.symm]
    exact .nil _
  | @request op next state middle final choice answer value _ performed _ ih =>
    have continued : Function.update tasks pid (some (Task.mk entry (some (next answer)))) pid =
        some ⟨entry, some (next answer)⟩ := by simp
    obtain ⟨moves, rest⟩ := ih continued
    rw [Function.update_idem] at rest
    refine ⟨.act pid choice :: moves, .cons trivial ?_ rest⟩
    simp [Pool.step, present, performed]

end Evaluates

-- a goal about a program is taken apart by the rules above, never by running the program
attribute [irreducible] Fallible.Behaves

end Concurrent
