import Operly.Concurrent.Informed

/-! Processes that take turns: one program runs at a time, to its end or until it is lost. -/

namespace Concurrent

variable {ι : Interface} {σ χ α β ε ξ : Type}

namespace Program

/-- The program runs alone as far as the choices go; what is left of it, and the state then. -/
def play (world : World ι σ χ) (pid : Nat) : List χ → Program ι α → σ → Option (Program ι α × σ)
  | [], program, state => some (program, state)
  | _ :: _, .done _, _ => none
  | choice :: rest, .request op next, state =>
      (world.perform pid op choice state).bind fun answered =>
        play world pid rest (next answered.1) answered.2

def Meets (world : World ι σ χ) (pid : Nat) (ok : ι.Op → χ → σ → Prop) :
    List χ → Program ι α → σ → Prop
  | choice :: rest, .request op next, state =>
      ok op choice state ∧ ∀ answered, world.perform pid op choice state = some answered →
        Meets world pid ok rest (next answered.1) answered.2
  | _, _, _ => True

theorem Meets.of_all {world : World ι σ χ} {pid : Nat} {ok : ι.Op → χ → σ → Prop}
    (always : ∀ op choice state, ok op choice state) (choices : List χ) (program : Program ι α) (state : σ) :
    program.Meets world pid ok choices state := by
  induction choices generalizing program state with
  | nil => cases program <;> trivial
  | cons choice rest ih =>
    cases program with
    | done value => trivial
    | request op next => exact ⟨always op choice state, fun answered _ => ih _ _⟩

/-- Every state that a request is made in is kept, and the result satisfies the postcondition,
however the requests are served. -/
def Ensures (world : World ι σ χ) (pid : Nat) (ok : ι.Op → χ → σ → Prop) (kept : σ → Prop)
    (post : α → σ → Prop) : Program ι α → σ → Prop
  | .done value, state => post value state
  | .request op next, state => kept state ∧ ∀ choice answer after, ok op choice state →
      world.perform pid op choice state = some (answer, after) →
      Ensures world pid ok kept post (next answer) after

variable {world : World ι σ χ} {pid : Nat} {ok : ι.Op → χ → σ → Prop} {kept : σ → Prop}

namespace Ensures

variable {post : α → σ → Prop} {program : Program ι α}

theorem bind {middle : α → σ → Prop} {post : β → σ → Prop} {next : α → Program ι β} {state : σ}
    (first : program.Ensures world pid ok kept middle state)
    (rest : ∀ value after, middle value after → (next value).Ensures world pid ok kept post after) :
    (program >>= next).Ensures world pid ok kept post state := by
  induction program generalizing state with
  | done value => exact rest value state first
  | request op tail ih =>
    refine ⟨first.1, fun choice answer after allowed performed => ?_⟩
    exact ih answer (first.2 choice answer after allowed performed)

theorem weaken {wider : σ → Prop} {weaker : α → σ → Prop} {state : σ}
    (ensures : program.Ensures world pid ok kept post state) (widens : ∀ state, kept state → wider state)
    (implies : ∀ value state, post value state → weaker value state) :
    program.Ensures world pid ok wider weaker state := by
  induction program generalizing state with
  | done value => exact implies value state ensures
  | request op tail ih =>
    refine ⟨widens state ensures.1, fun choice answer after allowed performed => ?_⟩
    exact ih answer (ensures.2 choice answer after allowed performed)

theorem evaluates {state final : σ} {value : α} (ensures : program.Ensures world pid ok kept post state)
    (run : Evaluates world pid ok program state value final) : post value final := by
  induction run with
  | done => exact ensures
  | request allowed performed _ ih => exact ih (ensures.2 _ _ _ allowed performed)

theorem play {rest : Program ι α} {choices : List χ} {state after : σ}
    (ensures : program.Ensures world pid ok kept post state) (meets : program.Meets world pid ok choices state)
    (played : program.play world pid choices state = some (rest, after)) :
    rest.Ensures world pid ok kept post after := by
  induction choices generalizing program state with
  | nil =>
    cases played
    exact ensures
  | cons choice choices ih =>
    cases program with
    | done value => cases played
    | request op next =>
      simp only [Program.play, Option.bind_eq_some_iff] at played
      obtain ⟨⟨answer, middle⟩, performed, later⟩ := played
      obtain ⟨allowed, continues⟩ := meets
      exact ih (ensures.2 choice answer middle allowed performed) (continues _ performed) later

/-- A part that changes nothing but what `steady` permits, and so is told what the first state says. -/
theorem informed {answers : (op : ι.Op) → ι.Answer op → Prop} {requests : ι.Op → Prop} {steady : σ → Prop}
    {result : α → Prop} {state : σ} (told : program.Informed answers requests result) (initially : steady state)
    (serves : ∀ op choice before answer after, requests op → steady before →
      world.perform pid op choice before = some (answer, after) → answers op answer ∧ steady after)
    (keeps : ∀ state, steady state → kept state) :
    program.Ensures world pid ok kept (fun value after => steady after ∧ result value) state := by
  induction program generalizing state with
  | done value => exact ⟨initially, told⟩
  | request op next ih =>
    refine ⟨keeps state initially, fun choice answer after _ performed => ?_⟩
    obtain ⟨known, still⟩ := serves op choice state answer after told.1 initially performed
    exact ih answer (told.2 answer known) still

end Ensures

end Program

namespace Fallible

def Ensures (world : World ι σ χ) (pid : Nat) (ok : ι.Op → χ → σ → Prop) (kept : σ → Prop)
    (returns : α → σ → Prop) (raises : ε → σ → Prop) (code : Fallible ι ε α) (state : σ) : Prop :=
  code.run.Ensures world pid ok kept (fun result after => match result with
    | .ok value => returns value after
    | .error error => raises error after) state

namespace Ensures
variable {world : World ι σ χ} {pid : Nat} {ok : ι.Op → χ → σ → Prop} {kept : σ → Prop}
  {raises : ε → σ → Prop} {state : σ}

variable {returns : α → σ → Prop} {code : Fallible ι ε α}

theorem bind {middle : α → σ → Prop} {returns : β → σ → Prop} {next : α → Fallible ι ε β}
    (first : code.Ensures world pid ok kept middle raises state)
    (rest : ∀ value after, middle value after → (next value).Ensures world pid ok kept returns raises after) :
    (code >>= next).Ensures world pid ok kept returns raises state := by
  apply Program.Ensures.bind first
  intro result after holds
  cases result with
  | ok value => exact rest value after holds
  | error error => exact holds

theorem pure {value : α} (holds : returns value state) :
    (Pure.pure value : Fallible ι ε α).Ensures world pid ok kept returns raises state := holds

theorem raise {error : ε} (holds : raises error state) :
    (Fallible.raise error : Fallible ι ε α).Ensures world pid ok kept returns raises state := holds

theorem bind_ask {op : ι.Op} {returns : β → σ → Prop} {next : ι.Answer op → Fallible ι ε β}
    (holds : kept state) (served : ∀ choice answer after, ok op choice state →
      world.perform pid op choice state = some (answer, after) →
      (next answer).Ensures world pid ok kept returns raises after) :
    (Fallible.ask op >>= next).Ensures world pid ok kept returns raises state := ⟨holds, served⟩

theorem ite {condition : Prop} [Decidable condition] {other : Fallible ι ε α}
    (holds : condition → code.Ensures world pid ok kept returns raises state)
    (fails : ¬ condition → other.Ensures world pid ok kept returns raises state) :
    (if condition then code else other).Ensures world pid ok kept returns raises state := by
  split
  · next yes => exact holds yes
  · next no => exact fails no

theorem weaken {wider : σ → Prop} {weaker : α → σ → Prop} {raises' : ε → σ → Prop}
    (ensures : code.Ensures world pid ok kept returns raises state) (widens : ∀ state, kept state → wider state)
    (implies : ∀ value state, returns value state → weaker value state)
    (failed : ∀ error state, raises error state → raises' error state) :
    code.Ensures world pid ok wider weaker raises' state := by
  apply Program.Ensures.weaken ensures widens
  intro result after holds
  cases result with
  | ok value => exact implies value after holds
  | error error => exact failed error after holds

theorem informed {answers : (op : ι.Op) → ι.Answer op → Prop} {requests : ι.Op → Prop} {steady : σ → Prop}
    {result : α → Prop} (told : code.Informed answers requests result) (initially : steady state)
    (serves : ∀ op choice before answer after, requests op → steady before →
      world.perform pid op choice before = some (answer, after) → answers op answer ∧ steady after)
    (keeps : ∀ state, steady state → kept state) :
    code.Ensures world pid ok kept (fun value after => steady after ∧ result value)
      (fun _ after => steady after) state := by
  apply Program.Ensures.weaken
    (Program.Ensures.informed (Informed.run_iff.mp told) initially serves keeps) fun _ holds => holds
  rintro outcome after ⟨still, holds⟩
  cases outcome with
  | ok value => exact ⟨still, holds value rfl⟩
  | error error => exact still

theorem run_iff :
    code.Ensures world pid ok kept returns raises state ↔
      code.run.Ensures world pid ok kept (fun result after => match result with
        | .ok value => returns value after
        | .error error => raises error after) state := Iff.rfl

end Ensures

end Fallible

/-- The turn of one process, which ends with its program or where the choices end. -/
structure Turn (ε χ : Type) where
  pid : Nat
  entry : ε
  choices : List χ

namespace Turn
variable {main : Nat → ε → Program ι α} {world : World ι σ χ}

def result (world : World ι σ χ) (main : Nat → ε → Program ι α) (turn : Turn ε χ) (state : σ) :
    Option (Option α × σ) :=
  ((main turn.pid turn.entry).play world turn.pid turn.choices state).map fun played =>
    match played.1 with
    | .done value => (some value, played.2)
    | .request _ _ => (none, world.abandon turn.pid played.2)

def Meets (world : World ι σ χ) (main : Nat → ε → Program ι α) (ok : Nat → ι.Op → χ → σ → Prop)
    (turn : Turn ε χ) (state : σ) : Prop :=
  (main turn.pid turn.entry).Meets world turn.pid (ok turn.pid) turn.choices state

theorem ensured {ok : Nat → ι.Op → χ → σ → Prop} {kept : σ → Prop} {post : α → σ → Prop}
    {turn : Turn ε χ} {state : σ} {outcome : Option α × σ}
    (ensures : (main turn.pid turn.entry).Ensures world turn.pid (ok turn.pid) kept post state)
    (meets : turn.Meets world main ok state) (taken : turn.result world main state = some outcome) :
    (∀ value, outcome.1 = some value → post value outcome.2) ∧
      (outcome.1 = none → ∃ last, kept last ∧ outcome.2 = world.abandon turn.pid last) := by
  obtain ⟨⟨rest, after⟩, played, rfl⟩ := Option.map_eq_some_iff.mp taken
  have ensured := Program.Ensures.play ensures meets played
  cases rest with
  | done value =>
    constructor
    · intro result same
      cases same
      exact ensured
    · intro lost
      cases lost
  | request op next =>
    constructor
    · intro result same
      cases same
    · intro _
      exact ⟨after, ensured.1, rfl⟩

end Turn

-- as for the programs whose requests are known
attribute [irreducible] Fallible.Ensures

end Concurrent
