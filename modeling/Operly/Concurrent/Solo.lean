import Operly.Concurrent.RelyGuarantee

/-! Programs that run alone, from their first request to their result. -/

namespace Concurrent

variable {ι : Interface} {σ χ α β ε : Type}

/-- The program, with process identifier `pid` and nobody else at work, takes the world from
one state to another and returns a value; every request meets a condition. -/
inductive Evaluates (world : World ι σ χ) (pid : Nat) (ok : ι.Op → χ → σ → Prop) :
    Program ι α → σ → α → σ → Prop
  | done {value : α} {state : σ} : Evaluates world pid ok (.done value) state value state
  | request {op : ι.Op} {next : ι.Answer op → Program ι α} {state middle final : σ} {choice : χ}
      {answer : ι.Answer op} {value : α} (allowed : ok op choice state)
      (performed : world.perform pid op choice state = some (answer, middle))
      (rest : Evaluates world pid ok (next answer) middle value final) :
      Evaluates world pid ok (.request op next) state value final

def unconditional (_ : ι.Op) (_ : χ) (_ : σ) : Prop := True

namespace Evaluates
variable {world : World ι σ χ} {pid : Nat} {ok : ι.Op → χ → σ → Prop}

variable {value : α} {result : Except ε β} {state final : σ} {op : ι.Op}

theorem done_iff {result : α} :
    Evaluates world pid ok (.done value) state result final ↔ result = value ∧ final = state := by
  constructor
  · intro run
    cases run
    exact ⟨rfl, rfl⟩
  · rintro ⟨rfl, rfl⟩
    exact .done

theorem request_iff {next : ι.Answer op → Program ι α} :
    Evaluates world pid ok (.request op next) state value final ↔
      ∃ choice answer middle, ok op choice state ∧
        world.perform pid op choice state = some (answer, middle) ∧
        Evaluates world pid ok (next answer) middle value final := by
  constructor
  · intro run
    cases run with
    | request allowed performed rest => exact ⟨_, _, _, allowed, performed, rest⟩
  · rintro ⟨choice, answer, middle, allowed, performed, rest⟩
    exact .request allowed performed rest

theorem bind_iff {program : Program ι α} {next : α → Program ι β} {value : β} :
    Evaluates world pid ok (program >>= next) state value final ↔
      ∃ first middle, Evaluates world pid ok program state first middle ∧
        Evaluates world pid ok (next first) middle value final := by
  induction program generalizing state with
  | done first =>
    rw [Program.done_bind]
    constructor
    · exact fun run => ⟨first, state, .done, run⟩
    · rintro ⟨_, _, run, rest⟩
      cases run
      exact rest
  | request op tail ih =>
    rw [Program.request_bind, request_iff]
    constructor
    · rintro ⟨choice, answer, between, allowed, performed, run⟩
      obtain ⟨first, middle, run, rest⟩ := (ih answer).mp run
      exact ⟨first, middle, .request allowed performed run, rest⟩
    · rintro ⟨first, middle, run, rest⟩
      cases run with
      | request allowed performed run =>
        exact ⟨_, _, _, allowed, performed, (ih _).mpr ⟨first, middle, run, rest⟩⟩

theorem ask_iff {value : ι.Answer op} :
    Evaluates world pid ok (Program.ask op) state value final ↔
      ∃ choice, ok op choice state ∧ world.perform pid op choice state = some (value, final) := by
  rw [Program.ask, request_iff]
  constructor
  · rintro ⟨choice, answer, middle, allowed, performed, run⟩
    obtain ⟨rfl, rfl⟩ := done_iff.mp run
    exact ⟨choice, allowed, performed⟩
  · rintro ⟨choice, allowed, performed⟩
    exact ⟨choice, value, final, allowed, performed, .done⟩

theorem total {ready : σ → Prop} (served : ∀ op state, ready state → ∃ choice answer after, ok op choice state ∧
      world.perform pid op choice state = some (answer, after) ∧ ready after) (program : Program ι α)
    (initially : ready state) : ∃ value final, Evaluates world pid ok program state value final := by
  induction program generalizing state with
  | done value => exact ⟨value, state, .done⟩
  | request op next ih =>
    obtain ⟨choice, answer, after, allowed, performed, later⟩ := served op state initially
    obtain ⟨value, final, run⟩ := ih answer later
    exact ⟨value, final, .request allowed performed run⟩

theorem weaken {weaker : ι.Op → χ → σ → Prop} {program : Program ι α}
    (run : Evaluates world pid ok program state value final)
    (implies : ∀ op choice state, ok op choice state → weaker op choice state) :
    Evaluates world pid weaker program state value final := by
  induction run with
  | done => exact .done
  | request allowed performed _ ih => exact .request (implies _ _ _ allowed) performed ih

/-! ### Fallible programs -/

theorem ofExcept_run {outcome result : Except ε α} :
    Evaluates world pid ok (Fallible.ofExcept outcome : Fallible ι ε α).run state result final ↔
      result = outcome ∧ final = state := done_iff

theorem bind_run {code : Fallible ι ε α} {next : α → Fallible ι ε β} :
    Evaluates world pid ok (code >>= next).run state result final ↔
      (∃ value middle, Evaluates world pid ok code.run state (.ok value) middle ∧
        Evaluates world pid ok (next value).run middle result final) ∨
      ∃ error, result = .error error ∧ Evaluates world pid ok code.run state (.error error) final := by
  have shape : (code >>= next).run = code.run >>= fun outcome => match outcome with
      | .ok value => (next value).run
      | .error error => .done (.error error) := by
    rw [ExceptT.run_bind]
    congr 1
    funext outcome
    cases outcome <;> rfl
  rw [shape, bind_iff]
  constructor
  · rintro ⟨outcome, middle, run, rest⟩
    cases outcome with
    | ok value => exact .inl ⟨value, middle, run, rest⟩
    | error error =>
      obtain ⟨rfl, rfl⟩ := done_iff.mp rest
      exact .inr ⟨error, rfl, run⟩
  · rintro (⟨value, middle, run, rest⟩ | ⟨error, rfl, run⟩)
    · exact ⟨.ok value, middle, run, rest⟩
    · exact ⟨.error error, final, run, .done⟩

theorem ask_run {result : Except ε (ι.Answer op)} :
    Evaluates world pid ok (Fallible.ask op : Fallible ι ε (ι.Answer op)).run state result final ↔
      ∃ choice answer, result = .ok answer ∧ ok op choice state ∧
        world.perform pid op choice state = some (answer, final) := by
  have shape : (Fallible.ask op : Fallible ι ε (ι.Answer op)).run =
      Program.ask op >>= fun answer => .done (.ok answer) := rfl
  rw [shape, bind_iff]
  constructor
  · rintro ⟨answer, middle, run, rest⟩
    obtain ⟨rfl, rfl⟩ := done_iff.mp rest
    obtain ⟨choice, allowed, performed⟩ := ask_iff.mp run
    exact ⟨choice, answer, rfl, allowed, performed⟩
  · rintro ⟨choice, answer, rfl, allowed, performed⟩
    exact ⟨answer, final, ask_iff.mpr ⟨choice, allowed, performed⟩, .done⟩

theorem bind_ofExcept_run {outcome : Except ε α} {next : α → Fallible ι ε β} :
    Evaluates world pid ok (Fallible.ofExcept outcome >>= next).run state result final ↔
      (∃ value, outcome = .ok value ∧ Evaluates world pid ok (next value).run state result final) ∨
      ∃ error, outcome = .error error ∧ result = .error error ∧ final = state := by
  rw [bind_run]
  constructor
  · rintro (⟨value, middle, run, rest⟩ | ⟨error, rfl, run⟩)
    · obtain ⟨same, rfl⟩ := ofExcept_run.mp run
      exact .inl ⟨value, same.symm, rest⟩
    · obtain ⟨same, rfl⟩ := ofExcept_run.mp run
      exact .inr ⟨error, same.symm, rfl, rfl⟩
  · rintro (⟨value, rfl, rest⟩ | ⟨error, rfl, rfl, rfl⟩)
    · exact .inl ⟨value, state, ofExcept_run.mpr ⟨rfl, rfl⟩, rest⟩
    · exact .inr ⟨error, rfl, ofExcept_run.mpr ⟨rfl, rfl⟩⟩

theorem bind_ask_run {next : ι.Answer op → Fallible ι ε β} :
    Evaluates world pid ok (Fallible.ask op >>= next).run state result final ↔
      ∃ choice answer middle, ok op choice state ∧
        world.perform pid op choice state = some (answer, middle) ∧
        Evaluates world pid ok (next answer).run middle result final := by
  rw [bind_run]
  constructor
  · rintro (⟨value, middle, run, rest⟩ | ⟨error, rfl, run⟩)
    · obtain ⟨choice, answer, same, allowed, performed⟩ := ask_run.mp run
      cases same
      exact ⟨choice, _, middle, allowed, performed, rest⟩
    · obtain ⟨_, _, same, _⟩ := ask_run.mp run
      cases same
  · rintro ⟨choice, answer, middle, allowed, performed, rest⟩
    exact .inl ⟨answer, middle, ask_run.mpr ⟨choice, answer, rfl, allowed, performed⟩, rest⟩

end Evaluates

def Program.eval (world : World ι σ χ) (pid : Nat) : Program ι α → List χ → σ → Option (α × σ)
  | .done value, _, state => some (value, state)
  | .request _ _, [], _ => none
  | .request op next, choice :: rest, state =>
      (world.perform pid op choice state).bind fun answered =>
        (next answered.1).eval world pid rest answered.2

theorem Program.eval_evaluates_of {world : World ι σ χ} {pid : Nat} {ok : ι.Op → χ → σ → Prop}
    {program : Program ι α} {choices : List χ} {state final : σ} {value : α}
    (allowed : ∀ choice ∈ choices, ∀ op state, ok op choice state)
    (computed : program.eval world pid choices state = some (value, final)) :
    Evaluates world pid ok program state value final := by
  induction program generalizing choices state with
  | done result =>
    simp only [Program.eval, Option.some.injEq, Prod.mk.injEq] at computed
    obtain ⟨rfl, rfl⟩ := computed
    exact .done
  | request op next ih =>
    cases choices with
    | nil => cases computed
    | cons choice rest =>
      simp only [Program.eval, Option.bind_eq_some_iff] at computed
      obtain ⟨⟨answer, middle⟩, performed, run⟩ := computed
      obtain ⟨first, later⟩ := List.forall_mem_cons.mp allowed
      exact .request (first op state) performed (ih answer later run)

theorem Program.eval_evaluates {world : World ι σ χ} {pid : Nat} {program : Program ι α} {choices : List χ}
    {state final : σ} {value : α} (computed : program.eval world pid choices state = some (value, final)) :
    Evaluates world pid unconditional program state value final :=
  eval_evaluates_of (fun _ _ _ _ => trivial) computed

def World.amid (world : World ι σ χ) (others : (σ → σ) → Prop) : World ι σ (χ × Subtype others) where
  perform pid op choice state := world.perform pid op choice.1 (choice.2.1 state)
  abandon := world.abandon

end Concurrent
