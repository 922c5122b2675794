import Mathlib.Logic.Function.Basic

/-! Programs that issue typed requests to a shared world, and the processes that run
them. One request is one atomic step, so two programs interleave request by request and
a process may be lost between any two of them. -/

namespace Concurrent

/-- The requests a program may issue, each with the type of its answer. -/
structure Interface where
  Op : Type
  Answer : Op → Type

inductive Program (ι : Interface) (α : Type) where
  | done (value : α)
  | request (op : ι.Op) (next : ι.Answer op → Program ι α)

namespace Program
variable {ι : Interface} {α β γ : Type}

def bind : Program ι α → (α → Program ι β) → Program ι β
  | .done value, next => next value
  | .request op rest, next => .request op (fun answer => (rest answer).bind next)

instance : Monad (Program ι) where
  pure := .done
  bind := bind

@[simp] theorem done_bind (value : α) (next : α → Program ι β) : (Program.done value >>= next) = next value := rfl

@[simp] theorem request_bind (op : ι.Op) (rest : ι.Answer op → Program ι α) (next : α → Program ι β) :
    (Program.request op rest >>= next) = .request op (fun answer => rest answer >>= next) := rfl

def ask (op : ι.Op) : Program ι (ι.Answer op) := .request op .done

end Program

/-- A fallible program: an exception is an ordinary result of the underlying program. -/
abbrev Fallible (ι : Interface) (ε α : Type) := ExceptT ε (Program ι) α

namespace Fallible
variable {ι : Interface} {ε ε' α β : Type}

def ask (op : ι.Op) : Fallible ι ε (ι.Answer op) := ExceptT.lift (Program.ask op)

def raise (error : ε) : Fallible ι ε α := ExceptT.mk (.done (.error error))

def ofExcept (result : Except ε α) : Fallible ι ε α := ExceptT.mk (.done result)

def mapError (change : ε → ε') (code : Fallible ι ε α) : Fallible ι ε' α :=
  ExceptT.mk (code.run >>= fun result => .done (result.mapError change))

def caught (code : Fallible ι ε α) : Fallible ι ε (Except ε α) :=
  ExceptT.mk (code.run >>= fun result => .done (.ok result))

end Fallible

/-- The shared world: what one request of process `pid` does to it, given the choices that
are not the program's own, and what remains of the process's hold on it after a crash. -/
structure World (ι : Interface) (σ χ : Type) where
  perform : Nat → (op : ι.Op) → χ → σ → Option (ι.Answer op × σ)
  abandon : Nat → σ → σ

structure Task (ι : Interface) (ε α : Type) where
  entry : ε
  rest : Option (Program ι α)

structure Pool (ι : Interface) (ε α σ : Type) where
  shared : σ
  tasks : Nat → Option (Task ι ε α)

inductive Move (ε χ : Type) where
  | start (pid : Nat) (entry : ε)
  | act (pid : Nat) (choice : χ)
  | crash (pid : Nat)

namespace Pool
variable {ι : Interface} {ε α σ χ : Type}

def initial (shared : σ) : Pool ι ε α σ := ⟨shared, fun _ => none⟩

/-- One step of the pool: a process starts, issues its next request, or is lost. -/
def step (world : World ι σ χ) (main : Nat → ε → Program ι α) (pool : Pool ι ε α σ) :
    Move ε χ → Option (Pool ι ε α σ)
  | .start pid entry =>
      match pool.tasks pid with
      | none => some { pool with
          tasks := Function.update pool.tasks pid (some ⟨entry, some (main pid entry)⟩) }
      | some _ => none
  | .act pid choice =>
      match pool.tasks pid with
      | some ⟨entry, some (.request op next)⟩ =>
          (world.perform pid op choice pool.shared).map fun answered =>
            { shared := answered.2,
              tasks := Function.update pool.tasks pid (some ⟨entry, some (next answered.1)⟩) }
      | _ => none
  | .crash pid =>
      match pool.tasks pid with
      | some ⟨entry, some (.request _ _)⟩ =>
          some { shared := world.abandon pid pool.shared,
                 tasks := Function.update pool.tasks pid (some ⟨entry, none⟩) }
      | _ => none

end Pool

/-- A run whose every step meets a condition on the state before it and on the move. -/
inductive Runs {σ μ : Type} (step : σ → μ → Option σ) (ok : σ → μ → Prop) :
    σ → List μ → σ → Prop
  | nil (state : σ) : Runs step ok state [] state
  | cons {state middle final : σ} {move : μ} {moves : List μ} (allowed : ok state move)
      (moved : step state move = some middle) (rest : Runs step ok middle moves final) :
      Runs step ok state (move :: moves) final

namespace Runs
variable {σ μ : Type} {step : σ → μ → Option σ} {ok : σ → μ → Prop}

variable {start final : σ} {moves : List μ}

theorem invariant {property : σ → Prop} (run : Runs step ok start moves final) (initially : property start)
    (preserved : ∀ state move next, property state → ok state move →
      step state move = some next → property next) : property final := by
  induction run with
  | nil => exact initially
  | cons allowed moved _ ih => exact ih (preserved _ _ _ initially allowed moved)

theorem append {middle : σ} {first second : List μ} (run : Runs step ok start first middle)
    (rest : Runs step ok middle second final) : Runs step ok start (first ++ second) final := by
  induction run with
  | nil => exact rest
  | cons allowed moved _ ih => exact .cons allowed moved (ih rest)

theorem weaken {weaker : σ → μ → Prop} (run : Runs step ok start moves final)
    (implies : ∀ state move, ok state move → weaker state move) : Runs step weaker start moves final := by
  induction run with
  | nil => exact .nil _
  | cons allowed moved _ ih => exact .cons (implies _ _ allowed) moved ih

theorem both {other : σ → μ → Prop} {final' : σ} (first : Runs step ok start moves final)
    (second : Runs step other start moves final') :
    Runs step (fun state move => ok state move ∧ other state move) start moves final := by
  induction first with
  | nil => exact .nil _
  | cons allowed moved _ ih =>
    cases second with
    | cons allowed' moved' rest' =>
      cases moved.symm.trans moved'
      exact .cons ⟨allowed, allowed'⟩ moved (ih rest')

theorem of_forall {other : μ → Prop} (run : Runs step ok start moves final) (each : ∀ move ∈ moves, other move) :
    Runs step (fun state move => ok state move ∧ other move) start moves final := by
  induction run with
  | nil => exact .nil _
  | cons allowed moved _ ih =>
    obtain ⟨first, later⟩ := List.forall_mem_cons.mp each
    exact .cons ⟨allowed, first⟩ moved (ih later)

theorem of_checked {check : σ → μ → Bool} (sound : ∀ state move, check state move = true → ok state move)
    (evaluated : moves.foldlM (fun state move => if check state move then step state move else none)
      start = some final) : Runs step ok start moves final := by
  induction moves generalizing start with
  | nil =>
    simp only [List.foldlM_nil, Option.pure_def, Option.some.injEq] at evaluated
    exact evaluated ▸ .nil start
  | cons move moves ih =>
    rw [List.foldlM_cons] at evaluated
    by_cases checked : check start move = true
    · cases moved : step start move with
      | none => simp [moved] at evaluated
      | some middle =>
        rw [if_pos checked, moved] at evaluated
        exact .cons (sound start move checked) moved (ih evaluated)
    · simp [checked] at evaluated

theorem of_foldlM (evaluated : moves.foldlM step start = some final) :
    Runs step (fun _ _ => True) start moves final := by
  let always (_ : σ) (_ : μ) : Bool := true
  have checked : ∀ state move, always state move = true → True := fun _ _ _ => trivial
  exact of_checked checked (by simpa [always] using evaluated)

end Runs

end Concurrent
