import Operly.Concurrent.Requests

/-! A program that is watched request by request: what has been seen so far decides what may be asked next. -/

namespace Concurrent

variable {ι : Interface} {α β ε μ : Type}

structure Watcher (ι : Interface) (μ : Type) where
  observe : μ → (op : ι.Op) → ι.Answer op → μ
  allows : μ → ι.Op → Prop

def Watcher.after (watcher : Watcher ι μ) (seen : μ) (steps : List (Sigma ι.Answer)) : μ :=
  steps.foldl (fun seen step => watcher.observe seen step.1 step.2) seen

namespace Program

/-- Whatever the answers, every request is allowed when it is made, and the result fits what has been seen. -/
def Watched (watcher : Watcher ι μ) (result : μ → α → Prop) : μ → Program ι α → Prop
  | seen, .done value => result seen value
  | seen, .request op next =>
      watcher.allows seen op ∧ ∀ answer, Watched watcher result (watcher.observe seen op answer) (next answer)

namespace Watched
variable {watcher : Watcher ι μ}

variable {program : Program ι α}

theorem bind {middle : μ → α → Prop} {result : μ → β → Prop} {seen : μ} {next : α → Program ι β}
    (first : program.Watched watcher middle seen)
    (rest : ∀ seen value, middle seen value → (next value).Watched watcher result seen) :
    (program >>= next).Watched watcher result seen := by
  induction program generalizing seen with
  | done value => exact rest seen value first
  | request op tail ih => exact ⟨first.1, fun answer => ih answer (first.2 answer)⟩

theorem allowed {result : μ → α → Prop} {seen : μ} {steps : List (Sigma ι.Answer)} {value : α}
    (watched : program.Watched watcher result seen) (run : Trace program steps value)
    {early late : List (Sigma ι.Answer)} {step : Sigma ι.Answer} (split : steps = early ++ step :: late) :
    watcher.allows (watcher.after seen early) step.1 := by
  induction run generalizing seen early with
  | done value => simp at split
  | request answer run ih =>
    cases early with
    | nil =>
      cases split
      exact watched.1
    | cons first rest =>
      rw [List.cons_append, List.cons.injEq] at split
      obtain ⟨rfl, later⟩ := split
      exact ih (watched.2 answer) later

theorem keeps {result : μ → α → Prop} {invariant : μ → Prop}
    (step : ∀ seen op answer, invariant seen → watcher.allows seen op → invariant (watcher.observe seen op answer))
    {seen : μ} {steps : List (Sigma ι.Answer)} {value : α} (initially : invariant seen)
    (watched : program.Watched watcher result seen) (run : Trace program steps value) :
    invariant (watcher.after seen steps) := by
  induction run generalizing seen with
  | done value => exact initially
  | request answer run ih => exact ih (step seen _ answer initially watched.1) (watched.2 answer)

end Watched

end Program

namespace Fallible

def Watched (watcher : Watcher ι μ) (returns : μ → α → Prop) (seen : μ) (code : Fallible ι ε α) : Prop :=
  code.run.Watched watcher (fun seen result => ∀ value, result = .ok value → returns seen value) seen

namespace Watched
variable {watcher : Watcher ι μ} {seen : μ}

variable {returns : μ → α → Prop} {code : Fallible ι ε α}

theorem bind {middle : μ → α → Prop} {returns : μ → β → Prop} {next : α → Fallible ι ε β}
    (first : code.Watched watcher middle seen)
    (rest : ∀ seen value, middle seen value → (next value).Watched watcher returns seen) :
    (code >>= next).Watched watcher returns seen := by
  apply Program.Watched.bind first
  intro seen result holds
  cases result with
  | ok value => exact rest seen value (holds value rfl)
  | error error =>
    intro value same
    cases same

theorem pure {value : α} (holds : returns seen value) :
    (Pure.pure value : Fallible ι ε α).Watched watcher returns seen := by
  intro result same
  cases same
  exact holds

theorem raise {error : ε} : (Fallible.raise error : Fallible ι ε α).Watched watcher returns seen := by
  intro result same
  cases same

theorem ofExcept {outcome : Except ε α} (holds : ∀ value, outcome = .ok value → returns seen value) :
    (Fallible.ofExcept outcome : Fallible ι ε α).Watched watcher returns seen := holds

theorem bind_ofExcept {returns : μ → β → Prop} {outcome : Except ε α} {next : α → Fallible ι ε β}
    (rest : ∀ value, outcome = .ok value → (next value).Watched watcher returns seen) :
    (Fallible.ofExcept outcome >>= next).Watched watcher returns seen := by
  have first : (Fallible.ofExcept outcome : Fallible ι ε α).Watched watcher
      (fun later value => later = seen ∧ outcome = .ok value) seen := ofExcept fun _ same => ⟨rfl, same⟩
  apply bind first
  intro later value known
  exact known.1 ▸ rest value known.2

theorem ask {op : ι.Op} {returns : μ → ι.Answer op → Prop} (allowed : watcher.allows seen op)
    (answered : ∀ answer, returns (watcher.observe seen op answer) answer) :
    (Fallible.ask op : Fallible ι ε (ι.Answer op)).Watched watcher returns seen := by
  refine ⟨allowed, fun answer => ?_⟩
  intro value same
  cases same
  exact answered answer

theorem bind_ask {op : ι.Op} {returns : μ → β → Prop} {next : ι.Answer op → Fallible ι ε β}
    (allowed : watcher.allows seen op)
    (rest : ∀ answer, (next answer).Watched watcher returns (watcher.observe seen op answer)) :
    (Fallible.ask op >>= next).Watched watcher returns seen := by
  have first : (Fallible.ask op : Fallible ι ε (ι.Answer op)).Watched watcher
      (fun later answer => later = watcher.observe seen op answer) seen := ask allowed fun _ => rfl
  apply bind first
  intro later answer same
  exact same ▸ rest answer

theorem ite {condition : Prop} [Decidable condition] {other : Fallible ι ε α}
    (holds : condition → code.Watched watcher returns seen) (fails : ¬ condition → other.Watched watcher returns seen) :
    (if condition then code else other).Watched watcher returns seen := by
  split
  · next yes => exact holds yes
  · next no => exact fails no

theorem run_iff : code.Watched watcher returns seen ↔
    code.run.Watched watcher (fun seen result => ∀ value, result = .ok value → returns seen value) seen :=
  Iff.rfl

end Watched

end Fallible

-- as for the programs whose answers are known
attribute [irreducible] Fallible.Watched

end Concurrent
