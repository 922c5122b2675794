import Mathlib.Data.List.Forall2
import Operly.Concurrent.Requests

/-! Two programs side by side: as long as their answers are related, so are their requests, and
in the end their results. -/

namespace Concurrent

variable {ι : Interface} {α β ε ξ : Type}

namespace Program

def Twin (asks : ι.Op → ι.Op → Prop) (related : Sigma ι.Answer → Sigma ι.Answer → Prop)
    (final : α → α → Prop) : Program ι α → Program ι α → Prop
  | .done value, .done value' => final value value'
  | .request op next, .request op' next' => asks op op' ∧ ∀ answer answer',
      related ⟨op, answer⟩ ⟨op', answer'⟩ → Twin asks related final (next answer) (next' answer')
  | _, _ => False

namespace Twin
variable {asks : ι.Op → ι.Op → Prop} {related : Sigma ι.Answer → Sigma ι.Answer → Prop}

variable {final : α → α → Prop} {left right : Program ι α}

theorem bind {middle : α → α → Prop} {final : β → β → Prop} {next next' : α → Program ι β}
    (first : Twin asks related middle left right)
    (rest : ∀ value value', middle value value' → Twin asks related final (next value) (next' value')) :
    Twin asks related final (left >>= next) (right >>= next') := by
  induction left generalizing right with
  | done value =>
    cases right with
    | done value' => exact rest value value' first
    | request op tail => exact first.elim
  | request op tail ih =>
    cases right with
    | done value' => exact first.elim
    | request op' tail' =>
      exact ⟨first.1, fun answer answer' alike => ih answer (first.2 answer answer' alike)⟩

theorem same {requests : ι.Op → Prop} {result : α → Prop} {program : Program ι α}
    (behaves : program.Behaves requests result) (asked : ∀ op, requests op → asks op op)
    (equal : ∀ op answer answer', requests op → related ⟨op, answer⟩ ⟨op, answer'⟩ → answer = answer')
    (ends : ∀ value, result value → final value value) : Twin asks related final program program := by
  induction program with
  | done value => exact ends value behaves
  | request op next ih =>
    refine ⟨asked op behaves.1, ?_⟩
    intro answer answer' alike
    obtain rfl := equal op answer answer' behaves.1 alike
    exact ih answer (behaves.2 answer)

theorem weaken {final' : α → α → Prop} (twin : Twin asks related final' left right)
    (ends : ∀ value value', final' value value' → final value value') : Twin asks related final left right := by
  induction left generalizing right with
  | done value =>
    cases right with
    | done value' => exact ends value value' twin
    | request op next => exact twin.elim
  | request op next ih =>
    cases right with
    | done value' => exact twin.elim
    | request op' next' => exact ⟨twin.1, fun answer answer' alike => ih answer (twin.2 answer answer' alike)⟩

theorem traces (twin : Twin asks related final left right) {steps steps' : List (Sigma ι.Answer)} {value value' : α}
    (first : Trace left steps value) (second : Trace right steps' value') (alike : List.Forall₂ related steps steps') :
    List.Forall₂ (fun step step' => asks step.1 step'.1 ∧ related step step') steps steps' ∧
      final value value' := by
  induction first generalizing right steps' with
  | done value =>
    cases second with
    | done value' => exact ⟨.nil, twin⟩
    | request answer rest => exact twin.elim
  | request answer rest ih =>
    cases second with
    | done value' => exact twin.elim
    | request answer' rest' =>
      cases alike with
      | cons head tail =>
        obtain ⟨asked, ended⟩ := ih (twin.2 _ _ head) rest' tail
        exact ⟨.cons ⟨twin.1, head⟩ asked, ended⟩

theorem answered (twin : Twin asks related final left right) {answers answers' : (op : ι.Op) → ι.Answer op}
    (alike : ∀ op op', asks op op' → related ⟨op, answers op⟩ ⟨op', answers' op'⟩) :
    List.Forall₂ related (left.answered answers).1 (right.answered answers').1 := by
  induction left generalizing right with
  | done value =>
    cases right with
    | done value' => exact .nil
    | request op' next' => exact twin.elim
  | request op next ih =>
    cases right with
    | done value' => exact twin.elim
    | request op' next' =>
      have head := alike op op' twin.1
      exact .cons head (ih (answers op) (twin.2 _ _ head))

end Twin

end Program

namespace Fallible

def Twin (asks : ι.Op → ι.Op → Prop) (related : Sigma ι.Answer → Sigma ι.Answer → Prop)
    (returns : α → α → Prop) (raises : ε → ε → Prop) (left right : Fallible ι ε α) : Prop :=
  Program.Twin asks related (fun
    | .ok value, .ok value' => returns value value'
    | .error error, .error error' => raises error error'
    | _, _ => False) left.run right.run

namespace Twin
variable {asks : ι.Op → ι.Op → Prop} {related : Sigma ι.Answer → Sigma ι.Answer → Prop}
  {raises : ε → ε → Prop}

theorem bind {middle : α → α → Prop} {returns : β → β → Prop} {left right : Fallible ι ε α}
    {next next' : α → Fallible ι ε β} (first : Twin asks related middle raises left right)
    (rest : ∀ value value', middle value value' →
      Twin asks related returns raises (next value) (next' value')) :
    Twin asks related returns raises (left >>= next) (right >>= next') := by
  apply Program.Twin.bind first
  intro result result' ends
  cases result with
  | ok value =>
    cases result' with
    | ok value' => exact rest value value' ends
    | error error => exact ends.elim
  | error error =>
    cases result' with
    | ok value' => exact ends.elim
    | error error' => exact ends

theorem seq {returns : β → β → Prop} {left right : Fallible ι ε Unit} {next next' : Unit → Fallible ι ε β}
    (first : Twin asks related (fun _ _ => True) raises left right)
    (rest : Twin asks related returns raises (next ()) (next' ())) :
    Twin asks related returns raises (left >>= next) (right >>= next') :=
  first.bind fun _ _ _ => rest

variable {returns : α → α → Prop}

theorem pure {value value' : α} (holds : returns value value') :
    Twin asks related returns raises (Pure.pure value : Fallible ι ε α) (Pure.pure value') := holds

theorem raise {error error' : ε} (holds : raises error error') :
    Twin asks related returns raises (Fallible.raise error : Fallible ι ε α)
      (Fallible.raise error') := holds

theorem bind_ask {op op' : ι.Op} (asked : asks op op') {next : ι.Answer op → Fallible ι ε β}
    {next' : ι.Answer op' → Fallible ι ε β} {ends : β → β → Prop}
    (rest : ∀ answer answer', related ⟨op, answer⟩ ⟨op', answer'⟩ →
      Twin asks related ends raises (next answer) (next' answer')) :
    Twin asks related ends raises (Fallible.ask op >>= next) (Fallible.ask op' >>= next') :=
  ⟨asked, rest⟩

theorem same {requests : ι.Op → Prop} {result : α → Prop} {raised : ε → Prop} {code : Fallible ι ε α}
    (behaves : code.Behaves requests result raised) (asked : ∀ op, requests op → asks op op)
    (equal : ∀ op answer answer', requests op → related ⟨op, answer⟩ ⟨op, answer'⟩ → answer = answer')
    (failed : ∀ error, raised error → raises error error) :
    Twin asks related (fun value value' => value = value' ∧ result value) raises code code := by
  apply Program.Twin.same (Behaves.run_iff.mp behaves) asked equal
  intro outcome holds
  cases outcome with
  | ok value => exact ⟨rfl, holds⟩
  | error error => exact failed error holds

theorem weaken {returns' : α → α → Prop} {raises' : ε → ε → Prop} {left right : Fallible ι ε α}
    (twin : Twin asks related returns' raises' left right)
    (returned : ∀ value value', returns' value value' → returns value value')
    (raised : ∀ error error', raises' error error' → raises error error') :
    Twin asks related returns raises left right := by
  apply Program.Twin.weaken twin
  intro result result' ends
  cases result with
  | ok value =>
    cases result' with
    | ok value' => exact returned value value' ends
    | error error => exact ends.elim
  | error error =>
    cases result' with
    | ok value' => exact ends.elim
    | error error' => exact raised error error' ends

theorem mapError {raised : ξ → ξ → Prop} {change change' : ξ → ε} {left right : Fallible ι ξ α}
    (twin : Twin asks related returns raised left right)
    (changed : ∀ error error', raised error error' → raises (change error) (change' error')) :
    Twin asks related returns raises (Fallible.mapError change left)
      (Fallible.mapError change' right) := by
  apply Program.Twin.bind twin
  intro result result' ends
  cases result with
  | ok value =>
    cases result' with
    | ok value' => exact ends
    | error error => exact ends.elim
  | error error =>
    cases result' with
    | ok value' => exact ends.elim
    | error error' => exact changed error error' ends

end Twin

end Fallible

end Concurrent
