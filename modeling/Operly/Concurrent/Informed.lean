import Operly.Concurrent.Requests

/-! Programs whose answers are known to have a property each. Between two writes the world stands
still for a program that runs alone, and what it is told is determined. -/

namespace Concurrent

variable {ι : Interface} {α β ε : Type}

namespace Program

/-- As long as the answers are as they must be, every request and the result have a property each. -/
def Informed (answers : (op : ι.Op) → ι.Answer op → Prop) (requests : ι.Op → Prop)
    (result : α → Prop) : Program ι α → Prop
  | .done value => result value
  | .request op next =>
      requests op ∧ ∀ answer, answers op answer → Informed answers requests result (next answer)

namespace Informed
variable {answers : (op : ι.Op) → ι.Answer op → Prop} {requests : ι.Op → Prop}

theorem bind {middle : α → Prop} {result : β → Prop} {program : Program ι α}
    {next : α → Program ι β} (first : program.Informed answers requests middle)
    (rest : ∀ value, middle value → (next value).Informed answers requests result) :
    (program >>= next).Informed answers requests result := by
  induction program with
  | done value => exact rest value first
  | request op tail ih => exact ⟨first.1, fun answer told => ih answer (first.2 answer told)⟩

theorem weaken {result weaker : α → Prop} {program : Program ι α}
    (informed : program.Informed answers requests result)
    (implies : ∀ value, result value → weaker value) : program.Informed answers requests weaker := by
  induction program with
  | done value => exact implies value informed
  | request op tail ih => exact ⟨informed.1, fun answer told => ih answer (informed.2 answer told)⟩

end Informed

end Program

namespace Fallible

def Informed (answers : (op : ι.Op) → ι.Answer op → Prop) (requests : ι.Op → Prop)
    (returns : α → Prop) (code : Fallible ι ε α) : Prop :=
  code.run.Informed answers requests fun result => ∀ value, result = .ok value → returns value

namespace Informed
variable {answers : (op : ι.Op) → ι.Answer op → Prop} {requests : ι.Op → Prop}

variable {returns : α → Prop} {code : Fallible ι ε α}

theorem bind {middle : α → Prop} {returns : β → Prop} {next : α → Fallible ι ε β}
    (first : code.Informed answers requests middle)
    (rest : ∀ value, middle value → (next value).Informed answers requests returns) :
    (code >>= next).Informed answers requests returns := by
  apply Program.Informed.bind first
  intro result holds
  cases result with
  | ok value => exact rest value (holds value rfl)
  | error error =>
    intro value same
    cases same

theorem pure {value : α} (holds : returns value) :
    (Pure.pure value : Fallible ι ε α).Informed answers requests returns := by
  intro result same
  cases same
  exact holds

theorem raise {error : ε} : (Fallible.raise error : Fallible ι ε α).Informed answers requests returns := by
  intro result same
  cases same

theorem ofExcept {outcome : Except ε α} (holds : ∀ value, outcome = .ok value → returns value) :
    (Fallible.ofExcept outcome : Fallible ι ε α).Informed answers requests returns := holds

theorem bind_ofExcept {returns : β → Prop} {outcome : Except ε α} {next : α → Fallible ι ε β}
    (rest : ∀ value, outcome = .ok value → (next value).Informed answers requests returns) :
    (Fallible.ofExcept outcome >>= next).Informed answers requests returns :=
  bind (ofExcept fun _ same => same) rest

theorem ask {op : ι.Op} {returns : ι.Answer op → Prop} (allowed : requests op)
    (told : ∀ answer, answers op answer → returns answer) :
    (Fallible.ask op : Fallible ι ε (ι.Answer op)).Informed answers requests returns := by
  refine ⟨allowed, fun answer known => ?_⟩
  intro value same
  cases same
  exact told answer known

theorem bind_ask {op : ι.Op} {returns : β → Prop} {next : ι.Answer op → Fallible ι ε β} (allowed : requests op)
    (rest : ∀ answer, answers op answer → (next answer).Informed answers requests returns) :
    (Fallible.ask op >>= next).Informed answers requests returns :=
  bind (ask allowed fun _ known => known) rest

theorem ite {condition : Prop} [Decidable condition] {other : Fallible ι ε α}
    (holds : condition → code.Informed answers requests returns)
    (fails : ¬ condition → other.Informed answers requests returns) :
    (if condition then code else other).Informed answers requests returns := by
  split
  · next yes => exact holds yes
  · next no => exact fails no

theorem weaken {weaker : α → Prop} (informed : code.Informed answers requests returns)
    (implies : ∀ value, returns value → weaker value) : code.Informed answers requests weaker :=
  Program.Informed.weaken informed fun _ holds value same => implies value (holds value same)

theorem run_iff :
    code.Informed answers requests returns ↔
      code.run.Informed answers requests fun result => ∀ value, result = .ok value → returns value :=
  Iff.rfl

end Informed

end Fallible

-- as for the programs whose answers are not known
attribute [irreducible] Fallible.Informed

end Concurrent
