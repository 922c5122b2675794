import Mathlib.Data.List.Forall2

/-! Functions that may raise, read backwards: what led to the value that one returned. -/

namespace Python
variable {ε α β : Type}

variable {first : Except ε α} {next : α → Except ε β} {value : β} {error : ε}

theorem bind_eq_ok : (first >>= next) = .ok value ↔ ∃ middle, first = .ok middle ∧ next middle = .ok value := by
  cases first with
  | ok middle =>
    constructor
    · exact fun same => ⟨middle, rfl, same⟩
    · rintro ⟨other, same, rest⟩
      cases same
      exact rest
  | error error =>
    constructor
    · intro same
      cases same
    · rintro ⟨other, same, -⟩
      cases same

theorem bind_eq_error :
    (first >>= next) = .error error ↔ first = .error error ∨ ∃ middle, first = .ok middle ∧ next middle = .error error := by
  cases first with
  | ok middle =>
    constructor
    · exact fun same => .inr ⟨middle, rfl, same⟩
    · intro either
      rcases either with same | ⟨other, same, rest⟩
      · cases same
      · cases same
        exact rest
  | error other =>
    constructor
    · intro same
      cases same
      exact .inl rfl
    · intro either
      rcases either with same | ⟨middle, same, rest⟩
      · cases same
        rfl
      · cases same

theorem map_eq_ok {change : α → β} :
    first.map change = .ok value ↔ ∃ middle, first = .ok middle ∧ change middle = value := by
  cases first with
  | ok middle => simp [Except.map]
  | error error => simp [Except.map]

theorem map_eq_error {change : α → β} : first.map change = .error error ↔ first = .error error := by
  cases first with
  | ok middle => simp [Except.map]
  | error other => simp [Except.map]

theorem mapError_eq_ok {ε' : Type} {result : Except ε α} {wrap : ε → ε'} {value : α} :
    result.mapError wrap = .ok value ↔ result = .ok value := by
  cases result <;> simp [Except.mapError]

theorem pure_eq_ok {first value : α} : (pure first : Except ε α) = .ok value ↔ first = value := by
  constructor
  · intro same
    cases same
    rfl
  · rintro rfl
    rfl

theorem throw_bind : ((throw error : Except ε α) >>= next) = .error error := rfl

theorem check_eq_ok {condition : Prop} [Decidable condition] {next : Except ε β} :
    (if condition then .error error else next) = .ok value ↔ ¬ condition ∧ next = .ok value := by
  split
  · next holds => simp [holds]
  · next fails => simp [fails]

theorem check_eq_error {condition : Prop} [Decidable condition] {error' : ε} {next : Except ε β} :
    (if condition then .error error else next) = .error error' ↔
      condition ∧ error = error' ∨ ¬ condition ∧ next = .error error' := by
  split
  · next holds => simp [holds]
  · next fails => simp [fails]

theorem forM_eq_ok {items : List α} {check : α → Except ε Unit} :
    items.forM check = .ok () ↔ ∀ item ∈ items, check item = .ok () := by
  induction items with
  | nil => exact iff_of_true rfl fun _ member => by cases member
  | cons item rest ih =>
    have both : (item :: rest).forM check = .ok () ↔ ∃ first, check item = .ok first ∧ rest.forM check = .ok () := bind_eq_ok
    rw [both, List.forall_mem_cons, ih]
    exact ⟨fun ⟨_, first, later⟩ => ⟨first, later⟩, fun ⟨first, later⟩ => ⟨(), first, later⟩⟩

theorem mapM_eq_ok {items : List α} {results : List β} {each : α → Except ε β}
    (mapped : items.mapM each = .ok results) : List.Forall₂ (fun item result => each item = .ok result) items results := by
  induction items generalizing results with
  | nil =>
    cases mapped
    exact .nil
  | cons item rest ih =>
    rw [List.mapM_cons] at mapped
    obtain ⟨result, first, later⟩ := bind_eq_ok.mp mapped
    obtain ⟨others, tail, same⟩ := bind_eq_ok.mp later
    rw [← pure_eq_ok.mp same]
    exact .cons first (ih tail)

end Python
