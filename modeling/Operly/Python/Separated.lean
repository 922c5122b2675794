import Mathlib.Data.List.Basic

/-! Texts joined at a separator: where the parts of two equal joined texts may differ. -/

namespace Python

variable {α : Type*}

/-- Two lists joined at one separator agree when their parts do, or when the separator of one
stands inside a part of the other. -/
theorem append_separator_eq_iff (c : α) (a b x y : List α) :
    a ++ c :: x = b ++ c :: y ↔ (a = b ∧ x = y) ∨ (∃ t, b = a ++ c :: t ∧ x = t ++ c :: y) ∨
      (∃ t, a = b ++ c :: t ∧ y = t ++ c :: x) := by
  constructor
  · intro same
    rcases List.append_eq_append_iff.mp same with ⟨rest, later, left⟩ | ⟨rest, later, left⟩
    · cases rest with
      | nil => simp_all
      | cons head tail =>
        obtain ⟨rfl, rfl⟩ := List.cons.inj left
        exact .inr (.inl ⟨tail, later, rfl⟩)
    · cases rest with
      | nil => simp_all
      | cons head tail =>
        obtain ⟨rfl, rfl⟩ := List.cons.inj left
        exact .inr (.inr ⟨tail, later, rfl⟩)
  · rintro (⟨rfl, rfl⟩ | ⟨t, rfl, rfl⟩ | ⟨t, rfl, rfl⟩) <;> simp

theorem join_eq_join_iff {separator : String} {c : Char} (single : separator.toList = [c]) (a b x y : String) :
    a ++ separator ++ x = b ++ separator ++ y ↔ (a = b ∧ x = y) ∨
      (∃ t, b = a ++ separator ++ t ∧ x = t ++ separator ++ y) ∨
        (∃ t, a = b ++ separator ++ t ∧ y = t ++ separator ++ x) := by
  have lists := append_separator_eq_iff c a.toList b.toList x.toList y.toList
  have through : ∀ (P : List Char → Prop), (∃ t : String, P t.toList) ↔ ∃ t, P t := fun P =>
    ⟨fun ⟨t, holds⟩ => ⟨_, holds⟩, fun ⟨t, holds⟩ => ⟨String.ofList t, by simpa using holds⟩⟩
  simpa only [← String.toList_inj, String.toList_append, single, List.append_assoc,
    List.singleton_append, through fun t => b.toList = a.toList ++ c :: t ∧ x.toList = t ++ c :: y.toList,
    through fun t => a.toList = b.toList ++ c :: t ∧ y.toList = t ++ c :: x.toList] using lists

theorem join_eq_join_of_notMem {separator : String} {c : Char} (single : separator.toList = [c]) {a b x y : String}
    (first : c ∉ x.toList) (second : c ∉ y.toList) : a ++ separator ++ x = b ++ separator ++ y ↔ a = b ∧ x = y := by
  have inside : ∀ t z : String, c ∈ (t ++ separator ++ z).toList := fun t z => by simp [single]
  rw [join_eq_join_iff single]
  constructor
  · rintro (same | ⟨t, -, rfl⟩ | ⟨t, -, rfl⟩)
    · exact same
    · exact absurd (inside t y) first
    · exact absurd (inside t x) second
  · exact .inl

theorem append_eq_append_iff_of_length {a b x y : String} (long : x.toList.length = y.toList.length) :
    a ++ x = b ++ y ↔ a = b ∧ x = y := by
  constructor
  · intro same
    have lists : a.toList ++ x.toList = b.toList ++ y.toList := by
      simpa using congrArg String.toList same
    obtain ⟨first, last⟩ := List.append_inj' lists long
    exact ⟨String.toList_inj.mp first, String.toList_inj.mp last⟩
  · intro ⟨first, last⟩
    rw [first, last]

end Python
