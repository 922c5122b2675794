import Mathlib.Data.List.Infix
import Operly.Python.Sections

/-! Prefixes, suffixes and infixes of texts, and the parts between separators. -/

namespace Python

theorem startsWith_iff {text start : String} : startsWith text start = true ↔ start.toList <+: text.toList := by
  rw [startsWith, List.isPrefixOf_iff_prefix]

theorem endsWith_iff {text tail : String} : endsWith text tail = true ↔ tail.toList <:+ text.toList := by
  rw [endsWith, List.isSuffixOf_iff_suffix]

theorem isInfix_iff (part text : List Char) : isInfix part text = true ↔ part <:+: text := by
  induction text with
  | nil => simp [isInfix]
  | cons c rest ih => rw [isInfix, Bool.or_eq_true, List.isPrefixOf_iff_prefix, ih, List.infix_cons_iff]

theorem contains_iff {text part : String} : contains text part = true ↔ part.toList <:+: text.toList :=
  isInfix_iff part.toList text.toList

theorem startsWith_append (start text : String) : startsWith (start ++ text) start = true := by
  rw [startsWith_iff, String.toList_append]
  exact List.prefix_append _ _

theorem endsWith_append (text tail : String) : endsWith (text ++ tail) tail = true := by
  rw [endsWith_iff, String.toList_append]
  exact List.suffix_append _ _

theorem exists_of_endsWith {text tail : String} (ends : endsWith text tail = true) : ∃ front, text = front ++ tail := by
  obtain ⟨front, shape⟩ := endsWith_iff.mp ends
  refine ⟨String.ofList front, ?_⟩
  rw [← String.toList_inj, String.toList_append, String.toList_ofList, shape]

theorem exists_of_startsWith {text start : String} (starts : startsWith text start = true) : ∃ rest, text = start ++ rest := by
  obtain ⟨rest, shape⟩ := startsWith_iff.mp starts
  refine ⟨String.ofList rest, ?_⟩
  rw [← String.toList_inj, String.toList_append, String.toList_ofList, shape]

/-- `(front + tail)[:-len(tail)]` -/
theorem take_append_left (front tail : String) :
    String.ofList ((front ++ tail).toList.take ((front ++ tail).toList.length - tail.toList.length)) = front := by
  rw [← String.toList_inj, String.toList_ofList, String.toList_append, List.length_append, Nat.add_sub_cancel,
    List.take_left]

section Parts
variable {separator : Char}

theorem head_splitChars (text : List Char) :
    (splitChars separator text).head? = some [] ↔ text = [] ∨ text.head? = some separator := by
  cases text with
  | nil => simp [splitChars]
  | cons c rest =>
    rw [splitChars]
    cases shape : splitChars separator rest with
    | nil => exact absurd shape (splitChars_ne_nil separator rest)
    | cons part parts => by_cases same : c = separator <;> simp [same]

theorem tail_splitChars (text : List Char) :
    [] ∉ (splitChars separator text).tail ↔
      text.getLast? ≠ some separator ∧ ¬ [separator, separator] <:+: text := by
  induction text with
  | nil => simp [splitChars]
  | cons c rest ih =>
    have opening := @head_splitChars separator rest
    rw [splitChars]
    cases shape : splitChars separator rest with
    | nil => exact absurd shape (splitChars_ne_nil separator rest)
    | cons part parts =>
      rw [shape] at ih opening
      rw [List.infix_cons_iff]
      cases rest with
      | nil =>
        have single : part = [] ∧ parts = [] := by simpa [splitChars, eq_comm] using shape
        by_cases same : c = separator <;> simp [same, single]
      | cons d later =>
        have pair : [separator, separator] <+: c :: d :: later ↔ c = separator ∧ d = separator := by
          rw [List.cons_prefix_cons, List.cons_prefix_cons]
          simp [eq_comm]
        simp only [List.tail_cons, ne_eq] at ih
        rw [pair, List.getLast?_cons_cons]
        by_cases same : c = separator
        · have first : part = [] ↔ d = separator := by simpa using opening
          simp only [same, if_true, List.tail_cons, List.mem_cons, not_or, ih, true_and]
          rw [eq_comm, first]
          tauto
        · simp only [same, if_false, List.tail_cons, ih, false_and, false_or, ne_eq]

theorem parts_nonempty_iff (text : List Char) :
    [] ∉ splitChars separator text ↔ text ≠ [] ∧ text.head? ≠ some separator ∧
      text.getLast? ≠ some separator ∧ ¬ [separator, separator] <:+: text := by
  have first := @head_splitChars separator text
  have later := @tail_splitChars separator text
  cases shape : splitChars separator text with
  | nil => exact absurd shape (splitChars_ne_nil separator text)
  | cons part parts =>
    rw [shape] at first later
    simp only [List.head?_cons, Option.some.injEq] at first
    simp only [List.tail_cons] at later
    rw [List.mem_cons, not_or, later, eq_comm, first, not_or, and_assoc]

theorem split_nonempty_iff (text : String) : "" ∉ split separator text ↔ [] ∉ splitChars separator text.toList := by
  rw [split, not_iff_not, List.mem_map]
  constructor
  · rintro ⟨part, member, empty⟩
    have bare : part = [] := by simpa using congrArg String.toList empty
    exact bare ▸ member
  · intro member
    exact ⟨[], member, rfl⟩

end Parts

end Python
