import Operly.Python.Values

/-! A value that went through `json.dumps(sort_keys=True)` and `json.loads` equals itself. -/

namespace Python

theorem Double.same_self {value : Double} (number : value ≠ .nan) : value.same value = true := by
  cases value with
  | finite value => simp [Double.same, Double.unsigned]
  | negativeZero => rfl
  | infinity negative => simp [Double.same, Double.unsigned]
  | nan => exact absurd rfl number

namespace Json

mutual
def proper : Json → Bool
  | .arr items => properItems items
  | .obj fields => decide (fields.map (·.1)).Nodup && properFields fields
  | .null | .bool _ | .int _ | .float _ | .str _ => true
def properItems : List Json → Bool
  | [] => true
  | item :: rest => proper item && properItems rest
def properFields : Fields → Bool
  | [] => true
  | (_, item) :: rest => proper item && properFields rest
end

theorem properItems_iff (items : List Json) : properItems items = true ↔ ∀ item ∈ items, item.proper = true := by
  induction items with
  | nil => simp [properItems]
  | cons item rest ih => simp [properItems, ih]

theorem properFields_iff (fields : Fields) :
    properFields fields = true ↔ ∀ entry ∈ fields, entry.2.proper = true := by
  induction fields with
  | nil => simp [properFields]
  | cons entry rest ih => simp [properFields, ih]

theorem proper_obj {fields : Fields} : (Json.obj fields).proper = true ↔
    (fields.map (·.1)).Nodup ∧ ∀ entry ∈ fields, entry.2.proper = true := by
  rw [proper, Bool.and_eq_true, decide_eq_true_iff, properFields_iff]

theorem proper_arr {items : List Json} : (Json.arr items).proper = true ↔ ∀ item ∈ items, item.proper = true := by
  rw [proper, properItems_iff]

@[simp] theorem proper_str (text : String) : (Json.str text).proper = true := rfl

@[simp] theorem proper_int (value : Int) : (Json.int value).proper = true := rfl

theorem get_of_proper {fields : Fields} (distinct : (fields.map (·.1)).Nodup) {key : String} {value : Json}
    (member : (key, value) ∈ fields) : Fields.get fields key = some value := by
  induction fields with
  | nil => cases member
  | cons entry rest ih =>
    rw [List.map_cons, List.nodup_cons] at distinct
    rw [show Fields.get (entry :: rest) key = _ from Fields.get_cons key entry.1 entry.2 rest]
    rcases List.mem_cons.mp member with rfl | later
    · exact if_pos rfl
    · have apart : entry.1 ≠ key := by
        intro same
        exact distinct.1 (List.mem_map.mpr ⟨_, later, same.symm⟩)
      rw [if_neg apart]
      exact ih distinct.2 later

theorem length_sorted (fields : Fields) : (byKey (sortFields fields)).length = fields.length := by
  rw [byKey, List.length_insertionSort, sortFields_eq, List.length_map]

mutual
theorem sameItem_sortKeys : ∀ value : Json, value.proper = true → sameItem value value.sortKeys = true
  | .null, _ => rfl
  | .bool value, _ => by cases value <;> rfl
  | .int value, _ => by simp [sameItem, sortKeys, same, sameNumber, Double.same, Double.unsigned]
  | .float value, _ => by
      by_cases number : value = .nan
      · subst number
        rfl
      · simp [sameItem, sortKeys, same, sameNumber, Double.same_self number]
  | .str value, _ => by simp [sameItem, sortKeys, same]
  | .arr items, holds => by
      rw [proper] at holds
      simp [sameItem, sortKeys, same, sameItems_sortItems items holds]
  | .obj fields, holds => by
      have distinct := (proper_obj.mp holds).1
      rw [proper, Bool.and_eq_true] at holds
      have entries : ∀ entry ∈ fields,
          Fields.get (byKey (sortFields fields)) entry.1 = some entry.2.sortKeys := by
        intro entry member
        rw [Fields.get_sorted, get_of_proper distinct member, Option.map_some]
      simp [sameItem, sortKeys, same, length_sorted, sameFields_sorted fields _ holds.2 entries]
theorem sameItems_sortItems : ∀ items : List Json, properItems items = true →
    sameItems items (sortItems items) = true
  | [], _ => rfl
  | item :: rest, holds => by
      rw [properItems, Bool.and_eq_true] at holds
      have first := sameItem_sortKeys item holds.1
      rw [sameItem] at first
      rw [sortItems, sameItems, first, sameItems_sortItems rest holds.2]
      rfl
theorem sameFields_sorted : ∀ (fields sorted : Fields), properFields fields = true →
    (∀ entry ∈ fields, Fields.get sorted entry.1 = some entry.2.sortKeys) →
      sameFields fields sorted = true
  | [], _, _, _ => rfl
  | (key, item) :: rest, sorted, holds, entries => by
      rw [properFields, Bool.and_eq_true] at holds
      have first := sameItem_sortKeys item holds.1
      have held := entries (key, item) (by simp)
      rw [sameItem] at first
      rw [sameFields, held]
      simp only [first, Bool.true_and]
      exact sameFields_sorted rest sorted holds.2 fun entry member => entries entry (by simp [member])
end

theorem same_sortKeys {fields : Fields} (holds : (Json.obj fields).proper = true) :
    same (.obj fields) (Json.obj fields).sortKeys = true := by
  have item := sameItem_sortKeys (.obj fields) holds
  simpa [sameItem, isNan] using item

end Json

example : Json.same (.obj [("b", .int 1), ("a", .float .nan)]) (.obj [("a", .float .nan), ("b", .bool true)]) =
    true := by decide

end Python
