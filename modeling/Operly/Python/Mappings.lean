import Operly.Python.Equality
import Operly.Python.Exceptions

/-! Dictionaries whose keys need not be texts: `dict(value)`, equality, and what `json.dumps` makes of them. -/

namespace Python

abbrev Mapping := List (Json × Json)

namespace Json

/-- `list(value)` -/
def iterate : Json → Except Failure (List Json)
  | .arr items => .ok items
  | .str text => .ok (text.toList.map fun c => .str (String.singleton c))
  | .obj fields => .ok (fields.map fun entry => .str entry.1)
  | .null | .bool _ | .int _ | .float _ => .error .typeError

def isText : Json → Bool
  | .str _ => true
  | _ => false

def hashable : Json → Bool
  | .arr _ | .obj _ => false
  | _ => true

def keyText (spelling : Spelling) : Json → String
  | .str text => text
  | key => dumps spelling key

end Json

namespace Mapping

def ofFields (fields : Fields) : Mapping := fields.map fun entry => (.str entry.1, entry.2)

def get (mapping : Mapping) (key : Json) : Option Json :=
  (mapping.find? fun entry => Json.sameItem entry.1 key).map (·.2)

/-- `mapping[key] = value`: an equal key that is there stays. -/
def set (mapping : Mapping) (key value : Json) : Mapping :=
  if mapping.any fun entry => Json.sameItem entry.1 key then
    mapping.map fun entry => if Json.sameItem entry.1 key then (entry.1, value) else entry
  else mapping ++ [(key, value)]

def pair (item : Json) : Except Failure (Json × Json) := do
  let parts ← item.iterate
  match parts with
  | [key, value] => if key.hashable then .ok (key, value) else .error .typeError
  | _ => .error .valueError

def insert (mapping : Mapping) (item : Json) : Except Failure Mapping := do
  let (key, value) ← pair item
  return mapping.set key value

def dict : Json → Except Failure Mapping
  | .obj fields => .ok (ofFields fields)
  | value => do (← value.iterate).foldlM insert []

/-- `first == second` -/
def same (first second : Mapping) : Bool :=
  first.length == second.length && first.all fun entry =>
    match second.get entry.1 with
    | some value => Json.sameItem entry.2 value
    | none => false

def textKeyed (mapping : Mapping) : Bool := mapping.all fun entry => entry.1.isText

def sortable (mapping : Mapping) : Bool :=
  decide (mapping.length ≤ 1) || mapping.all fun first => mapping.all fun second =>
    (Json.order .lt first.1 second.1).isSome

def sorted (mapping : Mapping) : Mapping :=
  mapping.insertionSort fun first second => Json.order .lt second.1 first.1 ≠ some true

/-- `json.dumps(mapping, sort_keys=True)`, as the fields of the object that the text denotes -/
def encode (spelling : Spelling) (mapping : Mapping) : Except Failure Fields :=
  if mapping.sortable then
    .ok (mapping.sorted.map fun entry => (entry.1.keyText spelling, entry.2.sortKeys))
  else .error .typeError

def stored (mapping : Mapping) : Mapping := mapping.sorted.map fun entry => (entry.1, entry.2.sortKeys)

variable {key value item : Json} {mapping after : Mapping} {items : List Json}

theorem sameItem_text {text : String} : Json.sameItem (.str text) key = true ↔ key = .str text := by
  cases key with
  | str other =>
    rw [Json.str.injEq]
    exact beq_iff_eq.trans eq_comm
  | _ => simp [Json.sameItem, Json.isNan, Json.same]

theorem isText_of_sameItem {first second : Json} (same : Json.sameItem first second = true) :
    first.isText = second.isText := by
  cases first <;> cases second <;> simp_all [Json.sameItem, Json.isNan, Json.same, Json.sameNumber, Json.isText]

theorem get_ofFields (fields : Fields) (key : String) : (ofFields fields).get (.str key) = Fields.get fields key := by
  induction fields with
  | nil => rfl
  | cons entry rest ih =>
    obtain ⟨name, value⟩ := entry
    rw [Fields.get_cons, ← ih]
    by_cases own : name = key
    · subst own
      simp [ofFields, get, sameItem_text.mpr rfl]
    · have apart : Json.sameItem (.str name) (.str key) = false := by
        rw [← Bool.not_eq_true, sameItem_text]
        exact fun same => own (Json.str.inj same).symm
      simp [ofFields, get, apart, own]

theorem textKeyed_ofFields (fields : Fields) : (ofFields fields).textKeyed = true := by
  simp [textKeyed, ofFields, Json.isText]

theorem exists_ofFields (keyed : mapping.textKeyed = true) : ∃ fields, mapping = ofFields fields := by
  induction mapping with
  | nil => exact ⟨[], rfl⟩
  | cons entry rest ih =>
    rw [textKeyed, List.all_cons, Bool.and_eq_true] at keyed
    obtain ⟨fields, rfl⟩ := ih keyed.2
    obtain ⟨key, value⟩ := entry
    cases key with
    | str name => exact ⟨(name, value) :: fields, rfl⟩
    | _ => cases keyed.1

theorem textKeyed_set (mapping : Mapping) (key value : Json) :
    (mapping.set key value).textKeyed = (mapping.textKeyed && key.isText) := by
  unfold set
  split
  · next present =>
    obtain ⟨entry, member, same⟩ := List.any_eq_true.mp present
    have keys : textKeyed (mapping.map fun entry => if Json.sameItem entry.1 key then (entry.1, value) else entry) =
        mapping.textKeyed := by
      simp only [textKeyed, List.all_map]
      congr 1
      funext other
      by_cases own : Json.sameItem other.1 key = true <;> simp [own]
    rw [keys]
    cases keyed : mapping.textKeyed with
    | false => rfl
    | true =>
      have own := List.all_eq_true.mp keyed entry member
      rw [isText_of_sameItem same] at own
      rw [own]
      rfl
  · simp [textKeyed]

theorem same_textKeyed {first second : Mapping} (same : first.same second = true) (keyed : second.textKeyed = true) :
    first.textKeyed = true := by
  rw [Mapping.same, Bool.and_eq_true] at same
  apply List.all_eq_true.mpr
  intro entry member
  have found := List.all_eq_true.mp same.2 entry member
  cases read : second.get entry.1 with
  | none => simp [read] at found
  | some value =>
    obtain ⟨other, known, -⟩ := Option.map_eq_some_iff.mp read
    have equal : Json.sameItem other.1 entry.1 = true := by simpa using List.find?_some known
    rw [← isText_of_sameItem equal]
    exact List.all_eq_true.mp keyed other (List.mem_of_find?_eq_some known)

theorem order_text (first second : String) : Json.order .lt (.str first) (.str second) = some (decide (first < second)) := by
  simp [Json.order, Json.Order.text]

theorem sortable_ofFields (fields : Fields) : (ofFields fields).sortable = true := by
  simp [sortable, ofFields, order_text]

theorem sorted_ofFields (fields : Fields) : (ofFields fields).sorted = ofFields (Json.byKey fields) := by
  refine (List.map_insertionSort _ _ _ fields ?_).symm
  intro first _ second _
  rw [order_text, ne_eq, Option.some_inj, decide_eq_true_eq, String.not_lt]

theorem encode_ofFields (spelling : Spelling) (fields : Fields) :
    (ofFields fields).encode spelling = .ok (Json.byKey (Json.sortFields fields)) := by
  rw [encode, if_pos (sortable_ofFields fields), sorted_ofFields, Json.sortFields_eq, ← Json.map_byKey, ofFields,
    List.map_map]
  rfl

theorem stored_ofFields (fields : Fields) :
    (ofFields fields).stored = ofFields (Json.byKey (Json.sortFields fields)) := by
  rw [stored, sorted_ofFields, Json.sortFields_eq, ← Json.map_byKey, ofFields, ofFields, List.map_map, List.map_map]
  rfl

theorem encode_stored (spelling : Spelling) (keyed : mapping.textKeyed = true) :
    mapping.stored.encode spelling = mapping.encode spelling := by
  obtain ⟨fields, rfl⟩ := exists_ofFields keyed
  have twice := Json.sortKeys_sortKeys (.obj fields)
  simp only [Json.sortKeys, Json.obj.injEq] at twice
  rw [stored_ofFields, encode_ofFields, encode_ofFields, twice]

theorem get_stored (keyed : mapping.textKeyed = true) (key : String) :
    mapping.stored.get (.str key) = (mapping.get (.str key)).map Json.sortKeys := by
  obtain ⟨fields, rfl⟩ := exists_ofFields keyed
  rw [stored_ofFields, get_ofFields, get_ofFields, Fields.get_sorted]

structure Proper (mapping : Mapping) : Prop where
  apart : mapping.Pairwise fun first second => Json.sameItem first.1 second.1 = false
  values : ∀ entry ∈ mapping, entry.2.proper = true

theorem proper_ofFields {fields : Fields} : (ofFields fields).Proper ↔ (Json.obj fields).proper = true := by
  have keys : (ofFields fields).Pairwise (fun first second => Json.sameItem first.1 second.1 = false) ↔
      (fields.map (·.1)).Nodup := by
    rw [ofFields, List.pairwise_map, List.Nodup, List.pairwise_map]
    apply List.Pairwise.iff
    intro first second
    rw [← Bool.not_eq_true, sameItem_text, Json.str.injEq, eq_comm]
  rw [Json.proper_obj, ← keys]
  constructor
  · intro proper
    refine ⟨proper.apart, fun entry member => ?_⟩
    exact proper.values (.str entry.1, entry.2) (List.mem_map_of_mem member)
  · intro ⟨apart, values⟩
    refine ⟨apart, fun entry member => ?_⟩
    obtain ⟨field, known, rfl⟩ := List.mem_map.mp member
    exact values field known

theorem Proper.set (proper : mapping.Proper) (holds : value.proper = true) : (mapping.set key value).Proper := by
  unfold Mapping.set
  split
  · next present =>
    constructor
    · rw [List.pairwise_map]
      apply proper.apart.imp
      intro first second apart
      split <;> split <;> exact apart
    · intro entry member
      obtain ⟨old, known, rfl⟩ := List.mem_map.mp member
      split
      · exact holds
      · exact proper.values old known
  · next absent =>
    constructor
    · rw [List.pairwise_append]
      refine ⟨proper.apart, List.pairwise_singleton _ _, ?_⟩
      intro entry known added same
      rw [List.mem_singleton.mp same, ← Bool.not_eq_true]
      exact fun equal => absent (List.any_eq_true.mpr ⟨entry, known, equal⟩)
    · intro entry member
      rcases List.mem_append.mp member with old | added
      · exact proper.values entry old
      · rw [List.mem_singleton.mp added]
        exact holds

theorem same_stored (keyed : mapping.textKeyed = true) (proper : mapping.Proper) :
    mapping.same mapping.stored = true := by
  obtain ⟨fields, rfl⟩ := exists_ofFields keyed
  rw [stored_ofFields, same, Bool.and_eq_true]
  constructor
  · simp [ofFields, Json.length_sorted]
  · apply List.all_eq_true.mpr
    intro entry member
    obtain ⟨field, known, rfl⟩ := List.mem_map.mp member
    obtain ⟨distinct, values⟩ := Json.proper_obj.mp (proper_ofFields.mp proper)
    rw [get_ofFields, Fields.get_sorted, Json.get_of_proper distinct known]
    exact Json.sameItem_sortKeys field.2 (values field known)

/-! ### What `dict` makes -/

theorem iterate_proper (proper : value.proper = true) (listed : value.iterate = .ok items) :
    ∀ item ∈ items, item.proper = true := by
  cases value with
  | arr values =>
    cases listed
    exact Json.proper_arr.mp proper
  | str text =>
    cases listed
    rw [List.forall_mem_map]
    exact fun _ _ => rfl
  | obj fields =>
    cases listed
    rw [List.forall_mem_map]
    exact fun _ _ => rfl
  | null | bool | int | float => cases listed

theorem pair_spec (paired : pair item = .ok (key, value)) : item.iterate = .ok [key, value] := by
  obtain ⟨parts, listed, rest⟩ := bind_eq_ok.mp paired
  rw [listed]
  split at rest
  · split at rest
    · cases rest
      rfl
    · cases rest
  · cases rest

def entryKeyed : Json → Bool
  | .arr (key :: _) => key.isText
  | _ => true

def pairsKeyed : Json → Bool
  | .arr items => items.all entryKeyed
  | _ => true

theorem pair_keyed (paired : pair item = .ok (key, value)) : entryKeyed item = key.isText := by
  have listed := pair_spec paired
  cases item with
  | arr items =>
    cases listed
    rfl
  | str text =>
    obtain ⟨first, _, rfl, _⟩ : ∃ first rest, .str (String.singleton first) = key ∧ text.toList = first :: rest := by
      cases chars : text.toList with
      | nil => simp [Json.iterate, chars] at listed
      | cons first rest =>
        simp only [Json.iterate, chars, List.map_cons, Except.ok.injEq, List.cons.injEq] at listed
        exact ⟨first, rest, listed.1, rfl⟩
    rfl
  | obj fields =>
    cases fields with
    | nil => simp [Json.iterate] at listed
    | cons first rest =>
      simp only [Json.iterate, List.map_cons, Except.ok.injEq, List.cons.injEq] at listed
      rw [← listed.1]
      rfl
  | null | bool | int | float => cases listed

theorem insert_eq_ok : mapping.insert item = .ok after ↔
    ∃ key value, pair item = .ok (key, value) ∧ mapping.set key value = after := by
  rw [insert, bind_eq_ok]
  constructor
  · rintro ⟨⟨key, value⟩, paired, set⟩
    exact ⟨key, value, paired, pure_eq_ok.mp set⟩
  · rintro ⟨key, value, paired, set⟩
    exact ⟨(key, value), paired, pure_eq_ok.mpr set⟩

theorem inserts_keyed (inserted : items.foldlM insert mapping = .ok after) :
    after.textKeyed = (mapping.textKeyed && items.all entryKeyed) := by
  induction items generalizing mapping with
  | nil =>
    cases inserted
    simp
  | cons item rest ih =>
    rw [List.foldlM_cons] at inserted
    obtain ⟨middle, first, later⟩ := bind_eq_ok.mp inserted
    obtain ⟨key, value, paired, rfl⟩ := insert_eq_ok.mp first
    rw [ih later, textKeyed_set, List.all_cons, pair_keyed paired, Bool.and_assoc]

theorem inserts_proper (values : ∀ item ∈ items, item.proper = true) (proper : mapping.Proper)
    (inserted : items.foldlM insert mapping = .ok after) : after.Proper := by
  induction items generalizing mapping with
  | nil =>
    cases inserted
    exact proper
  | cons item rest ih =>
    rw [List.foldlM_cons] at inserted
    obtain ⟨middle, first, later⟩ := bind_eq_ok.mp inserted
    obtain ⟨key, value, paired, rfl⟩ := insert_eq_ok.mp first
    refine ih (fun other member => values other (List.mem_cons_of_mem _ member)) ?_ later
    apply proper.set
    exact iterate_proper (values item List.mem_cons_self) (pair_spec paired) value (by simp)

theorem dict_keyed (made : dict value = .ok mapping) : mapping.textKeyed = pairsKeyed value := by
  cases value with
  | obj fields =>
    cases made
    exact textKeyed_ofFields fields
  | arr items =>
    have inserted : items.foldlM insert [] = .ok mapping := made
    exact inserts_keyed inserted
  | str text =>
    have single : (text.toList.map fun c => Json.str (String.singleton c)).all entryKeyed = true := by
      simp [entryKeyed]
    have inserted : (text.toList.map fun c => Json.str (String.singleton c)).foldlM insert [] = .ok mapping := made
    rw [inserts_keyed inserted, single]
    rfl
  | null | bool | int | float => cases made

theorem dict_proper (proper : value.proper = true) (made : dict value = .ok mapping) : mapping.Proper := by
  have empty : Proper [] := ⟨List.Pairwise.nil, by simp⟩
  cases value with
  | obj fields =>
    cases made
    exact proper_ofFields.mpr proper
  | arr items => exact inserts_proper (iterate_proper proper rfl) empty made
  | str text => exact inserts_proper (iterate_proper proper rfl) empty made
  | null | bool | int | float => cases made

end Mapping

/-- What `asdict` makes of an object: dictionaries of its fields around values and other dictionaries. -/
inductive Tree where
  | json (value : Json)
  | mapping (entries : Mapping)
  | list (items : List Tree)
  | record (fields : List (String × Tree))

namespace Tree

mutual
/-- `json.dumps(tree, sort_keys=True)`, as the value that the text denotes -/
def encode (spelling : Spelling) : Tree → Except Failure Json
  | .json value => .ok value.sortKeys
  | .mapping entries => (entries.encode spelling).map .obj
  | .list items => (encodeItems spelling items).map .arr
  | .record fields => (encodeFields spelling fields).map fun encoded => .obj (Json.byKey encoded)
def encodeItems (spelling : Spelling) : List Tree → Except Failure (List Json)
  | [] => .ok []
  | item :: rest => do return (← encode spelling item) :: (← encodeItems spelling rest)
def encodeFields (spelling : Spelling) : List (String × Tree) → Except Failure Fields
  | [] => .ok []
  | (name, item) :: rest => do return (name, ← encode spelling item) :: (← encodeFields spelling rest)
end

end Tree

end Python
