import Mathlib.Algebra.Order.Ring.Rat
import Mathlib.Data.List.Sort
import Operly.Python.Text

/-! JSON values as Python holds them: integers of any size, floats by their exact value,
dictionaries in insertion order. -/

namespace Python

inductive Double where
  | finite (value : Rat)
  /-- `-0.0`, which equals `0.0` and is written differently. -/
  | negativeZero
  | infinity (negative : Bool)
  | nan
  deriving DecidableEq

namespace Double

def unsigned : Double → Double
  | .negativeZero => .finite 0
  | value => value

/-- Python's `<` on numbers; every comparison with a NaN is false. -/
def lt (first second : Double) : Bool :=
  match first.unsigned, second.unsigned with
  | .finite x, .finite y => decide (x < y)
  | .finite _, .infinity negative => !negative
  | .infinity negative, .finite _ => negative
  | .infinity first, .infinity second => first && !second
  | _, _ => false

def same (first second : Double) : Bool :=
  match first.unsigned, second.unsigned with
  | .finite x, .finite y => decide (x = y)
  | .infinity first, .infinity second => first == second
  | _, _ => false

end Double

inductive Json where
  | null
  | bool (value : Bool)
  | int (value : Int)
  | float (value : Double)
  | str (value : String)
  | arr (items : List Json)
  | obj (fields : List (String × Json))

abbrev Fields := List (String × Json)

namespace Fields

def get (fields : Fields) (key : String) : Option Json := (fields.find? (·.1 = key)).map (·.2)

/-- `dict[key] = value`, at the place of the key when it is there already. -/
def set (fields : Fields) (key : String) (value : Json) : Fields :=
  if fields.any (·.1 = key) then fields.map fun entry => if entry.1 = key then (key, value) else entry
  else fields ++ [(key, value)]

/-- `{**fields, **later}` -/
def merge (fields later : Fields) : Fields := later.foldl (fun all entry => set all entry.1 entry.2) fields

def has (fields : Fields) (key : String) : Bool := fields.any (·.1 = key)

end Fields

namespace Json

mutual
def decEq : (first second : Json) → Decidable (first = second)
  | .null, .null => isTrue rfl
  | .bool x, .bool y => decidable_of_iff (x = y) (by simp)
  | .int x, .int y => decidable_of_iff (x = y) (by simp)
  | .float x, .float y => decidable_of_iff (x = y) (by simp)
  | .str x, .str y => decidable_of_iff (x = y) (by simp)
  | .arr xs, .arr ys => have := decEqItems xs ys; decidable_of_iff (xs = ys) (by simp)
  | .obj xs, .obj ys => have := decEqFields xs ys; decidable_of_iff (xs = ys) (by simp)
  | .null, .bool _ | .null, .int _ | .null, .float _ | .null, .str _ | .null, .arr _
  | .null, .obj _ | .bool _, .null | .bool _, .int _ | .bool _, .float _ | .bool _, .str _
  | .bool _, .arr _ | .bool _, .obj _ | .int _, .null | .int _, .bool _ | .int _, .float _
  | .int _, .str _ | .int _, .arr _ | .int _, .obj _ | .float _, .null | .float _, .bool _
  | .float _, .int _ | .float _, .str _ | .float _, .arr _ | .float _, .obj _ | .str _, .null
  | .str _, .bool _ | .str _, .int _ | .str _, .float _ | .str _, .arr _ | .str _, .obj _
  | .arr _, .null | .arr _, .bool _ | .arr _, .int _ | .arr _, .float _ | .arr _, .str _
  | .arr _, .obj _ | .obj _, .null | .obj _, .bool _ | .obj _, .int _ | .obj _, .float _
  | .obj _, .str _ | .obj _, .arr _ => isFalse (by simp)
def decEqItems : (first second : List Json) → Decidable (first = second)
  | [], [] => isTrue rfl
  | x :: xs, y :: ys =>
      have := decEq x y
      have := decEqItems xs ys
      decidable_of_iff (x = y ∧ xs = ys) (by simp)
  | [], _ :: _ | _ :: _, [] => isFalse (by simp)
def decEqFields : (first second : Fields) → Decidable (first = second)
  | [], [] => isTrue rfl
  | (key, x) :: xs, (key', y) :: ys =>
      have := decEq x y
      have := decEqFields xs ys
      decidable_of_iff (key = key' ∧ x = y ∧ xs = ys) (by simp [and_assoc])
  | [], _ :: _ | _ :: _, [] => isFalse (by simp)
end

instance : DecidableEq Json := decEq

/-- `bool(value)` -/
def truthy : Json → Bool
  | .null => false
  | .bool value => value
  | .int value => value != 0
  | .float (.finite value) => value != 0
  | .float .negativeZero => false
  | .float _ => true
  | .str value => value != ""
  | .arr items => !items.isEmpty
  | .obj fields => !fields.isEmpty

/-- The number a value is; `True` and `False` are integers. -/
def number? : Json → Option Double
  | .bool value => some (.finite (if value then 1 else 0))
  | .int value => some (.finite value)
  | .float value => some value
  | _ => none

def byKey (fields : Fields) : Fields := fields.insertionSort fun a b => a.1 ≤ b.1

mutual
/-- `json.dumps(value, sort_keys=True)` up to the spelling of the text: the value that the
text denotes, with the keys of every object in order. -/
def sortKeys : Json → Json
  | .arr items => .arr (sortItems items)
  | .obj fields => .obj (byKey (sortFields fields))
  | .null => .null
  | .bool value => .bool value
  | .int value => .int value
  | .float value => .float value
  | .str value => .str value
def sortItems : List Json → List Json
  | [] => []
  | item :: rest => item.sortKeys :: sortItems rest
def sortFields : Fields → Fields
  | [] => []
  | (key, item) :: rest => (key, item.sortKeys) :: sortFields rest
end

theorem sortItems_eq (items : List Json) : sortItems items = items.map sortKeys := by
  induction items with
  | nil => rfl
  | cons item rest ih => rw [sortItems, ih, List.map_cons]

theorem sortFields_eq (fields : Fields) :
    sortFields fields = fields.map fun entry => (entry.1, entry.2.sortKeys) := by
  induction fields with
  | nil => rfl
  | cons entry rest ih => rw [sortFields, ih, List.map_cons]

theorem byKey_byKey (fields : Fields) : byKey (byKey fields) = byKey fields := by
  have total : Std.Total fun a b : String × Json => a.1 ≤ b.1 := ⟨fun a b => String.le_total a.1 b.1⟩
  have trans : IsTrans (String × Json) fun a b => a.1 ≤ b.1 :=
    ⟨fun a b c first second => String.le_trans first second⟩
  exact (List.pairwise_insertionSort _ fields).insertionSort_eq

theorem map_byKey (change : Json → Json) (fields : Fields) :
    (byKey fields).map (fun entry => (entry.1, change entry.2)) =
      byKey (fields.map fun entry => (entry.1, change entry.2)) :=
  List.map_insertionSort _ _ _ fields fun _ _ _ _ => Iff.rfl

mutual
theorem sortKeys_sortKeys : ∀ value : Json, value.sortKeys.sortKeys = value.sortKeys
  | .null | .bool _ | .int _ | .float _ | .str _ => by simp only [sortKeys]
  | .arr items => by
      rw [sortKeys, sortKeys, sortItems_sortItems items]
  | .obj fields => by
      have inner := sortFields_sortFields fields
      have outer := map_byKey sortKeys (sortFields fields)
      rw [← sortFields_eq, ← sortFields_eq, inner] at outer
      rw [sortKeys, sortKeys, outer, byKey_byKey]
theorem sortItems_sortItems : ∀ items : List Json, sortItems (sortItems items) = sortItems items
  | [] => rfl
  | item :: rest => by
      rw [sortItems, sortItems, sortKeys_sortKeys item, sortItems_sortItems rest]
theorem sortFields_sortFields : ∀ fields : Fields, sortFields (sortFields fields) = sortFields fields
  | [] => rfl
  | (key, value) :: rest => by
      rw [sortFields, sortFields, sortKeys_sortKeys value, sortFields_sortFields rest]
end

def isNan : Json → Bool
  | .float .nan => true
  | _ => false

mutual
/-- Python's `==`: numbers by value across their types, dictionaries regardless of order. The
entries of containers are compared by identity first, and every NaN of a JSON text is one object. -/
def same : Json → Json → Bool
  | .null, .null => true
  | .str x, .str y => x == y
  | .arr xs, .arr ys => sameItems xs ys
  | .obj xs, .obj ys => xs.length == ys.length && sameFields xs ys
  | .bool x, other => sameNumber (.finite (if x then 1 else 0)) other
  | .int x, other => sameNumber (.finite x) other
  | .float x, other => sameNumber x other
  | _, _ => false
def sameNumber (x : Double) : Json → Bool
  | .bool y => x.same (.finite (if y then 1 else 0))
  | .int y => x.same (.finite y)
  | .float y => x.same y
  | _ => false
def sameItems : List Json → List Json → Bool
  | [], [] => true
  | x :: xs, y :: ys => (isNan x && isNan y || same x y) && sameItems xs ys
  | _, _ => false
def sameFields : Fields → Fields → Bool
  | [], _ => true
  | (key, x) :: xs, ys =>
      (match Fields.get ys key with
        | some y => isNan x && isNan y || same x y
        | none => false) && sameFields xs ys
end

/-- `x is y or x == y`, as containers compare their entries. -/
def sameItem (x y : Json) : Bool := isNan x && isNan y || same x y

end Json

end Python
