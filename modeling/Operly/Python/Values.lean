import Operly.Python.Json

/-! Built-in operations on JSON values: conversion to `int` and `str`, order, membership and
`json.dumps`. -/

namespace Python

inductive Failure where
  | valueError
  | typeError
  | overflowError
  deriving DecidableEq

/-- The spelling of the values whose `str` is not fixed here: floats, and containers. -/
structure Spelling where
  float : Double → String
  container : Json → String

/-- `repr` of a float is never empty. -/
structure Rendering extends Spelling where
  shown : ∀ value, float value ≠ ""

def hexDigit (n : Nat) : Char := if n < 10 then Char.ofNat (48 + n) else Char.ofNat (87 + n)

def escapeUnit (unit : Nat) : List Char :=
  ['\\', 'u', hexDigit (unit / 4096 % 16), hexDigit (unit / 256 % 16), hexDigit (unit / 16 % 16),
    hexDigit (unit % 16)]

def escapeChar (c : Char) : List Char :=
  if c = '"' then ['\\', '"']
  else if c = '\\' then ['\\', '\\']
  else if c = '\n' then ['\\', 'n']
  else if c = '\r' then ['\\', 'r']
  else if c = '\t' then ['\\', 't']
  else if c.toNat = 8 then ['\\', 'b']
  else if c.toNat = 12 then ['\\', 'f']
  else if 32 ≤ c.toNat ∧ c.toNat < 127 then [c]
  else if c.toNat < 65536 then escapeUnit c.toNat
  else
    -- outside the basic plane: a surrogate pair
    escapeUnit (55296 + (c.toNat - 65536) / 1024) ++ escapeUnit (56320 + (c.toNat - 65536) % 1024)

def quoted (text : String) : String :=
  "\"" ++ String.ofList (text.toList.flatMap escapeChar) ++ "\""

namespace Json

def toInt : Json → Except Failure Int
  | .int value => .ok value
  | .bool value => .ok (if value then 1 else 0)
  | .float (.finite value) => .ok (if 0 ≤ value then value.floor else value.ceil)
  | .float .negativeZero => .ok 0
  | .float (.infinity _) => .error .overflowError
  | .float .nan => .error .valueError
  | .str text =>
      match parseInt text with
      | some value => .ok value
      | none => .error .valueError
  | .null | .arr _ | .obj _ => .error .typeError

def toStr (spelling : Spelling) : Json → String
  | .null => "None"
  | .bool value => if value then "True" else "False"
  | .int value => toString value
  | .float value => spelling.float value
  | .str text => text
  | .arr items => spelling.container (.arr items)
  | .obj fields => spelling.container (.obj fields)

mutual
def dumps (spelling : Spelling) : Json → String
  | .null => "null"
  | .bool value => if value then "true" else "false"
  | .int value => toString value
  | .float (.finite value) => spelling.float (.finite value)
  | .float .negativeZero => spelling.float .negativeZero
  | .float (.infinity negative) => if negative then "-Infinity" else "Infinity"
  | .float .nan => "NaN"
  | .str text => quoted text
  | .arr items => "[" ++ ",".intercalate (dumpsItems spelling items) ++ "]"
  | .obj fields => "\x7b" ++ ",".intercalate (dumpsFields spelling fields) ++ "\x7d"
def dumpsItems (spelling : Spelling) : List Json → List String
  | [] => []
  | item :: rest => dumps spelling item :: dumpsItems spelling rest
def dumpsFields (spelling : Spelling) : Fields → List String
  | [] => []
  | (key, item) :: rest => (quoted key ++ ":" ++ dumps spelling item) :: dumpsFields spelling rest
end

theorem dumps_ne_empty (rendering : Rendering) (value : Json) : dumps rendering.toSpelling value ≠ "" := by
  have joined : ∀ {first second : String}, first ≠ "" → first ++ second ≠ "" :=
    fun nonempty empty => nonempty (String.append_eq_empty_iff.mp empty).1
  cases value with
  | null => simp [dumps]
  | bool value => cases value <;> simp [dumps]
  | int value =>
    cases value with
    | ofNat n => exact Nat.repr_ne_empty
    | negSucc n => exact joined (by decide)
  | float value =>
    cases value with
    | finite value => exact rendering.shown _
    | negativeZero => exact rendering.shown _
    | infinity negative => cases negative <;> simp [dumps]
    | nan => simp [dumps]
  | str text => exact joined (joined (by decide))
  | arr items => exact joined (joined (by decide))
  | obj fields => exact joined (joined (by decide))

inductive Order where
  | gt
  | gte
  | lt
  | lte
  deriving DecidableEq

namespace Order

def double : Order → Double → Double → Bool
  | .gt, x, y => y.lt x
  | .gte, x, y => y.lt x || x.same y
  | .lt, x, y => x.lt y
  | .lte, x, y => x.lt y || x.same y

def text : Order → String → String → Bool
  | .gt, x, y => y < x
  | .gte, x, y => y ≤ x
  | .lt, x, y => x < y
  | .lte, x, y => x ≤ y

def length : Order → Nat → Nat → Bool
  | .gt, x, y => y < x
  | .gte, x, y => y ≤ x
  | .lt, x, y => x < y
  | .lte, x, y => x ≤ y

end Order

mutual
/-- `x > y` and its kin; `none` stands for `TypeError`. -/
def order (op : Order) : Json → Json → Option Bool
  | .str x, .str y => some (op.text x y)
  | .arr xs, .arr ys => orderItems op xs ys
  | .bool x, other => other.number?.map (op.double (.finite (if x then 1 else 0)))
  | .int x, other => other.number?.map (op.double (.finite x))
  | .float x, other => other.number?.map (op.double x)
  | _, _ => none
def orderItems (op : Order) : List Json → List Json → Option Bool
  | x :: xs, y :: ys => if sameItem x y then orderItems op xs ys else order op x y
  | xs, ys => some (op.length xs.length ys.length)
end

/-- `value in container`, for a container that is a list or a text. -/
def member (value : Json) : Json → Option Bool
  | .arr items => some (items.any (sameItem value))
  | .str text =>
      match value with
      | .str part => some (contains text part)
      | _ => none
  | _ => some false

end Json

namespace Fields

/-- `fields.get(key) or default` -/
def getOr (fields : Fields) (key : String) (default : Json) : Json :=
  match get fields key with
  | some value => if value.truthy then value else default
  | none => default

theorem has_eq (fields : Fields) (key : String) : has fields key = (get fields key).isSome := by
  simp only [has, get, Option.isSome_map, List.isSome_find?]

theorem get_cons (key : String) (name : String) (value : Json) (rest : Fields) :
    get ((name, value) :: rest) key = if name = key then some value else get rest key := by
  by_cases same : name = key
  · simp [get, same]
  · simp [get, same]

theorem get_append (fields later : Fields) (key : String) :
    get (fields ++ later) key = (get fields key).or (get later key) := by
  induction fields with
  | nil => rfl
  | cons entry rest ih =>
    obtain ⟨name, value⟩ := entry
    rw [List.cons_append, get_cons, get_cons, ih]
    split <;> rfl

theorem get_eq_none {fields : Fields} {key : String} : get fields key = none ↔ ∀ entry ∈ fields, entry.1 ≠ key := by
  simp [get]

theorem get_mem {fields : Fields} {key : String} {value : Json} (held : get fields key = some value) :
    (key, value) ∈ fields := by
  obtain ⟨⟨name, other⟩, found, rfl⟩ := Option.map_eq_some_iff.mp held
  have same : name = key := by simpa using List.find?_some found
  exact same ▸ List.mem_of_find?_eq_some found

theorem get_replaced (fields : Fields) (name : String) (value : Json) (key : String) :
    get (fields.map fun entry => if entry.1 = name then (name, value) else entry) key =
      if name = key ∧ has fields name = true then some value else get fields key := by
  induction fields with
  | nil => simp [has, get]
  | cons entry rest ih =>
    obtain ⟨first, held⟩ := entry
    rw [List.map_cons]
    by_cases same : first = name
    · subst same
      rw [if_pos rfl, get_cons, get_cons, ih]
      by_cases own : first = key <;> simp [own, has]
    · rw [if_neg same, get_cons, get_cons, ih]
      have without : has ((first, held) :: rest) name = has rest name := by simp [has, same]
      rw [without]
      by_cases own : name = key
      · subst own
        simp [same]
      · simp [own]

theorem get_set (fields : Fields) (name : String) (value : Json) (key : String) :
    get (set fields name value) key = if name = key then some value else get fields key := by
  unfold set
  split
  · next present =>
    have holds : has fields name = true := present
    rw [get_replaced]
    simp [holds]
  · next absent =>
    rw [get_append, get_cons]
    by_cases own : name = key
    · subst own
      have missing : get fields name = none := by
        rw [get_eq_none]
        intro entry member same
        exact absent (List.any_eq_true.mpr ⟨entry, member, by simpa using same⟩)
      rw [missing, if_pos rfl, if_pos rfl]
      rfl
    · rw [if_neg own, if_neg own]
      cases get fields key <;> rfl

theorem get_merge (fields later : Fields) (key : String) :
    get (merge fields later) key = (get later.reverse key).or (get fields key) := by
  induction later generalizing fields with
  | nil => rfl
  | cons entry rest ih =>
    rw [merge, List.foldl_cons, ← merge, ih, get_set, List.reverse_cons, get_append, get_cons]
    split <;> cases get rest.reverse key <;> rfl

theorem get_sortFields (fields : Fields) (key : String) :
    get (Json.sortFields fields) key = (get fields key).map Json.sortKeys := by
  induction fields with
  | nil => rfl
  | cons entry rest ih =>
    obtain ⟨name, value⟩ := entry
    rw [Json.sortFields, get_cons, get_cons, ih]
    split <;> rfl

theorem get_orderedInsert (entry : String × Json) (fields : Fields) (key : String) :
    get (fields.orderedInsert (fun a b => a.1 ≤ b.1) entry) key =
      if entry.1 = key then some entry.2 else get fields key := by
  induction fields with
  | nil => exact get_cons key entry.1 entry.2 []
  | cons first rest ih =>
    rw [List.orderedInsert_cons]
    split
    · exact get_cons key entry.1 entry.2 (first :: rest)
    · next after =>
      rw [show get (first :: _) key = _ from get_cons key first.1 first.2 _, ih,
        show get (first :: rest) key = _ from get_cons key first.1 first.2 rest]
      by_cases held : first.1 = key
      · by_cases same : entry.1 = key
        · -- an entry goes before those of its own key
          have equal : entry.1 = first.1 := same.trans held.symm
          exact absurd ((congrArg (· ≤ first.1) equal).mpr (String.le_refl first.1)) after
        · rw [if_pos held, if_neg same, if_pos held]
      · rw [if_neg held, if_neg held]

theorem get_byKey (fields : Fields) (key : String) : get (Json.byKey fields) key = get fields key := by
  induction fields with
  | nil => rfl
  | cons entry rest ih =>
    rw [Json.byKey, List.insertionSort_cons, get_orderedInsert, show get (List.insertionSort _ rest) key =
      get rest key from ih, show get (entry :: rest) key = _ from get_cons key entry.1 entry.2 rest]

theorem get_sorted (fields : Fields) (key : String) :
    get (Json.byKey (Json.sortFields fields)) key = (get fields key).map Json.sortKeys := by
  rw [get_byKey, get_sortFields]

theorem has_sorted (fields : Fields) (key : String) :
    has (Json.byKey (Json.sortFields fields)) key = has fields key := by
  rw [has_eq, has_eq, get_sorted, Option.isSome_map]

end Fields

example : Json.toInt (.str " 12 ") = .ok 12 ∧ Json.toInt (.float (.finite (-7 / 2))) = .ok (-3) := by
  decide +kernel
example : quoted "é\n" = "\"\\u00e9\\n\"" := by decide
example : Json.order .gt (.arr [.int 1, .int 3]) (.arr [.int 1, .bool true]) = some true := by
  decide

end Python
