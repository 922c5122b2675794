import Operly.Kernel.ObjectSchemas
import Operly.Python.Values

/-! What a schema of the subset says of a JSON value, and where the validator reads it otherwise. -/

namespace Operly.Kernel
open Python

def equalNumber (x : Double) (other : Json) : Bool := (properNumber other).any fun y => x.same y

mutual
/-- Equality of JSON values. Python's `==` also takes booleans for numbers. -/
def equalJson : Json → Json → Bool
  | .null, .null => true
  | .bool x, .bool y => x == y
  | .str x, .str y => x == y
  | .arr xs, .arr ys => equalItems xs ys
  | .obj xs, .obj ys => xs.length == ys.length && equalFields xs ys
  | .int x, other => equalNumber (.finite x) other
  | .float x, other => equalNumber x other
  | _, _ => false
def equalItems : List Json → List Json → Bool
  | [], [] => true
  | x :: xs, y :: ys => equalJson x y && equalItems xs ys
  | _, _ => false
def equalFields : Fields → Fields → Bool
  | [], _ => true
  | (key, x) :: xs, ys =>
      (match Fields.get ys key with
        | some y => equalJson x y
        | none => false) && equalFields xs ys
end

def wholeNumber (x : Double) : Option Int :=
  match x.unsigned with
  | .finite value => if value.den = 1 then some value.num else none
  | _ => none

/-! ### What the keywords say -/

structure SchemaReading where
  wholeFloats : Bool
  wholeBounds : Bool
  booleansApart : Bool

namespace SchemaReading

def standard : SchemaReading := ⟨true, true, true⟩

def python : SchemaReading := ⟨false, false, false⟩

def lenient : SchemaReading := ⟨true, false, false⟩

def hasType (reading : SchemaReading) (value : Json) (name : String) : Bool :=
  match name with
  | "object" => match value with | .obj _ => true | _ => false
  | "array" => match value with | .arr _ => true | _ => false
  | "string" => match value with | .str _ => true | _ => false
  | "integer" => match value with
      | .int _ => true
      | .float x => reading.wholeFloats && (wholeNumber x).isSome
      | _ => false
  | "number" => match value with | .int _ | .float _ => true | _ => false
  | "boolean" => match value with | .bool _ => true | _ => false
  | "null" => match value with | .null => true | _ => false
  | _ => false

def equal (reading : SchemaReading) (value allowed : Json) : Bool :=
  if reading.booleansApart then equalJson value allowed else Json.sameItem value allowed

def lengthBound (reading : SchemaReading) : Json → Option Int
  | .int bound => some bound
  | .float x => if reading.wholeBounds then wholeNumber x else none
  | _ => none

end SchemaReading

def typeNames (schema : Fields) : Option (List String) :=
  match Fields.get schema "type" with
  | some (.str name) => some [name]
  | some (.arr names) => some (names.map typeName)
  | _ => none

def allowedValues (schema : Fields) : Option (List Json) :=
  match Fields.get schema "enum" with
  | some (.arr items) => some items
  | _ => none

def requiredKeys (schema : Fields) : List String :=
  match Fields.get schema "required" with
  | some (.arr keys) => keys.map keyText
  | _ => []

def WithinLength (reading : SchemaReading) (schema : Fields) (minimum maximum : String) (length : Nat) : Prop :=
  (∀ bound ∈ (Fields.get schema minimum).bind reading.lengthBound, bound ≤ length) ∧
    ∀ bound ∈ (Fields.get schema maximum).bind reading.lengthBound, (length : Int) ≤ bound

/-- What the keywords of one schema say of one value, apart from what lies below it. -/
structure Keywords (reading : SchemaReading) (value : Json) (schema : Fields) : Prop where
  type : ∀ names ∈ typeNames schema, ∃ name ∈ names, reading.hasType value name = true
  enum : ∀ allowed ∈ allowedValues schema, ∃ item ∈ allowed, reading.equal value item = true
  required : ∀ fields, value = .obj fields → ∀ key ∈ requiredKeys schema, Fields.has fields key = true
  additional : ∀ fields, value = .obj fields → Fields.get schema "additionalProperties" = some (.bool false) →
    ∀ entry ∈ fields, Fields.has (properties schema) entry.1 = true
  items : ∀ items, value = .arr items → WithinLength reading schema "minItems" "maxItems" items.length
  length : ∀ text, value = .str text → WithinLength reading schema "minLength" "maxLength" text.length
  range : ∀ number ∈ properNumber value,
    (∀ bound ∈ (Fields.get schema "minimum").bind properNumber, number.lt bound = false) ∧
      ∀ bound ∈ (Fields.get schema "maximum").bind properNumber, bound.lt number = false

inductive Child : Json → Fields → Json → Fields → Prop where
  | property {fields schema child : Fields} {key : String} {item : Json} (declared : (key, .obj child) ∈ properties schema)
      (found : Fields.get fields key = some item) : Child (.obj fields) schema item child
  | item {items : List Json} {schema child : Fields} {item : Json} (declared : Fields.get schema "items" = some (.obj child))
      (member : item ∈ items) : Child (.arr items) schema item child

inductive Position : Json → Fields → Json → Fields → Prop where
  | here {value : Json} {schema : Fields} : Position value schema value schema
  | inside {value item inner : Json} {schema child deeper : Fields} (step : Child value schema item child)
      (rest : Position item child inner deeper) : Position value schema inner deeper

/-- The standard semantics: every value inside keeps to the keywords that it falls under. -/
def Conforms (value : Json) (schema : Fields) : Prop :=
  ∀ inner deeper, Position value schema inner deeper → Keywords .standard inner deeper

def schemaTypes : List String := ["object", "array", "string", "integer", "number", "boolean", "null"]

def IntegerBound (bound : Json) : Prop := (SchemaReading.standard.lengthBound bound).isSome

structure WellFormed (schema : Fields) : Prop where
  type : ∀ declared ∈ Fields.get schema "type", (∃ name ∈ schemaTypes, declared = .str name) ∨
    ∃ names : List String, declared = .arr (names.map .str) ∧ ∀ name ∈ names, name ∈ schemaTypes
  enum : ∀ declared ∈ Fields.get schema "enum", ∃ items, declared = .arr items
  required : ∀ declared ∈ Fields.get schema "required", ∃ keys : List String, declared = .arr (keys.map .str)
  properties : ∀ declared ∈ Fields.get schema "properties", ∃ fields, declared = .obj fields ∧
    ∀ entry ∈ fields, ∃ child, entry.2 = .obj child
  items : ∀ declared ∈ Fields.get schema "items", ∃ child, declared = .obj child
  lengths : ∀ key ∈ ["minItems", "maxItems", "minLength", "maxLength"], ∀ declared ∈ Fields.get schema key,
    IntegerBound declared
  range : ∀ key ∈ ["minimum", "maximum"], ∀ declared ∈ Fields.get schema key, (properNumber declared).isSome

inductive SubSchema : Fields → Fields → Prop where
  | here {schema : Fields} : SubSchema schema schema
  | property {schema child inner : Fields} {key : String} (declared : (key, .obj child) ∈ properties schema)
      (rest : SubSchema child inner) : SubSchema schema inner
  | items {schema child inner : Fields} (declared : Fields.get schema "items" = some (.obj child))
      (rest : SubSchema child inner) : SubSchema schema inner

def InSubset (schema : Fields) : Prop := ∀ inner, SubSchema schema inner → WellFormed inner

theorem InSubset.child {value item : Json} {schema child : Fields} (subset : InSubset schema)
    (below : Child value schema item child) : InSubset child := by
  intro inner rest
  cases below with
  | property declared => exact subset inner (.property declared rest)
  | item declared => exact subset inner (.items declared rest)

structure ValidatesStandard (value : Json) (schema : Fields) : Prop where
  raises : (∃ message, validateSchema value schema = .error (.schemaValidation message)) ↔ ¬ Conforms value schema
  only : ∀ error, validateSchema value schema = .error error → ∃ message, error = .schemaValidation message

def WholeFloat (value : Json) (schema : Fields) : Prop :=
  ∃ x names, value = .float x ∧ (wholeNumber x).isSome ∧ typeNames schema = some names ∧ "integer" ∈ names ∧
    "number" ∉ names

def BooleanMember (value : Json) (schema : Fields) : Prop :=
  ∃ allowed, allowedValues schema = some allowed ∧ (∃ item ∈ allowed, Json.sameItem value item = true) ∧
    ∀ item ∈ allowed, equalJson value item = false

def FloatBound (value : Json) (schema : Fields) : Prop :=
  (∃ items, value = .arr items ∧ WithinLength .python schema "minItems" "maxItems" items.length ∧
    ¬ WithinLength .standard schema "minItems" "maxItems" items.length) ∨
  (∃ text, value = .str text ∧ WithinLength .python schema "minLength" "maxLength" text.length ∧
    ¬ WithinLength .standard schema "minLength" "maxLength" text.length)

def Met (place : Json → Fields → Prop) (value : Json) (schema : Fields) : Prop :=
  ∃ inner deeper, Position value schema inner deeper ∧ place inner deeper

theorem same_of_equalNumber {x : Double} {other : Json} (equal : equalNumber x other = true) :
    Json.sameNumber x other = true := by
  cases other with
  | int y => simpa [equalNumber, properNumber, Json.sameNumber] using equal
  | float y => simpa [equalNumber, properNumber, Json.sameNumber] using equal
  | _ => cases equal

mutual
theorem same_of_equalJson : ∀ value other : Json, equalJson value other = true → Json.same value other = true
  | .null, .null, _ => rfl
  | .bool x, .bool y, equal => by
      have same : x = y := by simpa [equalJson] using equal
      subst same
      cases x <;> rfl
  | .str x, .str y, equal => equal
  | .arr xs, .arr ys, equal => sameItems_of_equalItems xs ys equal
  | .obj xs, .obj ys, equal => by
      rw [equalJson, Bool.and_eq_true] at equal
      rw [Json.same, equal.1, Bool.true_and]
      exact sameFields_of_equalFields xs ys equal.2
  | .int x, other, equal => same_of_equalNumber (by simpa [equalJson] using equal)
  | .float x, other, equal => same_of_equalNumber (by simpa [equalJson] using equal)
theorem sameItems_of_equalItems : ∀ xs ys : List Json, equalItems xs ys = true → Json.sameItems xs ys = true
  | [], [], _ => rfl
  | x :: xs, y :: ys, equal => by
      rw [equalItems, Bool.and_eq_true] at equal
      rw [Json.sameItems, same_of_equalJson x y equal.1, sameItems_of_equalItems xs ys equal.2]
      simp
theorem sameFields_of_equalFields : ∀ xs ys : Fields, equalFields xs ys = true → Json.sameFields xs ys = true
  | [], _, _ => rfl
  | (key, x) :: xs, ys, equal => by
      rw [equalFields, Bool.and_eq_true] at equal
      rw [Json.sameFields, sameFields_of_equalFields xs ys equal.2]
      cases found : Fields.get ys key with
      | none =>
        rw [found] at equal
        cases equal.1
      | some y =>
        rw [found] at equal
        simp [same_of_equalJson x y equal.1]
end

theorem sameItem_of_equalJson {value other : Json} (equal : equalJson value other = true) :
    Json.sameItem value other = true := by
  rw [Json.sameItem, same_of_equalJson value other equal, Bool.or_true]

/-! ### The checks of one level -/

structure Checks (result : Except KernelError Unit) (holds : Prop) : Prop where
  only : ∀ error, result = .error error → ∃ message, error = .schemaValidation message
  passes : result = .ok () ↔ holds

namespace Checks
variable {first : Except KernelError Unit} {holds later : Prop}

theorem pass (proof : holds) : Checks (.ok ()) holds := ⟨nofun, iff_of_true rfl proof⟩

theorem fail {message : String} (refuted : ¬ holds) : Checks (.error (.schemaValidation message)) holds := by
  refine ⟨fun error raised => ?_, iff_of_false nofun refuted⟩
  cases raised
  exact ⟨message, rfl⟩

theorem congr (checks : Checks first holds) (same : holds ↔ later) : Checks first later :=
  ⟨checks.only, checks.passes.trans same⟩

theorem seq {rest : Except KernelError Unit} (checks : Checks first holds) (tail : Checks rest later) :
    Checks (first >>= fun _ => rest) (holds ∧ later) := by
  cases first with
  | ok done =>
    have present := checks.passes.mp rfl
    exact ⟨tail.only, tail.passes.trans (by simp [present])⟩
  | error error =>
    have absent : ¬ holds := fun held => by cases checks.passes.mpr held
    exact ⟨checks.only, iff_of_false nofun fun both => absent both.1⟩

theorem forM {α : Type} {items : List α} {check : α → Except KernelError Unit} {each : α → Prop}
    (checks : ∀ item ∈ items, Checks (check item) (each item)) : Checks (items.forM check) (∀ item ∈ items, each item) := by
  induction items with
  | nil => exact .pass fun _ member => by cases member
  | cons item rest ih =>
    obtain ⟨head, tail⟩ := List.forall_mem_cons.mp checks
    exact (head.seq (ih tail)).congr List.forall_mem_cons.symm

end Checks

section Level
variable {value : Json} {schema fields : Fields} {path : String}

theorem matchesType_python {name : String} (known : name ∈ schemaTypes) :
    matchesType value name = SchemaReading.python.hasType value name := by
  simp only [schemaTypes, List.mem_cons, List.not_mem_nil, or_false] at known
  rcases known with rfl | rfl | rfl | rfl | rfl | rfl | rfl <;> cases value <;> rfl

theorem WellFormed.typeNames (formed : WellFormed schema) {names : List String} (declared : typeNames schema = some names) :
    ∀ name ∈ names, name ∈ schemaTypes := by
  unfold Kernel.typeNames at declared
  cases held : Fields.get schema "type" with
  | none =>
    rw [held] at declared
    cases declared
  | some type =>
    rw [held] at declared
    rcases formed.type type held with ⟨name, known, rfl⟩ | ⟨listed, rfl, known⟩
    · cases declared
      simpa using known
    · cases declared
      simpa [typeName] using known

theorem checkType_checks (formed : WellFormed schema) : Checks (checkType value schema path)
    (∀ names ∈ typeNames schema, ∃ name ∈ names, SchemaReading.python.hasType value name = true) := by
  have known : ∀ names, typeNames schema = some names → ∀ name ∈ names, name ∈ schemaTypes :=
    fun _ declared => formed.typeNames declared
  unfold checkType
  unfold typeNames at known ⊢
  cases held : Fields.get schema "type" with
  | none => exact .pass (by simp)
  | some type =>
    rw [held] at known
    rcases formed.type type held with ⟨name, -, rfl⟩ | ⟨listed, rfl, -⟩
    · have same := @matchesType_python value _ (known _ rfl name (by simp))
      simp only [same]
      split
      · next holds => exact .pass (by simpa using holds)
      · next fails => exact .fail (by simpa using fails)
    · have matched : (listed.map Json.str).any (fun item => matchesType value (typeName item)) = true ↔
          ∃ name ∈ (listed.map Json.str).map typeName, SchemaReading.python.hasType value name = true := by
        have same : ∀ item ∈ listed.map Json.str,
            matchesType value (typeName item) = SchemaReading.python.hasType value (typeName item) :=
          fun item member => matchesType_python (known _ rfl _ (List.mem_map_of_mem member))
        rw [List.any_eq_true]
        constructor
        · rintro ⟨item, member, matched⟩
          exact ⟨_, List.mem_map_of_mem member, same item member ▸ matched⟩
        · rintro ⟨_, named, has⟩
          obtain ⟨item, member, rfl⟩ := List.mem_map.mp named
          exact ⟨item, member, (same item member).trans has⟩
      simp only [Option.mem_def, Option.some.injEq, forall_eq']
      rw [← matched]
      split
      · next holds => exact .pass (by simpa using holds)
      · next fails => exact .fail (by simpa using fails)

theorem checkEnum_checks (formed : WellFormed schema) : Checks (checkEnum value schema path)
    (∀ allowed ∈ allowedValues schema, ∃ item ∈ allowed, SchemaReading.python.equal value item = true) := by
  unfold checkEnum allowedValues
  cases held : Fields.get schema "enum" with
  | none => exact .pass (by simp)
  | some declared =>
    obtain ⟨items, rfl⟩ := formed.enum declared held
    simp only [outsideEnum, Option.mem_def, Option.some.injEq, forall_eq']
    cases inside : items.any (Json.sameItem value) with
    | true => exact .pass (List.any_eq_true.mp inside)
    | false =>
      refine .fail ?_
      rintro ⟨item, member, same⟩
      exact List.any_eq_false.mp inside item member same

theorem checkRequired_checks (formed : WellFormed schema) : Checks (checkRequired fields schema path)
    (∀ key ∈ requiredKeys schema, Fields.has fields key = true) := by
  unfold checkRequired requiredKeys
  cases held : Fields.get schema "required" with
  | none => exact .pass (by simp)
  | some declared =>
    obtain ⟨keys, rfl⟩ := formed.required declared held
    simp only
    rw [List.forall_mem_map]
    refine Checks.forM fun item member => ?_
    obtain ⟨key, -, rfl⟩ := List.mem_map.mp member
    simp only [missingKey, keyText]
    cases present : Fields.has fields key with
    | true => exact .pass rfl
    | false => exact .fail (by simp)

theorem checkUnknown_checks : Checks (checkUnknown fields schema path)
    (Fields.get schema "additionalProperties" = some (.bool false) →
      ∀ entry ∈ fields, Fields.has (properties schema) entry.1 = true) := by
  unfold checkUnknown
  split
  · next closed =>
    have none : ((fields.map (·.1)).filter fun key => !Fields.has (properties schema) key).isEmpty = true ↔
        ∀ entry ∈ fields, Fields.has (properties schema) entry.1 = true := by
      rw [List.isEmpty_iff, List.filter_eq_nil_iff, List.forall_mem_map]
      simp
    simp only [closed, true_imp_iff]
    rw [← none]
    split
    · next empty => exact .pass empty
    · next others => exact .fail others
  · next free => exact .pass fun closed => absurd closed free

theorem intBound_eq (formed : WellFormed schema) {key : String} (keyword : key ∈ ["minItems", "maxItems", "minLength", "maxLength"]) :
    intBound schema key = (Fields.get schema key).bind SchemaReading.python.lengthBound := by
  unfold intBound
  cases held : Fields.get schema key with
  | none => rfl
  | some declared =>
    have integer := formed.lengths key keyword declared held
    cases declared with
    | bool flag => cases integer
    | _ => rfl

theorem bound_checks {α : Type} (limit : Option α) (broken : α → Prop) [DecidablePred broken] (message : α → String) :
    Checks (match limit with
      | some bound => if broken bound then throw (.schemaValidation (message bound)) else pure ()
      | none => pure ()) (∀ bound ∈ limit, ¬ broken bound) := by
  cases limit with
  | none => exact .pass (by simp)
  | some bound =>
    dsimp only
    split
    · next out => exact .fail (by simpa using out)
    · next within => exact .pass (by simpa using within)

theorem bounds_checks {α : Type} (check : Except KernelError Unit) (lower upper : Option α) (below above : α → Prop)
    [DecidablePred below] [DecidablePred above] (short long : α → String) (shape : check = do
      match lower with
      | some bound => if below bound then throw (.schemaValidation (short bound))
      | none => pure ()
      match upper with
      | some bound => if above bound then throw (.schemaValidation (long bound))
      | none => pure ()) : Checks check ((∀ bound ∈ lower, ¬ below bound) ∧ ∀ bound ∈ upper, ¬ above bound) := by
  have both := (bound_checks lower below short).seq (bound_checks upper above long)
  subst shape
  cases lower with
  | none => exact both
  | some least =>
    dsimp only at both ⊢
    by_cases under : below least
    · rw [if_pos under] at both ⊢
      exact both
    · rw [if_neg under] at both ⊢
      exact both

theorem checkLength_checks (formed : WellFormed schema) (minimum maximum : String) (length : Nat) (short long : Int → String)
    (lower : minimum ∈ ["minItems", "maxItems", "minLength", "maxLength"])
    (upper : maximum ∈ ["minItems", "maxItems", "minLength", "maxLength"]) :
    Checks (checkLength length schema minimum maximum short long) (WithinLength .python schema minimum maximum length) := by
  have both := bounds_checks (checkLength length schema minimum maximum short long) (intBound schema minimum)
    (intBound schema maximum) (fun bound => (length : Int) < bound) (fun bound => bound < (length : Int)) short long (by
      unfold checkLength
      cases intBound schema minimum <;> cases intBound schema maximum <;> rfl)
  rw [intBound_eq formed lower, intBound_eq formed upper] at both
  exact both.congr (by simp only [WithinLength, not_lt])

theorem numberBound_eq (formed : WellFormed schema) {key : String} (keyword : key ∈ ["minimum", "maximum"]) :
    numberBound schema key = (Fields.get schema key).bind properNumber := by
  unfold numberBound
  cases held : Fields.get schema key with
  | none => rfl
  | some declared =>
    have number := formed.range key keyword declared held
    cases declared with
    | bool flag => cases number
    | _ => rfl

theorem checkNumber_checks (formed : WellFormed schema) {number : Double} : Checks (checkNumber number schema path)
    ((∀ bound ∈ (Fields.get schema "minimum").bind properNumber, number.lt bound = false) ∧
      ∀ bound ∈ (Fields.get schema "maximum").bind properNumber, bound.lt number = false) := by
  have both := bounds_checks (checkNumber number schema path) (numberBound schema "minimum") (numberBound schema "maximum")
    (fun bound => number.lt bound = true) (fun bound => bound.lt number = true) (fun _ => s!"{path} is below the minimum")
    (fun _ => s!"{path} is above the maximum") (by
      unfold checkNumber
      cases numberBound schema "minimum" <;> cases numberBound schema "maximum" <;> rfl)
  rw [numberBound_eq formed (by simp), numberBound_eq formed (by simp)] at both
  exact both.congr (by simp only [Bool.not_eq_true])

def validateItems (child : Json → Fields → String → Except KernelError Unit) (items : List Json) (schema : Fields)
    (path : String) : Except KernelError Unit :=
  match Fields.get schema "items" with
  | some (.obj declared) => do items.zipIdx.forM (fun entry => child entry.1 declared s!"{path}[{entry.2}]"); pure ()
  | _ => pure ()

theorem validateLevel_checks (formed : WellFormed schema) {child : Json → Fields → String → Except KernelError Unit}
    {holds : Json → Fields → Prop}
    (each : ∀ item declared path, Child value schema item declared → Checks (child item declared path) (holds item declared)) :
    Checks (validateLevel child value schema path)
      (Keywords .python value schema ∧ ∀ item declared, Child value schema item declared → holds item declared) := by
  have typed := @checkType_checks value schema path formed
  have allowed := @checkEnum_checks value schema path formed
  have childless : (∀ fields, value ≠ .obj fields) → (∀ items, value ≠ .arr items) →
      ∀ item declared, Child value schema item declared → holds item declared := by
    intro noObject noArray item declared below
    cases below with
    | property => exact absurd rfl (noObject _)
    | item => exact absurd rfl (noArray _)
  cases value with
  | null | bool _ =>
    refine Checks.congr (typed.seq (allowed.seq (.pass trivial))) ⟨?_, ?_⟩
    · rintro ⟨type, enum, -⟩
      exact ⟨⟨type, enum, nofun, nofun, nofun, nofun, nofun⟩, childless nofun nofun⟩
    · rintro ⟨keywords, -⟩
      exact ⟨keywords.type, keywords.enum, trivial⟩
  | int number | float number =>
    refine Checks.congr (typed.seq (allowed.seq (checkNumber_checks formed))) ⟨?_, ?_⟩
    · rintro ⟨type, enum, range⟩
      exact ⟨⟨type, enum, nofun, nofun, nofun, nofun, fun _ same => by cases same; exact range⟩, childless nofun nofun⟩
    · rintro ⟨keywords, -⟩
      exact ⟨keywords.type, keywords.enum, keywords.range _ rfl⟩
  | str text =>
    have bounded := checkLength_checks formed "minLength" "maxLength" text.length (fun _ => s!"{path} is too short")
      (fun _ => s!"{path} is too long") (by simp) (by simp)
    refine Checks.congr (typed.seq (allowed.seq (bounded.seq (.pass trivial)))) ⟨?_, ?_⟩
    · rintro ⟨type, enum, length, -⟩
      exact ⟨⟨type, enum, nofun, nofun, nofun, fun _ same => by cases same; exact length, nofun⟩, childless nofun nofun⟩
    · rintro ⟨keywords, -⟩
      exact ⟨keywords.type, keywords.enum, keywords.length _ rfl, trivial⟩
  | arr items =>
    have bounded := checkLength_checks formed "minItems" "maxItems" items.length
      (fun bound => s!"{path} must contain at least {bound} items")
      (fun bound => s!"{path} must contain at most {bound} items") (by simp) (by simp)
    have below : Checks (validateItems child items schema path)
        (∀ item declared, Child (.arr items) schema item declared → holds item declared) := by
      unfold validateItems
      split
      · next declared held =>
        have checked : ∀ entry ∈ items.zipIdx,
            Checks (child entry.1 declared s!"{path}[{entry.2}]") (holds entry.1 declared) :=
          fun entry member => each entry.1 declared _ (.item held (List.fst_mem_of_mem_zipIdx member))
        refine ((Checks.forM checked).seq (.pass trivial)).congr ⟨?_, ?_⟩
        · rintro ⟨all, -⟩ item other (_ | ⟨known, member⟩)
          cases held.symm.trans known
          obtain ⟨index, listed⟩ := List.mem_iff_getElem?.mp member
          exact all (item, index) (List.mk_mem_zipIdx_iff_getElem?.mpr listed)
        · exact fun all => ⟨fun entry member => all _ _ (.item held (List.fst_mem_of_mem_zipIdx member)), trivial⟩
      · next none =>
        refine .pass ?_
        rintro item declared (_ | ⟨held, -⟩)
        exact absurd held (none declared)
    refine Checks.congr (typed.seq (allowed.seq (bounded.seq below))) ⟨?_, ?_⟩
    · rintro ⟨type, enum, length, rest⟩
      exact ⟨⟨type, enum, nofun, nofun, fun _ same => by cases same; exact length, nofun, nofun⟩, rest⟩
    · rintro ⟨keywords, rest⟩
      exact ⟨keywords.type, keywords.enum, keywords.items _ rfl, rest⟩
  | obj fields =>
    have present := @checkRequired_checks schema fields path formed
    have others := @checkUnknown_checks schema fields path
    have below : Checks ((properties schema).forM (validateProperty child fields path))
        (∀ item declared, Child (.obj fields) schema item declared → holds item declared) := by
      have checked : ∀ entry ∈ properties schema, Checks (validateProperty child fields path entry)
          (∀ item declared, Fields.get fields entry.1 = some item → entry.2 = .obj declared →
            holds item declared) := by
        intro entry member
        unfold validateProperty
        split
        · next item declared found shape =>
          have listed : (entry.1, Json.obj declared) ∈ properties schema := shape ▸ member
          exact (each item declared _ (.property listed found)).congr
            ⟨fun all _ _ same same' => by cases found.symm.trans same; cases shape.symm.trans same'; exact all,
              fun all => all _ _ found shape⟩
        · next none => exact .pass fun item declared found shape => absurd shape (none item declared found)
      refine (Checks.forM checked).congr ⟨?_, ?_⟩
      · rintro all item declared (⟨known, found⟩ | _)
        exact all _ known item declared found rfl
      · intro all entry member item declared found shape
        have listed : (entry.1, Json.obj declared) ∈ properties schema := shape ▸ member
        exact all item declared (.property listed found)
    refine Checks.congr (typed.seq (allowed.seq (present.seq (others.seq (below.seq (.pass trivial)))))) ⟨?_, ?_⟩
    · rintro ⟨type, enum, required, additional, rest, -⟩
      exact ⟨⟨type, enum, fun _ same => by cases same; exact required, fun _ same => by cases same; exact additional, nofun,
        nofun, nofun⟩, rest⟩
    · rintro ⟨keywords, rest⟩
      exact ⟨keywords.type, keywords.enum, keywords.required _ rfl, keywords.additional _ rfl, rest, trivial⟩

end Level

theorem depth_child {value item : Json} {schema child : Fields} (below : Child value schema item child) :
    depthFields child < depthFields schema := by
  have held : ∀ {fields : Fields} {key : String} {inner : Json}, Fields.get fields key = some inner →
      depthJson inner ≤ depthFields fields := fun found => depth_declared (Fields.get_mem found)
  cases below with
  | property declared =>
    unfold properties at declared
    split at declared
    · next inner found =>
      have outer := held found
      have entry := depth_declared declared
      rw [depthJson] at outer entry
      omega
    · cases declared
  | item declared =>
    have outer := held declared
    rw [depthJson] at outer
    omega

def Throughout (reading : SchemaReading) (value : Json) (schema : Fields) : Prop :=
  ∀ inner deeper, Position value schema inner deeper → Keywords reading inner deeper

theorem throughout_iff {reading : SchemaReading} {value : Json} {schema : Fields} : Throughout reading value schema ↔
    Keywords reading value schema ∧ ∀ item child, Child value schema item child → Throughout reading item child := by
  constructor
  · exact fun all => ⟨all _ _ .here, fun item child step inner deeper rest => all inner deeper (.inside step rest)⟩
  · rintro ⟨here, below⟩ inner deeper position
    cases position with
    | here => exact here
    | inside step rest => exact below _ _ step inner deeper rest

theorem validateAt_checks {fuel : Nat} {schema : Fields} (subset : InSubset schema) (deep : depthFields schema ≤ fuel)
    (value : Json) (path : String) : Checks (validateAt fuel value schema path) (Throughout .python value schema) := by
  induction fuel generalizing schema value path with
  | zero =>
    refine (validateLevel_checks (subset _ .here) fun item declared path below => ?_).congr throughout_iff.symm
    have shallow := depth_child below
    omega
  | succ fuel ih =>
    refine (validateLevel_checks (subset _ .here) fun item declared path below => ?_).congr throughout_iff.symm
    have shallow := depth_child below
    exact ih (subset.child below) (by omega) item path

/-! ### The two readings -/

section Readings
variable {value : Json} {schema : Fields}

theorem hasType_number {x : Double} {name : String} (typed : SchemaReading.python.hasType (.float x) name = true) :
    name = "number" := by
  unfold SchemaReading.hasType at typed
  split at typed <;> first | rfl | cases typed

theorem hasType_lenient {name : String} : SchemaReading.lenient.hasType value name = true ↔
    SchemaReading.python.hasType value name = true ∨
      name = "integer" ∧ ∃ x, value = .float x ∧ (wholeNumber x).isSome := by
  by_cases integer : name = "integer"
  · subst integer
    cases value <;> simp [SchemaReading.hasType, SchemaReading.lenient, SchemaReading.python]
  · have same : SchemaReading.lenient.hasType value name = SchemaReading.python.hasType value name := by
      unfold SchemaReading.hasType
      split <;> first | rfl | exact absurd rfl integer
    simp [same, integer]

theorem within_lenient {minimum maximum : String} {length : Nat} :
    WithinLength .lenient schema minimum maximum length ↔ WithinLength .python schema minimum maximum length := by
  have same : SchemaReading.lenient.lengthBound = SchemaReading.python.lengthBound := by
    funext bound
    cases bound <;> rfl
  rw [WithinLength, WithinLength, same]

theorem within_standard {minimum maximum : String} {length : Nat}
    (within : WithinLength .standard schema minimum maximum length) : WithinLength .python schema minimum maximum length := by
  have counts : ∀ declared bound, SchemaReading.python.lengthBound declared = some bound →
      SchemaReading.standard.lengthBound declared = some bound := by
    intro declared bound held
    cases declared <;> first | exact held | cases held
  constructor
  · intro bound held
    obtain ⟨declared, found, limit⟩ := Option.bind_eq_some_iff.mp held
    exact within.1 bound (Option.bind_eq_some_iff.mpr ⟨declared, found, counts _ _ limit⟩)
  · intro bound held
    obtain ⟨declared, found, limit⟩ := Option.bind_eq_some_iff.mp held
    exact within.2 bound (Option.bind_eq_some_iff.mpr ⟨declared, found, counts _ _ limit⟩)

theorem keywords_python :
    Keywords .python value schema ↔ Keywords .lenient value schema ∧ ¬ WholeFloat value schema := by
  constructor
  · intro keywords
    refine ⟨⟨fun names declared => ?_, keywords.enum, keywords.required, keywords.additional,
      fun items same => within_lenient.mpr (keywords.items items same),
      fun text same => within_lenient.mpr (keywords.length text same), keywords.range⟩, ?_⟩
    · obtain ⟨name, member, typed⟩ := keywords.type names declared
      exact ⟨name, member, hasType_lenient.mpr (.inl typed)⟩
    · rintro ⟨x, names, rfl, -, declared, -, absent⟩
      obtain ⟨name, member, typed⟩ := keywords.type names declared
      exact absent (hasType_number typed ▸ member)
  · rintro ⟨keywords, strict⟩
    refine ⟨fun names declared => ?_, keywords.enum, keywords.required, keywords.additional,
      fun items same => within_lenient.mp (keywords.items items same),
      fun text same => within_lenient.mp (keywords.length text same), keywords.range⟩
    obtain ⟨name, member, typed⟩ := keywords.type names declared
    rcases hasType_lenient.mp typed with typed | ⟨rfl, x, rfl, whole⟩
    · exact ⟨name, member, typed⟩
    · by_cases numbers : "number" ∈ names
      · exact ⟨"number", numbers, rfl⟩
      · exact absurd ⟨x, names, rfl, whole, declared, member, numbers⟩ strict

theorem keywords_standard : Keywords .standard value schema ↔
    Keywords .lenient value schema ∧ ¬ (BooleanMember value schema ∨ FloatBound value schema) := by
  constructor
  · intro keywords
    refine ⟨⟨keywords.type, fun allowed declared => ?_, keywords.required, keywords.additional,
      fun items same => within_lenient.mpr (within_standard (keywords.items items same)),
      fun text same => within_lenient.mpr (within_standard (keywords.length text same)), keywords.range⟩, ?_⟩
    · obtain ⟨item, member, equal⟩ := keywords.enum allowed declared
      exact ⟨item, member, sameItem_of_equalJson equal⟩
    · rintro (⟨allowed, declared, -, apart⟩ | ⟨items, rfl, -, out⟩ | ⟨text, rfl, -, out⟩)
      · obtain ⟨item, member, equal⟩ := keywords.enum allowed declared
        exact absurd equal (by simp [SchemaReading.equal, SchemaReading.standard, apart item member])
      · exact out (keywords.items items rfl)
      · exact out (keywords.length text rfl)
  · rintro ⟨keywords, strict⟩
    rw [not_or] at strict
    refine ⟨keywords.type, fun allowed declared => ?_, keywords.required, keywords.additional, fun items same => ?_,
      fun text same => ?_, keywords.range⟩
    · by_contra none
      refine strict.1 ⟨allowed, declared, keywords.enum allowed declared, fun item member => ?_⟩
      by_contra equal
      exact none ⟨item, member, by simpa [SchemaReading.equal, SchemaReading.standard] using equal⟩
    · by_contra out
      exact strict.2 (.inl ⟨items, same, within_lenient.mp (keywords.items items same), out⟩)
    · by_contra out
      exact strict.2 (.inr ⟨text, same, within_lenient.mp (keywords.length text same), out⟩)

/-- For the schemas of the subset the validator is sound and complete when the value breaks a keyword however it is
read, or when whole floats are refused exactly when a membership or a bound is read too weakly. -/
theorem validatesStandard_iff (subset : InSubset schema) : ValidatesStandard value schema ↔
    Met (fun inner deeper => ¬ Keywords .lenient inner deeper) value schema ∨
      (Met WholeFloat value schema ↔ Met (fun inner deeper => BooleanMember inner deeper ∨ FloatBound inner deeper) value schema) := by
  have checks := validateAt_checks subset le_rfl value "$"
  have raised : (∃ message, validateSchema value schema = .error (.schemaValidation message)) ↔
      ¬ Throughout .python value schema := by
    rw [← checks.passes]
    change _ ↔ ¬ validateSchema value schema = .ok ()
    constructor
    · rintro ⟨message, same⟩ accepted
      cases same.symm.trans accepted
    · intro refused
      cases outcome : validateSchema value schema with
      | ok done => exact absurd outcome refused
      | error error =>
        obtain ⟨message, rfl⟩ := checks.only error outcome
        exact ⟨message, rfl⟩
  have contract : ValidatesStandard value schema ↔ (Throughout .python value schema ↔ Conforms value schema) :=
    ⟨fun valid => not_iff_not.mp (raised.symm.trans valid.raises), fun same => ⟨raised.trans (not_congr same), checks.only⟩⟩
  have python : Throughout .python value schema ↔
      ¬ Met (fun inner deeper => ¬ Keywords .lenient inner deeper) value schema ∧ ¬ Met WholeFloat value schema := by
    simp only [Throughout, Met, keywords_python]
    grind
  have standard : Conforms value schema ↔ ¬ Met (fun inner deeper => ¬ Keywords .lenient inner deeper) value schema ∧
      ¬ Met (fun inner deeper => BooleanMember inner deeper ∨ FloatBound inner deeper) value schema := by
    simp only [Conforms, Met, keywords_standard]
    grind
  rw [contract, python, standard]
  tauto

end Readings

theorem inSubset_flat {schema : Fields} (formed : WellFormed schema) (noProperties : properties schema = [])
    (noItems : Fields.get schema "items" = none) : InSubset schema := by
  intro inner sub
  cases sub with
  | here => exact formed
  | property declared =>
    rw [noProperties] at declared
    cases declared
  | items declared => cases noItems.symm.trans declared

def quantitySchema : Fields := [("type", .str "integer"), ("minimum", .int 0)]

theorem quantitySchema_formed : WellFormed quantitySchema := by
  refine ⟨?_, nofun, nofun, nofun, nofun, ?_, ?_⟩
  · rintro declared same
    cases same
    exact .inl ⟨"integer", by simp [schemaTypes], rfl⟩
  · intro key keyword declared held
    simp only [List.mem_cons, List.not_mem_nil, or_false] at keyword
    rcases keyword with rfl | rfl | rfl | rfl <;> cases held
  · intro key keyword declared held
    simp only [List.mem_cons, List.not_mem_nil, or_false] at keyword
    rcases keyword with rfl | rfl <;> cases held
    rfl

theorem validatesStandard_iff_quantity : ValidatesStandard (.float (.finite 2)) quantitySchema ↔
    Met (fun inner deeper => ¬ Keywords .lenient inner deeper) (.float (.finite 2)) quantitySchema ∨
      (Met WholeFloat (.float (.finite 2)) quantitySchema ↔
        Met (fun inner deeper => BooleanMember inner deeper ∨ FloatBound inner deeper) (.float (.finite 2)) quantitySchema) :=
  validatesStandard_iff (inSubset_flat quantitySchema_formed rfl rfl)

/-- `True` passes for a listed 1, a float bound is not looked at, and `2.0` is no integer. -/
theorem validatesStandard_fails :
    ¬ ValidatesStandard (.bool true) [("enum", .arr [.int 1])] ∧
    ¬ ValidatesStandard (.str "ab") [("maxLength", .float (.finite 1))] ∧
    ¬ ValidatesStandard (.float (.finite 2)) [("type", .str "integer")] := by
  refine ⟨fun valid => ?_, fun valid => ?_, fun valid => ?_⟩
  · have broken : ¬ Conforms (.bool true) [("enum", .arr [.int 1])] := by
      intro conforms
      obtain ⟨item, member, equal⟩ := (conforms _ _ .here).enum [.int 1] rfl
      rw [List.mem_singleton.mp member] at equal
      cases equal
    obtain ⟨message, raised⟩ := valid.raises.mpr broken
    have accepted : validateSchema (.bool true) [("enum", .arr [.int 1])] = .ok () := by decide
    cases accepted.symm.trans raised
  · have broken : ¬ Conforms (.str "ab") [("maxLength", .float (.finite 1))] := fun conforms =>
      absurd (((conforms _ _ .here).length "ab" rfl).2 1 rfl) (by decide)
    obtain ⟨message, raised⟩ := valid.raises.mpr broken
    have accepted : validateSchema (.str "ab") [("maxLength", .float (.finite 1))] = .ok () := by decide
    cases accepted.symm.trans raised
  · have kept : Conforms (.float (.finite 2)) [("type", .str "integer")] := by
      rintro inner deeper (_ | ⟨⟨⟩, -⟩)
      refine ⟨?_, nofun, nofun, nofun, nofun, nofun, fun _ _ => ⟨nofun, nofun⟩⟩
      rintro names declared
      cases declared
      exact ⟨"integer", List.mem_singleton_self _, rfl⟩
    have refused : validateSchema (.float (.finite 2)) [("type", .str "integer")] =
        .error (.schemaValidation "$ must be integer") := by decide
    exact valid.raises.mp ⟨_, refused⟩ kept

end Operly.Kernel
