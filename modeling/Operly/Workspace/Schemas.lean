import Operly.Kernel.ObjectSchemas
import Operly.Python.Sections
import Operly.Workspace.RecordApi

/-! The schemas of the record capabilities, and the rows that a record schema admits. -/

namespace Operly.Workspace.Records
open Python Relational Kernel

def optionsOf (entity field : String) : List String :=
  ((fieldOptions.find? fun entry => entry.1 = entity && entry.2.1 = field).map (·.2.2)).getD []

def kindOf : ColumnType → String
  | .boolean => "boolean"
  | .integer => "integer"
  | .float => "number"
  | .dateTime | .text | .string _ => "string"

def lengthOf : ColumnType → Fields
  | .string length => [("maxLength", .int length)]
  | _ => []

def jsonType (column : Column) (options : List String) : Fields :=
  ("type", if column.nullable then .arr [.str (kindOf column.type), .str "null"] else .str (kindOf column.type)) ::
    (lengthOf column.type ++
      if options.isEmpty then []
      else [("enum", .arr (options.map Json.str ++ if column.nullable then [.null] else []))])

def fieldSchema (entity : String) (config : RecordConfig) (field : String) : Fields :=
  match columnOf config.model field with
  | some column => jsonType column (optionsOf entity field)
  | none => []

def textSchema : Fields := [("type", .str "string")]

def systemSchema : Fields := [("type", .arr [.str "string", .str "null"])]

def recordSchema (entity : String) (config : RecordConfig) : Fields :=
  objectSchema (("id", .obj textSchema) :: ((config.fields.map fun field => (field, .obj (fieldSchema entity config field))) ++
    (systemKeys config).map fun key => (key, .obj systemSchema))) ["id"]

def writeSchema (entity : String) (config : RecordConfig) (isPartial : Bool) : Fields :=
  objectSchema (config.fields.map fun field => (field, .obj (fieldSchema entity config field)))
    (if isPartial then [] else config.required)

def countSchema : Fields := [("type", .str "integer")]

def recordIdSchema : Fields := [("type", .str "string"), ("minLength", .int 1), ("maxLength", .int 80)]

def inputSchema (entity : String) (config : RecordConfig) : Operation → Fields
  | .list => objectSchema [
      ("q", .obj [("type", .str "string"), ("maxLength", .int 200)]),
      ("status", .obj [("type", .str "string"), ("maxLength", .int 80)]),
      ("limit", .obj [("type", .str "integer"), ("minimum", .int 1), ("maximum", .int 200)]),
      ("offset", .obj [("type", .str "integer"), ("minimum", .int 0)]),
      ("sort", .obj [("type", .str "string"), ("maxLength", .int 80)]),
      ("direction", .obj [("type", .str "string"), ("enum", .arr [.str "asc", .str "desc"])])] []
  | .create => writeSchema entity config false
  | .update => objectSchema [("record_id", .obj recordIdSchema), ("changes", .obj (writeSchema entity config true))]
      ["record_id", "changes"]
  | .delete => objectSchema [("record_id", .obj recordIdSchema)] ["record_id"]

def outputSchema (entity : String) (config : RecordConfig) : Operation → Fields
  | .list => objectSchema [("items", .obj (arraySchema (recordSchema entity config))), ("total", .obj countSchema),
      ("limit", .obj countSchema), ("offset", .obj countSchema)] ["items", "total", "limit", "offset"]
  | .create | .update => recordSchema entity config
  | .delete => objectSchema [("ok", .obj [("type", .str "boolean")]), ("record_id", .obj textSchema)] ["ok", "record_id"]

/-! ### Cells that fit their column -/

/-- A cell has the type, the length and the options of its column, or is null. -/
def fits (column : Column) (options : List String) : Cell → Bool
  | .null => true
  | .text value => (options.isEmpty || options.contains value) &&
      match column.type with
      | .text => true
      | .string length => value.length ≤ length
      | _ => false
  | .integer _ => column.type = .integer && options.isEmpty
  | .float _ => column.type = .float && options.isEmpty
  | .boolean _ => column.type = .boolean && options.isEmpty
  | .moment _ => column.type = .dateTime && options.isEmpty

section Cells
variable {column : Column} {options : List String} {value : Json} {path : String}

theorem jsonType_maxLength : intBound (jsonType column options) "maxLength" = match column.type with
    | .string length => some (length : Int)
    | _ => none := by
  obtain ⟨name, type, nullable, initial⟩ := column
  cases type <;> cases options <;> rfl

theorem jsonType_unbounded : intBound (jsonType column options) "minLength" = none ∧
    numberBound (jsonType column options) "minimum" = none ∧ numberBound (jsonType column options) "maximum" = none := by
  obtain ⟨name, type, nullable, initial⟩ := column
  cases type <;> cases options <;> exact ⟨rfl, rfl, rfl⟩

theorem checkType_jsonType (matching : matchesType value (kindOf column.type) = true ∨ value = .null ∧ column.nullable = true) :
    checkType value (jsonType column options) path = .ok () := by
  have declared : Fields.get (jsonType column options) "type" = some (if column.nullable then
      .arr [.str (kindOf column.type), .str "null"] else .str (kindOf column.type)) := rfl
  rw [checkType, declared]
  cases nullable : column.nullable with
  | true =>
    apply if_pos
    rcases matching with kind | ⟨rfl, -⟩
    · simp [typeName, kind]
    · simp [typeName, matchesType]
  | false =>
    rcases matching with kind | ⟨-, impossible⟩
    · exact if_pos kind
    · rw [nullable] at impossible
      cases impossible

theorem jsonType_enum : Fields.get (jsonType column options) "enum" =
    if options.isEmpty then none else some (.arr (options.map Json.str ++ if column.nullable then [.null] else [])) := by
  obtain ⟨name, type, nullable, initial⟩ := column
  cases type <;> cases options <;> rfl

theorem checkEnum_jsonType (allowed : options = [] ∨ (∃ text ∈ options, value = .str text) ∨
    value = .null ∧ column.nullable = true) : checkEnum value (jsonType column options) path = .ok () := by
  rw [checkEnum, jsonType_enum]
  by_cases free : options = []
  · rw [if_pos (by simp [free])]
  · rw [if_neg (by simpa using free)]
    have inside : (options.map Json.str ++ if column.nullable then [Json.null] else []).any (Json.sameItem value) = true := by
      rw [List.any_eq_true]
      rcases allowed with none | ⟨text, listed, rfl⟩ | ⟨rfl, nullable⟩
      · exact absurd none free
      · exact ⟨.str text, by simp [listed], by simp [Json.sameItem, Json.same]⟩
      · exact ⟨.null, by simp [nullable], by decide⟩
    simp only [outsideEnum, inside]
    rfl

theorem admits_cell {cell : Cell} (fitting : fits column options cell = true)
    (present : cell = .null → column.nullable = true) : Admits (jsonType column options) (serializeValue cell) := by
  obtain ⟨shortest, least, most⟩ := @jsonType_unbounded column options
  cases cell with
  | null =>
    have nullable := present rfl
    exact admits_plain (.inl rfl) (fun _ => checkType_jsonType (.inr ⟨rfl, nullable⟩))
      fun _ => checkEnum_jsonType (.inr (.inr ⟨rfl, nullable⟩))
  | text value =>
    obtain ⟨name, type, nullable, initial⟩ := column
    simp only [fits, Bool.and_eq_true, Bool.or_eq_true, List.isEmpty_iff, List.contains_iff_mem] at fitting
    have allowed : ∀ path, checkEnum (.str value) (jsonType ⟨name, type, nullable, initial⟩ options) path = .ok () :=
      fun _ => checkEnum_jsonType (fitting.1.imp_right fun listed => .inl ⟨value, listed, rfl⟩)
    cases type with
    | text => exact admits_text (fun _ => checkType_jsonType (.inl rfl)) allowed shortest (by simp [jsonType_maxLength])
    | string length =>
      refine admits_text (fun _ => checkType_jsonType (.inl rfl)) allowed shortest ?_
      have short := of_decide_eq_true fitting.2
      simpa [jsonType_maxLength] using short
    | _ => cases fitting.2
  | integer value =>
    simp only [fits, Bool.and_eq_true, decide_eq_true_eq, List.isEmpty_iff] at fitting
    exact admits_number rfl (fun _ => checkType_jsonType (.inl (by rw [fitting.1]; rfl)))
      (fun _ => checkEnum_jsonType (.inl fitting.2)) least most
  | float value =>
    simp only [fits, Bool.and_eq_true, decide_eq_true_eq, List.isEmpty_iff] at fitting
    exact admits_number rfl (fun _ => checkType_jsonType (.inl (by rw [fitting.1]; rfl)))
      (fun _ => checkEnum_jsonType (.inl fitting.2)) least most
  | boolean value =>
    simp only [fits, Bool.and_eq_true, decide_eq_true_eq, List.isEmpty_iff] at fitting
    exact admits_plain (.inr ⟨value, rfl⟩) (fun _ => checkType_jsonType (.inl (by rw [fitting.1]; rfl)))
      fun _ => checkEnum_jsonType (.inl fitting.2)
  | moment value =>
    simp only [fits, Bool.and_eq_true, decide_eq_true_eq, List.isEmpty_iff] at fitting
    refine admits_text (fun _ => checkType_jsonType (.inl (by rw [fitting.1]; rfl)))
      (fun _ => checkEnum_jsonType (.inl fitting.2)) shortest ?_
    simp [jsonType_maxLength, fitting.1]

/-- A cell is one of the options of its field, or null, or the field has none. -/
def allows (options : List String) (cell : Cell) : Bool :=
  options.isEmpty || cell = .null || options.any fun option => cell = .text option

theorem fits_of_allows {cell : Cell} (typed : fits column [] cell = true) (allowed : allows options cell = true) :
    fits column options cell = true := by
  simp only [allows, Bool.or_eq_true, List.isEmpty_iff, decide_eq_true_eq, List.any_eq_true] at allowed
  rcases allowed with (rfl | rfl) | ⟨option, listed, rfl⟩
  · exact typed
  · rfl
  · simp only [fits, List.isEmpty_nil, Bool.true_or, Bool.true_and] at typed
    simp [fits, typed, listed]

end Cells

/-! ### Records and lists of them -/

section Records
variable {entity : String} {config : RecordConfig} {row : Row}

theorem registry_fields : ∀ entry ∈ entityRegistry, ∀ field ∈ entry.2.fields,
    hasColumn entry.2.model field = true ∧ field ≠ "id" := by decide +kernel

theorem registry_systemKeys : ∀ entry ∈ entityRegistry, ∀ key ∈ systemKeys entry.2,
    (columnOf entry.2.model key).map Column.type = some .dateTime ∧ key ≠ "id" := by decide +kernel

/-- A row fits a record type: each column has what it may hold, and what it has to. -/
structure Fitting (entity : String) (model : Model) (row : Row) : Prop where
  fits : ∀ field column, columnOf model field = some column → fits column (optionsOf entity field) (row.cells field) = true
  present : ∀ field column, columnOf model field = some column → row.cells field = .null → column.nullable = true

theorem get_map {keys : List String} {value : String → Json} {key : String} {item : Json}
    (found : Fields.get (keys.map fun key => (key, value key)) key = some item) : item = value key := by
  rw [Fields.get, Option.map_eq_some_iff] at found
  obtain ⟨entry, held, rfl⟩ := found
  have name : entry.1 = key := by simpa using List.find?_some held
  obtain ⟨other, -, rfl⟩ := List.mem_map.mp (List.mem_of_find?_eq_some held)
  rw [← name]

theorem get_serialized {key : String} {item : Json} (other : key ≠ "id")
    (found : Fields.get (("id", .str row.id) :: (config.fields ++ systemKeys config).map fun key =>
      (key, serializeValue (row.cells key))) key = some item) : item = serializeValue (row.cells key) := by
  rw [Fields.get, List.find?_cons_of_neg (by simpa using other.symm)] at found
  exact get_map found

theorem admits_record (known : (entity, config) ∈ entityRegistry) (fitting : Fitting entity config.model row) :
    Admits (recordSchema entity config) (serializeRecord row config) := by
  apply admits_object
  · simp [Fields.has]
  · intro entry member
    simp only [List.mem_cons, List.mem_map, List.mem_append] at member
    rcases member with rfl | ⟨key, field | system, rfl⟩
    · simp [Fields.has]
    · simp [Fields.has, field]
    · simp [Fields.has, system]
  · intro entry member schema shape item found
    simp only [List.mem_cons, List.mem_append, List.mem_map] at member
    rcases member with rfl | ⟨field, listed, rfl⟩ | ⟨key, listed, rfl⟩
    · cases shape
      cases found
      exact admits_text (fun _ => rfl) (fun _ => rfl) rfl (by simp [textSchema, intBound, Fields.get])
    · cases shape
      obtain ⟨declared, other⟩ := registry_fields _ known field listed
      rw [get_serialized other found]
      obtain ⟨column, held⟩ := Option.isSome_iff_exists.mp declared
      rw [fieldSchema, held]
      exact admits_cell (fitting.fits field column held) (fitting.present field column held)
    · cases shape
      obtain ⟨typed, other⟩ := registry_systemKeys _ known key listed
      rw [get_serialized other found]
      obtain ⟨column, held, time⟩ := Option.map_eq_some_iff.mp typed
      have cell := fitting.fits key column held
      cases shown : row.cells key with
      | null => exact admits_plain (.inl rfl) (fun _ => rfl) fun _ => rfl
      | moment value => exact admits_text (fun _ => rfl) (fun _ => rfl) rfl (by simp [systemSchema, intBound, Fields.get])
      | _ =>
        rw [shown] at cell
        simp [fits, time] at cell

theorem admits_count (n : Int) : Admits countSchema (.int n) := admits_number rfl (fun _ => rfl) (fun _ => rfl) rfl rfl

theorem admits_listing {rows : List Row} (known : (entity, config) ∈ entityRegistry)
    (fitting : ∀ row ∈ rows, Fitting entity config.model row) (total limit offset : Int) :
    Admits (outputSchema entity config .list) (.obj [("items", .arr (rows.map fun row => serializeRecord row config)),
      ("total", .int total), ("limit", .int limit), ("offset", .int offset)]) := by
  apply admits_object
  · simp [Fields.has]
  · simp [Fields.has]
  · intro entry member schema shape item found
    simp only [List.mem_cons, List.not_mem_nil, or_false] at member
    rcases member with rfl | rfl | rfl | rfl
    · cases shape
      cases found
      apply admits_array
      intro item listed
      obtain ⟨row, held, rfl⟩ := List.mem_map.mp listed
      exact admits_record known (fitting row held)
    · cases shape
      cases found
      exact admits_count total
    · cases shape
      cases found
      exact admits_count limit
    · cases shape
      cases found
      exact admits_count offset

theorem admits_deleted (recordId : String) : Admits (outputSchema entity config .delete)
    (.obj [("ok", .bool true), ("record_id", .str recordId)]) := by
  apply admits_object
  · simp [Fields.has]
  · simp [Fields.has]
  · intro entry member schema shape item found
    simp only [List.mem_cons, List.not_mem_nil, or_false] at member
    rcases member with rfl | rfl
    · cases shape
      cases found
      exact admits_plain (.inr ⟨true, rfl⟩) (fun _ => rfl) fun _ => rfl
    · cases shape
      cases found
      exact admits_text (fun _ => rfl) (fun _ => rfl) rfl (by simp [textSchema, intBound, Fields.get])

end Records

/-! ### Payloads that keep to the options -/

/-- The values of a payload are options of their fields, where these have options. -/
def Listed [Floats] (engine : Engine) (entity : String) (config : RecordConfig) (payload : Fields) : Prop :=
  ∀ field ∈ config.fields, ∀ value, Fields.get payload field = some value → ∀ cell,
    coerce engine.spelling config.model field value = .ok cell → allows (optionsOf entity field) cell = true

section Payloads
variable {engine : Engine} {entity : String} {config : RecordConfig} {payload : Fields}

theorem find_of_mem (known : (entity, config) ∈ entityRegistry) : RecordConfig.find entity = some config := by
  have distinct : (entityRegistry.map (·.1)).Nodup := by decide +kernel
  cases found : entityRegistry.find? (·.1 = entity) with
  | none =>
    have absent := List.find?_eq_none.mp found (entity, config) known
    simp at absent
  | some entry =>
    have name : entry.1 = entity := by simpa using List.find?_some found
    have same : entry = (entity, config) := List.inj_on_of_nodup_map distinct (List.mem_of_find?_eq_some found) known name
    rw [RecordConfig.find, found, same, Option.map_some]

def ColumnType.bounds (type : ColumnType) (text : String) : Bool :=
  match type with
  | .string length => text.length ≤ length
  | _ => false

theorem fieldOptions_plain : ∀ declared ∈ fieldOptions, ∀ option ∈ declared.2.2, option ≠ "" ∧
    (∀ c ∈ option.toList, 33 ≤ c.toNat ∧ c.toNat ≤ 126) ∧
      ((RecordConfig.find declared.1).all fun config =>
        (columnOf config.model declared.2.1).any fun column => column.type.bounds option) = true := by decide +kernel

theorem cleanText_word {spelling : Spelling} {text : String} {length : Nat} (nonempty : text ≠ "")
    (printable : ∀ c ∈ text.toList, 33 ≤ c.toNat ∧ c.toNat ≤ 126) (short : text.length ≤ length) :
    cleanText spelling (.str text) (some length) = text := by
  have solid : ∀ c ∈ text.toList, isSpace c = false := fun c member => isSpace_printable (printable c member).1 (printable c member).2
  have absent : Char.ofNat 0 ∉ text.toList := fun member => absurd (printable _ member).1 (by decide)
  have raw : (if Json.truthy (.str text) then (Json.str text).toStr spelling else "") = text := if_pos (by simpa [Json.truthy] using nonempty)
  simp only [cleanText, raw, replaceChar_absent absent, words_solid solid nonempty]
  have joined : " ".intercalate [text] = text := rfl
  rw [joined, strip_solid solid, List.take_of_length_le (by rwa [String.length_toList]), String.ofList_toList]

theorem optionsOf_mem {field option : String} (listed : option ∈ optionsOf entity field) :
    ∃ declared ∈ fieldOptions, declared.1 = entity ∧ declared.2.1 = field ∧ option ∈ declared.2.2 := by
  unfold optionsOf at listed
  cases found : fieldOptions.find? fun entry => entry.1 = entity && entry.2.1 = field with
  | none => simp [found] at listed
  | some declared =>
    have names := List.find?_some found
    rw [Bool.and_eq_true, decide_eq_true_eq, decide_eq_true_eq] at names
    exact ⟨declared, List.mem_of_find?_eq_some found, names.1, names.2, by simpa [found] using listed⟩

theorem sameItem_text {value : Json} {text : String} (same : Json.sameItem value (.str text) = true) : value = .str text := by
  cases value <;> simp_all [Json.sameItem, Json.same, Json.sameNumber, Json.isNan]

theorem sameItem_null {value : Json} (same : Json.sameItem value .null = true) : value = .null := by
  cases value <;> simp_all [Json.sameItem, Json.same, Json.sameNumber, Json.isNan]

theorem option_checked {column : Column} {options : List String} {value : Json} {path : String}
    (checked : checkEnum value (jsonType column options) path = .ok ()) :
    options = [] ∨ value = .null ∨ ∃ option ∈ options, value = .str option := by
  rw [checkEnum, jsonType_enum] at checked
  by_cases free : options = []
  · exact .inl free
  · rw [if_neg (by simpa using free)] at checked
    cases inside : (options.map Json.str ++ if column.nullable then [Json.null] else []).any (Json.sameItem value) with
    | false => simp [outsideEnum, inside] at checked
    | true =>
      obtain ⟨item, member, same⟩ := List.any_eq_true.mp inside
      rcases List.mem_append.mp member with text | nothing
      · obtain ⟨option, listed, rfl⟩ := List.mem_map.mp text
        exact .inr (.inr ⟨option, listed, sameItem_text same⟩)
      · split at nothing
        · rw [List.mem_singleton] at nothing
          exact .inr (.inl (sameItem_null (nothing ▸ same)))
        · cases nothing

variable [Floats]

theorem coerce_listed (known : (entity, config) ∈ entityRegistry) {field option : String}
    (listed : option ∈ optionsOf entity field) (spelling : Spelling) :
    coerce spelling config.model field (.str option) = .ok (.text option) := by
  obtain ⟨declared, held, rfl, rfl, among⟩ := optionsOf_mem listed
  obtain ⟨nonempty, printable, held⟩ := fieldOptions_plain declared held option among
  rw [find_of_mem known, Option.all_some, Option.any_eq_true] at held
  obtain ⟨column, named, bounds⟩ := held
  cases type : column.type with
  | string length =>
    have short : option.length ≤ length := by simpa [ColumnType.bounds, type] using bounds
    simp only [coerce, named, type, reduceCtorEq, if_false, cleanText_word nonempty printable short]
  | _ => simp [ColumnType.bounds, type] at bounds

theorem listed_nil : Listed engine entity config [] := by
  intro field _ value found
  cases found

theorem listed_of_write {fuel : Nat} {isPartial : Bool} {path : String} (known : (entity, config) ∈ entityRegistry)
    (accepted : validateAt (fuel + 1) (.obj payload) (writeSchema entity config isPartial) path = .ok ()) :
    Listed engine entity config payload := by
  intro field listed value found cell coerced
  obtain ⟨declared, -⟩ := registry_fields _ known field listed
  obtain ⟨column, held⟩ := Option.isSome_iff_exists.mp declared
  obtain ⟨path, checked⟩ := property_checked accepted (List.mem_map_of_mem listed) rfl found
  rw [fieldSchema, held] at checked
  rcases option_checked (enum_checked checked) with free | rfl | ⟨option, among, rfl⟩
  · simp [allows, free]
  · simp only [coerce, held, if_true, Except.ok.injEq] at coerced
    simp [allows, ← coerced]
  · rw [coerce_listed known among, Except.ok.injEq] at coerced
    subst coerced
    simp [allows, among]

theorem listed_of_input {operation : Operation} {arguments : Fields} {recordId : Option String}
    (known : (entity, config) ∈ entityRegistry)
    (valid : validateSchema (.obj arguments) (inputSchema entity config operation) = .ok ()) {entity' : String}
    (writes : (Call.capability entity operation arguments).writes engine = some (entity', recordId, payload)) :
    Listed engine entity config payload := by
  cases operation with
  | create =>
    cases writes
    obtain ⟨n, depth⟩ := Nat.exists_eq_add_of_le' ((Nat.le_add_left 1 _).trans (depth_objectSchema _ _))
    rw [validateSchema, inputSchema, writeSchema, depth] at valid
    exact listed_of_write known valid
  | update =>
    cases writes
    cases found : Fields.get arguments "changes" with
    | none =>
      rw [changesOf, found]
      exact listed_nil
    | some item =>
      cases item with
      | obj changes =>
        have held : ("changes", Json.obj (writeSchema entity config true)) ∈
            [("record_id", Json.obj recordIdSchema), ("changes", .obj (writeSchema entity config true))] := by simp
        have inner := depth_declared held
        have outer := depth_objectSchema [("record_id", .obj recordIdSchema), ("changes", .obj (writeSchema entity config true))]
          ["record_id", "changes"]
        rw [depthJson] at inner
        obtain ⟨n, depth⟩ := Nat.exists_eq_add_of_le' ((Nat.le_add_left 2 _).trans ((Nat.add_le_add_right inner 1).trans outer))
        rw [validateSchema, inputSchema, depth] at valid
        obtain ⟨path, checked⟩ := property_checked valid held rfl found
        rw [changesOf, found]
        exact listed_of_write known checked
      | _ =>
        rw [changesOf, found]
        exact listed_nil
  | list => cases writes
  | delete => cases writes

end Payloads

end Operly.Workspace.Records
