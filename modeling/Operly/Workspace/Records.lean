import Operly.Python.Arithmetic
import Operly.Python.Datetime
import Operly.Python.Exceptions
import Operly.Workspace.Authority
import Operly.Workspace.Registry

/-! What the record requests of a workspace share: how a payload becomes the values of columns, how the
records it names are found, and how a record is shown. -/

namespace Operly.Workspace.Records
open Python Relational

inductive Failure where
  | http (status : Nat) (detail : String)
  | moduleDisabled (name : String)
  | permission (message : String)
  | value (message : String)
  | lookup (message : String)
  /-- `IntegrityError` at a flush -/
  | integrity
  /-- another exception -/
  | uncaught
  deriving DecidableEq

structure Engine where
  spelling : Spelling
  /-- `column.ilike(pattern)` -/
  ilike : String → String → Bool
  /-- the order of a column, from the least value on -/
  atMost : Cell → Cell → Bool
  /-- the attributes of a model class that are no columns -/
  classAttribute : String → Bool
  upper : String → String
  /-- `{amount:,.2f}` -/
  money : Double → String

abbrev Uid := { text : String // text.length = 36 }

/-- What `uuid4` gives, and one reading of the clock for all those of a request. -/
structure Drawn where
  id : Uid
  now : Int

/-- The business records, the activities, and what decides on the access of each workspace: the rows of
its modules, and the permissions that `resolve_workspace_permissions` gives a role. -/
structure Database where
  store : Store Model
  activities : List ActivityEvent
  modules : String → String → Option Bool
  permissions : String → String → List String

def columnOf (model : Model) (field : String) : Option Column := (columns model).find? (·.name = field)

/-- `hasattr` of a column -/
def hasColumn (model : Model) (field : String) : Bool := (columnOf model field).isSome

/-- The key that a column holds; nothing, and the empty text, count as none. -/
def keyOf : Cell → Option String
  | .text id => if id = "" then none else some id
  | _ => none

def moduleEnabled (db : Database) (tenantId key : String) : Bool :=
  match (moduleCatalog.find? (·.1 = key)).map (·.2) with
  | some manifest => manifest.locked || (db.modules tenantId key).getD manifest.defaultEnabled
  | none => false

def moduleName (key : String) : String :=
  (((moduleCatalog.find? (·.1 = key)).map (·.2)).map ModuleManifest.name).getD key

def requireModule (db : Database) (auth : AuthContext) (key permission : String) : Except Failure Unit :=
  if auth.role ≠ "owner" ∧ permission ∉ db.permissions auth.tenantId auth.role then
    .error (.http 403 "Workspace permission denied")
  else if !moduleEnabled db auth.tenantId key then .error (.moduleDisabled (moduleName key))
  else .ok ()

/-! ### From a payload to values -/

section Coercion
variable [Floats] (spelling : Spelling)

def cleanText (value : Json) (maxLength : Option Nat) : String :=
  let raw := replaceChar (Char.ofNat 0) "" (if value.truthy then value.toStr spelling else "")
  match maxLength with
  | none => strip raw
  | some length => String.ofList ((strip (" ".intercalate (words raw))).toList.take length)

/-- `_parse_datetime`. The offset of the text is dropped. -/
def parseDatetime (value : Json) : Except Failure Cell :=
  if value = .null ∨ value = .str "" then .ok .null
  else match fromisoformat (replaceChar 'Z' "+00:00" (value.toStr spelling)) with
    | some (time, _) => .ok (.moment time)
    | none => .error (.http 422 s!"Invalid datetime: {value.toStr spelling}")

def coerceBoolean (field : String) : Json → Except Failure Cell
  | .bool value => .ok (.boolean value)
  | value =>
      let normalized := lower (strip (value.toStr spelling))
      if ["true", "1", "yes", "on"].contains normalized then .ok (.boolean true)
      else if ["false", "0", "no", "off"].contains normalized then .ok (.boolean false)
      else .error (.http 422 s!"Invalid boolean for {field}")

/-- A conversion that reports `TypeError` and `ValueError`, and nothing else. -/
def converted {α : Type} (detail : String) (make : α → Cell) : Except Python.Failure α → Except Failure Cell
  | .ok value => .ok (make value)
  | .error .overflowError => .error .uncaught
  | .error _ => .error (.http 422 detail)

def coerce (model : Model) (field : String) (value : Json) : Except Failure Cell :=
  match columnOf model field with
  | none => .error .uncaught
  | some column =>
      if value = .null then .ok .null
      else match column.type with
        | .dateTime => parseDatetime spelling value
        | .boolean => coerceBoolean spelling field value
        | .integer => converted s!"Invalid integer for {field}" .integer value.toInt
        | .float => converted s!"Invalid number for {field}" .float value.toFloat
        | .text => .ok (.text (cleanText spelling value none))
        | .string length => .ok (.text (cleanText spelling value (some length)))

def listed (names : List String) : String := ", ".intercalate names

def missingFields (config : RecordConfig) (values : Values) : List String :=
  config.required.filter fun field => [none, some Cell.null, some (Cell.text "")].contains (values.given field)

def coerceEntries (model : Model) : Fields → Except Failure Values
  | [] => .ok []
  | (field, value) :: rest => do
      let cell ← coerce spelling model field value
      let cells ← coerceEntries model rest
      return (field, cell) :: cells

def payloadValues (config : RecordConfig) (payload : Fields) (isPartial : Bool) : Except Failure Values :=
  let unknown := (payload.map (·.1)).filter fun field => !config.fields.contains field
  if !unknown.isEmpty then
    .error (.http 422 ("Unsupported fields: " ++ listed (unknown.insertionSort (· ≤ ·))))
  else do
    let values ← coerceEntries spelling config.model payload
    if !isPartial && !(missingFields config values).isEmpty then
      .error (.http 422 ("Required fields: " ++ listed (missingFields config values)))
    else .ok values

variable {spelling} {payload : Fields} {cell : Cell} {config : RecordConfig} {isPartial : Bool}

theorem coerceEntries_fields {model : Model} {values : Values}
    (coerced : coerceEntries spelling model payload = .ok values) : values.map (·.1) = payload.map (·.1) := by
  induction payload generalizing values with
  | nil =>
    cases coerced
    rfl
  | cons entry rest ih =>
    obtain ⟨cell, -, later⟩ := bind_eq_ok.mp coerced
    obtain ⟨cells, tail, same⟩ := bind_eq_ok.mp later
    rw [← pure_eq_ok.mp same, List.map_cons, List.map_cons, ih tail]

theorem coerceEntries_mem {model : Model} {values : Values}
    (coerced : coerceEntries spelling model payload = .ok values) {value : String × Cell} (member : value ∈ values) :
    ∃ entry ∈ payload, entry.1 = value.1 ∧ coerce spelling model value.1 entry.2 = .ok value.2 := by
  induction payload generalizing values with
  | nil =>
    cases coerced
    cases member
  | cons entry rest ih =>
    obtain ⟨cell, first, later⟩ := bind_eq_ok.mp coerced
    obtain ⟨cells, tail, same⟩ := bind_eq_ok.mp later
    rw [← pure_eq_ok.mp same] at member
    rcases List.mem_cons.mp member with rfl | further
    · exact ⟨entry, List.mem_cons_self, rfl, first⟩
    · obtain ⟨origin, held, name, taken⟩ := ih tail further
      exact ⟨origin, List.mem_cons_of_mem _ held, name, taken⟩

variable {field : String}

theorem coerceEntries_get {model : Model} {values : Values}
    (coerced : coerceEntries spelling model payload = .ok values) (given : values.given field = some cell) :
    ∃ value, Fields.get payload field = some value ∧ coerce spelling model field value = .ok cell := by
  induction payload generalizing values with
  | nil =>
    cases coerced
    cases given
  | cons entry rest ih =>
    obtain ⟨first, converted, later⟩ := bind_eq_ok.mp coerced
    obtain ⟨cells, tail, same⟩ := bind_eq_ok.mp later
    rw [← pure_eq_ok.mp same] at given
    by_cases itself : entry.1 = field
    · subst itself
      simp only [Values.given, List.find?_cons, decide_true, Option.map_some, Option.some.injEq] at given
      exact ⟨entry.2, by simp [Fields.get], given ▸ converted⟩
    · have later : Values.given cells field = some cell := by simpa [Values.given, itself] using given
      obtain ⟨value, found, converted⟩ := ih tail later
      exact ⟨value, by simpa [Fields.get, itself] using found, converted⟩

theorem payloadValues_eq_ok {values : Values} :
    payloadValues spelling config payload isPartial = .ok values ↔
      (∀ entry ∈ payload, entry.1 ∈ config.fields) ∧ coerceEntries spelling config.model payload = .ok values ∧
        (isPartial = false → missingFields config values = []) := by
  simp only [payloadValues, check_eq_ok, bind_eq_ok, Except.ok.injEq]
  constructor
  · rintro ⟨known, _, coerced, complete, rfl⟩
    refine ⟨?_, coerced, ?_⟩
    · simpa using known
    · rintro rfl
      simpa using complete
  · rintro ⟨known, coerced, complete⟩
    refine ⟨by simpa using known, values, coerced, ?_, rfl⟩
    cases isPartial <;> simp_all

theorem payloadValues_given {values : Values} (taken : payloadValues spelling config payload isPartial = .ok values)
    (given : values.given field = some cell) : field ∈ config.fields := by
  obtain ⟨known, coerced, -⟩ := payloadValues_eq_ok.mp taken
  have named : field ∈ values.map (·.1) := List.mem_map.mpr ⟨(field, cell), Values.mem_of_given given, rfl⟩
  rw [coerceEntries_fields coerced] at named
  obtain ⟨entry, member, rfl⟩ := List.mem_map.mp named
  exact known entry member

theorem payloadValues_coerced {values : Values} (taken : payloadValues spelling config payload isPartial = .ok values)
    (given : values.given field = some cell) :
    ∃ entry ∈ payload, entry.1 = field ∧ coerce spelling config.model field entry.2 = .ok cell :=
  coerceEntries_mem (payloadValues_eq_ok.mp taken).2.1 (Values.mem_of_given given)

theorem payloadValues_absent {values : Values} (taken : payloadValues spelling config payload isPartial = .ok values)
    (absent : ∀ entry ∈ payload, entry.1 ≠ field) : values.given field = none := by
  by_contra given
  obtain ⟨cell, given⟩ := Option.ne_none_iff_exists'.mp given
  obtain ⟨entry, member, name, -⟩ := payloadValues_coerced taken given
  exact absent entry member name

end Coercion

def validateReferences (store : Store Model) (auth : AuthContext) (values : Values) :
    List (String × Model) → Except Failure Unit
  | [] => .ok ()
  | (field, target) :: rest =>
      match (values.given field).bind keyOf with
      | none => validateReferences store auth values rest
      | some id =>
          if ((store target).find id).any fun row => row.tenantId = some auth.tenantId then
            validateReferences store auth values rest
          else .error (.http 422 s!"Invalid workspace reference for {field}")

theorem validateReferences_spec {store : Store Model} {auth : AuthContext} {values : Values}
    {references : List (String × Model)} (valid : validateReferences store auth values references = .ok ())
    {field : String} {target : Model} (member : (field, target) ∈ references) {id : String}
    (given : (values.given field).bind keyOf = some id) :
    ∃ row, (store target).find id = some row ∧ row.tenantId = some auth.tenantId := by
  induction references with
  | nil => cases member
  | cons reference rest ih =>
    unfold validateReferences at valid
    rcases List.mem_cons.mp member with rfl | later
    · rw [given] at valid
      dsimp only at valid
      split at valid
      · next held => simpa [Option.any_eq_true] using held
      · cases valid
    · split at valid
      · exact ih valid later
      · split at valid
        · exact ih valid later
        · cases valid

def recordForWorkspace (store : Store Model) (auth : AuthContext) (config : RecordConfig) (recordId : String) :
    Except Failure Row :=
  match ((store config.model).find recordId).filter (Row.ownedBy (some auth.tenantId)) with
  | some row => .ok row
  | none => .error (.http 404 "Record not found")

theorem recordForWorkspace_eq_ok {store : Store Model} {auth : AuthContext} {config : RecordConfig} {recordId : String}
    {row : Row} : recordForWorkspace store auth config recordId = .ok row ↔
      (store config.model).find recordId = some row ∧ row.tenantId = some auth.tenantId := by
  rw [← Row.ownedBy_iff, ← Option.filter_eq_some_iff, recordForWorkspace]
  split
  · next found => rw [found, Except.ok.injEq, Option.some.injEq]
  · next missing => simp [missing]

/-- `model(**values)`, as an insert completes it. A default also takes the place of a null. -/
def newRow (drawn : Drawn) (tenantId : String) (model : Model) (values : Values) : Row where
  id := drawn.id
  tenantId := some tenantId
  keyed := drawn.id.2
  cells column :=
    match columnOf model column with
    | none => .null
    | some declared =>
        match values.given column with
        | none | some .null => declared.initially drawn.now
        | some cell => cell

theorem newRow_initially {drawn : Drawn} {tenantId : String} {model : Model} {values : Values} {column : String}
    (absent : values.given column = none) : (newRow drawn tenantId model values).cells column =
      ((columnOf model column).map fun declared => declared.initially drawn.now).getD .null := by
  simp only [newRow, absent]
  cases columnOf model column <;> rfl

theorem newRow_written {drawn : Drawn} {tenantId : String} {model : Model} {values : Values} {column : String} {cell : Cell}
    {declared : Column} (known : columnOf model column = some declared) (given : values.given column = some cell) :
    (newRow drawn tenantId model values).cells column = if cell = .null then declared.initially drawn.now else cell := by
  simp only [newRow, known, given]
  cases cell <;> rfl

def sameCell : Cell → Cell → Bool
  | .float x, .float y => x.same y
  | x, y => x = y

/-- A row as an update leaves it: `updated_at` moves when something else does. -/
def amended (now : Int) (model : Model) (row : Row) (values : Values) : Row :=
  if hasColumn model "updated_at" && values.any fun entry => !sameCell (row.cells entry.1) entry.2 then
    (row.assign values).assign [("updated_at", .moment now)]
  else row.assign values

def revise (now : Int) (model : Model) (row : Row) (values : Values) (store : Store Model) : Option (Store Model) :=
  Store.update schema model (amended now model row values) store

section Amended
variable {now : Int} {model : Model} {row : Row} {values : Values} {column : String}

@[simp] theorem amended_id : (amended now model row values).id = row.id := by
  unfold amended
  split <;> rfl

@[simp] theorem amended_tenantId : (amended now model row values).tenantId = row.tenantId := by
  unfold amended
  split <;> rfl

theorem amended_cells (other : column ≠ "updated_at") :
    (amended now model row values).cells column = (row.assign values).cells column := by
  unfold amended
  split
  · exact Row.assign_cells (by simp [Values.given, other.symm])
  · rfl

end Amended

def serializeValue : Cell → Json
  | .null => .null
  | .text value => .str value
  | .integer value => .int value
  | .float value => .float value
  | .boolean value => .bool value
  | .moment value => .str (isoformat value)

def systemKeys (config : RecordConfig) : List String :=
  ["created_at", "updated_at", "opened_at", "stage_changed_at"].filter fun key =>
    hasColumn config.model key && !config.fields.contains key

def serializeRecord (row : Row) (config : RecordConfig) : Json :=
  .obj (("id", .str row.id) :: (config.fields ++ systemKeys config).map fun key => (key, serializeValue (row.cells key)))

def spoken (entity : String) : String := replaceChar '-' " " entity

end Operly.Workspace.Records
