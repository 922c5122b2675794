import Operly.Python.Casing
import Operly.Relational.Dependencies
import Operly.Workspace.Authority

/-! The modules of a workspace: which are on, and how a request turns one on with all that it depends on, or
off when nothing depends on it. -/

namespace Operly.Workspace.Modules
open Python Relational Dependencies

/-- An entry of `MODULE_CATALOG`. -/
structure Manifest where
  name : String
  defaultEnabled : Bool
  locked : Bool
  dependencies : List String
  deriving DecidableEq

/-- An entry of `WORKSPACE_PRESETS`. -/
structure Preset where
  name : String
  description : String
  modules : List String
  deriving DecidableEq

def keyOf (text : String) : String := lower (strip text)

/-- Modules by the keys that `module_manifest` looks up; they name each other by these. -/
structure Catalog where
  modules : List (String × Manifest)
  distinct : (modules.map (·.1)).Nodup
  named : ∀ entry ∈ modules, keyOf entry.1 = entry.1 ∧
    ∀ dependency ∈ entry.2.dependencies, keyOf dependency = dependency

namespace Catalog
variable (catalog : Catalog)

def find (key : String) : Option Manifest := (catalog.modules.find? (·.1 = key)).map (·.2)

def needs (key dependency : String) : Prop :=
  ∃ manifest, catalog.find key = some manifest ∧ dependency ∈ manifest.dependencies

def initiallyOn (key : String) : Prop :=
  ∃ manifest, catalog.find key = some manifest ∧ (manifest.locked || manifest.defaultEnabled) = true

def Grounded : Prop := Closed catalog.needs {key | catalog.initiallyOn key}

def moduleManifest (moduleKey : String) : Except String (String × Manifest) :=
  match catalog.find (keyOf moduleKey) with
  | some manifest => .ok (keyOf moduleKey, manifest)
  | none => .error s!"Unknown workspace module: {moduleKey}"

end Catalog

def presetManifest (presets : List (String × Preset)) (presetKey : String) : Except String (String × Preset) :=
  match presets.find? (·.1 = keyOf presetKey) with
  | some entry => .ok (keyOf presetKey, entry.2)
  | none => .error s!"Unknown workspace preset: {presetKey}"

/-! ### The rows -/

structure WorkspaceModule where
  id : String
  tenantId : String
  moduleKey : String
  enabled : Bool
  state : String
  /-- the value of `configuration_json` -/
  configuration : Json
  activatedByUserId : Option String
  activatedAt : Option Int
  disabledAt : Option Int
  deriving DecidableEq

/-- `uq_workspace_module_tenant_key` -/
def WorkspaceModule.key (row : WorkspaceModule) : String × String := (row.tenantId, row.moduleKey)

abbrev Rows := Table WorkspaceModule (String × String) WorkspaceModule.key

structure Database where
  modules : Rows
  activities : List ActivityEvent

inductive Failure where
  | http (status : Nat) (detail : String)
  | value (message : String)
  /-- an uncaught `KeyError` -/
  | key (message : String)
  | recursion
  deriving DecidableEq

structure Caller where
  auth : AuthContext
  can : String → Bool
  drawn : String → String
  now : Int
  repr : String → String

def moduleRow (rows : Rows) (tenantId key : String) : Option WorkspaceModule := rows.find (tenantId, key)

section Requests
variable (catalog : Catalog) (presets : List (String × Preset)) (caller : Caller)

def moduleEnabled (rows : Rows) (tenantId key : String) : Except String Bool := do
  let (_, manifest) ← catalog.moduleManifest key
  if manifest.locked then return true
  match moduleRow rows tenantId key with
  | none => return manifest.defaultEnabled
  | some row => return row.enabled

/-- `WorkspaceModule(tenant_id=..., module_key=...)` -/
def newModule (key : String) : WorkspaceModule :=
  { id := caller.drawn key, tenantId := caller.auth.tenantId, moduleKey := key, enabled := true, state := "active"
    configuration := .obj [], activatedByUserId := none, activatedAt := none, disabledAt := none }

def switched (enabled : Bool) (configuration : Option Fields) (row : WorkspaceModule) : WorkspaceModule :=
  { row with
    enabled := enabled
    state := if enabled then "active" else "disabled"
    activatedByUserId := if enabled then some caller.auth.user.id else row.activatedByUserId
    activatedAt := if enabled then some caller.now else row.activatedAt
    disabledAt := if enabled then none else some caller.now
    configuration := (configuration.map fun fields => (Json.obj fields).sortKeys).getD row.configuration }

def upsertModule (key : String) (enabled : Bool) (configuration : Option Fields) (rows : Rows) : Rows :=
  match moduleRow rows caller.auth.tenantId key with
  | none => rows.insert (switched caller enabled configuration (newModule caller key))
  | some row => rows.replace (switched caller enabled configuration row)

/-- A loop whose body may raise. What it has written by then stays in the session. -/
def each (body : String → Rows → Except Failure Unit × Rows) : List String → Rows → Except Failure Unit × Rows
  | [], rows => (.ok (), rows)
  | key :: rest, rows =>
      match body key rows with
      | (.ok (), rows) => each body rest rows
      | (.error error, rows) => (.error error, rows)

/-- `_enable_with_dependencies`, to a depth -/
def enableTo : Nat → String → Rows → Except Failure Unit × Rows
  | 0, _, rows => (.error .recursion, rows)
  | depth + 1, key, rows =>
      match catalog.moduleManifest key with
      | .error message => (.error (.key message), rows)
      | .ok (_, manifest) =>
          match each (enableTo depth) manifest.dependencies rows with
          | (.ok (), rows) => (.ok (), upsertModule caller key true none rows)
          | (.error error, rows) => (.error error, rows)

/-- `_enable_with_dependencies`. No chain of dependencies is longer than there are modules. -/
def enableWithDependencies (key : String) (rows : Rows) : Except Failure Unit × Rows :=
  enableTo catalog caller (catalog.modules.length + 1) key rows

def blocking (rows : Rows) (tenantId key : String) : List (String × Manifest) → Except String (List (String × Manifest))
  | [] => .ok []
  | candidate :: rest => do
      let depends ←
        if candidate.2.dependencies.contains key then moduleEnabled catalog rows tenantId candidate.1 else .ok false
      let others ← blocking rows tenantId key rest
      return if depends then candidate :: others else others

def dependentsMessage (names : List String) : String :=
  "Disable dependent modules first: " ++ ", ".intercalate (names.insertionSort (· ≤ ·))

def disable (refusal : String → Failure) (label : String × Manifest → String) (key : String) (configuration : Fields)
    (rows : Rows) : Except Failure Unit × Rows :=
  match blocking catalog rows caller.auth.tenantId key catalog.modules with
  | .error message => (.error (.key message), rows)
  | .ok [] => (.ok (), upsertModule caller key false (some configuration) rows)
  | .ok blockers => (.error (refusal (dependentsMessage (blockers.map label))), rows)

/-- `row.configuration_json = json.dumps(configuration, sort_keys=True)`, where there is a row -/
def configure (key : String) (configuration : Fields) (rows : Rows) : Rows :=
  match moduleRow rows caller.auth.tenantId key with
  | none => rows
  | some row => rows.replace { row with configuration := (Json.obj configuration).sortKeys }

def switchedSummary (enabled : Bool) (manifest : Manifest) : String :=
  (if enabled then "Enabled " else "Disabled ") ++ manifest.name

def setModuleState (moduleKey : String) (enabled : Bool) (configuration : Fields) (db : Database) :
    Except Failure Json × Database :=
  if !caller.can "workspace:modules:manage" then (.error (.http 403 "Workspace permission denied"), db)
  else match catalog.moduleManifest moduleKey with
    | .error message => (.error (.http 404 (caller.repr message)), db)
    | .ok (key, manifest) =>
        if manifest.locked && !enabled then (.error (.http 409 "Core workspace modules cannot be disabled"), db)
        else
          match if enabled then enableWithDependencies catalog caller key db.modules
            else disable catalog caller (.http 409) (·.2.name) key configuration db.modules with
          | (.error error, rows) => (.error error, { db with modules := rows })
          | (.ok (), rows) =>
              let rows := if enabled then configure caller key configuration rows else rows
              let row := moduleRow rows caller.auth.tenantId key
              (.ok (.obj [("ok", .bool true), ("key", .str key),
                  ("enabled", .bool ((row.map (·.enabled)).getD enabled)),
                  ("state", .str ((row.map (·.state)).getD "active")),
                  ("configuration", (row.map (·.configuration)).getD (.obj configuration))]),
                ⟨rows, db.activities ++ [activity caller.auth "updated" "workspace_module" (row.map (·.id))
                  (switchedSummary enabled manifest)]⟩)

def moduleSet (moduleKey : String) (enabled : Bool) (configuration : Option Fields) (db : Database) :
    Except Failure Json × Database :=
  let key := keyOf moduleKey
  match catalog.moduleManifest key with
  | .error _ => (.error (.value "Unknown workspace module"), db)
  | .ok (_, manifest) =>
      let configuration := configuration.getD []
      if manifest.locked && !enabled then (.error (.value "Core workspace modules cannot be disabled"), db)
      else
        match if enabled then enableWithDependencies catalog caller key db.modules
          else disable catalog caller .value (fun entry => if entry.2.name = "" then entry.1 else entry.2.name) key
            configuration db.modules with
        | (.error error, rows) => (.error error, { db with modules := rows })
        | (.ok (), rows) =>
            -- unlike the route, the capability keeps the configuration when it is given none
            let rows := if enabled && !configuration.isEmpty then configure caller key configuration rows else rows
            let row := moduleRow rows caller.auth.tenantId key
            (.ok (.obj [("key", .str key), ("enabled", .bool enabled),
                ("state", .str ((row.map (·.state)).getD (if enabled then "active" else "disabled")))]),
              ⟨rows, db.activities ++ [activity caller.auth "updated" "workspace_module" (row.map (·.id))
                (switchedSummary enabled manifest)]⟩)

def Preset.json (key : String) (preset : Preset) : Json :=
  .obj [("key", .str key), ("name", .str preset.name), ("description", .str preset.description),
    ("modules", .arr (preset.modules.map .str))]

def enablePreset (preset : Preset) (result : Json) (db : Database) : Except Failure Json × Database :=
  match each (enableWithDependencies catalog caller) preset.modules db.modules with
  | (.error error, rows) => (.error error, { db with modules := rows })
  | (.ok (), rows) => (.ok result, ⟨rows, db.activities ++ [activity caller.auth "updated" "workspace_preset" none
      s!"Applied {preset.name} workspace pack"]⟩)

def applyPreset (presetKey : String) (db : Database) : Except Failure Json × Database :=
  if !caller.can "workspace:modules:manage" then (.error (.http 403 "Workspace permission denied"), db)
  else match presetManifest presets presetKey with
    | .error message => (.error (.http 404 (caller.repr message)), db)
    | .ok (key, preset) =>
        enablePreset catalog caller preset (.obj [("ok", .bool true), ("preset", preset.json key),
          ("modules", .arr (preset.modules.map .str))]) db

def presetApply (presetKey : String) (db : Database) : Except Failure Json × Database :=
  match presetManifest presets (strip presetKey) with
  | .error _ => (.error (.value "Unknown workspace preset"), db)
  | .ok (key, preset) =>
      enablePreset catalog caller preset (.obj [("preset", preset.json key),
        ("modules", .arr (preset.modules.map .str))]) db

end Requests

/-! ### Looking things up -/

section Lookup
variable {catalog : Catalog} {caller : Caller} {rows : Rows} {tenantId key : String}

variable {manifest : Manifest}

theorem Catalog.mem_of_find (found : catalog.find key = some manifest) : (key, manifest) ∈ catalog.modules := by
  obtain ⟨entry, present, rfl⟩ := Option.map_eq_some_iff.mp found
  have same : entry.1 = key := by simpa using List.find?_some present
  have pair : entry = (key, entry.2) := Prod.ext same rfl
  rw [← pair]
  exact List.mem_of_find?_eq_some present

theorem Catalog.find_of_mem (member : (key, manifest) ∈ catalog.modules) : catalog.find key = some manifest := by
  unfold Catalog.find
  cases found : catalog.modules.find? (·.1 = key) with
  | none => simpa using List.find?_eq_none.mp found (key, manifest) member
  | some entry =>
    have same : entry.1 = key := by simpa using List.find?_some found
    have equal := List.inj_on_of_nodup_map catalog.distinct (List.mem_of_find?_eq_some found) member same
    rw [equal]
    rfl

theorem Catalog.keyOf_of_find (found : catalog.find key = some manifest) : keyOf key = key :=
  (catalog.named _ (Catalog.mem_of_find found)).1

theorem Catalog.keyOf_of_needs {dependency : String} (needed : catalog.needs key dependency) :
    keyOf dependency = dependency := by
  obtain ⟨manifest, found, member⟩ := needed
  exact (catalog.named _ (Catalog.mem_of_find found)).2 dependency member

@[simp] theorem keyOf_keyOf (text : String) : keyOf (keyOf text) = keyOf text := by
  simp [keyOf]

theorem Catalog.moduleManifest_eq_ok {text : String} :
    catalog.moduleManifest text = .ok (key, manifest) ↔ keyOf text = key ∧ catalog.find key = some manifest := by
  unfold Catalog.moduleManifest
  constructor
  · intro looked
    cases found : catalog.find (keyOf text) with
    | none => simp [found] at looked
    | some held =>
      simp only [found, Except.ok.injEq, Prod.mk.injEq] at looked
      rw [← looked.1, ← looked.2]
      exact ⟨rfl, found⟩
  · intro known
    rw [known.1, known.2]

theorem Catalog.moduleManifest_of_find (found : catalog.find key = some manifest) :
    catalog.moduleManifest key = .ok (key, manifest) :=
  Catalog.moduleManifest_eq_ok.mpr ⟨Catalog.keyOf_of_find found, found⟩

def on (catalog : Catalog) (rows : Rows) (tenantId : String) : Set String :=
  {key | (catalog.find key).isSome ∧ moduleEnabled catalog rows tenantId key = .ok true}

def shown (row : Option WorkspaceModule) (manifest : Manifest) : Bool :=
  manifest.locked || (row.map (·.enabled)).getD manifest.defaultEnabled

theorem moduleEnabled_of_find (found : catalog.find key = some manifest) :
    moduleEnabled catalog rows tenantId key = .ok (shown (moduleRow rows tenantId key) manifest) := by
  rw [moduleEnabled, Catalog.moduleManifest_of_find found]
  cases locked : manifest.locked with
  | true => simp [shown, locked, bind, Except.bind, pure, Except.pure]
  | false =>
    cases moduleRow rows tenantId key with
    | none => simp [shown, locked, bind, Except.bind, pure, Except.pure]
    | some row => simp [shown, locked, bind, Except.bind, pure, Except.pure]

theorem mem_on (found : catalog.find key = some manifest) :
    key ∈ on catalog rows tenantId ↔ shown (moduleRow rows tenantId key) manifest = true := by
  simp [on, found, moduleEnabled_of_find found]

theorem mem_on_congr {rows' : Rows} (same : moduleRow rows' tenantId key = moduleRow rows tenantId key) :
    key ∈ on catalog rows' tenantId ↔ key ∈ on catalog rows tenantId := by
  cases found : catalog.find key with
  | none => simp [on, found]
  | some manifest => rw [mem_on found, mem_on found, same]

theorem mem_on_of_row {row : WorkspaceModule} (known : (catalog.find key).isSome)
    (present : moduleRow rows tenantId key = some row) (enabled : row.enabled = true) :
    key ∈ on catalog rows tenantId := by
  obtain ⟨manifest, found⟩ := Option.isSome_iff_exists.mp known
  rw [mem_on found, present]
  simp [shown, enabled]

theorem moduleRow_key {row : WorkspaceModule} (present : moduleRow rows tenantId key = some row) :
    row.key = (tenantId, key) := Table.find_key present

theorem find_upsertModule (enabled : Bool) (configuration : Option Fields) (other : String × String) :
    (upsertModule caller key enabled configuration rows).find other =
      if other = (caller.auth.tenantId, key) then
        some (switched caller enabled configuration
          ((moduleRow rows caller.auth.tenantId key).getD (newModule caller key)))
      else rows.find other := by
  unfold upsertModule
  split
  · next absent =>
    rw [absent, Table.find_insert]
    show (rows.find other).or (if other = (caller.auth.tenantId, key) then _ else none) = _
    split
    · next same =>
      rw [same, show rows.find (caller.auth.tenantId, key) = none from absent]
      rfl
    · simp
  · next row present =>
    have own : row.key = (caller.auth.tenantId, key) := moduleRow_key present
    have named : (switched caller enabled configuration row).key = (caller.auth.tenantId, key) := own
    rw [present, Table.find_replace, named]
    split
    · next same =>
      rw [same, show rows.find (caller.auth.tenantId, key) = some row from present]
      rfl
    · rfl

theorem find_configure (configuration : Fields) (other : String × String) :
    (configure caller key configuration rows).find other =
      if other = (caller.auth.tenantId, key) then
        (rows.find other).map fun row => { row with configuration := (Json.obj configuration).sortKeys }
      else rows.find other := by
  unfold configure
  split
  · next absent =>
    split
    · next same =>
      rw [same, show rows.find (caller.auth.tenantId, key) = none from absent]
      rfl
    · rfl
  · next row present =>
    have own : row.key = (caller.auth.tenantId, key) := moduleRow_key present
    have named : ({ row with configuration := (Json.obj configuration).sortKeys } : WorkspaceModule).key =
        (caller.auth.tenantId, key) := own
    rw [Table.find_replace, named]
    split
    · next same =>
      rw [same, show rows.find (caller.auth.tenantId, key) = some row from present]
      rfl
    · rfl

theorem on_configure (configuration : Fields) (tenant : String) :
    on catalog (configure caller key configuration rows) tenant = on catalog rows tenant := by
  ext other
  cases found : catalog.find other with
  | none => simp [on, found]
  | some manifest =>
    rw [mem_on found, mem_on found, moduleRow, moduleRow, find_configure]
    split
    · simp [shown, Function.comp_def]
    · rfl

end Lookup

end Operly.Workspace.Modules
