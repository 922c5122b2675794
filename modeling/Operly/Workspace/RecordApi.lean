import Operly.Workspace.Derived

/-! The record requests of a workspace: the routes of the web interface, and the capabilities that stand for
them. A request that fails leaves the database as it was. -/

namespace Operly.Workspace.Records
open Python Relational

def flushed (result : Option (Store Model)) : Except Failure (Store Model) :=
  match result with
  | some store => .ok store
  | none => .error .integrity

def Database.record (db : Database) (store : Store Model) (event : ActivityEvent) : Database :=
  { db with store := store, activities := db.activities ++ [event] }

/-! ### Lists -/

structure ListQuery where
  q : String
  status : String
  limit : Nat
  offset : Nat
  sort : String
  ascending : Bool

/-- `getattr(model, field)` of a row -/
def attributeOf (row : Row) (field : String) : Cell :=
  if field = "id" then .text row.id
  else if field = "tenant_id" then (row.tenantId.map Cell.text).getD .null
  else row.cells field

def searchable (config : RecordConfig) : List String :=
  config.searchFields.filter fun field =>
    match (columnOf config.model field).map Column.type with
    | some .text | some (.string _) => true
    | _ => false

/-- `_searchable_clause`; nothing to search in means no clause. -/
def searchableClause (engine : Engine) (config : RecordConfig) (q : String) (row : Row) : Bool :=
  (searchable config).isEmpty || (searchable config).any fun field =>
    match row.cells field with
    | .text value => engine.ilike ("%" ++ strip q ++ "%") value
    | _ => false

def criteria (engine : Engine) (config : RecordConfig) (tenantId : String) (query : ListQuery) (row : Row) : Bool :=
  row.tenantId = some tenantId && (query.q = "" || searchableClause engine config query.q row) &&
    (query.status = "" || !hasColumn config.model "status" || row.cells "status" = .text query.status)

/-- `ORDER BY`, where equal rows keep their order. -/
def ordered (engine : Engine) (query : ListQuery) (sortKey : String) (rows : List Row) : List Row :=
  rows.mergeSort fun row other =>
    if query.ascending then engine.atMost (attributeOf row sortKey) (attributeOf other sortKey)
    else engine.atMost (attributeOf other sortKey) (attributeOf row sortKey)

def selected (engine : Engine) (config : RecordConfig) (tenantId : String) (query : ListQuery) (sortKey : String)
    (store : Store Model) : List Row :=
  ((ordered engine query sortKey ((store config.model).select (criteria engine config tenantId query))).drop
    query.offset).take query.limit

def listing (engine : Engine) (auth : AuthContext) (config : RecordConfig) (query : ListQuery) (unsupported : Failure)
    (store : Store Model) : Except Failure Json :=
  let sortKey := if query.sort = "" then config.defaultSort else query.sort
  if sortKey = "id" ∨ sortKey = "tenant_id" ∨ hasColumn config.model sortKey then
    let rows := selected engine config auth.tenantId query sortKey store
    .ok (.obj [("items", .arr (rows.map fun row => serializeRecord row config)),
      ("total", .int ((store config.model).select (criteria engine config auth.tenantId query)).length),
      ("limit", .int query.limit), ("offset", .int query.offset)])
  else .error (if engine.classAttribute sortKey then .uncaught else unsupported)

section Mutations
variable [Floats] (engine : Engine) (drawn : Drawn) (auth : AuthContext) (entity : String) (config : RecordConfig)

def ownedValues (values : Values) : Values :=
  if config.model = .task then values ++ [("owner_user_id", .null)] else values

def create (payload : Fields) (db : Database) : Except Failure (Row × Database) := do
  let values ← payloadValues engine.spelling config payload false
  validateReferences db.store auth values config.references
  let row := newRow drawn auth.tenantId config.model (ownedValues config values)
  let inserted ← flushed (Store.insert schema config.model row db.store)
  let store ← flushed (afterRecordMutation drawn.now auth.tenantId config.model row .null inserted)
  return (row, db.record store
    (activity auth "created" entity (some row.id) s!"Created {spoken entity} record"))

def stagedValues (noted : Bool) (values : Values) : Values :=
  if noted && (values.given "stage").isSome then values ++ [("stage_changed_at", .moment drawn.now)] else values

def update (noted : Bool) (recordId : String) (payload : Fields) (db : Database) :
    Except Failure (Row × Database) := do
  let row ← recordForWorkspace db.store auth config recordId
  let values ← payloadValues engine.spelling config payload true
  validateReferences db.store auth values config.references
  let changed := amended drawn.now config.model row (stagedValues drawn noted values)
  let updated ← flushed (Store.update schema config.model changed db.store)
  let store ← flushed (afterRecordMutation drawn.now auth.tenantId config.model changed
    (parentOf config.model row) updated)
  return (changed, db.record store
    (activity auth "updated" entity (some recordId) s!"Updated {spoken entity} record"))

def delete (recordId : String) (db : Database) : Except Failure (Row × Database) := do
  let row ← recordForWorkspace db.store auth config recordId
  let deleted ← flushed (Store.delete schema config.model row.id db.store)
  let store ← flushed (refreshParent drawn.now auth.tenantId config.model (parentOf config.model row) deleted)
  return (row, db.record store
    (activity auth "deleted" entity (some recordId) s!"Deleted {spoken entity} record"))

end Mutations

def reported (conflict : Failure) : Failure → Failure
  | .integrity => conflict
  | failure => failure

def routed (entity : String) (writes : Bool) : Except Failure RecordConfig :=
  match RecordConfig.find entity with
  | none => .error (.http 404 "Unknown business record type")
  | some config =>
      if writes && !config.mutable then .error (.http 405 "This record type is read-only from the business workspace")
      else .ok config

inductive Request where
  | list (query : ListQuery)
  | create (payload : Fields)
  | update (recordId : String) (payload : Fields)
  | delete (recordId : String)

section Routes
variable [Floats] (engine : Engine) (drawn : Drawn) (auth : AuthContext) (entity : String)

def listRecords (query : ListQuery) (db : Database) : Except Failure Json := do
  let config ← routed entity false
  requireModule db auth config.module config.readPermission
  listing engine auth config query (.http 422 "Unsupported sort field") db.store

def createRecord (payload : Fields) (db : Database) : Except Failure (Json × Database) := do
  let config ← routed entity true
  requireModule db auth config.module config.writePermission
  let (row, db) ← (create engine drawn auth entity config payload db).mapError
    (reported (.http 409 "A record with that unique identifier already exists"))
  return (serializeRecord row config, db)

def updateRecord (recordId : String) (payload : Fields) (db : Database) : Except Failure (Json × Database) := do
  let config ← routed entity true
  requireModule db auth config.module config.writePermission
  let (row, db) ← (update engine drawn auth entity config (config.model = .lead) recordId payload db).mapError
    (reported (.http 409 "Update conflicts with an existing record"))
  return (serializeRecord row config, db)

def deleteRecord (recordId : String) (db : Database) : Except Failure (Json × Database) := do
  let config ← routed entity true
  requireModule db auth config.module config.writePermission
  let (_, db) ← (delete drawn auth entity config recordId db).mapError
    (reported (.http 409 "This record is still referenced by other workspace data"))
  return (.obj [("ok", .bool true)], db)

end Routes

/-! ### The capabilities -/

inductive Operation where
  | list
  | create
  | update
  | delete
  deriving DecidableEq

section Capabilities
variable [Floats] (engine : Engine) (drawn : Drawn) (auth : AuthContext) (entity : String) (config : RecordConfig)
  (arguments : Fields)

/-- `str(arguments.get(key) or "").strip()` -/
def argumentText (key : String) : String := strip ((Fields.getOr arguments key (.str "")).toStr engine.spelling)

/-- `int(arguments.get(key) or default)` -/
def argumentInt (key : String) (default : Int) : Except Failure Int :=
  match (Fields.getOr arguments key (.int default)).toInt with
  | .ok value => .ok value
  | .error _ => .error .uncaught

def capabilityList (db : Database) : Except Failure Json := do
  let limit ← argumentInt arguments "limit" 50
  let offset ← argumentInt arguments "offset" 0
  let query : ListQuery := {
    q := argumentText engine arguments "q"
    status := argumentText engine arguments "status"
    limit := (max 1 (min limit 200)).toNat
    offset := (max 0 offset).toNat
    sort := (Fields.getOr arguments "sort" (.str "")).toStr engine.spelling
    ascending := (Fields.getOr arguments "direction" (.str "desc")).toStr engine.spelling = "asc" }
  listing engine auth config query (.value "Unsupported sort field") db.store

def capabilityCreate (db : Database) : Except Failure (Json × Database) := do
  let (row, db) ← (create engine drawn auth entity config arguments db).mapError
    (reported (.value "A record with that unique identifier already exists"))
  return (serializeRecord row config, db)

/-- What `dict(arguments.get("changes") or {})` holds. -/
def changesOf : Fields :=
  match Fields.get arguments "changes" with
  | some (.obj changes) => changes
  | _ => []

def sought : Failure → Failure
  | .http 404 _ => .value "Record not found in the authorized workspace"
  | failure => failure

def capabilityUpdate (db : Database) : Except Failure (Json × Database) :=
  if (changesOf arguments).isEmpty then .error (.value "At least one field must be changed")
  else do
    let (row, db) ← (update engine drawn auth entity config (hasColumn config.model "stage_changed_at")
      (argumentText engine arguments "record_id") (changesOf arguments) db).mapError
      (sought ∘ reported (.value "Update conflicts with an existing record"))
    return (serializeRecord row config, db)

def capabilityDelete (db : Database) : Except Failure (Json × Database) := do
  let recordId := argumentText engine arguments "record_id"
  let (_, db) ← (delete drawn auth entity config recordId db).mapError
    (sought ∘ reported (.value "This record is still referenced by other workspace data"))
  return (.obj [("ok", .bool true), ("record_id", .str recordId)], db)

end Capabilities

def operationConfig (entity : String) (operation : Operation) : Except Failure RecordConfig :=
  match RecordConfig.find entity with
  | none => .error (.lookup "Workspace OS capability is not implemented")
  | some config =>
      if operation ≠ .list ∧ !config.mutable then .error (.lookup "Workspace OS capability is not implemented")
      else .ok config

def requireEnabled (db : Database) (tenantId key : String) : Except Failure Unit :=
  if moduleEnabled db tenantId key then .ok () else .error (.permission s!"Workspace module is disabled: {key}")

/-- `WorkspaceOSProvider.execute`, for a member of the workspace -/
def execute [Floats] (engine : Engine) (drawn : Drawn) (auth : AuthContext) (entity : String) (operation : Operation)
    (arguments : Fields) (db : Database) : Except Failure (Json × Database) := do
  let config ← operationConfig entity operation
  requireEnabled db auth.tenantId config.module
  match operation with
  | .list => (capabilityList engine auth config arguments db).map fun value => (value, db)
  | .create => capabilityCreate engine drawn auth entity config arguments db
  | .update => capabilityUpdate engine drawn auth entity config arguments db
  | .delete => capabilityDelete engine drawn auth entity config arguments db

inductive Call where
  | route (entity : String) (request : Request)
  | capability (entity : String) (operation : Operation) (arguments : Fields)

def handle [Floats] (engine : Engine) (drawn : Drawn) (auth : AuthContext) (call : Call) (db : Database) :
    Except Failure (Json × Database) :=
  match call with
  | .route entity (.list query) => (listRecords engine auth entity query db).map fun value => (value, db)
  | .route entity (.create payload) => createRecord engine drawn auth entity payload db
  | .route entity (.update recordId payload) => updateRecord engine drawn auth entity recordId payload db
  | .route entity (.delete recordId) => deleteRecord drawn auth entity recordId db
  | .capability entity operation arguments => execute engine drawn auth entity operation arguments db

/-! ### What a request has done -/

/-- What a call writes: the record type, the record if it is there already, and the payload. -/
def Call.writes (engine : Engine) : Call → Option (String × Option String × Fields)
  | .route entity (.create payload) => some (entity, none, payload)
  | .route entity (.update recordId payload) => some (entity, some recordId, payload)
  | .capability entity .create arguments => some (entity, none, arguments)
  | .capability entity .update arguments =>
      some (entity, some (argumentText engine arguments "record_id"), changesOf arguments)
  | _ => none

def Call.removes (engine : Engine) : Call → Option (String × String)
  | .route entity (.delete recordId) => some (entity, recordId)
  | .capability entity .delete arguments => some (entity, argumentText engine arguments "record_id")
  | _ => none

section Performed
variable {engine : Engine} {drawn : Drawn} {auth : AuthContext} {entity : String} {config : RecordConfig}
  {call : Call} {payload : Fields} {recordId : String} {noted : Bool} {row : Row} {db after : Database} {value : Json}

theorem flushed_eq_ok {result : Option (Store Model)} {store : Store Model} :
    flushed result = .ok store ↔ result = some store := by
  cases result <;> simp [flushed]

theorem ownedValues_given {values : Values} {column : String} (other : column ≠ "owner_user_id") :
    (ownedValues config values).given column = values.given column := by
  unfold ownedValues
  split
  · have absent : Values.given [("owner_user_id", .null)] column = none := by simpa [Values.given] using other.symm
    rw [Values.given_append, absent, Option.or_none]
  · rfl

theorem stagedValues_given {values : Values} {column : String} (other : column ≠ "stage_changed_at") :
    (stagedValues drawn noted values).given column = values.given column := by
  unfold stagedValues
  split
  · have absent : Values.given [("stage_changed_at", .moment drawn.now)] column = none := by
      simpa [Values.given] using other.symm
    rw [Values.given_append, absent, Option.or_none]
  · rfl

theorem find_mem (found : RecordConfig.find entity = some config) : (entity, config) ∈ entityRegistry := by
  rw [RecordConfig.find, Option.map_eq_some_iff] at found
  obtain ⟨entry, held, rfl⟩ := found
  have name : entry.1 = entity := by simpa using List.find?_some held
  rw [← name]
  exact List.mem_of_find?_eq_some held

theorem routed_mem {writes : Bool} (found : routed entity writes = .ok config) : (entity, config) ∈ entityRegistry := by
  unfold routed at found
  split at found
  · cases found
  · next held =>
    rw [check_eq_ok, Except.ok.injEq] at found
    rw [← found.2]
    exact find_mem held

theorem operationConfig_mem {operation : Operation} (found : operationConfig entity operation = .ok config) :
    (entity, config) ∈ entityRegistry := by
  unfold operationConfig at found
  split at found
  · cases found
  · next held =>
    rw [check_eq_ok, Except.ok.injEq] at found
    rw [← found.2]
    exact find_mem held

variable [Floats]

theorem create_eq_ok : create engine drawn auth entity config payload db = .ok (row, after) ↔
    ∃ values inserted store, payloadValues engine.spelling config payload false = .ok values ∧
      validateReferences db.store auth values config.references = .ok () ∧
      newRow drawn auth.tenantId config.model (ownedValues config values) = row ∧
      Store.insert schema config.model row db.store = some inserted ∧
      afterRecordMutation drawn.now auth.tenantId config.model row .null inserted = some store ∧
      db.record store (activity auth "created" entity (some row.id) s!"Created {spoken entity} record") = after := by
  simp only [create, bind_eq_ok, pure_eq_ok, flushed_eq_ok, Prod.mk.injEq]
  constructor
  · rintro ⟨values, taken, _, valid, inserted, written, store, refreshed, rfl, rfl⟩
    exact ⟨values, inserted, store, taken, valid, rfl, written, refreshed, rfl⟩
  · rintro ⟨values, inserted, store, taken, valid, rfl, written, refreshed, rfl⟩
    exact ⟨values, taken, (), valid, inserted, written, store, refreshed, rfl, rfl⟩

theorem update_eq_ok : update engine drawn auth entity config noted recordId payload db = .ok (row, after) ↔
    ∃ old values updated store, (db.store config.model).find recordId = some old ∧
      old.tenantId = some auth.tenantId ∧ payloadValues engine.spelling config payload true = .ok values ∧
      validateReferences db.store auth values config.references = .ok () ∧
      amended drawn.now config.model old (stagedValues drawn noted values) = row ∧
      Store.update schema config.model row db.store = some updated ∧
      afterRecordMutation drawn.now auth.tenantId config.model row (parentOf config.model old) updated = some store ∧
      db.record store (activity auth "updated" entity (some recordId) s!"Updated {spoken entity} record") = after := by
  simp only [update, bind_eq_ok, pure_eq_ok, flushed_eq_ok, Prod.mk.injEq, recordForWorkspace_eq_ok]
  constructor
  · rintro ⟨old, ⟨found, own⟩, values, taken, _, valid, updated, written, store, refreshed, rfl, rfl⟩
    exact ⟨old, values, updated, store, found, own, taken, valid, rfl, written, refreshed, rfl⟩
  · rintro ⟨old, values, updated, store, found, own, taken, valid, rfl, written, refreshed, rfl⟩
    exact ⟨old, ⟨found, own⟩, values, taken, (), valid, updated, written, store, refreshed, rfl, rfl⟩

theorem delete_eq_ok : delete drawn auth entity config recordId db = .ok (row, after) ↔
    ∃ deleted store, (db.store config.model).find recordId = some row ∧ row.tenantId = some auth.tenantId ∧
      Store.delete schema config.model row.id db.store = some deleted ∧
      refreshParent drawn.now auth.tenantId config.model (parentOf config.model row) deleted = some store ∧
      db.record store (activity auth "deleted" entity (some recordId) s!"Deleted {spoken entity} record") = after := by
  simp only [delete, bind_eq_ok, pure_eq_ok, flushed_eq_ok, Prod.mk.injEq, recordForWorkspace_eq_ok]
  constructor
  · rintro ⟨old, ⟨found, own⟩, deleted, written, store, refreshed, rfl, rfl⟩
    exact ⟨deleted, store, found, own, written, refreshed, rfl⟩
  · rintro ⟨deleted, store, found, own, written, refreshed, rfl⟩
    exact ⟨row, ⟨found, own⟩, deleted, written, store, refreshed, rfl, rfl⟩

/-- What a call has done to the database, by the request that did it. -/
inductive Performed (engine : Engine) (drawn : Drawn) (auth : AuthContext) (call : Call) (db : Database) :
    Json → Database → Prop
  | listed (value : Json) : Performed engine drawn auth call db value db
  | created {entity : String} {config : RecordConfig} {payload : Fields} {row : Row} {after : Database}
      (known : (entity, config) ∈ entityRegistry) (writes : call.writes engine = some (entity, none, payload))
      (done : create engine drawn auth entity config payload db = .ok (row, after)) :
      Performed engine drawn auth call db (serializeRecord row config) after
  | updated {entity recordId : String} {config : RecordConfig} {payload : Fields} {noted : Bool} {row : Row}
      {after : Database} (known : (entity, config) ∈ entityRegistry)
      (writes : call.writes engine = some (entity, some recordId, payload))
      (done : update engine drawn auth entity config noted recordId payload db = .ok (row, after)) :
      Performed engine drawn auth call db (serializeRecord row config) after
  | deleted {entity recordId : String} {config : RecordConfig} {row : Row} {after : Database} (value : Json)
      (known : (entity, config) ∈ entityRegistry) (removes : call.removes engine = some (entity, recordId))
      (done : delete drawn auth entity config recordId db = .ok (row, after)) :
      Performed engine drawn auth call db value after

theorem performed_route {request : Request} (done : handle engine drawn auth (.route entity request) db = .ok (value, after)) :
    Performed engine drawn auth (.route entity request) db value after := by
  cases request with
  | list query =>
    obtain ⟨listed, -, same⟩ := map_eq_ok.mp done
    cases same
    exact .listed value
  | create payload =>
    obtain ⟨config, routed, rest⟩ := bind_eq_ok.mp done
    obtain ⟨_, -, rest⟩ := bind_eq_ok.mp rest
    obtain ⟨⟨row, db'⟩, written, same⟩ := bind_eq_ok.mp rest
    cases pure_eq_ok.mp same
    exact .created (routed_mem routed) rfl (mapError_eq_ok.mp written)
  | update recordId payload =>
    obtain ⟨config, routed, rest⟩ := bind_eq_ok.mp done
    obtain ⟨_, -, rest⟩ := bind_eq_ok.mp rest
    obtain ⟨⟨row, db'⟩, written, same⟩ := bind_eq_ok.mp rest
    cases pure_eq_ok.mp same
    exact .updated (routed_mem routed) rfl (mapError_eq_ok.mp written)
  | delete recordId =>
    obtain ⟨config, routed, rest⟩ := bind_eq_ok.mp done
    obtain ⟨_, -, rest⟩ := bind_eq_ok.mp rest
    obtain ⟨⟨row, db'⟩, written, same⟩ := bind_eq_ok.mp rest
    cases pure_eq_ok.mp same
    exact .deleted _ (routed_mem routed) rfl (mapError_eq_ok.mp written)

theorem performed_capability {operation : Operation} {arguments : Fields}
    (done : handle engine drawn auth (.capability entity operation arguments) db = .ok (value, after)) :
    Performed engine drawn auth (.capability entity operation arguments) db value after := by
  obtain ⟨config, known, rest⟩ := bind_eq_ok.mp done
  obtain ⟨_, -, rest⟩ := bind_eq_ok.mp rest
  cases operation with
  | list =>
    obtain ⟨listed, -, same⟩ := map_eq_ok.mp rest
    cases same
    exact .listed value
  | create =>
    obtain ⟨⟨row, db'⟩, written, same⟩ := bind_eq_ok.mp rest
    cases pure_eq_ok.mp same
    exact .created (operationConfig_mem known) rfl (mapError_eq_ok.mp written)
  | update =>
    dsimp only [capabilityUpdate] at rest
    rw [check_eq_ok] at rest
    obtain ⟨⟨row, db'⟩, written, same⟩ := bind_eq_ok.mp rest.2
    cases pure_eq_ok.mp same
    exact .updated (operationConfig_mem known) rfl (mapError_eq_ok.mp written)
  | delete =>
    obtain ⟨⟨row, db'⟩, written, same⟩ := bind_eq_ok.mp rest
    cases pure_eq_ok.mp same
    exact .deleted _ (operationConfig_mem known) rfl (mapError_eq_ok.mp written)

theorem handle_performed (done : handle engine drawn auth call db = .ok (value, after)) :
    Performed engine drawn auth call db value after := by
  cases call with
  | route entity request => exact performed_route done
  | capability entity operation arguments => exact performed_capability done

/-- The records as a request itself writes them, before anything is refreshed, and the parents that it names. -/
inductive Written (engine : Engine) (drawn : Drawn) (auth : AuthContext) (call : Call) (db : Database) :
    Model → List Cell → Store Model → Prop
  | created {entity : String} {config : RecordConfig} {payload : Fields} {values : Values} {store : Store Model}
      (known : (entity, config) ∈ entityRegistry) (writes : call.writes engine = some (entity, none, payload))
      (taken : payloadValues engine.spelling config payload false = .ok values)
      (inserted : Store.insert schema config.model
        (newRow drawn auth.tenantId config.model (ownedValues config values)) db.store = some store) :
      Written engine drawn auth call db config.model
        [.null, parentOf config.model (newRow drawn auth.tenantId config.model (ownedValues config values))] store
  | updated {entity recordId : String} {config : RecordConfig} {payload : Fields} {values : Values} {noted : Bool} {old : Row}
      {store : Store Model} (known : (entity, config) ∈ entityRegistry)
      (writes : call.writes engine = some (entity, some recordId, payload))
      (found : (db.store config.model).find recordId = some old) (own : old.tenantId = some auth.tenantId)
      (taken : payloadValues engine.spelling config payload true = .ok values)
      (written : Store.update schema config.model
        (amended drawn.now config.model old (stagedValues drawn noted values)) db.store = some store) :
      Written engine drawn auth call db config.model [parentOf config.model old,
        parentOf config.model (amended drawn.now config.model old (stagedValues drawn noted values))] store
  | deleted {entity recordId : String} {config : RecordConfig} {row : Row} {store : Store Model}
      (known : (entity, config) ∈ entityRegistry) (removes : call.removes engine = some (entity, recordId))
      (found : (db.store config.model).find recordId = some row) (own : row.tenantId = some auth.tenantId)
      (removed : Store.delete schema config.model row.id db.store = some store) :
      Written engine drawn auth call db config.model [parentOf config.model row] store

/-- What holds while parents are still to be refreshed holds of `after` when none is. -/
def Refreshes (now : Int) (tenantId : String) (model : Model) (parents : List Cell) (store after : Store Model) : Prop :=
  ∀ pending : List Cell → Store Model → Prop,
    (∀ id rest store after, pending (id :: rest) store → refreshParent now tenantId model id store = some after →
      pending rest after) →
    (∀ id, pending [id, id] store → pending [id] store) →
    (∀ row ∈ (store model).rows, model = .crmInteraction → touchLead now tenantId row store = some after → pending [] after) →
    pending parents store → pending [] after

theorem performed_written (performed : Performed engine drawn auth call db value after) : after = db ∨
    ∃ model parents store, Written engine drawn auth call db model parents store ∧
      Refreshes drawn.now auth.tenantId model parents store after.store := by
  cases performed with
  | listed value => exact .inl rfl
  | created known writes done =>
    obtain ⟨values, inserted, store, taken, -, rfl, written, refreshed, rfl⟩ := create_eq_ok.mp done
    refine .inr ⟨_, _, inserted, .created known writes taken written, ?_⟩
    intro pending refresh once lead
    exact afterRecordMutation_rule pending refreshed refresh once (lead _ ((Store.mem_insert written).mpr (.inr ⟨rfl, rfl⟩)))
  | updated known writes done =>
    obtain ⟨old, values, updated, store, found, own, taken, -, rfl, written, refreshed, rfl⟩ := update_eq_ok.mp done
    refine .inr ⟨_, _, updated, .updated known writes found own taken written, ?_⟩
    intro pending refresh once lead
    have itself := Table.find_of_mem (Table.find_mem found)
    exact afterRecordMutation_rule pending refreshed refresh once
      (lead _ (Store.mem_update_self written (by rw [amended_id]; exact itself)))
  | deleted value known removes done =>
    obtain ⟨deleted, store, found, own, written, refreshed, rfl⟩ := delete_eq_ok.mp done
    refine .inr ⟨_, _, deleted, .deleted known removes found own written, ?_⟩
    intro pending refresh _ _ before
    exact refresh _ _ _ _ before refreshed

end Performed

end Operly.Workspace.Records
