import Operly.Workspace.RecordApi

/-! Workspace isolation of the record requests: none shows or changes a row of another workspace. -/

namespace Operly.Workspace.Records
open Python Relational

theorem references_cover : ∀ entry ∈ entityRegistry, ∀ key ∈ foreignKeys entry.2.model,
    key.field ∈ entry.2.fields → (key.field, key.target) ∈ entry.2.references := by decide

theorem foreignKey_initial : ∀ model, ∀ key ∈ foreignKeys model,
    (columnOf model key.field).map Column.initial = some .nothing := by decide

def derivedColumns : List String :=
  ["updated_at", "stage_changed_at", "subtotal", "tax", "total", "status", "paid_at", "last_activity_at",
    "last_contacted_at", "next_action_at", "stock_qty"]

theorem foreignKey_underived : ∀ model, ∀ key ∈ foreignKeys model, key.field ∉ derivedColumns := by decide

section Rows
variable {store : Store Model} {model : Model} {row : Row} {values : Values} {now : Int} {tenantId : String}

theorem vetted_amended (isolated : Store.Isolated schema store) (member : row ∈ (store model).rows)
    (valid : ∀ key ∈ foreignKeys model, ∀ id target, values.given key.field = some (.text id) →
      (store key.target).find id = some target → target.tenantId = row.tenantId) :
    Store.Vetted schema store model (amended now model row values) := by
  intro key known id target held found
  have plain : key.field ≠ "updated_at" := by
    intro same
    exact foreignKey_underived model key known (by rw [same]; decide)
  rw [amended_cells plain] at held
  rw [amended_tenantId]
  cases given : values.given key.field with
  | none =>
    rw [Row.assign_cells given] at held
    exact isolated.vetted member key known id target held found
  | some cell =>
    rw [Row.assign_given given] at held
    subst held
    exact valid key known id target given found

theorem given_derived (derived : ∀ entry ∈ values, entry.1 ∈ derivedColumns) :
    ∀ key ∈ foreignKeys model, values.given key.field = none := by
  intro key known
  rw [Values.given_eq_none]
  intro entry member same
  exact foreignKey_underived model key known (same ▸ derived entry member)

theorem confined_revise (isolated : Store.Isolated schema store) (found : (store model).find row.id = some row)
    (own : row.tenantId = some tenantId) (derived : ∀ entry ∈ values, entry.1 ∈ derivedColumns) :
    Store.Confined schema (some tenantId) (revise now model row values) store := by
  have found' : (store model).find (amended now model row values).id = some row := by rwa [amended_id]
  apply Store.confined_update isolated found'
  · rwa [amended_tenantId]
  · exact own
  · apply vetted_amended isolated (Table.find_mem found)
    intro key known id target given
    rw [given_derived derived key known] at given
    cases given

theorem ownedRow_only {id : Cell} :
    ownedRow tenantId model id (Store.only (some tenantId) store) = ownedRow tenantId model id store := by
  simp only [ownedRow, Store.find_only, Option.filter_filter, Bool.and_self]

theorem linesOf_only {tally : Tally} {parentId : String} :
    linesOf tally (Store.only (some tenantId) store) tenantId parentId = linesOf tally store tenantId parentId := by
  simp only [linesOf, Store.only, Table.keep, Table.select, List.filter_filter]
  apply List.filter_congr
  intro row _
  simp only [Row.ownedBy]
  cases decide (row.tenantId = some tenantId) <;> simp

theorem receipts_only [Floats] {invoiceId : String} :
    receipts (Store.only (some tenantId) store) tenantId invoiceId = receipts store tenantId invoiceId := by
  simp only [receipts, Store.only, Table.keep, Table.select, List.filter_filter]
  congr 1
  apply List.filter_congr
  intro row _
  simp only [countsFor, Row.ownedBy]
  cases decide (row.tenantId = some tenantId) <;> simp

theorem received_only [Floats] {invoiceId : String} :
    received (Store.only (some tenantId) store) tenantId invoiceId = received store tenantId invoiceId := by
  rw [received, receipts_only, received]

end Rows

/-! ### What is refreshed -/

section Refreshed
variable {store : Store Model} {model : Model} {tenantId : String}

theorem Confined.congr {step step' : Store Model → Option (Store Model)}
    (confined : Store.Confined schema (some tenantId) step store) (here : step' store = step store)
    (there : step' (Store.only (some tenantId) store) = step (Store.only (some tenantId) store)) :
    Store.Confined schema (some tenantId) step' store where
  alone := by rw [here, there, confined.alone]
  isolated after done := confined.isolated after (here ▸ done)
  others after done := confined.others after (here ▸ done)

theorem confined_found (isolated : Store.Isolated schema store) (now : Int) (id : Cell)
    {step : Store Model → Option (Store Model)} (values : Store Model → Row → Values)
    (shape : ∀ store, step store = match ownedRow tenantId model id store with
      | some row => revise now model row (values store row) store
      | none => some store) (same : ∀ row, values (Store.only (some tenantId) store) row = values store row)
    (derived : ∀ row, ∀ entry ∈ values store row, entry.1 ∈ derivedColumns) :
    Store.Confined schema (some tenantId) step store := by
  cases found : ownedRow tenantId model id store with
  | none =>
    apply Confined.congr (Store.confined_some isolated)
    · rw [shape, found]
    · rw [shape, ownedRow_only, found]
  | some row =>
    obtain ⟨-, held, own⟩ := ownedRow_spec found
    apply Confined.congr (confined_revise isolated held own (derived row))
    · rw [shape, found]
    · rw [shape, ownedRow_only, found]
      simp only [same]

theorem derived_of_names {values : Values} (names : List String) (same : values.map (·.1) = names)
    (derived : ∀ name ∈ names, name ∈ derivedColumns) : ∀ entry ∈ values, entry.1 ∈ derivedColumns := by
  intro entry member
  exact derived entry.1 (same ▸ List.mem_map_of_mem member)

theorem tally_derived [Floats] {tally : Tally} (of : tallyOf model = some tally) (parent : Row) (lines : List Figures) :
    ∀ entry ∈ tally.amounts parent lines, entry.1 ∈ derivedColumns := by
  cases model
  case orderItem =>
    cases of
    exact derived_of_names ["total"] rfl (by decide)
  case quoteItem =>
    cases of
    exact derived_of_names ["total"] rfl (by decide)
  case purchaseOrderItem =>
    cases of
    exact derived_of_names ["subtotal", "total"] rfl (by decide)
  case invoiceItem =>
    cases of
    exact derived_of_names ["subtotal", "tax", "total"] rfl (by decide)
  all_goals cases of

theorem confined_recalculateParent [Floats] (isolated : Store.Isolated schema store) (now : Int) (parentId : Cell) :
    Store.Confined schema (some tenantId) (recalculateParent now tenantId model parentId) store := by
  cases of : tallyOf model with
  | none =>
    apply Confined.congr (Store.confined_some isolated)
    · simp only [recalculateParent, of]
    · simp only [recalculateParent, of]
  | some tally =>
    apply confined_found isolated now parentId (fun store parent => recalculated tally store tenantId parent)
    · intro store
      simp only [recalculateParent, of, recalculate]
      cases ownedRow tenantId tally.parent parentId store <;> rfl
    · intro row
      simp only [recalculated, linesOf_only]
    · exact fun row => tally_derived of row _

theorem syncedState_names [Floats] (now : Int) (invoice : Row) (paid : Double) :
    ∀ entry ∈ syncedState now invoice paid, entry.1 ∈ ["status", "paid_at"] := by
  unfold syncedState
  split
  · simp
  · split
    · simp
    · simp

theorem contacted_names (now : Int) (interaction : Row) :
    ∀ entry ∈ contacted now interaction, entry.1 ∈ ["last_activity_at", "last_contacted_at", "next_action_at"] := by
  refine List.forall_mem_append.mpr ⟨List.forall_mem_append.mpr ⟨?_, ?_⟩, ?_⟩
  · simp
  · split
    · simp
    · simp
  · split
    · simp
    · simp

theorem confined_syncInvoicePaymentState [Floats] (isolated : Store.Isolated schema store) (now : Int) (invoiceId : Cell) :
    Store.Confined schema (some tenantId) (syncInvoicePaymentState now tenantId invoiceId) store := by
  apply confined_found isolated now invoiceId (fun store invoice => syncedState now invoice (received store tenantId invoice.id))
  · exact fun store => rfl
  · intro row
    simp only [received_only]
  · intro row entry listed
    have derived : ∀ name ∈ ["status", "paid_at"], name ∈ derivedColumns := by decide
    exact derived entry.1 (syncedState_names now row _ entry listed)

theorem confined_touchLead (isolated : Store.Isolated schema store) (now : Int) (interaction : Row) :
    Store.Confined schema (some tenantId) (touchLead now tenantId interaction) store := by
  apply confined_found isolated now (interaction.cells "lead_id") (fun _ _ => contacted now interaction)
  · exact fun store => rfl
  · exact fun row => rfl
  · intro row entry listed
    have derived : ∀ name ∈ ["last_activity_at", "last_contacted_at", "next_action_at"], name ∈ derivedColumns := by decide
    exact derived entry.1 (contacted_names now interaction entry listed)

theorem confined_refreshParent [Floats] (isolated : Store.Isolated schema store) (now : Int) (parentId : Cell) :
    Store.Confined schema (some tenantId) (refreshParent now tenantId model parentId) store := by
  unfold refreshParent
  split
  · exact confined_syncInvoicePaymentState isolated now parentId
  · exact confined_recalculateParent isolated now parentId

theorem confined_afterRecordMutation [Floats] (isolated : Store.Isolated schema store) (now : Int) (row : Row) (oldParent : Cell) :
    Store.Confined schema (some tenantId) (afterRecordMutation now tenantId model row oldParent) store := by
  unfold afterRecordMutation
  split
  · exact confined_touchLead isolated now row
  · have first : Store.Confined schema (some tenantId) (refreshOldParent now tenantId model row oldParent) store := by
      unfold refreshOldParent
      split
      · exact confined_refreshParent isolated now oldParent
      · exact Store.confined_some isolated
    exact first.bind fun after done => confined_refreshParent (first.isolated after done) now _

end Refreshed

/-! ### Requests -/

section Written
variable {store : Store Model} {auth : AuthContext} {config : RecordConfig} {entity : String} {spelling : Spelling}
  {payload : Fields} {isPartial : Bool} {values : Values}

theorem validated_target [Floats] (known : (entity, config) ∈ entityRegistry)
    (taken : payloadValues spelling config payload isPartial = .ok values)
    (valid : validateReferences store auth values config.references = .ok ()) {key : ForeignKey Model}
    (member : key ∈ foreignKeys config.model) {id : String} {target : Row}
    (given : values.given key.field = some (.text id)) (found : (store key.target).find id = some target) :
    target.tenantId = some auth.tenantId := by
  have covered := references_cover (entity, config) known key member (payloadValues_given taken given)
  have nonempty : id ≠ "" := by
    rintro rfl
    have length := target.keyed
    rw [Table.find_key found] at length
    cases length
  have named : (values.given key.field).bind keyOf = some id := by
    rw [given, Option.bind_some, keyOf, if_neg nonempty]
  obtain ⟨row, held, own⟩ := validateReferences_spec valid covered named
  rw [found, Option.some.injEq] at held
  rw [held, own]

theorem newRow_given {drawn : Drawn} {tenantId : String} {model : Model} {key : ForeignKey Model} (member : key ∈ foreignKeys model)
    {id : String} (held : (newRow drawn tenantId model values).cells key.field = .text id) :
    values.given key.field = some (.text id) := by
  obtain ⟨declared, column, initial⟩ := Option.map_eq_some_iff.mp (foreignKey_initial model key member)
  simp only [newRow, column] at held
  split at held
  · simp [Column.initially, initial] at held
  · simp [Column.initially, initial] at held
  · next cell _ given => rw [given, held]

theorem vetted_newRow [Floats] (known : (entity, config) ∈ entityRegistry)
    (taken : payloadValues spelling config payload isPartial = .ok values)
    (valid : validateReferences store auth values config.references = .ok ()) (drawn : Drawn) :
    Store.Vetted schema store config.model (newRow drawn auth.tenantId config.model (ownedValues config values)) := by
  intro key member id target held found
  have given := newRow_given member held
  apply validated_target known taken valid member _ found
  unfold ownedValues at given
  split at given
  · rw [Values.given_append, Option.or_eq_some_iff] at given
    rcases given with earlier | ⟨-, last⟩
    · exact earlier
    · have cell := Values.mem_of_given last
      simp at cell
  · exact given

end Written

def Database.only (tenantId : String) (db : Database) : Database where
  store := Store.only (some tenantId) db.store
  activities := db.activities.filter fun event => event.tenantId = tenantId
  modules other key := if other = tenantId then db.modules other key else none
  permissions other role := if other = tenantId then db.permissions other role else []

/-- Nothing of the other workspaces differs, nor anything outside of the workspaces. -/
structure Database.SameOutside (tenantId : String) (db after : Database) : Prop where
  rows : ∀ tenant, tenant ≠ some tenantId → Store.only tenant after.store = Store.only tenant db.store
  activities : after.activities.filter (fun event => event.tenantId ≠ tenantId) =
    db.activities.filter fun event => event.tenantId ≠ tenantId
  modules : after.modules = db.modules
  permissions : after.permissions = db.permissions

/-- A request does to its workspace what it would do to that workspace alone, and nothing to the others. -/
structure Local {α : Type} (tenantId : String) (op : Database → Except Failure (α × Database)) (db : Database) :
    Prop where
  alone : op (db.only tenantId) = (op db).map fun result => (result.1, result.2.only tenantId)
  isolated : ∀ result, op db = .ok result → Store.Isolated schema result.2.store
  others : ∀ result, op db = .ok result → db.SameOutside tenantId result.2

section Combined
variable {α β : Type} {tenantId : String} {db : Database}

theorem Local.read (read : Database → Except Failure β) {op : β → Database → Except Failure (α × Database)}
    (same : read (db.only tenantId) = read db) (next : ∀ value, read db = .ok value → Local tenantId (op value) db) :
    Local tenantId (fun db => read db >>= fun value => op value db) db where
  alone := by
    rw [same]
    cases done : read db with
    | error error => rfl
    | ok value => exact (next value done).alone
  isolated result done := by
    obtain ⟨value, taken, later⟩ := bind_eq_ok.mp done
    exact (next value taken).isolated result later
  others result done := by
    obtain ⟨value, taken, later⟩ := bind_eq_ok.mp done
    exact (next value taken).others result later

theorem Local.map {op : Database → Except Failure (α × Database)} (first : Local tenantId op db) (change : α → β) :
    Local tenantId (fun db => op db >>= fun result => pure (change result.1, result.2)) db where
  alone := by
    rw [first.alone]
    cases op db <;> rfl
  isolated result done := by
    obtain ⟨earlier, taken, same⟩ := bind_eq_ok.mp done
    rw [← pure_eq_ok.mp same]
    exact first.isolated earlier taken
  others result done := by
    obtain ⟨earlier, taken, same⟩ := bind_eq_ok.mp done
    rw [← pure_eq_ok.mp same]
    exact first.others earlier taken

theorem Local.mapError {op : Database → Except Failure (α × Database)} (first : Local tenantId op db)
    (change : Failure → Failure) : Local tenantId (fun db => (op db).mapError change) db where
  alone := by
    rw [first.alone]
    cases op db <;> rfl
  isolated result done := first.isolated result (mapError_eq_ok.mp done)
  others result done := first.others result (mapError_eq_ok.mp done)

theorem Local.error (error : Failure) :
    Local tenantId (fun _ => (.error error : Except Failure (α × Database))) db where
  alone := rfl
  isolated _ done := by cases done
  others _ done := by cases done

theorem Local.reads (isolated : Store.Isolated schema db.store) {read : Database → Except Failure α}
    (same : read (db.only tenantId) = read db) :
    Local tenantId (fun db => (read db).map fun value => (value, db)) db where
  alone := by
    rw [same]
    cases read db <;> rfl
  isolated result done := by
    obtain ⟨value, -, rfl⟩ := map_eq_ok.mp done
    exact isolated
  others result done := by
    obtain ⟨value, -, rfl⟩ := map_eq_ok.mp done
    exact ⟨fun _ _ => rfl, rfl, rfl, rfl⟩

theorem flushed_bind (first : Option (Store Model)) (next : Store Model → Option (Store Model)) :
    flushed (first >>= next) = flushed first >>= fun store => flushed (next store) := by
  cases first <;> rfl

theorem only_record (event : ActivityEvent) (own : event.tenantId = tenantId) (store : Store Model) :
    (db.record store event).only tenantId = (db.only tenantId).record (Store.only (some tenantId) store) event := by
  simp [Database.record, Database.only, List.filter_append, own]

theorem Local.flush {step : Store Model → Option (Store Model)}
    (confined : Store.Confined schema (some tenantId) step db.store) (value : α) (event : ActivityEvent)
    (own : event.tenantId = tenantId) :
    Local tenantId (fun db => flushed (step db.store) >>= fun store => pure (value, db.record store event)) db where
  alone := by
    have alone := confined.alone
    simp only [Database.only] at alone ⊢
    rw [alone]
    cases step db.store with
    | none => rfl
    | some store =>
      have recorded : (db.record store event).only tenantId =
          (db.only tenantId).record (Store.only (some tenantId) store) event := only_record event own store
      simp only [Database.only] at recorded
      exact congrArg (fun db => Except.ok (value, db)) recorded.symm
  isolated result done := by
    obtain ⟨store, stepped, same⟩ := bind_eq_ok.mp done
    rw [← pure_eq_ok.mp same]
    exact confined.isolated store (flushed_eq_ok.mp stepped)
  others result done := by
    obtain ⟨store, stepped, same⟩ := bind_eq_ok.mp done
    rw [← pure_eq_ok.mp same]
    exact ⟨confined.others store (flushed_eq_ok.mp stepped),
      by simp [Database.record, List.filter_append, own], rfl, rfl⟩

end Combined

section Mutations
variable {engine : Engine} {drawn : Drawn} {auth : AuthContext} {entity : String} {config : RecordConfig}
  {payload : Fields} {recordId : String} {db : Database}

theorem recordForWorkspace_only : recordForWorkspace (db.only auth.tenantId).store auth config recordId =
    recordForWorkspace db.store auth config recordId := by
  simp only [recordForWorkspace, Database.only, Store.find_only, Option.filter_filter, Bool.and_self]

theorem validateReferences_only {values : Values} (references : List (String × Model)) :
    validateReferences (db.only auth.tenantId).store auth values references =
      validateReferences db.store auth values references := by
  induction references with
  | nil => rfl
  | cons reference rest ih =>
    have same : ∀ target id, (((db.only auth.tenantId).store target).find id).any
          (fun row => row.tenantId = some auth.tenantId) =
        ((db.store target).find id).any fun row => row.tenantId = some auth.tenantId := by
      intro target id
      simp only [Database.only, Store.find_only]
      cases (db.store target).find id with
      | none => rfl
      | some row =>
        by_cases own : row.tenantId = some auth.tenantId
        · simp [Option.filter, Row.ownedBy, own]
        · simp [Option.filter, Row.ownedBy, own]
    simp only [validateReferences, ih, same]

theorem local_create [Floats] (known : (entity, config) ∈ entityRegistry) (isolated : Store.Isolated schema db.store)
    (fresh : (db.store config.model).find drawn.id = none) :
    Local auth.tenantId (create engine drawn auth entity config payload) db := by
  unfold create
  apply Local.read (fun _ => payloadValues engine.spelling config payload false) rfl
  intro values taken
  apply Local.read (fun db => validateReferences db.store auth values config.references)
    (validateReferences_only config.references)
  intro _ valid
  have inserted := Store.confined_insert isolated rfl (vetted_newRow known taken valid drawn) fresh
  have refreshed : ∀ after, Store.insert schema config.model (newRow drawn auth.tenantId config.model (ownedValues config values))
      db.store = some after → Store.Confined schema (some auth.tenantId) (afterRecordMutation drawn.now auth.tenantId
        config.model (newRow drawn auth.tenantId config.model (ownedValues config values)) .null) after :=
    fun after done => confined_afterRecordMutation (inserted.isolated after done) drawn.now _ .null
  have whole := Local.flush (inserted.bind refreshed) (newRow drawn auth.tenantId config.model (ownedValues config values))
    (activity auth "created" entity (some drawn.id.1) s!"Created {spoken entity} record") rfl
  simp only [flushed_bind, bind_assoc] at whole
  exact whole

theorem local_update [Floats] (known : (entity, config) ∈ entityRegistry) (isolated : Store.Isolated schema db.store)
    (noted : Bool) : Local auth.tenantId (update engine drawn auth entity config noted recordId payload) db := by
  unfold update
  apply Local.read (fun db => recordForWorkspace db.store auth config recordId) recordForWorkspace_only
  intro row held
  obtain ⟨found, own⟩ := recordForWorkspace_eq_ok.mp held
  apply Local.read (fun _ => payloadValues engine.spelling config payload true) rfl
  intro values taken
  apply Local.read (fun db => validateReferences db.store auth values config.references)
    (validateReferences_only config.references)
  intro _ valid
  have vetted : Store.Vetted schema db.store config.model
      (amended drawn.now config.model row (stagedValues drawn noted values)) := by
    apply vetted_amended isolated (Table.find_mem found)
    intro key member id target given target_found
    rw [own]
    apply validated_target known taken valid member _ target_found
    unfold stagedValues at given
    split at given
    · rw [Values.given_append, Option.or_eq_some_iff] at given
      rcases given with earlier | ⟨-, last⟩
      · exact earlier
      · have cell := Values.mem_of_given last
        simp at cell
    · exact given
  have known : (db.store config.model).find (amended drawn.now config.model row (stagedValues drawn noted values)).id =
      some row := by rw [amended_id, Table.find_key found, found]
  have updated := Store.confined_update isolated known (amended_tenantId.trans own) own vetted
  have refreshed : ∀ after, Store.update schema config.model (amended drawn.now config.model row
        (stagedValues drawn noted values)) db.store = some after →
      Store.Confined schema (some auth.tenantId) (afterRecordMutation drawn.now auth.tenantId config.model
        (amended drawn.now config.model row (stagedValues drawn noted values)) (parentOf config.model row)) after :=
    fun after done => confined_afterRecordMutation (updated.isolated after done) drawn.now _ _
  have whole := Local.flush (updated.bind refreshed) (amended drawn.now config.model row (stagedValues drawn noted values))
    (activity auth "updated" entity (some recordId) s!"Updated {spoken entity} record") rfl
  simp only [flushed_bind, bind_assoc] at whole
  exact whole

theorem local_delete [Floats] (isolated : Store.Isolated schema db.store) :
    Local auth.tenantId (delete drawn auth entity config recordId) db := by
  unfold delete
  apply Local.read (fun db => recordForWorkspace db.store auth config recordId) recordForWorkspace_only
  intro row held
  obtain ⟨found, own⟩ := recordForWorkspace_eq_ok.mp held
  have deleted := Store.confined_delete isolated (Table.find_of_mem (Table.find_mem found)) own
  have refreshed : ∀ after, Store.delete schema config.model row.id db.store = some after →
      Store.Confined schema (some auth.tenantId)
        (refreshParent drawn.now auth.tenantId config.model (parentOf config.model row)) after :=
    fun after done => confined_refreshParent (deleted.isolated after done) drawn.now _
  have whole := Local.flush (deleted.bind refreshed) row
    (activity auth "deleted" entity (some recordId) s!"Deleted {spoken entity} record") rfl
  simp only [flushed_bind, bind_assoc] at whole
  exact whole

theorem moduleEnabled_only (key : String) :
    moduleEnabled (db.only auth.tenantId) auth.tenantId key = moduleEnabled db auth.tenantId key := by
  simp [moduleEnabled, Database.only]

theorem requireModule_only (key permission : String) :
    requireModule (db.only auth.tenantId) auth key permission = requireModule db auth key permission := by
  simp only [requireModule, moduleEnabled_only]
  simp [Database.only]

theorem listing_only (query : ListQuery) (unsupported : Failure) :
    listing engine auth config query unsupported (db.only auth.tenantId).store =
      listing engine auth config query unsupported db.store := by
  have selects : ((db.only auth.tenantId).store config.model).select (criteria engine config auth.tenantId query) =
      (db.store config.model).select (criteria engine config auth.tenantId query) := by
    simp only [Database.only, Store.only, Table.keep, Table.select, List.filter_filter]
    apply List.filter_congr
    intro row _
    simp only [criteria, Row.ownedBy]
    cases decide (row.tenantId = some auth.tenantId) <;> simp
  simp only [listing, selected, selects]

end Mutations

/-- `uuid4` gives what no row has. -/
def Fresh (drawn : Drawn) (db : Database) : Prop := ∀ model, (db.store model).find drawn.id = none

section Calls
variable [Floats] {engine : Engine} {drawn : Drawn} {auth : AuthContext} {db : Database}

theorem local_route (isolated : Store.Isolated schema db.store) (fresh : Fresh drawn db) (entity : String)
    (request : Request) : Local auth.tenantId (handle engine drawn auth (.route entity request)) db := by
  cases request with
  | list query =>
    apply Local.reads isolated
    simp only [listRecords, requireModule_only, listing_only]
  | create payload =>
    apply Local.read (fun _ => routed entity true) rfl
    intro config found
    apply Local.read (fun db => requireModule db auth config.module config.writePermission) (requireModule_only _ _)
    intro _ _
    exact ((local_create (routed_mem found) isolated (fresh config.model)).mapError
      (reported (.http 409 "A record with that unique identifier already exists"))).map
        fun row => serializeRecord row config
  | update recordId payload =>
    apply Local.read (fun _ => routed entity true) rfl
    intro config found
    apply Local.read (fun db => requireModule db auth config.module config.writePermission) (requireModule_only _ _)
    intro _ _
    exact ((local_update (routed_mem found) isolated (config.model = .lead)).mapError
      (reported (.http 409 "Update conflicts with an existing record"))).map
        fun row => serializeRecord row config
  | delete recordId =>
    apply Local.read (fun _ => routed entity true) rfl
    intro config found
    apply Local.read (fun db => requireModule db auth config.module config.writePermission) (requireModule_only _ _)
    intro _ _
    exact ((local_delete isolated).mapError
      (reported (.http 409 "This record is still referenced by other workspace data"))).map
        fun _ => Json.obj [("ok", .bool true)]

theorem local_capability (isolated : Store.Isolated schema db.store) (fresh : Fresh drawn db) (entity : String)
    (operation : Operation) (arguments : Fields) :
    Local auth.tenantId (handle engine drawn auth (.capability entity operation arguments)) db := by
  apply Local.read (fun _ => operationConfig entity operation) rfl
  intro config found
  have known := operationConfig_mem found
  apply Local.read (fun db => requireEnabled db auth.tenantId config.module)
    (by simp only [requireEnabled, moduleEnabled_only])
  intro _ _
  cases operation with
  | list =>
    apply Local.reads isolated
    simp only [capabilityList, listing_only]
  | create =>
    exact ((local_create known isolated (fresh config.model)).mapError
      (reported (.value "A record with that unique identifier already exists"))).map
        fun row => serializeRecord row config
  | update =>
    dsimp only [capabilityUpdate]
    split
    · exact Local.error _
    · exact ((local_update known isolated (hasColumn config.model "stage_changed_at")).mapError
        (sought ∘ reported (.value "Update conflicts with an existing record"))).map
          fun row => serializeRecord row config
  | delete =>
    exact ((local_delete isolated).mapError
      (sought ∘ reported (.value "This record is still referenced by other workspace data"))).map
        fun _ => Json.obj [("ok", .bool true), ("record_id", .str (argumentText engine arguments "record_id"))]

end Calls

end Operly.Workspace.Records
