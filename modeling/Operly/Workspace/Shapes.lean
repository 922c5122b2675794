import Operly.Workspace.Business
import Operly.Workspace.Schemas

/-! Rows that keep to the types, lengths and options of their columns, and what keeps them so. -/

namespace Operly.Workspace.Records
open Python Relational

def entityOf (model : Model) : Option String := (entityRegistry.find? (·.2.model = model)).map (·.1)

def Free (model : Model) (field : String) : Prop := ∀ key ∈ foreignKeys model, key.field ≠ field

/-- The columns of a row that refer to none keep to their types, lengths and options. -/
def Typed (entity : String) (model : Model) (row : Row) : Prop :=
  ∀ field column, columnOf model field = some column → Free model field →
    fits column (optionsOf entity field) (row.cells field) = true

def Suits (entity : String) (model : Model) (values : Values) : Prop :=
  ∀ field column, columnOf model field = some column → Free model field → ∀ cell, values.given field = some cell →
    fits column (optionsOf entity field) cell = true

def Present (model : Model) (row : Row) : Prop :=
  ∀ field column, columnOf model field = some column → row.cells field = .null → column.nullable = true

def Tidy (tenantId : String) (store : Store Model) : Prop :=
  ∀ model entity, entityOf model = some entity → ∀ row ∈ (store model).rows, row.tenantId = some tenantId →
    Typed entity model row ∧ Present model row

section Columns
variable {entity : String} {model : Model} {field : String} {column : Column} {values later : Values} {row : Row}

theorem columnOf_mem (found : columnOf model field = some column) : column ∈ columns model ∧ column.name = field :=
  ⟨List.mem_of_find?_eq_some found, by simpa using List.find?_some found⟩

theorem entityOf_eq_some (of : entityOf model = some entity) :
    ∃ config, (entity, config) ∈ entityRegistry ∧ config.model = model := by
  rw [entityOf, Option.map_eq_some_iff] at of
  obtain ⟨entry, found, rfl⟩ := of
  exact ⟨entry.2, List.mem_of_find?_eq_some found, by simpa using List.find?_some found⟩

theorem registry_entityOf : ∀ entry ∈ entityRegistry, entityOf entry.2.model = some entry.1 := by decide

theorem registry_initial : ∀ entry ∈ entityRegistry, ∀ column ∈ columns entry.2.model,
    fits column (optionsOf entry.1 column.name) (column.initially 0) = true := by decide

theorem registry_stamps : ∀ entry ∈ entityRegistry, ∀ field ∈ ["updated_at", "stage_changed_at"],
    ((columnOf entry.2.model field).all fun column => fits column (optionsOf entry.1 field) (.moment 0)) = true := by
  decide

theorem registry_foreignKeys : ∀ entry ∈ entityRegistry, ∀ key ∈ foreignKeys entry.2.model,
    (columnOf entry.2.model key.field).map Column.type = some (.string 36) ∧ optionsOf entry.1 key.field = [] := by
  decide

theorem fits_initially (of : entityOf model = some entity) (held : columnOf model field = some column) (now : Int) :
    fits column (optionsOf entity field) (column.initially now) = true := by
  obtain ⟨config, known, rfl⟩ := entityOf_eq_some of
  obtain ⟨listed, rfl⟩ := columnOf_mem held
  have start := registry_initial _ known column listed
  unfold Column.initially at start ⊢
  cases initial : column.initial with
  | nothing => rfl
  | value cell => simpa [initial] using start
  | utcnow => simpa [initial, fits] using start

theorem fits_stamp (of : entityOf model = some entity) (held : columnOf model field = some column)
    (stamp : field ∈ ["updated_at", "stage_changed_at"]) (now : Int) :
    fits column (optionsOf entity field) (.moment now) = true := by
  obtain ⟨config, known, rfl⟩ := entityOf_eq_some of
  have moment := registry_stamps _ known field stamp
  rw [held, Option.all_some] at moment
  simpa [fits] using moment

theorem Suits.append (suits : Suits entity model values) (suits' : Suits entity model later) :
    Suits entity model (values ++ later) := by
  intro field column held free cell given
  rw [Values.given_append, Option.or_eq_some_iff] at given
  rcases given with first | ⟨-, second⟩
  · exact suits field column held free cell first
  · exact suits' field column held free cell second

theorem suits_nil : Suits entity model [] := by
  intro field column held free cell given
  cases given

theorem suits_cons {name : String} {cell : Cell} (fitting : ∀ column, columnOf model name = some column → Free model name →
      fits column (optionsOf entity name) cell = true)
    (suits : Suits entity model values) : Suits entity model ((name, cell) :: values) := by
  have one : Suits entity model [(name, cell)] := by
    intro field column held free other given
    have member := Values.mem_of_given given
    rw [List.mem_singleton, Prod.mk.injEq] at member
    obtain ⟨rfl, rfl⟩ := member
    exact fitting column held free
  exact one.append suits

theorem typed_newRow (of : entityOf model = some entity) (suits : Suits entity model values) (drawn : Drawn) (tenantId : String) :
    Typed entity model (newRow drawn tenantId model values) := by
  intro field column held free
  cases given : values.given field with
  | none =>
    rw [newRow_initially given, held]
    exact fits_initially of held drawn.now
  | some cell =>
    rw [newRow_written held given]
    split
    · exact fits_initially of held drawn.now
    · exact suits field column held free cell given

theorem typed_amended (of : entityOf model = some entity) (typed : Typed entity model row) (suits : Suits entity model values)
    (now : Int) : Typed entity model (amended now model row values) := by
  have assigned : Typed entity model (row.assign values) := by
    intro field column held free
    cases given : values.given field with
    | none =>
      rw [Row.assign_cells given]
      exact typed field column held free
    | some cell =>
      rw [Row.assign_given given]
      exact suits field column held free cell given
  unfold amended
  split
  · intro field column held free
    by_cases stamp : field = "updated_at"
    · subst stamp
      rw [Row.assign_given rfl]
      exact fits_stamp of held (by simp) now
    · rw [Row.assign_cells (by simpa [Values.given] using Ne.symm stamp)]
      exact assigned field column held free
  · exact assigned

theorem present_of_admits {store : Store Model} (admitted : Store.admits schema store model row = true) : Present model row := by
  intro field column held empty
  obtain ⟨listed, rfl⟩ := columnOf_mem held
  by_contra needed
  have required : column.name ∈ requiredColumns model :=
    List.mem_map_of_mem (List.mem_filter.mpr ⟨listed, by simpa using needed⟩)
  exact (Store.admits_iff.mp admitted).1 _ required empty

end Columns

section Statements
variable {tenantId : String} {store after : Store Model} {model : Model} {row : Row} {values : Values} {now : Int}

theorem Tidy.insert (tidy : Tidy tenantId store) (inserted : Store.insert schema model row store = some after)
    (typed : ∀ entity, entityOf model = some entity → Typed entity model row) : Tidy tenantId after := by
  intro of entity known other held own
  rcases (Store.mem_insert inserted).mp held with earlier | ⟨rfl, rfl⟩
  · exact tidy of entity known other earlier own
  · exact ⟨typed entity known, present_of_admits (Store.insert_eq_some.mp inserted).2.2⟩

theorem Tidy.update (tidy : Tidy tenantId store) (updated : Store.update schema model row store = some after)
    (typed : ∀ entity, entityOf model = some entity → Typed entity model row) : Tidy tenantId after := by
  intro of entity known other held own
  rcases (Store.mem_update updated).mp held with ⟨earlier, -⟩ | ⟨rfl, rfl, -⟩
  · exact tidy of entity known other earlier own
  · exact ⟨typed entity known, present_of_admits (Store.update_eq_some.mp updated).2⟩

theorem Tidy.insertRow {drawn : Drawn} {tenantId' : String} (tidy : Tidy tenantId store)
    (suits : ∀ entity, entityOf model = some entity → Suits entity model values)
    (inserted : Records.insertRow drawn tenantId' model values store = .ok after) : Tidy tenantId after :=
  tidy.insert (flushed_eq_ok.mp inserted) fun entity known => typed_newRow known (suits entity known) drawn tenantId'

theorem Tidy.revise (tidy : Tidy tenantId store) (typed : ∀ entity, entityOf model = some entity → Typed entity model row)
    (suits : ∀ entity, entityOf model = some entity → Suits entity model values)
    (revised : Records.revise now model row values store = some after) : Tidy tenantId after :=
  tidy.update revised fun entity known => typed_amended known (typed entity known) (suits entity known) now

theorem Tidy.delete {id : String} (tidy : Tidy tenantId store) (deleted : Store.delete schema model id store = some after) :
    Tidy tenantId after := by
  intro of entity known other held own
  obtain ⟨old, stored, -, rfl⟩ := (Store.mem_delete deleted).mp held
  obtain ⟨typed, present⟩ := tidy of entity known old stored own
  have cells : ∀ field, (Store.unlink schema store model id of old).cells field = old.cells field ∨
      (Store.unlink schema store model id of old).cells field = .null ∧
        ∃ key ∈ foreignKeys of, key.field = field ∧ key.onDelete = .setNull ∧
          Store.loses schema store model id old key = true := fun field => Store.unlink_cells field
  constructor
  · intro field column among free
    rcases cells field with same | ⟨-, key, listed, named, -⟩
    · rw [same]
      exact typed field column among free
    · exact absurd named (free key listed)
  · intro field column among empty
    rcases cells field with same | ⟨-, key, listed, named, action, -⟩
    · exact present field column among (same ▸ empty)
    · -- the schema clears no column that is required
      by_contra needed
      have optional := schema.nullable of key listed action
      obtain ⟨declared, name⟩ := columnOf_mem among
      apply optional
      rw [named, ← name]
      exact List.mem_map_of_mem (List.mem_filter.mpr ⟨declared, by simpa using needed⟩)

theorem tidy_only {store' : Store Model} (same : Store.only (some tenantId) store' = Store.only (some tenantId) store)
    (tidy : Tidy tenantId store) : Tidy tenantId store' := by
  intro model entity known row held own
  have listed : row ∈ (Store.only (some tenantId) store' model).rows := Store.mem_only.mpr ⟨held, own⟩
  rw [same] at listed
  exact tidy model entity known row (Store.mem_only.mp listed).1 own

theorem fitting_of_typed {entity : String} {config : RecordConfig} (known : (entity, config) ∈ entityRegistry)
    (typed : Typed entity config.model row) (present : Present config.model row)
    (refers : ∀ key ∈ foreignKeys config.model, Store.refers store row key = true) : Fitting entity config.model row := by
  refine ⟨?_, present⟩
  intro field column among
  by_cases free : Free config.model field
  · exact typed field column among free
  · -- the column holds the id of a row, or nothing
    simp only [Free, not_forall, not_not] at free
    obtain ⟨key, listed, rfl⟩ := free
    obtain ⟨type, options⟩ := registry_foreignKeys _ known key listed
    rw [among, Option.map_some, Option.some.injEq] at type
    rw [options]
    rcases Store.refers_iff.mp (refers key listed) with empty | ⟨id, target, names, found⟩
    · rw [empty]
      rfl
    · have length := target.keyed
      rw [Table.find_key found] at length
      simp [names, fits, type, length]

theorem Tidy.fitting {entity : String} {config : RecordConfig} (tidy : Tidy tenantId store)
    (isolated : Store.Isolated schema store) (known : (entity, config) ∈ entityRegistry)
    (held : row ∈ (store config.model).rows) (own : row.tenantId = some tenantId) : Fitting entity config.model row := by
  obtain ⟨typed, present⟩ := tidy config.model entity (registry_entityOf _ known) row held own
  apply fitting_of_typed known typed present
  intro key listed
  rw [Store.refers_iff]
  rcases isolated config.model row held key listed with empty | ⟨id, target, names, found, -⟩
  · exact .inl empty
  · exact .inr ⟨id, target, names, found⟩

theorem fitting_of_admits {entity : String} {config : RecordConfig} (known : (entity, config) ∈ entityRegistry)
    (typed : Typed entity config.model row) (admitted : Store.admits schema store config.model row = true) :
    Fitting entity config.model row :=
  fitting_of_typed known typed (present_of_admits admitted) (Store.admits_iff.mp admitted).2.1

end Statements

end Operly.Workspace.Records
