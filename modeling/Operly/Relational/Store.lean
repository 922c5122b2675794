import Operly.Python.Json
import Operly.Relational.Table

/-! Tables whose rows belong to tenants and refer to one another by foreign keys. A statement fails when it
would leave a row without a value it needs, a foreign key without its row, or two rows of a tenant with the
same unique columns. -/

namespace Relational

namespace Table
variable {ρ κ : Type} {key : ρ → κ}

theorem eq_of_rows {first second : Table ρ κ key} (same : first.rows = second.rows) : first = second := by
  cases first
  cases second
  cases same
  rfl

def keep (table : Table ρ κ key) (condition : ρ → Bool) : Table ρ κ key where
  rows := table.rows.filter condition
  distinct := (List.filter_sublist.map key).nodup table.distinct

variable {table : Table ρ κ key} {condition : ρ → Bool}

theorem mem_keep {row : ρ} :
    row ∈ (table.keep condition).rows ↔ row ∈ table.rows ∧ condition row = true := List.mem_filter

variable [DecidableEq κ]

theorem find_keep (table : Table ρ κ key) (condition : ρ → Bool) (k : κ) :
    (table.keep condition).find k = (table.find k).filter condition := by
  ext row
  rw [find_eq_some, mem_keep, Option.filter_eq_some_iff, find_eq_some]
  tauto

theorem keep_insert {row : ρ} (absent : table.find (key row) = none) (kept : condition row = true) :
    (table.insert row).keep condition = (table.keep condition).insert row := by
  have absent' : (table.keep condition).find (key row) = none := by rw [find_keep, absent, Option.filter_none]
  apply eq_of_rows
  rw [insert_rows absent']
  simp only [keep, insert_rows absent, List.filter_append, List.filter_cons_of_pos kept, List.filter_nil]

theorem keep_insert_of_neg {row : ρ} (absent : table.find (key row) = none) (dropped : condition row = false) :
    (table.insert row).keep condition = table.keep condition := by
  apply eq_of_rows
  have notKept : ¬ condition row = true := by simp [dropped]
  simp only [keep, insert_rows absent, List.filter_append, List.filter_cons_of_neg notKept, List.filter_nil,
    List.append_nil]

theorem keep_replace {row : ρ} (kept : condition row = true)
    (before : ∀ old, table.find (key row) = some old → condition old = true) :
    (table.replace row).keep condition = (table.keep condition).replace row := by
  apply eq_of_rows
  have held : ∀ old ∈ table.rows, key old = key row → condition old = true := by
    intro old member same
    exact before old (find_eq_some.mpr ⟨member, same⟩)
  simp only [keep, replace]
  clear before
  revert held
  induction table.rows with
  | nil => exact fun _ => rfl
  | cons first rest ih =>
    intro held
    have later := ih fun old member => held old (List.mem_cons_of_mem _ member)
    by_cases same : key first = key row
    · rw [List.map_cons, if_pos same, List.filter_cons_of_pos kept,
        List.filter_cons_of_pos (held first List.mem_cons_self same), List.map_cons, if_pos same, later]
    · rw [List.map_cons, if_neg same]
      cases shown : condition first with
      | true => rw [List.filter_cons_of_pos shown, List.filter_cons_of_pos shown, List.map_cons, if_neg same, later]
      | false =>
        rw [List.filter_cons_of_neg (by simp [shown]), List.filter_cons_of_neg (by simp [shown]), later]

theorem keep_replace_of_neg {row : ρ} (dropped : condition row = false)
    (before : ∀ old, table.find (key row) = some old → condition old = false) :
    (table.replace row).keep condition = table.keep condition := by
  apply eq_of_rows
  refine (select_replace_of_neg dropped).trans (List.filter_eq_self.mpr ?_)
  intro old member
  have stored := List.mem_filter.mp member
  have apart : key old ≠ key row := by
    intro same
    rw [before old (find_eq_some.mpr ⟨stored.1, same⟩)] at stored
    cases stored.2
  simpa using apart

end Table

/-! ### Rows and schemas -/

inductive Cell where
  | null
  | text (value : String)
  | integer (value : Int)
  | float (value : Python.Double)
  | boolean (value : Bool)
  | moment (value : Int)
  deriving DecidableEq

structure Row where
  id : String
  tenantId : Option String
  cells : String → Cell
  keyed : id.length = 36

abbrev Values := List (String × Cell)

def Values.given (values : Values) (column : String) : Option Cell :=
  (values.find? (·.1 = column)).map (·.2)

variable {values : Values} {column : String}

theorem Values.mem_of_given {cell : Cell} (given : values.given column = some cell) : (column, cell) ∈ values := by
  rw [Values.given, Option.map_eq_some_iff] at given
  obtain ⟨entry, found, rfl⟩ := given
  have name : entry.1 = column := by simpa using List.find?_some found
  rw [← name]
  exact List.mem_of_find?_eq_some found

theorem Values.given_of_mem (distinct : (values.map (·.1)).Nodup) {entry : String × Cell} (member : entry ∈ values) :
    values.given entry.1 = some entry.2 := by
  cases found : values.find? (·.1 = entry.1) with
  | none => simpa using List.find?_eq_none.mp found entry member
  | some other =>
    have name : other.1 = entry.1 := by simpa using List.find?_some found
    have same := List.inj_on_of_nodup_map distinct (List.mem_of_find?_eq_some found) member name
    rw [Values.given, found, Option.map_some, same]

theorem Values.given_eq_none : values.given column = none ↔ ∀ entry ∈ values, entry.1 ≠ column := by
  simp [Values.given]

theorem Values.given_append (values later : Values) (column : String) :
    Values.given (values ++ later) column = (values.given column).or (later.given column) := by
  simp only [Values.given, List.find?_append]
  cases values.find? (·.1 = column) <;> rfl

/-- `setattr` of several columns -/
def Row.assign (row : Row) (values : Values) : Row :=
  { row with cells := fun column => (values.given column).getD (row.cells column) }

@[simp] theorem Row.assign_id (row : Row) (values : Values) : (row.assign values).id = row.id := rfl
theorem Row.assign_cells {row : Row} (absent : values.given column = none) :
    (row.assign values).cells column = row.cells column := by
  simp only [Row.assign, absent, Option.getD_none]

theorem Row.assign_given {row : Row} {cell : Cell} (given : values.given column = some cell) :
    (row.assign values).cells column = cell := by
  simp only [Row.assign, given, Option.getD_some]

def Row.ownedBy (tenant : Option String) (row : Row) : Bool := row.tenantId = tenant

@[simp] theorem Row.ownedBy_iff {tenant : Option String} {row : Row} :
    row.ownedBy tenant = true ↔ row.tenantId = tenant := decide_eq_true_iff

/-- Two rows of a tenant that may not both be there: unique columns are alike, and none is null. -/
def Row.clashes (row other : Row) (columns : List String) : Bool :=
  other.id ≠ row.id && row.tenantId.isSome && other.tenantId = row.tenantId &&
    columns.all fun column => row.cells column ≠ .null && other.cells column = row.cells column

inductive OnDelete where
  | noAction
  | cascade
  | setNull
  deriving DecidableEq

structure ForeignKey (M : Type) where
  field : String
  target : M
  onDelete : OnDelete

/-- The constraints of the tables. Cascades end after one step, and what is set to null may be null. -/
structure Schema (M : Type) where
  models : List M
  complete : ∀ model, model ∈ models
  required : M → List String
  foreignKeys : M → List (ForeignKey M)
  uniqueConstraints : M → List (List String)
  shallow : ∀ model, ∀ key ∈ foreignKeys model, key.onDelete = .cascade →
    ∀ other, ∀ next ∈ foreignKeys other, next.onDelete = .cascade → next.target ≠ model
  nullable : ∀ model, ∀ key ∈ foreignKeys model, key.onDelete = .setNull → key.field ∉ required model

abbrev Rows := Table Row String Row.id

abbrev Store (M : Type) := M → Rows

namespace Store
variable {M : Type}

def refers (store : Store M) (row : Row) (key : ForeignKey M) : Bool :=
  match row.cells key.field with
  | .null => true
  | .text id => ((store key.target).find id).isSome
  | _ => false

def admits (schema : Schema M) (store : Store M) (model : M) (row : Row) : Bool :=
  (schema.required model).all (fun column => row.cells column ≠ .null) &&
    (schema.foreignKeys model).all (store.refers row) &&
    (schema.uniqueConstraints model).all fun columns => !(store model).rows.any fun other => row.clashes other columns

def only (tenant : Option String) (store : Store M) : Store M :=
  fun model => (store model).keep (Row.ownedBy tenant)

variable [DecidableEq M]

def insert (schema : Schema M) (model : M) (row : Row) (store : Store M) : Option (Store M) :=
  let after := Function.update store model ((store model).insert row)
  if ((store model).find row.id).isNone && admits schema after model row then some after else none

def update (schema : Schema M) (model : M) (row : Row) (store : Store M) : Option (Store M) :=
  let after := Function.update store model ((store model).replace row)
  if admits schema after model row then some after else none

def doomed (schema : Schema M) (model : M) (id : String) (of : M) (row : Row) : Bool :=
  (of = model && row.id = id) || (schema.foreignKeys of).any fun key =>
    key.onDelete = .cascade && key.target = model && row.cells key.field = .text id

def loses (schema : Schema M) (store : Store M) (model : M) (id : String) (row : Row) (key : ForeignKey M) : Bool :=
  match row.cells key.field with
  | .text named => ((store key.target).find named).any (doomed schema model id key.target)
  | _ => false

def restricted (schema : Schema M) (store : Store M) (model : M) (id : String) : Bool :=
  schema.models.any fun of => (store of).rows.any fun row =>
    !doomed schema model id of row && (schema.foreignKeys of).any fun key =>
      key.onDelete = .noAction && loses schema store model id row key

/-- `ON DELETE SET NULL` -/
def unlink (schema : Schema M) (store : Store M) (model : M) (id : String) (of : M) (row : Row) : Row :=
  { row with
    cells := fun column =>
      if (schema.foreignKeys of).any fun key =>
          key.field = column && key.onDelete = .setNull && loses schema store model id row key then .null
      else row.cells column }

def delete (schema : Schema M) (model : M) (id : String) (store : Store M) : Option (Store M) :=
  if restricted schema store model id then none
  else some fun of => ((store of).keep fun row => !doomed schema model id of row).modify
    (unlink schema store model id of) fun _ => rfl

/-! ### What a statement leaves -/

section Statements
variable {schema : Schema M} {store after : Store M} {model of : M} {row other : Row} {id : String}

omit [DecidableEq M] in
theorem refers_iff {key : ForeignKey M} : store.refers row key = true ↔
    row.cells key.field = .null ∨
      ∃ id target, row.cells key.field = .text id ∧ (store key.target).find id = some target := by
  unfold refers
  split <;> simp_all [Option.isSome_iff_exists]

theorem insert_eq_some : insert schema model row store = some after ↔
    (store model).find row.id = none ∧ after = Function.update store model ((store model).insert row) ∧
      admits schema after model row = true := by
  simp only [insert, Option.isNone_iff_eq_none, Bool.and_eq_true, Option.ite_none_right_eq_some, Option.some.injEq]
  constructor
  · rintro ⟨⟨fresh, admitted⟩, rfl⟩
    exact ⟨fresh, rfl, admitted⟩
  · rintro ⟨fresh, rfl, admitted⟩
    exact ⟨⟨fresh, admitted⟩, rfl⟩

theorem update_eq_some : update schema model row store = some after ↔
    after = Function.update store model ((store model).replace row) ∧ admits schema after model row = true := by
  simp only [update, Option.ite_none_right_eq_some, Option.some.injEq]
  constructor
  · rintro ⟨admitted, rfl⟩
    exact ⟨rfl, admitted⟩
  · rintro ⟨rfl, admitted⟩
    exact ⟨admitted, rfl⟩

theorem delete_eq_some : delete schema model id store = some after ↔
    restricted schema store model id = false ∧
      after = fun of => ((store of).keep fun row => !doomed schema model id of row).modify
        (unlink schema store model id of) fun _ => rfl := by
  unfold delete
  split
  · next refused => simp [refused]
  · next allowed =>
    rw [Bool.not_eq_true] at allowed
    simp only [allowed, Option.some.injEq, true_and]
    exact eq_comm

theorem mem_insert (inserted : insert schema model row store = some after) :
    other ∈ (after of).rows ↔ other ∈ (store of).rows ∨ of = model ∧ other = row := by
  obtain ⟨fresh, rfl, -⟩ := insert_eq_some.mp inserted
  by_cases same : of = model
  · subst same
    rw [Function.update_self, Table.insert_rows fresh, List.mem_append, List.mem_singleton]
    tauto
  · rw [Function.update_of_ne same]
    tauto

theorem mem_update (updated : update schema model row store = some after) :
    other ∈ (after of).rows ↔ (other ∈ (store of).rows ∧ (of = model → other.id ≠ row.id)) ∨
      of = model ∧ other = row ∧ ((store model).find row.id).isSome = true := by
  obtain ⟨rfl, -⟩ := update_eq_some.mp updated
  by_cases same : of = model
  · subst same
    rw [Function.update_self, Table.mem_replace]
    tauto
  · rw [Function.update_of_ne same]
    tauto

theorem mem_update_self {old : Row} (updated : update schema model row store = some after)
    (found : (store model).find row.id = some old) : row ∈ (after model).rows :=
  (mem_update updated).mpr (.inr ⟨rfl, rfl, by rw [found, Option.isSome_some]⟩)

theorem mem_delete (deleted : delete schema model id store = some after) :
    other ∈ (after of).rows ↔ ∃ old ∈ (store of).rows, doomed schema model id of old = false ∧
      other = unlink schema store model id of old := by
  obtain ⟨-, rfl⟩ := delete_eq_some.mp deleted
  simp only [Table.modify, List.mem_map, Table.mem_keep, Bool.not_eq_true']
  constructor
  · rintro ⟨old, ⟨member, stays⟩, rfl⟩
    exact ⟨old, member, stays, rfl⟩
  · rintro ⟨old, member, stays, rfl⟩
    exact ⟨old, ⟨member, stays⟩, rfl⟩

theorem find_insert (inserted : insert schema model row store = some after) : (after of).find id =
    ((store of).find id).or (if of = model ∧ id = row.id then some row else none) := by
  obtain ⟨fresh, rfl, -⟩ := insert_eq_some.mp inserted
  by_cases same : of = model
  · subst same
    simp [Table.find_insert]
  · simp [same]

theorem find_update (updated : update schema model row store = some after) : (after of).find id =
    if of = model ∧ id = row.id then ((store of).find id).map fun _ => row else (store of).find id := by
  obtain ⟨rfl, -⟩ := update_eq_some.mp updated
  by_cases same : of = model
  · subst same
    simp [Table.find_replace]
  · simp [same]

theorem find_delete (deleted : delete schema model id store = some after) (named : String) :
    (after of).find named = ((store of).find named).bind fun old =>
      if doomed schema model id of old then none else some (unlink schema store model id of old) := by
  obtain ⟨-, rfl⟩ := delete_eq_some.mp deleted
  refine (Table.find_modify _ _ _ _).trans ?_
  rw [Table.find_keep]
  cases (store of).find named with
  | none => rfl
  | some old => cases goes : doomed schema model id of old <;> simp [Option.filter, goes]

omit [DecidableEq M] in
theorem admits_iff : admits schema store model row = true ↔
    (∀ column ∈ schema.required model, row.cells column ≠ .null) ∧
      (∀ key ∈ schema.foreignKeys model, store.refers row key = true) ∧
      ∀ columns ∈ schema.uniqueConstraints model, ∀ other ∈ (store model).rows,
        row.clashes other columns = false := by
  simp [admits, and_assoc]

theorem doomed_iff : doomed schema model id of row = true ↔ of = model ∧ row.id = id ∨
    ∃ key ∈ schema.foreignKeys of, key.onDelete = .cascade ∧ key.target = model ∧
      row.cells key.field = .text id := by
  simp [doomed, and_assoc]

theorem loses_iff {key : ForeignKey M} : loses schema store model id row key = true ↔
    ∃ named target, row.cells key.field = .text named ∧ (store key.target).find named = some target ∧
      doomed schema model id key.target target = true := by
  unfold loses
  split
  · next named held =>
    rw [Option.any_eq_true]
    constructor
    · rintro ⟨target, found, goes⟩
      exact ⟨named, target, held, found, goes⟩
    · rintro ⟨other, target, same, found, goes⟩
      rw [held] at same
      cases same
      exact ⟨target, found, goes⟩
  · next absent =>
    constructor
    · intro impossible
      cases impossible
    · rintro ⟨named, target, same, -⟩
      exact absurd same (absent named)

theorem restricted_eq_false : restricted schema store model id = false ↔
    ∀ of, ∀ row ∈ (store of).rows, doomed schema model id of row = false →
      ∀ key ∈ schema.foreignKeys of, key.onDelete = .noAction →
        loses schema store model id row key = false := by
  simp only [restricted, List.any_eq_false, Bool.and_eq_true, Bool.not_eq_true', not_and, Bool.not_eq_true,
    decide_eq_true_eq]
  constructor
  · exact fun allowed of => allowed of (schema.complete of)
  · exact fun allowed of _ => allowed of

theorem unlink_cells (column : String) : (unlink schema store model id of row).cells column = row.cells column ∨
    (unlink schema store model id of row).cells column = .null ∧
      ∃ key ∈ schema.foreignKeys of, key.field = column ∧ key.onDelete = .setNull ∧
        loses schema store model id row key = true := by
  simp only [unlink]
  split
  · next lost =>
    rw [List.any_eq_true] at lost
    obtain ⟨key, member, facts⟩ := lost
    simp only [Bool.and_eq_true, decide_eq_true_eq] at facts
    exact .inr ⟨rfl, key, member, facts.1.1, facts.1.2, facts.2⟩
  · exact .inl rfl

@[simp] theorem unlink_id : (unlink schema store model id of row).id = row.id := rfl
@[simp] theorem unlink_tenantId : (unlink schema store model id of row).tenantId = row.tenantId := rfl

variable {condition : Row → Bool}

theorem select_insert (inserted : insert schema model row store = some after)
    (apart : of = model → condition row = false) : (after of).select condition = (store of).select condition := by
  obtain ⟨fresh, rfl, -⟩ := insert_eq_some.mp inserted
  by_cases same : of = model
  · subst same
    rw [Function.update_self]
    exact congrArg Table.rows (Table.keep_insert_of_neg fresh (apart rfl))
  · rw [Function.update_of_ne same]

theorem select_update {old : Row} (updated : update schema model row store = some after)
    (found : (store model).find row.id = some old)
    (apart : of = model → condition row = false ∧ condition old = false) :
    (after of).select condition = (store of).select condition := by
  obtain ⟨rfl, -⟩ := update_eq_some.mp updated
  by_cases same : of = model
  · subst same
    have before : ∀ other, (store of).find row.id = some other → condition other = false := by
      intro other held
      rw [found, Option.some.injEq] at held
      rw [← held]
      exact (apart rfl).2
    rw [Function.update_self]
    exact congrArg Table.rows (Table.keep_replace_of_neg (apart rfl).1 before)
  · rw [Function.update_of_ne same]

theorem select_delete {α : Type} {column : Row → α} (deleted : delete schema model id store = some after)
    (meets : ∀ row, condition (unlink schema store model id of row) = condition row)
    (reads : ∀ row, column (unlink schema store model id of row) = column row)
    (stays : ∀ row ∈ (store of).select condition, doomed schema model id of row = false) :
    ((after of).select condition).map column = ((store of).select condition).map column := by
  obtain ⟨-, rfl⟩ := delete_eq_some.mp deleted
  have meets' : condition ∘ unlink schema store model id of = condition := funext meets
  have reads' : column ∘ unlink schema store model id of = column := funext reads
  calc ((((store of).rows.filter fun row => !doomed schema model id of row).map
        (unlink schema store model id of)).filter condition).map column
      = (((store of).rows.filter fun row => !doomed schema model id of row).filter condition).map column := by
        rw [List.filter_map, List.map_map, meets', reads']
    _ = (((store of).rows.filter condition).filter fun row => !doomed schema model id of row).map column := by
        rw [List.filter_filter, List.filter_filter]
        simp only [Bool.and_comm]
    _ = ((store of).rows.filter condition).map column := by
        rw [List.filter_eq_self.mpr]
        intro row met
        rw [stays row met, Bool.not_false]

theorem doomed_of_cascade {key : ForeignKey M} (member : key ∈ schema.foreignKeys of) (cascades : key.onDelete = .cascade)
    (lost : loses schema store model id row key = true) : doomed schema model id of row = true := by
  obtain ⟨named, target, held, found, goes⟩ := loses_iff.mp lost
  rcases doomed_iff.mp goes with ⟨same, itself⟩ | ⟨next, member', cascades', same, -⟩
  · apply doomed_iff.mpr
    rw [Table.find_key found] at itself
    exact .inr ⟨key, member, cascades, same, itself ▸ held⟩
  · exact absurd rfl (schema.shallow key.target next member' cascades' of key member cascades)

end Statements

end Store

end Relational
