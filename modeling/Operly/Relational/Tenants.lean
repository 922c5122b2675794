import Operly.Relational.Store

/-! A store of several tenants. While no row refers to a row of another tenant, what a statement of one
tenant does is what it does to that tenant's part alone. -/

namespace Relational
namespace Store
variable {M : Type} {schema : Schema M} {store after : Store M} {model of : M} {row old other : Row}
  {tenant : Option String} {id : String}

def Owned (store : Store M) (row : Row) (key : ForeignKey M) : Prop :=
  row.cells key.field = .null ∨ ∃ id target, row.cells key.field = .text id ∧
    (store key.target).find id = some target ∧ target.tenantId = row.tenantId

def Isolated (schema : Schema M) (store : Store M) : Prop :=
  ∀ model, ∀ row ∈ (store model).rows, ∀ key ∈ schema.foreignKeys model, store.Owned row key

def Vetted (schema : Schema M) (store : Store M) (model : M) (row : Row) : Prop :=
  ∀ key ∈ schema.foreignKeys model, ∀ id target, row.cells key.field = .text id →
    (store key.target).find id = some target → target.tenantId = row.tenantId

theorem Isolated.vetted (isolated : Isolated schema store) (member : row ∈ (store model).rows) :
    Vetted schema store model row := by
  intro key known id target held found
  rcases isolated model row member key known with absent | ⟨id', target', held', found', same⟩
  · rw [held] at absent
    cases absent
  · rw [held] at held'
    cases held'
    rw [found] at found'
    cases found'
    exact same

theorem Vetted.owned (vetted : Vetted schema store model row) {key : ForeignKey M}
    (known : key ∈ schema.foreignKeys model) (refers : store.refers row key = true) : store.Owned row key := by
  rcases refers_iff.mp refers with absent | ⟨id, target, held, found⟩
  · exact .inl absent
  · exact .inr ⟨id, target, held, found, vetted key known id target held found⟩

theorem Isolated.unreferenced (isolated : Isolated schema store) (member : row ∈ (store of).rows)
    {key : ForeignKey M} (known : key ∈ schema.foreignKeys of) (missing : (store key.target).find id = none) :
    row.cells key.field ≠ .text id := by
  intro held
  rcases isolated of row member key known with absent | ⟨id', target, held', found, -⟩
  · rw [held] at absent
    cases absent
  · rw [held] at held'
    cases held'
    rw [missing] at found
    cases found

theorem Owned.of_find {key : ForeignKey M} (owned : store.Owned row key)
    (kept : ∀ id target, row.cells key.field = .text id → (store key.target).find id = some target →
      ∃ now, (after key.target).find id = some now ∧ now.tenantId = target.tenantId) : after.Owned row key := by
  rcases owned with absent | ⟨id, target, held, found, same⟩
  · exact .inl absent
  · obtain ⟨now, found', tenant⟩ := kept id target held found
    exact .inr ⟨id, now, held, found', tenant.trans same⟩

section Isolation
variable [DecidableEq M]

theorem vetted_insert (vetted : Vetted schema store model row)
    (inserted : insert schema model row store = some after) : Vetted schema after model row := by
  intro key known id target held found
  rw [find_insert inserted, Option.or_eq_some_iff] at found
  rcases found with earlier | ⟨-, itself⟩
  · exact vetted key known id target held earlier
  · rw [Option.ite_none_right_eq_some, Option.some.injEq] at itself
    rw [← itself.2]

theorem isolated_insert (isolated : Isolated schema store) (vetted : Vetted schema store model row)
    (inserted : insert schema model row store = some after) : Isolated schema after := by
  intro of other member key known
  rcases (mem_insert inserted).mp member with earlier | ⟨rfl, rfl⟩
  · apply (isolated of other earlier key known).of_find
    intro id target held found
    exact ⟨target, by rw [find_insert inserted, found, Option.some_or], rfl⟩
  · have admitted := (insert_eq_some.mp inserted).2.2
    exact (vetted_insert vetted inserted).owned known ((admits_iff.mp admitted).2.1 key known)

theorem find_update_of_some (found : (store model).find row.id = some old) (same : row.tenantId = old.tenantId)
    (updated : update schema model row store = some after) {named : String} {target : Row}
    (held : (store of).find named = some target) :
    ∃ now, (after of).find named = some now ∧ now.tenantId = target.tenantId := by
  rw [find_update updated]
  split
  · next itself =>
    obtain ⟨rfl, rfl⟩ := itself
    rw [found, Option.some.injEq] at held
    exact ⟨row, by rw [found, Option.map_some], by rw [same, held]⟩
  · exact ⟨target, held, rfl⟩

theorem vetted_update (vetted : Vetted schema store model row) (updated : update schema model row store = some after) :
    Vetted schema after model row := by
  intro key known id target held found'
  rw [find_update updated] at found'
  split at found'
  · cases earlier : (store key.target).find id with
    | none =>
      rw [earlier] at found'
      cases found'
    | some target' =>
      rw [earlier, Option.map_some, Option.some.injEq] at found'
      rw [← found']
  · exact vetted key known id target held found'

theorem isolated_update (isolated : Isolated schema store) (found : (store model).find row.id = some old)
    (same : row.tenantId = old.tenantId) (vetted : Vetted schema store model row)
    (updated : update schema model row store = some after) : Isolated schema after := by
  intro of other member key known
  rcases (mem_update updated).mp member with ⟨earlier, -⟩ | ⟨rfl, rfl, -⟩
  · apply (isolated of other earlier key known).of_find
    intro id target held target_found
    exact find_update_of_some found same updated target_found
  · have admitted := (update_eq_some.mp updated).2
    exact (vetted_update vetted updated).owned known ((admits_iff.mp admitted).2.1 key known)

theorem isolated_delete (isolated : Isolated schema store) (deleted : delete schema model id store = some after) :
    Isolated schema after := by
  intro of other member key known
  obtain ⟨row, held, stays, rfl⟩ := (mem_delete deleted).mp member
  have cells := @unlink_cells M _ schema store model of row id key.field
  rcases cells with kept | ⟨cleared, -⟩
  · rcases isolated of row held key known with absent | ⟨named, target, named_held, found, same⟩
    · exact .inl (kept.trans absent)
    · -- the row that the key names stays, or the key would have been cleared
      have survives : doomed schema model id key.target target = false := by
        by_contra goes
        rw [Bool.not_eq_false] at goes
        have lost : loses schema store model id row key = true := loses_iff.mpr ⟨named, target, named_held, found, goes⟩
        cases action : key.onDelete with
        | noAction =>
          have allowed := restricted_eq_false.mp (delete_eq_some.mp deleted).1 of row held stays key known action
          rw [lost] at allowed
          cases allowed
        | cascade =>
          rw [doomed_of_cascade known action lost] at stays
          cases stays
        | setNull =>
          have cleared : (unlink schema store model id of row).cells key.field = .null := by
            simp only [unlink]
            rw [if_pos]
            rw [List.any_eq_true]
            exact ⟨key, known, by simp [action, lost]⟩
          rw [cleared, named_held] at kept
          cases kept
      refine .inr ⟨named, unlink schema store model id key.target target, kept.trans named_held, ?_, same⟩
      rw [find_delete deleted, found, Option.bind_some, survives]
      rfl
  · exact .inl cleared

/-! ### The part of a tenant -/

omit [DecidableEq M] in
theorem find_only : (only tenant store model).find id = ((store model).find id).filter (Row.ownedBy tenant) :=
  Table.find_keep ..

omit [DecidableEq M] in
theorem mem_only : row ∈ (only tenant store model).rows ↔ row ∈ (store model).rows ∧ row.tenantId = tenant := by
  rw [only, Table.mem_keep, Row.ownedBy_iff]

theorem only_set {table : Rows} : only tenant (Function.update store model table) =
    Function.update (only tenant store) model (table.keep (Row.ownedBy tenant)) := by
  funext of
  by_cases same : of = model
  · subst same
    simp only [only, Function.update_self]
  · simp only [only, Function.update_of_ne same]

omit [DecidableEq M] in
theorem admits_only (own : row.tenantId = tenant) (vetted : Vetted schema store model row) :
    admits schema (only tenant store) model row = admits schema store model row := by
  rw [Bool.eq_iff_iff, admits_iff, admits_iff]
  refine and_congr_right fun _ => and_congr ?_ ?_
  · refine forall₂_congr fun key known => ?_
    rw [refers_iff, refers_iff]
    refine or_congr_right (exists₂_congr fun id target => and_congr_right fun held => ?_)
    rw [find_only, Option.filter_eq_some_iff]
    refine and_iff_left_of_imp fun found => ?_
    rw [Row.ownedBy_iff, ← own]
    exact vetted key known id target held found
  · refine forall₂_congr fun columns _ => ?_
    constructor
    · intro apart other member
      by_cases same : other.tenantId = tenant
      · exact apart other (mem_only.mpr ⟨member, same⟩)
      · simp [Row.clashes, own, same]
    · exact fun apart other member => apart other (mem_only.mp member).1

theorem insert_only (own : row.tenantId = tenant) (vetted : Vetted schema store model row)
    (fresh : (store model).find row.id = none) :
    insert schema model row (only tenant store) = (insert schema model row store).map (only tenant) := by
  have fresh' : (only tenant store model).find row.id = none := by rw [find_only, fresh, Option.filter_none]
  have kept : row.ownedBy tenant = true := Row.ownedBy_iff.mpr own
  have tables : only tenant (Function.update store model ((store model).insert row)) =
      Function.update (only tenant store) model (((store model).insert row).keep (Row.ownedBy tenant)) := only_set
  rw [Table.keep_insert fresh kept] at tables
  have same : admits schema (Function.update (only tenant store) model ((only tenant store model).insert row)) model row =
      admits schema (Function.update store model ((store model).insert row)) model row := by
    rw [show only tenant store model = (store model).keep (Row.ownedBy tenant) from rfl, ← tables]
    apply admits_only own
    intro key known id target held found
    by_cases itself : key.target = model
    · rw [itself, Function.update_self, Table.find_insert, Option.or_eq_some_iff] at found
      rcases found with earlier | ⟨-, last⟩
      · exact vetted key known id target held (itself ▸ earlier)
      · rw [Option.ite_none_right_eq_some, Option.some.injEq] at last
        rw [← last.2]
    · rw [Function.update_of_ne itself] at found
      exact vetted key known id target held found
  simp only [insert, fresh, fresh', same, Option.isNone_none, Bool.true_and]
  split
  · exact congrArg some tables.symm
  · rfl

theorem update_only (own : row.tenantId = tenant) (vetted : Vetted schema store model row)
    (found : (store model).find row.id = some old) (owned : old.tenantId = tenant) :
    update schema model row (only tenant store) = (update schema model row store).map (only tenant) := by
  have kept : row.ownedBy tenant = true := Row.ownedBy_iff.mpr own
  have before : ∀ other, (store model).find row.id = some other → other.ownedBy tenant = true := by
    intro other found'
    rw [found, Option.some.injEq] at found'
    rw [← found']
    exact Row.ownedBy_iff.mpr owned
  have tables : only tenant (Function.update store model ((store model).replace row)) =
      Function.update (only tenant store) model (((store model).replace row).keep (Row.ownedBy tenant)) := only_set
  rw [Table.keep_replace kept before] at tables
  have same : admits schema (Function.update (only tenant store) model ((only tenant store model).replace row)) model row =
      admits schema (Function.update store model ((store model).replace row)) model row := by
    rw [show only tenant store model = (store model).keep (Row.ownedBy tenant) from rfl, ← tables]
    apply admits_only own
    intro key known id target held found'
    by_cases itself : key.target = model
    · rw [itself, Function.update_self, Table.find_replace] at found'
      split at found'
      · cases earlier : (store model).find id with
        | none =>
          rw [earlier] at found'
          cases found'
        | some target' =>
          rw [earlier, Option.map_some, Option.some.injEq] at found'
          rw [← found']
      · exact vetted key known id target held (itself ▸ found')
    · rw [Function.update_of_ne itself] at found'
      exact vetted key known id target held found'
  simp only [update, same]
  split
  · exact congrArg some tables.symm
  · rfl

theorem Isolated.doomed_tenant (isolated : Isolated schema store) (found : (store model).find id = some old)
    (member : row ∈ (store of).rows) (goes : doomed schema model id of row = true) : row.tenantId = old.tenantId := by
  rcases doomed_iff.mp goes with ⟨rfl, rfl⟩ | ⟨key, known, -, rfl, held⟩
  · rw [Table.find_of_mem member, Option.some.injEq] at found
    rw [found]
  · exact (isolated.vetted member key known id old held found).symm

theorem Isolated.loses_tenant (isolated : Isolated schema store) (found : (store model).find id = some old)
    (member : row ∈ (store of).rows) {key : ForeignKey M} (known : key ∈ schema.foreignKeys of)
    (lost : loses schema store model id row key = true) : row.tenantId = old.tenantId := by
  obtain ⟨named, target, held, target_found, goes⟩ := loses_iff.mp lost
  rw [← isolated.doomed_tenant found (Table.find_mem target_found) goes]
  exact (isolated.vetted member key known named target held target_found).symm

theorem loses_only (isolated : Isolated schema store) (member : row ∈ (store of).rows) (own : row.tenantId = tenant)
    {key : ForeignKey M} (known : key ∈ schema.foreignKeys of) :
    loses schema (only tenant store) model id row key = loses schema store model id row key := by
  rw [Bool.eq_iff_iff, loses_iff, loses_iff]
  refine exists₂_congr fun named target => and_congr_right fun held => and_congr_left fun _ => ?_
  rw [find_only, Option.filter_eq_some_iff]
  refine and_iff_left_of_imp fun found => ?_
  rw [Row.ownedBy_iff, ← own]
  exact isolated.vetted member key known named target held found

theorem unlink_only (isolated : Isolated schema store) (member : row ∈ (store of).rows) (own : row.tenantId = tenant) :
    unlink schema (only tenant store) model id of row = unlink schema store model id of row := by
  have same : ∀ column, ((schema.foreignKeys of).any fun key =>
        key.field = column && key.onDelete = .setNull && loses schema (only tenant store) model id row key) =
      (schema.foreignKeys of).any fun key =>
        key.field = column && key.onDelete = .setNull && loses schema store model id row key := by
    intro column
    rw [Bool.eq_iff_iff, List.any_eq_true, List.any_eq_true]
    refine exists_congr fun key => and_congr_right fun known => ?_
    rw [loses_only isolated member own known]
  simp only [unlink, same]

theorem unlink_other (isolated : Isolated schema store) (found : (store model).find id = some old)
    (member : row ∈ (store of).rows) (apart : row.tenantId ≠ old.tenantId) :
    unlink schema store model id of row = row := by
  have none_lost : ∀ column, ((schema.foreignKeys of).any fun key =>
      key.field = column && key.onDelete = .setNull && loses schema store model id row key) = false := by
    intro column
    rw [List.any_eq_false]
    intro key known facts
    simp only [Bool.and_eq_true] at facts
    exact apart (isolated.loses_tenant found member known facts.2)
  simp [unlink, none_lost]

theorem restricted_only (isolated : Isolated schema store) (found : (store model).find id = some old)
    (own : old.tenantId = tenant) :
    restricted schema (only tenant store) model id = restricted schema store model id := by
  rw [Bool.eq_iff_iff, ← not_iff_not, Bool.not_eq_true, Bool.not_eq_true, restricted_eq_false, restricted_eq_false]
  refine forall_congr' fun of => ?_
  constructor
  · intro allowed row member stays key known action
    by_cases same : row.tenantId = tenant
    · rw [← loses_only isolated member same known]
      exact allowed row (mem_only.mpr ⟨member, same⟩) stays key known action
    · rw [← Bool.not_eq_true]
      exact fun lost => same ((isolated.loses_tenant found member known lost).trans own)
  · intro allowed row member stays key known action
    obtain ⟨stored, same⟩ := mem_only.mp member
    rw [loses_only isolated stored same known]
    exact allowed row stored stays key known action

theorem delete_only (isolated : Isolated schema store) (found : (store model).find id = some old)
    (own : old.tenantId = tenant) :
    delete schema model id (only tenant store) = (delete schema model id store).map (only tenant) := by
  simp only [delete, restricted_only isolated found own]
  split
  · rfl
  · simp only [Option.map_some, Option.some.injEq]
    funext of
    apply Table.eq_of_rows
    simp only [only, Table.modify, Table.keep, List.filter_map, List.filter_filter]
    have filters : (fun row : Row => !doomed schema model id of row && row.ownedBy tenant) =
        fun row => row.ownedBy tenant && !doomed schema model id of row := by
      funext row
      exact Bool.and_comm ..
    have tenants : Row.ownedBy tenant ∘ unlink schema store model id of = Row.ownedBy tenant := rfl
    rw [filters, tenants]
    apply List.map_congr_left
    intro row member
    simp only [List.mem_filter, Bool.and_eq_true, Row.ownedBy_iff] at member
    exact unlink_only isolated member.1 member.2.1

theorem only_insert_other (apart : row.tenantId ≠ tenant) (inserted : insert schema model row store = some after) :
    only tenant after = only tenant store := by
  obtain ⟨fresh, rfl, -⟩ := insert_eq_some.mp inserted
  rw [only_set, Table.keep_insert_of_neg fresh (decide_eq_false apart)]
  exact Function.update_eq_self ..

theorem only_update_other (found : (store model).find row.id = some old) (apart : row.tenantId ≠ tenant)
    (apart' : old.tenantId ≠ tenant) (updated : update schema model row store = some after) :
    only tenant after = only tenant store := by
  obtain ⟨rfl, -⟩ := update_eq_some.mp updated
  have before : ∀ other, (store model).find row.id = some other → other.ownedBy tenant = false := by
    intro other found'
    rw [found, Option.some.injEq] at found'
    rw [← found']
    exact decide_eq_false apart'
  have dropped : row.ownedBy tenant = false := decide_eq_false apart
  rw [only_set, Table.keep_replace_of_neg dropped before]
  exact Function.update_eq_self ..

theorem only_delete_other (isolated : Isolated schema store) (found : (store model).find id = some old)
    (apart : old.tenantId ≠ tenant) (deleted : delete schema model id store = some after) :
    only tenant after = only tenant store := by
  obtain ⟨-, rfl⟩ := delete_eq_some.mp deleted
  funext of
  apply Table.eq_of_rows
  simp only [only, Table.modify, Table.keep, List.filter_map, List.filter_filter]
  have others : ∀ row ∈ (store of).rows,
      (row.ownedBy tenant && !doomed schema model id of row) = row.ownedBy tenant := by
    intro row member
    by_cases same : row.tenantId = tenant
    · have stays : doomed schema model id of row = false := by
        rw [← Bool.not_eq_true]
        exact fun goes => apart ((isolated.doomed_tenant found member goes).symm.trans same)
      rw [stays, Bool.not_false, Bool.and_true]
    · simp [Row.ownedBy, same]
  have tenants : Row.ownedBy tenant ∘ unlink schema store model id of = Row.ownedBy tenant := rfl
  rw [tenants, List.filter_congr others]
  conv_rhs => rw [← List.map_id (List.filter _ _)]
  apply List.map_congr_left
  intro row member
  have stored := List.mem_filter.mp member
  exact unlink_other isolated found stored.1 fun same => apart (same.symm.trans (Row.ownedBy_iff.mp stored.2))

/-- A statement does to the part of a tenant what it does to the whole, and nothing to the others. -/
structure Confined (schema : Schema M) (tenant : Option String) (step : Store M → Option (Store M))
    (store : Store M) : Prop where
  alone : step (only tenant store) = (step store).map (only tenant)
  isolated : ∀ after, step store = some after → Isolated schema after
  others : ∀ after, step store = some after → ∀ other, other ≠ tenant → only other after = only other store

omit [DecidableEq M] in
theorem confined_some (isolated : Isolated schema store) : Confined schema tenant some store where
  alone := rfl
  isolated after same := by
    rw [Option.some.injEq] at same
    rwa [← same]
  others after same other _ := by
    rw [Option.some.injEq] at same
    rw [← same]

omit [DecidableEq M] in
theorem Confined.bind {step next : Store M → Option (Store M)} (first : Confined schema tenant step store)
    (second : ∀ after, step store = some after → Confined schema tenant next after) :
    Confined schema tenant (fun store => step store >>= next) store where
  alone := by
    rw [first.alone]
    cases done : step store with
    | none => rfl
    | some after => exact (second after done).alone
  isolated last done := by
    obtain ⟨after, done, later⟩ := Option.bind_eq_some_iff.mp done
    exact (second after done).isolated last later
  others last done other apart := by
    obtain ⟨after, done, later⟩ := Option.bind_eq_some_iff.mp done
    rw [(second after done).others last later other apart, first.others after done other apart]

theorem confined_insert (isolated : Isolated schema store) (own : row.tenantId = tenant)
    (vetted : Vetted schema store model row) (fresh : (store model).find row.id = none) :
    Confined schema tenant (insert schema model row) store where
  alone := insert_only own vetted fresh
  isolated _ inserted := isolated_insert isolated vetted inserted
  others _ inserted _ apart := only_insert_other (fun same => apart (same.symm.trans own)) inserted

theorem confined_update (isolated : Isolated schema store) (found : (store model).find row.id = some old)
    (own : row.tenantId = tenant) (owned : old.tenantId = tenant) (vetted : Vetted schema store model row) :
    Confined schema tenant (update schema model row) store where
  alone := update_only own vetted found owned
  isolated _ updated := isolated_update isolated found (own.trans owned.symm) vetted updated
  others _ updated _ apart := only_update_other found (fun same => apart (same.symm.trans own))
    (fun same => apart (same.symm.trans owned)) updated

theorem confined_delete (isolated : Isolated schema store) (found : (store model).find id = some old)
    (own : old.tenantId = tenant) : Confined schema tenant (delete schema model id) store where
  alone := delete_only isolated found own
  isolated _ deleted := isolated_delete isolated deleted
  others _ deleted _ apart := only_delete_other isolated found (fun same => apart (same.symm.trans own)) deleted

end Isolation

end Store

end Relational
